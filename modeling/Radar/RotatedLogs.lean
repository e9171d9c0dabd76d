import Radar.RotatingFileSink

namespace Radar.RotatingFileSink

/-!
# What a rotating log keeps

Whatever calls of the operating system fail, a message is put behind what the
files of a log and its stream hold, and a rotation removes the oldest file and
no other.  If no call fails, the log loses nothing before it is half full, and
no file is larger than the limit but for a single message.
-/

variable {sink : RotatingFileSink} {disk next : Disk} {faults : Faults}
variable {state : State} {msg : Bytes}

/-! ## The first file -/

theorem contents_openTruncate_zero :
    sink.contents (disk.openTruncate (sink.calcFilename 0)) 0 = [] := by
  rw [contents, Disk.openTruncate, Function.update_self]
  rfl

theorem openTruncate_succ (index : Nat) :
    disk.openTruncate (sink.calcFilename 0) (sink.calcFilename (index + 1)) =
      disk (sink.calcFilename (index + 1)) :=
  Function.update_of_ne (sink.calcFilename_ne index.succ_ne_zero) _ _

/-- Emptying a first file that is not there loses nothing. -/
theorem kept_openTruncate
    (isFree : disk (sink.calcFilename 0) = none)
    (places : Nat) :
    sink.kept (disk.openTruncate (sink.calcFilename 0)) places =
      sink.kept disk places := by
  refine kept_congr fun index _ => ?_
  cases index with
  | zero => rw [contents_openTruncate_zero, contents_of_none isFree]
  | succ index => exact contents_congr (openTruncate_succ index)

theorem append_zero
    {file data : Bytes}
    (isFile : disk (sink.calcFilename 0) = some file) :
    disk.append (sink.calcFilename 0) data (sink.calcFilename 0) =
      some (file ++ data) := by
  rw [Disk.append, Function.update_self, isFile]
  rfl

theorem append_succ (data : Bytes) (index : Nat) :
    disk.append (sink.calcFilename 0) data (sink.calcFilename (index + 1)) =
      disk (sink.calcFilename (index + 1)) :=
  Function.update_of_ne (sink.calcFilename_ne index.succ_ne_zero) _ _

/-- What is written to the first file is at the end of the log. -/
theorem kept_append
    {file : Bytes}
    (isFile : disk (sink.calcFilename 0) = some file)
    (data : Bytes)
    (places : Nat) :
    sink.kept (disk.append (sink.calcFilename 0) data) places =
      sink.kept disk places ++ data := by
  induction places with
  | zero =>
      rw [kept, kept, contents, contents, append_zero isFile, isFile]
      rfl
  | succ places inductionHypothesis =>
      rw [kept, kept, inductionHypothesis, contents_congr (append_succ _ _),
        List.append_assoc]

/-- Opening the first file changes none of the contents. -/
theorem contents_openAppend (index : Nat) :
    sink.contents (disk.openAppend (sink.calcFilename 0)) index =
      sink.contents disk index := by
  rw [contents, contents, Disk.openAppend]
  cases index with
  | zero => rw [Function.update_self, Option.getD_some]
  | succ index =>
      rw [Function.update_of_ne (sink.calcFilename_ne index.succ_ne_zero)]

/-! ## Streams -/

/-- An open stream has a file; when it is closed the next message rotates. -/
structure Ready (sink : RotatingFileSink) (state : State) : Prop where
  hasFile :
    state.stream.isSome →
      ∃ file, state.disk (sink.calcFilename 0) = some file
  rotates : state.stream = none → sink.maxSize < state.currentSize

theorem ready_new : sink.Ready (sink.new disk) where
  hasFile _ := ⟨_, Function.update_self _ _ _⟩
  rotates := nofun

theorem stream_close (faults : Faults) (state : State) :
    (sink.close faults state).stream = none := by
  unfold close
  split
  · rfl
  · assumption

theorem close_of_ne
    {name : List Char}
    (other : name ≠ sink.calcFilename 0) :
    (sink.close faults state).disk name = state.disk name := by
  unfold close
  split
  · exact Function.update_of_ne other _ _
  · rfl

/-- `fclose` writes the stream to the file, unless it fails. -/
theorem kept_close (ready : sink.Ready state) (faults : Faults) :
    ∃ written,
      written <+: state.stream.getD [] ∧
        (faults.closed = none → written = state.stream.getD []) ∧
        ∀ places,
          sink.kept (sink.close faults state).disk places =
            sink.kept state.disk places ++ written := by
  unfold close
  cases isStream : state.stream with
  | none =>
      exact
        ⟨[], List.nil_prefix, fun _ => rfl, fun _ => (List.append_nil _).symm⟩
  | some buffer =>
      obtain ⟨file, isFile⟩ := ready.hasFile (by rw [isStream]; rfl)
      refine ⟨_, List.take_prefix _ _, ?_, kept_append isFile _⟩
      intro closes
      rw [closes, Option.getD_none, Option.getD_some, List.take_length]

/-! ## Rotations -/

/-- A rotation fails, or it empties the first file after its loop. -/
theorem rotate_cases (faults : Faults) (state : State) :
    let closed := sink.close faults state
    let moved := sink.rotateFrom faults sink.maxFiles closed.disk
    (∃ what,
        sink.rotate faults state =
          (.error what, { closed with disk := moved.2 })) ∨
      moved.1 = .ok () ∧
        sink.rotate faults state =
          (.ok (),
            { closed with
              stream := some []
              disk := moved.2.openTruncate (sink.calcFilename 0) }) := by
  unfold rotate reopen
  generalize sink.close faults state = closed
  dsimp only
  generalize sink.rotateFrom faults sink.maxFiles closed.disk = moved
  obtain ⟨result, moved⟩ := moved
  cases result with
  | error what => exact .inl ⟨what, rfl⟩
  | ok =>
      dsimp only
      split
      · exact .inl ⟨_, rfl⟩
      · exact .inr ⟨rfl, rfl⟩

/-- A rotation that succeeds moves each file and starts with an empty one. -/
theorem rotate_ok
    {rotated : State}
    (ok : sink.rotate faults state = (.ok (), rotated)) :
    rotated.stream = some [] ∧
      rotated.disk (sink.calcFilename 0) = some [] ∧
      (∀ index < sink.maxFiles,
        rotated.disk (sink.calcFilename (index + 1)) =
          (sink.close faults state).disk (sink.calcFilename index)) ∧
      sink.kept rotated.disk sink.maxFiles =
        sink.recent (sink.close faults state).disk sink.maxFiles := by
  rcases sink.rotate_cases faults state with
    ⟨what, rotated⟩ | ⟨moves, rotated⟩
  · rw [rotated] at ok
    cases ok
  · rw [rotated] at ok
    cases ok
    obtain ⟨places, isFree⟩ := rotateFrom_ok moves
    refine ⟨rfl, Function.update_self _ _ _, fun index small => ?_, ?_⟩
    · dsimp only
      rw [openTruncate_succ]
      exact places index small
    · dsimp only
      cases isPlaces : sink.maxFiles with
      | zero => exact contents_openTruncate_zero
      | succ places =>
          rw [isPlaces] at moves isFree
          rw [kept_openTruncate (isFree places.succ_pos)]
          exact kept_rotateFrom_ok moves

/-- A rotation that fails has removed the oldest file at most. -/
theorem rotate_error
    {what : List Char}
    {rotated : State}
    (failed : sink.rotate faults state = (.error what, rotated)) :
    rotated.stream = none ∧
      (sink.kept rotated.disk sink.maxFiles =
          sink.kept (sink.close faults state).disk sink.maxFiles ∨
        sink.kept rotated.disk sink.maxFiles =
          sink.recent (sink.close faults state).disk sink.maxFiles) := by
  rcases sink.rotate_cases faults state with
    ⟨what, rotated⟩ | ⟨moves, rotated⟩
  · rw [rotated] at failed
    cases failed
    exact ⟨stream_close faults state, kept_rotateFrom⟩
  · rw [rotated] at failed
    cases failed

theorem rotate_of_ne
    {name : List Char}
    (other : ∀ index ≤ sink.maxFiles, name ≠ sink.calcFilename index) :
    (sink.rotate faults state).2.disk name = state.disk name := by
  have first := other 0 (Nat.zero_le _)
  rcases sink.rotate_cases faults state with
    ⟨what, rotated⟩ | ⟨moves, rotated⟩ <;> rw [rotated]
  · exact (rotateFrom_of_ne other).trans (close_of_ne first)
  · exact
      (Function.update_of_ne first _ _).trans
        ((rotateFrom_of_ne other).trans (close_of_ne first))

/-! ## Messages -/

/--
A call has put its message behind what the log held, or it has thrown an
exception: then the log has a part of both, and has lost no byte of a file.
-/
structure Adds
    (sink : RotatingFileSink)
    (files held msg : Bytes)
    (call : Result × State) :
    Prop where
  whole : call.1 = .returned → sink.log call.2 = held ++ msg
  part : sink.log call.2 <+: held ++ msg
  files : files <+: sink.kept call.2.disk sink.maxFiles

/-- A write to an open stream puts the message behind it. -/
theorem write_adds
    (sink : RotatingFileSink)
    (state : State)
    (faults : Faults)
    (msg : Bytes)
    {buffer : Bytes}
    (isStream : state.stream = some buffer)
    {file : Bytes}
    (isFile : state.disk (sink.calcFilename 0) = some file) :
    (sink.write faults msg state).1 ≠ .undefined ∧
      sink.Adds (sink.kept state.disk sink.maxFiles) (sink.log state) msg
        (sink.write faults msg state) ∧
      sink.Ready (sink.write faults msg state).2 := by
  have holds :
      sink.log state = sink.kept state.disk sink.maxFiles ++ buffer := by
    rw [log, isStream, Option.getD_some]
  have hasFile :
      ∀ data, ∃ file,
        state.disk.append (sink.calcFilename 0) data (sink.calcFilename 0) =
          some file :=
    fun _ => ⟨_, append_zero isFile⟩
  unfold write
  rw [isStream, holds]
  cases faults.taken with
  | none =>
      refine ⟨nofun, ?_, ⟨fun _ => hasFile _, nofun⟩⟩
      have all :
          sink.log
              { state with
                stream := some ((buffer ++ msg).drop faults.flushed)
                disk :=
                  state.disk.append (sink.calcFilename 0)
                    ((buffer ++ msg).take faults.flushed) } =
            sink.kept state.disk sink.maxFiles ++ buffer ++ msg := by
        rw [log, Option.getD_some, kept_append isFile, List.append_assoc,
          List.take_append_drop, List.append_assoc]
      refine ⟨fun _ => all, ?_, ?_⟩
      · dsimp only
        rw [all]
      · dsimp only
        rw [kept_append isFile]
        exact List.prefix_append _ _
  | some count =>
      refine ⟨nofun, ⟨nofun, ?_, ?_⟩, ⟨fun _ => hasFile _, nofun⟩⟩
      · dsimp only
        rw [log, Option.getD_some, kept_append isFile, List.append_assoc,
          List.append_assoc, List.prefix_append_right_inj]
        have taken : buffer ++ msg.take count <+: buffer ++ msg :=
          (List.prefix_append_right_inj _).mpr (List.take_prefix _ _)
        split
        · rw [List.append_nil]
          exact (List.take_prefix _ _).trans taken
        · rw [List.take_append_drop]
          exact taken
      · dsimp only
        rw [kept_append isFile]
        exact List.prefix_append _ _

/-- What a call does that rotates the files. -/
theorem sinkIt_full
    (faults : Faults)
    (full : sink.maxSize < state.currentSize + msg.length) :
    let closed := (sink.close faults state).disk
    let after := sink.sinkIt faults msg state
    after.1 ≠ .undefined ∧ sink.Ready after.2 ∧
      (after.1 ≠ .returned ∧
          sink.log after.2 = sink.kept closed sink.maxFiles ∨
        sink.Adds (sink.recent closed sink.maxFiles)
          (sink.recent closed sink.maxFiles) msg after) := by
  intro closed after
  have unfolded : after = sink.sinkIt faults msg state := rfl
  unfold sinkIt at unfolded
  rw [if_pos full] at unfolded
  cases rotated : sink.rotate faults state with
  | mk result middle =>
      rw [rotated] at unfolded
      cases result with
      | error what =>
          obtain ⟨noStream, same⟩ := rotate_error rotated
          rw [unfolded]
          have holds :
              sink.log
                  { middle with
                    currentSize := state.currentSize + msg.length } =
                sink.kept middle.disk sink.maxFiles := by
            rw [log, noStream, Option.getD_none, List.append_nil]
          refine ⟨nofun, ⟨?_, fun _ => full⟩, ?_⟩
          · rw [noStream]
            nofun
          · rcases same with all | fewer
            · exact .inl ⟨nofun, holds.trans all⟩
            · refine .inr ⟨nofun, ?_, ?_⟩
              · dsimp only
                rw [holds, fewer]
                exact List.prefix_append _ _
              · dsimp only
                rw [fewer]
      | ok =>
          obtain ⟨isStream, isFile, -, same⟩ := rotate_ok rotated
          obtain ⟨isDefined, adds, ready⟩ :=
            sink.write_adds { middle with currentSize := msg.length } faults
              msg isStream isFile
          rw [unfolded]
          refine ⟨isDefined, ready, .inr ?_⟩
          have holds :
              sink.log { middle with currentSize := msg.length } =
                sink.recent closed sink.maxFiles := by
            rw [log, isStream, Option.getD_some, List.append_nil, same]
          rw [holds] at adds
          exact { adds with files := same ▸ adds.files }

/-- What a call does that rotates nothing. -/
theorem sinkIt_notFull
    (ready : sink.Ready state)
    (faults : Faults)
    (notFull : state.currentSize + msg.length ≤ sink.maxSize) :
    let after := sink.sinkIt faults msg state
    after.1 ≠ .undefined ∧ sink.Ready after.2 ∧
      sink.Adds (sink.kept state.disk sink.maxFiles) (sink.log state) msg
        after := by
  intro after
  have unfolded : after = sink.sinkIt faults msg state := rfl
  unfold sinkIt at unfolded
  rw [if_neg (Nat.not_lt.mpr notFull)] at unfolded
  cases isStream : state.stream with
  | none =>
      have rotates := ready.rotates isStream
      omega
  | some buffer =>
      obtain ⟨file, isFile⟩ := ready.hasFile (by rw [isStream]; rfl)
      obtain ⟨isDefined, adds, isReady⟩ :=
        sink.write_adds
          { state with currentSize := state.currentSize + msg.length } faults
          msg isStream isFile
      rw [unfolded]
      exact ⟨isDefined, isReady, adds⟩

theorem Ready.sinkIt
    (ready : sink.Ready state)
    (faults : Faults)
    (msg : Bytes) :
    sink.Ready (sink.sinkIt faults msg state).2 := by
  rcases Nat.lt_or_ge sink.maxSize (state.currentSize + msg.length) with
    full | notFull
  · exact (sinkIt_full faults full).2.1
  · exact (sinkIt_notFull ready faults notFull).2.1

theorem Ready.sinkAll
    (ready : sink.Ready state)
    (calls : List (Faults × Bytes)) :
    sink.Ready (sink.sinkAll calls state) := by
  induction calls generalizing state with
  | nil => exact ready
  | cons call calls inductionHypothesis =>
      exact inductionHypothesis (ready.sinkIt _ _)

/-- Other files stay as they are. -/
theorem sinkIt_of_ne
    {name : List Char}
    (other : ∀ index ≤ sink.maxFiles, name ≠ sink.calcFilename index) :
    (sink.sinkIt faults msg state).2.disk name = state.disk name := by
  have written :
      ∀ state : State,
        (sink.write faults msg state).2.disk name = state.disk name := by
    intro state
    unfold write
    split <;> first
      | exact Function.update_of_ne (other 0 (Nat.zero_le _)) _ _
      | rfl
  have same : (sink.rotate faults state).2.disk name = state.disk name :=
    rotate_of_ne other
  unfold sinkIt
  dsimp only
  split
  · split
    next rotated =>
      rw [rotated] at same
      exact same
    next rotated =>
      rw [rotated] at same
      exact (written _).trans same
  · exact written _

/--
After any messages and any failures: within the limit a message is put behind
what the files and the stream hold.  Beyond it the stream is closed, and the
message is put behind all files but the oldest one.  A call that throws an
exception adds a part of its message, or fails before it removes a file, and
bytes that are in no file yet may be lost with `fclose` or `fwrite`.  No call
writes to a closed stream, and files of other names do not change.
-/
theorem log_sinkIt
    (sink : RotatingFileSink)
    (disk : Disk)
    (calls : List (Faults × Bytes))
    (faults : Faults)
    (msg : Bytes) :
    let before := sink.sinkAll calls (sink.new disk)
    let closed := (sink.close faults before).disk
    let after := sink.sinkIt faults msg before
    after.1 ≠ .undefined ∧
      (if before.currentSize + msg.length ≤ sink.maxSize then
          sink.Adds (sink.kept before.disk sink.maxFiles) (sink.log before)
            msg after
        else
          after.1 ≠ .returned ∧
              sink.log after.2 = sink.kept closed sink.maxFiles ∨
            sink.Adds (sink.recent closed sink.maxFiles)
              (sink.recent closed sink.maxFiles) msg after) ∧
      (∃ written,
        written <+: before.stream.getD [] ∧
          (faults.closed = none → written = before.stream.getD []) ∧
          ∀ places,
            sink.kept closed places =
              sink.kept before.disk places ++ written) ∧
      ∀ name, (∀ index ≤ sink.maxFiles, name ≠ sink.calcFilename index) →
        after.2.disk name = before.disk name := by
  intro before closed after
  have ready : sink.Ready before := ready_new.sinkAll calls
  refine ⟨?_, ?_, ?_, fun name other => sinkIt_of_ne other⟩
  · rcases Nat.lt_or_ge sink.maxSize (before.currentSize + msg.length) with
      full | notFull
    · exact (sinkIt_full faults full).1
    · exact (sinkIt_notFull ready faults notFull).1
  · split
    next notFull => exact (sinkIt_notFull ready faults notFull).2.2
    next full => exact (sinkIt_full faults (Nat.lt_of_not_le full)).2.2
  · exact kept_close ready faults

/-! ## No failures -/

theorem rotateFrom_flushed
    (sink : RotatingFileSink)
    (flushed places : Nat)
    (disk : Disk) :
    (sink.rotateFrom { flushed := flushed } places disk).1 = .ok () := by
  induction places generalizing disk with
  | zero => rfl
  | succ place inductionHypothesis =>
      have pass :
          (sink.rotatePass { flushed := flushed } place disk).1 = .ok () := by
        simp only [rotatePass, Bool.false_eq_true, and_false, if_false]
        split <;> split <;> rfl
      rw [rotateFrom]
      generalize sink.rotatePass { flushed := flushed } place disk = passed
        at pass
      obtain ⟨result, moved⟩ := passed
      cases pass
      exact inductionHypothesis moved

theorem rotate_flushed
    (sink : RotatingFileSink)
    (flushed : Nat)
    (state : State) :
    ∃ rotated,
      sink.rotate { flushed := flushed } state = (.ok (), rotated) := by
  have moves :=
    sink.rotateFrom_flushed flushed sink.maxFiles
      (sink.close { flushed := flushed } state).disk
  unfold rotate
  dsimp only
  generalize sink.rotateFrom { flushed := flushed } sink.maxFiles _ = moved
    at moves
  obtain ⟨result, moved⟩ := moved
  cases moves
  exact ⟨_, rfl⟩

/-- Without a failure a closed stream is written as a flushed one. -/
theorem disk_close
    (sink : RotatingFileSink)
    (flushed : Nat)
    {buffer : Bytes}
    (isStream : state.stream = some buffer) :
    (sink.close { flushed := flushed } state).disk =
      (sink.flush state).disk := by
  unfold close flush
  rw [isStream]
  exact
    congrArg (state.disk.append (sink.calcFilename 0)) List.take_length

theorem append_append (name : List Char) (first second : Bytes) :
    (disk.append name first).append name second =
      disk.append name (first ++ second) := by
  unfold Disk.append
  rw [Function.update_self, Function.update_idem, Option.map_map]
  refine congrArg (fun file => Function.update disk name file) ?_
  refine congrArg (fun change => Option.map change (disk name)) ?_
  funext file
  exact List.append_assoc _ _ _

/-- Without a failure the whole message is in the file after a flush. -/
theorem write_flushed
    (sink : RotatingFileSink)
    (state : State)
    (flushed : Nat)
    (msg : Bytes)
    {buffer : Bytes}
    (isStream : state.stream = some buffer) :
    let after := (sink.write { flushed := flushed } msg state).2
    after.stream.isSome ∧
      after.currentSize = state.currentSize ∧
      (sink.flush after).disk =
        (sink.flush state).disk.append (sink.calcFilename 0) msg := by
  unfold write flush
  rw [isStream]
  refine ⟨rfl, rfl, ?_⟩
  dsimp only
  rw [Option.getD_some, Option.getD_some, append_append, append_append,
    List.take_append_drop]

/-- What holds of a flushed log after messages that no call has failed for. -/
structure Filled
    (sink : RotatingFileSink)
    (initial : Disk)
    (msgs : List Bytes)
    (currentSize : Nat)
    (disk : Disk) :
    Prop where
  isOpen :
    ∃ file, disk (sink.calcFilename 0) = some file ∧
      currentSize = file.length
  bounded :
    ∀ index ≤ sink.maxFiles,
      (sink.contents disk index).length ≤ sink.maxSize ∨
        sink.contents disk index ∈ msgs ∨
        ∃ other ≤ sink.maxFiles,
          sink.contents disk index = sink.contents initial other
  /-- After so many rotations neighbours are larger than one file may be. -/
  rotated :
    ∃ rotations,
      (∀ index < rotations, index < sink.maxFiles →
        sink.maxSize <
          (sink.contents disk (index + 1)).length +
            (sink.contents disk index).length) ∧
      (rotations ≤ sink.maxFiles →
        sink.kept disk rotations =
          sink.contents initial 0 ++ msgs.flatten)

theorem filled_new (sink : RotatingFileSink) (disk : Disk) :
    sink.Filled disk [] (sink.new disk).currentSize
      (sink.flush (sink.new disk)).disk := by
  have same :
      (sink.flush (sink.new disk)).disk =
        disk.openAppend (sink.calcFilename 0) := by
    have isFile :
        disk.openAppend (sink.calcFilename 0) (sink.calcFilename 0) =
          some ((disk (sink.calcFilename 0)).getD []) :=
      Function.update_self _ _ _
    refine Function.update_eq_self_iff.mpr ?_
    change Option.map (· ++ []) (disk.openAppend _ _) = disk.openAppend _ _
    rw [isFile, Option.map_some, List.append_nil]
  rw [same]
  refine ⟨⟨_, Function.update_self _ _ _, rfl⟩, ?_, 0, nofun, fun _ => ?_⟩
  · exact
      fun index small => .inr (.inr ⟨index, small, contents_openAppend index⟩)
  · rw [kept, contents_openAppend, List.flatten_nil, List.append_nil]

section

variable {initial : Disk} {msgs : List Bytes} {currentSize : Nat}

theorem contents_append_zero
    {file : Bytes}
    (isFile : disk (sink.calcFilename 0) = some file) :
    sink.contents (disk.append (sink.calcFilename 0) msg) 0 =
      file ++ msg := by
  rw [contents, append_zero isFile, Option.getD_some]

theorem contents_append_succ (index : Nat) :
    sink.contents (disk.append (sink.calcFilename 0) msg) (index + 1) =
      sink.contents disk (index + 1) :=
  contents_congr (append_succ msg index)

/-- A log whose files have all moved on, with a new first file. -/
theorem kept_of_moved
    {places : Nat}
    (moved :
      ∀ index ≤ places,
        sink.contents next (index + 1) = sink.contents disk index) :
    sink.kept next (places + 1) =
      sink.kept disk places ++ sink.contents next 0 := by
  induction places with
  | zero =>
      rw [kept, kept, kept, moved 0 (Nat.le_refl 0)]
  | succ places inductionHypothesis =>
      rw [kept, inductionHypothesis fun index small =>
          moved index (Nat.le_succ_of_le small),
        kept, moved _ (Nat.le_refl _), List.append_assoc]

/-- A message that fits into the first file. -/
theorem Filled.append
    (filled : sink.Filled initial msgs currentSize disk)
    (fits : currentSize + msg.length ≤ sink.maxSize) :
    sink.Filled initial (msgs ++ [msg]) (currentSize + msg.length)
      (disk.append (sink.calcFilename 0) msg) := by
  obtain ⟨file, isFile, size⟩ := filled.isOpen
  obtain ⟨rotations, pairs, whole⟩ := filled.rotated
  have isContents : sink.contents disk 0 = file := by
    rw [contents, isFile, Option.getD_some]
  refine ⟨⟨file ++ msg, append_zero isFile, ?_⟩, ?_, rotations, ?_, ?_⟩
  · rw [List.length_append, ← size]
  · intro index small
    cases index with
    | zero =>
        left
        rwa [contents_append_zero isFile, List.length_append, ← size]
    | succ index =>
        rw [contents_append_succ]
        exact (filled.bounded _ small).imp_right
          (Or.imp_left (List.mem_append_left _))
  · intro index early small
    have pair := pairs index early small
    rw [contents_append_succ]
    cases index with
    | zero =>
        rw [contents_append_zero isFile, List.length_append]
        rw [isContents] at pair
        omega
    | succ index => rwa [contents_append_succ]
  · intro few
    rw [kept_append isFile, whole few, List.flatten_append,
      List.flatten_singleton, List.append_assoc]

/-- A message for which the files move on. -/
theorem Filled.rotate
    (filled : sink.Filled initial msgs currentSize disk)
    (full : sink.maxSize < currentSize + msg.length)
    (isEmpty : next (sink.calcFilename 0) = some [])
    (moves :
      ∀ index < sink.maxFiles,
        next (sink.calcFilename (index + 1)) =
          disk (sink.calcFilename index)) :
    sink.Filled initial (msgs ++ [msg]) msg.length
      (next.append (sink.calcFilename 0) msg) := by
  obtain ⟨file, isFile, size⟩ := filled.isOpen
  obtain ⟨rotations, pairs, whole⟩ := filled.rotated
  have isContents : sink.contents disk 0 = file := by
    rw [contents, isFile, Option.getD_some]
  have first :
      sink.contents (next.append (sink.calcFilename 0) msg) 0 = msg :=
    contents_append_zero isEmpty
  have moved :
      ∀ index < sink.maxFiles,
        sink.contents (next.append (sink.calcFilename 0) msg) (index + 1) =
          sink.contents disk index :=
    fun index small =>
      (contents_append_succ index).trans (contents_congr (moves index small))
  refine ⟨⟨msg, append_zero isEmpty, rfl⟩, ?_, rotations + 1, ?_, ?_⟩
  · intro index small
    cases index with
    | zero =>
        rw [first]
        exact .inr (.inl (List.mem_append_right _ List.mem_cons_self))
    | succ index =>
        rw [moved index small]
        exact (filled.bounded index (Nat.le_of_lt small)).imp_right
          (Or.imp_left (List.mem_append_left _))
  · intro index early small
    rw [moved index small]
    cases index with
    | zero =>
        rwa [first, isContents, ← size]
    | succ index =>
        rw [moved index (Nat.lt_of_succ_lt small)]
        exact pairs index (Nat.lt_of_succ_lt_succ early)
          (Nat.lt_of_succ_lt small)
  · intro few
    rw [kept_of_moved fun index small =>
        moved index (Nat.lt_of_le_of_lt small few),
      first, whole (Nat.le_of_succ_le few), List.flatten_append,
      List.flatten_singleton, List.append_assoc]

theorem Filled.sinkIt
    (filled :
      sink.Filled initial msgs state.currentSize (sink.flush state).disk)
    (isOpen : state.stream.isSome)
    (flushed : Nat)
    (msg : Bytes) :
    let after := (sink.sinkIt { flushed := flushed } msg state).2
    after.stream.isSome ∧
      sink.Filled initial (msgs ++ [msg]) after.currentSize
        (sink.flush after).disk := by
  obtain ⟨buffer, isStream⟩ := Option.isSome_iff_exists.mp isOpen
  unfold RotatingFileSink.sinkIt
  dsimp only
  split
  case isTrue full =>
    obtain ⟨rotated, ok⟩ := sink.rotate_flushed flushed state
    obtain ⟨isEmptyStream, isEmpty, moves, -⟩ := rotate_ok ok
    rw [sink.disk_close flushed isStream] at moves
    have flushedEmpty :
        (sink.flush { rotated with currentSize := msg.length }).disk =
          rotated.disk := by
      refine Function.update_eq_self_iff.mpr ?_
      dsimp only
      rw [isEmptyStream, isEmpty]
      rfl
    obtain ⟨stays, size, disk⟩ :=
      sink.write_flushed { rotated with currentSize := msg.length } flushed
        msg isEmptyStream
    rw [ok]
    dsimp only
    rw [size, disk, flushedEmpty]
    exact ⟨stays, filled.rotate full isEmpty moves⟩
  case isFalse notFull =>
    obtain ⟨stays, size, disk⟩ :=
      sink.write_flushed
        { state with currentSize := state.currentSize + msg.length } flushed
        msg isStream
    rw [size, disk]
    exact ⟨stays, filled.append (Nat.le_of_not_lt notFull)⟩

theorem Filled.sinkAll
    (filled :
      sink.Filled initial msgs state.currentSize (sink.flush state).disk)
    (isOpen : state.stream.isSome)
    (later : List (Nat × Bytes)) :
    let after :=
      sink.sinkAll
        (later.map fun call => ({ flushed := call.1 }, call.2)) state
    after.stream.isSome ∧
      sink.Filled initial (msgs ++ later.map Prod.snd) after.currentSize
        (sink.flush after).disk := by
  induction later generalizing msgs state with
  | nil =>
      refine ⟨isOpen, ?_⟩
      rw [List.map_nil, List.append_nil]
      exact filled
  | cons call later inductionHypothesis =>
      obtain ⟨stays, next⟩ := filled.sinkIt isOpen call.1 call.2
      have last := inductionHypothesis next stays
      rwa [List.append_assoc] at last

/-- Files that exceed the limit two by two hold half of what all may hold. -/
theorem le_length_kept
    {places : Nat}
    (pairs :
      ∀ index < places,
        sink.maxSize <
          (sink.contents disk (index + 1)).length +
            (sink.contents disk index).length) :
    places * (sink.maxSize + 1) + (sink.contents disk places).length ≤
      2 * (sink.kept disk places).length := by
  induction places with
  | zero =>
      rw [kept]
      omega
  | succ places inductionHypothesis =>
      have behind :=
        inductionHypothesis fun index small =>
          pairs index (Nat.lt_succ_of_lt small)
      have pair := pairs places places.lt_succ_self
      rw [kept, List.length_append, Nat.succ_mul]
      omega

theorem kept_suffix_of_le
    {few places : Nat}
    (small : few ≤ places) :
    sink.kept disk few <:+ sink.kept disk places := by
  induction small with
  | refl => exact List.suffix_rfl
  | step _ inductionHypothesis =>
      exact inductionHypothesis.trans (List.suffix_append _ _)

/--
If no call of the operating system fails, however the stream writes: all but
what it still holds is in the files.  When it has been flushed, the files hold
the first file as it was at the start with all messages behind it, or they
hold half of what so many full files do.  A file is larger than the limit only
if it is a single message or has been there from the start.
-/
theorem sinkAll_retains
    (sink : RotatingFileSink)
    (disk : Disk)
    (calls : List (Nat × Bytes)) :
    let before :=
      sink.sinkAll (calls.map fun call => ({ flushed := call.1 }, call.2))
        (sink.new disk)
    let after := (sink.flush before).disk
    let msgs := calls.map Prod.snd
    sink.kept after sink.maxFiles =
        sink.kept before.disk sink.maxFiles ++ before.stream.getD [] ∧
      (sink.contents disk 0 ++ msgs.flatten <:+
          sink.kept after sink.maxFiles ∨
        sink.maxFiles * (sink.maxSize + 1) ≤
          2 * (sink.kept after sink.maxFiles).length) ∧
      ∀ index ≤ sink.maxFiles,
        (sink.contents after index).length ≤ sink.maxSize ∨
          sink.contents after index ∈ msgs ∨
          ∃ other ≤ sink.maxFiles,
            sink.contents after index = sink.contents disk other := by
  intro before after msgs
  obtain ⟨isOpen, filled⟩ := (filled_new sink disk).sinkAll rfl calls
  rw [List.nil_append] at filled
  refine ⟨?_, ?_, filled.bounded⟩
  · have ready : sink.Ready before := ready_new.sinkAll _
    obtain ⟨file, isFile⟩ := ready.hasFile isOpen
    exact kept_append isFile _ _
  · obtain ⟨rotations, pairs, whole⟩ := filled.rotated
    rcases Nat.lt_or_ge sink.maxFiles rotations with many | few
    · right
      refine Nat.le_trans (Nat.le_add_right _ _) (le_length_kept ?_)
      exact fun index small => pairs index (Nat.lt_trans small many) small
    · left
      rw [← whole few]
      exact kept_suffix_of_le few

end

end Radar.RotatingFileSink
