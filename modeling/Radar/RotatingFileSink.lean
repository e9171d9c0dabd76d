import Mathlib.Data.List.Forall2
import Mathlib.Data.List.Infix
import Mathlib.Logic.Function.Basic
import Radar.DecimalText

namespace Radar

/-!
# Log files that rotate

The class `rotating_file_sink` behind the file channel of the logger.  Messages
go to one file until it is full; then the files of the log move on by one
place, and the last of them is removed.  The stream writes to the file when it
likes; when that is, and what the operating system answers to the calls, is an
input.
-/

/-- The contents of a file. -/
abbrev Bytes := List UInt8

/-- The files of a disk by their names. -/
abbrev Disk := List Char → Option Bytes

namespace Disk

def fileExists (disk : Disk) (name : List Char) : Bool :=
  (disk name).isSome

def remove (disk : Disk) (name : List Char) : Disk :=
  Function.update disk name none

def rename (disk : Disk) (src target : List Char) : Disk :=
  Function.update (Function.update disk target (disk src)) src none

/-- Open a file with the mode `ab`. -/
def openAppend (disk : Disk) (name : List Char) : Disk :=
  Function.update disk name (some ((disk name).getD []))

/-- Open a file with the mode `wb`. -/
def openTruncate (disk : Disk) (name : List Char) : Disk :=
  Function.update disk name (some [])

/-- Write to an open file. -/
def append (disk : Disk) (name : List Char) (data : Bytes) : Disk :=
  Function.update disk name ((disk name).map (· ++ data))

end Disk

/-- The members of a sink that do not change. -/
structure RotatingFileSink where
  baseFilename : List Char
  extension : List Char
  maxSize : Nat
  maxFiles : Nat

namespace RotatingFileSink

/-- The member that changes, the stream of the first file, and the disk. -/
structure State where
  currentSize : Nat
  /-- What the stream has not written yet; there is none when it is closed. -/
  stream : Option Bytes
  disk : Disk

/-- Which calls fail, and how much the stream writes. -/
structure Faults where
  removeFails : List Char → Bool := fun _ => false
  renameFails : List Char → Bool := fun _ => false
  openFails : Bool := false
  /-- How many bytes `fclose` has written when it failed. -/
  closed : Option Nat := none
  /-- How many bytes `fwrite` has taken when it failed. -/
  taken : Option Nat := none
  /-- `fwrite` fails and drops what it holds. -/
  drops : Bool := false
  /-- How many bytes of the stream `fwrite` writes. -/
  flushed : Nat := 0

/-- How a call of `log` ends. -/
inductive Result where
  | returned
  | threw (what : List Char)
  /-- It has written to no stream. -/
  | undefined
  deriving DecidableEq, Repr

variable (sink : RotatingFileSink)

/-! ## Names -/

/-- `calc_filename` -/
def calcFilename (index : Nat) : List Char :=
  if index ≠ 0 then
    sink.baseFilename ++ '.' :: (Digits.ofNat index).chars ++
      '.' :: sink.extension
  else
    sink.baseFilename ++ '.' :: sink.extension

/-- Files at different places have different names. -/
theorem calcFilename_injective : Function.Injective sink.calcFilename := by
  have longer :
      ∀ index, index ≠ 0 →
        sink.calcFilename index ≠ sink.calcFilename 0 := by
    intro index notZero same
    have lengths := congrArg List.length same
    simp [calcFilename, notZero] at lengths
    omega
  intro first second same
  by_cases firstZero : first = 0
  · by_contra different
    subst firstZero
    exact longer second (Ne.symm different) same.symm
  · by_cases secondZero : second = 0
    · subst secondZero
      exact absurd same (longer first firstZero)
    · rw [calcFilename, calcFilename, if_pos firstZero, if_pos secondZero,
        List.append_left_inj, List.append_right_inj] at same
      have digits :
          (Digits.ofNat first).value = (Digits.ofNat second).value :=
        congrArg (fun chars => Nat.ofDigitChars 10 chars 0)
          (List.cons.inj same).2
      rwa [Digits.value_ofNat, Digits.value_ofNat] at digits

theorem calcFilename_ne {first second : Nat} (different : first ≠ second) :
    sink.calcFilename first ≠ sink.calcFilename second :=
  sink.calcFilename_injective.ne different

/-! ## The functions -/

/-- A pass of the loop of `_rotate`: the file at a place moves to the next. -/
def rotatePass (faults : Faults) (place : Nat) (disk : Disk) :
    Except (List Char) Unit × Disk :=
  let src := sink.calcFilename place
  let target := sink.calcFilename (place + 1)
  if disk.fileExists target ∧ faults.removeFails target then
    (.error ("rotating_file_sink: failed removing ".toList ++ target), disk)
  else
    let disk := if disk.fileExists target then disk.remove target else disk
    if disk.fileExists src ∧ faults.renameFails src then
      (.error
        ("rotating_file_sink: failed renaming ".toList ++ src ++
          " to ".toList ++ target),
        disk)
    else if disk.fileExists src then
      (.ok (), disk.rename src target)
    else
      (.ok (), disk)

/-- The loop of `_rotate`, with so many files left to move. -/
def rotateFrom (faults : Faults) :
    Nat → Disk → Except (List Char) Unit × Disk
  | 0, disk => (.ok (), disk)
  | place + 1, disk =>
      match sink.rotatePass faults place disk with
      | (.error what, disk) => (.error what, disk)
      | (.ok (), disk) => rotateFrom faults place disk

/-- `file_helper::close` does not look at what `fclose` answers. -/
def close (faults : Faults) (state : State) : State :=
  match state.stream with
  | some buffer =>
      { state with
        stream := none
        disk :=
          state.disk.append (sink.calcFilename 0)
            (buffer.take (faults.closed.getD buffer.length)) }
  | none => state

/-- `file_helper::reopen`, of the first file as an empty one. -/
def reopen (faults : Faults) (state : State) :
    Except (List Char) Unit × State :=
  if faults.openFails then
    (.error
      ("Failed opening file ".toList ++ sink.calcFilename 0 ++
        " for writing".toList),
      state)
  else
    (.ok (),
      { state with
        stream := some []
        disk := state.disk.openTruncate (sink.calcFilename 0) })

/-- `_rotate` -/
def rotate (faults : Faults) (state : State) :
    Except (List Char) Unit × State :=
  let state := sink.close faults state
  match sink.rotateFrom faults sink.maxFiles state.disk with
  | (.error what, disk) => (.error what, { state with disk := disk })
  | (.ok (), disk) => sink.reopen faults { state with disk := disk }

/-- `file_helper::write` -/
def write (faults : Faults) (msg : Bytes) (state : State) : Result × State :=
  match state.stream, faults.taken with
  | some buffer, none =>
      (.returned,
        { state with
          stream := some ((buffer ++ msg).drop faults.flushed)
          disk :=
            state.disk.append (sink.calcFilename 0)
              ((buffer ++ msg).take faults.flushed) })
  | some buffer, some count =>
      (.threw ("Failed writing to file ".toList ++ sink.calcFilename 0),
        { state with
          stream :=
            some
              (if faults.drops then
                []
              else
                (buffer ++ msg.take count).drop faults.flushed)
          disk :=
            state.disk.append (sink.calcFilename 0)
              ((buffer ++ msg.take count).take faults.flushed) })
  | none, _ => (.undefined, state)

/-- `_sink_it` -/
def sinkIt (faults : Faults) (msg : Bytes) (state : State) : Result × State :=
  let currentSize := state.currentSize + msg.length
  if sink.maxSize < currentSize then
    match sink.rotate faults state with
    | (.error what, state) =>
        (.threw what, { state with currentSize := currentSize })
    | (.ok (), state) =>
        sink.write faults msg { state with currentSize := msg.length }
  else
    sink.write faults msg { state with currentSize := currentSize }

/-- `flush`, when nothing fails. -/
def flush (state : State) : State :=
  { state with
    stream := state.stream.map fun _ => []
    disk :=
      state.disk.append (sink.calcFilename 0) (state.stream.getD []) }

/-- The constructor, when the file can be opened. -/
def new (disk : Disk) : State where
  currentSize := ((disk (sink.calcFilename 0)).getD []).length
  stream := some []
  disk := disk.openAppend (sink.calcFilename 0)

/-- The state after messages one after the other. -/
def sinkAll : List (Faults × Bytes) → State → State
  | [], state => state
  | (faults, msg) :: calls, state =>
      sinkAll calls (sink.sinkIt faults msg state).2

/-! ## What the files hold -/

/-- The contents of the file at a place. -/
def contents (disk : Disk) (index : Nat) : Bytes :=
  (disk (sink.calcFilename index)).getD []

/-- What the files up to a place hold, the oldest of it first. -/
def kept (disk : Disk) : Nat → Bytes
  | 0 => sink.contents disk 0
  | index + 1 => sink.contents disk (index + 1) ++ kept disk index

/-- The same without the file at the last place. -/
def recent (disk : Disk) : Nat → Bytes
  | 0 => []
  | index + 1 => sink.kept disk index

/-- What the files of a log and its stream hold. -/
def log (state : State) : Bytes :=
  sink.kept state.disk sink.maxFiles ++ state.stream.getD []

variable {sink} {disk next : Disk} {faults : Faults}

theorem contents_congr
    {index other : Nat}
    (same :
      next (sink.calcFilename index) = disk (sink.calcFilename other)) :
    sink.contents next index = sink.contents disk other :=
  congrArg (fun file => Option.getD file []) same

theorem contents_of_none
    {index : Nat}
    (missing : disk (sink.calcFilename index) = none) :
    sink.contents disk index = [] := by
  rw [contents, missing]
  rfl

theorem kept_congr
    {places : Nat}
    (same :
      ∀ index ≤ places,
        sink.contents next index = sink.contents disk index) :
    sink.kept next places = sink.kept disk places := by
  induction places with
  | zero => exact same 0 (Nat.le_refl 0)
  | succ places inductionHypothesis =>
      rw [kept, kept, same _ (Nat.le_refl _), inductionHypothesis]
      exact fun index small => same index (Nat.le_succ_of_le small)

/-- Without its oldest file a log keeps what is behind it. -/
theorem kept_eq_append
    {places : Nat}
    (missing : sink.contents next places = [])
    (same :
      ∀ index < places,
        sink.contents next index = sink.contents disk index) :
    sink.kept disk places =
      sink.contents disk places ++ sink.kept next places := by
  cases places with
  | zero => rw [kept, kept, missing, List.append_nil]
  | succ places =>
      rw [kept, kept, missing, List.nil_append]
      refine congrArg _ (kept_congr fun index small => ?_).symm
      exact same index (Nat.lt_succ_of_le small)

/-! ## The loop -/

/-- A pass fails before or after it has removed a file, or it moves a file. -/
theorem rotatePass_cases (faults : Faults) (place : Nat) (disk : Disk) :
    (∃ what, sink.rotatePass faults place disk = (.error what, disk)) ∨
      (∃ what, sink.rotatePass faults place disk =
        (.error what, disk.remove (sink.calcFilename (place + 1)))) ∨
      sink.rotatePass faults place disk =
        (.ok (),
          disk.rename (sink.calcFilename place)
            (sink.calcFilename (place + 1))) := by
  have different := sink.calcFilename_ne (Nat.ne_of_lt place.lt_succ_self)
  have removed :
      (if disk.fileExists (sink.calcFilename (place + 1)) then
          disk.remove (sink.calcFilename (place + 1))
        else
          disk) =
        disk.remove (sink.calcFilename (place + 1)) := by
    split
    · rfl
    · rename_i missing
      have isNone := Option.not_isSome_iff_eq_none.mp missing
      exact (Function.update_eq_self_iff.mpr isNone.symm).symm
  unfold rotatePass
  dsimp only
  rw [removed]
  split
  · exact .inl ⟨_, rfl⟩
  · split
    · exact .inr (.inl ⟨_, rfl⟩)
    · refine .inr (.inr ?_)
      have atSrc :
          disk.remove (sink.calcFilename (place + 1))
              (sink.calcFilename place) =
            disk (sink.calcFilename place) :=
        Function.update_of_ne different _ _
      split
      · refine congrArg (Prod.mk _) ?_
        rw [Disk.rename, atSrc, Disk.remove, Function.update_idem]
        rfl
      · rename_i missing
        have isNone := Option.not_isSome_iff_eq_none.mp missing
        refine congrArg (Prod.mk _) ?_
        rw [Disk.rename, ← atSrc, isNone]
        exact (Function.update_eq_self_iff.mpr isNone.symm).symm

section

variable {place places : Nat} {name : List Char}

theorem rename_of_ne
    (notSrc : name ≠ sink.calcFilename place)
    (notTarget : name ≠ sink.calcFilename (place + 1)) :
    disk.rename (sink.calcFilename place) (sink.calcFilename (place + 1))
        name =
      disk name := by
  rw [Disk.rename, Function.update_of_ne notSrc,
    Function.update_of_ne notTarget]

theorem rename_src (src target : List Char) :
    disk.rename src target src = none :=
  Function.update_self _ _ _

theorem rename_target :
    disk.rename (sink.calcFilename place) (sink.calcFilename (place + 1))
        (sink.calcFilename (place + 1)) =
      disk (sink.calcFilename place) := by
  rw [Disk.rename, Function.update_of_ne
    (sink.calcFilename_ne place.succ_ne_self), Function.update_self]

/-- Other files stay as they are. -/
theorem rotateFrom_of_ne
    (other : ∀ index ≤ places, name ≠ sink.calcFilename index) :
    (sink.rotateFrom faults places disk).2 name = disk name := by
  induction places generalizing disk with
  | zero => rfl
  | succ places inductionHypothesis =>
      have notTarget := other (places + 1) (Nat.le_refl _)
      have notSrc := other places (Nat.le_succ _)
      rcases sink.rotatePass_cases faults places disk with
        ⟨what, pass⟩ | ⟨what, pass⟩ | pass <;> rw [rotateFrom, pass]
      · exact Function.update_of_ne notTarget _ _
      · have same :
            disk.rename (sink.calcFilename places)
                (sink.calcFilename (places + 1)) name =
              disk name :=
          rename_of_ne notSrc notTarget
        rw [← same]
        exact inductionHypothesis fun index small =>
          other index (Nat.le_succ_of_le small)

theorem rotateFrom_behind {index : Nat} (behind : places < index) :
    (sink.rotateFrom faults places disk).2 (sink.calcFilename index) =
      disk (sink.calcFilename index) :=
  rotateFrom_of_ne fun _ small =>
    sink.calcFilename_ne (Nat.ne_of_gt (Nat.lt_of_le_of_lt small behind))

/-- A file that moves takes its bytes along, if the loop loses none. -/
theorem kept_rotateFrom_rename
    (losesNone :
      ∀ disk : Disk, disk (sink.calcFilename places) = none →
        sink.kept (sink.rotateFrom faults places disk).2 places =
          sink.kept disk places) :
    sink.kept
        (sink.rotateFrom faults places
          (disk.rename (sink.calcFilename places)
            (sink.calcFilename (places + 1)))).2 (places + 1) =
      sink.kept disk places := by
  let moved :=
    disk.rename (sink.calcFilename places) (sink.calcFilename (places + 1))
  have noSrc : moved (sink.calcFilename places) = none := rename_src _ _
  have isLast :
      sink.contents (sink.rotateFrom faults places moved).2 (places + 1) =
        sink.contents disk places :=
    contents_congr
      ((rotateFrom_behind places.lt_succ_self).trans rename_target)
  have before :
      ∀ index < places,
        sink.contents moved index = sink.contents disk index :=
    fun index small =>
      contents_congr
        (rename_of_ne (sink.calcFilename_ne (Nat.ne_of_lt small))
          (sink.calcFilename_ne (Nat.ne_of_lt (Nat.lt_succ_of_lt small))))
  calc
    sink.kept (sink.rotateFrom faults places moved).2 (places + 1) =
        sink.contents disk places ++ sink.kept moved places := by
      rw [kept, isLast, losesNone moved noSrc]
    _ = sink.kept disk places :=
      (kept_eq_append (contents_of_none noSrc) before).symm

/-- If there is no file at the last place, then none of the bytes is lost. -/
theorem kept_rotateFrom_of_none
    (missing : disk (sink.calcFilename places) = none) :
    sink.kept (sink.rotateFrom faults places disk).2 places =
      sink.kept disk places := by
  induction places generalizing disk with
  | zero => rfl
  | succ places inductionHypothesis =>
      rcases sink.rotatePass_cases faults places disk with
        ⟨what, pass⟩ | ⟨what, pass⟩ | pass <;> rw [rotateFrom, pass]
      · have same : disk.remove (sink.calcFilename (places + 1)) = disk :=
          Function.update_eq_self_iff.mpr missing.symm
        rw [same]
      · refine
          (kept_rotateFrom_rename fun _ => inductionHypothesis).trans ?_
        rw [kept, contents_of_none missing, List.nil_append]

/-- The loop removes the file at the last place, or does nothing. -/
theorem kept_rotateFrom :
    sink.kept (sink.rotateFrom faults places disk).2 places =
        sink.kept disk places ∨
      sink.kept (sink.rotateFrom faults places disk).2 places =
        sink.recent disk places := by
  cases places with
  | zero => exact .inl rfl
  | succ places =>
      rcases sink.rotatePass_cases faults places disk with
        ⟨what, pass⟩ | ⟨what, pass⟩ | pass <;> rw [rotateFrom, pass]
      · exact .inl rfl
      · right
        have missing :
            disk.remove (sink.calcFilename (places + 1))
                (sink.calcFilename (places + 1)) = none :=
          Function.update_self _ _ _
        rw [kept, contents_of_none missing, List.nil_append]
        refine kept_congr fun index small => contents_congr ?_
        exact
          Function.update_of_ne
            (sink.calcFilename_ne (Nat.ne_of_lt (Nat.lt_succ_of_le small)))
            _ _
      · exact
          .inr (kept_rotateFrom_rename fun _ => kept_rotateFrom_of_none)

/-- A loop that goes through removes the file at the last place. -/
theorem kept_rotateFrom_ok
    (ok : (sink.rotateFrom faults (places + 1) disk).1 = .ok ()) :
    sink.kept (sink.rotateFrom faults (places + 1) disk).2 (places + 1) =
      sink.kept disk places := by
  rcases sink.rotatePass_cases faults places disk with
    ⟨what, pass⟩ | ⟨what, pass⟩ | pass <;> rw [rotateFrom, pass] at ok ⊢
  · cases ok
  · cases ok
  · exact kept_rotateFrom_rename fun _ => kept_rotateFrom_of_none

/-- After the loop each file is where the file before it was. -/
theorem rotateFrom_ok
    (ok : (sink.rotateFrom faults places disk).1 = .ok ()) :
    (∀ index < places,
        (sink.rotateFrom faults places disk).2
            (sink.calcFilename (index + 1)) =
          disk (sink.calcFilename index)) ∧
      (0 < places →
        (sink.rotateFrom faults places disk).2 (sink.calcFilename 0) =
          none) := by
  induction places generalizing disk with
  | zero => exact ⟨nofun, nofun⟩
  | succ places inductionHypothesis =>
      rcases sink.rotatePass_cases faults places disk with
        ⟨what, pass⟩ | ⟨what, pass⟩ | pass <;>
        rw [rotateFrom, pass] at ok ⊢
      · cases ok
      · cases ok
      · dsimp only at ok ⊢
        obtain ⟨moves, isFree⟩ := inductionHypothesis ok
        constructor
        · intro index small
          rcases Nat.lt_succ_iff_lt_or_eq.mp small with before | rfl
          · rw [moves index before]
            exact
              rename_of_ne (sink.calcFilename_ne (Nat.ne_of_lt before))
                (sink.calcFilename_ne (Nat.ne_of_lt small))
          · rw [rotateFrom_behind index.lt_succ_self]
            exact rename_target
        · intro _
          rcases Nat.eq_zero_or_pos places with rfl | positive
          · exact rename_src _ _
          · exact isFree positive

end

end RotatingFileSink

end Radar
