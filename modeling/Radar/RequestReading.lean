import Mathlib.Data.List.Induction
import Radar.LineFraming
import Radar.ProcessRequest
import Radar.RequestHandling

namespace Radar.Server

/-!
# Reading the lines of a connection

`start_read` waits for a line in the read buffer, and `on_read` takes it from
there and starts the next read.  The texts that the parser is given are the
lines of the stream, however the stream is cut, as long as no line ends the
program and no line has a NUL in it, which ends the text for the parser.
-/

open Client (Failure cString)
open CatalogTle (Keo)
open LineFraming (records rest firstLength)

/-! ## Reading -/

/--
The read buffer of a connection, the texts that the parser has been given, and
whether a read is started.
-/
structure Reading where
  readBuffer : List Char
  parsed : List (List Char)
  started : Bool
  deriving DecidableEq

namespace Reading

/-- A connection when it is accepted. -/
def new : Reading where
  readBuffer := []
  parsed := []
  started := true

section

variable {Elements : Type} (parse : List Char → Option Json)
variable (ephemeris : Ephemeris Elements) (satelliteList : List (Keo Elements))

/-- Is the message of a request defined? -/
def processes (request : Request) : Bool :=
  decide (satelliteList.length < 2147483648) &&
    !(inSector ephemeris satelliteList request).isEmpty

/--
Does `on_read` start the next read after a line?  It does not get there if the
line ends the program or the message of its request is undefined.
-/
def startsRead (res : List Char) : Bool :=
  match onLine parse res with
  | .error _ => false
  | .ok .failed => true
  | .ok (.request request) => processes ephemeris satelliteList request

/-- `on_read` with the length of a line -/
def onRead (reading : Reading) (size : Nat) : Reading :=
  let res := reading.readBuffer.take size
  { readBuffer := reading.readBuffer.drop size
    parsed := reading.parsed ++ [cString res]
    started := startsRead parse ephemeris satelliteList res }

/-- A read that is started completes as long as a line is in the buffer. -/
def complete : Nat → Reading → Reading
  | 0, reading => reading
  | fuel + 1, reading =>
      if reading.started then
        match firstLength '\n' reading.readBuffer with
        | some size =>
            complete fuel (onRead parse ephemeris satelliteList reading size)
        | none => reading
      else
        reading

/-- A piece of the stream arrives. -/
def receive (reading : Reading) (piece : List Char) : Reading :=
  if reading.started then
    let readBuffer := reading.readBuffer ++ piece
    complete parse ephemeris satelliteList readBuffer.length
      { reading with readBuffer }
  else
    reading

/-- The pieces of a stream arrive one after the other. -/
def receiveAll (pieces : List (List Char)) : Reading :=
  pieces.foldl (receive parse ephemeris satelliteList) new

end

/-! ## Lines that end the program -/

section

variable {Elements : Type} {parse : List Char → Option Json}
variable {ephemeris : Ephemeris Elements} {satelliteList : List (Keo Elements)}

/-- The message of a request is defined in every order of the threads. -/
theorem processes_eq_true_iff (request : Request) :
    processes ephemeris satelliteList request = true ↔
      ¬ ProcessRequest ephemeris satelliteList request none := by
  rw [not_processRequest_none_iff, processes, Bool.and_eq_true,
    decide_eq_true_eq, Bool.not_eq_true', List.isEmpty_eq_false_iff, and_comm]

variable (parse ephemeris satelliteList) in
/--
The line is no request whose first number that is not given is missing, and if
it is a request, then its message is defined.
-/
def KeepsReading (res : List Char) : Prop :=
  NoNumberMissingFirst parse res ∧
    ∀ root request, parse (cString res) = some root →
      root.isObject = true → getRequest root = .ok (some request) →
        ¬ ProcessRequest ephemeris satelliteList request none

theorem keepsReading_of_noObject
    {res : List Char}
    (noObject :
      ∀ root, parse (cString res) = some root →
        root.isObject = false) :
    KeepsReading parse ephemeris satelliteList res := by
  constructor
  · intro root parsed isObject
    rw [noObject root parsed] at isObject
    cases isObject
  · intro root request parsed isObject
    rw [noObject root parsed] at isObject
    cases isObject

theorem keepsReading_iff_of_object
    {res : List Char}
    {root : Json}
    (parsed : parse (cString res) = some root)
    (isObject : root.isObject = true) :
    KeepsReading parse ephemeris satelliteList res ↔
      getRequest root ≠ .error .aborted ∧
        ∀ request, getRequest root = .ok (some request) →
          ¬ ProcessRequest ephemeris satelliteList request none := by
  unfold KeepsReading NoNumberMissingFirst
  rw [Ne, getRequest_aborted_iff isObject, not_and, parsed]
  constructor
  · rintro ⟨noneMissing, defined⟩
    exact ⟨noneMissing root rfl isObject,
      fun request => defined root request rfl isObject⟩
  · rintro ⟨noneMissing, defined⟩
    refine ⟨?_, ?_⟩
    · rintro other ⟨⟩ -
      exact noneMissing
    · rintro other request ⟨⟩ -
      exact defined request

/-- `on_read` starts the next read exactly after such a line. -/
theorem startsRead_eq_true_iff (res : List Char) :
    startsRead parse ephemeris satelliteList res = true ↔
      KeepsReading parse ephemeris satelliteList res := by
  unfold startsRead
  rw [onLine]
  cases parsed : parse (cString res) with
  | none =>
      refine iff_of_true rfl (keepsReading_of_noObject fun root found => ?_)
      rw [parsed] at found
      cases found
  | some root =>
      dsimp only
      cases isObject : root.isObject with
      | false =>
          refine iff_of_true rfl
            (keepsReading_of_noObject fun other found => ?_)
          rw [parsed] at found
          cases found
          exact isObject
      | true =>
          rw [keepsReading_iff_of_object parsed isObject, if_pos rfl]
          cases read : getRequest root with
          | error failure => cases failure <;> simp
          | ok found =>
              cases found with
              | none => simp
              | some request => simp [processes_eq_true_iff]

end

/-! ## The lines that are read -/

/-- The lines up to the first one after which no read is started. -/
def served (startsRead : List Char → Bool) :
    List (List Char) → List (List Char)
  | [] => []
  | line :: lines =>
      if startsRead line then line :: served startsRead lines else [line]

section

variable {goesOn : List Char → Bool}

theorem served_of_all
    {lines : List (List Char)}
    (all : lines.all goesOn = true) :
    served goesOn lines = lines := by
  induction lines with
  | nil => rfl
  | cons line lines inductionHypothesis =>
      rw [List.all_cons, Bool.and_eq_true] at all
      rw [served, if_pos all.1, inductionHypothesis all.2]

/-- Lines that come later do not matter unless all lines before go on. -/
theorem served_append (lines later : List (List Char)) :
    served goesOn (lines ++ later) =
      if lines.all goesOn then
        lines ++ served goesOn later
      else
        served goesOn lines := by
  induction lines with
  | nil => rfl
  | cons line lines inductionHypothesis =>
      rw [List.cons_append, served, inductionHypothesis, List.all_cons, served]
      cases goesOn line with
      | true => cases lines.all goesOn <;> rfl
      | false => rfl

/-- The lines that are served come first. -/
theorem served_isInitial (lines : List (List Char)) :
    served goesOn lines <+: lines := by
  induction lines with
  | nil => exact List.prefix_rfl
  | cons line lines inductionHypothesis =>
      rw [served]
      cases goesOn line with
      | true =>
          exact (List.prefix_cons_inj line).mpr inductionHypothesis
      | false => exact ⟨lines, rfl⟩

/-- All lines are served exactly if all but the last one go on. -/
theorem served_eq_iff
    (goesOn : List Char → Bool)
    (lines : List (List Char)) :
    served goesOn lines = lines ↔
      ∀ line ∈ lines.dropLast, goesOn line = true := by
  induction lines with
  | nil => simp [served]
  | cons line lines inductionHypothesis =>
      cases lines with
      | nil =>
          rw [served]
          cases goesOn line <;> simp [served]
      | cons next lines =>
          rw [served, List.dropLast_cons_cons, List.forall_mem_cons,
            ← inductionHypothesis]
          cases goesOn line <;> simp

end

section

variable {Elements : Type} {parse : List Char → Option Json}
variable {ephemeris : Ephemeris Elements} {satelliteList : List (Keo Elements)}

variable (parse ephemeris satelliteList)

/-- No read completes when none is started. -/
theorem complete_stopped
    (fuel : Nat)
    (reading : Reading)
    (stopped : reading.started = false) :
    complete parse ephemeris satelliteList fuel reading = reading := by
  cases fuel with
  | zero => rfl
  | succ fuel => rw [complete, stopped, if_neg Bool.false_ne_true]

/--
What completing a read does: the lines of the buffer are served, and what is
behind them stays in the buffer.
-/
theorem complete_started
    (fuel : Nat)
    (reading : Reading)
    (started : reading.started = true)
    (enough : reading.readBuffer.length ≤ fuel) :
    let goesOn := startsRead parse ephemeris satelliteList
    let lines := records '\n' reading.readBuffer
    let after := complete parse ephemeris satelliteList fuel reading
    after.parsed = reading.parsed ++ (served goesOn lines).map cString ∧
      after.started = lines.all goesOn ∧
        (served goesOn lines).flatten ++ after.readBuffer =
          reading.readBuffer := by
  induction fuel generalizing reading with
  | zero =>
      have empty : reading.readBuffer = [] :=
        List.eq_nil_of_length_eq_zero (Nat.le_zero.mp enough)
      rw [empty]
      simp [complete, records, LineFraming.split, served, started, empty]
  | succ fuel inductionHypothesis =>
      rw [complete, if_pos started]
      cases found : firstLength '\n' reading.readBuffer with
      | none =>
          rw [LineFraming.records_of_notMem
            (LineFraming.notMem_of_firstLength found)]
          simp [served, started]
      | some size =>
          obtain ⟨lines, -, positive, fits⟩ :=
            LineFraming.records_of_firstLength found
          dsimp only
          rw [lines, served, List.all_cons]
          have whole := List.take_append_drop size reading.readBuffer
          cases goes : startsRead parse ephemeris satelliteList
              (reading.readBuffer.take size) with
          | true =>
              have shorter :
                  (reading.readBuffer.drop size).length ≤ fuel := by
                rw [List.length_drop]
                omega
              obtain ⟨parsed, later, kept⟩ :=
                inductionHypothesis
                  (onRead parse ephemeris satelliteList reading size)
                  goes shorter
              rw [parsed, later]
              refine ⟨?_, rfl, ?_⟩
              · simp [onRead]
              · rw [if_pos rfl, List.flatten_cons, List.append_assoc]
                exact (congrArg (_ ++ ·) kept).trans whole
          | false =>
              rw [complete_stopped parse ephemeris satelliteList fuel
                (onRead parse ephemeris satelliteList reading size) goes]
              refine ⟨?_, goes, ?_⟩
              · simp [onRead]
              · rw [if_neg Bool.false_ne_true, List.flatten_singleton]
                exact whole

/-- A connection after a stream has arrived in pieces. -/
structure Tracks (stream : List Char) (reading : Reading) : Prop where
  parsed :
    reading.parsed =
      (served (startsRead parse ephemeris satelliteList)
        (records '\n' stream)).map cString
  started :
    reading.started =
      (records '\n' stream).all (startsRead parse ephemeris satelliteList)
  buffer : reading.started = true → reading.readBuffer = rest '\n' stream
  taken :
    (served (startsRead parse ephemeris satelliteList)
        (records '\n' stream)).flatten ++ reading.readBuffer <+: stream

theorem tracks_new : Tracks parse ephemeris satelliteList [] new where
  parsed := rfl
  started := rfl
  buffer := fun _ => rfl
  taken := List.prefix_rfl

variable {parse ephemeris satelliteList} in
/-- One more piece. -/
theorem Tracks.receive
    {stream : List Char}
    {reading : Reading}
    (tracks : Tracks parse ephemeris satelliteList stream reading)
    (piece : List Char) :
    Tracks parse ephemeris satelliteList (stream ++ piece)
      (receive parse ephemeris satelliteList reading piece) := by
  obtain ⟨lines, unfinished⟩ :=
    LineFraming.records_append '\n' stream piece
  have before := tracks.started
  cases started : reading.started with
  | false =>
      rw [started] at before
      rw [Reading.receive, started, if_neg Bool.false_ne_true]
      refine ⟨?_, ?_, ?_, ?_⟩
      · rw [tracks.parsed, lines, served_append, ← before,
          if_neg Bool.false_ne_true]
      · rw [lines, List.all_append, ← before, started, Bool.false_and]
      · rw [started]
        exact fun goes => absurd goes Bool.false_ne_true
      · rw [lines, served_append, ← before, if_neg Bool.false_ne_true]
        exact tracks.taken.trans (List.prefix_append stream piece)
  | true =>
      rw [started] at before
      rw [Reading.receive, started, if_pos rfl]
      have buffer := tracks.buffer started
      obtain ⟨parsed, later, kept⟩ :=
        complete_started parse ephemeris satelliteList
          (reading.readBuffer ++ piece).length
          { reading with readBuffer := reading.readBuffer ++ piece }
          started le_rfl
      dsimp only at parsed later kept ⊢
      rw [buffer, started] at parsed later kept
      rw [buffer]
      refine ⟨?_, ?_, fun goes => ?_, ?_⟩
      · rw [parsed, tracks.parsed, lines, served_append, ← before, if_pos rfl,
          served_of_all before.symm, List.map_append]
      · rw [later, lines, List.all_append, ← before, Bool.true_and]
      · rw [later] at goes
        rw [served_of_all goes] at kept
        rw [unfinished]
        exact
          List.append_cancel_left
            (kept.trans (LineFraming.flatten_records_append_rest '\n' _).symm)
      · refine ⟨[], ?_⟩
        rw [List.append_nil, lines, served_append, ← before, if_pos rfl,
          List.flatten_append, List.append_assoc, kept, ← List.append_assoc,
          LineFraming.flatten_records_append_rest]

/-- Any pieces. -/
theorem tracks_receiveAll (pieces : List (List Char)) :
    Tracks parse ephemeris satelliteList pieces.flatten
      (receiveAll parse ephemeris satelliteList pieces) := by
  induction pieces using List.reverseRecOn with
  | nil => exact tracks_new parse ephemeris satelliteList
  | append_singleton pieces piece inductionHypothesis =>
      rw [receiveAll, List.foldl_append, List.flatten_append,
        List.flatten_singleton]
      exact inductionHypothesis.receive piece

/-! ## All streams -/

/-- The lines of a stream with something behind them. -/
def followed (stream : List Char) : List (List Char) :=
  if rest '\n' stream = [] then
    (records '\n' stream).dropLast
  else
    records '\n' stream

/--
In whatever pieces the stream arrives, the parser is given its lines, and what
is behind them is in the read buffer.
-/
def ReadsLines (stream : List Char) : Prop :=
  ∀ pieces : List (List Char), pieces.flatten = stream →
    (receiveAll parse ephemeris satelliteList pieces).parsed =
        records '\n' stream ∧
      (receiveAll parse ephemeris satelliteList pieces).readBuffer =
        rest '\n' stream

variable {parse ephemeris satelliteList}

/-- Lines without a NUL are what the parser is given. -/
theorem map_cString_eq_iff (lines : List (List Char)) :
    lines.map cString = lines ↔ ∀ line ∈ lines, Json.NulFree line := by
  conv_lhs => rhs; rw [← List.map_id lines]
  rw [List.map_inj_left]
  refine forall₂_congr fun line _ => ⟨fun same => ?_, fun nulFree => ?_⟩
  · rw [← show cString line = line from same]
    exact Client.nulFree_cString line
  · exact Client.cString_of_nulFree nulFree

/-- All lines but the last one have something behind them. -/
theorem mem_followed_of_mem_dropLast
    {stream line : List Char}
    (member : line ∈ (records '\n' stream).dropLast) :
    line ∈ followed stream := by
  unfold followed
  split_ifs
  · exact member
  · exact List.dropLast_subset _ member

/-- What arrives after the last read is not in the buffer. -/
theorem readBuffer_of_stops
    {stream : List Char}
    (all :
      served (startsRead parse ephemeris satelliteList)
        (records '\n' stream) = records '\n' stream)
    (stops :
      (records '\n' stream).all
        (startsRead parse ephemeris satelliteList) = false) :
    (receiveAll parse ephemeris satelliteList
      [(records '\n' stream).flatten, rest '\n' stream]).readBuffer = [] := by
  have tracks :=
    tracks_receiveAll parse ephemeris satelliteList
      [(records '\n' stream).flatten]
  have stopped := tracks.started
  have taken := tracks.taken
  rw [List.flatten_singleton, LineFraming.records_flatten_records] at stopped
  rw [List.flatten_singleton, LineFraming.records_flatten_records, all]
    at taken
  rw [stops] at stopped
  have ignored :
      receiveAll parse ephemeris satelliteList
          [(records '\n' stream).flatten, rest '\n' stream] =
        receiveAll parse ephemeris satelliteList
          [(records '\n' stream).flatten] := by
    change
      receive parse ephemeris satelliteList
          (receiveAll parse ephemeris satelliteList
            [(records '\n' stream).flatten])
          (rest '\n' stream) =
        _
    rw [receive, stopped, if_neg Bool.false_ne_true]
  rw [ignored]
  exact
    List.append_right_eq_self.mp
      (taken.eq_of_length_le (by rw [List.length_append]; omega))

theorem ReadsLines.condition
    {stream : List Char}
    (reads : ReadsLines parse ephemeris satelliteList stream) :
    (∀ line ∈ records '\n' stream, Json.NulFree line) ∧
      ∀ line ∈ followed stream,
        startsRead parse ephemeris satelliteList line = true := by
  have whole := reads [stream] (List.flatten_singleton)
  have tracks :=
    tracks_receiveAll parse ephemeris satelliteList [stream]
  rw [List.flatten_singleton] at tracks
  have same := tracks.parsed.symm.trans whole.1
  have all :
      served (startsRead parse ephemeris satelliteList)
        (records '\n' stream) = records '\n' stream := by
    refine (served_isInitial _).eq_of_length ?_
    rw [← List.length_map (f := cString), same]
  rw [all, map_cString_eq_iff] at same
  refine ⟨same, ?_⟩
  rw [followed]
  split_ifs with nothing
  · exact (served_eq_iff _ _).mp all
  · rw [← List.all_eq_true]
    by_contra stops
    have lost :=
      readBuffer_of_stops all (Bool.eq_false_iff.mpr stops)
    rw [(reads _ (by simpa using
      LineFraming.flatten_records_append_rest '\n' stream)).2] at lost
    exact nothing lost

/--
The parser is given the lines of a stream exactly if no line has a NUL in it
and every line with something behind it keeps the connection reading.
-/
theorem readsLines_iff (stream : List Char) :
    ReadsLines parse ephemeris satelliteList stream ↔
      (∀ line ∈ records '\n' stream, Json.NulFree line) ∧
        ∀ line ∈ followed stream,
          KeepsReading parse ephemeris satelliteList line := by
  simp only [← startsRead_eq_true_iff]
  refine ⟨ReadsLines.condition, ?_⟩
  rintro ⟨nulFree, goOn⟩ pieces rfl
  have tracks :=
    tracks_receiveAll parse ephemeris satelliteList pieces
  have all :=
    (served_eq_iff (startsRead parse ephemeris satelliteList) _).mpr
      fun line member => goOn line (mem_followed_of_mem_dropLast member)
  refine ⟨?_, ?_⟩
  · rw [tracks.parsed, all, (map_cString_eq_iff _).mpr nulFree]
  · cases started :
        (receiveAll parse ephemeris satelliteList pieces).started with
    | true => exact tracks.buffer started
    | false =>
        have nothing : rest '\n' pieces.flatten = [] := by
          by_contra something
          rw [followed, if_neg something, ← List.all_eq_true,
            ← tracks.started, started] at goOn
          cases goOn
        have taken := tracks.taken
        rw [all] at taken
        conv at taken =>
          rhs
          rw [← LineFraming.flatten_records_append_rest '\n'
            pieces.flatten, nothing]
        rw [nothing]
        exact List.prefix_nil.mp ((List.prefix_append_right_inj _).mp taken)

end

/-- Of two requests without a number only the first one reaches the parser. -/
theorem bareRequest_twice_not_readsLines :
    ¬ ∀ (parser : Json.Parser) (ephemeris : Ephemeris Unit)
        (satelliteList : List (Keo Unit)) (stream : List Char),
      ReadsLines parser.parse ephemeris satelliteList stream := by
  intro claim
  have condition :=
    (claim Json.Parser.recursiveDescent emptySky []
      (bareRequest ++ bareRequest)).condition.2 bareRequest (by decide +kernel)
  have stops :
      startsRead Json.Parser.recursiveDescent.parse emptySky
          ([] : List (Keo Unit)) bareRequest =
        false := by
    decide +kernel
  rw [stops] at condition
  cases condition

end Reading

end Radar.Server
