import Mathlib.Data.List.Basic

namespace Radar

/-!
# The satellite catalogue

`CatalogTLE::parse_keo` reads a catalogue of two-line elements.  The names and
numbers of the satellites are read here as the source reads them; the
floating-point conversions and the recovery of the orbit are an `OrbitReader`.
What a catalogue consists of is stated once more without the parser, as a
sequence of records.
-/

/-- A line of a catalogue file, without its line break. -/
abbrev Line := List Char

namespace CatalogTle

/-! ## Conversions of the standard library -/

/-- `std::string::substr`, which throws when the position is out of range. -/
def substr (text : Line) (position count : Nat) : Option Line :=
  if position ≤ text.length then
    some ((text.drop position).take count)
  else
    none

/-- `isspace` in the "C" locale. -/
def isSpace (character : Char) : Bool :=
  character = ' ' || (9 ≤ character.toNat && character.toNat ≤ 13)

/-- Value of a row of decimal digits. -/
def digitsValue (digits : Line) : Nat :=
  digits.foldl (fun value digit => value * 10 + (digit.toNat - 48)) 0

/--
`std::stoi`, which throws when there is no number or when the number is out of
the range of `int`.
-/
def stoi (text : Line) : Option Int :=
  let signed := text.dropWhile isSpace
  let negative := signed.head? = some '-'
  let digits :=
    (if negative ∨ signed.head? = some '+' then signed.tail else signed).takeWhile
      Char.isDigit
  let value : Int :=
    if negative then - (digitsValue digits : Int) else digitsValue digits
  if digits = [] ∨ value < -2147483648 ∨ 2147483647 < value then
    none
  else
    some value

/-! ## Entries -/

/--
The elements that the source converts to `double` and computes from the two
lines of a satellite; `none` stands for an exception of a conversion.
-/
structure OrbitReader (Elements : Type) where
  read : (s1 s2 : Line) → Option Elements

/-- An entry of the satellite list. -/
structure Keo (Elements : Type) where
  name : Line
  number : UInt32
  elements : Elements
  deriving DecidableEq

/-- The two lines of a satellite and the name found with them. -/
structure Record where
  s1 : Line := []
  s2 : Line := []
  name : Line := []
  deriving DecidableEq

/-- Names for satellites that have none. -/
def noname : Line := "Noname".toList

variable {Elements : Type} (reader : OrbitReader Elements)

/-- Build the entry of a record; `none` stands for an exception. -/
def Record.entry (record : Record) : Option (Keo Elements) := do
  let field ← substr record.s1 2 5
  let number ← stoi field
  let elements ← reader.read record.s1 record.s2
  return {
    name := if record.name.isEmpty then noname else record.name
    number := UInt32.ofInt number
    elements := elements }

/-! ## The parser -/

/-- How `parse_keo` ends: it returns `true` or `false`, or it throws. -/
inductive ParseEnd where
  | finished
  | failed
  | thrown
  deriving Repr, DecidableEq

/--
Take a line into the record read so far.  A second line of the same kind is
an error.
-/
def Record.take (record : Record) (temp : Line) : Option Record :=
  if temp.head? = some '#' then
    some record
  else if temp.head? = some '1' then
    if record.s1.isEmpty then some { record with s1 := temp } else none
  else if temp.head? = some '2' then
    if record.s2.isEmpty then some { record with s2 := temp } else none
  else
    some { record with name := temp }

/-- Have both lines of a record been read? -/
def Record.complete (record : Record) : Bool :=
  !record.s1.isEmpty && !record.s2.isEmpty

/-- Read lines from a record on; the entries found are appended one by one. -/
def parseFrom : Record → List Line → ParseEnd × List (Keo Elements)
  | _, [] => (.finished, [])
  | record, temp :: rest =>
      match record.take temp with
      | none => (.failed, [])
      | some record =>
          if record.complete then
            match record.entry reader with
            | none => (.thrown, [])
            | some entry =>
                let later := parseFrom {} rest
                (later.1, entry :: later.2)
          else
            parseFrom record rest

/--
Parse a catalogue file and append its entries to the satellite list.  A file
that cannot be opened is `none`.
-/
def parseKeo
    (file : Option (List Line))
    (satellites : List (Keo Elements)) :
    ParseEnd × List (Keo Elements) :=
  match file with
  | none => (.failed, satellites)
  | some lines =>
      let parsed := parseFrom reader {} lines
      (parsed.1, satellites ++ parsed.2)

/-! ## Catalogues -/

/-- First lines of a block, second lines, and lines that give a name. -/
def firstLines (block : List Line) : List Line :=
  block.filter fun line => line.head? = some '1'

def secondLines (block : List Line) : List Line :=
  block.filter fun line => line.head? = some '2'

def nameLines (block : List Line) : List Line :=
  block.filter fun line =>
    line.head? ≠ some '#' ∧ line.head? ≠ some '1' ∧ line.head? ≠ some '2'

/--
The lines of one record: one first line, one second line, any comments, and
the last of the other lines as the name.  The record ends with the later of
its two lines.
-/
structure IsRecord (block : List Line) (record : Record) : Prop where
  first : firstLines block = [record.s1]
  second : secondLines block = [record.s2]
  name : (nameLines block).getLast?.getD [] = record.name
  complete :
    ∀ line, block.getLast? = some line →
      line.head? = some '1' ∨ line.head? = some '2'

/-- A file is a sequence of records, and lines that are not yet a record. -/
inductive Catalogue : List Line → List Record → Prop where
  | rest
      {lines : List Line}
      (fewFirst : (firstLines lines).length ≤ 1)
      (fewSecond : (secondLines lines).length ≤ 1)
      (incomplete : firstLines lines = [] ∨ secondLines lines = []) :
      Catalogue lines []
  | record
      {block lines : List Line}
      {record : Record}
      {records : List Record}
      (isRecord : IsRecord block record)
      (later : Catalogue lines records) :
      Catalogue (block ++ lines) (record :: records)

/-- A satellite list has one entry for each record, in order. -/
def Lists (records : List Record) (satellites : List (Keo Elements)) : Prop :=
  List.Forall₂ (fun record entry => record.entry reader = some entry)
    records satellites

/-- No record can be read before the first fault of a file. -/
def NoRecord (file : Option (List Line)) : Prop :=
  ∀ block lines record,
    file = some (block ++ lines) → IsRecord block record →
    record.entry reader = none

/-! ## The parser reads catalogues -/

/-- What the parser remembers of the lines read since the last entry. -/
structure Reads (seen : List Line) (record : Record) : Prop where
  first : firstLines seen = if record.s1.isEmpty then [] else [record.s1]
  second : secondLines seen = if record.s2.isEmpty then [] else [record.s2]
  name : (nameLines seen).getLast?.getD [] = record.name

theorem reads_nil : Reads [] {} where
  first := rfl
  second := rfl
  name := rfl

/-- A line that is taken is one more line seen. -/
theorem Reads.take
    {seen : List Line}
    {record next : Record}
    {temp : Line}
    (reads : Reads seen record)
    (taken : record.take temp = some next) :
    Reads (seen ++ [temp]) next := by
  obtain ⟨first, second, name⟩ := reads
  unfold Record.take at taken
  split at taken
  · next isComment =>
      cases taken
      constructor <;>
        simp_all [firstLines, secondLines, nameLines]
  · next notComment =>
      split at taken
      · next isFirst =>
          split at taken
          · next isNew =>
              cases taken
              have someLine : temp ≠ [] := by
                rintro rfl
                cases isFirst
              constructor <;>
                simp_all [firstLines, secondLines, nameLines]
          · cases taken
      · next notFirst =>
          split at taken
          · next isSecond =>
              split at taken
              · next isNew =>
                  cases taken
                  have someLine : temp ≠ [] := by
                    rintro rfl
                    cases isSecond
                  constructor <;>
                    simp_all [firstLines, secondLines, nameLines]
              · cases taken
          · next notSecond =>
              cases taken
              constructor <;>
                simp_all [firstLines, secondLines, nameLines]

/-- The line that completes a record is one of its two lines. -/
theorem Record.head_of_complete
    {record next : Record}
    {temp : Line}
    (taken : record.take temp = some next)
    (incomplete : record.complete = false)
    (complete : next.complete = true) :
    temp.head? = some '1' ∨ temp.head? = some '2' := by
  unfold Record.take at taken
  split at taken
  · cases taken
    rw [complete] at incomplete
    cases incomplete
  · split at taken
    · next isFirst => exact .inl isFirst
    · split at taken
      · next isSecond => exact .inr isSecond
      · cases taken
        have same : ({ record with name := temp } : Record).complete =
            record.complete := rfl
        rw [← same, complete] at incomplete
        cases incomplete

/-- What the parser remembers when it builds an entry is a record. -/
theorem Reads.isRecord
    {seen : List Line}
    {record next : Record}
    {temp : Line}
    (reads : Reads seen record)
    (taken : record.take temp = some next)
    (incomplete : record.complete = false)
    (complete : next.complete = true) :
    IsRecord (seen ++ [temp]) next := by
  obtain ⟨first, second, name⟩ := reads.take taken
  have both : next.s1.isEmpty = false ∧ next.s2.isEmpty = false := by
    simpa [Record.complete] using complete
  rw [both.1] at first
  rw [both.2] at second
  refine ⟨first, second, name, ?_⟩
  intro line isLast
  rw [List.getLast?_append, List.getLast?_singleton, Option.some_or,
    Option.some.injEq] at isLast
  rw [← isLast]
  exact Record.head_of_complete taken incomplete complete

/-- Lines that do not complete a record are the rest of a catalogue. -/
theorem Reads.catalogue
    {seen : List Line}
    {record : Record}
    (reads : Reads seen record)
    (incomplete : record.complete = false) :
    Catalogue seen [] := by
  obtain ⟨first, second, _⟩ := reads
  have missing :
      record.s1.isEmpty = true ∨ record.s2.isEmpty = true := by
    unfold Record.complete at incomplete
    revert incomplete
    cases record.s1.isEmpty <;> cases record.s2.isEmpty <;> decide
  refine .rest ?_ ?_ ?_
  · rw [first]
    split <;> simp
  · rw [second]
    split <;> simp
  · rw [first, second]
    rcases missing with noFirst | noSecond
    · exact .inl (if_pos noFirst)
    · exact .inr (if_pos noSecond)

/-- When the parser finishes, its entries list the records of the file. -/
theorem lists_of_finished
    {lines seen : List Line}
    {record : Record}
    {entries : List (Keo Elements)}
    (reads : Reads seen record)
    (incomplete : record.complete = false)
    (finished : parseFrom reader record lines = (.finished, entries)) :
    ∃ records, Catalogue (seen ++ lines) records ∧
      Lists reader records entries := by
  induction lines generalizing seen record entries with
  | nil =>
      cases finished
      rw [List.append_nil]
      exact ⟨[], reads.catalogue incomplete, .nil⟩
  | cons temp rest inductionHypothesis =>
      unfold parseFrom at finished
      cases taken : record.take temp with
      | none =>
          simp [taken] at finished
      | some next =>
          simp only [taken] at finished
          by_cases complete : next.complete
          · rw [if_pos complete] at finished
            cases built : next.entry reader with
            | none =>
                simp [built] at finished
            | some entry =>
                simp only [built, Prod.mk.injEq] at finished
                obtain ⟨ends, rfl⟩ := finished
                obtain ⟨records, catalogue, lists⟩ :=
                  inductionHypothesis reads_nil rfl
                    (Prod.ext ends rfl)
                have isRecord := reads.isRecord taken incomplete complete
                refine ⟨next :: records, ?_, .cons built lists⟩
                rw [← List.singleton_append, ← List.append_assoc]
                exact .record isRecord catalogue
          · rw [if_neg complete] at finished
            obtain ⟨records, catalogue, lists⟩ :=
              inductionHypothesis (reads.take taken) (by simpa using complete)
                finished
            rw [List.append_assoc] at catalogue
            exact ⟨records, catalogue, lists⟩

theorem firstLines_append (first second : List Line) :
    firstLines (first ++ second) = firstLines first ++ firstLines second :=
  List.filter_append ..

theorem secondLines_append (first second : List Line) :
    secondLines (first ++ second) =
      secondLines first ++ secondLines second :=
  List.filter_append ..

/-- A line is taken as long as it is not the second of its kind. -/
theorem Reads.exists_take
    {seen rest : List Line}
    {record : Record}
    {temp : Line}
    (reads : Reads seen record)
    (fewFirst : (firstLines (seen ++ temp :: rest)).length ≤ 1)
    (fewSecond : (secondLines (seen ++ temp :: rest)).length ≤ 1) :
    ∃ next, record.take temp = some next := by
  obtain ⟨first, second, _⟩ := reads
  rw [firstLines_append, List.length_append, first] at fewFirst
  rw [secondLines_append, List.length_append, second] at fewSecond
  unfold Record.take
  split
  · exact ⟨_, rfl⟩
  · split
    · next isFirst =>
        split
        · exact ⟨_, rfl⟩
        · next notEmpty =>
            rw [if_neg notEmpty, firstLines,
              List.filter_cons_of_pos (by simpa using isFirst),
              List.length_singleton, List.length_cons] at fewFirst
            omega
    · split
      · next isSecond =>
          split
          · exact ⟨_, rfl⟩
          · next notEmpty =>
              rw [if_neg notEmpty, secondLines,
                List.filter_cons_of_pos (by simpa using isSecond),
                List.length_singleton, List.length_cons] at fewSecond
              omega
      · exact ⟨_, rfl⟩

/-- Lines of which one kind is missing do not complete a record. -/
theorem Reads.not_complete
    {seen : List Line}
    {record : Record}
    (reads : Reads seen record)
    (incomplete : firstLines seen = [] ∨ secondLines seen = []) :
    record.complete = false := by
  rw [reads.first, reads.second] at incomplete
  unfold Record.complete
  revert incomplete
  cases record.s1.isEmpty <;> cases record.s2.isEmpty <;> simp

/-- Lines that do not complete a record are read and remembered. -/
theorem parseFrom_skip
    {todo seen : List Line}
    {record : Record}
    (reads : Reads seen record)
    (fewFirst : (firstLines (seen ++ todo)).length ≤ 1)
    (fewSecond : (secondLines (seen ++ todo)).length ≤ 1)
    (incomplete :
      firstLines (seen ++ todo) = [] ∨ secondLines (seen ++ todo) = [])
    (behind : List Line) :
    ∃ next, Reads (seen ++ todo) next ∧
      parseFrom reader record (todo ++ behind) =
        parseFrom reader next behind := by
  induction todo generalizing seen record with
  | nil =>
      exact ⟨record, by rwa [List.append_nil], rfl⟩
  | cons temp rest inductionHypothesis =>
      obtain ⟨next, taken⟩ := reads.exists_take fewFirst fewSecond
      have nextReads := reads.take taken
      have shape : seen ++ temp :: rest = (seen ++ [temp]) ++ rest := by
        simp
      rw [shape] at fewFirst fewSecond incomplete
      have notComplete : next.complete = false := by
        refine nextReads.not_complete ?_
        rw [firstLines_append _ rest, secondLines_append _ rest] at incomplete
        exact incomplete.imp (fun none => (List.append_eq_nil_iff.mp none).1)
          fun none => (List.append_eq_nil_iff.mp none).1
      obtain ⟨last, lastReads, same⟩ :=
        inductionHypothesis nextReads fewFirst fewSecond incomplete
      refine ⟨last, by rwa [shape], ?_⟩
      rw [List.cons_append, parseFrom, taken]
      simp only [notComplete, Bool.false_eq_true, if_false]
      exact same

/-- The rest of a catalogue is read to its end. -/
theorem parseFrom_rest
    {lines seen : List Line}
    {record : Record}
    (reads : Reads seen record)
    (fewFirst : (firstLines (seen ++ lines)).length ≤ 1)
    (fewSecond : (secondLines (seen ++ lines)).length ≤ 1)
    (incomplete :
      firstLines (seen ++ lines) = [] ∨ secondLines (seen ++ lines) = []) :
    parseFrom reader record lines = (.finished, []) := by
  obtain ⟨next, -, same⟩ :=
    parseFrom_skip reader reads fewFirst fewSecond incomplete []
  rwa [List.append_nil] at same

/-- A record ends with the line that completes it. -/
theorem Reads.eq_of_complete
    {seen rest : List Line}
    {next record : Record}
    (reads : Reads seen next)
    (complete : next.complete = true)
    (isRecord : IsRecord (seen ++ rest) record) :
    rest = [] ∧ next = record := by
  have both : next.s1.isEmpty = false ∧ next.s2.isEmpty = false := by
    simpa [Record.complete] using complete
  have first := isRecord.first
  have second := isRecord.second
  rw [firstLines_append, reads.first, both.1] at first
  rw [secondLines_append, reads.second, both.2] at second
  obtain ⟨sameFirst, noFirst⟩ := List.cons_eq_cons.mp first
  obtain ⟨sameSecond, noSecond⟩ := List.cons_eq_cons.mp second
  have isLast : rest = [] := by
    by_contra more
    obtain ⟨line, atEnd⟩ :=
      Option.ne_none_iff_exists'.mp (mt List.getLast?_eq_none_iff.mp more)
    have inRest := List.mem_of_getLast? atEnd
    have ends := isRecord.complete line (by
      rw [List.getLast?_append, atEnd, Option.some_or])
    rcases ends with isFirst | isSecond
    · have member : line ∈ firstLines rest :=
        List.mem_filter.mpr ⟨inRest, by simpa using isFirst⟩
      rw [show firstLines rest = [] from noFirst] at member
      cases member
    · have member : line ∈ secondLines rest :=
        List.mem_filter.mpr ⟨inRest, by simpa using isSecond⟩
      rw [show secondLines rest = [] from noSecond] at member
      cases member
  have recordName := isRecord.name
  rw [isLast, List.append_nil] at recordName
  refine ⟨isLast, ?_⟩
  rcases next with ⟨s1, s2, nextName⟩
  rcases record with ⟨t1, t2, otherName⟩
  simp only [Record.mk.injEq]
  exact ⟨sameFirst, sameSecond, reads.name.symm.trans recordName⟩

/-- The lines of a record are read up to its end, and its entry is built. -/
theorem parseFrom_record
    {todo lines seen : List Line}
    {read record : Record}
    (reads : Reads seen read)
    (notYet : read.complete = false)
    (isRecord : IsRecord (seen ++ todo) record) :
    parseFrom reader read (todo ++ lines) =
      match record.entry reader with
      | none => (.thrown, [])
      | some entry =>
          ((parseFrom reader {} lines).1,
            entry :: (parseFrom reader {} lines).2) := by
  induction todo generalizing seen read with
  | nil =>
      rw [List.append_nil] at isRecord
      have first := reads.first.symm.trans isRecord.first
      have second := reads.second.symm.trans isRecord.second
      unfold Record.complete at notYet
      revert notYet first second
      cases read.s1.isEmpty <;> cases read.s2.isEmpty <;> simp
  | cons temp rest inductionHypothesis =>
      have fewFirst := Nat.le_of_eq (congrArg List.length isRecord.first)
      have fewSecond := Nat.le_of_eq (congrArg List.length isRecord.second)
      obtain ⟨next, taken⟩ := reads.exists_take fewFirst fewSecond
      have nextReads := reads.take taken
      have shape : seen ++ temp :: rest = (seen ++ [temp]) ++ rest := by
        simp
      rw [shape] at isRecord
      rw [List.cons_append]
      cases complete : next.complete with
      | false =>
          simp only [parseFrom, taken, complete, Bool.false_eq_true,
            if_false]
          exact inductionHypothesis nextReads complete isRecord
      | true =>
          obtain ⟨rfl, rfl⟩ := nextReads.eq_of_complete complete isRecord
          simp only [parseFrom, taken, complete, if_true, List.nil_append]

/-- The parser finishes exactly on catalogues whose records all convert. -/
theorem parseFrom_finished_iff
    {lines : List Line}
    {entries : List (Keo Elements)} :
    parseFrom reader {} lines = (.finished, entries) ↔
      ∃ records, Catalogue lines records ∧
        Lists reader records entries := by
  constructor
  · exact lists_of_finished reader reads_nil rfl
  · rintro ⟨records, catalogue, lists⟩
    induction catalogue generalizing entries with
    | rest fewFirst fewSecond incomplete =>
        cases lists
        exact parseFrom_rest reader reads_nil fewFirst fewSecond incomplete
    | record isRecord later inductionHypothesis =>
        cases lists with
        | cons built rest =>
            rw [parseFrom_record reader reads_nil rfl isRecord, built]
            dsimp only
            rw [inductionHypothesis rest]

/-- Without a record before the first fault nothing is appended. -/
theorem entries_eq_nil_of_noRecord
    {lines seen : List Line}
    {record : Record}
    (reads : Reads seen record)
    (incomplete : record.complete = false)
    (noRecord : NoRecord reader (some (seen ++ lines))) :
    (parseFrom reader record lines).2 = [] := by
  induction lines generalizing seen record with
  | nil =>
      rfl
  | cons temp rest inductionHypothesis =>
      have shape : seen ++ temp :: rest = (seen ++ [temp]) ++ rest := by
        simp
      rw [shape] at noRecord
      unfold parseFrom
      cases taken : record.take temp with
      | none =>
          rfl
      | some next =>
          dsimp only
          by_cases complete : next.complete
          · have isRecord := reads.isRecord taken incomplete complete
            rw [if_pos complete, noRecord _ _ _ rfl isRecord]
          · rw [if_neg complete]
            exact inductionHypothesis (reads.take taken)
              (by simpa using complete) noRecord

/-- A finished parse lists the records of the file after what was there. -/
theorem parseKeo_of_finished
    {file : Option (List Line)}
    {satellites : List (Keo Elements)}
    (finished : (parseKeo reader file satellites).1 = .finished) :
    ∃ lines records entries, file = some lines ∧
      Catalogue lines records ∧ Lists reader records entries ∧
      (parseKeo reader file satellites).2 = satellites ++ entries := by
  cases file with
  | none =>
      cases finished
  | some lines =>
      obtain ⟨records, catalogue, lists⟩ :=
        (parseFrom_finished_iff reader).mp (Prod.ext finished rfl)
      exact ⟨lines, records, _, rfl, catalogue, lists, rfl⟩

/-- Without a record before the first fault the satellite list is kept. -/
theorem parseKeo_of_noRecord
    {file : Option (List Line)}
    (satellites : List (Keo Elements))
    (noRecord : NoRecord reader file) :
    (parseKeo reader file satellites).2 = satellites := by
  cases file with
  | none =>
      rfl
  | some lines =>
      have nothing : (parseFrom reader {} lines).2 = [] :=
        entries_eq_nil_of_noRecord reader reads_nil rfl noRecord
      simp [parseKeo, nothing]

/-! ## Two satellites -/

/-- The first satellite of the catalogue that comes with the server. -/
def vanguard : Record where
  s1 :=
    "1 00005U 58002B   15288.46140120  .00000213  00000-0  24249-3 0  9992".toList
  s2 :=
    "2 00005  34.2564  86.0037 1848867 231.9773 109.9241 10.84694774 19971".toList
  name := "0 VANGUARD 1".toList

/-- The second one. -/
def vanguard2 : Record where
  s1 :=
    "1 00011U 59001A   15289.50742503  .00000523  00000-0  27419-3 0  9994".toList
  s2 :=
    "2 00011  32.8737 338.0589 1470331 344.3107  11.6219 11.85164147414211".toList
  name := "0 VANGUARD 2".toList

/-- The lines of a record in their usual order. -/
def Record.lines (record : Record) : List Line :=
  [record.name, record.s1, record.s2]

/-- Lines in the usual order are a record. -/
theorem Record.isRecord_lines
    {record : Record}
    (name : record.name.head? = some '0')
    (first : record.s1.head? = some '1')
    (second : record.s2.head? = some '2') :
    IsRecord record.lines record := by
  refine ⟨by simp [lines, firstLines, name, first, second],
    by simp [lines, secondLines, name, first, second],
    by simp [lines, nameLines, name, first, second], ?_⟩
  intro line isLast
  rw [← Option.some.inj isLast]
  exact .inr second

/-- A parser without a record reads the lines of one. -/
theorem parseFrom_lines
    {record : Record}
    (isRecord : IsRecord record.lines record)
    (lines : List Line) :
    parseFrom reader {} (record.lines ++ lines) =
      match record.entry reader with
      | none => (.thrown, [])
      | some entry =>
          ((parseFrom reader {} lines).1,
            entry :: (parseFrom reader {} lines).2) :=
  @parseFrom_record _ reader record.lines lines [] {} record reads_nil rfl
    isRecord

theorem isRecord_vanguard : IsRecord vanguard.lines vanguard :=
  Record.isRecord_lines (by decide +kernel) (by decide +kernel)
    (by decide +kernel)

theorem isRecord_vanguard2 : IsRecord vanguard2.lines vanguard2 :=
  Record.isRecord_lines (by decide +kernel) (by decide +kernel)
    (by decide +kernel)

end CatalogTle

end Radar
