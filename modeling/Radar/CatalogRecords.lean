import Radar.CatalogTle

namespace Radar

/-!
# Catalogue files of any contents

Every file consists of records, one behind the other, and of lines in which no
further record is complete.  Either the file ends with them, or one of the two
lines of a satellite is repeated in them.  `CatalogTLE::parse_keo` appends an
entry for every record and returns `true` or `false` accordingly.
-/

namespace CatalogTle

variable {Elements : Type} (reader : OrbitReader Elements)

/-- Lines that end with a record, and their records. -/
inductive WholeRecords : List Line → List Record → Prop where
  | nil : WholeRecords [] []
  | cons
      {block lines : List Line}
      {record : Record}
      {records : List Record}
      (isRecord : IsRecord block record)
      (later : WholeRecords lines records) :
      WholeRecords (block ++ lines) (record :: records)

/-- Whole records are read one by one, and then the lines behind them. -/
theorem parseFrom_wholeRecords
    {lines : List Line}
    {records : List Record}
    {entries : List (Keo Elements)}
    (whole : WholeRecords lines records)
    (lists : Lists reader records entries)
    (behind : List Line) :
    parseFrom reader {} (lines ++ behind) =
      ((parseFrom reader {} behind).1,
        entries ++ (parseFrom reader {} behind).2) := by
  induction whole generalizing entries with
  | nil =>
      cases lists
      rfl
  | cons isRecord later inductionHypothesis =>
      cases lists with
      | cons built rest =>
          rw [List.append_assoc,
            parseFrom_record reader reads_nil rfl isRecord, built,
            inductionHypothesis rest]
          rfl

/-- Lines in which no line is repeated and one of the two is missing. -/
structure Unfinished (lines : List Line) : Prop where
  fewFirst : (firstLines lines).length ≤ 1
  fewSecond : (secondLines lines).length ≤ 1
  incomplete : firstLines lines = [] ∨ secondLines lines = []

/-- A line that is the second of its kind since the last record. -/
structure Repeats (seen : List Line) (temp : Line) : Prop where
  unfinished : Unfinished seen
  repeated :
    temp.head? = some '1' ∧ firstLines seen ≠ [] ∨
      temp.head? = some '2' ∧ secondLines seen ≠ []

/-- What stands behind the records of a file. -/
inductive Behind : List Line → Prop where
  | unfinished {lines : List Line} (unfinished : Unfinished lines) :
      Behind lines
  | repeated
      {seen : List Line}
      {temp : Line}
      (repeats : Repeats seen temp)
      (rest : List Line) :
      Behind (seen ++ temp :: rest)

/-- What the parser remembers of lines without a complete record. -/
theorem Reads.unfinished
    {seen : List Line}
    {record : Record}
    (reads : Reads seen record)
    (incomplete : record.complete = false) :
    Unfinished seen := by
  obtain ⟨first, second, _⟩ := reads
  unfold Record.complete at incomplete
  constructor
  · rw [first]
    split <;> simp
  · rw [second]
    split <;> simp
  · rw [first, second]
    revert incomplete
    cases record.s1.isEmpty <;> cases record.s2.isEmpty <;> simp

/-- A line is refused exactly if it is the second of its kind. -/
theorem Reads.take_eq_none_iff
    {seen : List Line}
    {record : Record}
    {temp : Line}
    (reads : Reads seen record) :
    record.take temp = none ↔
      temp.head? = some '1' ∧ firstLines seen ≠ [] ∨
        temp.head? = some '2' ∧ secondLines seen ≠ [] := by
  obtain ⟨first, second, _⟩ := reads
  rw [first, second]
  unfold Record.take
  cases record.s1.isEmpty <;> cases record.s2.isEmpty <;>
    split_ifs <;> simp_all

/-- Lines behind the last record end the parse without an entry. -/
theorem parseFrom_unfinished
    {lines : List Line}
    (unfinished : Unfinished lines) :
    parseFrom reader {} lines = (.finished, []) :=
  parseFrom_rest reader reads_nil unfinished.fewFirst unfinished.fewSecond
    unfinished.incomplete

/-- A line that is repeated ends the parse with a failure. -/
theorem parseFrom_repeated
    {seen : List Line}
    {temp : Line}
    (repeats : Repeats seen temp)
    (rest : List Line) :
    parseFrom reader {} (seen ++ temp :: rest) = (.failed, []) := by
  obtain ⟨⟨fewFirst, fewSecond, incomplete⟩, repeated⟩ := repeats
  obtain ⟨next, reads, same⟩ :=
    parseFrom_skip reader reads_nil fewFirst fewSecond incomplete
      (temp :: rest)
  rw [same, parseFrom, reads.take_eq_none_iff.mpr repeated]

/-- What has been read and what follows, from what the parser remembers. -/
theorem exists_wholeRecords_of_reads
    {lines seen : List Line}
    {record : Record}
    (reads : Reads seen record)
    (incomplete : record.complete = false) :
    ∃ whole records behind, seen ++ lines = whole ++ behind ∧
      WholeRecords whole records ∧ Behind behind := by
  induction lines generalizing seen record with
  | nil =>
      refine ⟨[], [], seen, by simp, .nil, ?_⟩
      exact .unfinished (reads.unfinished incomplete)
  | cons temp rest inductionHypothesis =>
      cases taken : record.take temp with
      | none =>
          refine ⟨[], [], seen ++ temp :: rest, rfl, .nil, ?_⟩
          exact .repeated
            ⟨reads.unfinished incomplete, reads.take_eq_none_iff.mp taken⟩
            rest
      | some next =>
          by_cases complete : next.complete = true
          · have isRecord := reads.isRecord taken incomplete complete
            obtain ⟨whole, records, behind, same, later, ends⟩ :=
              inductionHypothesis reads_nil rfl
            refine ⟨_, _, behind, ?_, .cons isRecord later, ends⟩
            rw [List.append_assoc, ← same]
            simp
          · obtain ⟨whole, records, behind, same, later, ends⟩ :=
              inductionHypothesis (reads.take taken) (by simpa using complete)
            refine ⟨whole, records, behind, ?_, later, ends⟩
            rw [← same]
            simp

/-- Every file consists of records and of what stands behind them. -/
theorem exists_wholeRecords (lines : List Line) :
    ∃ whole records behind, lines = whole ++ behind ∧
      WholeRecords whole records ∧ Behind behind :=
  exists_wholeRecords_of_reads reads_nil rfl

/-! ## The lines of a record -/

/-- Comments and lines that give a name. -/
def Others (lines : List Line) : Prop :=
  ∀ line ∈ lines, line.head? ≠ some '1' ∧ line.head? ≠ some '2'

/--
The lines of a record in their order: the two lines of a satellite, either of
them first, with other lines before and between them.
-/
inductive RecordLines : List Line → Record → Prop
  | firstBefore
      {before between : List Line}
      {s1 s2 : Line}
      (others : Others (before ++ between))
      (isFirst : s1.head? = some '1')
      (isSecond : s2.head? = some '2') :
      RecordLines (before ++ s1 :: between ++ [s2])
        ⟨s1, s2, (nameLines (before ++ between)).getLast?.getD []⟩
  | secondBefore
      {before between : List Line}
      {s1 s2 : Line}
      (others : Others (before ++ between))
      (isSecond : s2.head? = some '2')
      (isFirst : s1.head? = some '1') :
      RecordLines (before ++ s2 :: between ++ [s1])
        ⟨s1, s2, (nameLines (before ++ between)).getLast?.getD []⟩

/-- Other lines hold none of the two lines of a satellite. -/
theorem others_iff (lines : List Line) :
    Others lines ↔ firstLines lines = [] ∧ secondLines lines = [] := by
  unfold Others firstLines secondLines
  simp only [List.filter_eq_nil_iff, decide_eq_true_eq]
  constructor
  · intro others
    exact ⟨fun line member => (others line member).1,
      fun line member => (others line member).2⟩
  · rintro ⟨noFirst, noSecond⟩ line member
    exact ⟨noFirst line member, noSecond line member⟩

/-- The name is the last name line of the other lines of a record. -/
theorem nameLines_element
    {before between : List Line}
    {line last : Line}
    (isElement : line.head? = some '1' ∨ line.head? = some '2')
    (lastIsElement : last.head? = some '1' ∨ last.head? = some '2') :
    nameLines (before ++ line :: between ++ [last]) =
      nameLines (before ++ between) := by
  rcases isElement with isFirst | isSecond <;>
    rcases lastIsElement with lastFirst | lastSecond <;>
    simp_all [nameLines]

/-- A test that no other line passes selects among the two lines. -/
theorem filter_element
    {test : Line → Bool}
    {before between : List Line}
    {line last : Line}
    (none : (before ++ between).filter test = []) :
    (before ++ line :: between ++ [last]).filter test =
      [line, last].filter test := by
  rw [List.filter_append, List.append_eq_nil_iff] at none
  cases isLine : test line <;>
    simp [none.1, none.2, isLine, List.filter_cons]

/-- A test that one line passes splits the lines there. -/
theorem exists_split_of_filter
    {test : Line → Bool}
    {lines : List Line}
    {line : Line}
    (only : lines.filter test = [line]) :
    ∃ before between, lines = before ++ line :: between ∧
      (before ++ between).filter test = [] := by
  obtain ⟨before, between, same, noneBefore, -, noneBetween⟩ :=
    List.filter_eq_cons_iff.mp only
  refine ⟨before, between, same, ?_⟩
  rw [List.filter_append, noneBetween, List.append_nil,
    List.filter_eq_nil_iff]
  exact noneBefore

/-- Either order of the lines is a record. -/
theorem RecordLines.isRecord
    {block : List Line}
    {record : Record}
    (lines : RecordLines block record) :
    IsRecord block record := by
  cases lines with
  | firstBefore others isFirst isSecond =>
      obtain ⟨noFirst, noSecond⟩ := (others_iff _).mp others
      refine ⟨?_, ?_, ?_, ?_⟩
      · rw [firstLines, filter_element noFirst]
        simp [isFirst, isSecond]
      · rw [secondLines, filter_element noSecond]
        simp [isFirst, isSecond]
      · rw [nameLines_element (.inl isFirst) (.inr isSecond)]
      · intro line isLast
        rw [List.getLast?_concat, Option.some.injEq] at isLast
        exact .inr (isLast ▸ isSecond)
  | secondBefore others isSecond isFirst =>
      obtain ⟨noFirst, noSecond⟩ := (others_iff _).mp others
      refine ⟨?_, ?_, ?_, ?_⟩
      · rw [firstLines, filter_element noFirst]
        simp [isFirst, isSecond]
      · rw [secondLines, filter_element noSecond]
        simp [isFirst, isSecond]
      · rw [nameLines_element (.inr isSecond) (.inl isFirst)]
      · intro line isLast
        rw [List.getLast?_concat, Option.some.injEq] at isLast
        exact .inl (isLast ▸ isFirst)

/-- The last line of a record and the other line of the satellite. -/
theorem exists_split_of_last
    {test other : Line → Bool}
    {init : List Line}
    {line last lastOther : Line}
    (passes : other last = true)
    (fails : test last = false)
    (only : (init ++ [last]).filter test = [line])
    (onlyOther : (init ++ [last]).filter other = [lastOther]) :
    ∃ before between, init = before ++ line :: between ∧
      last = lastOther ∧
      (before ++ between).filter test = [] ∧
      (before ++ between).filter other = [] ∧
      test line = true := by
  rw [List.filter_append, List.filter_singleton, fails, cond_false,
    List.append_nil] at only
  rw [List.filter_append, List.filter_singleton, passes, cond_true]
    at onlyOther
  have noOther : init.filter other = [] ∧ last = lastOther := by
    have := List.append_eq_singleton_iff.mp onlyOther
    simpa using this
  obtain ⟨before, between, rfl, noneLeft⟩ := exists_split_of_filter only
  refine ⟨before, between, rfl, noOther.2, noneLeft, ?_, ?_⟩
  · rw [List.filter_eq_nil_iff] at noOther ⊢
    intro one member
    refine noOther.1 one ?_
    rcases List.mem_append.mp member with inFront | behind
    · exact List.mem_append_left _ inFront
    · exact List.mem_append_right _ (List.mem_cons_of_mem _ behind)
  · exact (List.mem_filter.mp (only ▸ List.mem_singleton_self line)).2

/-- A record has the lines of one in one of the two orders. -/
theorem IsRecord.recordLines
    {block : List Line}
    {record : Record}
    (isRecord : IsRecord block record) :
    RecordLines block record := by
  obtain ⟨s1, s2, recordName⟩ := record
  obtain ⟨first, second, name, complete⟩ := isRecord
  dsimp only at first second name
  have notEmpty : block ≠ [] := by
    rintro rfl
    cases first
  obtain ⟨init, last, rfl⟩ :=
    (List.eq_nil_or_concat' block).resolve_left notEmpty
  rcases complete last List.getLast?_concat with lastFirst | lastSecond
  · obtain ⟨before, between, rfl, rfl, noSecond, noFirst, isSecond⟩ :=
      exists_split_of_last (by simpa using lastFirst) (by simp [lastFirst])
        second first
    have isSecond : s2.head? = some '2' := by simpa using isSecond
    rw [nameLines_element (.inr isSecond) (.inl lastFirst)] at name
    subst name
    exact .secondBefore ((others_iff _).mpr ⟨noFirst, noSecond⟩) isSecond
      lastFirst
  · obtain ⟨before, between, rfl, rfl, noFirst, noSecond, isFirst⟩ :=
      exists_split_of_last (by simpa using lastSecond) (by simp [lastSecond])
        first second
    have isFirst : s1.head? = some '1' := by simpa using isFirst
    rw [nameLines_element (.inl isFirst) (.inr lastSecond)] at name
    subst name
    exact .firstBefore ((others_iff _).mpr ⟨noFirst, noSecond⟩) isFirst
      lastSecond

/-- A record is what its lines say, in either order. -/
theorem isRecord_iff
    (block : List Line)
    (record : Record) :
    IsRecord block record ↔ RecordLines block record :=
  ⟨IsRecord.recordLines, RecordLines.isRecord⟩

/-! ## Parsing a catalogue -/

/-- The name of a satellite, or the one for satellites without a name. -/
def satelliteName (name : Line) : Line :=
  if name = [] then noname else name

/-- An entry is named by the name line of its own record. -/
theorem Lists.names
    {records : List Record}
    {entries : List (Keo Elements)}
    (lists : Lists reader records entries) :
    entries.map Keo.name =
      records.map fun record => satelliteName record.name := by
  induction lists with
  | nil =>
      rfl
  | @cons record entry records entries built _ inductionHypothesis =>
      rw [List.map_cons, List.map_cons, inductionHypothesis]
      congr 1
      obtain ⟨field, -, built⟩ := Option.bind_eq_some_iff.mp built
      obtain ⟨number, -, built⟩ := Option.bind_eq_some_iff.mp built
      obtain ⟨elements, -, built⟩ := Option.bind_eq_some_iff.mp built
      cases built
      exact if_congr List.isEmpty_iff rfl rfl

/-- Lines with at most one kind end a file or repeat a line of it. -/
theorem behind_of_missing
    {tail : List Line}
    (missing : firstLines tail = [] ∨ secondLines tail = []) :
    Behind tail := by
  obtain ⟨whole, records, behind, rfl, isWhole, ends⟩ :=
    exists_wholeRecords tail
  cases isWhole with
  | nil => exact ends
  | cons isRecord later =>
      rw [List.append_assoc, firstLines_append, secondLines_append,
        isRecord.first, isRecord.second] at missing
      simp at missing

/--
A catalogue of records is read to its end, and every record has one entry in
their order, built from its own lines and named by its own name line; lines
behind the records change nothing unless one of them is repeated, which is
refused after the entries of the records.
-/
theorem parseKeo_wholeRecords
    {lines : List Line}
    {records : List Record}
    {entries : List (Keo Elements)}
    (whole : WholeRecords lines records)
    (lists : Lists reader records entries)
    (satellites : List (Keo Elements)) :
    (∀ tail, Unfinished tail →
      parseKeo reader (some (lines ++ tail)) satellites =
        (.finished, satellites ++ entries)) ∧
      (∀ seen temp rest, Repeats seen temp →
        parseKeo reader (some (lines ++ (seen ++ temp :: rest))) satellites =
          (.failed, satellites ++ entries)) ∧
      (∀ tail, firstLines tail = [] ∨ secondLines tail = [] → Behind tail) ∧
      entries.map Keo.name =
        records.map fun record => satelliteName record.name := by
  refine ⟨?_, ?_, fun _ => behind_of_missing, lists.names⟩
  · intro tail unfinished
    rw [parseKeo, parseFrom_wholeRecords reader whole lists,
      parseFrom_unfinished reader unfinished, List.append_nil]
  · intro seen temp rest repeats
    rw [parseKeo, parseFrom_wholeRecords reader whole lists,
      parseFrom_repeated reader repeats, List.append_nil]

end CatalogTle

end Radar
