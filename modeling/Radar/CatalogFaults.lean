import Radar.StodValues
import Radar.TleEntry

namespace Radar

/-!
# Catalogue files with faults

The lines of a satellite are converted column by column, and every conversion
throws for a line that is too short or that holds no number there.
`CatalogTLE::parse_keo` catches nothing: a fault is refused only when a line
is repeated, and even then the entries before it stay in the list.
-/

namespace CatalogTle

/-! ## The converted fields -/

/-- The Julian date of an epoch that fits into the calendar of `Utils`. -/
def StodValue.jd : StodValue → Option Rat
  | .number epoch => epochJd epoch
  | .infinity _ => none
  | .nan => none

/-- The fields of the two lines of a satellite, as they are converted. -/
structure TleFields where
  jd : Rat
  drag : StodValue
  bStarMantissa : StodValue
  bStarExponent : StodValue
  inclination : StodValue
  raan : StodValue
  eccentricity : StodValue
  argPerigee : StodValue
  meanAnomaly : StodValue
  meanMotion : StodValue
  deriving Repr, DecidableEq

/-- Convert the columns of a line to any `double`. -/
def valueColumns (line : Line) (position count : Nat) : Option StodValue := do
  stodValue (← substr line position count)

/--
Convert the fields of the two lines of a satellite.  There is no result when a
conversion throws, and none when the conversions of the epoch are undefined.
-/
def fieldReader : OrbitReader TleFields where
  read s1 s2 := do
    let epoch ← valueColumns s1 18 7
    let jd ← epoch.jd
    let drag ← valueColumns s1 34 10
    let mantissa ← valueColumns s1 53 6
    let exponent ← valueColumns s1 59 2
    let inclination ← valueColumns s2 8 8
    let raan ← valueColumns s2 17 8
    let eccentricity ← stodValue ("0.".toList ++ (← substr s2 26 7))
    let argPerigee ← valueColumns s2 34 8
    let meanAnomaly ← valueColumns s2 43 8
    let meanMotion ← valueColumns s2 52 11
    return {
      jd := jd
      drag := drag
      bStarMantissa := mantissa
      bStarExponent := exponent
      inclination := inclination
      raan := raan
      eccentricity := eccentricity
      argPerigee := argPerigee
      meanAnomaly := meanAnomaly
      meanMotion := meanMotion }

/-- What the fields of a record are converted from. -/
structure ReadsFields (s1 s2 : Line) (fields : TleFields) : Prop where
  epoch :
    ∃ epoch, valueColumns s1 18 7 = some epoch ∧ epoch.jd = some fields.jd
  drag : valueColumns s1 34 10 = some fields.drag
  bStarMantissa : valueColumns s1 53 6 = some fields.bStarMantissa
  bStarExponent : valueColumns s1 59 2 = some fields.bStarExponent
  inclination : valueColumns s2 8 8 = some fields.inclination
  raan : valueColumns s2 17 8 = some fields.raan
  eccentricity :
    ∃ digits, substr s2 26 7 = some digits ∧
      stodValue ("0.".toList ++ digits) = some fields.eccentricity
  argPerigee : valueColumns s2 34 8 = some fields.argPerigee
  meanAnomaly : valueColumns s2 43 8 = some fields.meanAnomaly
  meanMotion : valueColumns s2 52 11 = some fields.meanMotion

/-- The fields are read from their columns. -/
theorem fieldReader_eq_some_iff
    (s1 s2 : Line)
    (fields : TleFields) :
    fieldReader.read s1 s2 = some fields ↔ ReadsFields s1 s2 fields := by
  constructor
  · intro read
    obtain ⟨epoch, isEpoch, read⟩ := Option.bind_eq_some_iff.mp read
    obtain ⟨jd, isJd, read⟩ := Option.bind_eq_some_iff.mp read
    obtain ⟨drag, isDrag, read⟩ := Option.bind_eq_some_iff.mp read
    obtain ⟨mantissa, isMantissa, read⟩ := Option.bind_eq_some_iff.mp read
    obtain ⟨exponent, isExponent, read⟩ := Option.bind_eq_some_iff.mp read
    obtain ⟨inclination, isInclination, read⟩ :=
      Option.bind_eq_some_iff.mp read
    obtain ⟨raan, isRaan, read⟩ := Option.bind_eq_some_iff.mp read
    obtain ⟨digits, isDigits, read⟩ := Option.bind_eq_some_iff.mp read
    obtain ⟨eccentricity, isEccentricity, read⟩ :=
      Option.bind_eq_some_iff.mp read
    obtain ⟨argPerigee, isArgPerigee, read⟩ := Option.bind_eq_some_iff.mp read
    obtain ⟨meanAnomaly, isMeanAnomaly, read⟩ :=
      Option.bind_eq_some_iff.mp read
    obtain ⟨meanMotion, isMeanMotion, read⟩ := Option.bind_eq_some_iff.mp read
    cases read
    exact ⟨⟨epoch, isEpoch, isJd⟩, isDrag, isMantissa, isExponent,
      isInclination, isRaan, ⟨digits, isDigits, isEccentricity⟩,
      isArgPerigee, isMeanAnomaly, isMeanMotion⟩
  · rintro ⟨⟨epoch, isEpoch, isJd⟩, drag, mantissa, exponent, inclination,
      raan, ⟨digits, isDigits, eccentricity⟩, argPerigee, meanAnomaly,
      meanMotion⟩
    unfold fieldReader
    dsimp only
    rw [isEpoch, drag, mantissa, exponent, inclination, raan, isDigits,
      argPerigee, meanAnomaly, meanMotion]
    dsimp only [Option.bind_eq_bind, Option.bind_some]
    rw [isJd, eccentricity]
    rfl

/-- The fields of a record that is read as fractions. -/
def IsFields
    (pow10 : PowerOfTen)
    (fields : TleFields)
    (elements : TleElements) : Prop :=
  ∃ mantissa exponent argPerigee meanAnomaly,
    fields =
      { jd := elements.jd
        drag := .number elements.drag
        bStarMantissa := .number mantissa
        bStarExponent := .number exponent
        inclination := .number elements.inclination
        raan := .number elements.raan
        eccentricity := .number elements.eccentricity
        argPerigee := .number argPerigee
        meanAnomaly := .number meanAnomaly
        meanMotion := .number elements.meanMotion } ∧
    elements.bStar = mantissa * pow10.power exponent ∧
    elements.argPerigee = gr argPerigee ∧
    elements.meanAnomaly = gr meanAnomaly

/-- Columns that are read as a fraction are converted to it. -/
theorem valueColumns_of_stodColumns
    {line : Line}
    {position count : Nat}
    {value : Rat}
    (read : stodColumns line position count = some value) :
    valueColumns line position count = some (.number value) := by
  obtain ⟨field, column, converted⟩ := Option.bind_eq_some_iff.mp read
  exact Option.bind_eq_some_iff.mpr
    ⟨field, column, stodValue_of_stod converted⟩

/-- A record that is read as fractions is converted to the same numbers. -/
theorem fieldReader_of_reader
    {pow10 : PowerOfTen}
    {s1 s2 : Line}
    {elements : TleElements}
    (read : pow10.reader.read s1 s2 = some elements) :
    ∃ fields, fieldReader.read s1 s2 = some fields ∧
      IsFields pow10 fields elements := by
  obtain ⟨epoch, isEpoch, read⟩ := Option.bind_eq_some_iff.mp read
  obtain ⟨jd, isJd, read⟩ := Option.bind_eq_some_iff.mp read
  obtain ⟨drag, isDrag, read⟩ := Option.bind_eq_some_iff.mp read
  obtain ⟨mantissa, isMantissa, read⟩ := Option.bind_eq_some_iff.mp read
  obtain ⟨exponent, isExponent, read⟩ := Option.bind_eq_some_iff.mp read
  obtain ⟨inclination, isInclination, read⟩ :=
    Option.bind_eq_some_iff.mp read
  obtain ⟨raan, isRaan, read⟩ := Option.bind_eq_some_iff.mp read
  obtain ⟨digits, isDigits, read⟩ := Option.bind_eq_some_iff.mp read
  obtain ⟨eccentricity, isEccentricity, read⟩ :=
    Option.bind_eq_some_iff.mp read
  obtain ⟨argPerigee, isArgPerigee, read⟩ := Option.bind_eq_some_iff.mp read
  obtain ⟨meanAnomaly, isMeanAnomaly, read⟩ :=
    Option.bind_eq_some_iff.mp read
  obtain ⟨meanMotion, isMeanMotion, read⟩ := Option.bind_eq_some_iff.mp read
  cases read
  refine ⟨_, (fieldReader_eq_some_iff s1 s2 _).mpr ?_, mantissa, exponent,
    argPerigee, meanAnomaly, rfl, rfl, rfl, rfl⟩
  exact {
    epoch := ⟨_, valueColumns_of_stodColumns isEpoch, isJd⟩
    drag := valueColumns_of_stodColumns isDrag
    bStarMantissa := valueColumns_of_stodColumns isMantissa
    bStarExponent := valueColumns_of_stodColumns isExponent
    inclination := valueColumns_of_stodColumns isInclination
    raan := valueColumns_of_stodColumns isRaan
    eccentricity := ⟨digits, isDigits, stodValue_of_stod isEccentricity⟩
    argPerigee := valueColumns_of_stodColumns isArgPerigee
    meanAnomaly := valueColumns_of_stodColumns isMeanAnomaly
    meanMotion := valueColumns_of_stodColumns isMeanMotion }

/-! ## Records that convert -/

/-- Columns of the first and of the second line that `std::stod` converts. -/
def firstColumns : List (Nat × Nat) := [(18, 7), (34, 10), (53, 6), (59, 2)]

def secondColumns : List (Nat × Nat) :=
  [(8, 8), (17, 8), (34, 8), (43, 8), (52, 11)]

/-- No conversion of a first line throws. -/
structure FirstConverts (line : Line) : Prop where
  number : ∃ field, substr line 2 5 = some field ∧ (stoi field).isSome
  values :
    ∀ columns ∈ firstColumns,
      (valueColumns line columns.1 columns.2).isSome

/-- No conversion of a second line throws. -/
structure SecondConverts (line : Line) : Prop where
  eccentricity :
    ∃ field, substr line 26 7 = some field ∧
      (stodValue ("0.".toList ++ field)).isSome
  values :
    ∀ columns ∈ secondColumns,
      (valueColumns line columns.1 columns.2).isSome

/-- No conversion of a record throws, and its epoch has a date. -/
structure Record.Converts (record : Record) : Prop where
  first : FirstConverts record.s1
  second : SecondConverts record.s2
  epoch :
    ∃ epoch, valueColumns record.s1 18 7 = some epoch ∧ epoch.jd.isSome

/-- A record has an entry exactly if it converts. -/
theorem Record.entry_isSome_iff (record : Record) :
    (record.entry fieldReader).isSome ↔ record.Converts := by
  constructor
  · intro built
    obtain ⟨entry, built⟩ := Option.isSome_iff_exists.mp built
    obtain ⟨field, column, built⟩ := Option.bind_eq_some_iff.mp built
    obtain ⟨number, isNumber, built⟩ := Option.bind_eq_some_iff.mp built
    obtain ⟨fields, isFields, -⟩ := Option.bind_eq_some_iff.mp built
    have read := (fieldReader_eq_some_iff _ _ _).mp isFields
    obtain ⟨epoch, isEpoch, isJd⟩ := read.epoch
    obtain ⟨digits, isDigits, eccentricity⟩ := read.eccentricity
    exact {
      first := {
        number := ⟨field, column, by simp [isNumber]⟩
        values := by
          simp [firstColumns, isEpoch, read.drag, read.bStarMantissa,
            read.bStarExponent] }
      second := {
        eccentricity := ⟨digits, isDigits, by rw [eccentricity]; rfl⟩
        values := by
          simp [secondColumns, read.inclination, read.raan, read.argPerigee,
            read.meanAnomaly, read.meanMotion] }
      epoch := ⟨epoch, isEpoch, by simp [isJd]⟩ }
  · rintro ⟨⟨⟨field, column, number⟩, first⟩,
      ⟨⟨digits, isDigits, eccentricity⟩, second⟩, epoch, isEpoch, jd⟩
    simp only [firstColumns, secondColumns, List.forall_mem_cons,
      Option.isSome_iff_exists] at first second number eccentricity jd
    obtain ⟨-, ⟨drag, isDrag⟩, ⟨mantissa, isMantissa⟩,
      ⟨exponent, isExponent⟩, -⟩ := first
    obtain ⟨⟨inclination, isInclination⟩, ⟨raan, isRaan⟩,
      ⟨argPerigee, isArgPerigee⟩, ⟨meanAnomaly, isMeanAnomaly⟩,
      ⟨meanMotion, isMeanMotion⟩, -⟩ := second
    obtain ⟨number, isNumber⟩ := number
    obtain ⟨eccentricity, isEccentricity⟩ := eccentricity
    obtain ⟨jd, isJd⟩ := jd
    have read : ReadsFields record.s1 record.s2
        ⟨jd, drag, mantissa, exponent, inclination, raan, eccentricity,
          argPerigee, meanAnomaly, meanMotion⟩ :=
      ⟨⟨epoch, isEpoch, isJd⟩, isDrag, isMantissa, isExponent, isInclination,
        isRaan, ⟨digits, isDigits, isEccentricity⟩, isArgPerigee,
        isMeanAnomaly, isMeanMotion⟩
    simp [Record.entry, column, isNumber,
      (fieldReader_eq_some_iff _ _ _).mpr read]

/--
The two satellites of the catalogue are read, and of a repeated line behind
them nothing is left.
-/
theorem parseKeo_wholeRecords_vanguards :
    ∃ entries,
      parseKeo fieldReader
          (some
            ((vanguard.lines ++ (vanguard2.lines ++ [])) ++
              [vanguard.s1]))
          [] =
        (.finished, [] ++ entries) ∧
        entries.map Keo.number = [5, 11] ∧
        entries.map Keo.name =
          ["0 VANGUARD 1".toList, "0 VANGUARD 2".toList] := by
  have first :
      ((vanguard.entry fieldReader).map Keo.number) = some 5 := by
    decide +kernel
  have second :
      ((vanguard2.entry fieldReader).map Keo.number) = some 11 := by
    decide +kernel
  obtain ⟨entry, isEntry, number⟩ := Option.map_eq_some_iff.mp first
  obtain ⟨entry2, isEntry2, number2⟩ := Option.map_eq_some_iff.mp second
  have unfinished : Unfinished [vanguard.s1] :=
    ⟨by decide +kernel, by decide +kernel, by decide +kernel⟩
  obtain ⟨reads, -, -, names⟩ :=
    parseKeo_wholeRecords fieldReader
      (.cons isRecord_vanguard (.cons isRecord_vanguard2 .nil))
      (.cons isEntry (.cons isEntry2 .nil)) []
  refine ⟨[entry, entry2], reads _ unfinished, ?_, ?_⟩
  · rw [List.map_cons, List.map_cons, number, number2]
    rfl
  · rw [names]
    decide +kernel

/-- A record in the standard columns converts if its day has a date. -/
theorem Tle.converts
    {tle : Tle}
    (found :
      (foundDay (catalogYear tle.line1.epochYear.value)
        tle.line1.epochDay.value).isSome)
    (name : Line) :
    Record.Converts
      { s1 := tle.line1.text, s2 := tle.line2.text, name := name } := by
  obtain ⟨day, isDay⟩ := Option.isSome_iff_exists.mp found
  have read := tle.read_eq PowerOfTen.floor
  rw [isDay, Option.map_some] at read
  obtain ⟨fields, isFields, -⟩ := fieldReader_of_reader read
  have number := tle.line1.number.stoi_text tle.line1.hasNumber (by decide)
  rw [← Record.entry_isSome_iff]
  simp [Record.entry, tle.line1.substr_number, number, isFields]

/-! ## Faults -/

/-- A line is too short for columns, or there is no number in them. -/
def Lacks
    (numeric : Line → Prop)
    (line : Line)
    (position count : Nat) : Prop :=
  ∀ field, substr line position count = some field → ¬ numeric field

/-- A first line that is too short or has a field without a number. -/
def FirstDamaged (line : Line) : Prop :=
  Lacks (fun field => (stoi field).isSome) line 2 5 ∨
    ∃ columns ∈ firstColumns, Lacks IsNumeric line columns.1 columns.2

/-- A second line that is too short or has a field without a number. -/
def SecondDamaged (line : Line) : Prop :=
  Lacks IsNumeric line 26 7 ∨
    ∃ columns ∈ secondColumns, Lacks IsNumeric line columns.1 columns.2

/-- One of the two lines of a satellite with a fault. -/
def Damaged (line : Line) : Prop :=
  line.head? = some '1' ∧ FirstDamaged line ∨
    line.head? = some '2' ∧ SecondDamaged line

/--
The digits of the eccentricity are a number.  They are converted with a point
in front of them, behind which anything is accepted.
-/
def Record.HasEccentricity (record : Record) : Prop :=
  ∃ field, substr record.s2 26 7 = some field ∧ IsNumeric field

/-- Columns that are converted hold a number. -/
theorem not_lacks_of_valueColumns
    {line : Line}
    {position count : Nat}
    (converts : (valueColumns line position count).isSome) :
    ¬ Lacks IsNumeric line position count := by
  intro lacks
  obtain ⟨value, converted⟩ := Option.isSome_iff_exists.mp converts
  obtain ⟨field, column, read⟩ := Option.bind_eq_some_iff.mp converted
  exact lacks field column
    (isNumeric_of_stodValue (by simp [read]))

theorem FirstConverts.not_damaged
    {line : Line}
    (converts : FirstConverts line) :
    ¬ FirstDamaged line := by
  rintro (lacks | ⟨columns, member, lacks⟩)
  · obtain ⟨field, column, number⟩ := converts.number
    exact lacks field column number
  · exact not_lacks_of_valueColumns (converts.values columns member) lacks

theorem SecondConverts.not_damaged
    {record : Record}
    (converts : SecondConverts record.s2)
    (hasEccentricity : record.HasEccentricity) :
    ¬ SecondDamaged record.s2 := by
  rintro (lacks | ⟨columns, member, lacks⟩)
  · obtain ⟨field, column, number⟩ := hasEccentricity
    exact lacks field column number
  · exact not_lacks_of_valueColumns (converts.values columns member) lacks

/-- A record without these digits has a line with a fault. -/
theorem Record.secondDamaged
    {record : Record}
    (noEccentricity : ¬ record.HasEccentricity) :
    SecondDamaged record.s2 :=
  .inl fun field column number => noEccentricity ⟨field, column, number⟩

/-- The two lines of a record that converts have no fault. -/
theorem IsRecord.not_damaged
    {block : List Line}
    {record : Record}
    {line : Line}
    (isRecord : IsRecord block record)
    (converts : record.Converts)
    (hasEccentricity : record.HasEccentricity)
    (member : line ∈ block) :
    ¬ Damaged line := by
  rintro (⟨isFirst, damaged⟩ | ⟨isSecond, damaged⟩)
  · have among : line ∈ firstLines block :=
      List.mem_filter.mpr ⟨member, by simpa using isFirst⟩
    rw [isRecord.first, List.mem_singleton] at among
    exact converts.first.not_damaged (among ▸ damaged)
  · have among : line ∈ secondLines block :=
      List.mem_filter.mpr ⟨member, by simpa using isSecond⟩
    rw [isRecord.second, List.mem_singleton] at among
    exact
      converts.second.not_damaged hasEccentricity (among ▸ damaged)

/-- Whole records that convert have no line with a fault. -/
theorem WholeRecords.not_damaged
    {lines : List Line}
    {records : List Record}
    {line : Line}
    (whole : WholeRecords lines records)
    (convert :
      ∀ record ∈ records, record.Converts ∧ record.HasEccentricity)
    (member : line ∈ lines) :
    ¬ Damaged line := by
  induction whole with
  | nil => cases member
  | cons isRecord later inductionHypothesis =>
      obtain ⟨⟨converts, hasEccentricity⟩, others⟩ :=
        List.forall_mem_cons.mp convert
      rcases List.mem_append.mp member with inBlock | inLater
      · exact isRecord.not_damaged converts hasEccentricity inBlock
      · exact inductionHypothesis others inLater

/-- The second lines of whole records are among the lines. -/
theorem WholeRecords.mem_s2
    {lines : List Line}
    {records : List Record}
    {record : Record}
    (whole : WholeRecords lines records)
    (member : record ∈ records) :
    record.s2 ∈ lines ∧ record.s2.head? = some '2' := by
  induction whole with
  | nil => cases member
  | @cons block lines first records isRecord later inductionHypothesis =>
      rcases List.mem_cons.mp member with rfl | inLater
      · have among : record.s2 ∈ secondLines block := by
          rw [isRecord.second]
          exact List.mem_singleton_self _
        obtain ⟨inBlock, isSecond⟩ := List.mem_filter.mp among
        exact ⟨List.mem_append_left _ inBlock, by simpa using isSecond⟩
      · obtain ⟨inLines, isSecond⟩ := inductionHypothesis inLater
        exact ⟨List.mem_append_right _ inLines, isSecond⟩

/-! ## How a file with faults is parsed -/

variable {Elements : Type} (reader : OrbitReader Elements)

/-- Records are listed exactly if all of them have an entry. -/
theorem exists_lists_iff (records : List Record) :
    (∃ entries, Lists reader records entries) ↔
      ∀ record ∈ records, (record.entry reader).isSome := by
  induction records with
  | nil => simp [Lists]
  | cons record records inductionHypothesis =>
      rw [List.forall_mem_cons, ← inductionHypothesis]
      constructor
      · rintro ⟨entries, lists⟩
        cases lists with
        | cons built later => exact ⟨by simp [built], _, later⟩
      · rintro ⟨built, entries, later⟩
        obtain ⟨entry, built⟩ := Option.isSome_iff_exists.mp built
        exact ⟨entry :: entries, .cons built later⟩

/-- A record without an entry ends the parse with an exception. -/
theorem parseFrom_thrown
    {lines : List Line}
    {records : List Record}
    (whole : WholeRecords lines records)
    (unlisted : ¬ ∀ record ∈ records, (record.entry reader).isSome)
    (behind : List Line) :
    (parseFrom reader {} (lines ++ behind)).1 = .thrown := by
  induction whole with
  | nil => simp at unlisted
  | @cons block lines record records isRecord later inductionHypothesis =>
      rw [List.append_assoc, parseFrom_record reader reads_nil rfl isRecord]
      cases built : record.entry reader with
      | none => rfl
      | some entry =>
          refine inductionHypothesis fun others => unlisted ?_
          exact List.forall_mem_cons.mpr ⟨by simp [built], others⟩

/--
What is expected of a parse: it returns a truth value, it returns `false` for
a line with a fault, and when it returns `false` the list is kept.
-/
structure HandlesFaults
    (file : Option (List Line))
    (satellites : List (Keo TleFields)) : Prop where
  returns :
    (parseKeo fieldReader file satellites).1 = .finished ∨
      (parseKeo fieldReader file satellites).1 = .failed
  refuses :
    ∀ lines, file = some lines → ∀ line ∈ lines, Damaged line →
      (parseKeo fieldReader file satellites).1 = .failed
  keeps :
    (parseKeo fieldReader file satellites).1 = .failed →
      (parseKeo fieldReader file satellites).2 = satellites

/--
Records that convert and have digits of an eccentricity, and behind them no
repeated line and no fault.
-/
def Faultless (lines : List Line) : Prop :=
  ∃ whole records tail, lines = whole ++ tail ∧
    WholeRecords whole records ∧
    (∀ record ∈ records, record.Converts ∧ record.HasEccentricity) ∧
    Unfinished tail ∧ ∀ line ∈ tail, ¬ Damaged line

/-- A line is repeated before the first record is complete. -/
def RepeatsAtOnce (lines : List Line) : Prop :=
  ∃ seen temp rest, lines = seen ++ temp :: rest ∧ Repeats seen temp

/-- Records that convert are listed. -/
theorem exists_fields_iff (records : List Record) :
    (∃ entries, Lists fieldReader records entries) ↔
      ∀ record ∈ records, record.Converts := by
  simp only [exists_lists_iff, Record.entry_isSome_iff]

theorem Faultless.handlesFaults
    {lines : List Line}
    (faultless : Faultless lines)
    (satellites : List (Keo TleFields)) :
    HandlesFaults (some lines) satellites := by
  obtain ⟨whole, records, tail, rfl, isWhole, convert, unfinished,
    undamaged⟩ := faultless
  obtain ⟨entries, lists⟩ :=
    (exists_fields_iff records).mpr fun record member =>
      (convert record member).1
  have ends : (parseKeo fieldReader (some (whole ++ tail)) satellites).1 =
      .finished := by
    rw [parseKeo, parseFrom_wholeRecords fieldReader isWhole lists,
      parseFrom_unfinished fieldReader unfinished]
  refine ⟨.inl ends, ?_, by simp [ends]⟩
  rintro _ ⟨⟩ line member damaged
  rcases List.mem_append.mp member with inWhole | inTail
  · exact absurd damaged (isWhole.not_damaged convert inWhole)
  · exact absurd damaged (undamaged line inTail)

theorem RepeatsAtOnce.handlesFaults
    {lines : List Line}
    (repeatsAtOnce : RepeatsAtOnce lines)
    (satellites : List (Keo TleFields)) :
    HandlesFaults (some lines) satellites := by
  obtain ⟨seen, temp, rest, rfl, repeats⟩ := repeatsAtOnce
  have parsed :
      parseKeo fieldReader (some (seen ++ temp :: rest)) satellites =
        (.failed, satellites) := by
    rw [parseKeo, parseFrom_repeated fieldReader repeats, List.append_nil]
  rw [Prod.ext_iff] at parsed
  exact ⟨.inr parsed.1, fun _ _ _ _ _ => parsed.1, fun _ => parsed.2⟩

/-- A file that is handled has no fault, or a line is repeated at once. -/
theorem HandlesFaults.faultless_or
    {lines : List Line}
    {satellites : List (Keo TleFields)}
    (handles : HandlesFaults (some lines) satellites) :
    Faultless lines ∨ RepeatsAtOnce lines := by
  obtain ⟨whole, records, behind, rfl, isWhole, ends⟩ :=
    exists_wholeRecords lines
  obtain ⟨returns, refuses, keeps⟩ := handles
  have convert : ∀ record ∈ records, record.Converts := by
    by_contra unlisted
    simp only [← Record.entry_isSome_iff] at unlisted
    have thrown :
        (parseKeo fieldReader (some (whole ++ behind)) satellites).1 =
          .thrown :=
      parseFrom_thrown fieldReader isWhole unlisted behind
    simp [thrown] at returns
  obtain ⟨entries, lists⟩ := (exists_fields_iff records).mpr convert
  simp only [parseKeo, parseFrom_wholeRecords fieldReader isWhole lists]
    at returns refuses keeps
  cases ends with
  | unfinished unfinished =>
      have undamaged : ∀ line ∈ whole ++ behind, ¬ Damaged line := by
        intro line member damaged
        have failed := refuses _ rfl line member damaged
        rw [parseFrom_unfinished fieldReader unfinished] at failed
        cases failed
      left
      refine
        ⟨whole, records, behind, rfl, isWhole, fun record member => ?_,
          unfinished, fun line member =>
            undamaged line (List.mem_append_right _ member)⟩
      refine ⟨convert record member, ?_⟩
      by_contra noEccentricity
      obtain ⟨inWhole, isSecond⟩ := isWhole.mem_s2 member
      exact
        undamaged _ (List.mem_append_left _ inWhole)
          (.inr ⟨isSecond, Record.secondDamaged noEccentricity⟩)
  | @repeated seen temp repeats rest =>
      right
      simp only [parseFrom_repeated fieldReader repeats, List.append_nil,
        List.append_right_eq_self, forall_const] at keeps
      subst keeps
      cases lists
      cases isWhole
      exact ⟨seen, temp, rest, rfl, repeats⟩

end CatalogTle

end Radar
