import Radar.CatalogRecords
import Radar.TleRecord

namespace Radar

/-!
# Entries of two-line records

A place of a record in a catalogue file is a record in the standard columns,
with what stands before and behind it.  `CatalogTLE::parse_keo` appends an
entry for it that keeps few of the encoded values: the epoch is cut behind its
first decimal, the sign of the first derivative and the point of the drag
coefficient are left out, and two of the four angles stay in degrees.
-/

namespace CatalogTle

/-! ## Records in a file -/

/-- A record in the standard columns, in a file that is parsed. -/
structure TlePlace (pow10 : PowerOfTen) where
  satellites : List (Keo TleElements)
  before : List Line
  records : List Record
  whole : WholeRecords before records
  earlier : List (Keo TleElements)
  lists : Lists pow10.reader records earlier
  tle : Tle
  name : Line
  block : List Line
  isRecord :
    IsRecord block
      { s1 := tle.line1.text, s2 := tle.line2.text, name := name }
  behind : List Line

namespace TlePlace

variable {pow10 : PowerOfTen} (place : TlePlace pow10)

/-- The lines of the file. -/
def file : List Line := place.before ++ (place.block ++ place.behind)

/-- The entry that is appended for the record. -/
def appended : Option (Keo TleElements) :=
  (parseKeo pow10.reader (some place.file) place.satellites).2[
    place.satellites.length + place.earlier.length]?

/-- The entry holds the values that the columns of the record encode. -/
def KeepsValues : Prop :=
  ∃ entry, place.appended = some entry ∧
    entry.number = UInt32.ofNat place.tle.line1.number.value ∧
    entry.elements = place.tle.elements

/-- The entry that is appended is built from the two lines. -/
theorem appended_eq_entry :
    place.appended =
      Record.entry pow10.reader
        { s1 := place.tle.line1.text
          s2 := place.tle.line2.text
          name := place.name } := by
  unfold appended file parseKeo
  dsimp only
  rw [parseFrom_wholeRecords pow10.reader place.whole place.lists,
    parseFrom_record pow10.reader reads_nil rfl place.isRecord]
  cases Record.entry pow10.reader
      { s1 := place.tle.line1.text
        s2 := place.tle.line2.text
        name := place.name } with
  | none => simp
  | some entry => simp

/-- The entry of a record in the standard columns. -/
theorem appended_eq :
    place.appended =
      (foundDay (catalogYear place.tle.line1.epochYear.value)
        place.tle.line1.epochDay.value).map fun day : Int =>
          { name := if place.name.isEmpty then noname else place.name
            number := UInt32.ofNat place.tle.line1.number.value
            elements := place.tle.foundElements day } := by
  have number := place.tle.line1.number.stoi_text
    place.tle.line1.hasNumber (by decide)
  have sameNumber : UInt32.ofInt (place.tle.line1.number.value : Int) =
      UInt32.ofNat place.tle.line1.number.value := by
    have below := place.tle.line1.number.value_lt
    unfold UInt32.ofInt
    congr 1
    omega
  rw [appended_eq_entry, Record.entry, place.tle.line1.substr_number,
    Option.bind_eq_bind, Option.bind_some, number, Option.bind_eq_bind,
    Option.bind_some, place.tle.read_eq pow10, sameNumber]
  cases foundDay (catalogYear place.tle.line1.epochYear.value)
    place.tle.line1.epochDay.value <;> rfl

end TlePlace

/-! ## What the entry keeps -/

/-- The days of a catalogue that `WychKd` moves or loses. -/
def Line1.IsMoved (line : Line1) : Prop :=
  0 < line.epochDay.value ∧ newYear 2000 + 59 ≤ line.epochDayNumber ∧
    line.epochDayNumber < newYear 2001

/--
Records of which nothing is lost: the epoch has one decimal and is not in
March to December 2000, the first derivative is not negative, and the drag
coefficient, the inclination and the ascending node are zero.
-/
structure Tle.IsPlain (tle : Tle) : Prop where
  epochDecimals : tle.line1.epochDecimals.value % 10 ^ 7 = 0
  epochDay : ¬ tle.line1.IsMoved
  drag : tle.line1.dragSign = .minus → tle.line1.drag.value = 0
  bStar : tle.line1.bStar.value = 0
  inclination : tle.line2.inclination.value = 0
  raan : tle.line2.raan.value = 0

/-- A day is found as it is unless it is moved or lost. -/
theorem Line1.foundDay_eq_iff (line : Line1) :
    foundDay (catalogYear line.epochYear.value) line.epochDay.value =
        some line.epochDayNumber ↔ ¬ line.IsMoved := by
  unfold foundDay Line1.IsMoved Line1.epochDayNumber
  simp only [Int.natCast_pos]
  split
  · next moved =>
      refine iff_of_false ?_ (not_not_intro moved)
      split
      · exact (Option.some_ne_none _).symm
      · rw [Option.some.injEq]
        omega
  · next kept => exact iff_of_true rfl kept

/-- The Julian date is that of the epoch without its later decimals. -/
theorem Line1.jd_eq_iff (line : Line1) (day : Int) :
    (day : Rat) - 1 / 2 + line.epochTenths / 10 = line.jd ↔
      day = line.epochDayNumber ∧
        line.epochDecimals.value % 10 ^ 7 = 0 := by
  have split : (line.epochDecimals.value : Rat) =
      line.epochTenths * 10 ^ 7 +
        (line.epochDecimals.value % 10 ^ 7 : Nat) := by
    exact_mod_cast (Nat.div_add_mod' line.epochDecimals.value (10 ^ 7)).symm
  have below : line.epochDecimals.value % 10 ^ 7 < 10 ^ 7 :=
    Nat.mod_lt _ (by decide)
  rw [Line1.jd, split]
  generalize line.epochDecimals.value % 10 ^ 7 = others at below
  constructor
  · intro same
    have scaled : (day - line.epochDayNumber) * 10 ^ 8 = (others : Int) := by
      have : ((day : Rat) - line.epochDayNumber) * 10 ^ 8 = others := by
        linarith
      exact_mod_cast this
    omega
  · rintro ⟨rfl, rfl⟩
    push_cast
    ring

/-- The first derivative is right when it is not negative. -/
theorem Line1.drag_eq_iff (line : Line1) :
    (line.drag.value / 10 ^ 8 : Rat) = line.dragValue ↔
      (line.dragSign = .minus → line.drag.value = 0) := by
  unfold Line1.dragValue
  cases line.dragSign with
  | blank => simp [FieldSign.factor]
  | plus => simp [FieldSign.factor]
  | minus =>
      constructor
      · intro same _
        have : (line.drag.value : Rat) = 0 := by
          push_cast [FieldSign.factor] at same
          linarith
        exact_mod_cast this
      · intro zero
        simp [zero rfl]

/-- The drag coefficient is right when it is zero. -/
theorem Line1.bStar_eq_iff (line : Line1) :
    line.bStarSign.factor * line.bStar.value * 10 ^ line.exponentValue =
        line.bStarValue ↔ line.bStar.value = 0 := by
  have scale : (10 : Rat) ^ line.exponentValue ≠ 0 :=
    zpow_ne_zero _ (by norm_num)
  have sign : (line.bStarSign.factor : Rat) ≠ 0 := by
    cases line.bStarSign <;> decide
  unfold Line1.bStarValue
  rw [mul_left_inj' scale, mul_right_inj' sign, eq_div_iff (by norm_num)]
  constructor
  · intro same
    have : (line.bStar.value : Rat) = 0 := by
      linarith
    exact_mod_cast this
  · intro zero
    rw [zero]
    norm_num

/-- An angle in degrees is right when it is zero. -/
theorem radians_eq_iff (degrees : Rat) :
    degrees = radians degrees ↔ degrees = 0 := by
  have less : mPi / 180 < 1 := by
    unfold mPi
    norm_num
  constructor
  · intro same
    have scaled : degrees * (1 - mPi / 180) = 0 := by
      unfold radians at same
      linarith
    rcases mul_eq_zero.mp scaled with zero | one
    · exact zero
    · linarith
  · rintro rfl
    simp [radians]

/-- The macro converts to radians. -/
theorem gr_eq_radians (degrees : Rat) : gr degrees = radians degrees := by
  unfold gr radians
  ring

/-- The elements found are those encoded when all of their fields are. -/
theorem Tle.foundElements_eq_iff (tle : Tle) (day : Int) :
    tle.foundElements day = tle.elements ↔
      (day = tle.line1.epochDayNumber ∧
        tle.line1.epochDecimals.value % 10 ^ 7 = 0) ∧
      (tle.line1.dragSign = .minus → tle.line1.drag.value = 0) ∧
      tle.line1.bStar.value = 0 ∧ tle.line2.inclination.value = 0 ∧
      tle.line2.raan.value = 0 := by
  unfold Tle.foundElements Tle.elements
  rw [TleElements.mk.injEq, tle.line1.jd_eq_iff, tle.line1.drag_eq_iff,
    tle.line1.bStar_eq_iff, radians_eq_iff, radians_eq_iff,
    gr_eq_radians, gr_eq_radians]
  tauto

/-- The entry keeps the encoded values of plain records, and of no others. -/
theorem TlePlace.keepsValues_iff
    {pow10 : PowerOfTen}
    (place : TlePlace pow10) :
    place.KeepsValues ↔ place.tle.IsPlain := by
  unfold TlePlace.KeepsValues
  rw [place.appended_eq]
  constructor
  · rintro ⟨entry, isEntry, -, elements⟩
    obtain ⟨day, found, rfl⟩ := Option.map_eq_some_iff.mp isEntry
    obtain ⟨⟨rfl, decimals⟩, drag, bStar, inclination, raan⟩ :=
      (place.tle.foundElements_eq_iff day).mp elements
    exact {
      epochDecimals := decimals
      epochDay := place.tle.line1.foundDay_eq_iff.mp found
      drag := drag
      bStar := bStar
      inclination := inclination
      raan := raan }
  · intro plain
    rw [place.tle.line1.foundDay_eq_iff.mpr plain.epochDay]
    refine ⟨_, rfl, rfl, ?_⟩
    exact (place.tle.foundElements_eq_iff _).mpr
      ⟨⟨rfl, plain.epochDecimals⟩, plain.drag, plain.bStar,
        plain.inclination, plain.raan⟩

/-! ## A record that loses its values -/

/-- The powers of ten with integer exponents. -/
def PowerOfTen.floor : PowerOfTen where
  power exponent := 10 ^ exponent.floor
  onIntegers exponent := by
    rw [Rat.floor_intCast]

/-- The first line of a space station. -/
def stationLine1 : Line1 where
  beforeNumber := ⟨" ".toList, rfl⟩
  number := .of 0 "25544".toList rfl
  hasNumber := by decide
  beforeEpoch := ⟨"U 98067A   ".toList, rfl⟩
  epochYear := .of "08".toList rfl
  epochDay := .of "264".toList rfl
  epochDecimals := .of "51782528".toList rfl
  beforeDrag := ⟨" ".toList, rfl⟩
  dragSign := .minus
  drag := .of "00002182".toList rfl
  beforeBStar := ⟨" 00000-0 ".toList, rfl⟩
  bStarSign := .minus
  bStar := .of "11606".toList rfl
  exponentSign := .minus
  exponent := .of "4".toList rfl
  rest := " 0  2927".toList

/-- The second line of a space station. -/
def stationLine2 : Line2 where
  beforeInclination := ⟨" 25544 ".toList, rfl⟩
  inclination := ⟨.of 1 "51".toList rfl, .of "6416".toList rfl⟩
  beforeRaan := ⟨" ".toList, rfl⟩
  raan := ⟨.of 0 "247".toList rfl, .of "4627".toList rfl⟩
  beforeEccentricity := ⟨" ".toList, rfl⟩
  eccentricity := .of "0006703".toList rfl
  beforeArgPerigee := ⟨" ".toList, rfl⟩
  argPerigee := ⟨.of 0 "130".toList rfl, .of "5360".toList rfl⟩
  beforeMeanAnomaly := ⟨" ".toList, rfl⟩
  meanAnomaly := ⟨.of 0 "325".toList rfl, .of "0288".toList rfl⟩
  beforeMeanMotion := ⟨" ".toList, rfl⟩
  meanMotion := ⟨.of 0 "15".toList rfl, .of "72125391".toList rfl⟩
  rest := "563537".toList

example :
    stationLine1.text =
        "1 25544U 98067A   08264.51782528 ".toList ++
          "-.00002182  00000-0 -11606-4 0  2927".toList ∧
      stationLine2.text =
        "2 25544  51.6416 247.4627 0006703 ".toList ++
          "130.5360 325.0288 15.72125391563537".toList :=
  ⟨rfl, rfl⟩

/-- The two lines are the whole file. -/
def stationPlace : TlePlace PowerOfTen.floor where
  satellites := []
  before := []
  records := []
  whole := .nil
  earlier := []
  lists := .nil
  tle := ⟨stationLine1, stationLine2⟩
  name := []
  block := [stationLine1.text, stationLine2.text]
  isRecord := {
    first := rfl
    second := rfl
    name := rfl
    complete := by
      intro line isLast
      cases isLast
      exact .inr rfl }
  behind := []

/-- The entry of the space station does not keep the encoded values. -/
theorem station_not_keepsValues : ¬ stationPlace.KeepsValues := by
  rintro ⟨entry, isEntry, -, elements⟩
  rw [stationPlace.appended_eq] at isEntry
  obtain ⟨day, -, rfl⟩ := Option.map_eq_some_iff.mp isEntry
  have same := (stationPlace.tle.foundElements_eq_iff day).mp elements
  have noDrag : stationLine1.bStar.value ≠ 0 := by
    decide
  exact noDrag same.2.2.1

/-- Columns of zeros. -/
def DigitField.zeros (width : Nat) : DigitField width where
  digits := List.replicate width '0'
  length_digits := List.length_replicate
  areDigits := by
    intro character member
    rw [List.eq_of_mem_replicate member]
    rfl

example :
    Tle.IsPlain {
      line1 := { stationLine1 with
        epochDecimals := .of "50000000".toList rfl
        dragSign := .blank
        bStar := .zeros 5 }
      line2 := { stationLine2 with
        inclination := ⟨.of 2 "0".toList rfl, .zeros 4⟩
        raan := ⟨.of 2 "0".toList rfl, .zeros 4⟩ } } where
  epochDecimals := by decide
  epochDay := by unfold Line1.IsMoved; decide
  drag := nofun
  bStar := by decide
  inclination := by decide +kernel
  raan := by decide +kernel

end CatalogTle

end Radar
