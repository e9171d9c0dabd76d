import Radar.TleEpoch
import Radar.TleNumerals

namespace Radar

/-!
# Two-line records

The columns of the two lines of a satellite, the values they encode, and what
the entry that `CatalogTLE::parse_keo` appends for them holds.
-/

namespace CatalogTle

/-! ## Columns of the two lines -/

/--
The first line of a satellite.  The layout leaves the gaps free; the column
behind the first derivative is blank.
-/
structure Line1 where
  beforeNumber : Gap 1
  number : PaddedField 5
  hasNumber : number.digits ≠ []
  beforeEpoch : Gap 11
  epochYear : DigitField 2
  epochDay : DigitField 3
  epochDecimals : DigitField 8
  beforeDrag : Gap 1
  dragSign : FieldSign
  drag : DigitField 8
  beforeBStar : Gap 9
  bStarSign : FieldSign
  bStar : DigitField 5
  exponentSign : FieldSign
  exponent : DigitField 1
  rest : Line

/-- The second line of a satellite. -/
structure Line2 where
  beforeInclination : Gap 7
  inclination : DecimalField 3 4
  beforeRaan : Gap 1
  raan : DecimalField 3 4
  beforeEccentricity : Gap 1
  eccentricity : DigitField 7
  beforeArgPerigee : Gap 1
  argPerigee : DecimalField 3 4
  beforeMeanAnomaly : Gap 1
  meanAnomaly : DecimalField 3 4
  beforeMeanMotion : Gap 1
  meanMotion : DecimalField 2 8
  rest : Line

namespace Line1

variable (line : Line1)

/-- Text of the epoch. -/
def epochText : Line :=
  line.epochYear.digits ++ line.epochDay.digits ++
    '.' :: line.epochDecimals.digits

/-- The columns of a first line. -/
def columns : List Line :=
  [['1'], line.beforeNumber.text, line.number.text, line.beforeEpoch.text,
    line.epochText, line.beforeDrag.text, [line.dragSign.char],
    '.' :: line.drag.digits ++ [' '], line.beforeBStar.text,
    line.bStarSign.char :: line.bStar.digits,
    line.exponentSign.char :: line.exponent.digits, line.rest]

/-- The text of a first line. -/
def text : Line := line.columns.flatten

/-- The Julian day number of the day of the epoch. -/
def epochDayNumber : Int :=
  newYear (catalogYear line.epochYear.value) + line.epochDay.value - 1

/-- The Julian date of the epoch. -/
def jd : Rat :=
  line.epochDayNumber - 1 / 2 + line.epochDecimals.value / 10 ^ 8

/-- The first derivative of the mean motion. -/
def dragValue : Rat := line.dragSign.factor * (line.drag.value / 10 ^ 8)

/-- The exponent of the drag coefficient. -/
def exponentValue : Int := line.exponentSign.factor * line.exponent.value

/-- The drag coefficient. -/
def bStarValue : Rat :=
  line.bStarSign.factor * (line.bStar.value / 10 ^ 5) *
    10 ^ line.exponentValue

end Line1

namespace Line2

variable (line : Line2)

/-- The columns of a second line. -/
def columns : List Line :=
  [['2'], line.beforeInclination.text, line.inclination.text,
    line.beforeRaan.text, line.raan.text, line.beforeEccentricity.text,
    line.eccentricity.digits, line.beforeArgPerigee.text,
    line.argPerigee.text, line.beforeMeanAnomaly.text, line.meanAnomaly.text,
    line.beforeMeanMotion.text, line.meanMotion.text, line.rest]

/-- The text of a second line. -/
def text : Line := line.columns.flatten

end Line2

/-- The two lines of a satellite. -/
structure Tle where
  line1 : Line1
  line2 : Line2

/-- Degrees in radians. -/
def radians (degrees : Rat) : Rat := degrees / 180 * mPi

/-- The elements that the columns of the two lines encode. -/
def Tle.elements (tle : Tle) : TleElements where
  jd := tle.line1.jd
  inclination := radians tle.line2.inclination.value
  eccentricity := tle.line2.eccentricity.value / 10 ^ 7
  raan := radians tle.line2.raan.value
  argPerigee := radians tle.line2.argPerigee.value
  bStar := tle.line1.bStarValue
  drag := tle.line1.dragValue
  meanMotion := tle.line2.meanMotion.value
  meanAnomaly := radians tle.line2.meanAnomaly.value

/-! ## Reading the columns -/

/-- A part of a line that starts with one of its columns. -/
theorem substr_columns
    {columns : List Line}
    (index : Nat)
    {column : Line}
    (isColumn : columns[index]? = some column)
    {position count : Nat}
    (isPosition : (columns.take index).flatten.length = position)
    (within : count ≤ column.length) :
    substr columns.flatten position count = some (column.take count) := by
  obtain ⟨inRange, isColumn⟩ := List.getElem?_eq_some_iff.mp isColumn
  have split : columns.flatten =
      (columns.take index).flatten ++
        (column ++ (columns.drop (index + 1)).flatten) := by
    rw [← isColumn, ← List.flatten_cons, ← List.flatten_append,
      List.cons_getElem_drop_succ, List.take_append_drop]
  rw [split, substr, if_pos (by simp [isPosition]),
    List.drop_left' isPosition, List.take_append_of_le_length within]

/-- A part of a line that is one of its columns. -/
theorem substr_column
    {columns : List Line}
    (index : Nat)
    {column : Line}
    (isColumn : columns[index]? = some column)
    {position count : Nat}
    (isPosition : (columns.take index).flatten.length = position)
    (isCount : column.length = count) :
    substr columns.flatten position count = some column := by
  rw [substr_columns index isColumn isPosition (Nat.le_of_eq isCount.symm),
    List.take_of_length_le (Nat.le_of_eq isCount)]

/-- A field is read from the columns of a line. -/
theorem stodColumns_of_substr
    {line column : Line}
    {position count : Nat}
    {number : Rat}
    (isColumn : substr line position count = some column)
    (read : stod column = some number) :
    stodColumns line position count = some number := by
  rw [stodColumns, isColumn]
  exact read

namespace Line1

variable (line : Line1)

/-- The number of the satellite is cut out. -/
theorem substr_number :
    substr line.text 2 5 = some line.number.text :=
  substr_column 2 rfl (by simp [columns]) (by simp)

/-- The first of the decimals of the epoch. -/
def epochTenths : Nat := line.epochDecimals.value / 10 ^ 7

/-- The decimals of the epoch are its first one and seven others. -/
theorem exists_epochDecimals :
    ∃ first others, line.epochDecimals.digits = first :: others ∧
      digitsValue [first] = line.epochTenths := by
  have length := line.epochDecimals.length_digits
  have areDigits := line.epochDecimals.areDigits
  obtain ⟨first, others, same⟩ := List.exists_cons_of_length_pos
    (by omega : 0 < line.epochDecimals.digits.length)
  refine ⟨first, others, same, ?_⟩
  rw [same, List.length_cons] at length
  have seven : others.length = 7 := by
    omega
  have below := digitsValue_lt fun character member =>
    areDigits character (same ▸ List.mem_cons_of_mem first member)
  have value : line.epochDecimals.value =
      digitsValue [first] * 10 ^ 7 + digitsValue others := by
    rw [DigitField.value, same, ← List.singleton_append, digitsValue_append,
      seven]
  rw [seven] at below
  unfold epochTenths
  omega

/-- The epoch is read with the first of its decimals. -/
theorem stod_epoch :
    stodColumns line.text 18 7 =
      some (line.epochYear.value * 1000 + line.epochDay.value +
        line.epochTenths / 10 : Rat) := by
  have yearLength := line.epochYear.length_digits
  have dayLength := line.epochDay.length_digits
  obtain ⟨first, others, same, tenths⟩ := line.exists_epochDecimals
  have column : substr line.text 18 7 =
      some (line.epochYear.digits ++ line.epochDay.digits ++
        '.' :: [first]) := by
    have taken : substr line.text 18 7 = some (line.epochText.take 7) :=
      substr_columns 4 rfl (by simp [columns]) (by simp [epochText])
    have split : line.epochText =
        (line.epochYear.digits ++ line.epochDay.digits ++ '.' :: [first]) ++
          others := by
      simp [epochText, same]
    rw [taken, split, List.take_left' (by simp [yearLength, dayLength])]
  have wholeDigits :
      ∀ character ∈ line.epochYear.digits ++ line.epochDay.digits,
        character.isDigit = true := by
    intro character member
    rcases List.mem_append.mp member with inYear | inDay
    · exact line.epochYear.areDigits character inYear
    · exact line.epochDay.areDigits character inDay
  have firstDigit : ∀ character ∈ [first], character.isDigit = true := by
    intro character member
    rw [List.mem_singleton.mp member]
    exact line.epochDecimals.areDigits first (by simp [same])
  have read := stod_point wholeDigits firstDigit (by simp)
    (by simp [yearLength, dayLength]) 0 0
  rw [tenths, digitsValue_append, dayLength] at read
  push_cast at read
  exact stodColumns_of_substr column (by simpa [DigitField.value] using read)

/-- The first derivative is read without its sign. -/
theorem stod_drag :
    stodColumns line.text 34 10 =
      some (line.drag.value / 10 ^ 8 : Rat) := by
  have column : substr line.text 34 10 =
      some ('.' :: line.drag.digits ++ [' ']) :=
    substr_column 7 rfl (by simp [columns, epochText]) (by simp)
  have length := line.drag.length_digits
  have read := stod_point (List.forall_mem_nil _) line.drag.areDigits
    (List.ne_nil_of_length_pos (by omega)) (by simp) 0 1
  rw [length] at read
  exact stodColumns_of_substr column
    (by simpa [digitsValue, DigitField.value] using read)

/-- The mantissa of the drag coefficient is read without its point. -/
theorem stod_bStar :
    stodColumns line.text 53 6 =
      some (line.bStarSign.factor * line.bStar.value : Rat) := by
  have column : substr line.text 53 6 =
      some (line.bStarSign.char :: line.bStar.digits) :=
    substr_column 9 rfl (by simp [columns, epochText]) (by simp)
  exact stodColumns_of_substr column
    (line.bStar.stod_sign line.bStarSign (by decide) (by decide))

/-- The exponent of the drag coefficient is read. -/
theorem stod_exponent :
    stodColumns line.text 59 2 = some (line.exponentValue : Rat) := by
  have column : substr line.text 59 2 =
      some (line.exponentSign.char :: line.exponent.digits) :=
    substr_column 10 rfl (by simp [columns, epochText]) (by simp)
  rw [stodColumns_of_substr column
    (line.exponent.stod_sign line.exponentSign (by decide) (by decide)),
    exponentValue]
  push_cast
  rfl

end Line1

namespace Line2

variable (line : Line2)

/-- The inclination is read, in degrees. -/
theorem stod_inclination :
    stodColumns line.text 8 8 = some line.inclination.value :=
  stodColumns_of_substr (substr_column 2 rfl (by simp [columns]) (by simp))
    (line.inclination.stod_text (by decide) (by decide))

/-- The ascending node is read, in degrees. -/
theorem stod_raan :
    stodColumns line.text 17 8 = some line.raan.value :=
  stodColumns_of_substr (substr_column 4 rfl (by simp [columns]) (by simp))
    (line.raan.stod_text (by decide) (by decide))

/-- The digits of the eccentricity are cut out. -/
theorem substr_eccentricity :
    substr line.text 26 7 = some line.eccentricity.digits :=
  substr_column 6 rfl (by simp [columns]) (by simp)

/-- The eccentricity is read behind a point. -/
theorem stod_eccentricity :
    stod ("0.".toList ++ line.eccentricity.digits) =
      some (line.eccentricity.value / 10 ^ 7 : Rat) := by
  have length := line.eccentricity.length_digits
  have zero : ∀ character ∈ ['0'], character.isDigit = true := by
    simp
  have read := stod_point zero line.eccentricity.areDigits
    (List.ne_nil_of_length_pos (by omega)) (by simp) 0 0
  rw [length] at read
  simpa [DigitField.value] using read

/-- The argument of the perigee is read, in degrees. -/
theorem stod_argPerigee :
    stodColumns line.text 34 8 = some line.argPerigee.value :=
  stodColumns_of_substr (substr_column 8 rfl (by simp [columns]) (by simp))
    (line.argPerigee.stod_text (by decide) (by decide))

/-- The mean anomaly is read, in degrees. -/
theorem stod_meanAnomaly :
    stodColumns line.text 43 8 = some line.meanAnomaly.value :=
  stodColumns_of_substr (substr_column 10 rfl (by simp [columns]) (by simp))
    (line.meanAnomaly.stod_text (by decide) (by decide))

/-- The mean motion is read. -/
theorem stod_meanMotion :
    stodColumns line.text 52 11 = some line.meanMotion.value :=
  stodColumns_of_substr (substr_column 12 rfl (by simp [columns]) (by simp))
    (line.meanMotion.stod_text (by decide) (by decide))

end Line2

/-- The elements an entry holds when a day has been found for its epoch. -/
def Tle.foundElements (tle : Tle) (day : Int) : TleElements where
  jd := day - 1 / 2 + tle.line1.epochTenths / 10
  inclination := tle.line2.inclination.value
  eccentricity := tle.line2.eccentricity.value / 10 ^ 7
  raan := tle.line2.raan.value
  argPerigee := gr tle.line2.argPerigee.value
  bStar :=
    tle.line1.bStarSign.factor * tle.line1.bStar.value *
      10 ^ tle.line1.exponentValue
  drag := tle.line1.drag.value / 10 ^ 8
  meanMotion := tle.line2.meanMotion.value
  meanAnomaly := gr tle.line2.meanAnomaly.value

/-- What is read from the two lines of a satellite. -/
theorem Tle.read_eq (tle : Tle) (pow10 : PowerOfTen) :
    pow10.reader.read tle.line1.text tle.line2.text =
      (foundDay (catalogYear tle.line1.epochYear.value)
        tle.line1.epochDay.value).map tle.foundElements := by
  have tenths : (tle.line1.epochTenths : Rat) < 10 := by
    have below := tle.line1.epochDecimals.value_lt
    have : tle.line1.epochTenths < 10 := by
      unfold Line1.epochTenths
      omega
    exact_mod_cast this
  have isPart : (tle.line1.epochTenths / 10 : Rat) < 1 := by
    rw [div_lt_one (by norm_num)]
    exact tenths
  have jd := epochJd_eq tle.line1.epochYear.value_lt
    tle.line1.epochDay.value_lt (by positivity) isPart
  unfold PowerOfTen.reader
  dsimp only
  rw [tle.line1.stod_epoch, tle.line1.stod_drag, tle.line1.stod_bStar,
    tle.line1.stod_exponent, tle.line2.stod_inclination,
    tle.line2.stod_raan, tle.line2.substr_eccentricity,
    tle.line2.stod_argPerigee, tle.line2.stod_meanAnomaly,
    tle.line2.stod_meanMotion]
  simp only [Option.bind_eq_bind, Option.bind_some, jd,
    tle.line2.stod_eccentricity, pow10.onIntegers]
  cases foundDay (catalogYear tle.line1.epochYear.value)
    tle.line1.epochDay.value <;> rfl

end CatalogTle

end Radar
