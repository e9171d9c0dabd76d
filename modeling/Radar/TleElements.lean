import Mathlib.Data.Rat.Floor
import Mathlib.Tactic.NormNum
import Radar.CatalogTle

namespace Radar

/-!
# Elements of a two-line record

What `CatalogTLE::parse_keo` converts to `double`, and the calendar functions
of `Utils` it uses for the epoch.  The numbers are exact here: no conversion
or operation rounds.  The elements that are recovered from these by
floating-point functions are left out.
-/

namespace CatalogTle

/-! ## `std::stod` -/

/-- Leave out whitespace and a sign; is the sign a minus? -/
def stodSign (text : Line) : Bool × Line :=
  match text.dropWhile isSpace with
  | '-' :: rest => (true, rest)
  | '+' :: rest => (false, rest)
  | rest => (false, rest)

/-- The digits behind a decimal point, and what follows them. -/
def stodDecimals : Line → Line × Line
  | '.' :: rest => (rest.takeWhile Char.isDigit, rest.dropWhile Char.isDigit)
  | rest => ([], rest)

/-- A decimal exponent; without one, or without its digits, it is zero. -/
def stodExponent : Line → Int
  | [] => 0
  | mark :: rest =>
      let negative := rest.head? = some '-'
      let digits :=
        (if negative ∨ rest.head? = some '+' then rest.tail else rest).takeWhile
          Char.isDigit
      if mark ≠ 'e' ∧ mark ≠ 'E' then 0
      else if negative then - (digitsValue digits : Int)
      else digitsValue digits

/-- Does a hexadecimal numeral start here? -/
def isHexadecimal : Line → Bool
  | '0' :: mark :: _ => mark = 'x' || mark = 'X'
  | _ => false

/-- Is a magnitude in the range of normal `double` numbers, or zero? -/
def InDoubleRange (magnitude : Rat) : Prop :=
  magnitude = 0 ∨
    1 / 2 ^ 1022 ≤ magnitude ∧ magnitude < 2 ^ 1024 - 2 ^ 970

instance (magnitude : Rat) : Decidable (InDoubleRange magnitude) :=
  inferInstanceAs (Decidable (_ ∨ _ ∧ _))

/-- The number a text without a sign starts with. -/
def stodMagnitude (text : Line) : Option Rat :=
  let whole := text.takeWhile Char.isDigit
  let decimals := stodDecimals (text.dropWhile Char.isDigit)
  let magnitude : Rat :=
    (digitsValue whole + digitsValue decimals.1 / 10 ^ decimals.1.length) *
      10 ^ stodExponent decimals.2
  if whole = [] ∧ decimals.1 = [] ∨ isHexadecimal text ∨
      ¬ InDoubleRange magnitude then
    none
  else
    some magnitude

/--
`std::stod`.  It throws when there is no number or when the number is out of
range; hexadecimal numerals, infinities and NaNs have no value here either.
-/
def stod (text : Line) : Option Rat :=
  let signed := stodSign text
  (stodMagnitude signed.2).map fun magnitude =>
    if signed.1 then - magnitude else magnitude

/-! ## The calendar -/

/-- Conversion of a number to `uint16_t`; undefined when it does not fit. -/
def toUInt16 (number : Rat) : Option Nat :=
  if -1 < number ∧ number < 65536 then
    some number.floor.toNat
  else
    none

/-- Conversion of an integer to `int16_t`. -/
def toInt16 (number : Int) : Int := number.bmod 65536

/-- Table of `WychKd`. -/
def dmounth : List Int :=
  [31, 59, 90, 120, 151, 181, 212, 243, 273, 304, 334, 365]

/-- Days from the start of a year to the end of one of its months. -/
def wychKd (ng : Int) (nm : Nat) : Int :=
  let kd := dmounth.getD (nm - 1) 0
  if ng % 4 = 0 ∧ 1 < nm ∧ ng % 1000 ≠ 0 ∧ ng % 400 ≠ 0 then kd + 1 else kd

/-- Length of a year in the first loop of `DurData`. -/
def yearLength (ng : Int) : Int := if ng % 4 = 0 then 366 else 365

/-- The first loop of `DurData`: leave out whole years. -/
def durYear : Nat → Int → Int → Int × Int
  | 0, ng, ns => (ng, ns)
  | fuel + 1, ng, ns =>
      if yearLength ng < ns then
        durYear fuel (toInt16 (ng + 1)) (ns - yearLength ng)
      else
        (ng, ns)

/--
The second loop of `DurData`: find the month.  When there is none the source
reads past the end of a table, which is undefined.
-/
def durMonth (ng ns : Int) : Option Nat :=
  (List.range' 1 12).find? fun month => ns ≤ wychKd ng month

/-- A date and time of the Gregorian calendar. -/
structure GregorianDate where
  year : Int
  month : Nat
  day : Int
  hour : Int
  minute : Int
  second : Rat
  deriving Repr, DecidableEq

/-- `Utils::DurData`, for a part of a day from 0 up to 1. -/
def durData (epoch ns : Int) (ts : Rat) : Option GregorianDate := do
  let year := durYear ns.toNat epoch ns
  let month ← durMonth year.1 year.2
  let seconds := ts * 24 * 3600
  let hour := (seconds / 3600).floor
  let minute := ((seconds - hour * 3600) / 60).floor
  return {
    year := year.1
    month := month
    day :=
      if month = 1 then year.2 else year.2 - wychKd year.1 (month - 1)
    hour := hour
    minute := minute
    second := seconds - hour * 3600 - minute * 60 }

/-- The integer part of `Julian_date`; the divisions truncate. -/
def julianDay (year month day : Int) : Int :=
  let j := (month - 14).tdiv 12
  day - 32075 + (1461 * (year + 4800 + j)).tdiv 4 +
    (367 * (month - 2 - j * 12)).tdiv 12 -
    (3 * (year + 4900 + j).tdiv 100).tdiv 4

/-- `Utils::Julian_date`. -/
def julianDate (year month day : Int) (hour : Rat) : Rat :=
  julianDay year month day - 1 / 2 + hour / 24

/-- The Julian date the source computes from a date. -/
def GregorianDate.jd (date : GregorianDate) : Rat :=
  julianDate date.year date.month date.day
    (date.hour + date.minute / 60 + date.second / 3600)

/-- The day of a catalogue epoch, its year first, and its part of a day. -/
def epochDate (epoch : Rat) : Option GregorianDate := do
  let years ← toUInt16 (epoch / 1000)
  let eDay := epoch - years * 1000
  let dayNum ← toUInt16 eDay.floor
  let eYear := (years + if 57 ≤ years then 1900 else 2000) % 65536
  durData (toInt16 eYear) dayNum (eDay - dayNum)

/-- The Julian date of a catalogue epoch. -/
def epochJd (epoch : Rat) : Option Rat :=
  (epochDate epoch).map GregorianDate.jd

/-! ## Elements -/

/-- The constant `M_PI`. -/
def mPi : Rat := 314159265358979323846 / 10 ^ 20

/-- The macro `GR`: degrees to radians. -/
def gr (angle : Rat) : Rat := angle * mPi / 180

/-- `pow(10, exponent)`; only integer exponents give decimal numbers. -/
structure PowerOfTen where
  power : Rat → Rat
  onIntegers : ∀ exponent : Int, power exponent = 10 ^ exponent

/-- Elements of an entry that are converted from the two lines. -/
structure TleElements where
  jd : Rat
  inclination : Rat
  eccentricity : Rat
  raan : Rat
  argPerigee : Rat
  bStar : Rat
  drag : Rat
  meanMotion : Rat
  meanAnomaly : Rat
  deriving Repr, DecidableEq

/-- Convert the columns of a line. -/
def stodColumns (line : Line) (position count : Nat) : Option Rat := do
  stod (← substr line position count)

/--
Convert the fields of the two lines of a satellite.  There is no result when a
conversion throws, when the calendar leaves its tables or its types, and for
numerals that stand for no fraction.
-/
def PowerOfTen.reader (pow10 : PowerOfTen) : OrbitReader TleElements where
  read s1 s2 := do
    let epoch ← stodColumns s1 18 7
    let jd ← epochJd epoch
    let drag ← stodColumns s1 34 10
    let mantissa ← stodColumns s1 53 6
    let exponent ← stodColumns s1 59 2
    let inclination ← stodColumns s2 8 8
    let raan ← stodColumns s2 17 8
    let eccentricity ← stod ("0.".toList ++ (← substr s2 26 7))
    let argPerigee ← stodColumns s2 34 8
    let meanAnomaly ← stodColumns s2 43 8
    let meanMotion ← stodColumns s2 52 11
    return {
      jd := jd
      inclination := inclination
      eccentricity := eccentricity
      raan := raan
      argPerigee := gr argPerigee
      bStar := mantissa * pow10.power exponent
      drag := drag
      meanMotion := meanMotion
      meanAnomaly := gr meanAnomaly }

end CatalogTle

end Radar
