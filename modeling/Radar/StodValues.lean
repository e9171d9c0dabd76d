import Radar.TleElements

namespace Radar

/-!
# Every text that `std::stod` converts

Besides decimal numerals `std::stod` reads hexadecimal ones, infinities and
NaNs.  It throws when a text starts with none of these, and when a numeral is
out of the range of `double`.
-/

namespace CatalogTle

/-- What `std::stod` returns. -/
inductive StodValue where
  | number (value : Rat)
  | infinity (negative : Bool)
  | nan
  deriving Repr, DecidableEq

/-! ## Hexadecimal numerals -/

/-- `isxdigit`. -/
def isHexDigit (character : Char) : Bool :=
  character.isDigit ||
    (97 ≤ character.toNat && character.toNat ≤ 102) ||
    (65 ≤ character.toNat && character.toNat ≤ 70)

/-- Value of a hexadecimal digit. -/
def hexDigitValue (digit : Char) : Nat :=
  if digit.isDigit then digit.toNat - 48
  else if 97 ≤ digit.toNat then digit.toNat - 87
  else digit.toNat - 55

/-- Value of a row of hexadecimal digits. -/
def hexDigitsValue (digits : Line) : Nat :=
  digits.foldl (fun value digit => value * 16 + hexDigitValue digit) 0

/-- The hexadecimal digits behind a point, and what follows them. -/
def hexDecimals : Line → Line × Line
  | '.' :: rest => (rest.takeWhile isHexDigit, rest.dropWhile isHexDigit)
  | rest => ([], rest)

/-- A binary exponent is written in decimal digits. -/
def hexExponent : Line → Int
  | [] => 0
  | mark :: rest =>
      if mark = 'p' ∨ mark = 'P' then stodExponent ('e' :: rest) else 0

/-- The number behind the mark of a hexadecimal numeral. -/
def hexNumeral (text : Line) : Option Rat :=
  let whole := text.takeWhile isHexDigit
  let decimals := hexDecimals (text.dropWhile isHexDigit)
  if whole = [] ∧ decimals.1 = [] then
    none
  else
    some
      ((hexDigitsValue whole +
          hexDigitsValue decimals.1 / 16 ^ decimals.1.length) *
        2 ^ hexExponent decimals.2)

/-! ## Numerals -/

/-- A decimal numeral. -/
def decimalNumeral (text : Line) : Option Rat :=
  let whole := text.takeWhile Char.isDigit
  let decimals := stodDecimals (text.dropWhile Char.isDigit)
  if whole = [] ∧ decimals.1 = [] then
    none
  else
    some
      ((digitsValue whole +
          digitsValue decimals.1 / 10 ^ decimals.1.length) *
        10 ^ stodExponent decimals.2)

/-- Does a text start with a word, whose letters are given in both cases? -/
def startsWord : List (Char × Char) → Line → Bool
  | [], _ => true
  | _ :: _, [] => false
  | (small, capital) :: letters, first :: rest =>
      (first = small || first = capital) && startsWord letters rest

/-- The words for infinity and for NaN; a longer word starts with these. -/
def infinityWord : List (Char × Char) := [('i', 'I'), ('n', 'N'), ('f', 'F')]

def nanWord : List (Char × Char) := [('n', 'N'), ('a', 'A'), ('n', 'N')]

/--
What a text without a sign starts with.  Behind the mark of a hexadecimal
numeral there may be no digit; then only its zero is read.
-/
def stodNumeral (text : Line) : Option StodValue :=
  if startsWord infinityWord text then
    some (.infinity false)
  else if startsWord nanWord text then
    some .nan
  else if isHexadecimal text then
    some (.number ((hexNumeral (text.drop 2)).getD 0))
  else
    (decimalNumeral text).map .number

/-- Infinities and NaNs are in range. -/
def StodValue.InRange : StodValue → Prop
  | .number magnitude => InDoubleRange magnitude
  | .infinity _ => True
  | .nan => True

instance : DecidablePred StodValue.InRange
  | .number magnitude => inferInstanceAs (Decidable (InDoubleRange magnitude))
  | .infinity _ => inferInstanceAs (Decidable True)
  | .nan => inferInstanceAs (Decidable True)

/-- Change the sign of a value. -/
def StodValue.negate : StodValue → StodValue
  | .number value => .number (- value)
  | .infinity negative => .infinity !negative
  | .nan => .nan

/-- A text that starts with a numeral; without one `std::stod` throws. -/
def IsNumeric (text : Line) : Prop :=
  (stodNumeral (stodSign text).2).isSome

instance : DecidablePred IsNumeric := fun text =>
  inferInstanceAs (Decidable ((stodNumeral (stodSign text).2).isSome = true))

/-- `std::stod` for any text; `none` stands for an exception. -/
def stodValue (text : Line) : Option StodValue := do
  let signed := stodSign text
  let numeral ← stodNumeral signed.2
  guard numeral.InRange
  return if signed.1 then numeral.negate else numeral

/-- Only a text with a numeral is converted. -/
theorem isNumeric_of_stodValue
    {text : Line}
    (converts : (stodValue text).isSome) :
    IsNumeric text := by
  obtain ⟨value, converted⟩ := Option.isSome_iff_exists.mp converts
  obtain ⟨numeral, read, -⟩ := Option.bind_eq_some_iff.mp converted
  exact Option.isSome_iff_exists.mpr ⟨numeral, read⟩

/-! ## Decimal numerals are read as before -/

/-- A decimal numeral starts with a digit or with a point. -/
theorem decimalNumeral_eq_none
    {first : Char}
    (rest : Line)
    (notDigit : first.isDigit = false)
    (notPoint : first ≠ '.') :
    decimalNumeral (first :: rest) = none := by
  have noDecimals : stodDecimals (first :: rest) = ([], first :: rest) := by
    unfold stodDecimals
    split
    · next point => exact absurd (List.cons_eq_cons.mp point).1 notPoint
    · rfl
  simp [decimalNumeral, notDigit, noDecimals]

/-- A word is no decimal numeral. -/
theorem startsWord_eq_false
    {text : Line}
    {magnitude : Rat}
    (decimal : decimalNumeral text = some magnitude) :
    startsWord infinityWord text = false ∧
      startsWord nanWord text = false := by
  cases text with
  | nil => exact ⟨rfl, rfl⟩
  | cons first rest =>
      have noLetter : ∀ letter : Char, letter.isDigit = false →
          letter ≠ '.' → first ≠ letter := by
        rintro letter notDigit notPoint rfl
        rw [decimalNumeral_eq_none rest notDigit notPoint] at decimal
        cases decimal
      simp [startsWord, infinityWord, nanWord,
        noLetter 'i' rfl (by decide), noLetter 'I' rfl (by decide),
        noLetter 'n' rfl (by decide), noLetter 'N' rfl (by decide)]

/-- A decimal numeral is what a text without a sign starts with. -/
theorem stodNumeral_of_magnitude
    {text : Line}
    {magnitude : Rat}
    (read : stodMagnitude text = some magnitude) :
    stodNumeral text = some (.number magnitude) ∧
      InDoubleRange magnitude := by
  obtain ⟨ok, same⟩ := Option.ite_none_left_eq_some.mp read
  rw [Option.some.injEq] at same
  rw [same] at ok
  obtain ⟨hasDigits, others⟩ := not_or.mp ok
  obtain ⟨notHexadecimal, inRange⟩ := not_or.mp others
  have decimal : decimalNumeral text = some magnitude := by
    unfold decimalNumeral
    rw [if_neg hasDigits, same]
  obtain ⟨notInfinity, notNan⟩ := startsWord_eq_false decimal
  refine ⟨?_, not_not.mp inRange⟩
  simp [stodNumeral, notInfinity, notNan, notHexadecimal, decimal]

/-- What is read as a fraction is that number. -/
theorem stodValue_of_stod
    {text : Line}
    {value : Rat}
    (read : stod text = some value) :
    stodValue text = some (.number value) := by
  obtain ⟨magnitude, isMagnitude, rfl⟩ := Option.map_eq_some_iff.mp read
  obtain ⟨numeral, inRange⟩ := stodNumeral_of_magnitude isMagnitude
  have guarded : StodValue.InRange (.number magnitude) := inRange
  simp only [stodValue, numeral, Option.bind_eq_bind, Option.bind_some,
    guard, if_pos guarded, pure]
  cases (stodSign text).1 <;> rfl

end CatalogTle

end Radar
