import Mathlib.Tactic.Positivity
import Mathlib.Tactic.Ring
import Radar.DecimalText
import Radar.TleElements

namespace Radar

/-!
# Numerals in columns

The columns of a two-line record hold digits, digits behind blanks, a decimal
number with its point, or a number behind a sign.  Each kind is a structure,
with the text in the columns and the value it stands for, and the conversions
of the standard library read the value back.
-/

namespace CatalogTle

/-! ## Rows of digits -/

/-- Codes of the decimal digits. -/
theorem digit_range
    {digit : Char}
    (isDigit : digit.isDigit = true) :
    48 ≤ digit.toNat ∧ digit.toNat ≤ 57 :=
  Char.isDigit_iff_toNat.mp isDigit

/-- The digits read so far count for the powers of ten behind them. -/
theorem foldl_digits (digits : Line) (start : Nat) :
    digits.foldl (fun value digit => value * 10 + (digit.toNat - 48)) start =
      start * 10 ^ digits.length + digitsValue digits := by
  induction digits generalizing start with
  | nil => simp [digitsValue]
  | cons digit rest inductionHypothesis =>
      rw [digitsValue, List.foldl_cons, List.foldl_cons, inductionHypothesis,
        inductionHypothesis (0 * 10 + (digit.toNat - 48)), List.length_cons,
        pow_succ]
      ring

/-- Digits in front count for the powers of ten behind them. -/
theorem digitsValue_append (first second : Line) :
    digitsValue (first ++ second) =
      digitsValue first * 10 ^ second.length + digitsValue second := by
  rw [digitsValue, List.foldl_append, foldl_digits]
  rfl

/-- The value of one digit. -/
@[simp] theorem digitsValue_singleton (digit : Char) :
    digitsValue [digit] = digit.toNat - 48 := by
  simp [digitsValue]

/-- A row of digits is below the power of ten of its length. -/
theorem digitsValue_lt
    {digits : Line}
    (areDigits : ∀ character ∈ digits, character.isDigit = true) :
    digitsValue digits < 10 ^ digits.length := by
  induction digits with
  | nil => exact Nat.one_pos
  | cons digit rest inductionHypothesis =>
      have later := inductionHypothesis fun character member =>
        areDigits character (List.mem_cons_of_mem _ member)
      have range := digit_range (areDigits digit List.mem_cons_self)
      have one : digit.toNat - 48 ≤ 9 := by
        omega
      rw [← List.singleton_append, digitsValue_append, digitsValue_singleton,
        List.length_append, List.length_singleton, Nat.pow_add, Nat.pow_one]
      have := Nat.mul_le_mul_right (10 ^ rest.length) one
      omega

/-! ## Conversions -/

/-- Blanks are left out, up to a character that is not whitespace. -/
theorem dropWhile_blanks
    (blanks : Nat)
    {first : Char}
    (rest : Line)
    (notSpace : isSpace first = false) :
    (List.replicate blanks ' ' ++ first :: rest).dropWhile isSpace =
      first :: rest := by
  rw [List.dropWhile_append_of_pos
    (fun character member => by
      rw [List.eq_of_mem_replicate member]
      rfl)]
  exact List.dropWhile_cons_of_neg (by simp [notSpace])

/-- Characters a number without a sign starts with. -/
def StartsNumber (first : Char) : Prop :=
  first.isDigit = true ∨ first = '.'

theorem StartsNumber.notSpace
    {first : Char}
    (starts : StartsNumber first) :
    isSpace first = false := by
  rcases starts with isDigit | rfl
  · have range := digit_range isDigit
    have notBlank : first ≠ ' ' := by
      rintro rfl
      exact absurd range.1 (by decide)
    have notControl : ¬ (9 ≤ first.toNat ∧ first.toNat ≤ 13) := by
      omega
    simpa [isSpace, notBlank] using notControl
  · rfl

/-- Blanks in front of a number are no sign. -/
theorem stodSign_blanks
    (blanks : Nat)
    {first : Char}
    (rest : Line)
    (starts : StartsNumber first) :
    stodSign (List.replicate blanks ' ' ++ first :: rest) =
      (false, first :: rest) := by
  unfold stodSign
  rw [dropWhile_blanks blanks rest starts.notSpace]
  split
  · next same =>
      obtain ⟨rfl, rfl⟩ := List.cons_eq_cons.mp same
      exact absurd starts (by unfold StartsNumber; decide)
  · next same =>
      obtain ⟨rfl, rfl⟩ := List.cons_eq_cons.mp same
      exact absurd starts (by unfold StartsNumber; decide)
  · rfl

/-- A sign in a column; a blank stands for a plus. -/
inductive FieldSign where
  | blank
  | plus
  | minus
  deriving Repr, DecidableEq

namespace FieldSign

/-- The character of a sign. -/
def char : FieldSign → Char
  | blank => ' '
  | plus => '+'
  | minus => '-'

/-- The factor a sign stands for. -/
def factor : FieldSign → Int
  | blank => 1
  | plus => 1
  | minus => -1

end FieldSign

/-- A sign in front of a number is read. -/
theorem stodSign_sign
    (sign : FieldSign)
    {first : Char}
    (rest : Line)
    (starts : StartsNumber first) :
    stodSign (sign.char :: first :: rest) =
      (decide (sign = .minus), first :: rest) := by
  cases sign with
  | blank => exact stodSign_blanks 1 rest starts
  | plus => rfl
  | minus => rfl

/-- Digits behind a point are read up to the blanks behind them. -/
theorem stodDecimals_point
    {decimals : Line}
    (areDigits : ∀ character ∈ decimals, character.isDigit = true)
    (blanks : Nat) :
    stodDecimals ('.' :: (decimals ++ List.replicate blanks ' ')) =
      (decimals, List.replicate blanks ' ') := by
  have stops : ∀ character ∈ (List.replicate blanks ' ').head?,
      character.isDigit = false := by
    intro character member
    rw [List.eq_of_mem_replicate (List.mem_of_mem_head? member)]
    rfl
  obtain ⟨taken, dropped⟩ := DecimalText.span_digits areDigits stops
  rw [stodDecimals, taken, dropped]

/-- Without an 'x' there is no hexadecimal numeral. -/
theorem isHexadecimal_eq_false
    {text : Line}
    (noLower : 'x' ∉ text)
    (noUpper : 'X' ∉ text) :
    isHexadecimal text = false := by
  unfold isHexadecimal
  split
  · next mark rest =>
      have lower : mark ≠ 'x' := by
        rintro rfl
        simp at noLower
      have upper : mark ≠ 'X' := by
        rintro rfl
        simp at noUpper
      simp [lower, upper]
  · rfl

/-- Numbers of moderate size are in the range of `double`. -/
theorem inDoubleRange_of_bounds
    {magnitude : Rat}
    (atLeast : 1 / 10 ^ 20 ≤ magnitude)
    (below : magnitude < 10 ^ 20) :
    InDoubleRange magnitude := by
  have power : (10 : Rat) ^ 20 ≤ 2 ^ 970 := by
    calc (10 : Rat) ^ 20 ≤ 2 ^ 80 := by norm_num
      _ ≤ 2 ^ 970 := pow_le_pow_right₀ (by norm_num) (by norm_num)
  have smallest : (2 : Rat) ^ 1022 = 2 ^ 52 * 2 ^ 970 := pow_add 2 52 970
  have largest : (2 : Rat) ^ 1024 = 2 ^ 54 * 2 ^ 970 := pow_add 2 54 970
  unfold InDoubleRange
  rw [smallest, largest]
  generalize (2 : Rat) ^ 970 = scale at power
  right
  constructor
  · calc 1 / (2 ^ 52 * scale) ≤ 1 / 10 ^ 20 :=
          one_div_le_one_div_of_le (by norm_num) (by linarith)
      _ ≤ magnitude := atLeast
  · calc magnitude < 10 ^ 20 := below
      _ ≤ 2 ^ 54 * scale - scale := by linarith

/-- Short decimals are in the range of `double`. -/
theorem inDoubleRange_decimal
    {digits places : Nat}
    (few : digits < 10 ^ 20)
    (short : places ≤ 20) :
    InDoubleRange (digits / 10 ^ places) := by
  rcases Nat.eq_zero_or_pos digits with rfl | positive
  · exact .inl (by simp)
  · have scale : (1 : Rat) ≤ 10 ^ places := one_le_pow₀ (by norm_num)
    have scaleFits : (10 : Rat) ^ places ≤ 10 ^ 20 :=
      pow_le_pow_right₀ (by norm_num) short
    have one : (1 : Rat) ≤ digits := by
      exact_mod_cast positive
    have atMost : (digits : Rat) < 10 ^ 20 := by
      exact_mod_cast few
    apply inDoubleRange_of_bounds
    · gcongr
    · exact (div_le_self (by positivity) scale).trans_lt atMost

/-- A magnitude is read from its two rows of digits. -/
theorem stodMagnitude_eq
    {text whole decimals : Line}
    {blanks : Nat}
    (isWhole : text.takeWhile Char.isDigit = whole)
    (isDecimals :
      stodDecimals (text.dropWhile Char.isDigit) =
        (decimals, List.replicate blanks ' '))
    (areDigits : ∀ character ∈ decimals, character.isDigit = true)
    (notEmpty : whole ≠ [] ∨ decimals ≠ [])
    (short : whole.length + decimals.length ≤ 20)
    (noLower : 'x' ∉ text)
    (noUpper : 'X' ∉ text) :
    stodMagnitude text =
      some (digitsValue whole +
        digitsValue decimals / 10 ^ decimals.length : Rat) := by
  have noExponent : stodExponent (List.replicate blanks ' ') = 0 := by
    cases blanks <;> rfl
  have wholeDigits : ∀ character ∈ whole, character.isDigit = true := by
    rw [← isWhole]
    exact fun _ => List.mem_takeWhile_imp
  have together :
      (digitsValue whole + digitsValue decimals / 10 ^ decimals.length : Rat) =
        (digitsValue (whole ++ decimals) : Nat) / 10 ^ decimals.length := by
    rw [digitsValue_append]
    push_cast
    field_simp
  have fits : digitsValue (whole ++ decimals) < 10 ^ 20 := by
    have allDigits :
        ∀ character ∈ whole ++ decimals, character.isDigit = true := by
      intro character member
      rcases List.mem_append.mp member with inWhole | inDecimals
      · exact wholeDigits character inWhole
      · exact areDigits character inDecimals
    have below := digitsValue_lt allDigits
    rw [List.length_append] at below
    exact below.trans_le (Nat.pow_le_pow_right (by decide) short)
  have places : decimals.length ≤ 20 := by
    omega
  have inRange := inDoubleRange_decimal fits places
  unfold stodMagnitude
  simp only [isWhole, isDecimals, noExponent, zpow_zero, mul_one, together]
  rw [if_neg]
  rintro (⟨noWhole, noDecimals⟩ | hexadecimal | outside)
  · exact notEmpty.elim (· noWhole) (· noDecimals)
  · rw [isHexadecimal_eq_false noLower noUpper] at hexadecimal
    cases hexadecimal
  · exact outside inRange

/-- A row of digits has no letters. -/
theorem not_mem_digits
    {digits : Line}
    (areDigits : ∀ character ∈ digits, character.isDigit = true)
    {letter : Char}
    (notDigit : letter.isDigit = false) :
    letter ∉ digits := by
  intro member
  rw [areDigits letter member] at notDigit
  cases notDigit

/-- A row of digits is read as a number. -/
theorem stodMagnitude_digits
    {digits : Line}
    (areDigits : ∀ character ∈ digits, character.isDigit = true)
    (notEmpty : digits ≠ [])
    (short : digits.length ≤ 20) :
    stodMagnitude digits = some (digitsValue digits : Rat) := by
  have stops : ∀ character ∈ ([] : Line).head?, character.isDigit = false := by
    simp
  obtain ⟨taken, dropped⟩ := DecimalText.span_digits areDigits stops
  rw [List.append_nil] at taken dropped
  have noDecimals : stodDecimals (digits.dropWhile Char.isDigit) =
      ([], List.replicate 0 ' ') := by
    rw [dropped]
    rfl
  have read := stodMagnitude_eq taken noDecimals (by simp) (.inl notEmpty)
    (by simpa using short) (not_mem_digits areDigits rfl)
    (not_mem_digits areDigits rfl)
  simpa [digitsValue] using read

/-- Two rows of digits with a point between them are read as a number. -/
theorem stodMagnitude_point
    {whole decimals : Line}
    (wholeDigits : ∀ character ∈ whole, character.isDigit = true)
    (areDigits : ∀ character ∈ decimals, character.isDigit = true)
    (notEmpty : decimals ≠ [])
    (short : whole.length + decimals.length ≤ 20)
    (blanks : Nat) :
    stodMagnitude
        (whole ++ '.' :: (decimals ++ List.replicate blanks ' ')) =
      some (digitsValue whole +
        digitsValue decimals / 10 ^ decimals.length : Rat) := by
  have stops :
      ∀ character ∈ ('.' :: (decimals ++ List.replicate blanks ' ')).head?,
        character.isDigit = false := by
    simp
  obtain ⟨taken, dropped⟩ := DecimalText.span_digits wholeDigits stops
  have noLetter {letter : Char}
      (notDigit : letter.isDigit = false)
      (notPoint : letter ≠ '.')
      (notBlank : letter ≠ ' ') :
      letter ∉ whole ++ '.' :: (decimals ++ List.replicate blanks ' ') := by
    simp [not_mem_digits wholeDigits notDigit,
      not_mem_digits areDigits notDigit, notPoint, notBlank]
  exact stodMagnitude_eq taken
    (by rw [dropped, stodDecimals_point areDigits]) areDigits
    (.inr notEmpty) short (noLetter rfl (by decide) (by decide))
    (noLetter rfl (by decide) (by decide))

/-! ## Columns -/

/-- Columns whose text is not read. -/
structure Gap (width : Nat) where
  text : Line
  length_text : text.length = width

/-- Columns that hold digits. -/
structure DigitField (width : Nat) where
  digits : Line
  length_digits : digits.length = width
  areDigits : ∀ character ∈ digits, character.isDigit = true

/-- Columns that hold digits, with blanks in front. -/
structure PaddedField (width : Nat) where
  blanks : Nat
  digits : Line
  length_text : blanks + digits.length = width
  areDigits : ∀ character ∈ digits, character.isDigit = true

/-- Columns that hold a decimal number, with blanks in front. -/
structure DecimalField (width places : Nat) where
  whole : PaddedField width
  decimals : DigitField places

attribute [simp] Gap.length_text DigitField.length_digits

/-- The field that consists of some digits. -/
def DigitField.of
    (digits : Line)
    (allDigits : digits.all Char.isDigit = true) :
    DigitField digits.length where
  digits := digits
  length_digits := rfl
  areDigits := List.all_eq_true.mp allDigits

/-- The field that consists of some digits and blanks in front of them. -/
def PaddedField.of
    (blanks : Nat)
    (digits : Line)
    (allDigits : digits.all Char.isDigit = true) :
    PaddedField (blanks + digits.length) where
  blanks := blanks
  digits := digits
  length_text := rfl
  areDigits := List.all_eq_true.mp allDigits

/-- Value of the digits of a field. -/
def DigitField.value {width : Nat} (field : DigitField width) : Nat :=
  digitsValue field.digits

/-- Text of a field. -/
def PaddedField.text {width : Nat} (field : PaddedField width) : Line :=
  List.replicate field.blanks ' ' ++ field.digits

/-- Value of the digits of a field. -/
def PaddedField.value {width : Nat} (field : PaddedField width) : Nat :=
  digitsValue field.digits

variable {width places : Nat}

/-- Text of a field. -/
def DecimalField.text (field : DecimalField width places) : Line :=
  field.whole.text ++ '.' :: field.decimals.digits

/-- Number in a field. -/
def DecimalField.value (field : DecimalField width places) : Rat :=
  field.whole.value + field.decimals.value / 10 ^ places

@[simp] theorem PaddedField.length_eq (field : PaddedField width) :
    field.text.length = width := by
  simp [text, field.length_text]

@[simp] theorem DecimalField.length_eq (field : DecimalField width places) :
    field.text.length = width + (places + 1) := by
  simp [text]

theorem DigitField.value_lt (field : DigitField width) :
    field.value < 10 ^ width := by
  have below := digitsValue_lt field.areDigits
  rwa [field.length_digits] at below

theorem PaddedField.value_lt (field : PaddedField width) :
    field.value < 10 ^ width :=
  (digitsValue_lt field.areDigits).trans_le
    (Nat.pow_le_pow_right (by decide) (by have := field.length_text; omega))

/-- Digits and a point start a number. -/
theorem exists_startsNumber
    {digits : Line}
    (areDigits : ∀ character ∈ digits, character.isDigit = true)
    (rest : Line) :
    ∃ first later, digits ++ '.' :: rest = first :: later ∧
      StartsNumber first := by
  cases digits with
  | nil => exact ⟨'.', rest, rfl, .inr rfl⟩
  | cons first later =>
      exact ⟨first, later ++ '.' :: rest, rfl,
        .inl (areDigits first List.mem_cons_self)⟩

/-- Two rows of digits with a point between them, and blanks around. -/
theorem stod_point
    {whole decimals : Line}
    (wholeDigits : ∀ character ∈ whole, character.isDigit = true)
    (areDigits : ∀ character ∈ decimals, character.isDigit = true)
    (notEmpty : decimals ≠ [])
    (short : whole.length + decimals.length ≤ 20)
    (before behind : Nat) :
    stod (List.replicate before ' ' ++
        (whole ++ '.' :: (decimals ++ List.replicate behind ' '))) =
      some (digitsValue whole +
        digitsValue decimals / 10 ^ decimals.length : Rat) := by
  have magnitude := stodMagnitude_point wholeDigits areDigits notEmpty short
    behind
  obtain ⟨first, later, same, starts⟩ := exists_startsNumber wholeDigits
    (decimals ++ List.replicate behind ' ')
  rw [same] at magnitude ⊢
  rw [stod, stodSign_blanks before later starts, magnitude]
  rfl

/-- A decimal number is read from its columns. -/
theorem DecimalField.stod_text
    (field : DecimalField width places)
    (somePlaces : 0 < places)
    (short : width + places ≤ 20) :
    stod field.text = some field.value := by
  have wholeLength := field.whole.length_text
  have decimalsLength := field.decimals.length_digits
  have read := stod_point field.whole.areDigits field.decimals.areDigits
    (List.ne_nil_of_length_pos (by omega)) (by omega) field.whole.blanks 0
  rw [decimalsLength, List.replicate_zero, List.append_nil,
    ← List.append_assoc] at read
  exact read

/-- Digits behind a sign are read as a number with that sign. -/
theorem DigitField.stod_sign
    (field : DigitField width)
    (sign : FieldSign)
    (notEmpty : 0 < width)
    (short : width ≤ 20) :
    stod (sign.char :: field.digits) = some (sign.factor * field.value : Rat) := by
  have length := field.length_digits
  have magnitude := stodMagnitude_digits field.areDigits
    (List.ne_nil_of_length_pos (by omega)) (by omega)
  obtain ⟨first, later, same⟩ :=
    List.exists_cons_of_length_pos (length ▸ notEmpty)
  have starts : StartsNumber first :=
    .inl (field.areDigits first (by simp [same]))
  rw [same] at magnitude ⊢
  rw [stod, stodSign_sign sign later starts, magnitude]
  cases sign <;> simp [FieldSign.factor, DigitField.value, same]

/-- A number behind blanks is read from its columns. -/
theorem PaddedField.stoi_text
    (field : PaddedField width)
    (written : field.digits ≠ [])
    (short : width ≤ 9) :
    stoi field.text = some (field.value : Int) := by
  obtain ⟨first, later, same⟩ := List.exists_cons_of_ne_nil written
  have isDigit : first.isDigit = true :=
    field.areDigits first (by simp [same])
  have starts : StartsNumber first := .inl isDigit
  have noMinus : first ≠ '-' := by
    rintro rfl
    cases isDigit
  have noPlus : first ≠ '+' := by
    rintro rfl
    cases isDigit
  have signed : field.text.dropWhile isSpace = first :: later := by
    rw [PaddedField.text, same, dropWhile_blanks _ _ starts.notSpace]
  have taken : (first :: later).takeWhile Char.isDigit = first :: later := by
    rw [List.takeWhile_eq_self_iff, ← same]
    exact field.areDigits
  have fits : field.value ≤ 2147483647 := by
    have below := field.value_lt
    have power : 10 ^ width ≤ 10 ^ 9 := Nat.pow_le_pow_right (by decide) short
    omega
  have value : digitsValue (first :: later) = field.value := by
    rw [PaddedField.value, same]
  simp [stoi, signed, noMinus, noPlus, taken, value]
  omega

end CatalogTle

end Radar
