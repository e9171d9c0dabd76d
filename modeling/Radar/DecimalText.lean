import Mathlib.Data.List.TakeWhile
import Mathlib.Data.Rat.Floor
import Mathlib.Tactic.FieldSimp
import Mathlib.Tactic.Ring

/-!
# Decimal numbers as text

Rows of decimal digits and what they stand for, and the texts that `%u` and
`%.nf` print.  A number printed with a fixed count of decimal places stands for
the number rounded to that many places, which is the number itself when it has
no more of them.
-/

/-- A row of decimal digits. -/
structure Digits where
  chars : List Char
  notEmpty : chars ≠ []
  areDigits : ∀ character ∈ chars, character.isDigit

namespace Digits

/-- The number that a row of digits stands for. -/
def value (digits : Digits) : Nat :=
  Nat.ofDigitChars 10 digits.chars 0

/-- The digits of a number, as `%u` prints them. -/
def ofNat (number : Nat) : Digits where
  chars := Nat.toDigits 10 number
  notEmpty := Nat.toDigits_ne_nil
  areDigits _ member :=
    Nat.isDigit_of_mem_toDigits (by decide) (by decide) member

/-- The digits of a number, with zeros in front up to a width. -/
def padded (width number : Nat) : Digits where
  chars := (Nat.toDigits 10 number).leftpad width '0'
  notEmpty empty := by
    have positive : 0 < (Nat.toDigits 10 number).length :=
      Nat.length_toDigits_pos
    have length := congrArg List.length empty
    rw [List.length_leftpad, List.length_nil] at length
    omega
  areDigits character member := by
    rw [List.leftpad, List.mem_append] at member
    rcases member with zero | digit
    · rw [List.eq_of_mem_replicate zero]
      decide
    · exact
        Nat.isDigit_of_mem_toDigits (by decide) (by decide) digit

/-- Printing a number and reading it again gives the number. -/
@[simp] theorem value_ofNat (number : Nat) :
    (ofNat number).value = number :=
  Nat.ofDigitChars_ten_toDigits

/-- Zeros in front do not change what a row of digits stands for. -/
@[simp] theorem value_padded (width number : Nat) :
    (padded width number).value = number := by
  simp [value, padded, List.leftpad, Nat.ofDigitChars_append]

/-- A number that fits the width fills it exactly. -/
theorem length_padded
    {width number : Nat}
    (positive : 0 < width)
    (fits : number < 10 ^ width) :
    (padded width number).chars.length = width := by
  have short : (Nat.toDigits 10 number).length ≤ width :=
    (Nat.length_toDigits_le_iff (by decide) positive).mpr fits
  simp only [padded, List.length_leftpad]
  omega

/-- The first digit of a number is zero for the number zero only. -/
theorem head_ofNat
    {number : Nat}
    (zeroFirst : (ofNat number).chars.head? = some '0') :
    (ofNat number).chars = ['0'] := by
  induction number using Nat.strongRecOn with
  | ind number inductionHypothesis =>
      by_cases small : number < 10
      · simp only [ofNat, Nat.toDigits_of_lt_base small,
          List.head?_cons, Option.some.injEq] at zeroFirst ⊢
        rw [zeroFirst]
      · have split :
            Nat.toDigits 10 number =
              Nat.toDigits 10 (number / 10) ++ [(number % 10).digitChar] :=
          Nat.toDigits_of_base_le (by decide) (by omega)
        have earlier :
            (ofNat (number / 10)).chars.head? = some '0' := by
          simp only [ofNat, split, List.head?_append] at zeroFirst ⊢
          rcases first : (Nat.toDigits 10 (number / 10)).head? with _ | digit
          · exact
              absurd (List.head?_eq_none_iff.mp first) Nat.toDigits_ne_nil
          · simpa [first] using zeroFirst
        have zero : number / 10 = 0 := by
          have only := inductionHypothesis (number / 10) (by omega) earlier
          have same := congrArg (Nat.ofDigitChars 10 · 0) only
          simpa [ofNat, Nat.ofDigitChars_cons] using same
        omega

end Digits

namespace DecimalText

/-- A row of digits ends where no digit follows. -/
theorem span_digits
    {digits : List Char}
    (areDigits : ∀ character ∈ digits, character.isDigit = true)
    {rest : List Char}
    (stops : ∀ character ∈ rest.head?, character.isDigit = false) :
    (digits ++ rest).takeWhile Char.isDigit = digits ∧
      (digits ++ rest).dropWhile Char.isDigit = rest := by
  have noMore :
      rest.takeWhile Char.isDigit = [] ∧
        rest.dropWhile Char.isDigit = rest := by
    cases rest with
    | nil => exact ⟨rfl, rfl⟩
    | cons head tail => simp [stops head rfl]
  rw [List.takeWhile_append_of_pos areDigits,
    List.dropWhile_append_of_pos areDigits, noMore.1, noMore.2,
    List.append_nil]
  exact ⟨rfl, rfl⟩

/-- The nearest whole number, the even one of two. -/
def roundHalfEven (number : Rat) : Int :=
  let below := ⌊number⌋
  if number - below < 1 / 2 then
    below
  else if 1 / 2 < number - below then
    below + 1
  else if below % 2 = 0 then
    below
  else
    below + 1

/-- The magnitude of a number in units of the last printed place. -/
def scaled (places : Nat) (number : Rat) : Nat :=
  (roundHalfEven (|number| * 10 ^ places)).toNat

/-- The text that `%.nf` prints for a number, with at least one place. -/
def printFixed (places : Nat) (number : Rat) : List Char :=
  (if number < 0 then ['-'] else []) ++
    (Digits.ofNat (scaled places number / 10 ^ places)).chars ++
      '.' :: (Digits.padded places (scaled places number % 10 ^ places)).chars

/-- The number that the printed text stands for. -/
def rounded (places : Nat) (number : Rat) : Rat :=
  (if number < 0 then -1 else 1) * (scaled places number / 10 ^ places)

/-- A number that is written with at most so many decimal places. -/
def HasPlaces (places : Nat) (number : Rat) : Prop :=
  (number * 10 ^ places).den = 1

instance (places : Nat) (number : Rat) : Decidable (HasPlaces places number) :=
  inferInstanceAs (Decidable (_ = 1))

/-- Whole numbers are their own nearest whole numbers. -/
@[simp] theorem roundHalfEven_intCast (number : Int) :
    roundHalfEven number = number := by
  simp [roundHalfEven]

/-- The whole part and the places of a printed number make up the number. -/
theorem scaled_split (places : Nat) (number : Rat) :
    ((scaled places number / 10 ^ places : Nat) : Rat) +
        (scaled places number % 10 ^ places : Nat) / 10 ^ places =
      scaled places number / 10 ^ places := by
  have whole :=
    Nat.div_add_mod (scaled places number) (10 ^ places)
  have wholeRat :
      (10 ^ places : Rat) * (scaled places number / 10 ^ places : Nat) +
          (scaled places number % 10 ^ places : Nat) =
        scaled places number := by
    exact_mod_cast whole
  have positive : (10 ^ places : Rat) ≠ 0 := by positivity
  rw [← wholeRat]
  field_simp

/-- Printing keeps a number that has no more places than are printed. -/
theorem rounded_of_hasPlaces
    {places : Nat}
    {number : Rat}
    (hasPlaces : HasPlaces places number) :
    rounded places number = number := by
  have positive : (0 : Rat) < 10 ^ places := by positivity
  have exact :
      |number| * 10 ^ places =
        ((|(number * 10 ^ places).num| : Int) : Rat) := by
    rw [Int.cast_abs, (Rat.den_eq_one_iff _).mp hasPlaces, abs_mul,
      abs_of_pos positive]
  have magnitude : (scaled places number : Rat) = |number| * 10 ^ places := by
    rw [exact, scaled, exact, roundHalfEven_intCast]
    exact_mod_cast Int.toNat_of_nonneg (abs_nonneg _)
  rw [rounded, magnitude, mul_div_assoc, div_self positive.ne', mul_one]
  split
  case isTrue negative => rw [abs_of_neg negative]; ring
  case isFalse nonnegative => rw [abs_of_nonneg (not_lt.mp nonnegative)]; ring

/-- The nearest whole number is at most one half away. -/
theorem abs_roundHalfEven_sub_le (number : Rat) :
    |(roundHalfEven number : Rat) - number| ≤ 1 / 2 := by
  have below := Int.floor_le number
  have above := Int.lt_floor_add_one number
  rw [abs_le]
  unfold roundHalfEven
  dsimp only
  split_ifs <;> push_cast <;> constructor <;> linarith

/-- The nearest whole number is not negative unless the number is. -/
theorem roundHalfEven_nonneg {number : Rat} (nonnegative : 0 ≤ number) :
    0 ≤ roundHalfEven number := by
  have below := Int.floor_nonneg.mpr nonnegative
  unfold roundHalfEven
  dsimp only
  split_ifs <;> omega

/-- A printed number is away from the number by half a unit at most. -/
theorem abs_rounded_sub_le (places : Nat) (number : Rat) :
    |rounded places number - number| ≤ 1 / 2 / 10 ^ places := by
  have positive : (0 : Rat) < 10 ^ places := by positivity
  have magnitude :
      (scaled places number : Rat) =
        (roundHalfEven (|number| * 10 ^ places) : Int) := by
    rw [scaled]
    exact_mod_cast
      Int.toNat_of_nonneg (roundHalfEven_nonneg (by positivity))
  have near := abs_roundHalfEven_sub_le (|number| * 10 ^ places)
  rw [← magnitude] at near
  have unsigned :
      |(scaled places number : Rat) / 10 ^ places - (|number|)| ≤
        1 / 2 / 10 ^ places := by
    rw [← mul_div_cancel_right₀ (|number|) positive.ne', ← sub_div, abs_div,
      abs_of_pos positive]
    exact div_le_div_of_nonneg_right near positive.le
  rw [rounded]
  split
  case isTrue negative =>
    rw [abs_of_neg negative] at unsigned
    rwa [neg_one_mul, ← neg_add', abs_neg, ← sub_neg_eq_add]
  case isFalse nonnegative =>
    rwa [abs_of_nonneg (not_lt.mp nonnegative), ← one_mul (_ / _)] at unsigned

example : printFixed 8 (-5 / 4) = "-1.25000000".toList := by decide +kernel

/-! ## Doubles -/

/-- A `double`.  Finite values are exact fractions. -/
inductive Double where
  | finite (value : Rat)
  | negativeZero
  | infinite (negative : Bool)
  | nan (negative : Bool)
  deriving DecidableEq

namespace Double

/-- Is it a number? -/
def isFinite : Double → Bool
  | .finite _ | .negativeZero => true
  | .infinite _ | .nan _ => false

/-- The number that a finite value is. -/
def toRat : Double → Rat
  | .finite value => value
  | .negativeZero | .infinite _ | .nan _ => 0

/-- The sign that is printed. -/
def sign (negative : Bool) : List Char :=
  if negative then ['-'] else []

/-- The text that `%.nf` prints for a `double`. -/
def printFixed (places : Nat) : Double → List Char
  | .finite value => DecimalText.printFixed places value
  | .negativeZero => '-' :: DecimalText.printFixed places 0
  | .infinite negative => sign negative ++ "inf".toList
  | .nan negative => sign negative ++ "nan".toList

end Double

end DecimalText
