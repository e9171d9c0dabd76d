import Mathlib.Algebra.Order.Field.Power
import Mathlib.Data.Rat.Floor
import Radar.DecimalText

/-!
# Rounding to `double`

A finite `double` is a whole number of at most 53 bits times a power of two.
An operation on doubles gives the exact result rounded to the nearest of them,
to the even one of two.  Results that are too large are left out: the numbers
have no greatest exponent.
-/

namespace Binary64

open DecimalText
  (roundHalfEven roundHalfEven_intCast abs_roundHalfEven_sub_le)

/-- The exponent of the first binary digit of a number. -/
def exponent (number : Rat) : Int :=
  let place : Int := number.num.natAbs.log2 - number.den.log2
  if |number| < 2 ^ place then
    place - 1
  else
    place

/-- The exponent of the last binary digit that a `double` near it has. -/
def lastPlace (number : Rat) : Int :=
  max (exponent number - 52) (-1074)

/-- The nearest `double` of a number. -/
def round (number : Rat) : Rat :=
  roundHalfEven (number / 2 ^ lastPlace number) * 2 ^ lastPlace number

/-- A number that is not zero has a first digit. -/
theorem two_pow_exponent_le {number : Rat} (nonzero : number ≠ 0) :
    2 ^ exponent number ≤ |number| := by
  unfold exponent
  dsimp only
  split_ifs with small
  · have numerator :
        (2 : Rat) ^ number.num.natAbs.log2 ≤ number.num.natAbs := by
      exact_mod_cast
        Nat.log2_self_le (Int.natAbs_ne_zero.mpr (Rat.num_ne_zero.mpr nonzero))
    have denominator : (number.den : Rat) ≤ 2 ^ (number.den.log2 + 1) := by
      exact_mod_cast Nat.lt_log2_self.le
    have positive : (0 : Rat) < number.den := by
      exact_mod_cast number.den_pos
    have magnitude : |number| = number.num.natAbs / number.den := by
      conv_lhs => rw [← Rat.num_div_den number]
      rw [abs_div, Nat.abs_cast, Nat.cast_natAbs, Int.cast_abs]
    calc
      (2 : Rat) ^ ((number.num.natAbs.log2 : Int) - number.den.log2 - 1)
        = 2 ^ number.num.natAbs.log2 / 2 ^ (number.den.log2 + 1) := by
          rw [sub_sub, zpow_sub₀ two_ne_zero]
          norm_cast
      _ ≤ number.num.natAbs / number.den :=
          div_le_div₀ (Nat.cast_nonneg _) numerator positive denominator
      _ = |number| := magnitude.symm
  · exact not_lt.mp small

/-- A number of at most 53 binary digits is a `double`. -/
theorem round_eq_self
    {digits place : Int}
    (short : |digits| < 2 ^ 53)
    (noUnderflow : -1074 ≤ place) :
    round (digits * 2 ^ place) = digits * 2 ^ place := by
  by_cases zero : digits = 0
  · simp [zero, round, roundHalfEven]
  · have positive : (0 : Rat) < 2 ^ place := zpow_pos two_pos place
    have nonzero : (digits : Rat) * 2 ^ place ≠ 0 :=
      mul_ne_zero (by exact_mod_cast zero) positive.ne'
    have first : exponent (digits * 2 ^ place) < 53 + place := by
      have below : |(digits : Rat) * 2 ^ place| < 2 ^ (53 + place) := by
        rw [abs_mul, abs_of_pos positive, zpow_add₀ two_ne_zero]
        exact mul_lt_mul_of_pos_right (by exact_mod_cast short) positive
      exact (zpow_lt_zpow_iff_right₀ one_lt_two).mp
        ((two_pow_exponent_le nonzero).trans_lt below)
    have last : lastPlace (digits * 2 ^ place) ≤ place :=
      max_le (by omega) noUnderflow
    unfold round
    generalize lastPlace (digits * 2 ^ place) = unit at last ⊢
    -- The number is a whole number of units of its last place.
    have whole :
        (digits : Rat) * 2 ^ place / 2 ^ unit =
          ((digits * 2 ^ (place - unit).toNat : Int) : Rat) := by
      have more := Int.toNat_of_nonneg (sub_nonneg.mpr last)
      rw [mul_div_assoc, ← zpow_sub₀ two_ne_zero]
      nth_rewrite 1 [← more]
      push_cast
      rw [zpow_natCast]
    rw [whole, roundHalfEven_intCast, ← whole,
      div_mul_cancel₀ _ (zpow_ne_zero unit two_ne_zero)]

/-- Rounding is off by half a unit of the last place at most. -/
theorem abs_round_sub_le
    {number : Rat}
    {bits : Int}
    (below : |number| < 2 ^ bits)
    (noUnderflow : -1021 ≤ bits) :
    |round number - number| ≤ 2 ^ (bits - 54) := by
  by_cases zero : number = 0
  · have none : |round number - number| = 0 := by
      simp [zero, round, roundHalfEven]
    rw [none]
    exact (zpow_pos two_pos _).le
  · have last : lastPlace number ≤ bits - 53 := by
      have first : exponent number < bits :=
        (zpow_lt_zpow_iff_right₀ one_lt_two).mp
          ((two_pow_exponent_le zero).trans_lt below)
      exact max_le (by omega) (by omega)
    unfold round
    generalize lastPlace number = unit at last ⊢
    have positive : (0 : Rat) < 2 ^ unit := zpow_pos two_pos unit
    have near := abs_roundHalfEven_sub_le (number / 2 ^ unit)
    calc
      |(roundHalfEven (number / 2 ^ unit) : Rat) * 2 ^ unit - number|
        = |(roundHalfEven (number / 2 ^ unit) : Rat) - number / 2 ^ unit| *
            2 ^ unit := by
          rw [← abs_of_pos positive, ← abs_mul, abs_of_pos positive, sub_mul,
            div_mul_cancel₀ _ positive.ne']
      _ ≤ 1 / 2 * 2 ^ unit := mul_le_mul_of_nonneg_right near positive.le
      _ = 2 ^ (unit - 1) := by
          rw [zpow_sub_one₀ two_ne_zero]
          ring
      _ ≤ 2 ^ (bits - 54) := zpow_le_zpow_right₀ one_le_two (by omega)

end Binary64
