import Mathlib.Analysis.SpecialFunctions.Complex.Arctan
import Mathlib.Tactic.FieldSimp
import Mathlib.Tactic.Linarith
import Mathlib.Tactic.LinearCombination
import Mathlib.Tactic.Positivity

/-!
# Finding the geodetic latitude by iteration

The tangent of the geodetic latitude of a point in a meridian plane is a fixed
point.  Iteration from the tangent of the geocentric latitude approaches it
from the side of the equator: each value is a multiple of the tangent, and the
factor approaches one geometrically.
-/

open Real

/-- A meridian of an ellipsoid: the major axis and the eccentricity. -/
structure Meridian where
  a : ℝ
  e_2 : ℝ
  a_pos : 0 < a
  e_2_nonneg : 0 ≤ e_2
  e_2_lt_one : e_2 < 1

namespace Meridian

variable (meridian : Meridian)

/-- The secant of the reduced latitude, from the tangent of the geodetic. -/
noncomputable def secant (tangent : ℝ) : ℝ :=
  √(1 + (1 - meridian.e_2) * tangent * tangent)

/-- One step of the iteration, for a point with these coordinates. -/
noncomputable def next (p z tangent : ℝ) : ℝ :=
  (z + meridian.a * meridian.e_2 * tangent / meridian.secant tangent) / p

/-- The tangent is that of a point outside of the ellipsoid, or on it. -/
structure Above (p z tangent : ℝ) : Prop where
  fixed :
    p * tangent =
      z + meridian.a * meridian.e_2 * tangent / meridian.secant tangent
  outside : meridian.a ≤ p * meridian.secant tangent

/-! ## Secants -/

theorem ratio_pos : 0 < 1 - meridian.e_2 :=
  sub_pos.mpr meridian.e_2_lt_one

theorem ratio_le_one : 1 - meridian.e_2 ≤ 1 :=
  sub_le_self 1 meridian.e_2_nonneg

theorem radicand_pos (tangent : ℝ) :
    0 < 1 + (1 - meridian.e_2) * tangent * tangent := by
  have positive := meridian.ratio_pos
  have square := mul_nonneg positive.le (mul_self_nonneg tangent)
  linarith

@[simp] theorem secant_sq (tangent : ℝ) :
    meridian.secant tangent ^ 2 =
      1 + (1 - meridian.e_2) * tangent * tangent :=
  sq_sqrt (meridian.radicand_pos tangent).le

theorem one_le_secant (tangent : ℝ) : 1 ≤ meridian.secant tangent := by
  have square :=
    mul_nonneg meridian.ratio_pos.le (mul_self_nonneg tangent)
  exact one_le_sqrt.mpr (by linarith)

theorem secant_pos (tangent : ℝ) : 0 < meridian.secant tangent :=
  zero_lt_one.trans_le (meridian.one_le_secant tangent)

/-- A smaller tangent has a smaller secant, but not by more than the factor. -/
theorem mul_secant_le
    {factor : ℝ}
    (nonnegative : 0 ≤ factor)
    (atMost : factor ≤ 1)
    (tangent : ℝ) :
    factor * meridian.secant tangent ≤ meridian.secant (factor * tangent) := by
  refine le_of_sq_le_sq ?_ (meridian.secant_pos _).le
  rw [mul_pow, secant_sq, secant_sq]
  have small : factor ^ 2 ≤ 1 := pow_le_one₀ nonnegative atMost
  linear_combination small

theorem secant_mul_le
    {factor : ℝ}
    (nonnegative : 0 ≤ factor)
    (atMost : factor ≤ 1)
    (tangent : ℝ) :
    meridian.secant (factor * tangent) ≤ meridian.secant tangent := by
  refine le_of_sq_le_sq ?_ (meridian.secant_pos _).le
  rw [secant_sq, secant_sq]
  have small : factor ^ 2 ≤ 1 := pow_le_one₀ nonnegative atMost
  have square : 0 ≤ (1 - meridian.e_2) * tangent ^ 2 :=
    mul_nonneg meridian.ratio_pos.le (sq_nonneg _)
  linear_combination mul_le_mul_of_nonneg_right small square

/-- The sine of the reduced latitude grows with the tangent, but slower. -/
theorem sine_sub_nonneg
    {factor : ℝ}
    (nonnegative : 0 ≤ factor)
    (atMost : factor ≤ 1)
    (tangent : ℝ) :
    0 ≤
      1 / meridian.secant tangent -
        factor / meridian.secant (factor * tangent) := by
  rw [sub_nonneg,
    div_le_div_iff₀ (meridian.secant_pos _) (meridian.secant_pos _), one_mul]
  exact meridian.mul_secant_le nonnegative atMost tangent

theorem sine_sub_le
    {factor : ℝ}
    (positive : 0 < factor)
    (atMost : factor ≤ 1)
    (tangent : ℝ) :
    1 / meridian.secant tangent -
        factor / meridian.secant (factor * tangent) ≤
      (1 - factor) / (factor ^ 2 * meridian.secant tangent ^ 3) := by
  have more := meridian.mul_secant_le positive.le atMost tangent
  have square := meridian.secant_sq tangent
  have scaledSquare := meridian.secant_sq (factor * tangent)
  have secantPos := meridian.secant_pos tangent
  have scaledPos := meridian.secant_pos (factor * tangent)
  generalize meridian.secant tangent = secant at *
  generalize meridian.secant (factor * tangent) = scaled at *
  have product :
      1 / secant - factor / scaled =
        (1 - factor ^ 2) / (secant * scaled * (scaled + factor * secant)) := by
    rw [div_sub_div _ _ secantPos.ne' scaledPos.ne', div_eq_div_iff
      (by positivity) (by positivity)]
    linear_combination
      (secant * scaled) * (scaledSquare - factor ^ 2 * square)
  have denominator :
      2 * (factor ^ 2 * secant ^ 3) ≤
        secant * scaled * (scaled + factor * secant) := by
    calc
      2 * (factor ^ 2 * secant ^ 3) =
          secant * (factor * secant) *
            (factor * secant + factor * secant) := by ring
      _ ≤ secant * scaled * (scaled + factor * secant) := by gcongr
  have numerator : 1 - factor ^ 2 ≤ 2 * (1 - factor) := by
    linear_combination sq_nonneg (1 - factor)
  rw [product]
  calc
    (1 - factor ^ 2) / (secant * scaled * (scaled + factor * secant)) ≤
        2 * (1 - factor) / (2 * (factor ^ 2 * secant ^ 3)) := by
      have nonnegative : 0 ≤ 2 * (1 - factor) := by linarith
      gcongr
    _ = (1 - factor) / (factor ^ 2 * secant ^ 3) :=
      mul_div_mul_left _ _ two_ne_zero

/-! ## The iteration -/

namespace Above

variable {meridian} {p z tangent : ℝ}
variable (above : meridian.Above p z tangent)
include above

theorem p_pos : 0 < p :=
  pos_of_mul_pos_left (meridian.a_pos.trans_le above.outside)
    (meridian.secant_pos tangent).le

/-- A step from a multiple of the tangent leads to a multiple of it. -/
theorem next_mul (factor : ℝ) :
    meridian.next p z (factor * tangent) =
      (1 - meridian.a * meridian.e_2 / p *
        (1 / meridian.secant tangent -
          factor / meridian.secant (factor * tangent))) * tangent := by
  have pPos := above.p_pos
  have secantPos := meridian.secant_pos tangent
  have scaledPos := meridian.secant_pos (factor * tangent)
  have point :
      z =
        p * tangent -
          meridian.a * meridian.e_2 * tangent / meridian.secant tangent := by
    linear_combination -above.fixed
  rw [next, point]
  field_simp
  ring

/-- A step comes closer by the square of the eccentricity, or nearly so. -/
theorem exists_next_mul
    {factor : ℝ}
    (positive : 0 < factor)
    (atMost : factor ≤ 1) :
    ∃ nextFactor,
      meridian.next p z (factor * tangent) = nextFactor * tangent ∧
        nextFactor ≤ 1 ∧
        1 - nextFactor ≤ meridian.e_2 / factor ^ 2 * (1 - factor) := by
  refine ⟨_, above.next_mul factor, ?_, ?_⟩
  · have gap := meridian.sine_sub_nonneg positive.le atMost tangent
    have weight : 0 ≤ meridian.a * meridian.e_2 / p :=
      div_nonneg (mul_nonneg meridian.a_pos.le meridian.e_2_nonneg)
        above.p_pos.le
    linarith [mul_nonneg weight gap]
  · have gap := meridian.sine_sub_le positive atMost tangent
    have secantOne := meridian.one_le_secant tangent
    have secantPos := meridian.secant_pos tangent
    have weight :
        meridian.a * meridian.e_2 / p ≤
          meridian.e_2 * meridian.secant tangent := by
      rw [div_le_iff₀ above.p_pos]
      linear_combination
        mul_le_mul_of_nonneg_left above.outside meridian.e_2_nonneg
    have nonnegative : 0 ≤ 1 - factor := sub_nonneg.mpr atMost
    calc
      1 -
          (1 - meridian.a * meridian.e_2 / p *
            (1 / meridian.secant tangent -
              factor / meridian.secant (factor * tangent))) =
          meridian.a * meridian.e_2 / p *
            (1 / meridian.secant tangent -
              factor / meridian.secant (factor * tangent)) :=
        sub_sub_cancel _ _
      _ ≤ meridian.e_2 * meridian.secant tangent *
            ((1 - factor) / (factor ^ 2 * meridian.secant tangent ^ 3)) :=
        mul_le_mul weight gap
          (meridian.sine_sub_nonneg positive.le atMost tangent)
          (mul_nonneg meridian.e_2_nonneg secantPos.le)
      _ = meridian.e_2 / factor ^ 2 * (1 - factor) /
            meridian.secant tangent ^ 2 := by
        field_simp
      _ ≤ meridian.e_2 / factor ^ 2 * (1 - factor) :=
        div_le_self
          (mul_nonneg (div_nonneg meridian.e_2_nonneg (sq_nonneg _))
            nonnegative)
          (one_le_pow₀ secantOne)

/-- The tangent of the geocentric latitude is the first of these multiples. -/
theorem exists_first :
    ∃ factor,
      z / p = factor * tangent ∧ 1 - meridian.e_2 ≤ factor ∧ factor ≤ 1 := by
  have pPos := above.p_pos
  have secantPos := meridian.secant_pos tangent
  have weight :
      meridian.a / (p * meridian.secant tangent) ≤ 1 :=
    (div_le_one (mul_pos pPos secantPos)).mpr above.outside
  have weightPos : 0 ≤ meridian.a / (p * meridian.secant tangent) :=
    div_nonneg meridian.a_pos.le (mul_pos pPos secantPos).le
  have point :
      z =
        p * tangent -
          meridian.a * meridian.e_2 * tangent / meridian.secant tangent := by
    linear_combination -above.fixed
  refine
    ⟨1 - meridian.e_2 * (meridian.a / (p * meridian.secant tangent)), ?_, ?_,
      ?_⟩
  · rw [point]
    field_simp
  · exact
      sub_le_sub_left (mul_le_of_le_one_right meridian.e_2_nonneg weight) 1
  · exact sub_le_self 1 (mul_nonneg meridian.e_2_nonneg weightPos)

/--
The iterates from the geocentric latitude are multiples of the tangent, and
their factors approach one geometrically.
-/
theorem exists_iterate
    (flat : meridian.e_2 ≤ (1 - meridian.e_2) ^ 2)
    (times : Nat) :
    ∃ factor,
      (meridian.next p z)^[times] (z / p) = factor * tangent ∧
        1 - meridian.e_2 ≤ factor ∧ factor ≤ 1 ∧
        1 - factor ≤
          (meridian.e_2 / (1 - meridian.e_2) ^ 2) ^ times * meridian.e_2 := by
  induction times with
  | zero =>
      obtain ⟨factor, first, atLeast, atMost⟩ := above.exists_first
      refine ⟨factor, first, atLeast, atMost, ?_⟩
      linarith
  | succ times inductionHypothesis =>
      obtain ⟨factor, iterate, atLeast, atMost, near⟩ := inductionHypothesis
      have ratioPos := meridian.ratio_pos
      have positive : 0 < factor := ratioPos.trans_le atLeast
      obtain ⟨nextFactor, next, nextAtMost, nextNear⟩ :=
        above.exists_next_mul positive atMost
      have rate :
          meridian.e_2 / factor ^ 2 ≤
            meridian.e_2 / (1 - meridian.e_2) ^ 2 := by
        have nonnegative := meridian.e_2_nonneg
        gcongr
      have small : meridian.e_2 / (1 - meridian.e_2) ^ 2 ≤ 1 :=
        (div_le_one (pow_pos ratioPos 2)).mpr flat
      have nonnegative : 0 ≤ 1 - factor := sub_nonneg.mpr atMost
      refine ⟨nextFactor, ?_, ?_, nextAtMost, ?_⟩
      · rw [Function.iterate_succ_apply', iterate, next]
      · have closer : 1 - nextFactor ≤ 1 - factor :=
          nextNear.trans
            (mul_le_of_le_one_left nonnegative (rate.trans small))
        linarith
      · calc
          1 - nextFactor ≤ meridian.e_2 / factor ^ 2 * (1 - factor) :=
            nextNear
          _ ≤ meridian.e_2 / (1 - meridian.e_2) ^ 2 *
                ((meridian.e_2 / (1 - meridian.e_2) ^ 2) ^ times *
                  meridian.e_2) :=
            mul_le_mul rate near nonnegative
              (div_nonneg meridian.e_2_nonneg (sq_nonneg _))
          _ = _ := by
            rw [pow_succ']
            ring

end Above

/-! ## Latitudes and heights -/

theorem arctan_le_self {number : ℝ} (nonnegative : 0 ≤ number) :
    arctan number ≤ number := by
  have below :=
    le_tan (arctan_nonneg.mpr nonnegative) (arctan_lt_pi_div_two number)
  rwa [tan_arctan] at below

theorem abs_arctan_le (number : ℝ) : |arctan number| ≤ |number| := by
  rcases le_total 0 number with nonnegative | nonpositive
  · rw [abs_of_nonneg nonnegative,
      abs_of_nonneg (arctan_nonneg.mpr nonnegative)]
    exact arctan_le_self nonnegative
  · have below := arctan_le_self (neg_nonneg.mpr nonpositive)
    have angle := arctan_nonneg.mpr (neg_nonneg.mpr nonpositive)
    rw [arctan_neg] at below angle
    rw [abs_of_nonpos nonpositive, abs_of_nonpos (neg_nonneg.mp angle)]
    exact below

/-- The angles of a number and of a multiple of it are close. -/
theorem abs_arctan_mul_sub_le
    {factor : ℝ}
    (positive : 0 < factor)
    (atMost : factor ≤ 1)
    (tangent : ℝ) :
    |arctan (factor * tangent) - arctan tangent| ≤ (1 - factor) / factor := by
  have square := mul_nonneg positive.le (mul_self_nonneg tangent)
  have denominator : 0 < 1 + factor * (tangent * tangent) := by linarith
  have sum :
      arctan (factor * tangent) - arctan tangent =
        arctan
          ((factor - 1) * tangent / (1 + factor * (tangent * tangent))) := by
    rw [sub_eq_add_neg, ← arctan_neg, arctan_add (by linarith)]
    congr 1
    ring
  have nonnegative : 0 ≤ 1 - factor := sub_nonneg.mpr atMost
  have bounded :
      factor * |tangent| ≤ 1 + factor * (tangent * tangent) := by
    rw [← abs_mul_abs_self tangent]
    have apart := mul_self_nonneg (|tangent| - 1)
    have scaled := mul_nonneg positive.le apart
    have half := mul_nonneg positive.le (abs_nonneg tangent)
    linarith
  rw [sum]
  refine (abs_arctan_le _).trans ?_
  rw [abs_div, abs_mul, abs_of_pos denominator, abs_sub_comm,
    abs_of_nonneg nonnegative, div_le_div_iff₀ denominator positive]
  linear_combination mul_le_mul_of_nonneg_left bounded nonnegative

/-- The point of the ellipse with this tangent of the geodetic latitude. -/
noncomputable def surface (tangent : ℝ) : ℂ where
  re := meridian.a / meridian.secant tangent
  im :=
    meridian.a / meridian.secant tangent * (1 - meridian.e_2) * tangent

/-- The distances from the axis of two such points are close. -/
theorem abs_re_surface_sub_le
    {factor : ℝ}
    (positive : 0 < factor)
    (atMost : factor ≤ 1)
    (tangent : ℝ) :
    |(meridian.surface tangent - meridian.surface (factor * tangent)).re| ≤
      meridian.a * ((1 - factor) / factor ^ 2) := by
  have less := meridian.secant_mul_le positive.le atMost tangent
  have more := meridian.mul_secant_le positive.le atMost tangent
  have secantOne := meridian.one_le_secant tangent
  have scaledPos := meridian.secant_pos (factor * tangent)
  have aPos := meridian.a_pos
  have nonnegative : 0 ≤ 1 - factor := sub_nonneg.mpr atMost
  rw [Complex.sub_re, surface, surface]
  dsimp only
  generalize meridian.secant tangent = secant at *
  generalize meridian.secant (factor * tangent) = scaled at *
  have secantPos : 0 < secant := zero_lt_one.trans_le secantOne
  have difference :
      meridian.a / scaled - meridian.a / secant =
        meridian.a * ((secant - scaled) / (secant * scaled)) := by
    field_simp
  rw [abs_sub_comm, difference, abs_of_nonneg
    (mul_nonneg aPos.le
      (div_nonneg (sub_nonneg.mpr less) (mul_pos secantPos scaledPos).le))]
  refine mul_le_mul_of_nonneg_left ?_ aPos.le
  calc
    (secant - scaled) / (secant * scaled) ≤
        (secant - factor * secant) / (secant * (factor * secant)) := by
      gcongr
      rw [sub_nonneg]
      exact mul_le_of_le_one_left secantPos.le atMost
    _ = (1 - factor) / (factor * secant) := by
      field_simp
    _ ≤ (1 - factor) / (factor * factor) := by
      gcongr
      exact atMost.trans secantOne
    _ = (1 - factor) / factor ^ 2 := by rw [sq]

/-- The heights over the equator of two such points are close. -/
theorem abs_im_surface_sub_le
    {factor : ℝ}
    (positive : 0 < factor)
    (atMost : factor ≤ 1)
    (tangent : ℝ) :
    |(meridian.surface tangent - meridian.surface (factor * tangent)).im| ≤
      meridian.a * ((1 - factor) / factor ^ 2) := by
  have gapNonneg := meridian.sine_sub_nonneg positive.le atMost tangent
  have gap := meridian.sine_sub_le positive atMost tangent
  have square := meridian.secant_sq tangent
  have secantOne := meridian.one_le_secant tangent
  have secantPos := meridian.secant_pos tangent
  have ratioPos := meridian.ratio_pos
  have nonnegative : 0 ≤ 1 - factor := sub_nonneg.mpr atMost
  have difference :
      (meridian.surface tangent - meridian.surface (factor * tangent)).im =
        meridian.a *
          ((1 - meridian.e_2) * tangent *
            (1 / meridian.secant tangent -
              factor / meridian.secant (factor * tangent))) := by
    rw [Complex.sub_im, surface, surface]
    ring
  have scaled : |(1 - meridian.e_2) * tangent| ≤ meridian.secant tangent := by
    refine abs_le_of_sq_le_sq ?_ secantPos.le
    rw [square]
    have squares :=
      mul_le_mul_of_nonneg_right meridian.ratio_le_one
        (mul_nonneg ratioPos.le (mul_self_nonneg tangent))
    linear_combination squares
  rw [difference, abs_mul, abs_of_pos meridian.a_pos, abs_mul,
    abs_of_nonneg gapNonneg]
  refine mul_le_mul_of_nonneg_left ?_ meridian.a_pos.le
  calc
    _ ≤ meridian.secant tangent *
          ((1 - factor) / (factor ^ 2 * meridian.secant tangent ^ 3)) :=
      mul_le_mul scaled gap gapNonneg secantPos.le
    _ = (1 - factor) / factor ^ 2 / meridian.secant tangent ^ 2 := by
      field_simp
    _ ≤ (1 - factor) / factor ^ 2 :=
      div_le_self (div_nonneg nonnegative (sq_nonneg _))
        (one_le_pow₀ secantOne)

/-- The points of multiples of a tangent are close together. -/
theorem norm_surface_sub_le
    {factor : ℝ}
    (positive : 0 < factor)
    (atMost : factor ≤ 1)
    (tangent : ℝ) :
    ‖meridian.surface tangent - meridian.surface (factor * tangent)‖ ≤
      2 * meridian.a * ((1 - factor) / factor ^ 2) := by
  refine (Complex.norm_le_abs_re_add_abs_im _).trans ?_
  have across := meridian.abs_re_surface_sub_le positive atMost tangent
  have along := meridian.abs_im_surface_sub_le positive atMost tangent
  linarith

/-- The distance of a point from the surface. -/
noncomputable def height (p z tangent : ℝ) : ℝ :=
  √((p - meridian.a / meridian.secant tangent) ^ 2 +
    (z - meridian.a / meridian.secant tangent * (1 - meridian.e_2) *
      tangent) ^ 2)

theorem height_eq_norm (p z tangent : ℝ) :
    meridian.height p z tangent =
      ‖(⟨p, z⟩ : ℂ) - meridian.surface tangent‖ := by
  rw [height, Complex.norm_def, Complex.normSq_apply]
  simp [surface, sq]

theorem abs_height_mul_sub_le
    {factor : ℝ}
    (positive : 0 < factor)
    (atMost : factor ≤ 1)
    (p z tangent : ℝ) :
    |meridian.height p z (factor * tangent) - meridian.height p z tangent| ≤
      2 * meridian.a * ((1 - factor) / factor ^ 2) := by
  rw [height_eq_norm, height_eq_norm]
  refine (abs_norm_sub_norm_le _ _).trans ?_
  rw [sub_sub_sub_cancel_left]
  exact meridian.norm_surface_sub_le positive atMost tangent

end Meridian
