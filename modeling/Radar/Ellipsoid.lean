import Mathlib.Analysis.SpecialFunctions.Trigonometric.Arctan
import Mathlib.Tactic.LinearCombination

/-!
# Ellipsoids of revolution

A point of an ellipsoid is given by its geodetic latitude in two ways: through
the radius of curvature in the prime vertical, or through the reduced
latitude.  Away from the poles both give the same point.
-/

open Real

/-- An ellipsoid of revolution, given by its semi-axes. -/
structure Ellipsoid where
  a : ℝ
  b : ℝ
  a_pos : 0 < a
  b_pos : 0 < b

namespace Ellipsoid

variable (shape : Ellipsoid)

/-- The square of the eccentricity. -/
noncomputable def e_2 : ℝ := 1 - shape.b ^ 2 / shape.a ^ 2

/-- The radius of curvature in the prime vertical. -/
noncomputable def primeVertical (latitude : ℝ) : ℝ :=
  shape.a / √(1 - shape.e_2 * sin latitude * sin latitude)

/-- The reduced latitude of a point with a geodetic latitude. -/
noncomputable def reducedLatitude (latitude : ℝ) : ℝ :=
  arctan (shape.b * tan latitude / shape.a)

/-- The length of the vector that the semi-axes make of a direction. -/
noncomputable def support (latitude : ℝ) : ℝ :=
  √((shape.a * cos latitude) ^ 2 + (shape.b * sin latitude) ^ 2)

/-- The radius in the prime vertical, from the length of this vector. -/
theorem primeVertical_eq (latitude : ℝ) :
    shape.primeVertical latitude =
      shape.a ^ 2 / shape.support latitude := by
  have nonzero : shape.a ≠ 0 := shape.a_pos.ne'
  have inside :
      1 - shape.e_2 * sin latitude * sin latitude =
        ((shape.a * cos latitude) ^ 2 + (shape.b * sin latitude) ^ 2) /
          shape.a ^ 2 := by
    rw [e_2]
    field_simp
    linear_combination
      (-shape.a ^ 2) * sin_sq_add_cos_sq latitude
  rw [primeVertical, inside, sqrt_div' _ (sq_nonneg shape.a),
    sqrt_sq shape.a_pos.le, ← support, div_div_eq_mul_div, sq]

/-- The secant of the reduced latitude. -/
theorem sqrt_one_add_sq
    {latitude : ℝ}
    (notPole : 0 < cos latitude) :
    √(1 + (shape.b * tan latitude / shape.a) ^ 2) =
      shape.support latitude / (shape.a * cos latitude) := by
  have positive : 0 < shape.a * cos latitude := mul_pos shape.a_pos notPole
  have nonzero : shape.a ≠ 0 := shape.a_pos.ne'
  have notZero : cos latitude ≠ 0 := notPole.ne'
  have inside :
      1 + (shape.b * tan latitude / shape.a) ^ 2 =
        ((shape.a * cos latitude) ^ 2 + (shape.b * sin latitude) ^ 2) /
          (shape.a * cos latitude) ^ 2 := by
    rw [tan_eq_sin_div_cos]
    field_simp
  rw [inside, sqrt_div' _ (sq_nonneg _), sqrt_sq positive.le, support]

/-- The distance of a point of the ellipsoid from the axis. -/
theorem mul_cos_reducedLatitude
    {latitude : ℝ}
    (notPole : 0 < cos latitude) :
    shape.a * cos (shape.reducedLatitude latitude) =
      shape.primeVertical latitude * cos latitude := by
  rw [reducedLatitude, cos_arctan, sqrt_one_add_sq shape notPole,
    one_div_div, primeVertical_eq]
  ring

/-- The height of a point of the ellipsoid over the equator. -/
theorem mul_sin_reducedLatitude
    {latitude : ℝ}
    (notPole : 0 < cos latitude) :
    shape.b * sin (shape.reducedLatitude latitude) =
      shape.primeVertical latitude * (1 - shape.e_2) * sin latitude := by
  have nonzero : shape.a ≠ 0 := shape.a_pos.ne'
  have notZero : cos latitude ≠ 0 := notPole.ne'
  rw [reducedLatitude, sin_arctan, sqrt_one_add_sq shape notPole,
    primeVertical_eq, e_2, tan_eq_sin_div_cos]
  field_simp
  ring

end Ellipsoid
