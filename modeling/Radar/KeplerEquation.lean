import Mathlib.Analysis.SpecialFunctions.Trigonometric.Bounds
import Mathlib.Tactic.FieldSimp
import Mathlib.Tactic.Linarith
import Mathlib.Tactic.LinearCombination
import Mathlib.Tactic.Positivity
import Radar.SphericalCoordinates

/-!
# The equation of Kepler

The equation for the eccentric anomaly, with the eccentricity as a vector of
the orbital plane.  It has one solution; a small residual means a small error;
and the iteration of second order makes a small residual much smaller.
-/

open Real

/-- The eccentricity of an orbit, with the direction of its perigee. -/
structure EccentricityVector where
  x : ℝ
  y : ℝ

namespace EccentricityVector

variable (vector : EccentricityVector)

noncomputable def magnitude : ℝ :=
  √(vector.x * vector.x + vector.y * vector.y)

/-- The part of the vector along an anomaly. -/
noncomputable def along (anomaly : ℝ) : ℝ :=
  vector.x * cos anomaly + vector.y * sin anomaly

/-- The part of the vector across an anomaly. -/
noncomputable def across (anomaly : ℝ) : ℝ :=
  vector.x * sin anomaly - vector.y * cos anomaly

/-- What the equation leaves for a mean and an eccentric anomaly. -/
noncomputable def residual (mean anomaly : ℝ) : ℝ :=
  mean - anomaly + vector.across anomaly

/-! ## Parts of the vector -/

theorem magnitude_nonneg : 0 ≤ vector.magnitude :=
  sqrt_nonneg _

theorem magnitude_sq :
    vector.magnitude ^ 2 = vector.x * vector.x + vector.y * vector.y :=
  sq_sqrt (add_nonneg (mul_self_nonneg _) (mul_self_nonneg _))

/-- The vector has a direction. -/
theorem exists_direction :
    ∃ direction,
      vector.x = vector.magnitude * cos direction ∧
        vector.y = vector.magnitude * sin direction :=
  ⟨Spherical.atan2 vector.y vector.x,
    (Spherical.sqrt_mul_cos_atan2 vector.y vector.x).symm,
    (Spherical.sqrt_mul_sin_atan2 vector.y vector.x).symm⟩

theorem along_sq_add_across_sq (anomaly : ℝ) :
    vector.along anomaly ^ 2 + vector.across anomaly ^ 2 =
      vector.magnitude ^ 2 := by
  rw [magnitude_sq, along, across]
  linear_combination
    (vector.x ^ 2 + vector.y ^ 2) * sin_sq_add_cos_sq anomaly

theorem abs_along_le (anomaly : ℝ) :
    |vector.along anomaly| ≤ vector.magnitude := by
  refine abs_le_of_sq_le_sq ?_ vector.magnitude_nonneg
  rw [← vector.along_sq_add_across_sq anomaly]
  exact le_add_of_nonneg_right (sq_nonneg _)

theorem abs_across_le (anomaly : ℝ) :
    |vector.across anomaly| ≤ vector.magnitude := by
  refine abs_le_of_sq_le_sq ?_ vector.magnitude_nonneg
  rw [← vector.along_sq_add_across_sq anomaly]
  exact le_add_of_nonneg_left (sq_nonneg _)

/-- The part across an anomaly changes by less than the anomaly. -/
theorem abs_across_sub_le (first second : ℝ) :
    |vector.across first - vector.across second| ≤
      vector.magnitude * |first - second| := by
  obtain ⟨direction, isX, isY⟩ := vector.exists_direction
  have rotated :
      ∀ anomaly,
        vector.across anomaly =
          vector.magnitude * sin (anomaly - direction) := by
    intro anomaly
    rw [across, sin_sub]
    linear_combination sin anomaly * isX - cos anomaly * isY
  rw [rotated, rotated, ← mul_sub, abs_mul,
    abs_of_nonneg vector.magnitude_nonneg]
  refine mul_le_mul_of_nonneg_left ?_ vector.magnitude_nonneg
  have sines := abs_sin_sub_sin_le (first - direction) (second - direction)
  rwa [sub_sub_sub_cancel_right] at sines

/-- The part across a sum of anomalies. -/
theorem across_add (anomaly change : ℝ) :
    vector.across (anomaly + change) =
      vector.across anomaly * cos change +
        vector.along anomaly * sin change := by
  rw [across, across, along, sin_add, cos_add]
  ring

/-! ## Solutions -/

theorem continuous_residual (mean : ℝ) :
    Continuous (vector.residual mean) := by
  unfold residual across
  fun_prop

/-- Two anomalies differ by their residuals at most, up to the slope. -/
theorem slope_mul_abs_sub_le (mean first second : ℝ) :
    (1 - vector.magnitude) * |first - second| ≤
      |vector.residual mean first - vector.residual mean second| := by
  have difference :
      vector.residual mean first - vector.residual mean second =
        -((first - second) -
          (vector.across first - vector.across second)) := by
    rw [residual, residual]
    ring
  rw [difference, abs_neg]
  have triangle :=
    abs_sub_abs_le_abs_sub (first - second)
      (vector.across first - vector.across second)
  have part := vector.abs_across_sub_le first second
  linarith

variable {vector}

/-- The equation has exactly one solution. -/
theorem existsUnique_residual_eq_zero
    (elliptic : vector.magnitude < 1)
    (mean : ℝ) :
    ∃! anomaly, vector.residual mean anomaly = 0 := by
  have ordered :
      mean - vector.magnitude ≤ mean + vector.magnitude := by
    linarith [vector.magnitude_nonneg]
  have low : vector.residual mean (mean + vector.magnitude) ≤ 0 := by
    have part := (abs_le.mp (vector.abs_across_le
      (mean + vector.magnitude))).2
    rw [residual]
    linarith
  have high : 0 ≤ vector.residual mean (mean - vector.magnitude) := by
    have part := (abs_le.mp (vector.abs_across_le
      (mean - vector.magnitude))).1
    rw [residual]
    linarith
  obtain ⟨anomaly, -, solves⟩ :=
    intermediate_value_Icc' ordered
      (vector.continuous_residual mean).continuousOn ⟨low, high⟩
  refine ⟨anomaly, solves, ?_⟩
  intro other otherSolves
  have close := vector.slope_mul_abs_sub_le mean other anomaly
  rw [solves, otherSolves, sub_zero, abs_zero] at close
  have zero : |other - anomaly| ≤ 0 :=
    nonpos_of_mul_nonpos_right close (sub_pos.mpr elliptic)
  exact sub_eq_zero.mp (abs_nonpos_iff.mp zero)

/-- How far from the solution an anomaly with a small residual is. -/
theorem abs_sub_le_of_residual
    (elliptic : vector.magnitude < 1)
    {mean anomaly solution : ℝ}
    (solves : vector.residual mean solution = 0) :
    |anomaly - solution| ≤
      |vector.residual mean anomaly| / (1 - vector.magnitude) := by
  rw [le_div_iff₀' (sub_pos.mpr elliptic)]
  have close := vector.slope_mul_abs_sub_le mean anomaly solution
  rwa [solves, sub_zero] at close

/-! ## Corrections -/

variable (vector)

/-- The correction of first order. -/
noncomputable def firstOrder (mean anomaly : ℝ) : ℝ :=
  vector.residual mean anomaly / (1 - vector.along anomaly)

/-- The correction of second order. -/
noncomputable def secondOrder (mean anomaly : ℝ) : ℝ :=
  vector.residual mean anomaly /
    (1 - vector.along anomaly +
      0.5 * vector.across anomaly * vector.firstOrder mean anomaly)

variable {vector} {mean anomaly : ℝ}

/-- A quotient, from a lower bound of the divisor. -/
theorem abs_div_le_div
    {number divisor bound : ℝ}
    (positive : 0 < bound)
    (atLeast : bound ≤ divisor) :
    |number / divisor| ≤ |number| / bound := by
  rw [abs_div, abs_of_pos (positive.trans_le atLeast)]
  gcongr

theorem abs_firstOrder_le
    (nearlyCircular : vector.magnitude ≤ 1 / 5)
    (mean anomaly : ℝ) :
    |vector.firstOrder mean anomaly| ≤
      5 / 4 * |vector.residual mean anomaly| := by
  have part := (abs_le.mp (vector.abs_along_le anomaly)).2
  have slope : (4 : ℝ) / 5 ≤ 1 - vector.along anomaly := by linarith
  refine (abs_div_le_div (by norm_num) slope).trans_eq ?_
  ring

/-- The slope that the correction of second order divides by. -/
theorem secondOrder_slope_ge
    (nearlyCircular : vector.magnitude ≤ 1 / 5)
    (small : |vector.residual mean anomaly| ≤ 1 / 5) :
    31 / 40 ≤
      1 - vector.along anomaly +
        0.5 * vector.across anomaly * vector.firstOrder mean anomaly := by
  have part := (abs_le.mp (vector.abs_along_le anomaly)).2
  have acrossSmall := (vector.abs_across_le anomaly).trans nearlyCircular
  have first := abs_firstOrder_le nearlyCircular mean anomaly
  have product :
      |0.5 * vector.across anomaly * vector.firstOrder mean anomaly| ≤
        0.5 * (1 / 5) * (5 / 4 * (1 / 5)) := by
    rw [abs_mul, abs_mul, abs_of_pos (by norm_num : (0 : ℝ) < 0.5)]
    gcongr
    linarith
  have below := (abs_le.mp product).1
  linarith

theorem abs_secondOrder_le
    (nearlyCircular : vector.magnitude ≤ 1 / 5)
    (small : |vector.residual mean anomaly| ≤ 1 / 5) :
    |vector.secondOrder mean anomaly| ≤
      13 / 10 * |vector.residual mean anomaly| := by
  have slope := secondOrder_slope_ge nearlyCircular small
  refine (abs_div_le_div (by norm_num) slope).trans ?_
  linarith [abs_nonneg (vector.residual mean anomaly)]

/-- The corrections of first and of second order differ little. -/
theorem abs_firstOrder_sub_secondOrder_le
    (nearlyCircular : vector.magnitude ≤ 1 / 5)
    (small : |vector.residual mean anomaly| ≤ 1 / 5) :
    |vector.firstOrder mean anomaly - vector.secondOrder mean anomaly| ≤
      |vector.residual mean anomaly| ^ 2 / 4 := by
  have part := (abs_le.mp (vector.abs_along_le anomaly)).2
  have acrossSmall := (vector.abs_across_le anomaly).trans nearlyCircular
  have slope := secondOrder_slope_ge nearlyCircular small
  have first := abs_firstOrder_le nearlyCircular mean anomaly
  have slopePos : 0 < 1 - vector.along anomaly := by linarith
  have difference :
      vector.firstOrder mean anomaly - vector.secondOrder mean anomaly =
        0.5 * vector.across anomaly *
            vector.firstOrder mean anomaly ^ 2 /
          (1 - vector.along anomaly +
            0.5 * vector.across anomaly *
              vector.firstOrder mean anomaly) := by
    have corrected :
        vector.residual mean anomaly =
          vector.firstOrder mean anomaly * (1 - vector.along anomaly) :=
      (div_mul_cancel₀ _ slopePos.ne').symm
    rw [secondOrder, eq_div_iff (by linarith), sub_mul,
      div_mul_cancel₀ _ (by linarith), corrected]
    ring
  rw [difference]
  refine (abs_div_le_div (by norm_num) slope).trans ?_
  have product :
      |0.5 * vector.across anomaly * vector.firstOrder mean anomaly ^ 2| ≤
        0.5 * (1 / 5) * (5 / 4 * |vector.residual mean anomaly|) ^ 2 := by
    rw [abs_mul, abs_mul, abs_pow, abs_of_pos (by norm_num : (0 : ℝ) < 0.5)]
    gcongr
  have square := sq_nonneg |vector.residual mean anomaly|
  linarith

/-- What the equation leaves after the correction of second order. -/
theorem residual_add_secondOrder
    (nearlyCircular : vector.magnitude ≤ 1 / 5)
    (small : |vector.residual mean anomaly| ≤ 1 / 5) :
    let change := vector.secondOrder mean anomaly
    vector.residual mean (anomaly + change) =
      0.5 * vector.across anomaly * change *
          (vector.firstOrder mean anomaly - change) +
        vector.across anomaly * (cos change - (1 - change ^ 2 / 2)) +
        vector.along anomaly * (sin change - change) := by
  have slope := secondOrder_slope_ge nearlyCircular small
  have corrected :
      vector.secondOrder mean anomaly *
          (1 - vector.along anomaly +
            0.5 * vector.across anomaly * vector.firstOrder mean anomaly) =
        vector.residual mean anomaly :=
    div_mul_cancel₀ _ (by linarith)
  intro change
  have left := corrected
  rw [residual] at left
  rw [residual, across_add]
  linear_combination -left

/-- The correction of second order leaves the cube of a residual. -/
theorem abs_residual_add_secondOrder_le
    (nearlyCircular : vector.magnitude ≤ 1 / 5)
    (small : |vector.residual mean anomaly| ≤ 1 / 5) :
    |vector.residual mean (anomaly + vector.secondOrder mean anomaly)| ≤
      |vector.residual mean anomaly| ^ 3 / 5 := by
  have acrossSmall := (vector.abs_across_le anomaly).trans nearlyCircular
  have alongSmall := (vector.abs_along_le anomaly).trans nearlyCircular
  have changeSmall := abs_secondOrder_le nearlyCircular small
  have close := abs_firstOrder_sub_secondOrder_le nearlyCircular small
  rw [residual_add_secondOrder nearlyCircular small]
  generalize vector.secondOrder mean anomaly = change at *
  generalize vector.residual mean anomaly = left at *
  have nonnegative := abs_nonneg left
  have changeLeOne : |change| ≤ 1 := by linarith
  have cosine :
      |cos change - (1 - change ^ 2 / 2)| ≤
        (13 / 10 * |left|) ^ 4 * (5 / 96) :=
    (cos_bound changeLeOne).trans (by gcongr)
  have sine :
      |sin change - change| ≤
        (13 / 10 * |left|) ^ 3 / 6 + (13 / 10 * |left|) ^ 5 / 100 := by
    have cube : |change ^ 3 / 6| ≤ (13 / 10 * |left|) ^ 3 / 6 := by
      rw [abs_div, abs_pow, abs_of_pos (by norm_num : (0 : ℝ) < 6)]
      gcongr
    have fifth :
        |sin change - (change - change ^ 3 / 6)| ≤
          (13 / 10 * |left|) ^ 5 / 100 :=
      (sin_bound changeLeOne).trans (by gcongr)
    rw [abs_le] at cube fifth ⊢
    constructor <;> linarith
  have products :
      |0.5 * vector.across anomaly * change *
          (vector.firstOrder mean anomaly - change)| ≤
        0.5 * (1 / 5) * (13 / 10 * |left|) * (|left| ^ 2 / 4) := by
    rw [abs_mul, abs_mul, abs_mul, abs_of_pos (by norm_num : (0 : ℝ) < 0.5)]
    gcongr
  have cosines :
      |vector.across anomaly * (cos change - (1 - change ^ 2 / 2))| ≤
        1 / 5 * ((13 / 10 * |left|) ^ 4 * (5 / 96)) := by
    rw [abs_mul]
    gcongr
  have sines :
      |vector.along anomaly * (sin change - change)| ≤
        1 / 5 *
          ((13 / 10 * |left|) ^ 3 / 6 + (13 / 10 * |left|) ^ 5 / 100) := by
    rw [abs_mul]
    gcongr
  have fourth : |left| ^ 4 ≤ |left| ^ 3 * (1 / 5) := by
    rw [pow_succ]
    gcongr
  have fifth : |left| ^ 5 ≤ |left| ^ 3 * (1 / 5) ^ 2 := by
    rw [pow_add |left| 3 2]
    gcongr
  have cube : 0 ≤ |left| ^ 3 := by positivity
  refine (abs_add_le _ _).trans ?_
  have firstTwo := abs_add_le
    (0.5 * vector.across anomaly * change *
      (vector.firstOrder mean anomaly - change))
    (vector.across anomaly * (cos change - (1 - change ^ 2 / 2)))
  linarith

end EccentricityVector
