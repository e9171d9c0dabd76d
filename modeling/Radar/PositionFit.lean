import Mathlib.Algebra.Order.Ring.Rat
import Mathlib.Data.Fintype.Prod
import Mathlib.LinearAlgebra.Matrix.Notation
import Mathlib.Tactic.FinCases
import Mathlib.Tactic.GCongr
import Mathlib.Tactic.NormNum
import Mathlib.Tactic.Positivity
import Radar.LinearError

namespace Radar

/-!
# The polynomial through six positions

`compute_params` multiplies six positions, 10 s apart, by a table of numbers
with fifteen decimal places.  The result describes a polynomial of degree five
close to the one that goes through the positions.
-/

open Matrix

namespace PositionFit

/-- The precomputed numbers, as they stand in the source. -/
def xData : Vector Rat 36 :=
  #v[1.000000000002234, -0.228333333348094, 0.037500000004917,
    -0.004250000000822, 0.000300000000074, -0.000010000000003,
    -0.000000000007910, 0.500000000076929, -0.128333333351056,
    0.017750000003601, -0.001400000000315, 0.000050000000013,
    0.000000000012434, -0.500000000104629, 0.178333333385611,
    -0.029500000004713, 0.002600000000584, -0.000100000000022,
    -0.000000000010440, 0.333333333430922, -0.130000000007785,
    0.024500000011848, -0.002400000000351, 0.000100000000020,
    0.000000000004659, -0.125000000035072, 0.050833333378961,
    -0.010249999987836, 0.001100000000941, -0.000050000000010,
    -0.000000000000821, 0.020000000012828, -0.008333333295482,
    0.001750000025723, -0.000199999997919, 0.000010000000002]

/-- The matrix of these numbers, which is filled by columns. -/
def xPrec : Matrix (Fin 6) (Fin 6) Rat :=
  Matrix.of fun row column => xData[column.val * 6 + row.val]

/-- The parameters for six points. -/
def compParHelper (points : Vector Rat 6) : Vector Rat 6 :=
  Vector.ofFn (xPrec *ᵥ points.get)

/-- The powers of a time over the factorials. -/
def timeCoef (t : Rat) : Fin 6 → Rat :=
  ![1, t, t ^ 2 / 2, t ^ 3 / 6, t ^ 4 / 24, t ^ 5 / 120]

/-- The position at a time that parameters describe. -/
def position (params : Vector Rat 6) (t : Rat) : Rat :=
  timeCoef t ⬝ᵥ params.get

/-- The times of the six points, in seconds. -/
def pointTime (nPoint : Fin 6) : Rat :=
  10 * nPoint.val

/-- The matrix that the numbers of the source are computed from. -/
def getX6 : Matrix (Fin 6) (Fin 6) Rat :=
  Matrix.of fun row => timeCoef (pointTime row)

/-- The parameters describe a path through six points. -/
def PassesThrough (params points : Vector Rat 6) : Prop :=
  ∀ nPoint, position params (pointTime nPoint) = points.get nPoint

/-- What the numbers of the source approximate. -/
def exactInverse : Matrix (Fin 6) (Fin 6) Rat :=
  !![1, 0, 0, 0, 0, 0;
    -137 / 600, 1 / 2, -1 / 2, 1 / 3, -1 / 8, 1 / 50;
    3 / 80, -77 / 600, 107 / 600, -13 / 100, 61 / 1200, -1 / 120;
    -17 / 4000, 71 / 4000, -59 / 2000, 49 / 2000, -41 / 4000, 7 / 4000;
    3 / 10000, -7 / 5000, 13 / 5000, -3 / 1250, 11 / 10000, -1 / 5000;
    -1 / 100000, 1 / 20000, -1 / 10000, 1 / 10000, -1 / 20000, 1 / 100000]

/-- The parameters of the polynomial through six points. -/
def throughPoints (points : Vector Rat 6) : Vector Rat 6 :=
  Vector.ofFn (exactInverse *ᵥ points.get)

@[simp] theorem get_ofFn (values : Fin 6 → Rat) :
    (Vector.ofFn values).get = values := by
  funext row
  exact Vector.getElem_ofFn row.isLt

/-- The points on a path are its parameters times the matrix. -/
theorem passesThrough_iff (params points : Vector Rat 6) :
    PassesThrough params points ↔ getX6 *ᵥ params.get = points.get :=
  funext_iff.symm

theorem exactInverse_mul : exactInverse * getX6 = 1 := by
  have entries :
      ∀ entry : Fin 6 × Fin 6, (exactInverse * getX6) entry.1 entry.2 =
        (1 : Matrix (Fin 6) (Fin 6) Rat) entry.1 entry.2 := by
    decide +kernel
  exact Matrix.ext fun row column => entries (row, column)

theorem mul_exactInverse : getX6 * exactInverse = 1 := by
  have entries :
      ∀ entry : Fin 6 × Fin 6, (getX6 * exactInverse) entry.1 entry.2 =
        (1 : Matrix (Fin 6) (Fin 6) Rat) entry.1 entry.2 := by
    decide +kernel
  exact Matrix.ext fun row column => entries (row, column)

/-- The tables differ by little, even after 50 s. -/
theorem error_le :
    timeCoef 50 ⬝ᵥ LinearError.rowSum (xPrec - exactInverse) ≤
      28 / 10000000 := by
  decide +kernel

/-- Between the first and the last point the powers are the largest last. -/
theorem abs_timeCoef_le
    {t : Rat}
    (notBefore : 0 ≤ t)
    (notAfter : t ≤ 50)
    (power : Fin 6) :
    |timeCoef t power| ≤ timeCoef 50 power := by
  have positive : 0 ≤ timeCoef t power := by
    fin_cases power <;> simp [timeCoef] <;> positivity
  rw [abs_of_nonneg positive]
  fin_cases power <;> simp only [timeCoef] <;> dsimp <;> gcongr

/-- Exactly one path goes through six points. -/
theorem passesThrough_iff_eq (params points : Vector Rat 6) :
    PassesThrough params points ↔ params = throughPoints points := by
  rw [passesThrough_iff]
  constructor
  · intro through
    have inverted : params.get = exactInverse *ᵥ points.get := by
      rw [← through, Matrix.mulVec_mulVec, exactInverse_mul,
        Matrix.one_mulVec]
    rw [throughPoints, ← inverted]
    ext row inRange
    rw [Vector.getElem_ofFn]
    rfl
  · rintro rfl
    rw [throughPoints, get_ofFn, Matrix.mulVec_mulVec, mul_exactInverse,
      Matrix.one_mulVec]

/-- The paths of two rows of parameters, from their differences. -/
theorem position_sub (params others : Vector Rat 6) (t : Rat) :
    position params t - position others t =
      timeCoef t ⬝ᵥ (params.get - others.get) :=
  (dotProduct_sub _ _ _).symm

/-- The computed parameters describe nearly the path through six points. -/
theorem abs_position_sub_le
    (points : Vector Rat 6)
    {limit t : Rat}
    (limited : ∀ nPoint, |points.get nPoint| ≤ limit)
    (notBefore : 0 ≤ t)
    (notAfter : t ≤ 50) :
    |position (compParHelper points) t - position (throughPoints points) t| ≤
      28 / 10000000 * limit := by
  have notNegative : 0 ≤ limit := (abs_nonneg _).trans (limited 0)
  rw [position_sub, compParHelper, throughPoints, get_ofFn, get_ofFn,
    ← Matrix.sub_mulVec]
  calc
    |timeCoef t ⬝ᵥ (xPrec - exactInverse) *ᵥ points.get| ≤
        (timeCoef 50 ⬝ᵥ LinearError.rowSum (xPrec - exactInverse)) * limit :=
      LinearError.abs_dotProduct_mulVec_le _
        (abs_timeCoef_le notBefore notAfter) limited
    _ ≤ 28 / 10000000 * limit :=
      mul_le_mul_of_nonneg_right error_le notNegative

/--
Exactly one polynomial of degree five goes through six points.  Between the
first and the last of them, the computed parameters describe a path that is
away from it by less than three millionths of the largest coordinate.
-/
theorem compParHelper_near
    (points : Vector Rat 6)
    {limit : Rat}
    (limited : ∀ nPoint, |points.get nPoint| ≤ limit) :
    (∀ params,
        PassesThrough params points ↔ params = throughPoints points) ∧
      ∀ t, 0 ≤ t → t ≤ 50 →
        |position (compParHelper points) t -
            position (throughPoints points) t| ≤
          28 / 10000000 * limit :=
  ⟨fun params => passesThrough_iff_eq params points,
    fun _ notBefore notAfter =>
      abs_position_sub_le points limited notBefore notAfter⟩

/-- The path along one axis through the positions of a low orbit. -/
theorem compParHelper_near_lowOrbit :
    let points :=
      #v[6771000, 6770577, 6769309, 6767196, 6764238, 6760435]
    (∀ params,
        PassesThrough params points ↔ params = throughPoints points) ∧
      ∀ t, 0 ≤ t → t ≤ 50 →
        |position (compParHelper points) t -
            position (throughPoints points) t| ≤
          28 / 10000000 * 6771000 :=
  compParHelper_near _ (by decide +kernel)

end PositionFit

end Radar
