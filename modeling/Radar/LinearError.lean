import Mathlib.Algebra.Order.BigOperators.Group.Finset
import Mathlib.Algebra.Order.Field.Basic
import Mathlib.Data.Matrix.Mul

namespace LinearError

/-!
# Errors of linear maps with rounded tables

A table of numbers that is close to the inverse of another one nearly undoes
it.  How nearly is a sum of absolute values of the differences.
-/

open Matrix

variable
  {Row Column Number : Type}
  [Fintype Row] [Fintype Column]
  [Field Number] [LinearOrder Number] [IsStrictOrderedRing Number]

/-- The sum of the absolute values of a row. -/
def rowSum (table : Matrix Row Column Number) (row : Row) : Number :=
  ∑ column, |table row column|

/-- A weighted sum, from bounds of the weights and of the values. -/
theorem abs_dotProduct_le
    {weights values limits bounds : Row → Number}
    (limited : ∀ row, |weights row| ≤ limits row)
    (bounded : ∀ row, |values row| ≤ bounds row) :
    |weights ⬝ᵥ values| ≤ limits ⬝ᵥ bounds := by
  refine (Finset.abs_sum_le_sum_abs _ _).trans (Finset.sum_le_sum ?_)
  intro row _
  rw [abs_mul]
  exact
    mul_le_mul (limited row) (bounded row) (abs_nonneg _)
      ((abs_nonneg _).trans (limited row))

omit [Fintype Row] in
/-- A row applied to bounded values. -/
theorem abs_mulVec_le
    (table : Matrix Row Column Number)
    {values : Column → Number}
    {bound : Number}
    (bounded : ∀ column, |values column| ≤ bound)
    (row : Row) :
    |(table *ᵥ values) row| ≤ rowSum table row * bound := by
  rw [rowSum, Finset.sum_mul]
  exact abs_dotProduct_le (fun _ => le_rfl) bounded

/-- All rows applied to bounded values, and weighted. -/
theorem abs_dotProduct_mulVec_le
    (table : Matrix Row Column Number)
    {weights limits : Row → Number}
    {values : Column → Number}
    {bound : Number}
    (limited : ∀ row, |weights row| ≤ limits row)
    (bounded : ∀ column, |values column| ≤ bound) :
    |weights ⬝ᵥ table *ᵥ values| ≤ (limits ⬝ᵥ rowSum table) * bound := by
  calc
    |weights ⬝ᵥ table *ᵥ values| ≤
        limits ⬝ᵥ fun row => rowSum table row * bound :=
      abs_dotProduct_le limited (abs_mulVec_le table bounded)
    _ = (limits ⬝ᵥ rowSum table) * bound := by
      simp only [dotProduct, Finset.sum_mul, mul_assoc]

end LinearError
