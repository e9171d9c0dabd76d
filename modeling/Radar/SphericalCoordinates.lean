import Mathlib.Analysis.SpecialFunctions.Complex.Arg
import Mathlib.LinearAlgebra.UnitaryGroup

/-!
# Spherical coordinates

The inverse tangent of two arguments, the range and the polar angle of a point
of space, and rotations of space.
-/

namespace Spherical

open Real Matrix

/-! ## The inverse tangent of two arguments -/

/-- The angle of a point of the plane, from the first axis. -/
noncomputable def atan2 (y x : ℝ) : ℝ := Complex.arg ⟨x, y⟩

/-- The distance of a point of the plane from the origin. -/
theorem norm_mk (x y : ℝ) : ‖(⟨x, y⟩ : ℂ)‖ = √(x * x + y * y) := by
  rw [Complex.norm_def, Complex.normSq_mk]

/-- The first coordinate of a point, from its angle. -/
theorem sqrt_mul_cos_atan2 (y x : ℝ) :
    √(x * x + y * y) * cos (atan2 y x) = x := by
  rw [← norm_mk]
  exact Complex.norm_mul_cos_arg ⟨x, y⟩

/-- The second coordinate of a point, from its angle. -/
theorem sqrt_mul_sin_atan2 (y x : ℝ) :
    √(x * x + y * y) * sin (atan2 y x) = y := by
  rw [← norm_mk]
  exact Complex.norm_mul_sin_arg ⟨x, y⟩

theorem atan2_nonneg
    {y : ℝ}
    (notNegative : 0 ≤ y)
    (x : ℝ) :
    0 ≤ atan2 y x :=
  Complex.arg_nonneg_iff.mpr notNegative

theorem atan2_le_pi (y x : ℝ) : atan2 y x ≤ π :=
  Complex.arg_le_pi _

/-- The angle of a point of the first axis. -/
theorem atan2_zero_left
    {x : ℝ}
    (notNegative : 0 ≤ x) :
    atan2 0 x = 0 :=
  Complex.arg_ofReal_of_nonneg notNegative

theorem atan2_zero_left_of_neg
    {x : ℝ}
    (negative : x < 0) :
    atan2 0 x = π :=
  Complex.arg_ofReal_of_neg negative

/-- The angle of a point of the second axis. -/
theorem atan2_zero_right
    {y : ℝ}
    (positive : 0 < y) :
    atan2 y 0 = π / 2 := by
  have same : (⟨0, y⟩ : ℂ) = y * Complex.I := by
    apply Complex.ext <;> simp
  rw [atan2, same, Complex.arg_real_mul _ positive, Complex.arg_I]

/-! ## Points of space -/

/-- The range of a point. -/
noncomputable def range (x y z : ℝ) : ℝ := √(x * x + y * y + z * z)

/-- The polar angle of a point, from the third axis. -/
noncomputable def polar (x y z : ℝ) : ℝ := atan2 (√(x * x + y * y)) z

/-- The polar angle is between the two directions of the third axis. -/
theorem polar_mem (x y z : ℝ) : 0 ≤ polar x y z ∧ polar x y z ≤ π :=
  ⟨atan2_nonneg (sqrt_nonneg _) z, atan2_le_pi _ _⟩

/-- The range, from the distance of a point from the third axis. -/
theorem range_eq (x y z : ℝ) :
    range x y z = √(z * z + √(x * x + y * y) * √(x * x + y * y)) := by
  rw [mul_self_sqrt (add_nonneg (mul_self_nonneg x) (mul_self_nonneg y)),
    range, add_comm (z * z)]

theorem range_mul_cos_polar (x y z : ℝ) :
    range x y z * cos (polar x y z) = z := by
  rw [range_eq]
  exact sqrt_mul_cos_atan2 _ z

theorem range_mul_sin_polar (x y z : ℝ) :
    range x y z * sin (polar x y z) = √(x * x + y * y) := by
  rw [range_eq]
  exact sqrt_mul_sin_atan2 _ z

/--
The angle of one point of the plane gives back another one with the same
second coordinate only if both are in the same direction.
-/
theorem sqrt_mul_atan2_eq_iff (x y z : ℝ) :
    √(x * x + y * y) * cos (atan2 y z) = x ∧
        √(x * x + y * y) * sin (atan2 y z) = y ↔
      x = z ∨ y = 0 ∧ (0 ≤ z ∧ 0 ≤ x ∨ z < 0 ∧ x ≤ 0) := by
  constructor
  · rintro ⟨first, second⟩
    by_cases zero : y = 0
    · subst zero
      refine Or.inr ⟨rfl, ?_⟩
      rw [mul_zero, add_zero, sqrt_mul_self_eq_abs] at first
      rcases le_or_gt 0 z with notNegative | negative
      · rw [atan2_zero_left notNegative, cos_zero, mul_one] at first
        exact Or.inl ⟨notNegative, first ▸ abs_nonneg x⟩
      · rw [atan2_zero_left_of_neg negative, cos_pi] at first
        exact Or.inr ⟨negative, by linarith only [first, abs_nonneg x]⟩
    · have radius : √(x * x + y * y) = √(z * z + y * y) := by
        have own := sqrt_mul_sin_atan2 y z
        have nonzero : sin (atan2 y z) ≠ 0 := fun vanishes =>
          zero (by rw [← own, vanishes, mul_zero])
        exact mul_right_cancel₀ nonzero (second.trans own.symm)
      rw [radius, sqrt_mul_cos_atan2] at first
      exact Or.inl first.symm
  · rintro (rfl | ⟨rfl, ⟨notNegative, positive⟩ | ⟨negative, below⟩⟩)
    · exact ⟨sqrt_mul_cos_atan2 y x, sqrt_mul_sin_atan2 y x⟩
    · rw [atan2_zero_left notNegative, mul_zero, add_zero,
        sqrt_mul_self positive, cos_zero, sin_zero, mul_one, mul_zero]
      exact ⟨rfl, rfl⟩
    · rw [atan2_zero_left_of_neg negative, mul_zero, add_zero,
        sqrt_mul_self_eq_abs, abs_of_nonpos below, cos_pi, sin_pi, mul_zero]
      exact ⟨by ring, rfl⟩

/-! ## Rotations -/

/-- A vector is given by its three coordinates. -/
theorem eta (vector : Fin 3 → ℝ) :
    ![vector 0, vector 1, vector 2] = vector := by
  ext i
  fin_cases i <;> rfl

/-- The distance of two points. -/
noncomputable def distance (first second : Fin 3 → ℝ) : ℝ :=
  √((first - second) ⬝ᵥ (first - second))

/-- The distance depends on the difference of the points only. -/
theorem distance_congr
    {first second first' second' : Fin 3 → ℝ}
    (same : first - second = first' - second') :
    distance first second = distance first' second' := by
  rw [distance, same, distance]

/-- A rotation is undone by its transpose. -/
theorem transpose_mulVec_mulVec
    {rotation : Matrix (Fin 3) (Fin 3) ℝ}
    (orthogonal : rotation ∈ orthogonalGroup (Fin 3) ℝ)
    (vector : Fin 3 → ℝ) :
    rotationᵀ *ᵥ (rotation *ᵥ vector) = vector := by
  rw [mulVec_mulVec, (mem_orthogonalGroup_iff' (Fin 3) ℝ).mp orthogonal,
    one_mulVec]

theorem mulVec_transpose_mulVec
    {rotation : Matrix (Fin 3) (Fin 3) ℝ}
    (orthogonal : rotation ∈ orthogonalGroup (Fin 3) ℝ)
    (vector : Fin 3 → ℝ) :
    rotation *ᵥ (rotationᵀ *ᵥ vector) = vector := by
  rw [mulVec_mulVec, (mem_orthogonalGroup_iff (Fin 3) ℝ).mp orthogonal,
    one_mulVec]

/-- The transpose of a rotation is a rotation. -/
theorem transpose_mem
    {rotation : Matrix (Fin 3) (Fin 3) ℝ}
    (orthogonal : rotation ∈ orthogonalGroup (Fin 3) ℝ) :
    rotationᵀ ∈ orthogonalGroup (Fin 3) ℝ := by
  rw [mem_orthogonalGroup_iff, transpose_transpose]
  exact (mem_orthogonalGroup_iff' (Fin 3) ℝ).mp orthogonal

/-- A rotation keeps the length of a vector. -/
theorem dotProduct_mulVec_self
    {rotation : Matrix (Fin 3) (Fin 3) ℝ}
    (orthogonal : rotation ∈ orthogonalGroup (Fin 3) ℝ)
    (vector : Fin 3 → ℝ) :
    (rotation *ᵥ vector) ⬝ᵥ (rotation *ᵥ vector) = vector ⬝ᵥ vector := by
  have inverse : rotationᵀ * rotation = 1 :=
    (mem_orthogonalGroup_iff' (Fin 3) ℝ).mp orthogonal
  rw [dotProduct_mulVec, vecMul_mulVec, inverse, vecMul_one]

/-- A rotation keeps the distance of two points. -/
theorem distance_mulVec
    {rotation : Matrix (Fin 3) (Fin 3) ℝ}
    (orthogonal : rotation ∈ orthogonalGroup (Fin 3) ℝ)
    (first second : Fin 3 → ℝ) :
    distance (rotation *ᵥ first) (rotation *ᵥ second) =
      distance first second := by
  rw [distance, distance, ← mulVec_sub, dotProduct_mulVec_self orthogonal]

end Spherical
