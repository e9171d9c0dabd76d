import Radar.CoordinateSystems

namespace Radar

/-!
# Frames of a radar and of its antenna

The transforms between the coordinates of the Earth, of a radar, of its
antenna and spherical ones.  A transform and the one that leads back rotate
about the same center.  The coordinates are real numbers.
-/

namespace CSUtils

open Real Matrix Spherical

/-! ## Coordinates -/

/-- The coordinates of a point. -/
def ECEFPoint.coordinates (point : ECEFPoint) : Fin 3 → ℝ :=
  ![point.x, point.y, point.z]

def ENUPoint.coordinates (point : ENUPoint) : Fin 3 → ℝ :=
  ![point.x, point.y, point.z]

def CCSAPoint.coordinates (point : CCSAPoint) : Fin 3 → ℝ :=
  ![point.x, point.y, point.z]

/-- A point is given by its coordinates. -/
theorem ECEFPoint.eq_of_coordinates
    {first second : ECEFPoint}
    (same : first.coordinates = second.coordinates) :
    first = second := by
  cases first
  cases second
  simpa [ECEFPoint.coordinates] using same

theorem ENUPoint.eq_of_coordinates
    {first second : ENUPoint}
    (same : first.coordinates = second.coordinates) :
    first = second := by
  cases first
  cases second
  simpa [ENUPoint.coordinates] using same

theorem CCSAPoint.eq_of_coordinates
    {first second : CCSAPoint}
    (same : first.coordinates = second.coordinates) :
    first = second := by
  cases first
  cases second
  simpa [CCSAPoint.coordinates] using same

/-- A frame of a radar is turned about its center. -/
theorem coordinates_ecefToEnu (point : ECEFPoint) (origin : GCSPoint) :
    (ecefToEnu point origin).coordinates =
      C origin *ᵥ (point.coordinates - lccsCenterPoint origin) := by
  rw [mulVec_sub]
  exact
    eta (C origin *ᵥ point.coordinates - C origin *ᵥ lccsCenterPoint origin)

theorem coordinates_enuToEcef (point : ENUPoint) (origin : GCSPoint) :
    (enuToEcef point origin).coordinates =
      lccsCenterPoint origin + (C origin)ᵀ *ᵥ point.coordinates := by
  rw [C, transpose_transpose]
  exact
    eta (lccsCenterPoint origin +
      (C3 origin.longitude * C2 origin.latitude * C1) *ᵥ point.coordinates)

/-- The directions of the axes of an antenna. -/
noncomputable def antennaC (eps beta : Angle) : Matrix (Fin 3) (Fin 3) ℝ :=
  antennaC2 eps.toRad * antennaC1 beta.toRad

theorem coordinates_enuToCcsa (point : ENUPoint) (eps beta : Angle) :
    (enuToCcsa point eps beta).coordinates =
      antennaC eps beta *ᵥ point.coordinates :=
  eta (antennaC eps beta *ᵥ point.coordinates)

theorem coordinates_ccsaToEnu (point : CCSAPoint) (eps beta : Angle) :
    (ccsaToEnu point eps beta).coordinates =
      (antennaC eps beta)ᵀ *ᵥ point.coordinates :=
  eta ((antennaC eps beta)ᵀ *ᵥ point.coordinates)

/-! ## Rotations of the antenna -/

theorem antennaC1_mem (beta : ℝ) :
    antennaC1 beta ∈ orthogonalGroup (Fin 3) ℝ := by
  rw [mem_orthogonalGroup_iff]
  ext i j
  fin_cases i <;> fin_cases j <;>
    simp [antennaC1, Matrix.mul_apply, Fin.sum_univ_three, ← sq, mul_comm]

theorem antennaC2_mem (eps : ℝ) :
    antennaC2 eps ∈ orthogonalGroup (Fin 3) ℝ := by
  rw [mem_orthogonalGroup_iff]
  ext i j
  fin_cases i <;> fin_cases j <;>
    simp [antennaC2, Matrix.mul_apply, Fin.sum_univ_three, ← sq, mul_comm]

/-- The axes of an antenna are orthogonal unit vectors. -/
theorem antennaC_mem (eps beta : Angle) :
    antennaC eps beta ∈ orthogonalGroup (Fin 3) ℝ :=
  mul_mem (antennaC2_mem eps.toRad) (antennaC1_mem beta.toRad)

/-! ## There and back -/

theorem enuToEcef_ecefToEnu (origin : GCSPoint) :
    Function.LeftInverse (enuToEcef · origin) (ecefToEnu · origin) := by
  intro point
  apply ECEFPoint.eq_of_coordinates
  rw [coordinates_enuToEcef, coordinates_ecefToEnu,
    transpose_mulVec_mulVec (C_mem origin), add_sub_cancel]

theorem ecefToEnu_enuToEcef (origin : GCSPoint) :
    Function.LeftInverse (ecefToEnu · origin) (enuToEcef · origin) := by
  intro point
  apply ENUPoint.eq_of_coordinates
  rw [coordinates_ecefToEnu, coordinates_enuToEcef, add_sub_cancel_left,
    mulVec_transpose_mulVec (C_mem origin)]

theorem ccsaToEnu_enuToCcsa (eps beta : Angle) :
    Function.LeftInverse (ccsaToEnu · eps beta) (enuToCcsa · eps beta) := by
  intro point
  apply ENUPoint.eq_of_coordinates
  rw [coordinates_ccsaToEnu, coordinates_enuToCcsa,
    transpose_mulVec_mulVec (antennaC_mem eps beta)]

theorem enuToCcsa_ccsaToEnu (eps beta : Angle) :
    Function.LeftInverse (enuToCcsa · eps beta) (ccsaToEnu · eps beta) := by
  intro point
  apply CCSAPoint.eq_of_coordinates
  rw [coordinates_enuToCcsa, coordinates_ccsaToEnu,
    mulVec_transpose_mulVec (antennaC_mem eps beta)]

/-! ## Distances -/

/-- The distance of two points. -/
noncomputable def ECEFPoint.distance (first second : ECEFPoint) : ℝ :=
  Spherical.distance first.coordinates second.coordinates

noncomputable def ENUPoint.distance (first second : ENUPoint) : ℝ :=
  Spherical.distance first.coordinates second.coordinates

noncomputable def CCSAPoint.distance (first second : CCSAPoint) : ℝ :=
  Spherical.distance first.coordinates second.coordinates

theorem distance_ecefToEnu (first second : ECEFPoint) (origin : GCSPoint) :
    (ecefToEnu first origin).distance (ecefToEnu second origin) =
      first.distance second := by
  rw [ENUPoint.distance, coordinates_ecefToEnu, coordinates_ecefToEnu,
    distance_mulVec (C_mem origin)]
  exact distance_congr (sub_sub_sub_cancel_right _ _ _)

theorem distance_enuToEcef (first second : ENUPoint) (origin : GCSPoint) :
    (enuToEcef first origin).distance (enuToEcef second origin) =
      first.distance second := by
  rw [ECEFPoint.distance, coordinates_enuToEcef, coordinates_enuToEcef,
    distance_congr (add_sub_add_left_eq_sub _ _ _),
    distance_mulVec (transpose_mem (C_mem origin)), ENUPoint.distance]

theorem distance_enuToCcsa (first second : ENUPoint) (eps beta : Angle) :
    (enuToCcsa first eps beta).distance (enuToCcsa second eps beta) =
      first.distance second := by
  rw [CCSAPoint.distance, coordinates_enuToCcsa, coordinates_enuToCcsa,
    distance_mulVec (antennaC_mem eps beta), ENUPoint.distance]

theorem distance_ccsaToEnu (first second : CCSAPoint) (eps beta : Angle) :
    (ccsaToEnu first eps beta).distance (ccsaToEnu second eps beta) =
      first.distance second := by
  rw [ENUPoint.distance, coordinates_ccsaToEnu, coordinates_ccsaToEnu,
    distance_mulVec (transpose_mem (antennaC_mem eps beta)),
    CCSAPoint.distance]

/--
The frames of the Earth and of a radar, and those of a radar and of its
antenna, are converted there and back without a change, and every conversion
keeps the distances of the points.
-/
theorem frames_rigid :
    (∀ origin,
      Function.LeftInverse (enuToEcef · origin) (ecefToEnu · origin) ∧
        Function.LeftInverse (ecefToEnu · origin) (enuToEcef · origin) ∧
        (∀ first second,
          (ecefToEnu first origin).distance (ecefToEnu second origin) =
            first.distance second) ∧
        ∀ first second,
          (enuToEcef first origin).distance (enuToEcef second origin) =
            first.distance second) ∧
      ∀ eps beta,
        Function.LeftInverse (ccsaToEnu · eps beta) (enuToCcsa · eps beta) ∧
          Function.LeftInverse (enuToCcsa · eps beta) (ccsaToEnu · eps beta) ∧
          (∀ first second,
            (enuToCcsa first eps beta).distance (enuToCcsa second eps beta) =
              first.distance second) ∧
          ∀ first second,
            (ccsaToEnu first eps beta).distance (ccsaToEnu second eps beta) =
              first.distance second :=
  ⟨fun origin =>
    ⟨enuToEcef_ecefToEnu origin, ecefToEnu_enuToEcef origin,
      fun first second => distance_ecefToEnu first second origin,
      fun first second => distance_enuToEcef first second origin⟩,
    fun eps beta =>
      ⟨ccsaToEnu_enuToCcsa eps beta, enuToCcsa_ccsaToEnu eps beta,
        fun first second => distance_enuToCcsa first second eps beta,
        fun first second => distance_ccsaToEnu first second eps beta⟩⟩

/-! ## Spherical coordinates -/

/--
The coordinates that `sph_to_enu` finds: `enu_to_sph` measures the azimuth
from the third axis, and `sph_to_enu` takes it from the first.
-/
theorem sphToEnu_enuToSph (point : ENUPoint) :
    sphToEnu (enuToSph point) =
      { x :=
          √(point.x * point.x + point.y * point.y) *
            cos (atan2 point.y point.z)
        y :=
          √(point.x * point.x + point.y * point.y) *
            sin (atan2 point.y point.z)
        z := point.z } := by
  have radius := range_mul_sin_polar point.x point.y point.z
  have height := range_mul_cos_polar point.x point.y point.z
  rw [range, polar] at radius height
  rw [sphToEnu, enuToSph]
  dsimp only
  rw [radius, height]

/--
A point is converted to spherical coordinates and back without a change
exactly if its first and third coordinate are the same, or its second is zero
and the first has the sign of the third.
-/
theorem sphToEnu_enuToSph_eq_iff (point : ENUPoint) :
    sphToEnu (enuToSph point) = point ↔
      point.x = point.z ∨
        point.y = 0 ∧
          (0 ≤ point.z ∧ 0 ≤ point.x ∨ point.z < 0 ∧ point.x ≤ 0) := by
  rw [sphToEnu_enuToSph, ← sqrt_mul_atan2_eq_iff]
  cases point
  simp

/-- A point whose coordinates are all different is not kept. -/
theorem not_sphToEnu_enuToSph :
    ¬ ∀ point : ENUPoint, point ≠ ⟨0, 0, 0⟩ →
      sphToEnu (enuToSph point) = point := by
  intro claim
  have kept := claim ⟨1, 2, 3⟩ (by simp)
  rw [sphToEnu_enuToSph, ENUPoint.mk.injEq, and_iff_left rfl,
    sqrt_mul_atan2_eq_iff] at kept
  norm_num at kept

end CSUtils

end Radar
