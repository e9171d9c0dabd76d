import Mathlib.Analysis.SpecialFunctions.Trigonometric.Arctan
import Mathlib.Tactic.LinearCombination
import Radar.SphericalCoordinates

namespace Radar

/-!
# Coordinate systems

The points of the coordinate systems of the Earth, of a radar and of its
antenna, geodetic and spherical ones, and the transforms between them.  The
coordinates are real numbers.
-/

namespace CSUtils

open Real Matrix

/-! ## Points -/

/-- A point of the coordinate system of the Earth. -/
structure ECEFPoint where
  x : ℝ
  y : ℝ
  z : ℝ

/-- A point of a local coordinate system. -/
structure ENUPoint where
  x : ℝ
  y : ℝ
  z : ℝ

/-- A point in spherical coordinates. -/
structure SPHPoint where
  R : ℝ
  theta : ℝ
  phi : ℝ

/-- A point in geodetic coordinates. -/
structure GCSPoint where
  latitude : ℝ
  longitude : ℝ
  altitude : ℝ

/-- A point in the coordinate system of an antenna. -/
structure CCSAPoint where
  x : ℝ
  y : ℝ
  z : ℝ

/-- An angle. -/
structure Angle where
  degrees : ℝ
  minutes : ℝ
  seconds : ℝ

/-- The semi-axes of the Earth. -/
noncomputable def a : ℝ := 6378136

noncomputable def b : ℝ := 6356751.36

/-! ## Transforms -/

/-- `degree_to_rad` -/
noncomputable def degreeToRad (degrees minutes seconds : ℝ) : ℝ :=
  π * (degrees + (minutes + seconds / 60) / 60) / 180

/-- `atan(b * tan(phi) / a)`; at a pole, where `tan` has no value, its limit. -/
noncomputable def reducedLatitude (phi : ℝ) : ℝ :=
  if cos phi = 0 then arcsin (sin phi) else arctan (b * tan phi / a)

/-- The origin of a local coordinate system. -/
noncomputable def lccsCenterPoint (origin : GCSPoint) : Fin 3 → ℝ :=
  let phi := origin.latitude
  let lamda := origin.longitude
  let h := origin.altitude
  ![(a * cos (reducedLatitude phi) + h * cos phi) * cos lamda,
    (a * cos (reducedLatitude phi) + h * cos phi) * sin lamda,
    b * sin (reducedLatitude phi) + h * sin phi]

/-- The three rotations of `ecef_to_enu`. -/
noncomputable def C1 : Matrix (Fin 3) (Fin 3) ℝ :=
  !![0, 0, -1; 0, 1, 0; 1, 0, 0]

noncomputable def C2 (phi : ℝ) : Matrix (Fin 3) (Fin 3) ℝ :=
  !![1, 0, 0; 0, cos phi, -sin phi; 0, sin phi, cos phi]

noncomputable def C3 (lamda : ℝ) : Matrix (Fin 3) (Fin 3) ℝ :=
  !![sin lamda, cos lamda, 0; -cos lamda, sin lamda, 0; 0, 0, 1]

/-- The directions of the axes of a local coordinate system. -/
noncomputable def C (origin : GCSPoint) : Matrix (Fin 3) (Fin 3) ℝ :=
  (C3 origin.longitude * C2 origin.latitude * C1)ᵀ

/-- `ecef_to_enu` -/
noncomputable def ecefToEnu
    (point : ECEFPoint)
    (origin : GCSPoint) : ENUPoint :=
  let result :=
    C origin *ᵥ ![point.x, point.y, point.z] -
      C origin *ᵥ lccsCenterPoint origin
  { x := result 0, y := result 1, z := result 2 }

/-- `enu_to_sph` -/
noncomputable def enuToSph (point : ENUPoint) : SPHPoint where
  R := √(point.x * point.x + point.y * point.y + point.z * point.z)
  theta := Spherical.atan2 (√(point.x * point.x + point.y * point.y)) point.z
  phi := Spherical.atan2 point.y point.z

/-- `degree_to_rad` of an angle -/
noncomputable def Angle.toRad (angle : Angle) : ℝ :=
  degreeToRad angle.degrees angle.minutes angle.seconds

/-- `enu_to_ecef` -/
noncomputable def enuToEcef
    (point : ENUPoint)
    (origin : GCSPoint) : ECEFPoint :=
  let ret :=
    lccsCenterPoint origin +
      (C3 origin.longitude * C2 origin.latitude * C1) *ᵥ
        ![point.x, point.y, point.z]
  { x := ret 0, y := ret 1, z := ret 2 }

/-- The two rotations of `enu_to_ccsa` and `ccsa_to_enu`. -/
noncomputable def antennaC1 (beta : ℝ) : Matrix (Fin 3) (Fin 3) ℝ :=
  !![cos beta, 0, -sin beta; 0, 1, 0; sin beta, 0, cos beta]

noncomputable def antennaC2 (eps : ℝ) : Matrix (Fin 3) (Fin 3) ℝ :=
  !![cos eps, sin eps, 0; -sin eps, cos eps, 0; 0, 0, 1]

/-- `enu_to_ccsa` -/
noncomputable def enuToCcsa (point : ENUPoint) (eps beta : Angle) : CCSAPoint :=
  let ret :=
    (antennaC2 eps.toRad * antennaC1 beta.toRad) *ᵥ
      ![point.x, point.y, point.z]
  { x := ret 0, y := ret 1, z := ret 2 }

/-- `ccsa_to_enu` -/
noncomputable def ccsaToEnu (point : CCSAPoint) (eps beta : Angle) : ENUPoint :=
  let ret :=
    (antennaC2 eps.toRad * antennaC1 beta.toRad)ᵀ *ᵥ
      ![point.x, point.y, point.z]
  { x := ret 0, y := ret 1, z := ret 2 }

/-- `sph_to_enu` -/
noncomputable def sphToEnu (point : SPHPoint) : ENUPoint where
  x := point.R * sin point.theta * cos point.phi
  y := point.R * sin point.theta * sin point.phi
  z := point.R * cos point.theta

/-! ## Transforms for any constants -/

/-- `gcs_to_ecef` with the constants `a` and `e_2` -/
noncomputable def gcsToEcefWith (a e_2 : ℝ) (point : GCSPoint) : ECEFPoint :=
  let temp := a / √(1 - e_2 * sin point.latitude * sin point.latitude)
  { x := (temp + point.altitude) * cos point.latitude * cos point.longitude
    y := (temp + point.altitude) * cos point.latitude * sin point.longitude
    z := (temp * (1 - e_2) + point.altitude) * sin point.latitude }

/-- `atan(b * tan(phi) / a)` with the constants `a` and `b` -/
noncomputable def reducedLatitudeWith (a b phi : ℝ) : ℝ :=
  if cos phi = 0 then arcsin (sin phi) else arctan (b * tan phi / a)

/-- The origin of a local frame with the constants `a` and `b`. -/
noncomputable def lccsCenterPointWith
    (a b : ℝ)
    (origin : GCSPoint) : Fin 3 → ℝ :=
  let phi := origin.latitude
  let lamda := origin.longitude
  let h := origin.altitude
  ![(a * cos (reducedLatitudeWith a b phi) + h * cos phi) * cos lamda,
    (a * cos (reducedLatitudeWith a b phi) + h * cos phi) * sin lamda,
    b * sin (reducedLatitudeWith a b phi) + h * sin phi]

/-- `ecef_to_enu` with the constants `a` and `b` -/
noncomputable def ecefToEnuWith
    (a b : ℝ)
    (point : ECEFPoint)
    (origin : GCSPoint) : ENUPoint :=
  let result :=
    C origin *ᵥ ![point.x, point.y, point.z] -
      C origin *ᵥ lccsCenterPointWith a b origin
  { x := result 0, y := result 1, z := result 2 }

/-- The square of the eccentricity. -/
noncomputable def e_2 : ℝ := 0.0066943662

/-- `gcs_to_ecef` -/
noncomputable def gcsToEcef (point : GCSPoint) : ECEFPoint :=
  gcsToEcefWith a e_2 point

/-! ## Local coordinates -/

theorem C1_mem : C1 ∈ orthogonalGroup (Fin 3) ℝ := by
  rw [mem_orthogonalGroup_iff]
  ext i j
  fin_cases i <;> fin_cases j <;>
    simp [C1, Matrix.mul_apply, Fin.sum_univ_three]

theorem C2_mem (phi : ℝ) : C2 phi ∈ orthogonalGroup (Fin 3) ℝ := by
  rw [mem_orthogonalGroup_iff]
  ext i j
  fin_cases i <;> fin_cases j <;>
    simp [C2, Matrix.mul_apply, Fin.sum_univ_three, ← sq, mul_comm]

theorem C3_mem (lamda : ℝ) : C3 lamda ∈ orthogonalGroup (Fin 3) ℝ := by
  rw [mem_orthogonalGroup_iff]
  ext i j
  fin_cases i <;> fin_cases j <;>
    simp [C3, Matrix.mul_apply, Fin.sum_univ_three, ← sq, mul_comm]

/-- The axes of a local coordinate system are orthogonal unit vectors. -/
theorem C_mem (origin : GCSPoint) : C origin ∈ orthogonalGroup (Fin 3) ℝ := by
  have product :=
    mul_mem (mul_mem (C3_mem origin.longitude) (C2_mem origin.latitude))
      C1_mem
  rw [mem_orthogonalGroup_iff'] at product
  rw [mem_orthogonalGroup_iff, C, transpose_transpose]
  exact product

/-- The axes of a local coordinate system point north, up and east. -/
theorem C_eq (origin : GCSPoint) :
    C origin =
      !![-(cos origin.longitude * sin origin.latitude),
          -(sin origin.longitude * sin origin.latitude),
          cos origin.latitude;
        cos origin.longitude * cos origin.latitude,
          sin origin.longitude * cos origin.latitude,
          sin origin.latitude;
        -sin origin.longitude, cos origin.longitude, 0] := by
  ext i j
  fin_cases i <;> fin_cases j <;>
    simp [C, C1, C2, C3]

/-- The range of a target is its distance from the origin. -/
theorem range_ecefToEnu (point : ECEFPoint) (origin : GCSPoint) :
    let offset := ![point.x, point.y, point.z] - lccsCenterPoint origin
    (enuToSph (ecefToEnu point origin)).R = √(offset ⬝ᵥ offset) := by
  intro offset
  rw [← Spherical.dotProduct_mulVec_self (C_mem origin), mulVec_sub]
  simp [enuToSph, ecefToEnu, dotProduct, Fin.sum_univ_three]

end CSUtils

namespace TargetEnvironment

open Real CSUtils

/-! ## Degrees -/

/-- An angle in degrees. -/
noncomputable def toDegrees (angle : ℝ) : ℝ := angle * 180 / π

/-- Degrees are converted back to radians. -/
@[simp] theorem degreeToRad_toDegrees (angle : ℝ) :
    degreeToRad (toDegrees angle) 0 0 = angle := by
  have nonzero := pi_ne_zero
  unfold degreeToRad toDegrees
  field_simp
  ring

end TargetEnvironment

end Radar
