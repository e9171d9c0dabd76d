import Radar.LocalFrames

namespace Radar.CSUtils

/-!
# What an antenna measures

The biconical coordinates of a point are its distance and two sines.  They do
not tell what is in front of the antenna from what is behind it.  The
coordinates are real numbers.
-/

open Real

/-! ## Biconical coordinates -/

/-- A point in biconical coordinates. -/
structure BCSPoint where
  R : ℝ
  beta : ℝ
  epsilon : ℝ

/-- `std::numeric_limits<double>::epsilon()` -/
noncomputable def machineEpsilon : ℝ := 1 / 2.0 ^ 52

/-- `ccsa_to_bcs` -/
noncomputable def ccsaToBcs (point : CCSAPoint) : BCSPoint :=
  let R := √(point.x * point.x + point.y * point.y + point.z * point.z)
  if R ≤ machineEpsilon then
    { R := R, epsilon := 0, beta := 0 }
  else
    { R := R, epsilon := point.y / R, beta := -point.z / R }

/-- `bcs_to_ccsa` -/
noncomputable def bcsToCcsa (point : BCSPoint) : CCSAPoint where
  x :=
    point.R *
      √(1 - point.epsilon * point.epsilon - point.beta * point.beta)
  y := point.R * point.epsilon
  z := -point.R * point.beta

/-- The distance of a point from the antenna. -/
noncomputable def CCSAPoint.range (point : CCSAPoint) : ℝ :=
  √(point.x * point.x + point.y * point.y + point.z * point.z)

/-- A point away from the antenna comes back on the front side. -/
theorem bcsToCcsa_ccsaToBcs
    {point : CCSAPoint}
    (away : machineEpsilon < point.range) :
    bcsToCcsa (ccsaToBcs point) =
      { x := |point.x|, y := point.y, z := point.z } := by
  have epsilonPos : 0 < machineEpsilon := by
    norm_num [machineEpsilon]
  have positive : 0 < point.range := epsilonPos.trans away
  have square :
      point.range ^ 2 =
        point.x * point.x + point.y * point.y + point.z * point.z :=
    sq_sqrt
      (add_nonneg (add_nonneg (mul_self_nonneg _) (mul_self_nonneg _))
        (mul_self_nonneg _))
  have toBcs :
      ccsaToBcs point =
        { R := point.range
          epsilon := point.y / point.range
          beta := -point.z / point.range } :=
    if_neg (not_le.mpr away)
  have sines :
      1 - point.y / point.range * (point.y / point.range) -
          -point.z / point.range * (-point.z / point.range) =
        (|point.x| / point.range) ^ 2 := by
    rw [div_pow, sq_abs]
    field_simp
    linear_combination square
  rw [toBcs, bcsToCcsa]
  dsimp only
  rw [sines, sqrt_sq (div_nonneg (abs_nonneg _) positive.le)]
  congr 1 <;> field_simp

/-- A point at the antenna comes back at the same distance. -/
theorem bcsToCcsa_ccsaToBcs_of_le
    {point : CCSAPoint}
    (close : point.range ≤ machineEpsilon) :
    bcsToCcsa (ccsaToBcs point) = { x := point.range, y := 0, z := 0 } := by
  have toBcs :
      ccsaToBcs point = { R := point.range, epsilon := 0, beta := 0 } :=
    if_pos close
  rw [toBcs, bcsToCcsa]
  simp

/-! ## Targets -/

/-- What an antenna measures of a target. -/
noncomputable def measured
    (target : ECEFPoint)
    (radar : GCSPoint)
    (eps beta : Angle) :
    BCSPoint :=
  ccsaToBcs (enuToCcsa (ecefToEnu target radar) eps beta)

/-- Where a target is by the measurement of an antenna. -/
noncomputable def located
    (point : BCSPoint)
    (radar : GCSPoint)
    (eps beta : Angle) :
    ECEFPoint :=
  enuToEcef (ccsaToEnu (bcsToCcsa point) eps beta) radar

/-- Distances of located points are those in the antenna's coordinates. -/
theorem distance_located
    (target : ECEFPoint)
    (point : BCSPoint)
    (radar : GCSPoint)
    (eps beta : Angle) :
    (located point radar eps beta).distance target =
      (bcsToCcsa point).distance
        (enuToCcsa (ecefToEnu target radar) eps beta) := by
  have antennaBack := ccsaToEnu_enuToCcsa eps beta (ecefToEnu target radar)
  have radarBack := enuToEcef_ecefToEnu radar target
  dsimp only at antennaBack radarBack
  rw [← distance_ccsaToEnu _ _ eps beta, antennaBack,
    ← distance_enuToEcef _ _ radar, radarBack, located]

/-- The distance of two points, from their coordinates. -/
theorem CCSAPoint.distance_eq (first second : CCSAPoint) :
    first.distance second =
      √((first.x - second.x) ^ 2 + (first.y - second.y) ^ 2 +
        (first.z - second.z) ^ 2) := by
  simp [CCSAPoint.distance, Spherical.distance, CCSAPoint.coordinates,
    dotProduct, Fin.sum_univ_three, sq]

/--
A target in front of an antenna is located where it is, and a target behind it
at its mirror image; next to the antenna the error is two machine epsilons at
most.
-/
theorem distance_located_measured
    (target : ECEFPoint)
    (radar : GCSPoint)
    (eps beta : Angle) :
    let seen := enuToCcsa (ecefToEnu target radar) eps beta
    let found := located (measured target radar eps beta) radar eps beta
    (machineEpsilon < seen.range →
        found.distance target = |seen.x| - seen.x) ∧
      (seen.range ≤ machineEpsilon →
        found.distance target ≤ 2 * machineEpsilon) := by
  intro seen found
  have inAntenna := distance_located target
    (measured target radar eps beta) radar eps beta
  have square :
      seen.range ^ 2 =
        seen.x * seen.x + seen.y * seen.y + seen.z * seen.z :=
    sq_sqrt
      (add_nonneg (add_nonneg (mul_self_nonneg _) (mul_self_nonneg _))
        (mul_self_nonneg _))
  constructor
  · intro away
    have notNegative : 0 ≤ |seen.x| - seen.x :=
      sub_nonneg.mpr (le_abs_self _)
    rw [inAntenna, measured, bcsToCcsa_ccsaToBcs away,
      CCSAPoint.distance_eq]
    dsimp only
    rw [sub_self, sub_self, zero_pow two_ne_zero, add_zero, add_zero,
      sqrt_sq notNegative]
  · intro close
    have rangeNonneg : 0 ≤ seen.range := sqrt_nonneg _
    have along : -seen.range ≤ seen.x := by
      refine (abs_le.mp (abs_le_of_sq_le_sq ?_ rangeNonneg)).1
      linarith [mul_self_nonneg seen.y, mul_self_nonneg seen.z]
    rw [inAntenna, measured, bcsToCcsa_ccsaToBcs_of_le close,
      CCSAPoint.distance_eq]
    refine sqrt_le_iff.mpr ⟨by linarith, ?_⟩
    dsimp only
    calc
      (seen.range - seen.x) ^ 2 + (0 - seen.y) ^ 2 + (0 - seen.z) ^ 2 =
          2 * seen.range * (seen.range - seen.x) := by
        linear_combination -square
      _ ≤ 2 * seen.range * (2 * seen.range) := by
        gcongr
        linarith
      _ = (2 * seen.range) ^ 2 := by ring
      _ ≤ (2 * machineEpsilon) ^ 2 := by gcongr

end Radar.CSUtils
