import Radar.CoordinateSystems
import Radar.MeridianIteration

namespace Radar.CSUtils

/-!
# Geodetic coordinates of a point

`ecef_to_gcs` runs four steps of an iteration for the tangent of the latitude.
For a point outside of the ellipsoid, or on it, this is enough for a millimetre.
The coordinates are real numbers.
-/

open Real

/-! ## The function -/

/-- One pass of the loop of `ecef_to_gcs`. -/
noncomputable def nextTanPhi (point : ECEFPoint) (p tanPhi : ℝ) : ℝ :=
  (point.z + a * e_2 * tanPhi / √(1 + (1 - e_2) * tanPhi * tanPhi)) / p

/-- `ecef_to_gcs` -/
noncomputable def ecefToGcs (point : ECEFPoint) : GCSPoint :=
  let p := √(point.x * point.x + point.y * point.y)
  let tanPhi := (nextTanPhi point p)^[4] (point.z / p)
  let temp := a / √(1 + (1 - e_2) * tanPhi * tanPhi)
  { latitude := arctan tanPhi
    longitude := Spherical.atan2 point.y point.x
    altitude :=
      √((p - temp) ^ 2 + (point.z - temp * (1 - e_2) * tanPhi) ^ 2) }

/-! ## Points of the ellipsoid and above -/

/-- The equator has a radius. -/
theorem equator_pos : 0 < a := by norm_num [a]

/-- The meridians of the Earth. -/
noncomputable def earthMeridian : Meridian where
  a := a
  e_2 := e_2
  a_pos := equator_pos
  e_2_nonneg := by norm_num [e_2]
  e_2_lt_one := by norm_num [e_2]

namespace GCSPoint

/-- A point that is not on the axis, and not inside of the ellipsoid. -/
structure Outside (point : GCSPoint) : Prop where
  south : -(π / 2) < point.latitude
  north : point.latitude < π / 2
  west : -π < point.longitude
  east : point.longitude ≤ π
  notBelow : 0 ≤ point.altitude

/-- The distance from the axis. -/
noncomputable def axial (point : GCSPoint) : ℝ :=
  a / earthMeridian.secant (tan point.latitude) +
    point.altitude * cos point.latitude

/-- The distance from the plane of the equator. -/
noncomputable def polar (point : GCSPoint) : ℝ :=
  a / earthMeridian.secant (tan point.latitude) * (1 - e_2) *
      tan point.latitude +
    point.altitude * sin point.latitude

namespace Outside

variable {point : GCSPoint} (outside : point.Outside)
include outside

theorem cos_pos : 0 < cos point.latitude :=
  cos_pos_of_mem_Ioo ⟨outside.south, outside.north⟩

/-- The radicand of `gcs_to_ecef`, and the secant of the reduced latitude. -/
theorem sqrt_eq :
    √(1 - e_2 * sin point.latitude * sin point.latitude) =
      earthMeridian.secant (tan point.latitude) * cos point.latitude := by
  have cosPos := outside.cos_pos
  have secantPos := earthMeridian.secant_pos (tan point.latitude)
  have radicand :
      1 - e_2 * sin point.latitude * sin point.latitude =
        (earthMeridian.secant (tan point.latitude) *
          cos point.latitude) ^ 2 := by
    rw [mul_pow, Meridian.secant_sq, tan_eq_sin_div_cos, earthMeridian]
    field_simp
    linear_combination -(sin_sq_add_cos_sq point.latitude)
  rw [radicand, sqrt_sq (mul_pos secantPos cosPos).le]

/-- The coordinates of the point, from those in its meridian plane. -/
theorem gcsToEcef_eq :
    gcsToEcef point =
      { x := point.axial * cos point.longitude
        y := point.axial * sin point.longitude
        z := point.polar } := by
  have notZero := outside.cos_pos.ne'
  have secantPos := earthMeridian.secant_pos (tan point.latitude)
  have tangent : tan point.latitude * cos point.latitude =
      sin point.latitude := tan_mul_cos notZero
  have across :
      (a / (earthMeridian.secant (tan point.latitude) * cos point.latitude) +
            point.altitude) * cos point.latitude =
        point.axial := by
    rw [axial]
    field_simp
  have along :
      (a / (earthMeridian.secant (tan point.latitude) * cos point.latitude) *
            (1 - e_2) + point.altitude) * sin point.latitude =
        point.polar := by
    rw [polar, ← tangent]
    field_simp
  rw [gcsToEcef, gcsToEcefWith, outside.sqrt_eq, across, along]

theorem axial_pos : 0 < point.axial := by
  have secantPos := earthMeridian.secant_pos (tan point.latitude)
  have aPos : 0 < a := earthMeridian.a_pos
  exact
    add_pos_of_pos_of_nonneg (div_pos aPos secantPos)
      (mul_nonneg outside.notBelow outside.cos_pos.le)

/-- The tangent of the latitude is the fixed point of the loop. -/
theorem above :
    earthMeridian.Above point.axial point.polar (tan point.latitude) where
  fixed := by
    have notZero := outside.cos_pos.ne'
    have tangent : tan point.latitude * cos point.latitude =
        sin point.latitude := tan_mul_cos notZero
    rw [axial, polar, earthMeridian]
    linear_combination point.altitude * tangent
  outside := by
    have secantPos := earthMeridian.secant_pos (tan point.latitude)
    have height :=
      mul_nonneg (mul_nonneg outside.notBelow outside.cos_pos.le)
        secantPos.le
    have base :
        a / earthMeridian.secant (tan point.latitude) *
          earthMeridian.secant (tan point.latitude) = a :=
      div_mul_cancel₀ _ secantPos.ne'
    rw [axial, add_mul, base]
    exact le_add_of_nonneg_right height

/-- The altitude is the distance from the point of the ellipsoid. -/
theorem height_eq :
    earthMeridian.height point.axial point.polar (tan point.latitude) =
      point.altitude := by
  have squares :
      (point.axial -
              a / earthMeridian.secant (tan point.latitude)) ^ 2 +
          (point.polar -
              a / earthMeridian.secant (tan point.latitude) * (1 - e_2) *
                tan point.latitude) ^ 2 =
        point.altitude ^ 2 := by
    rw [axial, polar]
    linear_combination
      point.altitude ^ 2 * sin_sq_add_cos_sq point.latitude
  rw [Meridian.height]
  exact (congrArg sqrt squares).trans (sqrt_sq outside.notBelow)

/-- What `ecef_to_gcs` makes of the point, by the steps of the iteration. -/
theorem ecefToGcs_eq :
    let tanPhi :=
      (earthMeridian.next point.axial point.polar)^[4]
        (point.polar / point.axial)
    ecefToGcs (gcsToEcef point) =
      { latitude := arctan tanPhi
        longitude := point.longitude
        altitude :=
          earthMeridian.height point.axial point.polar tanPhi } := by
  have positive := outside.axial_pos
  have square :
      point.axial * cos point.longitude * (point.axial * cos point.longitude) +
          point.axial * sin point.longitude *
            (point.axial * sin point.longitude) =
        point.axial ^ 2 := by
    linear_combination
      point.axial ^ 2 * sin_sq_add_cos_sq point.longitude
  have direction :
      Spherical.atan2 (point.axial * sin point.longitude)
          (point.axial * cos point.longitude) =
        point.longitude := by
    have angle :=
      Complex.arg_mul_cos_add_sin_mul_I positive
        ⟨outside.west, outside.east⟩
    rw [Spherical.atan2]
    convert angle using 2
    apply Complex.ext <;> simp [← Complex.ofReal_cos, ← Complex.ofReal_sin]
  rw [outside.gcsToEcef_eq, ecefToGcs]
  dsimp only
  rw [square, sqrt_sq positive.le, direction]
  rfl

end Outside

/--
The point that `ecef_to_gcs` finds for the coordinates of a point has its
longitude, nearly its latitude in radians, and its altitude up to a
millimetre.
-/
theorem ecefToGcs_gcsToEcef
    {point : GCSPoint}
    (outside : point.Outside) :
    let found := ecefToGcs (gcsToEcef point)
    found.longitude = point.longitude ∧
      |found.latitude - point.latitude| ≤ 2 / 10 ^ 11 ∧
      |found.altitude - point.altitude| ≤ 1 / 10 ^ 3 := by
  have flat : earthMeridian.e_2 ≤ (1 - earthMeridian.e_2) ^ 2 := by
    norm_num [earthMeridian, e_2]
  obtain ⟨factor, iterate, atLeast, atMost, near⟩ :=
    outside.above.exists_iterate flat 4
  have isLarge : 99 / 100 ≤ factor := by
    refine le_trans ?_ atLeast
    norm_num [earthMeridian, e_2]
  have isNear : 1 - factor ≤ 15 / 10 ^ 12 := by
    refine near.trans ?_
    norm_num [earthMeridian, e_2]
  have positive : 0 < factor := by linarith
  have ratio : (1 - factor) / factor ^ 2 ≤ 16 / 10 ^ 12 := by
    have square : (99 / 100 : ℝ) ^ 2 ≤ factor ^ 2 := by gcongr
    rw [div_le_iff₀ (pow_pos positive 2)]
    linarith
  rw [outside.ecefToGcs_eq, iterate]
  refine ⟨rfl, ?_, ?_⟩
  · have angle :=
      Meridian.abs_arctan_mul_sub_le positive atMost (tan point.latitude)
    rw [arctan_tan outside.south outside.north] at angle
    refine angle.trans ?_
    rw [div_le_iff₀ positive]
    linarith
  · have height :=
      earthMeridian.abs_height_mul_sub_le positive atMost point.axial
        point.polar (tan point.latitude)
    rw [outside.height_eq] at height
    refine height.trans ?_
    have axis : earthMeridian.a = 6378136 := rfl
    rw [axis]
    linarith

/-- A radar at half a radian north and one radian east. -/
noncomputable def site : GCSPoint where
  latitude := 0.5
  longitude := 1
  altitude := 100.0

theorem outside_site : site.Outside := by
  have atLeast := two_le_pi
  constructor <;> norm_num [site] <;> linarith

theorem ecefToGcs_gcsToEcef_site :
    |(ecefToGcs (gcsToEcef site)).altitude - 100.0| ≤ 1 / 10 ^ 3 :=
  (ecefToGcs_gcsToEcef outside_site).2.2

end GCSPoint

end Radar.CSUtils
