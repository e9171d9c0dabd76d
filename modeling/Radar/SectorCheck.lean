import Radar.CoordinateSystems

namespace Radar

/-!
# The sector of a radar

`sector_check` decides whether a target is in the search area of a radar.  Its
prototype `sector_check.m` measures the polar angle and the azimuth of the
target in degrees; `sector_check` compares the polar angle in radians with
both intervals, and one of them is enough.  The coordinates are real numbers.
-/

namespace TargetEnvironment

open Real CSUtils

/-! ## The check -/

/-- Range and angles of a search area, the angles in degrees. -/
structure SearchArea where
  range : ℝ
  elevationAngle : ℝ
  elevationWidth : ℝ
  azimuthAngle : ℝ
  azimuthWidth : ℝ

/-- `sector_check` -/
noncomputable def sectorCheck
    (targetPoint : ECEFPoint)
    (params : SearchArea)
    (radarLocation : GCSPoint) : Bool :=
  let enuTp :=
    ecefToEnu targetPoint
      { latitude := degreeToRad radarLocation.latitude 0 0
        longitude := degreeToRad radarLocation.longitude 0 0
        altitude := 0 }
  let sphTp := enuToSph enuTp
  if params.range < sphTp.R then
    false
  else if
      params.elevationWidth < |sphTp.theta - params.elevationAngle| ∧
        params.azimuthWidth < |sphTp.theta - params.azimuthAngle| then
    false
  else
    true

/-! ## The prototype -/

/-- The range and the angles that `sector_check.m` measures. -/
noncomputable def sectorPoint (point : ENUPoint) : SPHPoint where
  R := √(point.x * point.x + point.y * point.y + point.z * point.z)
  theta :=
    toDegrees
      (Spherical.atan2 (√(point.x * point.x + point.y * point.y)) point.z)
  phi := toDegrees (Spherical.atan2 point.y point.x)

/-- `sector_check.m` -/
noncomputable def prototypeCheck
    (point : ENUPoint)
    (params : SearchArea) : Bool :=
  if params.range < (sectorPoint point).R then
    false
  else if
      |(sectorPoint point).phi - params.azimuthAngle| < params.azimuthWidth ∧
        |(sectorPoint point).theta - params.elevationAngle| <
          params.elevationWidth then
    true
  else
    false

/-- A target in a local frame at an altitude above the radar's place. -/
noncomputable def localPoint
    (targetPoint : ECEFPoint)
    (radarLocation : GCSPoint)
    (altitude : ℝ) : ENUPoint :=
  ecefToEnu targetPoint
    { latitude := degreeToRad radarLocation.latitude 0 0
      longitude := degreeToRad radarLocation.longitude 0 0
      altitude := altitude }

/-- What the prototype measures of it. -/
noncomputable def localTarget
    (targetPoint : ECEFPoint)
    (radarLocation : GCSPoint)
    (altitude : ℝ) : SPHPoint :=
  sectorPoint (localPoint targetPoint radarLocation altitude)

/-- A point in the frame that is lower by a height; the second axis is up. -/
def raised (height : ℝ) (point : ENUPoint) : ENUPoint :=
  { point with y := point.y + height }

namespace SearchArea

variable (params : SearchArea) (point : SPHPoint)

/-- The point is outside of the sector and of its boundary. -/
def Outside : Prop :=
  params.range < point.R ∨
    params.elevationWidth < |point.theta - params.elevationAngle| ∨
    params.azimuthWidth < |point.phi - params.azimuthAngle|

/-- The point is inside of the sector; only its range may be the limit. -/
def Inside : Prop :=
  point.R ≤ params.range ∧
    |point.theta - params.elevationAngle| < params.elevationWidth ∧
    |point.phi - params.azimuthAngle| < params.azimuthWidth

/--
The point is in range, and its polar angle in radians is in one of the two
intervals, which are in degrees.
-/
def InsideInRadians : Prop :=
  point.R ≤ params.range ∧
    (|degreeToRad point.theta 0 0 - params.elevationAngle| ≤
        params.elevationWidth ∨
      |degreeToRad point.theta 0 0 - params.azimuthAngle| ≤
        params.azimuthWidth)

end SearchArea

/--
A polar angle in degrees that is, as radians, in an interval of degrees: the
bounds of the interval are taken 180/π times.
-/
def Stretched (angle width theta : ℝ) : Prop :=
  toDegrees (angle - width) ≤ theta ∧ theta ≤ toDegrees (angle + width)

/--
A target in a local frame at an altitude is outside of the sector, but in the
frame without the altitude it is in range, and its polar angle is in one of the
stretched intervals.
-/
def WronglyAccepted
    (params : SearchArea)
    (point : ENUPoint)
    (altitude : ℝ) : Prop :=
  let seen := sectorPoint (raised altitude point)
  params.Outside (sectorPoint point) ∧
    seen.R ≤ params.range ∧
    (Stretched params.elevationAngle params.elevationWidth seen.theta ∨
      Stretched params.azimuthAngle params.azimuthWidth seen.theta)

/--
The prototype accepts the target, but in the frame without the altitude it is
out of range, or its polar angle is in neither of the stretched intervals.
-/
def WronglyRejected
    (params : SearchArea)
    (point : ENUPoint)
    (altitude : ℝ) : Prop :=
  let seen := sectorPoint (raised altitude point)
  prototypeCheck point params = true ∧
    (params.range < seen.R ∨
      ¬ Stretched params.elevationAngle params.elevationWidth seen.theta ∧
        ¬ Stretched params.azimuthAngle params.azimuthWidth seen.theta)

/-- The prototype accepts the inside of a sector. -/
theorem prototypeCheck_eq_true_iff (point : ENUPoint) (params : SearchArea) :
    prototypeCheck point params = true ↔ params.Inside (sectorPoint point) := by
  unfold prototypeCheck SearchArea.Inside
  split_ifs with far angles
  · simp [far.not_ge]
  · simp [not_lt.mp far, angles.1, angles.2]
  · simpa [not_lt.mp far, and_comm] using angles

/-- The prototype measures the same range and, in degrees, the same angle. -/
theorem sectorPoint_range (point : ENUPoint) :
    (sectorPoint point).R = (enuToSph point).R := rfl

theorem sectorPoint_polar (point : ENUPoint) :
    degreeToRad (sectorPoint point).theta 0 0 = (enuToSph point).theta :=
  degreeToRad_toDegrees _

/-- The frame of the code is lower by the altitude. -/
theorem localPoint_zero
    (targetPoint : ECEFPoint)
    (radarLocation : GCSPoint)
    (altitude : ℝ) :
    localPoint targetPoint radarLocation 0 =
      raised altitude (localPoint targetPoint radarLocation altitude) := by
  unfold localPoint
  generalize degreeToRad radarLocation.latitude 0 0 = phi
  generalize degreeToRad radarLocation.longitude 0 0 = lamda
  have first := sin_sq_add_cos_sq phi
  have second := sin_sq_add_cos_sq lamda
  unfold ecefToEnu raised
  rw [C_eq, C_eq]
  rw [ENUPoint.mk.injEq]
  refine ⟨?_, ?_, ?_⟩
  · simp [lccsCenterPoint]
    linear_combination (altitude * cos phi * sin phi) * second
  · simp [lccsCenterPoint]
    linear_combination (altitude * cos phi ^ 2) * second + altitude * first
  · simp [lccsCenterPoint]
    ring

theorem toDegrees_eq (angle : ℝ) : toDegrees angle = 180 / π * angle := by
  rw [toDegrees, mul_comm, mul_div_right_comm]

/-- Radians in an interval of degrees are degrees in the stretched one. -/
theorem abs_degreeToRad_sub_le_iff (angle width theta : ℝ) :
    |degreeToRad theta 0 0 - angle| ≤ width ↔ Stretched angle width theta := by
  have positive : 0 < 180 / π := div_pos (by norm_num) pi_pos
  have degrees : theta = 180 / π * degreeToRad theta 0 0 := by
    have nonzero := pi_ne_zero
    unfold degreeToRad
    field_simp
    ring
  unfold Stretched
  rw [abs_le, toDegrees_eq, toDegrees_eq, degrees,
    mul_le_mul_iff_right₀ positive, mul_le_mul_iff_right₀ positive, ← degrees]
  constructor
  · rintro ⟨atLeast, atMost⟩
    constructor <;> linarith
  · rintro ⟨atLeast, atMost⟩
    constructor <;> linarith

/-- The polar angle is between 0 and 180 degrees. -/
theorem polar_localTarget
    (targetPoint : ECEFPoint)
    (radarLocation : GCSPoint)
    (altitude : ℝ) :
    let theta :=
      degreeToRad (localTarget targetPoint radarLocation altitude).theta 0 0
    0 ≤ theta ∧ theta ≤ π := by
  simp only [localTarget, sectorPoint, degreeToRad_toDegrees]
  exact Spherical.polar_mem _ _ _

/-! ## What the check accepts -/

/-- The check accepts what is inside of a sector in radians. -/
theorem sectorCheck_eq_true_iff
    (targetPoint : ECEFPoint)
    (params : SearchArea)
    (radarLocation : GCSPoint) :
    sectorCheck targetPoint params radarLocation = true ↔
      params.InsideInRadians (localTarget targetPoint radarLocation 0) := by
  rw [SearchArea.InsideInRadians, localTarget, sectorPoint_range,
    sectorPoint_polar]
  unfold sectorCheck localPoint
  dsimp only
  split_ifs with far angles
  · simp [far.not_ge]
  · simp [angles.1.not_ge, angles.2.not_ge]
  · rw [not_and_or, not_lt, not_lt] at angles
    exact iff_of_true rfl ⟨not_lt.mp far, angles⟩

/-- An azimuth interval around all polar angles leaves the range only. -/
theorem sectorCheck_of_covers
    {params : SearchArea}
    (fromZero : params.azimuthAngle - params.azimuthWidth ≤ 0)
    (toPi : π ≤ params.azimuthAngle + params.azimuthWidth)
    (targetPoint : ECEFPoint)
    (radarLocation : GCSPoint) :
    sectorCheck targetPoint params radarLocation = true ↔
      (localTarget targetPoint radarLocation 0).R ≤ params.range := by
  rw [sectorCheck_eq_true_iff]
  refine and_iff_left (.inr ?_)
  obtain ⟨atLeast, atMost⟩ := polar_localTarget targetPoint radarLocation 0
  rw [abs_le]
  constructor <;> linarith

/-- What the check accepts, in degrees. -/
theorem insideInRadians_iff (params : SearchArea) (point : SPHPoint) :
    params.InsideInRadians point ↔
      point.R ≤ params.range ∧
        (Stretched params.elevationAngle params.elevationWidth point.theta ∨
          Stretched params.azimuthAngle params.azimuthWidth
            point.theta) := by
  rw [SearchArea.InsideInRadians, abs_degreeToRad_sub_le_iff,
    abs_degreeToRad_sub_le_iff]

/--
What is expected of the check: it rejects what is outside of the sector, and
accepts what the prototype accepts, in a local frame at some altitude.
-/
structure DecidesSector
    (targetPoint : ECEFPoint)
    (params : SearchArea)
    (radarLocation : GCSPoint)
    (altitude : ℝ) : Prop where
  rejects :
    params.Outside (localTarget targetPoint radarLocation altitude) →
      sectorCheck targetPoint params radarLocation = false
  accepts :
    prototypeCheck (localPoint targetPoint radarLocation altitude) params =
        true →
      sectorCheck targetPoint params radarLocation = true

/-- The check errs in the two ways only, in the frame at any altitude. -/
theorem decidesSector_iff_not_wrongly
    (targetPoint : ECEFPoint)
    (params : SearchArea)
    (radarLocation : GCSPoint)
    (altitude : ℝ) :
    DecidesSector targetPoint params radarLocation altitude ↔
      ¬ WronglyAccepted params
          (localPoint targetPoint radarLocation altitude) altitude ∧
        ¬ WronglyRejected params
          (localPoint targetPoint radarLocation altitude) altitude := by
  have checked :=
    sectorCheck_eq_true_iff targetPoint params radarLocation
  rw [insideInRadians_iff, localTarget,
    localPoint_zero targetPoint radarLocation altitude] at checked
  unfold WronglyAccepted WronglyRejected
  dsimp only
  constructor
  · rintro ⟨rejects, accepts⟩
    constructor
    · rintro ⟨outside, inRadians⟩
      have rejected := rejects outside
      rw [checked.mpr inRadians] at rejected
      cases rejected
    · rintro ⟨inside, far | angles⟩
      · exact (checked.mp (accepts inside)).1.not_gt far
      · exact not_or.mpr angles (checked.mp (accepts inside)).2
  · rintro ⟨notAccepted, notRejected⟩
    constructor
    · intro outside
      refine Bool.eq_false_iff.mpr fun accepted => notAccepted ?_
      exact ⟨outside, checked.mp accepted⟩
    · intro inside
      by_contra rejected
      rw [checked, not_and_or, not_le, not_or] at rejected
      exact notRejected ⟨inside, rejected⟩

/--
Inside of the sector the upper bound is never exceeded: degrees that are taken
for radians only move it up.
-/
theorem theta_le_toDegrees
    {targetPoint : ECEFPoint}
    {radarLocation : GCSPoint}
    {altitude angle width : ℝ}
    (inside :
      |(localTarget targetPoint radarLocation altitude).theta - angle| <
        width) :
    (localTarget targetPoint radarLocation altitude).theta ≤
      toDegrees (angle + width) := by
  have radians := (polar_localTarget targetPoint radarLocation altitude).1
  generalize (localTarget targetPoint radarLocation altitude).theta = theta
    at inside radians ⊢
  have nonnegative : 0 ≤ theta := by
    unfold degreeToRad at radians
    have scaled : 0 ≤ theta * (π / 180) := by
      calc
        0 ≤ _ := radians
        _ = theta * (π / 180) := by ring
    exact nonneg_of_mul_nonneg_left scaled (div_pos pi_pos (by norm_num))
  have upper := (abs_lt.mp inside).2
  have atLeastOne : 1 ≤ 180 / π := by
    rw [le_div_iff₀ pi_pos]
    linarith [pi_le_four]
  rw [toDegrees_eq]
  nlinarith

/--
In the frame at sea level the check errs for targets in range only: outside of
the sector where the polar angle is in a stretched interval, and inside where
it is below the stretched interval of elevations and outside of the stretched
interval of azimuths.
-/
theorem decidesSector_zero_iff
    (targetPoint : ECEFPoint)
    (params : SearchArea)
    (radarLocation : GCSPoint) :
    let point := localTarget targetPoint radarLocation 0
    DecidesSector targetPoint params radarLocation 0 ↔
      (point.R ≤ params.range →
        ((params.elevationWidth < |point.theta - params.elevationAngle| ∨
            params.azimuthWidth < |point.phi - params.azimuthAngle|) →
          ¬ Stretched params.elevationAngle params.elevationWidth
              point.theta ∧
            ¬ Stretched params.azimuthAngle params.azimuthWidth
              point.theta) ∧
        (|point.theta - params.elevationAngle| < params.elevationWidth →
          |point.phi - params.azimuthAngle| < params.azimuthWidth →
            toDegrees (params.elevationAngle - params.elevationWidth) ≤
                point.theta ∨
              Stretched params.azimuthAngle params.azimuthWidth
                point.theta)) := by
  intro point
  have same : raised 0 (localPoint targetPoint radarLocation 0) =
      localPoint targetPoint radarLocation 0 :=
    (localPoint_zero targetPoint radarLocation 0).symm
  rw [decidesSector_iff_not_wrongly]
  unfold WronglyAccepted WronglyRejected
  dsimp only
  rw [same, prototypeCheck_eq_true_iff]
  change
    ¬ (params.Outside point ∧ point.R ≤ params.range ∧ _) ∧
        ¬ (params.Inside point ∧ (params.range < point.R ∨ _)) ↔ _
  constructor
  · rintro ⟨notAccepted, notRejected⟩ inRange
    constructor
    · intro outside
      rw [← not_or]
      exact fun stretched =>
        notAccepted ⟨.inr outside, inRange, stretched⟩
    · intro elevation azimuth
      by_contra neither
      rw [not_or] at neither
      refine notRejected
        ⟨⟨inRange, elevation, azimuth⟩, .inr ⟨?_, neither.2⟩⟩
      exact fun stretched => neither.1 stretched.1
  · intro sound
    constructor
    · rintro ⟨far | outside, inRange, stretched⟩
      · exact far.not_ge inRange
      · exact not_or.mpr ((sound inRange).1 outside) stretched
    · rintro ⟨⟨inRange, elevation, azimuth⟩, far | neither⟩
      · exact far.not_ge inRange
      · rcases (sound inRange).2 elevation azimuth with above | stretched
        · exact
            neither.1 ⟨above, theta_le_toDegrees elevation⟩
        · exact neither.2 stretched

/-- A radar at sea level on the equator. -/
noncomputable def equator : GCSPoint where
  latitude := 0
  longitude := 0
  altitude := 0

/-- A target one kilometre north of it. -/
noncomputable def northOfEquator : ECEFPoint where
  x := a
  y := 0
  z := 1000

/-- The area that the prototype is tested with, in metres. -/
noncomputable def testArea : SearchArea where
  range := 2000
  elevationAngle := 45
  elevationWidth := 25
  azimuthAngle := 0
  azimuthWidth := 30

theorem ecefToEnu_northOfEquator :
    ecefToEnu northOfEquator ⟨0, 0, 0⟩ = ⟨1000, 0, 0⟩ := by
  have center : lccsCenterPoint ⟨0, 0, 0⟩ = ![a, 0, 0] := by
    simp [lccsCenterPoint, reducedLatitude]
  unfold ecefToEnu
  rw [center, C_eq]
  simp [northOfEquator]

/-- The target is a kilometre away, at right angles to the third axis. -/
theorem localTarget_northOfEquator :
    localTarget northOfEquator equator 0 = ⟨1000, 90, 0⟩ := by
  have root : √((1000 : ℝ) * 1000) = 1000 := sqrt_mul_self (by norm_num)
  have origin : degreeToRad 0 0 0 = 0 := by simp [degreeToRad]
  have right : π / 2 * 180 / π = 90 := by
    have nonzero := pi_ne_zero
    field_simp
    norm_num
  simp [localTarget, localPoint, equator, origin, ecefToEnu_northOfEquator,
    sectorPoint,
    root, Spherical.atan2_zero_left, Spherical.atan2_zero_right, toDegrees,
    right]

end TargetEnvironment

end Radar
