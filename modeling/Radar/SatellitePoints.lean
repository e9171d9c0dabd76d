import Radar.NoradSGP4
import Radar.SectorCheck

namespace Radar

/-!
# The points of a satellite

`Server::process_request` asks the model of a satellite for six positions, and
does not look at whether there is one: a call that fails leaves the coordinates
of the call before, and the first of them are zeros.  A search area that does
not reach to the centre of the Earth leaves such satellites out.
-/

open Real TargetEnvironment

/-! ## Models of satellites -/

namespace KEO

/-- The time of a revolution, in minutes. -/
noncomputable def period (keo : KEO) : ℝ :=
  TleConst.twopi / keo.meanMotionR

/-- The model of near space for a perigee. -/
noncomputable def nearMode (keo : KEO) : NearMode :=
  if keo.perigeeR < 220.0 then .simp else .norm

/--
The results of `getPosition` of the model of a satellite, in the system of the
Earth; `none` is a failure.  What the model of deep space computes for a time
depends on the times before, and may be anything here.
-/
inductive Position (keo : KEO) (tsince : ℝ) : Option (TVect3 ℝ) → Prop where
  | circular
      (isCircular : keo.eccentricity ≤ 0)
      (rdotk : ℝ) :
      Position keo tsince
        (some (NoradCircl.getPosition keo rdotk tsince .gsc).1)
  | near
      (isElliptic : 0 < keo.eccentricity)
      (isShort : keo.period < 225) :
      Position keo tsince
        (((NoradSGP4.new keo keo.nearMode).getPosition tsince .gsc).toOption.map
          Prod.fst)
  | deepFailed
      (isElliptic : 0 < keo.eccentricity)
      (isLong : 225 ≤ keo.period) :
      Position keo tsince none
  | deep
      (isElliptic : 0 < keo.eccentricity)
      (isLong : 225 ≤ keo.period)
      (object : NoradSGDP4)
      (cd : CalcData) :
      Position keo tsince ((object.getPosition cd).toOption.map Prod.fst)

end KEO

/-! ## Points -/

/-- The coordinates after each call; a call that fails leaves them. -/
def keepLast {Point : Type} (v0 : Point) : List (Option Point) → List Point
  | [] => []
  | result :: later => result.getD v0 :: keepLast (result.getD v0) later

theorem length_keepLast
    {Point : Type}
    (v0 : Point)
    (results : List (Option Point)) :
    (keepLast v0 results).length = results.length := by
  induction results generalizing v0 with
  | nil => rfl
  | cons _ _ inductionHypothesis =>
      rw [keepLast, List.length_cons, List.length_cons, inductionHypothesis]

/-- The centre of the Earth, which new coordinates are. -/
def TVect3.origin : TVect3 ℝ where
  x := 0
  y := 0
  z := 0

/-- The times of six points, 10 s apart, in minutes. -/
noncomputable def pointTimes (elapcedTime : ℝ) : List ℝ :=
  (List.range 6).map fun nPoint : Nat =>
    elapcedTime + 10.0 * (nPoint : ℝ) / 60.0

/-- A satellite is in the search area, and six calls make its points. -/
structure ServesPoints
    (keo : KEO)
    (elapcedTime : ℝ)
    (area : SearchArea)
    (radarLocation : CSUtils.GCSPoint)
    (points : List (TVect3 ℝ)) :
    Prop where
  results :
    ∃ results,
      List.Forall₂ keo.Position (pointTimes elapcedTime) results ∧
        points = keepLast TVect3.origin results
  inSector :
    ∀ v0 ∈ points.head?,
      sectorCheck { x := v0.x, y := v0.y, z := v0.z } area radarLocation =
        true

/-! ## The centre of the Earth -/

/-- A radar on the ellipsoid is not closer to the centre than the poles. -/
theorem b_le_range_origin (radarLocation : CSUtils.GCSPoint) :
    CSUtils.b ≤ (localTarget ⟨0, 0, 0⟩ radarLocation 0).R := by
  have bPos : 0 ≤ CSUtils.b := by norm_num [CSUtils.b]
  have flat : CSUtils.b ^ 2 ≤ CSUtils.a ^ 2 := by
    norm_num [CSUtils.b, CSUtils.a]
  rw [localTarget, sectorPoint_range, localPoint, CSUtils.range_ecefToEnu]
  refine le_sqrt_of_sq_le ?_
  simp only [CSUtils.lccsCenterPoint, dotProduct, Fin.sum_univ_three]
  simp only [Pi.sub_apply, Matrix.cons_val]
  generalize CSUtils.degreeToRad radarLocation.longitude 0 0 = lamda
  generalize CSUtils.reducedLatitude _ = beta
  have equatorial :=
    mul_le_mul_of_nonneg_left flat (sq_nonneg (cos beta))
  linear_combination
    equatorial - CSUtils.b ^ 2 * sin_sq_add_cos_sq beta -
      CSUtils.a ^ 2 * cos beta ^ 2 * sin_sq_add_cos_sq lamda

/-- A search area that ends above the centre does not have it. -/
theorem sectorCheck_origin
    {area : SearchArea}
    (shallow : area.range < CSUtils.b)
    (radarLocation : CSUtils.GCSPoint) :
    sectorCheck ⟨0, 0, 0⟩ area radarLocation = false := by
  rw [← Bool.not_eq_true, sectorCheck_eq_true_iff]
  rintro ⟨inRange, -⟩
  exact absurd ((b_le_range_origin radarLocation).trans inRange)
    (not_le.mpr shallow)

/-! ## Points outside of the Earth -/

/-- The position is at least the radius of the Earth away from the centre. -/
def TVect3.OutsideEarth (point : TVect3 ℝ) : Prop :=
  TleConst.radiusAe ^ 2 ≤ point.scal point

/--
Where a satellite may be found: outside of the Earth, or on its circle, which
nothing keeps outside.
-/
def KEO.OnOrbit (keo : KEO) (point : TVect3 ℝ) : Prop :=
  if 0 < keo.eccentricity then
    point.OutsideEarth
  else
    point.scal point = (keo.semiMajorR * TleConst.radiusAe) ^ 2

namespace KEO.Position

variable {keo : KEO} {tsince : ℝ}

/-- Positions on an elliptic orbit come from elements outside of the Earth. -/
theorem outsideEarth_of_getPosition
    {object : NoradSGDP4}
    {cd : CalcData}
    {point : TVect3 ℝ}
    (found :
      (object.getPosition cd).toOption.map Prod.fst = some point) :
    point.OutsideEarth := by
  have radiusPos : 0 < TleConst.radiusAe := by
    norm_num [TleConst.radiusAe, TleConst.xkmperWgs72, TleConst.ae]
  cases result : object.getPosition cd with
  | error warning =>
      rw [result] at found
      cases found
  | ok state =>
      rw [result] at found
      cases found
      obtain ⟨kep, rfl, atLeast⟩ :=
        NoradSGDP4.radiusAe_le_of_getPosition result
      rw [TVect3.OutsideEarth, NoradBase.scal_kep2xyz_self]
      gcongr

/-- Positions that are found are on the orbit. -/
theorem onOrbit
    {point : TVect3 ℝ}
    (position : keo.Position tsince (some point)) :
    keo.OnOrbit point := by
  unfold KEO.OnOrbit
  generalize isSome : some point = result at position
  cases position with
  | circular isCircular rdotk =>
      cases isSome
      rw [if_neg isCircular.not_gt]
      exact NoradBase.scal_kep2xyz_self _ _
  | near isElliptic =>
      rw [if_pos isElliptic]
      exact outsideEarth_of_getPosition isSome.symm
  | deepFailed => cases isSome
  | deep isElliptic =>
      rw [if_pos isElliptic]
      exact outsideEarth_of_getPosition isSome.symm

end KEO.Position

/-- Points after a point on the orbit stay on it. -/
theorem keepLast_onOrbit
    {keo : KEO}
    {times : List ℝ}
    {results : List (Option (TVect3 ℝ))}
    (positions : List.Forall₂ keo.Position times results)
    {v0 : TVect3 ℝ}
    (onOrbit : keo.OnOrbit v0) :
    ∀ point ∈ keepLast v0 results, keo.OnOrbit point := by
  induction positions generalizing v0 with
  | nil => simp [keepLast]
  | @cons _ result _ _ position _ inductionHypothesis =>
      have next : keo.OnOrbit (result.getD v0) := by
        cases result with
        | none => exact onOrbit
        | some point => exact position.onOrbit
      rw [keepLast, List.forall_mem_cons]
      exact ⟨next, inductionHypothesis next⟩

/--
When the search area of a radar does not reach to the centre of the Earth, all
six points of a satellite found in it are outside of the Earth, or on the
circle of a circular orbit, also where calls have failed.
-/
theorem points_outsideEarth
    {keo : KEO}
    {elapcedTime : ℝ}
    {area : SearchArea}
    {radarLocation : CSUtils.GCSPoint}
    {points : List (TVect3 ℝ)}
    (serves :
      ServesPoints keo elapcedTime area radarLocation points)
    (shallow : area.range < CSUtils.b) :
    points.length = 6 ∧
      ∀ point ∈ points,
        if 0 < keo.eccentricity then
          point.OutsideEarth
        else
          point.scal point = (keo.semiMajorR * TleConst.radiusAe) ^ 2 := by
  obtain ⟨results, positions, rfl⟩ := serves.results
  have six : results.length = 6 := by
    rw [← positions.length_eq, pointTimes, List.length_map,
      List.length_range]
  refine ⟨(length_keepLast _ results).trans six, ?_⟩
  change ∀ point ∈ _, keo.OnOrbit point
  obtain ⟨first, later, rfl⟩ :=
    List.exists_cons_of_length_eq_add_one six
  cases first with
  | none =>
      have atCentre := serves.inSector TVect3.origin rfl
      rw [TVect3.origin, sectorCheck_origin shallow] at atCentre
      cases atCentre
  | some point =>
      cases hasTimes : pointTimes elapcedTime with
      | nil => rw [hasTimes] at positions; cases positions
      | cons time times =>
          rw [hasTimes] at positions
          obtain ⟨position, positions⟩ := List.forall₂_cons.mp positions
          rw [keepLast, List.forall_mem_cons]
          exact
            ⟨position.onOrbit, keepLast_onOrbit positions position.onOrbit⟩

/-! ## A satellite above the pole -/

/-- A circular orbit over the poles. -/
noncomputable def polarOrbit : KEO where
  jd := 2457500.0
  inclination := π / 2.0
  eccentricity := 0
  raan := 0
  argPerigee := 0
  bStar := 0
  meanAnomaly := 0
  meanMotionR := π / 2.0
  semiMajorR := 1.1
  perigeeR := 637.0

/-- A radar at the pole. -/
noncomputable def poleRadar : CSUtils.GCSPoint where
  latitude := 90.0
  longitude := 0
  altitude := 0

/-- All directions, as far as 6000 km. -/
noncomputable def wideArea : SearchArea where
  range := 6000000.0
  elevationAngle := 0
  elevationWidth := 0
  azimuthAngle := 0
  azimuthWidth := 30.0

/-- A minute after the epoch the satellite is above the pole. -/
theorem getPosition_polarOrbit :
    (NoradCircl.getPosition polarOrbit 0 1 .gsc).1 =
      { x := 0, y := 0, z := 1.1 * TleConst.radiusAe } := by
  have atLeast := two_le_pi
  have atMost := pi_le_four
  have lessThanTurn :
      ⌊(TleConst.pi + π / 2) / TleConst.twopi⌋ = 0 := by
    rw [Int.floor_eq_zero_iff, Set.mem_Ico, TleConst.twopi, TleConst.pi]
    constructor
    · positivity
    · rw [div_lt_one (by norm_num)]
      linarith
  have quarter :
      fmod (TleConst.pi + π / 2) TleConst.twopi - TleConst.pi = π / 2 := by
    have notNegative : 0 ≤ (TleConst.pi + π / 2) / TleConst.twopi := by
      rw [TleConst.twopi, TleConst.pi]
      positivity
    rw [fmod, truncate, if_pos notNegative, lessThanTurn]
    simp
  have half : π / 2.0 = π / 2 := by norm_num
  simp [NoradCircl.getPosition, NoradBase.kep2xyz, NoradBase.upward,
    TVect3.turn, polarOrbit, half, quarter]

/-- It is 660 km away from the radar. -/
theorem range_polarOrbit :
    (localTarget ⟨0, 0, 1.1 * TleConst.radiusAe⟩ poleRadar 0).R ≤
      wideArea.range := by
  have pole : CSUtils.degreeToRad 90.0 0 0 = π / 2 := by
    norm_num [CSUtils.degreeToRad]
    ring
  have center :
      CSUtils.lccsCenterPoint ⟨π / 2, CSUtils.degreeToRad 0 0 0, 0⟩ =
        ![0, 0, CSUtils.b] := by
    simp [CSUtils.lccsCenterPoint, CSUtils.reducedLatitude]
  rw [localTarget, sectorPoint_range, localPoint, CSUtils.range_ecefToEnu,
    poleRadar, pole, center]
  simp only [dotProduct, Fin.sum_univ_three, Pi.sub_apply, Matrix.cons_val]
  refine sqrt_le_iff.mpr ⟨?_, ?_⟩ <;>
    norm_num [wideArea, CSUtils.b, TleConst.radiusAe, TleConst.xkmperWgs72,
      TleConst.ae]

theorem servesPoints_polarOrbit :
    ∃ points, ServesPoints polarOrbit 1 wideArea poleRadar points := by
  have results :
      ∀ times, List.Forall₂ polarOrbit.Position times
        (times.map fun tsince =>
          some (NoradCircl.getPosition polarOrbit 0 tsince .gsc).1) := by
    intro times
    induction times with
    | nil => exact .nil
    | cons time times inductionHypothesis =>
        exact .cons (.circular le_rfl 0) inductionHypothesis
  refine ⟨_, ⟨_, results _, rfl⟩, ?_⟩
  intro v0 isFirst
  have same : v0 = { x := 0, y := 0, z := 1.1 * TleConst.radiusAe } := by
    have range : List.range 6 = [0, 1, 2, 3, 4, 5] := rfl
    rw [pointTimes, range, List.map_cons, List.map_cons, keepLast,
      List.head?_cons, Option.mem_some_iff] at isFirst
    rw [← isFirst, ← getPosition_polarOrbit]
    norm_num
  rw [same, sectorCheck_of_covers]
  · exact range_polarOrbit
  · norm_num [wideArea]
  · have atMost := pi_le_four
    norm_num [wideArea]
    linarith

/-- The points of the satellite are on its circle, 638 km above the Earth. -/
theorem points_outsideEarth_polarOrbit :
    ∃ points,
      ServesPoints polarOrbit 1 wideArea poleRadar points ∧
        points.length = 6 ∧
          ∀ point ∈ points,
            point.scal point = (1.1 * TleConst.radiusAe) ^ 2 := by
  obtain ⟨points, serves⟩ := servesPoints_polarOrbit
  have onCircle := points_outsideEarth serves
    (by norm_num [wideArea, CSUtils.b])
  have circular : ¬ 0 < polarOrbit.eccentricity := lt_irrefl _
  simp only [if_neg circular] at onCircle
  exact ⟨points, serves, onCircle⟩

end Radar
