import Radar.NoradBase
import Radar.PositionFit
import Radar.RequestTime
import Radar.SectorCheck
import Radar.TargetExchangeRuns

namespace Radar

/-!
# What a client holds of the satellites

The server propagates each satellite in the area of a request to six times and
sends the parameters of a path through these positions with eight decimal
places.  The client that asked holds parameters of nearly this path.  Where a
satellite is some minutes after its epoch is a parameter, which is different
for each request that is served, as is the clock of the platform.  Positions
are finite, and parameters are computed from them exactly.
-/

open CatalogTle (Keo)
open DecimalText (rounded)
open PositionFit
open Server (elapcedTime)
open TargetExchange

/-! ## Requests -/

/--
What the server knows of the time and of satellites when it serves a request:
`getPosition` is the position that a call leaves in `v0`.
-/
structure Propagation (Elements : Type) where
  toTimeT : UInt64 → Nat
  jd : Elements → Rat
  getPosition : Elements → Rat → TVect3 Rat

namespace Propagation

variable {Elements : Type} (propagation : Propagation Elements)

/-- Where a satellite is some seconds after the time of a request. -/
def position
    (request : Request)
    (item : Keo Elements)
    (seconds : Rat) :
    TVect3 Rat :=
  propagation.getPosition item.elements
    (elapcedTime (propagation.toTimeT request.time)
      (propagation.jd item.elements) + seconds / 60)

/-- One coordinate of the six positions from which parameters are computed. -/
def points
    (coordinate : TVect3 Rat → Rat)
    (request : Request)
    (item : Keo Elements) :
    Vector Rat 6 :=
  Vector.ofFn fun nPoint =>
    coordinate (propagation.position request item (pointTime nPoint))

/-- The satellite is in the search area at the time of the request. -/
noncomputable def inArea (request : Request) (item : Keo Elements) : Bool :=
  let v0 := propagation.position request item 0
  TargetEnvironment.sectorCheck
    { x := v0.x
      y := v0.y
      z := v0.z }
    { range := request.sa.range
      elevationAngle := request.sa.elevationAngle
      elevationWidth := request.sa.elevationWidth
      azimuthAngle := request.sa.azimuthAngle
      azimuthWidth := request.sa.azimuthWidth }
    { latitude := request.radarLoc.latitude
      longitude := request.radarLoc.longitude
      altitude := request.radarLoc.altitude }

/-- One coordinate of the parameters of a satellite. -/
def params
    (coordinate : TVect3 Rat → Rat)
    (request : Request)
    (item : Keo Elements) :
    Vector DecimalText.Double 6 :=
  (compParHelper (propagation.points coordinate request item)).map .finite

/-- What requests find. -/
noncomputable def ephemeris : Ephemeris Elements where
  sectorCheck := propagation.inArea
  x := propagation.params TVect3.x
  y := propagation.params TVect3.y
  z := propagation.params TVect3.z

/-- These parameters are numbers. -/
theorem isFinite_params
    (coordinate : TVect3 Rat → Rat)
    (request : Request)
    (item : Keo Elements) :
    ∀ value ∈ propagation.params coordinate request item,
      value.isFinite = true := by
  intro value member
  obtain ⟨number, -, rfl⟩ := Vector.mem_map.mp member
  rfl

/-- The numbers are the parameters. -/
@[simp] theorem map_toRat_params
    (coordinate : TVect3 Rat → Rat)
    (request : Request)
    (item : Keo Elements) :
    (propagation.params coordinate request item).map
        DecimalText.Double.toRat =
      compParHelper (propagation.points coordinate request item) := by
  rw [params, Vector.map_map]
  exact Vector.map_id' _

end Propagation

/-! ## Paths -/

/--
For 50 s the parameters describe nearly the path through six points.  How
nearly depends on the largest coordinate.
-/
def Follows (params points : Vector Rat 6) : Prop :=
  ∀ limit, (∀ nPoint, |points.get nPoint| ≤ limit) →
    ∀ t, 0 ≤ t → t ≤ 50 →
      |PositionFit.position params t -
          PositionFit.position (throughPoints points) t| ≤
        28 / 10000000 * limit + 15 / 1000

/-- Decimal places that are not printed move a path by centimetres. -/
theorem abs_position_rounded_sub_le
    (params : Vector Rat 6)
    {t : Rat}
    (notBefore : 0 ≤ t)
    (notAfter : t ≤ 50) :
    |PositionFit.position (params.map (rounded 8)) t -
        PositionFit.position params t| ≤
      15 / 1000 := by
  have near :
      ∀ power : Fin 6,
        |((params.map (rounded 8)).get - params.get) power| ≤
          1 / 2 / 10 ^ 8 := by
    intro power
    have entry :
        (params.map (rounded 8)).get power = rounded 8 (params.get power) :=
      Vector.getElem_map _ power.isLt
    rw [Pi.sub_apply, entry]
    exact DecimalText.abs_rounded_sub_le 8 _
  rw [position_sub]
  refine
    (LinearError.abs_dotProduct_le (abs_timeCoef_le notBefore notAfter)
      near).trans ?_
  decide +kernel

/-- The printed parameters of six points follow the path through them. -/
theorem follows_printed (points : Vector Rat 6) :
    Follows ((compParHelper points).map (rounded 8)) points := by
  intro limit limited t notBefore notAfter
  have printed :=
    abs_position_rounded_sub_le (compParHelper points) notBefore notAfter
  have computed := abs_position_sub_le points limited notBefore notAfter
  calc
    _ ≤ _ := abs_sub_le _ (PositionFit.position (compParHelper points) t) _
    _ ≤ 15 / 1000 + 28 / 10000000 * limit := add_le_add printed computed
    _ = _ := add_comm _ _

/-! ## Tables -/

namespace Propagation

variable {Elements : Type} (propagation : Propagation Elements)

/-- A held target is that of a satellite, and follows its positions. -/
structure Tracks
    (request : Request)
    (item : Keo Elements)
    (held : Target) :
    Prop where
  number : held.targetId = item.number
  x : Follows held.x (propagation.points TVect3.x request item)
  y : Follows held.y (propagation.points TVect3.y request item)
  z : Follows held.z (propagation.points TVect3.z request item)

/--
A table has an entry for every satellite in the area, and no other entries,
and each entry tracks its satellite.
-/
structure TracksAll
    (satelliteList : List (Keo Elements))
    (request : Request)
    (tbl : TargetTable) :
    Prop where
  complete :
    ∀ item ∈ satelliteList, propagation.inArea request item = true →
      ∃ held,
        tbl.tbl item.number = some held ∧
          propagation.Tracks request item held
  sound :
    ∀ id held, tbl.tbl id = some held →
      ∃ item ∈ satelliteList,
        propagation.inArea request item = true ∧ item.number = id ∧
          propagation.Tracks request item held

/-- The printed target of a satellite tracks it. -/
theorem tracks_printed (request : Request) (item : Keo Elements) :
    propagation.Tracks request item
      (Server.computeParams propagation.ephemeris request
        item).toTarget.printed := by
  constructor
  · rfl
  all_goals
    dsimp only [ComputedTarget.toTarget, Target.printed,
      Server.computeParams, ephemeris]
    rw [map_toRat_params]
    exact follows_printed _

variable {propagation} {satelliteList : List (Keo Elements)}

/-- A table of the targets of a request tracks the satellites in the area. -/
theorem tracksAll_of_holds
    {question : Question}
    {tbl : TargetTable}
    (holds :
      tbl.Holds (question.targets propagation.ephemeris satelliteList)) :
    propagation.TracksAll satelliteList question.request tbl where
  complete := by
    intro item member inArea
    refine
      ⟨_, (holds _ _).mpr ⟨?_, rfl⟩,
        propagation.tracks_printed question.request item⟩
    exact List.mem_map_of_mem (List.mem_filter.mpr ⟨member, inArea⟩)
  sound := by
    intro id held found
    obtain ⟨member, isId⟩ := (holds id held).mp found
    obtain ⟨item, inSector, rfl⟩ := List.mem_map.mp member
    obtain ⟨isListed, inArea⟩ := List.mem_filter.mp inSector
    exact
      ⟨item, isListed, inArea, isId,
        propagation.tracks_printed question.request item⟩

/-- A satellite that stays a kilometre north of the radar. -/
def hovering : Propagation Unit where
  toTimeT ticks := ticks.toNat / 1000000000
  jd _ := 2457500
  getPosition _ _ := { x := 6378136, y := 0, z := 1000 }

/-- A radar on the equator asks for what is up to 2 km away. -/
def nearQuestion : Question where
  sa := ⟨0, 0, 0, 2000, 45, 25, 0, 30⟩
  radarLoc := ⟨0, 0, 0⟩
  dur := 1461196800000000000
  tbl := TargetTable.empty

/-- The request that the server reads is the one that was made. -/
theorem request_nearQuestion :
    nearQuestion.request.sa = nearQuestion.sa ∧
      nearQuestion.request.radarLoc = nearQuestion.radarLoc :=
  ⟨SearchArea.printed_of_hasEightPlaces (by constructor <;> decide +kernel),
    GCSPoint.printed_of_hasEightPlaces (by constructor <;> decide +kernel)⟩

/-- The satellite is in the area. -/
theorem inArea_nearQuestion (item : Keo Unit) :
    hovering.inArea nearQuestion.request item = true := by
  obtain ⟨sameArea, samePoint⟩ := request_nearQuestion
  rw [inArea, sameArea, samePoint, TargetEnvironment.sectorCheck_of_covers]
  · have target := TargetEnvironment.localTarget_northOfEquator
    simp only [TargetEnvironment.northOfEquator, TargetEnvironment.equator,
      CSUtils.a] at target
    norm_num [position, hovering, nearQuestion, target]
  · norm_num [nearQuestion]
  · have small := Real.pi_le_four
    norm_num [nearQuestion]
    linarith

theorem fits_nearQuestion : nearQuestion.Fits := by
  unfold Question.Fits
  decide +kernel

theorem answerable_nearQuestion :
    Answerable hovering.ephemeris oneSatellite nearQuestion := by
  have found :
      Server.inSector hovering.ephemeris oneSatellite nearQuestion.request =
        oneSatellite :=
    List.filter_eq_self.mpr fun item _ => inArea_nearQuestion item
  constructor
  · decide
  · rw [found]
    decide
  · rw [found]
    decide
  · rw [found]
    intro item member
    rw [show item = oneSatellite.head (by decide) from
      List.mem_singleton.mp member]
    refine ⟨⟨?_, ?_, ?_⟩, ?_⟩
    · exact hovering.isFinite_params _ _ _
    · exact hovering.isFinite_params _ _ _
    · exact hovering.isFinite_params _ _ _
    · decide +kernel

end Propagation

end Radar
