import Radar.PlacementFailure
import Radar.SignalLadder
import Radar.TransmitSafety

namespace Radar

/-!
# Which sectors are labelled as they are meant

A time on a chunk boundary is given the chunk after the one that starts there,
and a time beyond the timeline gets no chunk.  A short sector that begins on a
boundary is therefore turned around, and a sector that ends beyond the
timeline has no last chunk.  For a built pair this depends on the receive time
and on the found index alone.
-/

open Settings

namespace LabelCall

/-- The call labels an ordered sector of the timeline. -/
def InRange (call : LabelCall) : Prop :=
  call.startIdx ≤ call.stopIdx ∧ call.stopIdx < timelineDepth

/-- A sector between two times is in range for these residues and bounds. -/
theorem inRange_between_iff
    {target : TimelineName}
    {startRel stopRel : UInt32}
    {label : TimelineLabel}
    {first last : Nat}
    (isFirst : startRel.toNat = first)
    (isLast : stopRel.toNat = last)
    (ordered : first ≤ last) :
    (between target startRel stopRel label).InRange ↔
      (first % 10000 = 0 → last = first ∨ first + 10000 ≤ last) ∧
        Timeline.chunkFor last < 100000 := by
  subst isFirst isLast
  rw [InRange, UInt32.le_iff_toNat_le, UInt32.lt_iff_toNat_lt,
    startIdx_between, stopIdx_between, toNat_timelineDepth]
  by_cases inHorizon : stopRel.toNat ≤ 1000000000
  · rw [Timeline.toNat_getIdxFor_of_le inHorizon,
      Timeline.toNat_getIdxFor_of_le (ordered.trans inHorizon)]
    unfold Timeline.chunkFor
    split_ifs <;> omega
  · rw [Timeline.toNat_getIdxFor_of_lt (Nat.not_le.mp inHorizon)]
    unfold Timeline.chunkFor
    split_ifs <;> omega

end LabelCall

namespace Scheduler

/--
Every sector of a placement is ordered and ends on the timeline, and the
receive part starts at the time that is meant, not at that time modulo
`2 ^ 32`.
-/
structure SectorsInRange (pair : ScanPair) (idx : UInt32) : Prop where
  inRange : ∀ call ∈ labelCalls pair idx, call.InRange
  unwrapped :
    (rsStartTime pair idx).toNat =
      idx.toNat * timeChunkLength.toNat + (rangeOffsetLen pair).toNat

/-- Duration of the receive intervals of a pair of equal pulses. -/
def receptionLen (pair : ScanPair) (length : UInt32) : Nat :=
  8 * (length.toNat * (pair.size.toNat - 1)) + length.toNat

/--
The residue of the receive time lets no short sector begin on a chunk
boundary, and the receive part ends on the timeline.
-/
structure SectorsFit (pair : ScanPair) (idx : UInt32) : Prop where
  reserve : pair.receiveTime.toNat % 10000 ≠ 5000
  pulse :
    pair.receiveTime.toNat % 10000 = 0 →
      10000 ≤ (pair.receive.headD {}).length.toNat
  antenna :
    Timeline.chunkFor
      (idx.toNat * 10000 + pair.receiveTime.toNat + 225000) < 100000
  reception :
    Timeline.chunkFor
      (idx.toNat * 10000 + pair.receiveTime.toNat +
        receptionLen pair (pair.receive.headD {}).length) < 100000

/-- A time whose chunk is on the timeline. -/
theorem chunkFor_lt_iff (time : Nat) :
    Timeline.chunkFor time < 100000 ↔
      time < 1000000000 ∧ time ≠ 999990000 := by
  unfold Timeline.chunkFor
  split_ifs <;> omega

section Created

variable
  {pair : ScanPair}
  {length idx : UInt32}

/-- The range offset of a created pair is exact. -/
theorem toNat_rangeOffsetLen_of_created
    (created : CreatedPair pair length)
    (late : 275000 ≤ pair.receiveTime.toNat) :
    (rangeOffsetLen pair).toNat + 275000 = pair.receiveTime.toNat := by
  rw [toNat_rangeOffsetLen_of_le late,
    roundUp_of_mod_eq_zero (created.hundred (by omega))]

/-- The receive part consists of the reserve and one interval per pulse. -/
theorem forall_receiveCalls_iff
    (created : CreatedPair pair length)
    {holds : LabelCall → Prop} :
    (∀ call ∈ receiveCalls pair idx, holds call) ↔
      holds (.between .dcu (rsStartTime pair idx + phaseDelay)
        (rsStartTime pair idx + phaseDelay + reserveTime) .dcuReceive) ∧
      ∀ pulseIdx, pulseIdx < pair.size.toNat →
        holds (.between .dcu
          (rsStartTime pair idx + phaseDelay + reserveTime +
            UInt32.ofNat pulseIdx * periodTime pair)
          (rsStartTime pair idx + phaseDelay + reserveTime +
            UInt32.ofNat pulseIdx * periodTime pair + length)
          .dcuReceive) := by
  have interval {pulseIdx : Nat} (inTrain : pulseIdx < pair.size.toNat) :
      ∃ offsetTime,
        pair.receive[pulseIdx]? = some ⟨offsetTime, length⟩ := by
    rw [created.receive, ScanPair.pulses, List.getElem?_map,
      List.getElem?_range inTrain]
    exact ⟨_, rfl⟩
  simp only [receiveCalls, UInt32.sub_add_cancel, List.forall_mem_cons,
    List.forall_mem_map]
  refine and_congr Iff.rfl ⟨?_, ?_⟩
  · intro all pulseIdx inTrain
    obtain ⟨offsetTime, found⟩ := interval inTrain
    exact all (⟨offsetTime, length⟩, pulseIdx)
      (List.mem_zipIdx_iff_getElem?.mpr found)
  · rintro all ⟨pulse, pulseIdx⟩ member
    have found := List.mem_zipIdx_iff_getElem?.mp member
    have inTrain : pulseIdx < pair.size.toNat := by
      rw [← pair.receiveLength]
      exact (List.getElem?_eq_some_iff.mp found).1
    obtain ⟨offsetTime, regular⟩ := interval inTrain
    have same : pulse = ⟨offsetTime, length⟩ :=
      Option.some.inj (found.symm.trans regular)
    subst same
    exact all pulseIdx inTrain

/-- Times of one receive interval. -/
theorem toNat_receiveInterval
    (regular : RegularPair pair length)
    {start : Nat}
    (isStart : (rsStartTime pair idx).toNat = start)
    (inHorizon : start ≤ 1000000000)
    {pulseIdx : Nat}
    (inTrain : pulseIdx < pair.size.toNat) :
    (rsStartTime pair idx + phaseDelay + reserveTime +
        UInt32.ofNat pulseIdx * periodTime pair).toNat =
      start + 275000 + 8 * (length.toNat * pulseIdx) ∧
    (rsStartTime pair idx + phaseDelay + reserveTime +
        UInt32.ofNat pulseIdx * periodTime pair + length).toNat =
      start + 275000 + 8 * (length.toNat * pulseIdx) + length.toNat := by
  obtain ⟨_, atMost⟩ := RegularPair.size_bounds pair
  have short := regular.short
  have product : length.toNat * pulseIdx ≤ 240000 * 16 :=
    Nat.mul_le_mul short (by omega)
  have first :
      (rsStartTime pair idx + phaseDelay + reserveTime +
          UInt32.ofNat pulseIdx * periodTime pair).toNat =
        start + 275000 + 8 * (length.toNat * pulseIdx) := by
    rw [UInt32.toNat_add, UInt32.toNat_add, UInt32.toNat_add,
      toNat_pulseOffset regular inTrain, isStart, toNat_phaseDelay,
      toNat_reserveTime]
    omega
  refine ⟨first, ?_⟩
  rw [UInt32.toNat_add, first]
  omega

/-- The receive part is in range for these residues and bounds. -/
theorem forall_receiveCalls_inRange_iff
    (created : CreatedPair pair length)
    {start : Nat}
    (isStart : (rsStartTime pair idx).toNat = start)
    (inHorizon : start ≤ 1000000000) :
    (∀ call ∈ receiveCalls pair idx, call.InRange) ↔
      (start % 10000 ≠ 0 ∧
        Timeline.chunkFor (start + 275000) < 100000) ∧
      ∀ pulseIdx, pulseIdx < pair.size.toNat →
        ((start + 275000 + 8 * (length.toNat * pulseIdx)) % 10000 = 0 →
          10000 ≤ length.toNat) ∧
        Timeline.chunkFor
          (start + 275000 + 8 * (length.toNat * pulseIdx) +
            length.toNat) < 100000 := by
  have positive := created.positive
  have rephased :
      (rsStartTime pair idx + phaseDelay).toNat = start + 270000 := by
    rw [UInt32.toNat_add, isStart, toNat_phaseDelay]
    omega
  have reserved :
      (rsStartTime pair idx + phaseDelay + reserveTime).toNat =
        start + 275000 := by
    rw [UInt32.toNat_add, rephased, toNat_reserveTime]
    omega
  rw [forall_receiveCalls_iff created,
    LabelCall.inRange_between_iff rephased reserved (by omega)]
  refine and_congr (and_congr_left fun _ => by omega) ?_
  refine forall_congr' fun pulseIdx => forall_congr' fun inTrain => ?_
  obtain ⟨first, last⟩ :=
    toNat_receiveInterval (.of_created created) isStart inHorizon inTrain
  rw [LabelCall.inRange_between_iff first last (Nat.le_add_right ..)]
  refine and_congr_left fun _ => ?_
  constructor
  · intro ordered boundary
    have := ordered boundary
    omega
  · intro long boundary
    have := long boundary
    omega

/-- The sectors of the receiving antenna are in range for this bound. -/
theorem forall_rsAuCalls_inRange_iff
    {start : Nat}
    (isStart : (rsStartTime pair idx).toNat = start)
    (inHorizon : start ≤ 1000000000) :
    (∀ call ∈ rsAuCalls pair idx, call.InRange) ↔
      Timeline.chunkFor (start + 500000) < 100000 := by
  have rephased :
      (rsStartTime pair idx + phaseDelay).toNat = start + 270000 := by
    rw [UInt32.toNat_add, isStart, toNat_phaseDelay]
    omega
  have delayed :
      (rsStartTime pair idx + auCommandDelay).toNat = start + 500000 := by
    rw [UInt32.toNat_add, isStart, toNat_auCommandDelay]
    omega
  simp only [rsAuCalls_eq, List.forall_mem_cons, List.not_mem_nil,
    false_implies, implies_true, and_true]
  rw [LabelCall.inRange_between_iff isStart rephased (by omega),
    LabelCall.inRange_between_iff rephased delayed (by omega),
    chunkFor_lt_iff, chunkFor_lt_iff]
  omega

/-- The sectors of the transmission are always in range. -/
theorem inRange_of_mem_transmit
    (regular : RegularPair pair length)
    (phaseRoom : 27 ≤ idx.toNat)
    (shallow : idx.toNat < 1500)
    {call : LabelCall}
    (member : call ∈ trAuCalls idx ∨ call ∈ transmitCalls pair idx) :
    call.InRange := by
  rw [LabelCall.InRange, UInt32.le_iff_toNat_le, UInt32.lt_iff_toNat_lt,
    toNat_timelineDepth]
  rcases member with onAntenna | onConverter
  · obtain ⟨rephase, commandDelay, shape, rephaseStart, rephaseStop,
        delayStart, delayStop, _, _⟩ :=
      trAuCalls_indices phaseRoom shallow
    rw [shape] at onAntenna
    simp only [List.mem_cons, List.not_mem_nil, or_false] at onAntenna
    rcases onAntenna with rfl | rfl
    · omega
    · omega
  · obtain ⟨_, atMost⟩ := RegularPair.size_bounds pair
    have short := regular.short
    rcases mem_transmitCalls_cases regular shallow onConverter with
      ⟨leadStart, leadStop⟩ | ⟨pulseIdx, offsetTime, inTrain, ofPulse⟩
    · omega
    · obtain ⟨transmit, restore, shape, transmitStart, transmitStop,
          restoreStart, restoreStop⟩ :=
        pulseCalls_indices regular shallow inTrain offsetTime
      have product : length.toNat * pulseIdx ≤ 240000 * 16 :=
        Nat.mul_le_mul short (by omega)
      rw [Nat.mul_add, Nat.mul_one] at restoreStop
      rw [shape] at ofPulse
      simp only [List.mem_cons, List.not_mem_nil, or_false] at ofPulse
      rcases ofPulse with rfl | rfl
      · omega
      · omega

/-- A reception that ends on the timeline fits with each of its intervals. -/
theorem intervals_of_receptionEnd
    (isTrain : 1 < pair.size.toNat → length = 240000)
    {start : Nat}
    (pulse : start % 10000 = 5000 → 10000 ≤ length.toNat)
    (receptionEnd :
      Timeline.chunkFor
        (start + 275000 + 8 * (length.toNat * (pair.size.toNat - 1)) +
          length.toNat) < 100000)
    {pulseIdx : Nat}
    (inTrain : pulseIdx < pair.size.toNat) :
    ((start + 275000 + 8 * (length.toNat * pulseIdx)) % 10000 = 0 →
      10000 ≤ length.toNat) ∧
    Timeline.chunkFor
      (start + 275000 + 8 * (length.toNat * pulseIdx) +
        length.toNat) < 100000 := by
  by_cases isLast : pulseIdx = pair.size.toNat - 1
  · rw [← isLast] at receptionEnd
    refine ⟨?_, receptionEnd⟩
    intro boundary
    by_cases single : pair.size.toNat = 1
    · have first : pulseIdx = 0 := by omega
      rw [first] at boundary
      exact pulse (by omega)
    · rw [isTrain (by omega)]
      decide
  · have long := isTrain (by omega)
    have next : pulseIdx + 1 ≤ pair.size.toNat - 1 := by omega
    have product := Nat.mul_le_mul_left length.toNat next
    rw [Nat.mul_add, Nat.mul_one] at product
    have toNatLong : length.toNat = 240000 := by
      rw [long]
      rfl
    rw [chunkFor_lt_iff] at receptionEnd ⊢
    omega

/-- The receive part fits exactly when its antenna and converter parts do. -/
theorem sectorsFit_iff
    (created : CreatedPair pair length)
    (isTrain : 1 < pair.size.toNat → length = 240000)
    {start : Nat}
    (isStart :
      start + 275000 = idx.toNat * 10000 + pair.receiveTime.toNat) :
    SectorsFit pair idx ↔
      Timeline.chunkFor (start + 500000) < 100000 ∧
        (start % 10000 ≠ 0 ∧
          Timeline.chunkFor (start + 275000) < 100000) ∧
        ∀ pulseIdx, pulseIdx < pair.size.toNat →
          ((start + 275000 + 8 * (length.toNat * pulseIdx)) % 10000 = 0 →
            10000 ≤ length.toNat) ∧
          Timeline.chunkFor
            (start + 275000 + 8 * (length.toNat * pulseIdx) +
              length.toNat) < 100000 := by
  obtain ⟨atLeastOne, atMost⟩ := RegularPair.size_bounds pair
  have antennaEnd :
      idx.toNat * 10000 + pair.receiveTime.toNat + 225000 =
        start + 500000 := by omega
  constructor
  · rintro ⟨reserve, pulse, antenna, reception⟩
    rw [created.headD_receive] at pulse reception
    rw [antennaEnd] at antenna
    rw [receptionLen, ← isStart, ← Nat.add_assoc] at reception
    refine
      ⟨antenna, ⟨by omega, ?_⟩, fun pulseIdx =>
        intervals_of_receptionEnd isTrain
          (fun boundary => pulse (by omega)) reception⟩
    rw [chunkFor_lt_iff] at reception ⊢
    refine ⟨by omega, ?_⟩
    intro onLastBoundary
    have long := pulse (by omega)
    omega
  · rintro ⟨antenna, ⟨offBoundary, _⟩, intervals⟩
    have last := intervals (pair.size.toNat - 1) (by omega)
    have first := (intervals 0 atLeastOne).1
    refine ⟨by omega, ?_, by rw [antennaEnd]; exact antenna, ?_⟩
    · rw [created.headD_receive]
      intro boundary
      exact first (by omega)
    · rw [created.headD_receive, receptionLen, ← isStart, ← Nat.add_assoc]
      exact last.2

end Created

/--
The sectors of a built scan pair are labelled as they are meant exactly when
its receive time has a harmless residue and its receive part ends on the
timeline.
-/
theorem sectorsInRange_iff
    {lines : Timelines}
    {equation : RadarEquation}
    {range rcs : Rat}
    {type : QueryType}
    {idx : UInt32}
    (late :
      phaseDelay + reserveTime ≤
        (buildScanPair equation range rcs type).receiveTime)
    (found :
      placementIndex lines (buildScanPair equation range rcs type) =
        some idx) :
    SectorsInRange (buildScanPair equation range rcs type) idx ↔
      SectorsFit (buildScanPair equation range rcs type) idx := by
  have lateNat :
      275000 ≤
        (buildScanPair equation range rcs type).receiveTime.toNat :=
    UInt32.le_iff_toNat_le.mp late
  rcases buildScanPair_cases equation range rcs type with
    isDefault | ⟨length, created, isTrain⟩
  · rw [isDefault] at lateNat
    exact absurd lateNat (by decide)
  generalize buildScanPair equation range rcs type = pair at *
  have exact := toNat_rangeOffsetLen_of_created created lateNat
  obtain ⟨phaseRoom, shallow⟩ := bounds_of_placementIndex found
  obtain ⟨_, inHorizon⟩ := rsStartTime_bounds found
  have isStart :
      idx.toNat * 10000 + (rangeOffsetLen pair).toNat + 275000 =
        idx.toNat * 10000 + pair.receiveTime.toNat := by omega
  rw [sectorsFit_iff created isTrain isStart]
  constructor
  · rintro ⟨inRange, unwrapped⟩
    rw [toNat_timeChunkLength] at unwrapped
    rw [unwrapped] at inHorizon
    refine
      ⟨(forall_rsAuCalls_inRange_iff unwrapped inHorizon).mp ?_,
        (forall_receiveCalls_inRange_iff created unwrapped inHorizon).mp
          ?_⟩
    · intro call member
      exact inRange call
        (mem_labelCalls_iff.mpr (.inr (.inr (.inl member))))
    · intro call member
      exact inRange call
        (mem_labelCalls_iff.mpr (.inr (.inr (.inr member))))
  · rintro ⟨antenna, reception⟩
    have inTimeline := ((chunkFor_lt_iff _).mp antenna).1
    have unwrapped :
        (rsStartTime pair idx).toNat =
          idx.toNat * 10000 + (rangeOffsetLen pair).toNat := by
      rw [rsStartTime, UInt32.toNat_add, toNat_idx_mul shallow]
      omega
    refine ⟨?_, unwrapped⟩
    intro call member
    rcases mem_labelCalls_iff.mp member with
      onTrAu | onDcu | onRsAu | receiving
    · exact inRange_of_mem_transmit (.of_created created) phaseRoom shallow
        (.inl onTrAu)
    · exact inRange_of_mem_transmit (.of_created created) phaseRoom shallow
        (.inr onDcu)
    · exact (forall_rsAuCalls_inRange_iff unwrapped
        (by omega)).mpr antenna call onRsAu
    · exact (forall_receiveCalls_inRange_iff created unwrapped
        (by omega)).mpr reception call receiving

/-- The formulas for a target of 50 m² at 1 000 557 m. -/
def evenRange : RadarEquation where
  tauNsec _ _ := 11724
  rdtNanosec _ := 6674998

/-- The formulas for a target of 50 m² at 1 000 000 m. -/
def wholeRange : RadarEquation where
  tauNsec _ _ := 11724
  rdtNanosec _ := 6671282

/-- The sectors of the search of the nearer target are right. -/
theorem sectorsInRange_iff_wholeRange :
    SectorsInRange (buildScanPair wholeRange 1000000 50 .search) 27 := by
  have found :
      placementIndex .new (buildScanPair wholeRange 1000000 50 .search) =
        some 27 := by
    decide +kernel
  refine (sectorsInRange_iff (by decide +kernel) found).mpr ?_
  exact
    { reserve := by decide +kernel
      pulse := by decide +kernel
      antenna := by decide +kernel
      reception := by decide +kernel }

/-- The reserve of the other one runs from chunk 695 back to 694. -/
theorem evenRange_not_sectorsInRange :
    placementIndex .new (buildScanPair evenRange 1000557 50 .search) =
        some 27 ∧
      (⟨.dcu, 695, 694, .dcuReceive⟩ : LabelCall) ∈
        labelCalls (buildScanPair evenRange 1000557 50 .search) 27 ∧
      ¬ SectorsInRange (buildScanPair evenRange 1000557 50 .search) 27 := by
  have reversed :
      (⟨.dcu, 695, 694, .dcuReceive⟩ : LabelCall) ∈
        labelCalls (buildScanPair evenRange 1000557 50 .search) 27 := by
    decide +kernel
  refine ⟨by decide +kernel, reversed, ?_⟩
  intro sectors
  exact absurd (sectors.inRange _ reversed).1 (by decide)

end Scheduler

end Radar
