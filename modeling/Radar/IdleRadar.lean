import Radar.LeastPlace
import Radar.PlacementCommands
import Radar.PlacementReservations
import Radar.TransmitWindow

namespace Radar.Scheduler

/-!
# Scheduling on an idle radar

On fresh timelines everything is empty, so a created pair is placed as soon as
its transmission fits into the planning depth.  The depth of 15 ms is shorter
than the longest trains that `create_scan_pair` admits.
-/

open Settings

/-- The commands of a placed scan. -/
def exchangeTypes : List CommandType :=
  [.transmitCommand, .trRephaseCommand, .protectCommand, .rsRephaseCommand,
    .receiveCommand]

/-- Total time for which a pair transmits, without its restore times. -/
def pulseTime (pair : ScanPair) : Nat :=
  pair.size.toNat * (pair.transmit.headD {}).length.toNat

section Created

variable
  {pair : ScanPair}
  {length : UInt32}

theorem pulseTime_of_regular (regular : RegularPair pair length) :
    pulseTime pair = length.toNat * pair.size.toNat := by
  obtain ⟨atLeastOne, _⟩ := RegularPair.size_bounds pair
  obtain ⟨_, first, _⟩ := regular.transmit_getElem? atLeastOne
  rw [pulseTime, List.headD_eq_head?_getD, List.head?_eq_getElem?, first,
    Option.getD_some, Nat.mul_comm]

/-- The receive command is not longer than the pulses and restore times. -/
theorem toNat_receiveLen_le (created : CreatedPair pair length) :
    (receiveLen pair).toNat ≤
      8 * (length.toNat * pair.size.toNat) + 5100 := by
  obtain ⟨atLeastOne, atMost⟩ := RegularPair.size_bounds pair
  have regular := RegularPair.of_created created
  have short := created.short
  have product : length.toNat * pair.size.toNat ≤ 240000 * 16 :=
    Nat.mul_le_mul short atMost
  have oneLasts : length.toNat ≤ length.toNat * pair.size.toNat :=
    Nat.le_mul_of_pos_right _ atLeastOne
  have rounded (value : UInt32) :
      (multiplesOf value frequencyFactor).toNat ≤ value.toNat + 99 := by
    rw [toNat_multiplesOf_uint32, toNat_frequencyFactor, roundUp_hundred]
    omega
  unfold receiveLen
  split
  · have first : (pair.receive.getD 0 {}).length = length := by
      have := created.headD_receive
      rwa [List.headD_eq_head?_getD, List.head?_eq_getElem?,
        ← List.getD_eq_getElem?_getD] at this
    have bound := rounded ((pair.receive.getD 0 {}).length + reserveTime)
    rw [first, UInt32.toNat_add, toNat_reserveTime] at bound
    rw [first]
    omega
  · next isTrain =>
      have bound := rounded (periodTime pair * pair.size + reserveTime)
      rw [UInt32.toNat_add, UInt32.toNat_mul, regular.periodTime_eq,
        if_neg isTrain, regular.toNat_period, Nat.mul_assoc,
        toNat_reserveTime] at bound
      rw [regular.periodTime_eq, if_neg isTrain]
      omega

/-- Empty chunks pass every check of a window that ends on the timeline. -/
theorem checkIndex_new
    {time chunks : Nat}
    {pred : TimelineLabel → Bool}
    (accepts : pred .empty = true)
    (onTimeline : time + chunks * 10000 ≤ 999990000) :
    Timeline.new.checkIndex (UInt32.ofNat chunks)
      (Timeline.getIdxFor (UInt32.ofNat time)).toUInt32 pred = true := by
  have timeWord : (UInt32.ofNat time).toNat = time :=
    UInt32.toNat_ofNat_of_lt' (by omega : time < 2 ^ 32)
  have chunksWord : (UInt32.ofNat chunks).toNat = chunks :=
    UInt32.toNat_ofNat_of_lt' (by omega : chunks < 2 ^ 32)
  have first : Timeline.chunkFor time ≤ time / 10000 + 1 := by
    unfold Timeline.chunkFor
    split <;> omega
  rw [Timeline.checkIndex_eq_true_iff, chunksWord,
    Timeline.toNat_getIdxFor_of_le (by omega), timeWord]
  refine ⟨by omega, by omega, ?_⟩
  intro offset inWindow
  exact ⟨by omega, accepts⟩

/-- The first possible chunk of an idle radar has room for a created pair. -/
theorem hasRoomAt_new
    (created : CreatedPair pair length)
    (late : 275000 ≤ pair.receiveTime.toNat)
    (near : pair.receiveTime.toNat ≤ 900000000) :
    PairFitsAt .new pair 27 where
  dcuEmpty _ _ _ := rfl
  phaseRoom := by decide
  auEmpty _ _ _ := rfl
  receive := by
    obtain ⟨_, atMost⟩ := RegularPair.size_bounds pair
    have product : length.toNat * pair.size.toNat ≤ 240000 * 16 :=
      Nat.mul_le_mul created.short atMost
    have receiveBound := toNat_receiveLen_le created
    have offset := toNat_rangeOffsetLen_of_le late
    rw [roundUp_hundred] at offset
    have room : chunksOf phaseDelay ≤ 27 := by decide
    rw [fitsReceive_eq_true_iff (by decide) (by omega) room]
    constructor
    · apply checkIndex_new rfl
      rw [chunksOf, toNat_timeChunkLength]
      omega
    · apply checkIndex_new rfl
      rw [chunksOf, toNat_timeChunkLength, toNat_phaseDelay]
      omega

/-- Short pulses from the first possible chunk end within the depth. -/
theorem inDepth_of_short
    (created : CreatedPair pair length)
    (short : length.toNat * pair.size.toNat ≤ 1838212) :
    27 + (chunkCount (transmitLen pair)).toNat <
      (planningDepth pair).toNat := by
  rw [toNat_chunkCount, chunksOf,
    (RegularPair.of_created created).toNat_transmitLen]
  unfold planningDepth
  split
  · next single =>
      have one : pair.size.toNat = 1 := by
        rw [single]
        rfl
      have pulse := created.short
      have depth : (pulsePlanningDepth * planningStep).toNat = 300 := rfl
      rw [one, depth]
      omega
  · have depth : (pulseTrainPlanningDepth * planningStep).toNat = 1500 := rfl
    rw [depth]
    omega

end Created

/--
A created pair for a target within 0.9 s is scheduled on an idle radar exactly
when its pulses together last no longer than 1 838 212 ns.
-/
theorem placeScan_new_iff
    {code : SignalType}
    {tauNsec : UInt64}
    {rdtNanosec : UInt32}
    (late :
      phaseDelay + reserveTime ≤
        (createScanPair (signalTbl code) tauNsec rdtNanosec).receiveTime)
    (near :
      (createScanPair (signalTbl code) tauNsec rdtNanosec).receiveTime ≤
        900000000)
    (queryId : UInt32) :
    (placeScan .new (createScanPair (signalTbl code) tauNsec rdtNanosec)
        queryId).2.map ControlCommand.type = exchangeTypes ↔
      pulseTime (createScanPair (signalTbl code) tauNsec rdtNanosec) ≤
        1838212 := by
  have lateNat := UInt32.le_iff_toNat_le.mp late
  have nearNat := UInt32.le_iff_toNat_le.mp near
  rcases CreatedPair.of_createScanPair code tauNsec rdtNanosec with
    isDefault | created
  · rw [isDefault] at lateNat
    exact absurd lateNat (by decide)
  generalize createScanPair (signalTbl code) tauNsec rdtNanosec = pair at *
  have regular := RegularPair.of_created created
  rw [pulseTime_of_regular regular]
  have depth := toNat_planningDepth_le pair
  have transmitBound := regular.toNat_transmitLen
  constructor
  · intro placed
    rcases placeScan_cases .new pair queryId with
      isNop | ⟨idx, found, _, _⟩
    · rw [isNop] at placed
      exact absurd placed (by decide)
    · obtain ⟨inDepth, _, _⟩ := findIndex_eq_some_iff.mp found
      have phaseRoom := (bounds_of_placementIndex found).1
      rw [toNat_chunkCount, chunksOf, transmitBound] at inDepth
      omega
  · intro short
    cases found : placementIndex .new pair with
    | none =>
        have room := hasRoomAt_new created lateNat nearNat
        exact
          absurd room
            (findIndex_eq_none_iff.mp found 27
              (inDepth_of_short created short))
    | some idx =>
        rw [placeScan_of_late queryId found lateNat]
        rfl

/-- The far scan has a short pulse, and is scheduled. -/
theorem placeScan_new_iff_farScan :
    (placeScan .new farScan 1).2.map ControlCommand.type = exchangeTypes :=
  (@placeScan_new_iff .SOTS10 15000 7191281 (by decide) (by decide) 1).mpr
    (by decide)

/-- Five pulses of 240 us for a target 3000 km away, rounded up to eight. -/
def longTrain : ScanPair :=
  createScanPair (signalTbl (getSignalCode 1200000 .search)) 1200000 20013846

/-- The train is valid and accepted, and never scheduled on an idle radar. -/
theorem longTrain_not_scheduled :
    longTrain.size = 8 ∧ longTrain.receiveTime = 20013900 ∧
      (placeScan .new longTrain 1).2 = [{}] := by
  decide +kernel

end Radar.Scheduler
