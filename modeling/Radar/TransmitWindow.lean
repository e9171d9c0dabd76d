import Radar.CreatedPairs
import Radar.SchedulerWindows

namespace Radar

/-!
# The transmission of a built scan pair

Every pair that `create_scan_pair` returns has equal pulses at regular
distances, and the distances are such that no boundary of a pulse falls on a
chunk boundary.  The chunks that a placement labels for its transmission are
therefore an interval without gaps.
-/

open Settings

/-- Equal pulses, each followed by its own restore time. -/
structure RegularPair (pair : ScanPair) (length : UInt32) : Prop where
  short : length.toNat ≤ 240000
  offBoundary : length.toNat % 500 = 0
  transmit :
    pair.transmit =
      ScanPair.pulses pair.size length (length * dutyFactor)

namespace RegularPair

/-- The default pair has one pulse of no length. -/
theorem of_default : RegularPair .default 0 where
  short := by decide
  offBoundary := by decide
  transmit := rfl

theorem of_created
    {pair : ScanPair}
    {length : UInt32}
    (created : CreatedPair pair length) :
    RegularPair pair length where
  short := created.short
  offBoundary := created.offBoundary
  transmit := created.transmit

/-- Every pair that is created is regular. -/
theorem of_createScanPair
    (code : SignalType)
    (tauNsec : UInt64)
    (rdtNanosec : UInt32) :
    ∃ length,
      RegularPair (createScanPair (signalTbl code) tauNsec rdtNanosec)
        length := by
  rcases CreatedPair.of_createScanPair code tauNsec rdtNanosec with
    isDefault | created
  · rw [isDefault]
    exact ⟨0, of_default⟩
  · exact ⟨_, of_created created⟩

/-- Every pair that is built is regular. -/
theorem of_buildScanPair
    (equation : RadarEquation)
    (range rcs : Rat)
    (type : QueryType) :
    ∃ length,
      RegularPair (buildScanPair equation range rcs type) length :=
  of_createScanPair ..

variable {pair : ScanPair} {length : UInt32}

theorem size_bounds (pair : ScanPair) :
    1 ≤ pair.size.toNat ∧ pair.size.toNat ≤ 16 := by
  obtain ⟨exponent, small, power⟩ := pair.sizePower
  rw [power]
  interval_cases exponent <;> decide

/-- The pulse of an index. -/
theorem transmit_getElem?
    (regular : RegularPair pair length)
    {pulseIdx : Nat}
    (inTrain : pulseIdx < pair.size.toNat) :
    ∃ offsetTime,
      pair.transmit[pulseIdx]? = some ⟨offsetTime, length⟩ ∧
        (pulseIdx = 1 → offsetTime = length * dutyFactor) := by
  rw [regular.transmit, ScanPair.pulses, List.getElem?_map,
    List.getElem?_range inTrain]
  refine ⟨_, rfl, ?_⟩
  intro second
  simp [second]

theorem toNat_period
    (regular : RegularPair pair length) :
    (length * dutyFactor).toNat = 8 * length.toNat := by
  have short := regular.short
  rw [UInt32.toNat_mul, toNat_dutyFactor]
  omega

/-- The period of a train; a single pulse has none. -/
theorem periodTime_eq
    (regular : RegularPair pair length) :
    Scheduler.periodTime pair =
      if pair.size = 1 then 0 else length * dutyFactor := by
  rw [Scheduler.periodTime]
  split
  · rfl
  · next isTrain =>
      have two : 1 < pair.size.toNat := by
        have bounds := size_bounds pair
        have notOne : pair.size.toNat ≠ 1 := fun one =>
          isTrain (UInt32.toNat_inj.mp one)
        omega
      obtain ⟨offsetTime, found, second⟩ := regular.transmit_getElem? two
      rw [List.getD_eq_getElem?_getD, found, Option.getD_some]
      exact second rfl

/-- Length of the transmit command: all pulses, their restore times, delays. -/
theorem toNat_transmitLen
    (regular : RegularPair pair length) :
    (Scheduler.transmitLen pair).toNat =
      8 * (length.toNat * pair.size.toNat) + 14300 := by
  obtain ⟨atLeastOne, atMost⟩ := size_bounds pair
  have short := regular.short
  have offBoundary := regular.offBoundary
  have product : length.toNat * pair.size.toNat ≤ 240000 * 16 :=
    Nat.mul_le_mul short atMost
  have hundred :
      (8 * (length.toNat * pair.size.toNat) + 14300) % 100 = 0 := by
    have : length.toNat * pair.size.toNat % 500 = 0 := by
      rw [Nat.mul_mod, offBoundary, Nat.zero_mul, Nat.zero_mod]
    omega
  unfold Scheduler.transmitLen
  split
  · next single =>
      obtain ⟨offsetTime, found, _⟩ :=
        regular.transmit_getElem? (Nat.lt_of_lt_of_le Nat.zero_lt_one
          atLeastOne)
      have total :
          (length * dutyFactor + 2 * frequencyDelay + blankDelay +
              reserveTime).toNat =
            8 * (length.toNat * pair.size.toNat) + 14300 := by
        rw [UInt32.toNat_add, UInt32.toNat_add, UInt32.toNat_add,
          regular.toNat_period, single]
        change _ = 8 * (length.toNat * 1) + 14300
        have delays : (2 * frequencyDelay).toNat = 6200 := rfl
        rw [delays, toNat_blankDelay, toNat_reserveTime]
        omega
      rw [List.getD_eq_getElem?_getD, found, Option.getD_some]
      rw [multiplesOf_of_mod (by rw [total]; exact hundred), total]
  · next train =>
      have total :
          (Scheduler.periodTime pair * pair.size + blankDelay +
              2 * frequencyDelay + reserveTime).toNat =
            8 * (length.toNat * pair.size.toNat) + 14300 := by
        rw [regular.periodTime_eq, if_neg train, UInt32.toNat_add,
          UInt32.toNat_add, UInt32.toNat_add, UInt32.toNat_mul,
          regular.toNat_period, Nat.mul_assoc]
        have delays : (2 * frequencyDelay).toNat = 6200 := rfl
        rw [delays, toNat_blankDelay, toNat_reserveTime]
        omega
      rw [multiplesOf_of_mod (by rw [total]; exact hundred), total]

end RegularPair

/-- The receive intervals last as long as the pulses. -/
theorem CreatedPair.headD_receive
    {pair : ScanPair}
    {length : UInt32}
    (created : CreatedPair pair length) :
    (pair.receive.headD {}).length = length := by
  obtain ⟨atLeastOne, _⟩ := RegularPair.size_bounds pair
  obtain ⟨rest, size⟩ := Nat.exists_eq_succ_of_ne_zero
    (Nat.one_le_iff_ne_zero.mp atLeastOne)
  rw [created.receive, ScanPair.pulses, size, List.range_succ_eq_map]
  rfl

/-! ## The chunks labelled for the transmission -/

namespace Scheduler

variable
  {pair : ScanPair}
  {length idx : UInt32}

/-- Within the horizon, a time off the chunk boundaries lies in its chunk. -/
theorem toNat_getIdxFor_of_mod_ne
    {time : UInt32}
    {value : Nat}
    (isValue : time.toNat = value)
    (inHorizon : value ≤ 1000000000)
    (offBoundary : value % 10000 ≠ 0) :
    (Timeline.getIdxFor time).toUInt32.toNat = value / 10000 := by
  subst isValue
  rw [Timeline.toNat_getIdxFor_of_le inHorizon, Timeline.chunkFor,
    if_neg offBoundary]

/-- Offset of one pulse from the first one. -/
theorem toNat_pulseOffset
    (regular : RegularPair pair length)
    {pulseIdx : Nat}
    (inTrain : pulseIdx < pair.size.toNat) :
    (UInt32.ofNat pulseIdx * periodTime pair).toNat =
      8 * (length.toNat * pulseIdx) := by
  obtain ⟨_, atMost⟩ := RegularPair.size_bounds pair
  have short := regular.short
  have product : length.toNat * pulseIdx ≤ 240000 * 16 :=
    Nat.mul_le_mul short (by omega)
  have smallIdx : (UInt32.ofNat pulseIdx).toNat = pulseIdx :=
    UInt32.toNat_ofNat_of_lt'
      (Nat.lt_of_lt_of_le (by omega : pulseIdx < 16) (by decide))
  rw [UInt32.toNat_mul, smallIdx, regular.periodTime_eq]
  split
  · next single =>
      have one : pair.size.toNat = 1 := by
        rw [single]
        rfl
      have zero : pulseIdx = 0 := by omega
      rw [zero]
      rfl
  · rw [regular.toNat_period, Nat.mul_comm pulseIdx, Nat.mul_assoc]
    omega

/-- Times of one pulse relative to the first chunk. -/
theorem toNat_pulse
    (regular : RegularPair pair length)
    (shallow : idx.toNat < 1500)
    {pulseIdx : Nat}
    (inTrain : pulseIdx < pair.size.toNat) :
    (idx * timeChunkLength + blankDelay + reserveTime + frequencyDelay +
        UInt32.ofNat pulseIdx * periodTime pair).toNat =
      idx.toNat * 10000 + 11200 + 8 * (length.toNat * pulseIdx) := by
  obtain ⟨_, atMost⟩ := RegularPair.size_bounds pair
  have product : length.toNat * pulseIdx ≤ 240000 * 16 :=
    Nat.mul_le_mul regular.short (by omega)
  rw [UInt32.toNat_add, UInt32.toNat_add, UInt32.toNat_add,
    UInt32.toNat_add, toNat_idx_mul shallow,
    toNat_pulseOffset regular inTrain, toNat_blankDelay,
    toNat_reserveTime, toNat_frequencyDelay]
  omega

/-- The sectors of one pulse and of its restore time, as chunk indices. -/
theorem pulseCalls_indices
    (regular : RegularPair pair length)
    (shallow : idx.toNat < 1500)
    {pulseIdx : Nat}
    (inTrain : pulseIdx < pair.size.toNat)
    (offsetTime : UInt32) :
    ∃ transmit restore,
      pulseCalls (idx * timeChunkLength) (periodTime pair)
          ⟨offsetTime, length⟩ pulseIdx = [transmit, restore] ∧
        transmit.startIdx.toNat =
          (idx.toNat * 10000 + 11200 + 8 * (length.toNat * pulseIdx)) /
            10000 ∧
        transmit.stopIdx.toNat =
          (idx.toNat * 10000 + 14300 + 8 * (length.toNat * pulseIdx) +
            length.toNat) / 10000 ∧
        restore.startIdx.toNat = transmit.stopIdx.toNat ∧
        restore.stopIdx.toNat =
          (idx.toNat * 10000 + 14300 +
            8 * (length.toNat * (pulseIdx + 1))) / 10000 := by
  obtain ⟨_, atMost⟩ := RegularPair.size_bounds pair
  have short := regular.short
  have offBoundary := regular.offBoundary
  have product : length.toNat * pulseIdx ≤ 240000 * 16 :=
    Nat.mul_le_mul short (by omega)
  have productMod : length.toNat * pulseIdx % 500 = 0 := by
    rw [Nat.mul_mod, offBoundary, Nat.zero_mul, Nat.zero_mod]
  have nextProduct :
      length.toNat * (pulseIdx + 1) =
        length.toNat * pulseIdx + length.toNat := by
    rw [Nat.mul_add, Nat.mul_one]
  have start := toNat_pulse regular shallow inTrain
  rw [nextProduct]
  generalize length.toNat * pulseIdx = before at *
  have stop :
      (idx * timeChunkLength + blankDelay + reserveTime + frequencyDelay +
          UInt32.ofNat pulseIdx * periodTime pair + length +
          blankDelay).toNat =
        idx.toNat * 10000 + 14300 + 8 * before + length.toNat := by
    rw [UInt32.toNat_add, UInt32.toNat_add, start, toNat_blankDelay]
    omega
  have finish :
      (idx * timeChunkLength + blankDelay + reserveTime + frequencyDelay +
          UInt32.ofNat pulseIdx * periodTime pair + length + blankDelay +
          (dutyFactor - 1) * length).toNat =
        idx.toNat * 10000 + 14300 + 8 * (before + length.toNat) := by
    have seven : (dutyFactor - 1).toNat = 7 := rfl
    rw [UInt32.toNat_add, stop, UInt32.toNat_mul, seven]
    omega
  have startIdx := toNat_getIdxFor_of_mod_ne start (by omega) (by omega)
  have stopIdx := toNat_getIdxFor_of_mod_ne stop (by omega) (by omega)
  have finishIdx :=
    toNat_getIdxFor_of_mod_ne finish (by omega) (by omega)
  refine ⟨_, _, rfl, ?_, ?_, ?_, ?_⟩
  · rw [LabelCall.startIdx_between]
    exact startIdx
  · rw [LabelCall.stopIdx_between]
    exact stopIdx
  · rw [LabelCall.startIdx_between, LabelCall.stopIdx_between]
  · rw [LabelCall.stopIdx_between]
    exact finishIdx

/-- Every pulse of the train adds its sectors. -/
theorem mem_transmitCalls_of_mem_pulseCalls
    {pulse : PulseDesc}
    {pulseIdx : Nat}
    (found : pair.transmit[pulseIdx]? = some pulse)
    {call : LabelCall}
    (member :
      call ∈
        pulseCalls (idx * timeChunkLength) (periodTime pair) pulse
          pulseIdx) :
    call ∈ transmitCalls pair idx := by
  apply List.mem_cons_of_mem
  rw [List.mem_flatMap]
  refine ⟨(pulse, pulseIdx), List.mem_zipIdx_iff_getElem?.mpr found, ?_⟩
  rw [UInt32.sub_add_cancel]
  exact member

/-- The labels of one pulse reach from its start to the end of its restore. -/
theorem writes_pulse
    (regular : RegularPair pair length)
    (shallow : idx.toNat < 1500)
    {pulseIdx : Nat}
    (inTrain : pulseIdx < pair.size.toNat)
    {chunk : Nat}
    (lower :
      (idx.toNat * 10000 + 11200 + 8 * (length.toNat * pulseIdx)) / 10000 ≤
        chunk)
    (upper :
      chunk ≤
        (idx.toNat * 10000 + 14300 +
          8 * (length.toNat * (pulseIdx + 1))) / 10000) :
    ∃ call ∈ transmitCalls pair idx, call.Writes chunk := by
  obtain ⟨offsetTime, found, _⟩ := regular.transmit_getElem? inTrain
  obtain ⟨transmit, restore, shape, transmitStart, _, restoreStart,
      restoreStop⟩ :=
    pulseCalls_indices regular shallow inTrain offsetTime
  have inCalls :
      ∀ call ∈ [transmit, restore], call ∈ transmitCalls pair idx := by
    intro call member
    rw [← shape] at member
    exact mem_transmitCalls_of_mem_pulseCalls found member
  by_cases transmitting : chunk ≤ transmit.stopIdx.toNat
  · exact ⟨transmit, inCalls _ List.mem_cons_self, chunk,
      Nat.le_trans (Nat.le_of_eq transmitStart) lower, transmitting, rfl⟩
  · exact ⟨restore,
      inCalls _ (List.mem_cons_of_mem _ List.mem_cons_self), chunk,
      Nat.le_trans (Nat.le_of_eq restoreStart)
        (Nat.le_of_not_le transmitting),
      Nat.le_trans upper (Nat.le_of_eq restoreStop.symm), rfl⟩

/-- The leading blank labels the chunk after the index, whatever the pair. -/
theorem transmitCalls_lead
    (pair : ScanPair)
    (shallow : idx.toNat < 1500) :
    ∃ lead,
      transmitCalls pair idx =
        lead ::
          pair.transmit.zipIdx.flatMap (fun (pulse, pulseIdx) =>
            pulseCalls (idx * timeChunkLength) (periodTime pair) pulse
              pulseIdx) ∧
        lead.startIdx.toNat = idx.toNat + 1 ∧
        lead.stopIdx.toNat = idx.toNat + 1 := by
  have start := toNat_idx_mul shallow
  have stop :
      (idx * timeChunkLength + blankDelay + frequencyDelay +
        reserveTime).toNat = idx.toNat * 10000 + 11200 := by
    rw [UInt32.toNat_add, UInt32.toNat_add, UInt32.toNat_add, start,
      toNat_blankDelay, toNat_frequencyDelay, toNat_reserveTime]
    omega
  refine
    ⟨.between .dcu (idx * timeChunkLength)
      (idx * timeChunkLength + blankDelay + frequencyDelay + reserveTime)
      .dcuTransmit, ?_, ?_, ?_⟩
  · rw [transmitCalls, UInt32.sub_add_cancel]
  · rw [LabelCall.startIdx_between,
      Timeline.toNat_getIdxFor_of_le (by omega), Timeline.chunkFor, start,
      if_pos (by omega)]
    omega
  · rw [LabelCall.stopIdx_between,
      toNat_getIdxFor_of_mod_ne stop (by omega) (by omega)]
    omega

/-- The lead reaches as far as the restore time that it includes. -/
private theorem le_lead
    {idx chunk : Nat}
    (inLead : chunk ≤ (idx * 10000 + 14300) / 10000) :
    chunk ≤ (idx * 10000 + 11200) / 10000 := by
  have nextChunk : chunk ≤ idx + 1 := by
    omega
  clear inLead
  omega

/-- Every chunk of the interval lies in the lead or in some pulse. -/
private theorem exists_pulse
    (startTime length : Nat)
    {chunk : Nat}
    (count : Nat)
    (upper : chunk ≤ (startTime + 14300 + 8 * (length * count)) / 10000) :
    chunk ≤ (startTime + 14300) / 10000 ∨
      ∃ pulseIdx, pulseIdx < count ∧
        (startTime + 11200 + 8 * (length * pulseIdx)) / 10000 ≤ chunk ∧
        chunk ≤
          (startTime + 14300 + 8 * (length * (pulseIdx + 1))) / 10000 := by
  induction count with
  | zero =>
      left
      simpa using upper
  | succ count inductionHypothesis =>
      by_cases earlier :
          chunk ≤ (startTime + 14300 + 8 * (length * count)) / 10000
      · rcases inductionHypothesis earlier with
          inLead | ⟨pulseIdx, bound, inPulse⟩
        · exact .inl inLead
        · exact .inr ⟨pulseIdx, by omega, inPulse⟩
      · exact .inr ⟨count, Nat.lt_succ_self count, by omega, upper⟩

/--
A placement labels every chunk from the one after `idx` to the last one that
its transmission reaches.
-/
theorem writes_transmitCalls
    (regular : RegularPair pair length)
    (shallow : idx.toNat < 1500)
    {chunk : Nat}
    (lower : idx.toNat < chunk)
    (upper :
      chunk ≤ idx.toNat + (transmitLen pair).toNat / 10000) :
    ∃ call ∈ transmitCalls pair idx, call.Writes chunk := by
  rw [regular.toNat_transmitLen] at upper
  have inInterval :
      chunk ≤
        (idx.toNat * 10000 + 14300 +
          8 * (length.toNat * pair.size.toNat)) / 10000 := by
    omega
  rcases exists_pulse (idx.toNat * 10000) length.toNat pair.size.toNat
      inInterval with
    inLead | ⟨pulseIdx, inTrain, start, finish⟩
  · obtain ⟨lead, shape, leadStart, leadStop⟩ :=
      transmitCalls_lead pair shallow
    have last := le_lead inLead
    rw [shape]
    exact ⟨lead, List.mem_cons_self, chunk, by omega, by omega, rfl⟩
  · exact writes_pulse regular shallow inTrain start finish

end Scheduler

end Radar
