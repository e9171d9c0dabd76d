import Radar.LeastPlace
import Radar.PlacementReservations
import Radar.TransmitWindow

namespace Radar.Scheduler

/-!
# The transmission stays in the chunks that the search has found empty

`transmit_len` is one formula, while the sectors are painted pulse by pulse.
For every pair that is created the sectors end in the chunk in which
`transmit_len` ends, so none of them leaves the chunks that were checked.
-/

open Settings

section Reach

variable
  {pair : ScanPair}
  {length idx : UInt32}

/-- A sector of the transmission is the lead or belongs to some pulse. -/
theorem mem_transmitCalls_cases
    (regular : RegularPair pair length)
    (shallow : idx.toNat < 1500)
    {call : LabelCall}
    (member : call ∈ transmitCalls pair idx) :
    (call.startIdx.toNat = idx.toNat + 1 ∧
        call.stopIdx.toNat = idx.toNat + 1) ∨
      ∃ pulseIdx offsetTime, pulseIdx < pair.size.toNat ∧
        call ∈
          pulseCalls (idx * timeChunkLength) (periodTime pair)
            ⟨offsetTime, length⟩ pulseIdx := by
  obtain ⟨lead, shape, leadStart, leadStop⟩ :=
    transmitCalls_lead pair shallow
  rw [shape] at member
  rcases List.mem_cons.mp member with rfl | inPulses
  · exact .inl ⟨leadStart, leadStop⟩
  · obtain ⟨⟨pulse, pulseIdx⟩, inTrain, ofPulse⟩ :=
      List.mem_flatMap.mp inPulses
    have found := List.mem_zipIdx_iff_getElem?.mp inTrain
    have small : pulseIdx < pair.size.toNat := by
      rw [← pair.transmitLength]
      exact (List.getElem?_eq_some_iff.mp found).1
    obtain ⟨offsetTime, regularPulse, _⟩ := regular.transmit_getElem? small
    have same : pulse = ⟨offsetTime, length⟩ :=
      Option.some.inj (found.symm.trans regularPulse)
    exact .inr ⟨pulseIdx, offsetTime, small, same ▸ ofPulse⟩

/-- Every sector starts after the found chunk and ends with the command. -/
theorem transmitCalls_bounds
    (regular : RegularPair pair length)
    (shallow : idx.toNat < 1500)
    {call : LabelCall}
    (member : call ∈ transmitCalls pair idx) :
    idx.toNat < call.startIdx.toNat ∧
      call.stopIdx.toNat ≤
        idx.toNat + (transmitLen pair).toNat / 10000 := by
  rw [regular.toNat_transmitLen]
  rcases mem_transmitCalls_cases regular shallow member with
    ⟨leadStart, leadStop⟩ | ⟨pulseIdx, offsetTime, inTrain, ofPulse⟩
  · omega
  · obtain ⟨transmit, restore, shape, transmitStart, transmitStop,
        restoreStart, restoreStop⟩ :=
      pulseCalls_indices regular shallow inTrain offsetTime
    have lastPulse :
        length.toNat * (pulseIdx + 1) ≤ length.toNat * pair.size.toNat :=
      Nat.mul_le_mul_left _ inTrain
    have nextProduct :
        length.toNat * (pulseIdx + 1) =
          length.toNat * pulseIdx + length.toNat := by
      rw [Nat.mul_add, Nat.mul_one]
    rw [shape] at ofPulse
    simp only [List.mem_cons, List.not_mem_nil, or_false] at ofPulse
    rcases ofPulse with rfl | rfl
    · omega
    · omega

end Reach

/-- Only the sectors of the transmission carry its labels. -/
theorem mem_transmitCalls_of_label
    {pair : ScanPair}
    {idx : UInt32}
    {call : LabelCall}
    (member : call ∈ labelCalls pair idx)
    (transmits :
      call.label = .dcuTransmit ∨ call.label = .dcuEnergyRestore) :
    call ∈ transmitCalls pair idx := by
  rcases mem_labelCalls_iff.mp member with
    onTrAu | onDcu | onRsAu | receiving
  · rcases (target_of_mem_trAuCalls onTrAu).2 with label | label <;>
      simp [label] at transmits
  · exact onDcu
  · rcases (target_of_mem_rsAuCalls onRsAu).2 with label | label <;>
      simp [label] at transmits
  · simp [(target_of_mem_receiveCalls receiving).2] at transmits

/--
A transmission and its restore times label only chunks of the converter that
the search has found empty.
-/
theorem transmission_overwrites_nothing
    {lines : Timelines}
    {code : SignalType}
    {tauNsec : UInt64}
    {rdtNanosec idx : UInt32}
    (found :
      placementIndex lines
        (createScanPair (signalTbl code) tauNsec rdtNanosec) = some idx)
    {call : LabelCall}
    (member :
      call ∈
        labelCalls (createScanPair (signalTbl code) tauNsec rdtNanosec) idx)
    (transmits :
      call.label = .dcuTransmit ∨ call.label = .dcuEnergyRestore)
    {chunk : Nat}
    (inRing : chunk < timelineDepth.toNat)
    (writes : call.Writes chunk) :
    call.target = .dcu ∧
      idx.toNat ≤ chunk ∧
      chunk ≤
        idx.toNat +
          chunksOf
            (transmitLen
              (createScanPair (signalTbl code) tauNsec rdtNanosec)) ∧
      lines.dcu.getValueAt chunk = .empty := by
  obtain ⟨length, regular⟩ :=
    RegularPair.of_createScanPair code tauNsec rdtNanosec
  generalize createScanPair (signalTbl code) tauNsec rdtNanosec = pair at *
  have shallow := (bounds_of_placementIndex found).2
  obtain ⟨inDepth, hasRoom, _⟩ := findIndex_eq_some_iff.mp found
  have ofTransmission := mem_transmitCalls_of_label member transmits
  obtain ⟨lower, upper⟩ :=
    transmitCalls_bounds regular shallow ofTransmission
  obtain ⟨named, fromStart, toStop, same⟩ := writes
  have depthBound := toNat_planningDepth_le pair
  have chunks : (transmitLen pair).toNat / 10000 ≤
      chunksOf (transmitLen pair) := by
    unfold chunksOf
    omega
  have isNamed : chunk = named := by
    rw [toNat_chunkCount] at inDepth
    rw [toNat_timelineDepth] at inRing
    omega
  subst isNamed
  refine ⟨(target_of_mem_transmitCalls ofTransmission).1,
    by omega, by omega, ?_⟩
  apply hasRoom.dcuEmpty chunk (by omega)
  rw [toNat_chunkCount]
  omega

/-- The near scan transmits in chunk 80, which the far scan has left empty. -/
theorem transmission_overwrites_nothing_nearScan :
    (placeScan .new farScan 1).1.dcu.getValueAt 80 = .empty :=
  (@transmission_overwrites_nothing (placeScan .new farScan 1).1 .SOTS10
    15000 6671282 79 (by decide +kernel) ⟨.dcu, 80, 80, .dcuTransmit⟩
    (by decide +kernel) (by decide) 80 (by decide)
    ⟨80, by decide, by decide, rfl⟩).2.2.2

end Radar.Scheduler
