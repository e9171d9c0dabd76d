import Radar.SchedulerSearch

namespace Radar

/-!
# Sectors labelled by a placement

Which chunks the calls of a placement write, and what the three timelines
hold afterwards.  The indices are computed with the 32-bit arithmetic of the
source; inside the planning depth that arithmetic does not wrap on the
transmitting antenna.
-/

open Settings

namespace LabelCall

/-- A call writes a chunk when one of its indices names the chunk's slot. -/
def Writes (call : LabelCall) (chunk : Nat) : Prop :=
  ∃ idx, call.startIdx.toNat ≤ idx ∧ idx ≤ call.stopIdx.toNat ∧
    chunk % 100000 = idx % 100000

/-- Perform the label of one call on the timeline it targets. -/
def labelOn (line : Timeline) (call : LabelCall) : Timeline :=
  line.labelSector call.startIdx call.stopIdx call.label

theorem getValueAt_labelOn_of_writes
    {line : Timeline}
    {call : LabelCall}
    {chunk : Nat}
    (writes : call.Writes chunk) :
    (call.labelOn line).getValueAt chunk = call.label := by
  obtain ⟨idx, lower, upper, same⟩ := writes
  exact Timeline.getValueAt_labelSector_of_mem lower upper same

theorem getValueAt_labelOn_of_not_writes
    {line : Timeline}
    {call : LabelCall}
    {chunk : Nat}
    (untouched : ¬ call.Writes chunk) :
    (call.labelOn line).getValueAt chunk = line.getValueAt chunk := by
  apply Timeline.getValueAt_labelSector_of_not_mem
  intro idx lower upper same
  exact untouched ⟨idx, lower, upper, same⟩

end LabelCall

namespace Timelines

/-- A call changes its target only. -/
theorem get_perform
    (lines : Timelines)
    (call : LabelCall)
    (name : TimelineName) :
    (call.perform lines).get name =
      if call.target = name then
        call.labelOn (lines.get name)
      else
        lines.get name := by
  rcases call with ⟨target, startIdx, stopIdx, label⟩
  cases target <;> cases name <;> rfl

/-- Each timeline sees the calls that target it, in order. -/
theorem get_performAll
    (lines : Timelines)
    (calls : List LabelCall)
    (name : TimelineName) :
    (lines.performAll calls).get name =
      (calls.filter (fun call => call.target = name)).foldl
        (fun line call => call.labelOn line) (lines.get name) := by
  induction calls generalizing lines with
  | nil =>
      rfl
  | cons call rest inductionHypothesis =>
      change ((call.perform lines).performAll rest).get name = _
      rw [inductionHypothesis, get_perform]
      by_cases targeted : call.target = name
      · simp [targeted]
      · simp [targeted]

/-- A timeline that no call targets stays as it is. -/
theorem get_performAll_of_untargeted
    {lines : Timelines}
    {calls : List LabelCall}
    {name : TimelineName}
    (untargeted : ∀ call ∈ calls, call.target ≠ name) :
    (lines.performAll calls).get name = lines.get name := by
  rw [get_performAll, List.filter_eq_nil_iff.mpr]
  · rfl
  · intro call member
    simpa using untargeted call member

theorem performAll_append
    (lines : Timelines)
    (first second : List LabelCall) :
    lines.performAll (first ++ second) =
      (lines.performAll first).performAll second :=
  List.foldl_append

@[simp] theorem startTime_foldl_labelOn
    (line : Timeline)
    (calls : List LabelCall) :
    (calls.foldl (fun line call => call.labelOn line) line).startTime =
      line.startTime := by
  induction calls generalizing line with
  | nil =>
      rfl
  | cons call rest inductionHypothesis =>
      rw [List.foldl_cons, inductionHypothesis]
      exact Timeline.startTime_labelSector ..

/-- Labelling never moves a timeline. -/
@[simp] theorem startTime_get_performAll
    (lines : Timelines)
    (calls : List LabelCall)
    (name : TimelineName) :
    ((lines.performAll calls).get name).startTime =
      (lines.get name).startTime := by
  rw [get_performAll, startTime_foldl_labelOn]

end Timelines

namespace Scheduler

/-! ## Targets and labels of the calls -/

theorem target_of_mem_trAuCalls
    {idx : UInt32}
    {call : LabelCall}
    (member : call ∈ trAuCalls idx) :
    call.target = .trAu ∧
      (call.label = .auRephase ∨ call.label = .auCommandDelay) := by
  simp only [trAuCalls, List.mem_cons, List.not_mem_nil, or_false] at member
  rcases member with rfl | rfl
  · exact ⟨rfl, .inl rfl⟩
  · exact ⟨rfl, .inr rfl⟩

theorem target_of_mem_rsAuCalls
    {pair : ScanPair}
    {idx : UInt32}
    {call : LabelCall}
    (member : call ∈ rsAuCalls pair idx) :
    call.target = .rsAu ∧
      (call.label = .auRephase ∨ call.label = .auCommandDelay) := by
  simp only [rsAuCalls, List.mem_cons, List.not_mem_nil, or_false] at member
  rcases member with rfl | rfl
  · exact ⟨rfl, .inl rfl⟩
  · exact ⟨rfl, .inr rfl⟩

theorem target_of_mem_transmitCalls
    {pair : ScanPair}
    {idx : UInt32}
    {call : LabelCall}
    (member : call ∈ transmitCalls pair idx) :
    call.target = .dcu ∧
      (call.label = .dcuTransmit ∨ call.label = .dcuEnergyRestore) := by
  simp only [transmitCalls, List.mem_cons, List.mem_flatMap, pulseCalls,
    List.not_mem_nil, or_false] at member
  rcases member with rfl | ⟨_, _, rfl | rfl⟩
  · exact ⟨rfl, .inl rfl⟩
  · exact ⟨rfl, .inl rfl⟩
  · exact ⟨rfl, .inr rfl⟩

theorem target_of_mem_receiveCalls
    {pair : ScanPair}
    {idx : UInt32}
    {call : LabelCall}
    (member : call ∈ receiveCalls pair idx) :
    call.target = .dcu ∧ call.label = .dcuReceive := by
  simp only [receiveCalls, List.mem_cons, List.mem_map] at member
  rcases member with rfl | ⟨_, _, rfl⟩
  · exact ⟨rfl, rfl⟩
  · exact ⟨rfl, rfl⟩

/-- Every call of a placement belongs to one of its four groups. -/
theorem mem_labelCalls_iff
    {pair : ScanPair}
    {idx : UInt32}
    {call : LabelCall} :
    call ∈ labelCalls pair idx ↔
      call ∈ trAuCalls idx ∨ call ∈ transmitCalls pair idx ∨
        call ∈ rsAuCalls pair idx ∨ call ∈ receiveCalls pair idx := by
  simp only [labelCalls, List.mem_append, or_assoc]

/-! ## Indices on the transmitting antenna -/

/-- No scan is planned more than 15 ms ahead. -/
theorem toNat_planningDepth_le (pair : ScanPair) :
    (planningDepth pair).toNat ≤ 1500 := by
  unfold planningDepth
  split <;> decide

/-- Everything a placement index is known to satisfy. -/
theorem bounds_of_placementIndex
    {lines : Timelines}
    {pair : ScanPair}
    {idx : UInt32}
    (found : placementIndex lines pair = some idx) :
    27 ≤ idx.toNat ∧ idx.toNat < 1500 := by
  obtain ⟨inDepth, fits, _⟩ := findIndex_eq_some_iff.mp found
  have depthBound := toNat_planningDepth_le pair
  have phaseRoom : 27 ≤ idx.toNat := fits.phaseRoom
  exact ⟨phaseRoom, by omega⟩

/-- Relative start time of the transmission that begins at a chunk. -/
theorem toNat_idx_mul
    {idx : UInt32}
    (shallow : idx.toNat < 1500) :
    (idx * timeChunkLength).toNat = idx.toNat * 10000 := by
  rw [UInt32.toNat_mul, toNat_timeChunkLength]
  omega

private theorem toNat_rephaseStartRel
    {idx : UInt32}
    (phaseRoom : 27 ≤ idx.toNat)
    (shallow : idx.toNat < 1500) :
    (idx * timeChunkLength - phaseDelay).toNat =
      (idx.toNat - 27) * 10000 := by
  rw [UInt32.toNat_sub, toNat_idx_mul shallow, toNat_phaseDelay]
  omega

private theorem toNat_nocommandStopRel
    {idx : UInt32}
    (shallow : idx.toNat < 1500) :
    (idx * timeChunkLength + (auCommandDelay - phaseDelay)).toNat =
      (idx.toNat + 23) * 10000 := by
  rw [UInt32.toNat_add, toNat_idx_mul shallow]
  have : (auCommandDelay - phaseDelay).toNat = 230000 := rfl
  omega

private theorem toNat_getIdxFor_chunk
    {time : UInt32}
    {chunk : Nat}
    (boundary : time.toNat = chunk * 10000)
    (inHorizon : chunk ≤ 100000) :
    (Timeline.getIdxFor time).toUInt32.toNat = chunk + 1 := by
  rw [Timeline.toNat_getIdxFor_of_le (by omega), Timeline.chunkFor,
    boundary]
  rw [if_pos (by omega)]
  omega

private theorem rephaseStopRel_eq (idx : UInt32) :
    idx * timeChunkLength - phaseDelay + phaseDelay =
      idx * timeChunkLength :=
  UInt32.sub_add_cancel ..

theorem trAuCalls_eq (idx : UInt32) :
    trAuCalls idx =
      [.between .trAu (idx * timeChunkLength - phaseDelay)
          (idx * timeChunkLength) .auRephase,
        .between .trAu (idx * timeChunkLength)
          (idx * timeChunkLength + (auCommandDelay - phaseDelay))
          .auCommandDelay] := by
  simp only [trAuCalls, rephaseStopRel_eq]

/-- The two sectors on the transmitting antenna, as chunk indices. -/
theorem trAuCalls_indices
    {idx : UInt32}
    (phaseRoom : 27 ≤ idx.toNat)
    (shallow : idx.toNat < 1500) :
    ∃ rephase commandDelay,
      trAuCalls idx = [rephase, commandDelay] ∧
        rephase.startIdx.toNat = idx.toNat - 26 ∧
        rephase.stopIdx.toNat = idx.toNat + 1 ∧
        commandDelay.startIdx.toNat = idx.toNat + 1 ∧
        commandDelay.stopIdx.toNat = idx.toNat + 24 ∧
        rephase.label = .auRephase ∧
        commandDelay.label = .auCommandDelay := by
  refine ⟨_, _, trAuCalls_eq idx, ?_, ?_, ?_, ?_, rfl, rfl⟩
  · have start :=
      toNat_getIdxFor_chunk
        (toNat_rephaseStartRel phaseRoom shallow) (by omega)
    rw [LabelCall.startIdx_between, start]
    omega
  · exact toNat_getIdxFor_chunk (toNat_idx_mul shallow) (by omega)
  · exact toNat_getIdxFor_chunk (toNat_idx_mul shallow) (by omega)
  · have stop :=
      toNat_getIdxFor_chunk (toNat_nocommandStopRel shallow) (by omega)
    rw [LabelCall.stopIdx_between, stop]

/-- A placement writes the transmitting antenna from `idx - 26` to `idx + 24`. -/
theorem writes_trAuCalls_iff
    {idx : UInt32}
    (phaseRoom : 27 ≤ idx.toNat)
    (shallow : idx.toNat < 1500)
    {chunk : Nat}
    (inRing : chunk < 100000) :
    (∃ call ∈ trAuCalls idx, call.Writes chunk) ↔
      idx.toNat - 26 ≤ chunk ∧ chunk ≤ idx.toNat + 24 := by
  obtain ⟨rephase, commandDelay, shape, rephaseStart, rephaseStop,
      delayStart, delayStop, _, _⟩ :=
    trAuCalls_indices phaseRoom shallow
  rw [shape]
  simp only [List.mem_cons, List.not_mem_nil, or_false, exists_eq_or_imp,
    exists_eq_left, LabelCall.Writes, rephaseStart, rephaseStop, delayStart,
    delayStop]
  constructor
  · rintro (⟨named, lower, upper, same⟩ | ⟨named, lower, upper, same⟩)
    · omega
    · omega
  · rintro ⟨lower, upper⟩
    by_cases early : chunk ≤ idx.toNat
    · exact .inl ⟨chunk, by omega, by omega, rfl⟩
    · exact .inr ⟨chunk, by omega, by omega, rfl⟩

/-- Start of the receive part, relative to the first chunk. -/
def rsStartTime (pair : ScanPair) (idx : UInt32) : UInt32 :=
  idx * timeChunkLength + rangeOffsetLen pair

theorem rsAuCalls_eq (pair : ScanPair) (idx : UInt32) :
    rsAuCalls pair idx =
      [.between .rsAu (rsStartTime pair idx)
          (rsStartTime pair idx + phaseDelay) .auRephase,
        .between .rsAu (rsStartTime pair idx + phaseDelay)
          (rsStartTime pair idx + auCommandDelay) .auCommandDelay] := by
  have wholeDelay :
      phaseDelay + (auCommandDelay - phaseDelay) = auCommandDelay := by
    decide
  simp only [rsAuCalls, rsStartTime, rephaseStopRel_eq, UInt32.add_assoc,
    wholeDelay]

/-- First chunk that a placement labels on the receiving antenna. -/
def rsFirstChunk (pair : ScanPair) (idx : UInt32) : Nat :=
  (Timeline.getIdxFor (rsStartTime pair idx)).toUInt32.toNat

/-- Last chunk that a placement labels on the receiving antenna. -/
def rsLastChunk (pair : ScanPair) (idx : UInt32) : Nat :=
  (Timeline.getIdxFor
    (rsStartTime pair idx + auCommandDelay)).toUInt32.toNat

/-- Moving a time by whole chunks moves its chunk index by as many. -/
theorem chunkFor_add_mul (time chunks : Nat) :
    Timeline.chunkFor (time + chunks * 10000) =
      Timeline.chunkFor time + chunks := by
  unfold Timeline.chunkFor
  split
  · rw [if_pos (by omega)]
    omega
  · rw [if_neg (by omega)]
    omega

/-- The antenna check of a found index keeps the receive part on the timeline. -/
theorem rsStartTime_bounds
    {lines : Timelines}
    {pair : ScanPair}
    {idx : UInt32}
    (found : placementIndex lines pair = some idx) :
    270000 ≤ (rsStartTime pair idx).toNat ∧
      (rsStartTime pair idx).toNat ≤ 1000000000 := by
  obtain ⟨_, fits, _⟩ := findIndex_eq_some_iff.mp found
  have receive := fits.receive
  rw [UInt32.ofNat_toNat] at receive
  simp only [fitsReceive, ← rsStartTime.eq_def pair idx,
    Bool.and_eq_true, Timeline.checkIndex_eq_true_iff] at receive
  obtain ⟨⟨_, dcuIdx, _⟩, _, rphIdx, _⟩ := receive
  have notBeyond : (rsStartTime pair idx).toNat ≤ 1000000000 := by
    by_contra beyond
    rw [Timeline.toNat_getIdxFor_of_lt (by omega)] at dcuIdx
    omega
  refine ⟨?_, notBeyond⟩
  by_contra early
  have wraps :
      1000000000 < (rsStartTime pair idx - phaseDelay).toNat := by
    rw [UInt32.toNat_sub, toNat_phaseDelay]
    omega
  rw [Timeline.toNat_getIdxFor_of_lt wraps] at rphIdx
  omega

/-- What a found index has checked for the receive part. -/
theorem receive_checked
    {lines : Timelines}
    {pair : ScanPair}
    {idx : UInt32}
    (found : placementIndex lines pair = some idx) :
    (∀ offset, offset < (chunkCount (receiveLen pair)).toNat →
      rsFirstChunk pair idx + offset < 100000 ∧
        (lines.dcu.getValueAt (rsFirstChunk pair idx + offset) = .empty ∨
          lines.dcu.getValueAt (rsFirstChunk pair idx + offset) =
            .dcuEnergyRestore)) ∧
      27 ≤ rsFirstChunk pair idx ∧
      rsFirstChunk pair idx ≤ 100000 ∧
      ∀ chunk, rsFirstChunk pair idx - 27 ≤ chunk →
        chunk < rsFirstChunk pair idx →
        lines.rsAu.getValueAt chunk = .empty := by
  obtain ⟨_, fits, _⟩ := findIndex_eq_some_iff.mp found
  obtain ⟨late, inHorizon⟩ := rsStartTime_bounds found
  have receive := fits.receive
  rw [UInt32.ofNat_toNat] at receive
  simp only [fitsReceive, ← rsStartTime.eq_def pair idx,
    Bool.and_eq_true, Timeline.checkIndex_eq_true_iff,
    decide_eq_true_eq] at receive
  obtain ⟨⟨_, _, dcuFree⟩, _, _, rsAuFree⟩ := receive
  have rphTime :
      (rsStartTime pair idx - phaseDelay).toNat =
        (rsStartTime pair idx).toNat - 270000 := by
    rw [UInt32.toNat_sub, toNat_phaseDelay]
    omega
  have firstChunk :
      rsFirstChunk pair idx =
        Timeline.chunkFor ((rsStartTime pair idx).toNat - 270000) + 27 := by
    rw [rsFirstChunk, Timeline.toNat_getIdxFor_of_le inHorizon,
      ← chunkFor_add_mul]
    congr 1
    omega
  rw [Timeline.toNat_getIdxFor_of_le (by omega), rphTime] at rsAuFree
  have lastChecked := (rsAuFree 26 (by decide)).1
  refine ⟨dcuFree, by omega, by omega, ?_⟩
  intro chunk lower upper
  have checked :=
    (rsAuFree (chunk - (rsFirstChunk pair idx - 27))
      (Nat.lt_of_lt_of_eq (by omega) (by decide : 27 = _))).2
  rw [firstChunk, Nat.add_sub_cancel] at checked lower
  rw [Nat.add_sub_cancel' lower] at checked
  exact checked

/--
The two sectors on the receiving antenna meet, so together they label the
chunks from `rsFirstChunk` to `rsLastChunk`.
-/
theorem rsAuCalls_indices
    {pair : ScanPair}
    {idx : UInt32}
    (inHorizon : (rsStartTime pair idx).toNat ≤ 1000000000) :
    ∃ rephase commandDelay middle,
      rsAuCalls pair idx = [rephase, commandDelay] ∧
        rephase.startIdx.toNat = rsFirstChunk pair idx ∧
        rephase.stopIdx.toNat = middle ∧
        commandDelay.startIdx.toNat = middle ∧
        commandDelay.stopIdx.toNat = rsLastChunk pair idx ∧
        rsFirstChunk pair idx ≤ middle ∧
        middle ≤ rsLastChunk pair idx := by
  have rephased :
      (rsStartTime pair idx + phaseDelay).toNat =
        (rsStartTime pair idx).toNat + 27 * 10000 := by
    rw [UInt32.toNat_add, toNat_phaseDelay]
    omega
  refine
    ⟨_, _,
      (Timeline.getIdxFor
        (rsStartTime pair idx + phaseDelay)).toUInt32.toNat,
      rsAuCalls_eq pair idx,
      by rw [LabelCall.startIdx_between, rsFirstChunk],
      by rw [LabelCall.stopIdx_between],
      by rw [LabelCall.startIdx_between],
      by rw [LabelCall.stopIdx_between, rsLastChunk], ?_, ?_⟩
  · rw [rsFirstChunk, Timeline.toNat_getIdxFor_of_le inHorizon]
    by_cases stays :
        (rsStartTime pair idx + phaseDelay).toNat ≤ 1000000000
    · rw [Timeline.toNat_getIdxFor_of_le stays, rephased,
        chunkFor_add_mul]
      omega
    · rw [Timeline.toNat_getIdxFor_of_lt (by omega), Timeline.chunkFor]
      split <;> omega
  · rw [rsLastChunk]
    have delayed :
        (rsStartTime pair idx + auCommandDelay).toNat =
          (rsStartTime pair idx + phaseDelay).toNat + 23 * 10000 := by
      rw [rephased, UInt32.toNat_add, toNat_auCommandDelay]
      omega
    by_cases stays :
        (rsStartTime pair idx + auCommandDelay).toNat ≤ 1000000000
    · rw [Timeline.toNat_getIdxFor_of_le stays,
        Timeline.toNat_getIdxFor_of_le (by omega), delayed,
        chunkFor_add_mul]
      omega
    · rw [Timeline.toNat_getIdxFor_of_lt (Nat.lt_of_not_le stays)]
      have := (Timeline.getIdxFor
        (rsStartTime pair idx + phaseDelay)).toUInt32.toNat_lt
      omega

/-- Within the horizon the receiving antenna is labelled for 51 chunks. -/
theorem rsLastChunk_eq
    {pair : ScanPair}
    {idx : UInt32}
    (inHorizon : (rsStartTime pair idx).toNat + 500000 ≤ 1000000000) :
    rsLastChunk pair idx = rsFirstChunk pair idx + 50 := by
  have delayed :
      (rsStartTime pair idx + auCommandDelay).toNat =
        (rsStartTime pair idx).toNat + 50 * 10000 := by
    rw [UInt32.toNat_add, toNat_auCommandDelay]
    omega
  rw [rsLastChunk, rsFirstChunk,
    Timeline.toNat_getIdxFor_of_le (by omega),
    Timeline.toNat_getIdxFor_of_le (by omega), delayed, chunkFor_add_mul]

/-- The receiving antenna is written exactly between the two chunks. -/
theorem writes_rsAuCalls_iff
    {pair : ScanPair}
    {idx : UInt32}
    (inHorizon : (rsStartTime pair idx).toNat ≤ 1000000000)
    {chunk : Nat} :
    (∃ call ∈ rsAuCalls pair idx, call.Writes chunk) ↔
      ∃ named, rsFirstChunk pair idx ≤ named ∧
        named ≤ rsLastChunk pair idx ∧
        chunk % 100000 = named % 100000 := by
  obtain ⟨rephase, commandDelay, middle, shape, rephaseStart, rephaseStop,
      delayStart, delayStop, lower, upper⟩ :=
    rsAuCalls_indices inHorizon
  rw [shape]
  simp only [List.mem_cons, List.not_mem_nil, or_false, exists_eq_or_imp,
    exists_eq_left, LabelCall.Writes, rephaseStart, rephaseStop, delayStart,
    delayStop]
  constructor
  · rintro (⟨named, named_lower, named_upper, same⟩ |
      ⟨named, named_lower, named_upper, same⟩)
    · exact ⟨named, by omega, by omega, same⟩
    · exact ⟨named, by omega, by omega, same⟩
  · rintro ⟨named, named_lower, named_upper, same⟩
    by_cases early : named ≤ middle
    · exact .inl ⟨named, by omega, by omega, same⟩
    · exact .inr ⟨named, by omega, by omega, same⟩

end Scheduler

end Radar
