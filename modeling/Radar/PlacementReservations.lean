import Radar.SchedulerWindows

namespace Radar.Scheduler

/-!
# Which reservations a placement respects

`find_index` looks at the receive part one phase delay earlier than
`place_scan` books it, and it never looks at the command delay of the
transmitting antenna.  A placement therefore respects the reservations of
earlier scans exactly when the chunks that nobody looked at happen to be free.
-/

open Settings

/-- Timelines reached by ticks and placements from a fresh scheduler. -/
inductive ReachableTimelines : Timelines → Prop where
  | new : ReachableTimelines .new
  | tick
      {lines : Timelines}
      (time : UInt64) :
      ReachableTimelines lines →
      ReachableTimelines (lines.moveTimeline time)
  | place
      {lines : Timelines}
      (pair : ScanPair)
      (queryId : UInt32) :
      ReachableTimelines lines →
      ReachableTimelines (placeScan lines pair queryId).1

/-- A converter chunk that a reception may take over. -/
def FreeForReceive (lines : Timelines) (chunk : Nat) : Prop :=
  lines.dcu.getValueAt chunk = .empty ∨
    lines.dcu.getValueAt chunk = .dcuEnergyRestore

/--
The calls of a placement respect earlier reservations.  Receive labels go to
free or restoring converter chunks, or to chunks that an earlier call of this
same placement has labelled; antenna labels go to empty chunks.
-/
def KeepsReservations
    (lines : Timelines)
    (pair : ScanPair)
    (idx : UInt32) :
    Prop :=
  ∀ before call after,
    labelCalls pair idx = before ++ call :: after →
    ∀ chunk, chunk < 100000 → call.Writes chunk →
      (call.label = .dcuReceive →
        FreeForReceive lines chunk ∨
          ∃ earlier ∈ before,
            earlier.target = .dcu ∧ earlier.Writes chunk) ∧
      (call.label = .auRephase ∨ call.label = .auCommandDelay →
        (lines.get call.target).getValueAt chunk = .empty)

/--
The chunks that a placement at `idx` books without `find_index` having looked
at them are free: the command delay on the transmitting antenna, the whole
sector on the receiving antenna, and the receive window on the converter
beyond the chunks checked there.
-/
structure UncheckedChunksFree
    (lines : Timelines)
    (pair : ScanPair)
    (idx : UInt32) :
    Prop where
  trAu :
    ∀ chunk, idx.toNat < chunk → chunk ≤ idx.toNat + 24 →
      lines.trAu.getValueAt chunk = .empty
  rsAu :
    ∀ chunk, rsFirstChunk pair idx ≤ chunk → chunk ≤ rsLastChunk pair idx →
      lines.rsAu.getValueAt chunk = .empty
  dcu :
    ∀ chunk, chunk < 100000 →
      (∃ call ∈ receiveCalls pair idx, call.Writes chunk) →
      ¬ (rsFirstChunk pair idx ≤ chunk ∧
        chunk < rsFirstChunk pair idx +
          (chunkCount (receiveLen pair)).toNat) →
      FreeForReceive lines chunk ∨
        ∃ own ∈ transmitCalls pair idx, own.Writes chunk

/-- Reading a chunk index only depends on its slot. -/
theorem getValueAt_congr
    {line : Timeline}
    {first second : Nat}
    (same : first % 100000 = second % 100000) :
    line.getValueAt first = line.getValueAt second :=
  congrArg line.timeline
    ((SlidingWindow.Ring.slot_eq_slot_iff ..).mpr same)

/-- Only the receive part writes receive labels. -/
theorem label_ne_dcuReceive
    {pair : ScanPair}
    {idx : UInt32}
    {call : LabelCall}
    (member :
      call ∈ trAuCalls idx ∨ call ∈ transmitCalls pair idx ∨
        call ∈ rsAuCalls pair idx) :
    call.label ≠ .dcuReceive := by
  rcases member with inTrAu | inTransmit | inRsAu
  · rcases (target_of_mem_trAuCalls inTrAu).2 with label | label <;>
      simp [label]
  · rcases (target_of_mem_transmitCalls inTransmit).2 with label | label <;>
      simp [label]
  · rcases (target_of_mem_rsAuCalls inRsAu).2 with label | label <;>
      simp [label]

/-- Only the parts on the antennas write antenna labels. -/
theorem mem_auCalls_of_label
    {pair : ScanPair}
    {idx : UInt32}
    {call : LabelCall}
    (member : call ∈ labelCalls pair idx)
    (isAntenna : call.label = .auRephase ∨ call.label = .auCommandDelay) :
    call ∈ trAuCalls idx ∨ call ∈ rsAuCalls pair idx := by
  rcases mem_labelCalls_iff.mp member with
    inTrAu | inTransmit | inRsAu | inReceive
  · exact .inl inTrAu
  · have labels := (target_of_mem_transmitCalls inTransmit).2
    rcases isAntenna with label | label <;> simp [label] at labels
  · exact .inr inRsAu
  · have labels := (target_of_mem_receiveCalls inReceive).2
    rcases isAntenna with label | label <;> simp [label] at labels

/-- The transmission has been labelled before any receive call is made. -/
private theorem transmitCalls_before_receive
    {pair : ScanPair}
    {idx : UInt32}
    {before after : List LabelCall}
    {call own : LabelCall}
    (shape : labelCalls pair idx = before ++ call :: after)
    (isReceive : call.label = .dcuReceive)
    (ownMember : own ∈ transmitCalls pair idx) :
    own ∈ before := by
  have notEarlier :
      call ∉ trAuCalls idx ++ transmitCalls pair idx ++
        rsAuCalls pair idx := by
    intro member
    simp only [List.mem_append, or_assoc] at member
    exact label_ne_dcuReceive member isReceive
  rcases List.append_eq_append_iff.mp shape with
    ⟨middle, beforeShape, _⟩ | ⟨middle, firstShape, restShape⟩
  · rw [beforeShape]
    simp [ownMember]
  · cases middle with
    | nil =>
        rw [List.append_nil] at firstShape
        rw [← firstShape]
        simp [ownMember]
    | cons head tail =>
        rw [List.cons_append, List.cons.injEq] at restShape
        apply (notEarlier _).elim
        rw [firstShape, restShape.1]
        simp

/-- A chunk of an antenna is free, if the unchecked chunks are. -/
theorem UncheckedChunksFree.antenna_empty
    {lines : Timelines}
    {pair : ScanPair}
    {idx : UInt32}
    (free : UncheckedChunksFree lines pair idx)
    (found : placementIndex lines pair = some idx)
    {call : LabelCall}
    (member : call ∈ trAuCalls idx ∨ call ∈ rsAuCalls pair idx)
    {chunk : Nat}
    (inRing : chunk < 100000)
    (writes : call.Writes chunk) :
    (lines.get call.target).getValueAt chunk = .empty := by
  obtain ⟨phaseRoom, shallow⟩ := bounds_of_placementIndex found
  obtain ⟨_, fits, _⟩ := findIndex_eq_some_iff.mp found
  rcases member with inTrAu | inRsAu
  · rw [(target_of_mem_trAuCalls inTrAu).1]
    obtain ⟨lower, upper⟩ :=
      (writes_trAuCalls_iff phaseRoom shallow inRing).mp
        ⟨call, inTrAu, writes⟩
    by_cases looked : chunk ≤ idx.toNat
    · have rphLength : (chunkCount phaseDelay).toNat = 27 := rfl
      exact fits.auEmpty chunk (by omega) looked
    · exact free.trAu chunk (by omega) upper
  · rw [(target_of_mem_rsAuCalls inRsAu).1]
    obtain ⟨named, lower, upper, same⟩ :=
      (writes_rsAuCalls_iff (rsStartTime_bounds found).2).mp
        ⟨call, inRsAu, writes⟩
    change lines.rsAu.getValueAt chunk = _
    rw [getValueAt_congr same]
    exact free.rsAu named lower upper

/-- Free unchecked chunks are enough to respect every reservation. -/
theorem keepsReservations_of_uncheckedChunksFree
    {lines : Timelines}
    {pair : ScanPair}
    {idx : UInt32}
    (found : placementIndex lines pair = some idx)
    (free : UncheckedChunksFree lines pair idx) :
    KeepsReservations lines pair idx := by
  obtain ⟨dcuChecked, _, _, _⟩ := receive_checked found
  intro before call after shape chunk inRing writes
  have member : call ∈ labelCalls pair idx := by
    rw [shape]
    simp
  constructor
  · intro isReceive
    have notElsewhere :
        ¬ (call ∈ trAuCalls idx ∨ call ∈ transmitCalls pair idx ∨
          call ∈ rsAuCalls pair idx) :=
      fun elsewhere => label_ne_dcuReceive elsewhere isReceive
    have inReceive : call ∈ receiveCalls pair idx := by
      rcases mem_labelCalls_iff.mp member with
        inTrAu | inTransmit | inRsAu | inReceive
      · exact absurd (.inl inTrAu) notElsewhere
      · exact absurd (.inr (.inl inTransmit)) notElsewhere
      · exact absurd (.inr (.inr inRsAu)) notElsewhere
      · exact inReceive
    by_cases checked :
        rsFirstChunk pair idx ≤ chunk ∧
          chunk < rsFirstChunk pair idx +
            (chunkCount (receiveLen pair)).toNat
    · left
      have checkedFree :=
        (dcuChecked (chunk - rsFirstChunk pair idx) (by omega)).2
      rw [Nat.add_sub_cancel' checked.1] at checkedFree
      exact checkedFree
    · rcases free.dcu chunk inRing ⟨call, inReceive, writes⟩ checked with
        isFree | ⟨own, ownMember, ownWrites⟩
      · exact .inl isFree
      · exact .inr
          ⟨own,
            transmitCalls_before_receive shape isReceive ownMember,
            (target_of_mem_transmitCalls ownMember).1, ownWrites⟩
  · intro isAntenna
    exact free.antenna_empty found (mem_auCalls_of_label member isAntenna)
      inRing writes

/-- A receive chunk is free or covered by this placement's transmission. -/
private theorem free_or_own_of_keepsReservations
    {lines : Timelines}
    {pair : ScanPair}
    {idx : UInt32}
    (keeps : KeepsReservations lines pair idx)
    {chunk : Nat}
    (inRing : chunk < 100000)
    {receiveBefore receiveAfter : List LabelCall}
    {call : LabelCall}
    (shape :
      receiveCalls pair idx = receiveBefore ++ call :: receiveAfter)
    (writes : call.Writes chunk) :
    FreeForReceive lines chunk ∨
      ∃ own ∈ transmitCalls pair idx, own.Writes chunk := by
  induction receiveLength : receiveBefore.length
      using Nat.strong_induction_on
      generalizing receiveBefore receiveAfter call with
  | _ length inductionHypothesis =>
      have inReceive : call ∈ receiveCalls pair idx := by
        rw [shape]
        simp
      have isReceive := (target_of_mem_receiveCalls inReceive).2
      have wholeShape :
          labelCalls pair idx =
            (trAuCalls idx ++ transmitCalls pair idx ++
              rsAuCalls pair idx ++ receiveBefore) ++
              call :: receiveAfter := by
        simp only [labelCalls, shape, List.append_assoc]
      rcases (keeps _ call _ wholeShape chunk inRing writes).1 isReceive with
        isFree | ⟨earlier, earlierMember, onDcu, earlierWrites⟩
      · exact .inl isFree
      · simp only [List.mem_append] at earlierMember
        rcases earlierMember with
          ((inTrAu | inTransmit) | inRsAu) | inPrefix
        · rw [(target_of_mem_trAuCalls inTrAu).1] at onDcu
          cases onDcu
        · exact .inr ⟨earlier, inTransmit, earlierWrites⟩
        · rw [(target_of_mem_rsAuCalls inRsAu).1] at onDcu
          cases onDcu
        · obtain ⟨first, rest, split⟩ := List.append_of_mem inPrefix
          have shorter : first.length < length := by
            rw [← receiveLength, split]
            simp
          have earlierShape :
              receiveCalls pair idx =
                first ++ earlier :: (rest ++ call :: receiveAfter) := by
            rw [shape, split]
            simp
          exact inductionHypothesis first.length shorter
            earlierShape earlierWrites rfl

/-- Respecting every reservation forces the unchecked chunks to be free. -/
theorem uncheckedChunksFree_of_keepsReservations
    {lines : Timelines}
    {pair : ScanPair}
    {idx : UInt32}
    (found : placementIndex lines pair = some idx)
    (keeps : KeepsReservations lines pair idx) :
    UncheckedChunksFree lines pair idx := by
  obtain ⟨phaseRoom, shallow⟩ := bounds_of_placementIndex found
  have antennaFree :
      ∀ {call : LabelCall} {chunk : Nat},
        call ∈ labelCalls pair idx → chunk < 100000 → call.Writes chunk →
        call.label = .auRephase ∨ call.label = .auCommandDelay →
        (lines.get call.target).getValueAt chunk = .empty := by
    intro call chunk member inRing writes isAntenna
    obtain ⟨before, after, shape⟩ := List.append_of_mem member
    exact (keeps before call after shape chunk inRing writes).2 isAntenna
  refine ⟨?_, ?_, ?_⟩
  · intro chunk lower upper
    have inRing : chunk < 100000 := by omega
    obtain ⟨call, inTrAu, writes⟩ :=
      (writes_trAuCalls_iff phaseRoom shallow inRing).mpr
        ⟨by omega, upper⟩
    have shown :=
      antennaFree (mem_labelCalls_iff.mpr (.inl inTrAu)) inRing writes
        (target_of_mem_trAuCalls inTrAu).2
    rw [(target_of_mem_trAuCalls inTrAu).1] at shown
    exact shown
  · intro chunk lower upper
    obtain ⟨call, inRsAu, writes⟩ :=
      (writes_rsAuCalls_iff (rsStartTime_bounds found).2).mpr
        ⟨chunk, lower, upper, Nat.mod_mod chunk 100000⟩
    have shown :=
      antennaFree
        (mem_labelCalls_iff.mpr (.inr (.inr (.inl inRsAu))))
        (Nat.mod_lt _ (by decide)) writes
        (target_of_mem_rsAuCalls inRsAu).2
    rw [(target_of_mem_rsAuCalls inRsAu).1,
      getValueAt_congr (Nat.mod_mod chunk 100000)] at shown
    exact shown
  · rintro chunk inRing ⟨call, inReceive, writes⟩ _
    obtain ⟨before, after, shape⟩ := List.append_of_mem inReceive
    exact free_or_own_of_keepsReservations keeps inRing shape writes

/--
A placement at a found index respects all earlier reservations if and only if
the chunks it books unchecked are free.
-/
theorem keepsReservations_iff
    {lines : Timelines}
    {pair : ScanPair}
    {idx : UInt32}
    (found : placementIndex lines pair = some idx) :
    KeepsReservations lines pair idx ↔
      UncheckedChunksFree lines pair idx :=
  ⟨uncheckedChunksFree_of_keepsReservations found,
    keepsReservations_of_uncheckedChunksFree found⟩

/-- A single pulse of 15 us with a range delay of 7 191 281 ns. -/
def farScan : ScanPair :=
  createScanPair (signalTbl .SOTS10) 15000 7191281

/-- A single pulse of 15 us with a range delay of 6 671 282 ns. -/
def nearScan : ScanPair :=
  createScanPair (signalTbl .SOTS10) 15000 6671282

/-- The equivalence at the first scan of a fresh scheduler. -/
theorem keepsReservations_iff_farScan :
    KeepsReservations .new farScan 27 ↔
      UncheckedChunksFree .new farScan 27 :=
  keepsReservations_iff (by decide +kernel)

/--
After the far scan has been placed on a fresh scheduler, the near scan is
given a place where its receiving antenna sector is the far scan's own.
-/
theorem nearScan_takes_over_farScan :
    ReachableTimelines (placeScan .new farScan 1).1 ∧
      nearScan.receiveTime = 6671300 ∧
      placementIndex (placeScan .new farScan 1).1 nearScan = some 79 ∧
      ¬ KeepsReservations (placeScan .new farScan 1).1 nearScan 79 := by
  have found :
      placementIndex (placeScan .new farScan 1).1 nearScan = some 79 := by
    decide +kernel
  refine ⟨.place farScan 1 .new, by decide, found, ?_⟩
  intro keeps
  have free :=
    (uncheckedChunksFree_of_keepsReservations found keeps).rsAu 746
      (by decide +kernel) (by decide +kernel)
  revert free
  decide +kernel

end Radar.Scheduler
