import Radar.SchedulerWindows

namespace Radar.Scheduler

/-!
# What a failed placement leaves behind

`place_scan` answers `nop` either because no index is found, before anything
is labelled, or because the range offset of the finished commands does not
match the receive time, after everything has been labelled.  The offset
matches exactly when the unsigned subtraction
`receive_time - phase_delay - reserve_time` does not wrap.
-/

open Settings

/-- The timelines are unchanged whenever the placement answers `nop`. -/
def NopKeepsTimelines
    (lines : Timelines)
    (pair : ScanPair)
    (queryId : UInt32) :
    Prop :=
  (placeScan lines pair queryId).2 = [{}] →
    (placeScan lines pair queryId).1 = lines

/-- The scan of a pair fits with its transmission starting at a chunk. -/
abbrev PairFitsAt
    (lines : Timelines)
    (pair : ScanPair)
    (start : Nat) :
    Prop :=
  HasRoomAt lines (transmitLen pair) (receiveLen pair)
    (rangeOffsetLen pair) start

/-- Offset that the three unsigned operations of the source compute. -/
theorem toNat_rangeOffsetLen (pair : ScanPair) :
    (rangeOffsetLen pair).toNat =
      roundUp ((pair.receiveTime.toNat + 4294692296) % 4294967296) 100 %
        4294967296 := by
  rw [rangeOffsetLen, toNat_multiplesOf_uint32, UInt32.toNat_sub,
    UInt32.toNat_sub, toNat_phaseDelay, toNat_reserveTime,
    toNat_frequencyFactor]
  have wrapped :
      (2 ^ 32 - 5000 +
          (2 ^ 32 - 270000 + pair.receiveTime.toNat) % 2 ^ 32) % 2 ^ 32 =
        (pair.receiveTime.toNat + 4294692296) % 4294967296 := by
    omega
  have size : 2 ^ 32 = 4294967296 := rfl
  rw [wrapped, size]

/-- A receive time beyond the delays is kept by the range offset. -/
theorem toNat_rangeOffsetLen_of_le
    {pair : ScanPair}
    (late : 275000 ≤ pair.receiveTime.toNat) :
    (rangeOffsetLen pair).toNat + 275000 =
      roundUp pair.receiveTime.toNat 100 := by
  have bounded := pair.receiveTime.toNat_lt
  rw [toNat_rangeOffsetLen, roundUp_hundred, roundUp_hundred]
  generalize pair.receiveTime.toNat = receiveTime at late bounded
  obtain ⟨extra, rfl⟩ := Nat.exists_eq_add_of_le late
  have unwrapped :
      (275000 + extra + 4294692296) % 4294967296 = extra := by
    omega
  rw [unwrapped]
  have rounded : (extra + 99) / 100 * 100 < 4294967296 := by
    omega
  rw [Nat.mod_eq_of_lt rounded]
  omega

/-- A receive time before the delays never matches its wrapped offset. -/
theorem toNat_rangeOffsetLen_of_lt
    {pair : ScanPair}
    (early : pair.receiveTime.toNat < 275000) :
    (rangeOffsetLen pair).toNat + 275000 ≠
      roundUp pair.receiveTime.toNat 100 := by
  rw [toNat_rangeOffsetLen, roundUp_hundred, roundUp_hundred]
  generalize pair.receiveTime.toNat = receiveTime at early
  have wrapped :
      (receiveTime + 4294692296) % 4294967296 =
        receiveTime + 4294692296 := by
    omega
  rw [wrapped]
  by_cases overflow : receiveTime ≤ 274904
  · have rounded :
        (receiveTime + 4294692296 + 99) / 100 * 100 < 4294967296 := by
      omega
    rw [Nat.mod_eq_of_lt rounded]
    omega
  · have rounded :
        (receiveTime + 4294692296 + 99) / 100 * 100 = 4294967300 := by
      omega
    rw [rounded]
    omega

/-- The offset check succeeds exactly when the receive time is late enough. -/
theorem rangeOffset_matches_iff (pair : ScanPair) :
    (rangeOffsetLen pair).toNat + 275000 =
        roundUp pair.receiveTime.toNat 100 ↔
      275000 ≤ pair.receiveTime.toNat := by
  constructor
  · intro matching
    by_contra early
    exact toNat_rangeOffsetLen_of_lt (Nat.not_le.mp early) matching
  · exact toNat_rangeOffsetLen_of_le

/-- Difference of the receive and transmit times of the issued commands. -/
theorem receiveExecTime_sub_transmitExecTime
    (pair : ScanPair)
    (startTime : UInt64)
    (idx : UInt32) :
    (receiveExecTime pair startTime idx -
        transmitExecTime startTime idx).toNat =
      (rangeOffsetLen pair).toNat + 275000 := by
  have offset :
      receiveExecTime pair startTime idx - transmitExecTime startTime idx =
        (rangeOffsetLen pair).toUInt64 + 275000 := by
    unfold receiveExecTime receiveRephaseTime
    have delays :
        reserveTime.toUInt64 + phaseDelay.toUInt64 = 275000 := by
      decide
    rw [UInt64.add_assoc, UInt64.add_assoc, ← delays]
    generalize transmitExecTime startTime idx = execTime
    generalize
      (rangeOffsetLen pair).toUInt64 +
        (reserveTime.toUInt64 + phaseDelay.toUInt64) = rest
    rw [UInt64.add_comm, UInt64.add_sub_cancel]
  rw [offset, UInt64.toNat_add, UInt32.toNat_toUInt64]
  have small := (rangeOffsetLen pair).toNat_lt
  have constant : (275000 : UInt64).toNat = 275000 := rfl
  omega

/-- The comparison made after labelling, over the naturals. -/
theorem rangeOffset_eq_multiplesOf_iff
    (pair : ScanPair)
    (startTime : UInt64)
    (idx : UInt32) :
    receiveExecTime pair startTime idx - transmitExecTime startTime idx =
        multiplesOf pair.receiveTime.toUInt64 frequencyFactor.toUInt64 ↔
      275000 ≤ pair.receiveTime.toNat := by
  rw [← UInt64.toNat_inj, receiveExecTime_sub_transmitExecTime,
    toNat_multiplesOf_uint64, UInt32.toNat_toUInt64,
    UInt32.toNat_toUInt64, toNat_frequencyFactor]
  have noOverflow : roundUp pair.receiveTime.toNat 100 < 2 ^ 64 := by
    have := pair.receiveTime.toNat_lt
    unfold roundUp multiplesOf
    split
    · omega
    · omega
  rw [Nat.mod_eq_of_lt noOverflow]
  exact rangeOffset_matches_iff pair

/-! ## The three outcomes of a placement -/

theorem placeScan_of_none
    {lines : Timelines}
    {pair : ScanPair}
    (queryId : UInt32)
    (nowhere : placementIndex lines pair = none) :
    placeScan lines pair queryId = (lines, [{}]) := by
  rw [placeScan, nowhere]

/-- A late enough receive time: the scan is labelled and commanded. -/
theorem placeScan_of_late
    {lines : Timelines}
    {pair : ScanPair}
    {idx : UInt32}
    (queryId : UInt32)
    (found : placementIndex lines pair = some idx)
    (late : 275000 ≤ pair.receiveTime.toNat) :
    placeScan lines pair queryId =
      (lines.performAll (labelCalls pair idx),
        scanCommands pair lines.dcu.startTime idx queryId) := by
  have sameStart :
      (lines.performAll (labelCalls pair idx)).dcu.startTime =
        lines.dcu.startTime :=
    Timelines.startTime_get_performAll lines _ .dcu
  simp only [placeScan, found, sameStart]
  rw [if_neg]
  rw [ne_eq, not_not]
  exact (rangeOffset_eq_multiplesOf_iff ..).mpr late

/-- A receive time that wraps: the scan is labelled but not commanded. -/
theorem placeScan_of_early
    {lines : Timelines}
    {pair : ScanPair}
    {idx : UInt32}
    (queryId : UInt32)
    (found : placementIndex lines pair = some idx)
    (early : ¬ 275000 ≤ pair.receiveTime.toNat) :
    placeScan lines pair queryId =
      (lines.performAll (labelCalls pair idx), [{}]) := by
  simp only [placeScan, found]
  rw [if_pos]
  intro matching
  exact early ((rangeOffset_eq_multiplesOf_iff ..).mp matching)

/-- After labelling, the chunk of the found index is booked for a phase change. -/
theorem trAu_performAll_labelCalls
    {lines : Timelines}
    {pair : ScanPair}
    {idx : UInt32}
    (phaseRoom : 27 ≤ idx.toNat)
    (shallow : idx.toNat < 1500) :
    (lines.performAll (labelCalls pair idx)).trAu.getValueAt idx.toNat =
      .auRephase := by
  obtain ⟨rephase, commandDelay, shape, rephaseStart, rephaseStop,
      delayStart, delayStop, rephaseLabel, _⟩ :=
    trAuCalls_indices phaseRoom shallow
  have onTrAu : ∀ call ∈ trAuCalls idx, call.target = .trAu :=
    fun _ member => (target_of_mem_trAuCalls member).1
  have others :
      ∀ call ∈ transmitCalls pair idx ++ rsAuCalls pair idx ++
          receiveCalls pair idx,
        call.target ≠ .trAu := by
    intro call member onTarget
    simp only [List.mem_append] at member
    rcases member with (inTransmit | inRsAu) | inReceive
    · simp [(target_of_mem_transmitCalls inTransmit).1] at onTarget
    · simp [(target_of_mem_rsAuCalls inRsAu).1] at onTarget
    · simp [(target_of_mem_receiveCalls inReceive).1] at onTarget
  change ((lines.performAll (labelCalls pair idx)).get .trAu).getValueAt _ = _
  rw [labelCalls, List.append_assoc, List.append_assoc,
    Timelines.performAll_append, ← List.append_assoc,
    Timelines.get_performAll_of_untargeted others,
    Timelines.get_performAll, List.filter_eq_self.mpr]
  · rw [shape, List.foldl_cons, List.foldl_cons, List.foldl_nil,
      LabelCall.getValueAt_labelOn_of_not_writes,
      LabelCall.getValueAt_labelOn_of_writes, rephaseLabel]
    · exact ⟨idx.toNat, by omega, by omega, rfl⟩
    · rintro ⟨named, lower, upper, same⟩
      omega
  · intro call member
    simp [onTrAu call member]

/-- A placement that labels anything changes the timelines. -/
theorem performAll_labelCalls_ne
    {lines : Timelines}
    {pair : ScanPair}
    {idx : UInt32}
    (found : placementIndex lines pair = some idx) :
    lines.performAll (labelCalls pair idx) ≠ lines := by
  obtain ⟨phaseRoom, shallow⟩ := bounds_of_placementIndex found
  obtain ⟨_, fits, _⟩ := findIndex_eq_some_iff.mp found
  intro unchanged
  have booked : lines.trAu.getValueAt idx.toNat = .auRephase := by
    rw [← trAu_performAll_labelCalls phaseRoom shallow, unchanged]
  rw [fits.auEmpty idx.toNat (by omega) (by omega)] at booked
  cases booked

/-- A labelled scan whose receive time wraps breaks the promise of `nop`. -/
theorem not_nopKeepsTimelines
    {lines : Timelines}
    {pair : ScanPair}
    {idx : UInt32}
    (queryId : UInt32)
    (found : placementIndex lines pair = some idx)
    (early : ¬ 275000 ≤ pair.receiveTime.toNat) :
    ¬ NopKeepsTimelines lines pair queryId := by
  intro keeps
  have isNop : (placeScan lines pair queryId).2 = [{}] := by
    rw [placeScan_of_early queryId found early]
  have unchanged := keeps isNop
  rw [placeScan_of_early queryId found early] at unchanged
  dsimp only at unchanged
  exact performAll_labelCalls_ne found unchanged

/--
A `nop` answer leaves the timelines alone if and only if the receive time is
at least `phase_delay + reserve_time` or the scan fits nowhere within the
planning depth.
-/
theorem nopKeepsTimelines_iff
    (lines : Timelines)
    (pair : ScanPair)
    (queryId : UInt32) :
    NopKeepsTimelines lines pair queryId ↔
      phaseDelay.toNat + reserveTime.toNat ≤ pair.receiveTime.toNat ∨
        ∀ start,
          start + (chunkCount (transmitLen pair)).toNat <
            (planningDepth pair).toNat →
          ¬ PairFitsAt lines pair start := by
  rw [toNat_phaseDelay, toNat_reserveTime]
  constructor
  · intro keeps
    cases found : placementIndex lines pair with
    | none =>
        exact .inr (findIndex_eq_none_iff.mp found)
    | some idx =>
        left
        by_contra early
        exact not_nopKeepsTimelines queryId found early keeps
  · intro safe
    cases found : placementIndex lines pair with
    | none =>
        intro _
        rw [placeScan_of_none queryId found]
    | some idx =>
        have late : 275000 ≤ pair.receiveTime.toNat := by
          rcases safe with late | nowhere
          · exact late
          · obtain ⟨inDepth, fits, _⟩ := findIndex_eq_some_iff.mp found
            exact (nowhere _ inDepth fits).elim
        intro isNop
        rw [placeScan_of_late queryId found late] at isNop
        simp [scanCommands] at isNop

/--
The default pair of the error paths, placed on a fresh scheduler, is answered
with `nop` although its sectors have been labelled.
-/
theorem default_pair_leaves_reservations :
    (placeScan .new .default 7).2 = [{}] ∧
      (placeScan .new .default 7).1.trAu.getValueAt 55 = .auRephase ∧
      Timelines.new.trAu.getValueAt 55 = .empty ∧
      ¬ NopKeepsTimelines .new .default 7 := by
  have found :
      placementIndex .new .default = some 55 := by
    decide +kernel
  have early : ¬ 275000 ≤ ScanPair.default.receiveTime.toNat := by
    decide
  refine ⟨?_, ?_, rfl, not_nopKeepsTimelines 7 found early⟩
  · rw [placeScan_of_early 7 found early]
  · have booked :
        (Timelines.new.performAll
            (labelCalls .default 55)).trAu.getValueAt (55 : UInt32).toNat =
          .auRephase :=
      trAu_performAll_labelCalls (by decide) (by decide)
    have chunk : (55 : UInt32).toNat = 55 := rfl
    rw [chunk] at booked
    rw [placeScan_of_early 7 found early, booked]

end Radar.Scheduler
