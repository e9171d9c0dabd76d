import Radar.SchedulerPlacement

namespace Radar.Scheduler

/-!
# What the search for a place finds

The search loop counts runs of empty chunks and tests the receive part of a
candidate once its transmission fits.  The loop invariant says that the
counters are the lengths of the empty runs seen so far; from it the loop is
the first success of a test on the chunks, and `findIndex` is the least index
at which everything fits.
-/

open Settings

/-- Length of the run of empty chunks that ends just before a chunk. -/
def emptyRun (line : Timeline) : Nat → Nat
  | 0 => 0
  | chunk + 1 =>
      if line.getValueAt chunk = .empty then
        emptyRun line chunk + 1
      else
        0

/-- A run has at least `length` chunks when that many are there and empty. -/
theorem le_emptyRun_iff
    {line : Timeline}
    {length chunk : Nat} :
    length ≤ emptyRun line chunk ↔
      length ≤ chunk ∧
        ∀ idx, chunk - length ≤ idx → idx < chunk →
          line.getValueAt idx = .empty := by
  induction chunk generalizing length with
  | zero =>
      rw [emptyRun]
      exact
        ⟨fun short =>
          ⟨short, fun idx _ upper => absurd upper (Nat.not_lt_zero idx)⟩,
        And.left⟩
  | succ chunk inductionHypothesis =>
      rw [emptyRun]
      cases length with
      | zero =>
          refine
            iff_of_true (Nat.zero_le _)
              ⟨Nat.zero_le _, fun idx lower upper => ?_⟩
          omega
      | succ length =>
          by_cases isEmpty : line.getValueAt chunk = .empty
          · rw [if_pos isEmpty, Nat.add_le_add_iff_right, inductionHypothesis,
              Nat.add_le_add_iff_right, Nat.add_sub_add_right]
            refine and_congr_right fun short => ?_
            constructor
            · intro empties idx lower upper
              by_cases isLast : idx = chunk
              · rw [isLast]
                exact isEmpty
              · exact empties idx lower (by omega)
            · intro empties idx lower upper
              exact empties idx lower (by omega)
          · rw [if_neg isEmpty]
            refine iff_of_false (by omega) ?_
            rintro ⟨short, empties⟩
            exact isEmpty (empties chunk (by omega) (by omega))

/-- A run is longer than `length` when that many chunks before are empty too. -/
theorem lt_emptyRun_iff
    {line : Timeline}
    {length chunk : Nat} :
    length < emptyRun line (chunk + 1) ↔
      length ≤ chunk ∧
        ∀ idx, chunk - length ≤ idx → idx ≤ chunk →
          line.getValueAt idx = .empty := by
  rw [← Nat.add_one_le_iff, le_emptyRun_iff, Nat.add_le_add_iff_right,
    Nat.add_sub_add_right]
  simp only [Nat.lt_succ_iff]

/-- A scan of given chunk lengths fits when its transmission starts at `start`. -/
structure FitsAt
    (lines : Timelines)
    (trLength rsLength rphLength rangeOffset : UInt32)
    (start : Nat) :
    Prop where
  dcuEmpty :
    ∀ idx, start ≤ idx → idx ≤ start + trLength.toNat →
      lines.dcu.getValueAt idx = .empty
  phaseRoom : rphLength.toNat ≤ start
  auEmpty :
    ∀ idx, start - rphLength.toNat ≤ idx → idx ≤ start →
      lines.trAu.getValueAt idx = .empty
  receive :
    fitsReceive lines rsLength rphLength rangeOffset
      (UInt32.ofNat start) = true

/-- The counters of the loop are the empty runs before `idx`. -/
structure Counts
    (lines : Timelines)
    (rphLength : UInt32)
    (state : SearchState)
    (idx : Nat) :
    Prop where
  dcuSum : state.dcuSum = emptyRun lines.dcu idx
  auSum : state.auSum = emptyRun lines.trAu idx
  auIndices :
    ∀ chunk, chunk < idx →
      state.auIndices chunk =
        decide (rphLength.toNat < emptyRun lines.trAu (chunk + 1))

namespace Counts

/-- Before the first chunk nothing has been counted. -/
theorem initial
    (lines : Timelines)
    (rphLength : UInt32) :
    Counts lines rphLength {} 0 where
  dcuSum := rfl
  auSum := rfl
  auIndices := by
    intro chunk before
    omega

/-- One iteration keeps the counters in step with the runs. -/
theorem count
    {lines : Timelines}
    {rphLength : UInt32}
    {state : SearchState}
    {idx : Nat}
    (counts : Counts lines rphLength state idx) :
    Counts lines rphLength (state.count lines rphLength idx) (idx + 1) where
  dcuSum := by
    simp only [SearchState.count, emptyRun, counts.dcuSum]
  auSum := by
    simp only [SearchState.count, emptyRun, counts.auSum]
  auIndices := by
    intro chunk before
    simp only [SearchState.count]
    by_cases isNew : chunk = idx
    · rw [isNew, Function.update_self, counts.auSum]
      rfl
    · rw [Function.update_of_ne isNew]
      exact counts.auIndices chunk (by omega)

end Counts

/-- The test that the loop makes after counting the chunk `stop`. -/
def acceptsEnd
    (lines : Timelines)
    (trLength rsLength rphLength rangeOffset : UInt32)
    (stop : Nat) :
    Bool :=
  decide (trLength.toNat < emptyRun lines.dcu (stop + 1)) &&
    decide
      (rphLength.toNat <
        emptyRun lines.trAu (stop - trLength.toNat + 1)) &&
    fitsReceive lines rsLength rphLength rangeOffset
      (UInt32.ofNat (stop - trLength.toNat))

/-- The test succeeds exactly when everything fits at the start it implies. -/
theorem acceptsEnd_eq_true_iff
    {lines : Timelines}
    {trLength rsLength rphLength rangeOffset : UInt32}
    {stop : Nat} :
    acceptsEnd lines trLength rsLength rphLength rangeOffset stop = true ↔
      trLength.toNat ≤ stop ∧
        FitsAt lines trLength rsLength rphLength rangeOffset
          (stop - trLength.toNat) := by
  unfold acceptsEnd
  simp only [Bool.and_eq_true, decide_eq_true_eq, lt_emptyRun_iff]
  constructor
  · rintro ⟨⟨⟨trFits, dcuEmpty⟩, phaseRoom, auEmpty⟩, receive⟩
    refine ⟨trFits, ?_, phaseRoom, auEmpty, receive⟩
    intro idx lower upper
    exact dcuEmpty idx lower (by omega)
  · rintro ⟨trFits, fits⟩
    refine ⟨⟨⟨trFits, ?_⟩, fits.phaseRoom, fits.auEmpty⟩, fits.receive⟩
    intro idx lower upper
    exact fits.dcuEmpty idx lower (by omega)

/-- A candidate start computed in 32 bits is the difference of the chunks. -/
theorem ofNat_sub_trLength
    {trLength : UInt32}
    {stop : Nat}
    (small : stop < 2 ^ 32)
    (trFits : trLength.toNat ≤ stop) :
    UInt32.ofNat stop - trLength = UInt32.ofNat (stop - trLength.toNat) := by
  rw [← UInt32.toNat_inj, UInt32.toNat_sub_of_le, UInt32.toNat_ofNat_of_lt',
    UInt32.toNat_ofNat_of_lt']
  · exact Nat.lt_of_le_of_lt (Nat.sub_le ..) small
  · exact small
  · rw [UInt32.le_iff_toNat_le, UInt32.toNat_ofNat_of_lt' small]
    exact trFits

/-- The loop returns the start of the first end that passes the test. -/
theorem searchFrom_eq_find?
    {lines : Timelines}
    {trLength rsLength rphLength rangeOffset : UInt32}
    {state : SearchState}
    {idx count : Nat}
    (counts : Counts lines rphLength state idx)
    (small : idx + count ≤ 2 ^ 32) :
    searchFrom lines trLength rsLength rphLength rangeOffset state
        (List.range' idx count) =
      ((List.range' idx count).find?
        (acceptsEnd lines trLength rsLength rphLength rangeOffset)).map
        (fun stop => UInt32.ofNat (stop - trLength.toNat)) := by
  induction count generalizing state idx with
  | zero =>
      rfl
  | succ count inductionHypothesis =>
      have counted := counts.count
      rw [List.range'_succ, List.find?_cons, searchFrom]
      simp only [counted.dcuSum, gt_iff_lt]
      by_cases dcuFits : trLength.toNat < emptyRun lines.dcu (idx + 1)
      · have trFits : trLength.toNat ≤ idx := (lt_emptyRun_iff.mp dcuFits).1
        have startBound : idx - trLength.toNat < 2 ^ 32 := by omega
        rw [if_pos dcuFits, ofNat_sub_trLength (by omega) trFits,
          UInt32.toNat_ofNat_of_lt' startBound,
          counted.auIndices _ (by omega)]
        have sameTest :
            (decide (rphLength.toNat <
                emptyRun lines.trAu (idx - trLength.toNat + 1)) &&
              fitsReceive lines rsLength rphLength rangeOffset
                (UInt32.ofNat (idx - trLength.toNat))) =
              acceptsEnd lines trLength rsLength rphLength rangeOffset
                idx := by
          unfold acceptsEnd
          rw [decide_eq_true dcuFits, Bool.true_and]
        rw [sameTest]
        cases acceptsEnd lines trLength rsLength rphLength rangeOffset idx with
        | true =>
            rfl
        | false =>
            exact inductionHypothesis counted (by omega)
      · have rejected :
            acceptsEnd lines trLength rsLength rphLength rangeOffset idx =
              false := by
          unfold acceptsEnd
          rw [decide_eq_false dcuFits, Bool.false_and, Bool.false_and]
        rw [if_neg dcuFits, rejected]
        exact inductionHypothesis counted (by omega)

/-- Everything fits at `start` for the lengths given to `findIndex`. -/
abbrev HasRoomAt
    (lines : Timelines)
    (transmitLen receiveLen rangeOffset : UInt32)
    (start : Nat) :
    Prop :=
  FitsAt lines (chunkCount transmitLen) (chunkCount receiveLen)
    (chunkCount phaseDelay) rangeOffset start

private theorem findIndex_eq_map_find?
    {lines : Timelines}
    {transmitLen receiveLen rangeOffset depth : UInt32}
    (shallow : ¬ chunkCount transmitLen ≥ depth) :
    findIndex lines transmitLen receiveLen rangeOffset depth =
      ((List.range depth.toNat).find?
        (acceptsEnd lines (chunkCount transmitLen) (chunkCount receiveLen)
          (chunkCount phaseDelay) rangeOffset)).map
        (fun stop =>
          UInt32.ofNat (stop - (chunkCount transmitLen).toNat)) := by
  unfold findIndex
  rw [if_neg shallow, List.range_eq_range']
  apply searchFrom_eq_find? (Counts.initial ..)
  have := depth.toNat_lt
  omega

/-- A found index is the least one at which the scan fits within the depth. -/
theorem findIndex_eq_some_iff
    {lines : Timelines}
    {transmitLen receiveLen rangeOffset depth idx : UInt32} :
    findIndex lines transmitLen receiveLen rangeOffset depth = some idx ↔
      idx.toNat + (chunkCount transmitLen).toNat < depth.toNat ∧
        HasRoomAt lines transmitLen receiveLen rangeOffset idx.toNat ∧
        ∀ earlier, earlier < idx.toNat →
          ¬ HasRoomAt lines transmitLen receiveLen rangeOffset earlier := by
  by_cases deep : chunkCount transmitLen ≥ depth
  · unfold findIndex
    rw [if_pos deep]
    have deepNat := UInt32.le_iff_toNat_le.mp deep
    simp only [reduceCtorEq, false_iff, not_and]
    intro inDepth
    omega
  · rw [findIndex_eq_map_find? deep, Option.map_eq_some_iff]
    simp only [List.find?_range_eq_some, List.mem_range,
      acceptsEnd_eq_true_iff, Bool.not_eq_true', Bool.eq_false_iff, ne_eq]
    constructor
    · rintro ⟨stop, ⟨⟨trFits, fits⟩, inDepth, least⟩, rfl⟩
      have stopBound : stop - (chunkCount transmitLen).toNat < 2 ^ 32 := by
        have := depth.toNat_lt
        omega
      rw [UInt32.toNat_ofNat_of_lt' stopBound]
      refine ⟨by omega, fits, ?_⟩
      intro earlier before fitsEarlier
      apply least (earlier + (chunkCount transmitLen).toNat) (by omega)
      refine ⟨by omega, ?_⟩
      rw [Nat.add_sub_cancel]
      exact fitsEarlier
    · rintro ⟨inDepth, fits, least⟩
      refine
        ⟨idx.toNat + (chunkCount transmitLen).toNat,
          ⟨⟨by omega, ?_⟩, inDepth, ?_⟩, ?_⟩
      · rw [Nat.add_sub_cancel]
        exact fits
      · rintro stop before ⟨trFits, fitsEarlier⟩
        exact least _ (by omega) fitsEarlier
      · rw [Nat.add_sub_cancel]
        exact UInt32.ofNat_toNat

/-- No index is found exactly when the scan fits nowhere within the depth. -/
theorem findIndex_eq_none_iff
    {lines : Timelines}
    {transmitLen receiveLen rangeOffset depth : UInt32} :
    findIndex lines transmitLen receiveLen rangeOffset depth = none ↔
      ∀ start,
        start + (chunkCount transmitLen).toNat < depth.toNat →
        ¬ HasRoomAt lines transmitLen receiveLen rangeOffset start := by
  by_cases deep : chunkCount transmitLen ≥ depth
  · unfold findIndex
    rw [if_pos deep]
    have deepNat := UInt32.le_iff_toNat_le.mp deep
    simp only [true_iff]
    intro start inDepth
    omega
  · rw [findIndex_eq_map_find? deep, Option.map_eq_none_iff,
      List.find?_range_eq_none]
    simp only [acceptsEnd_eq_true_iff, Bool.not_eq_true', Bool.eq_false_iff,
      ne_eq, not_and]
    constructor
    · intro nowhere start inDepth fits
      apply nowhere _ inDepth (by omega)
      rw [Nat.add_sub_cancel]
      exact fits
    · intro nowhere stop inDepth trFits
      exact nowhere _ (by omega)

end Radar.Scheduler
