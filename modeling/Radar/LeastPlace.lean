import Mathlib.Order.Bounds.Defs
import Radar.SchedulerSearch

namespace Radar.Scheduler

/-!
# The search for a place and its declarative definition

`PlaceAt` says over the naturals where a scan may be placed.  `find_index`
keeps two counters and computes its times in 32 bits; within the timeline it
returns the least place all the same.
-/

open Settings

/-- Receive chunks may also lie in the restore time of a transmission. -/
def isEmptyOrRestore (label : TimelineLabel) : Bool :=
  label = .empty ∨ label = .dcuEnergyRestore

/-- The antenna must not be booked for anything. -/
def isEmpty (label : TimelineLabel) : Bool :=
  label = .empty

/-- Chunks needed for a length, over the naturals. -/
def chunksOf (length : UInt32) : Nat :=
  (length.toNat + 9999) / 10000

/-- A scan may be placed with its transmission starting at a chunk. -/
structure PlaceAt
    (lines : Timelines)
    (transmitLen receiveLen rangeOffset depth : UInt32)
    (start : Nat) :
    Prop where
  inDepth : start + chunksOf transmitLen < depth.toNat
  dcuEmpty :
    ∀ chunk, start ≤ chunk → chunk ≤ start + chunksOf transmitLen →
      lines.dcu.getValueAt chunk = .empty
  phaseRoom : chunksOf phaseDelay ≤ start
  trAuEmpty :
    ∀ chunk, start - chunksOf phaseDelay ≤ chunk → chunk ≤ start →
      lines.trAu.getValueAt chunk = .empty
  receive :
    lines.dcu.checkIndex
      (UInt32.ofNat (chunksOf receiveLen))
      (Timeline.getIdxFor
        (UInt32.ofNat
          (start * timeChunkLength.toNat + rangeOffset.toNat))).toUInt32
      isEmptyOrRestore = true
  rephase :
    lines.rsAu.checkIndex
      (UInt32.ofNat (chunksOf phaseDelay))
      (Timeline.getIdxFor
        (UInt32.ofNat
          (start * timeChunkLength.toNat + rangeOffset.toNat -
            phaseDelay.toNat))).toUInt32
      isEmpty = true

theorem toNat_chunkCount (length : UInt32) :
    (chunkCount length).toNat = chunksOf length := by
  have bounded := length.toNat_lt
  rw [chunkCount, UInt32.toNat_ofNat_of_lt']
  · rfl
  · have : UInt32.size = 4294967296 := rfl
    omega

/-- Start of the receive part, computed in 32 bits without a wrap. -/
theorem toNat_receiveStart
    {start : Nat}
    {rangeOffset : UInt32}
    (shallow : start < 100000)
    (inTimeline : rangeOffset.toNat ≤ 1000000000) :
    (UInt32.ofNat start * timeChunkLength + rangeOffset).toNat =
      start * timeChunkLength.toNat + rangeOffset.toNat := by
  have word : start < 2 ^ 32 := by omega
  rw [UInt32.toNat_add, UInt32.toNat_mul, UInt32.toNat_ofNat_of_lt' word,
    toNat_timeChunkLength]
  omega

/-- The receive start lies at least one phase delay after the first chunk. -/
theorem phaseDelay_le_receiveStart
    {start : Nat}
    {rangeOffset : UInt32}
    (shallow : start < 100000)
    (inTimeline : rangeOffset.toNat ≤ 1000000000)
    (phaseRoom : chunksOf phaseDelay ≤ start) :
    phaseDelay ≤ UInt32.ofNat start * timeChunkLength + rangeOffset := by
  have chunks : chunksOf phaseDelay = 27 := rfl
  rw [UInt32.le_iff_toNat_le, toNat_receiveStart shallow inTimeline,
    toNat_phaseDelay, toNat_timeChunkLength]
  omega

/-- The two window checks, on times that have not wrapped. -/
theorem fitsReceive_eq_true_iff
    {lines : Timelines}
    {receiveLen rangeOffset : UInt32}
    {start : Nat}
    (shallow : start < 100000)
    (inTimeline : rangeOffset.toNat ≤ 1000000000)
    (phaseRoom : chunksOf phaseDelay ≤ start) :
    fitsReceive lines (chunkCount receiveLen) (chunkCount phaseDelay)
        rangeOffset (UInt32.ofNat start) = true ↔
      lines.dcu.checkIndex
          (UInt32.ofNat (chunksOf receiveLen))
          (Timeline.getIdxFor
            (UInt32.ofNat
              (start * timeChunkLength.toNat +
                rangeOffset.toNat))).toUInt32
          isEmptyOrRestore = true ∧
        lines.rsAu.checkIndex
          (UInt32.ofNat (chunksOf phaseDelay))
          (Timeline.getIdxFor
            (UInt32.ofNat
              (start * timeChunkLength.toNat + rangeOffset.toNat -
                phaseDelay.toNat))).toUInt32
          isEmpty = true := by
  have startTime := toNat_receiveStart shallow inTimeline
  have late := phaseDelay_le_receiveStart shallow inTimeline phaseRoom
  have rephaseTime :
      UInt32.ofNat start * timeChunkLength + rangeOffset - phaseDelay =
        UInt32.ofNat
          (start * timeChunkLength.toNat + rangeOffset.toNat -
            phaseDelay.toNat) := by
    rw [← startTime, ← UInt32.toNat_sub_of_le _ _ late,
      UInt32.ofNat_toNat]
  have receiveTime :
      UInt32.ofNat start * timeChunkLength + rangeOffset =
        UInt32.ofNat
          (start * timeChunkLength.toNat + rangeOffset.toNat) := by
    rw [← startTime, UInt32.ofNat_toNat]
  rw [fitsReceive, Bool.and_eq_true]
  simp only [rephaseTime]
  simp only [receiveTime]
  rfl

/-- What the loop requires of a start is what the definition requires. -/
theorem placeAt_iff
    {lines : Timelines}
    {transmitLen receiveLen rangeOffset depth : UInt32}
    {start : Nat}
    (inTimeline : rangeOffset.toNat ≤ 1000000000)
    (inDepth : depth.toNat ≤ 100000) :
    PlaceAt lines transmitLen receiveLen rangeOffset depth start ↔
      start + (chunkCount transmitLen).toNat < depth.toNat ∧
        HasRoomAt lines transmitLen receiveLen rangeOffset start := by
  constructor
  · intro place
    have shallow : start < 100000 := by
      have := place.inDepth
      omega
    refine ⟨?_, ?_, ?_, ?_, ?_⟩
    · rw [toNat_chunkCount]
      exact place.inDepth
    · rw [toNat_chunkCount]
      exact place.dcuEmpty
    · rw [toNat_chunkCount]
      exact place.phaseRoom
    · rw [toNat_chunkCount]
      exact place.trAuEmpty
    · exact (fitsReceive_eq_true_iff shallow inTimeline
        place.phaseRoom).mpr ⟨place.receive, place.rephase⟩
  · rintro ⟨fitsDepth, dcuEmpty, phaseRoom, auEmpty, receive⟩
    rw [toNat_chunkCount] at fitsDepth dcuEmpty phaseRoom auEmpty
    have windows :=
      (fitsReceive_eq_true_iff (by omega) inTimeline phaseRoom).mp receive
    exact ⟨fitsDepth, dcuEmpty, phaseRoom, auEmpty, windows.1, windows.2⟩

/-- The counters of the loop after some chunks. -/
def counted (lines : Timelines) (chunks : Nat) : SearchState :=
  (List.range chunks).foldl
    (fun state idx => state.count lines (chunkCount phaseDelay) idx) {}

theorem counts_counted (lines : Timelines) (chunks : Nat) :
    Counts lines (chunkCount phaseDelay) (counted lines chunks) chunks := by
  induction chunks with
  | zero =>
      exact Counts.initial ..
  | succ chunks inductionHypothesis =>
      rw [counted, List.range_succ, List.foldl_concat]
      exact inductionHypothesis.count

/-- A start that the loop tests leaves room for the phase change. -/
theorem phaseRoom_of_auIndices
    {lines : Timelines}
    {chunks start : Nat}
    (before : start < chunks)
    (tested : (counted lines chunks).auIndices start = true) :
    chunksOf phaseDelay ≤ start := by
  rw [(counts_counted lines chunks).auIndices start before,
    decide_eq_true_eq, lt_emptyRun_iff, toNat_chunkCount] at tested
  exact tested.1

section Search

variable
  {lines : Timelines}
  {transmitLen receiveLen rangeOffset depth : UInt32}

/-- The search returns the least place. -/
theorem findIndex_eq_some_iff_isLeast
    (inTimeline : rangeOffset.toNat ≤ 1000000000)
    (inDepth : depth.toNat ≤ 100000)
    (idx : UInt32) :
    findIndex lines transmitLen receiveLen rangeOffset depth = some idx ↔
      IsLeast
        {start |
          PlaceAt lines transmitLen receiveLen rangeOffset depth start}
        idx.toNat := by
  rw [findIndex_eq_some_iff]
  constructor
  · rintro ⟨fitsDepth, hasRoom, least⟩
    refine ⟨(placeAt_iff inTimeline inDepth).mpr ⟨fitsDepth, hasRoom⟩, ?_⟩
    intro start place
    by_contra earlier
    exact least start (Nat.lt_of_not_le earlier)
      ((placeAt_iff inTimeline inDepth).mp place).2
  · rintro ⟨place, least⟩
    obtain ⟨fitsDepth, hasRoom⟩ :=
      (placeAt_iff inTimeline inDepth).mp place
    refine ⟨fitsDepth, hasRoom, ?_⟩
    intro earlier before roomEarlier
    have notLess : idx.toNat ≤ earlier :=
      least ((placeAt_iff inTimeline inDepth).mpr
        ⟨by omega, roomEarlier⟩)
    omega

/-- The search gives up exactly when there is no place. -/
theorem findIndex_eq_none_iff_not_exists
    (inTimeline : rangeOffset.toNat ≤ 1000000000)
    (inDepth : depth.toNat ≤ 100000) :
    findIndex lines transmitLen receiveLen rangeOffset depth = none ↔
      ¬ ∃ start,
        PlaceAt lines transmitLen receiveLen rangeOffset depth start := by
  rw [findIndex_eq_none_iff, not_exists]
  constructor
  · intro nowhere start place
    obtain ⟨fitsDepth, hasRoom⟩ :=
      (placeAt_iff inTimeline inDepth).mp place
    exact nowhere start fitsDepth hasRoom
  · intro nowhere start fitsDepth hasRoom
    exact nowhere start
      ((placeAt_iff inTimeline inDepth).mpr ⟨fitsDepth, hasRoom⟩)

/-- Where the loop tests the receive part, its times do not wrap. -/
theorem receiveStart_of_tested
    (inTimeline : rangeOffset.toNat ≤ 1000000000)
    {idx : Nat}
    (shallow : idx < 100000)
    (dcuFits :
      (counted lines (idx + 1)).dcuSum > (chunkCount transmitLen).toNat)
    (tested :
      (counted lines (idx + 1)).auIndices
        (UInt32.ofNat idx - chunkCount transmitLen).toNat = true) :
    ((UInt32.ofNat idx - chunkCount transmitLen) * timeChunkLength +
          rangeOffset).toNat =
        (UInt32.ofNat idx - chunkCount transmitLen).toNat *
            timeChunkLength.toNat +
          rangeOffset.toNat ∧
      phaseDelay ≤
        (UInt32.ofNat idx - chunkCount transmitLen) * timeChunkLength +
          rangeOffset := by
  have trFits : (chunkCount transmitLen).toNat ≤ idx := by
    rw [(counts_counted lines (idx + 1)).dcuSum, gt_iff_lt,
      lt_emptyRun_iff] at dcuFits
    exact dcuFits.1
  have difference :
      UInt32.ofNat idx - chunkCount transmitLen =
        UInt32.ofNat (idx - (chunkCount transmitLen).toNat) :=
    ofNat_sub_trLength (by omega) trFits
  have small : idx - (chunkCount transmitLen).toNat < 2 ^ 32 := by omega
  rw [difference] at tested ⊢
  rw [UInt32.toNat_ofNat_of_lt' small] at tested ⊢
  exact ⟨toNat_receiveStart (by omega) inTimeline,
    phaseDelay_le_receiveStart (by omega) inTimeline
      (phaseRoom_of_auIndices (by omega) tested)⟩

end Search

/--
The search returns the least place, and none exactly when there is no place.
Wherever it tests the receive part, the times that it computes do not wrap.
-/
theorem findIndex_isLeast
    (lines : Timelines)
    (transmitLen receiveLen : UInt32)
    {rangeOffset depth : UInt32}
    (inTimeline : rangeOffset ≤ timelineDepth * timeChunkLength)
    (inDepth : depth ≤ timelineDepth) :
    (∀ idx,
      findIndex lines transmitLen receiveLen rangeOffset depth = some idx ↔
        IsLeast
          {start |
            PlaceAt lines transmitLen receiveLen rangeOffset depth start}
          idx.toNat) ∧
      (findIndex lines transmitLen receiveLen rangeOffset depth = none ↔
        ¬ ∃ start,
          PlaceAt lines transmitLen receiveLen rangeOffset depth start) ∧
      ∀ idx, idx < depth.toNat →
        let state := counted lines (idx + 1)
        let trIdx := UInt32.ofNat idx - chunkCount transmitLen
        state.dcuSum > (chunkCount transmitLen).toNat →
        state.auIndices trIdx.toNat = true →
        let rsStartTime := trIdx * timeChunkLength + rangeOffset
        rsStartTime.toNat =
            trIdx.toNat * timeChunkLength.toNat + rangeOffset.toNat ∧
          phaseDelay ≤ rsStartTime := by
  have inHorizon : rangeOffset.toNat ≤ 1000000000 :=
    UInt32.le_iff_toNat_le.mp inTimeline
  have shallow : depth.toNat ≤ 100000 := UInt32.le_iff_toNat_le.mp inDepth
  refine
    ⟨findIndex_eq_some_iff_isLeast inHorizon shallow,
      findIndex_eq_none_iff_not_exists inHorizon shallow, ?_⟩
  intro idx inLoop
  simp only
  intro dcuFits tested
  exact receiveStart_of_tested inHorizon (by omega) dcuFits tested

/-- A pulse of 1 us for a target 150 km away is placed at chunk 27. -/
theorem findIndex_isLeast_new :
    IsLeast {start | PlaceAt Timelines.new 22300 6000 725000 300 start} 27 :=
  ((findIndex_isLeast Timelines.new 22300 6000
    (by decide) (by decide)).1 27).mp (by decide +kernel)

end Radar.Scheduler
