import Radar.Settings
import Radar.SlidingWindow

namespace Radar

/-!
# The chunk timeline

A timeline is a ring of labelled time chunks with the time of its first
chunk.  The operations are those of the scheduler's `Timeline` class; the
characterizing lemmas read each of them through the ring.
-/

/-- What a time chunk is booked for. -/
inductive TimelineLabel where
  | empty
  | dcuReceive
  | dcuTransmit
  | auRephase
  | auCommandDelay
  | auChannelSwitch
  | dcuEnergyRestore
  deriving Repr, DecidableEq

/--
A ring of `timelineDepth` chunks, its first chunk and the time of that chunk.
The invariant that the first chunk lies on the ring is the type of `startIdx`.
-/
structure Timeline where
  startTime : UInt64
  startIdx : Fin 100000
  timeline : Fin 100000 → TimelineLabel

namespace Timeline

open Settings

/-- A fresh timeline starts at time zero with every chunk empty. -/
def new : Timeline where
  startTime := 0
  startIdx := ⟨0, by decide⟩
  timeline := fun _ => .empty

/-- The ring of chunks read from the first chunk on. -/
def ring (line : Timeline) :
    SlidingWindow.Ring TimelineLabel 100000 where
  head := line.startIdx
  cells := line.timeline

/-- Label of the chunk `idx` places after the first one. -/
def getValueAt (line : Timeline) (idx : Nat) : TimelineLabel :=
  line.timeline (line.ring.slot idx)

/-- Assign through the reference that `getValueAt` returns in the source. -/
def setValueAt
    (line : Timeline)
    (idx : Nat)
    (label : TimelineLabel) :
    Timeline :=
  { line with
    timeline := Function.update line.timeline (line.ring.slot idx) label }

/-- Do `length` chunks from `idx` on exist and all satisfy a predicate? -/
def checkIndex
    (line : Timeline)
    (length idx : UInt32)
    (pred : TimelineLabel → Bool) :
    Bool :=
  if length > timelineDepth then
    false
  else if idx > timelineDepth then
    false
  else
    (List.range length.toNat).all fun offset =>
      decide (idx.toNat + offset < timelineDepth.toNat) &&
        pred (line.getValueAt (idx.toNat + offset))

/-- Label the chunks from `startIdx` to `stopIdx`, both included. -/
def labelSector
    (line : Timeline)
    (startIdx stopIdx : UInt32)
    (label : TimelineLabel) :
    Timeline :=
  if startIdx > stopIdx then
    line
  else
    (List.range' startIdx.toNat (stopIdx.toNat + 1 - startIdx.toNat)).foldl
      (fun current idx => current.setValueAt idx label) line

/--
Index of the chunk for a time relative to the first chunk, or `-1` when the
time lies beyond the timeline.  A time on a chunk boundary is given the chunk
after the one that starts there.
-/
def getIdxFor (time : UInt32) : Int32 :=
  if time > timelineDepth * timeChunkLength then
    -1
  else if time % timeChunkLength = 0 then
    (time / timeChunkLength + 1).toInt32
  else
    (time / timeChunkLength).toInt32

/-- Move the first chunk to a later time and clear the chunks left behind. -/
def moveTimeline (line : Timeline) (time : UInt64) : Timeline :=
  if time < line.startTime then
    line
  else
    let timeOffset := (time - line.startTime).toUInt32
    let steps := (timeOffset / timeChunkLength).toNat
    let cleared :=
      (List.range steps).foldl
        (fun current offset => current.setValueAt offset .empty)
        { line with
          startTime := multiplesOf time timeChunkLength.toUInt64 }
    { cleared with
      startIdx := cleared.ring.slot steps }

/-! ## Reading the operations through the ring -/

theorem getValueAt_eq_ring
    (line : Timeline)
    (idx : Nat) :
    line.getValueAt idx = line.ring.get idx := rfl

private theorem foldl_setValueAt
    (line : Timeline)
    (first count : Nat)
    (label : TimelineLabel) :
    (List.range' first count).foldl
        (fun current idx => current.setValueAt idx label) line =
      { line with
        timeline := (line.ring.fill first count label).cells } := by
  induction count generalizing line first with
  | zero =>
      rfl
  | succ count inductionHypothesis =>
      rw [List.range'_succ, List.foldl_cons, inductionHypothesis]
      rfl

/-- Labelling a sector fills a run of the ring. -/
theorem ring_labelSector
    (line : Timeline)
    (startIdx stopIdx : UInt32)
    (label : TimelineLabel) :
    (line.labelSector startIdx stopIdx label).ring =
      line.ring.fill startIdx.toNat
        (stopIdx.toNat + 1 - startIdx.toNat) label := by
  unfold labelSector
  split
  · next reversed =>
      have noChunks :
          stopIdx.toNat + 1 - startIdx.toNat = 0 := by
        have := UInt32.lt_iff_toNat_lt.mp reversed
        omega
      rw [noChunks]
      rfl
  · rw [foldl_setValueAt]
    ext1
    · exact (SlidingWindow.Ring.head_fill line.ring _ _ _).symm
    · rfl

@[simp] theorem startTime_labelSector
    (line : Timeline)
    (startIdx stopIdx : UInt32)
    (label : TimelineLabel) :
    (line.labelSector startIdx stopIdx label).startTime =
      line.startTime := by
  unfold labelSector
  split
  · rfl
  · rw [foldl_setValueAt]

@[simp] theorem startIdx_labelSector
    (line : Timeline)
    (startIdx stopIdx : UInt32)
    (label : TimelineLabel) :
    (line.labelSector startIdx stopIdx label).startIdx =
      line.startIdx := by
  unfold labelSector
  split
  · rfl
  · rw [foldl_setValueAt]

/-- A chunk inside a labelled sector carries the new label. -/
theorem getValueAt_labelSector_of_mem
    {line : Timeline}
    {startIdx stopIdx : UInt32}
    {label : TimelineLabel}
    {chunk idx : Nat}
    (lower : startIdx.toNat ≤ idx)
    (upper : idx ≤ stopIdx.toNat)
    (same : chunk % 100000 = idx % 100000) :
    (line.labelSector startIdx stopIdx label).getValueAt chunk = label := by
  rw [getValueAt_eq_ring, ring_labelSector]
  exact SlidingWindow.Ring.get_fill_of_mem lower (by omega) same

/-- A chunk outside a labelled sector keeps its label. -/
theorem getValueAt_labelSector_of_not_mem
    {line : Timeline}
    {startIdx stopIdx : UInt32}
    {label : TimelineLabel}
    {chunk : Nat}
    (outside :
      ∀ idx, startIdx.toNat ≤ idx → idx ≤ stopIdx.toNat →
        chunk % 100000 ≠ idx % 100000) :
    (line.labelSector startIdx stopIdx label).getValueAt chunk =
      line.getValueAt chunk := by
  rw [getValueAt_eq_ring, ring_labelSector]
  exact SlidingWindow.Ring.get_fill_of_not_mem
    (fun idx lower upper => outside idx lower (by omega))

/-- Moving forward clears the chunks left behind and turns the ring. -/
theorem ring_moveTimeline
    {line : Timeline}
    {time : UInt64}
    (forward : line.startTime ≤ time) :
    (line.moveTimeline time).ring =
      (line.ring.fill 0
        ((time - line.startTime).toUInt32 / timeChunkLength).toNat
        .empty).advance
        ((time - line.startTime).toUInt32 / timeChunkLength).toNat := by
  unfold moveTimeline
  rw [if_neg (UInt64.not_lt.mpr forward)]
  simp only [List.range_eq_range', foldl_setValueAt]
  ext1
  · simp only [SlidingWindow.Ring.advance, SlidingWindow.Ring.slot,
      SlidingWindow.Ring.head_fill]
    rfl
  · rfl

theorem startTime_moveTimeline
    {line : Timeline}
    {time : UInt64}
    (forward : line.startTime ≤ time) :
    (line.moveTimeline time).startTime =
      multiplesOf time timeChunkLength.toUInt64 := by
  unfold moveTimeline
  rw [if_neg (UInt64.not_lt.mpr forward)]
  simp only [List.range_eq_range', foldl_setValueAt]

/-! ## Specifications -/

/-- `checkIndex` accepts exactly the existing chunks that satisfy `pred`. -/
theorem checkIndex_eq_true_iff
    (line : Timeline)
    (length idx : UInt32)
    (pred : TimelineLabel → Bool) :
    line.checkIndex length idx pred = true ↔
      length.toNat ≤ 100000 ∧ idx.toNat ≤ 100000 ∧
        ∀ offset, offset < length.toNat →
          idx.toNat + offset < 100000 ∧
            pred (line.getValueAt (idx.toNat + offset)) = true := by
  unfold checkIndex
  split
  · next tooLong =>
      have tooLongNat := UInt32.lt_iff_toNat_lt.mp tooLong
      simp only [toNat_timelineDepth] at tooLongNat
      simp only [Bool.false_eq_true, false_iff]
      omega
  · next fits =>
      have lengthFits := UInt32.le_iff_toNat_le.mp (UInt32.not_lt.mp fits)
      simp only [toNat_timelineDepth] at lengthFits
      split
      · next tooFar =>
          have tooFarNat := UInt32.lt_iff_toNat_lt.mp tooFar
          simp only [toNat_timelineDepth] at tooFarNat
          simp only [Bool.false_eq_true, false_iff]
          omega
      · next near =>
          have idxFits := UInt32.le_iff_toNat_le.mp (UInt32.not_lt.mp near)
          simp only [toNat_timelineDepth] at idxFits
          simp only [List.all_eq_true, List.mem_range, Bool.and_eq_true,
            decide_eq_true_eq]
          simp only [toNat_timelineDepth]
          exact ⟨fun all => ⟨lengthFits, idxFits, all⟩,
            fun all => all.2.2⟩

private theorem toNat_horizon :
    (timelineDepth * timeChunkLength).toNat = 1000000000 := rfl

/-- Chunk index of a time within the timeline. -/
def chunkFor (time : Nat) : Nat :=
  if time % 10000 = 0 then time / 10000 + 1 else time / 10000

/-- Within the horizon `getIdxFor` gives the chunk index of a time. -/
theorem toNat_getIdxFor_of_le
    {time : UInt32}
    (inHorizon : time.toNat ≤ 1000000000) :
    (getIdxFor time).toUInt32.toNat = chunkFor time.toNat := by
  have notBeyond : ¬ time > timelineDepth * timeChunkLength := by
    intro beyond
    have beyondNat := UInt32.lt_iff_toNat_lt.mp beyond
    rw [toNat_horizon] at beyondNat
    omega
  have boundary :
      time % timeChunkLength = 0 ↔ time.toNat % 10000 = 0 := by
    rw [← UInt32.toNat_inj, UInt32.toNat_mod]
    rfl
  unfold getIdxFor chunkFor
  rw [if_neg notBeyond]
  simp only [boundary]
  split
  · rw [UInt32.toUInt32_toInt32, UInt32.toNat_add, UInt32.toNat_div]
    simp only [toNat_timeChunkLength, UInt32.toNat_one]
    omega
  · rw [UInt32.toUInt32_toInt32, UInt32.toNat_div]
    rfl

/-- Beyond the horizon `getIdxFor` gives `-1`, the largest unsigned index. -/
theorem toNat_getIdxFor_of_lt
    {time : UInt32}
    (beyond : 1000000000 < time.toNat) :
    (getIdxFor time).toUInt32.toNat = 4294967295 := by
  have beyondHorizon : time > timelineDepth * timeChunkLength := by
    rw [gt_iff_lt, UInt32.lt_iff_toNat_lt, toNat_horizon]
    exact beyond
  unfold getIdxFor
  rw [if_pos beyondHorizon]
  rfl

end Timeline

end Radar
