import Radar.Timeline

namespace Radar.Timeline

/-!
# Sectors between two times

A sector is labelled between the chunks that `get_idx_for` gives for two
times.  Those are the chunks that the times lie in, unless a time lies on a
chunk boundary.
-/

open Settings

/-- Chunk `chunk` contains a time from `first` to `last`. -/
def ChunkMeets (first last : UInt32) (chunk : Nat) : Prop :=
  ∃ time, first.toNat ≤ time ∧ time ≤ last.toNat ∧
    chunk * timeChunkLength.toNat ≤ time ∧
    time < (chunk + 1) * timeChunkLength.toNat

/-- Label the sector between two times. -/
def labelBetween
    (line : Timeline)
    (first last : UInt32)
    (label : TimelineLabel) :
    Timeline :=
  line.labelSector (getIdxFor first).toUInt32 (getIdxFor last).toUInt32 label

/--
Whatever the timeline shows, the label is written to the chunks that contain a
time from `first` to `last` and to no other chunk.  The index of a later time
is not smaller, and time zero has index zero.
-/
structure LabelsExactly
    (first last : UInt32)
    (label : TimelineLabel) :
    Prop where
  labelled :
    ∀ (line : Timeline) (chunk : Nat), chunk < timelineDepth.toNat →
      ChunkMeets first last chunk →
      (line.labelBetween first last label).getValueAt chunk = label
  unchanged :
    ∀ (line : Timeline) (chunk : Nat), chunk < timelineDepth.toNat →
      ¬ ChunkMeets first last chunk →
      (line.labelBetween first last label).getValueAt chunk =
        line.getValueAt chunk
  monotone : getIdxFor first ≤ getIdxFor last
  zero : first = 0 → getIdxFor first = 0

/-- Between ordered times the chunks that are met form an interval. -/
theorem chunkMeets_iff
    {first last : UInt32}
    (ordered : first.toNat ≤ last.toNat)
    (chunk : Nat) :
    ChunkMeets first last chunk ↔
      first.toNat / 10000 ≤ chunk ∧ chunk ≤ last.toNat / 10000 := by
  unfold ChunkMeets
  rw [toNat_timeChunkLength]
  constructor
  · rintro ⟨time, notBefore, notAfter, starts, ends⟩
    omega
  · rintro ⟨notBefore, notAfter⟩
    exact ⟨max first.toNat (chunk * 10000), by omega⟩

/-- Within the timeline the signed index is the chunk index of the time. -/
theorem toInt_getIdxFor
    {time : UInt32}
    (inHorizon : time.toNat ≤ 1000000000) :
    (getIdxFor time).toInt = chunkFor time.toNat := by
  have index := toNat_getIdxFor_of_le inHorizon
  have small : chunkFor time.toNat < 2 ^ 31 := by
    unfold chunkFor
    split <;> omega
  rw [← Int32.toInt_toBitVec, BitVec.toInt_eq_toNat_of_lt]
  · exact_mod_cast index
  · have same : (getIdxFor time).toBitVec.toNat = chunkFor time.toNat := index
    omega

/-- The first and the last chunk of a sector, and the wrap at the end. -/
theorem getValueAt_labelBetween
    (line : Timeline)
    {first last : UInt32}
    (label : TimelineLabel)
    (firstInHorizon : first.toNat < 1000000000)
    (lastInHorizon : last.toNat < 1000000000)
    {chunk : Nat}
    (inRing : chunk < 100000) :
    (line.labelBetween first last label).getValueAt chunk =
      if chunkFor first.toNat ≤ chunk ∧ chunk ≤ chunkFor last.toNat ∨
          chunk = 0 ∧ chunkFor last.toNat = 100000 then
        label
      else
        line.getValueAt chunk := by
  have firstIdx := toNat_getIdxFor_of_le firstInHorizon.le
  have lastIdx := toNat_getIdxFor_of_le lastInHorizon.le
  have firstBound : chunkFor first.toNat ≤ 100000 := by
    unfold chunkFor
    split <;> omega
  have lastBound : chunkFor last.toNat ≤ 100000 := by
    unfold chunkFor
    split <;> omega
  split
  · next covered =>
      rcases covered with inside | ⟨isFirst, wraps⟩
      · exact getValueAt_labelSector_of_mem (firstIdx ▸ inside.1)
          (lastIdx ▸ inside.2) rfl
      · exact getValueAt_labelSector_of_mem (firstIdx ▸ firstBound)
          (lastIdx ▸ wraps.ge) (by omega)
  · next uncovered =>
      refine getValueAt_labelSector_of_not_mem ?_
      intro idx lower upper same
      rw [firstIdx] at lower
      rw [lastIdx] at upper
      omega

/-- The index of time zero is one. -/
theorem getIdxFor_zero_ne : getIdxFor 0 ≠ 0 := by decide

/-- A label other than a given one. -/
theorem exists_ne_label (label : TimelineLabel) :
    ∃ other : TimelineLabel, other ≠ label := by
  cases label with
  | empty => exact ⟨.dcuReceive, by decide⟩
  | dcuReceive | dcuTransmit | auRephase | auCommandDelay
  | auChannelSwitch | dcuEnergyRestore => exact ⟨.empty, by decide⟩

/-- A sector that is labelled as it is meant starts off the boundaries. -/
theorem LabelsExactly.mod_ne_zero
    {first last : UInt32}
    {label : TimelineLabel}
    (exactly : LabelsExactly first last label)
    (ordered : first.toNat ≤ last.toNat)
    (inHorizon : last.toNat < 1000000000) :
    first.toNat % 10000 ≠ 0 := by
  intro onBoundary
  obtain ⟨other, isOther⟩ := exists_ne_label label
  have inRing : first.toNat / 10000 < 100000 := by omega
  have shown := exactly.labelled
    { new with timeline := fun _ => other } (first.toNat / 10000) inRing
    ((chunkMeets_iff ordered _).mpr (by omega))
  rw [getValueAt_labelBetween _ label (by omega) inHorizon inRing] at shown
  have isNext : chunkFor first.toNat = first.toNat / 10000 + 1 := by
    rw [chunkFor, if_pos onBoundary]
  split at shown
  · next covered =>
      have isZero : first = 0 := by
        rw [← UInt32.toNat_inj, UInt32.toNat_zero]
        omega
      exact getIdxFor_zero_ne (isZero ▸ exactly.zero isZero)
  · exact isOther shown

/-- It ends off the boundaries too, unless it wraps into its first chunk. -/
theorem LabelsExactly.mod_ne_zero_or
    {first last : UInt32}
    {label : TimelineLabel}
    (exactly : LabelsExactly first last label)
    (ordered : first.toNat ≤ last.toNat)
    (inHorizon : last.toNat < 1000000000) :
    last.toNat % 10000 ≠ 0 ∨
      first.toNat < 10000 ∧ last.toNat = 999990000 := by
  by_contra neither
  obtain ⟨onBoundary, notLast⟩ := not_or.mp neither
  rw [not_not] at onBoundary
  obtain ⟨other, isOther⟩ := exists_ne_label label
  have isNext : chunkFor last.toNat = last.toNat / 10000 + 1 := by
    rw [chunkFor, if_pos onBoundary]
  have starts : chunkFor first.toNat ≤ last.toNat / 10000 + 1 := by
    unfold chunkFor
    split <;> omega
  have inRing : (last.toNat / 10000 + 1) % 100000 < 100000 :=
    Nat.mod_lt _ (by decide)
  have kept := exactly.unchanged { new with timeline := fun _ => other }
    ((last.toNat / 10000 + 1) % 100000) inRing
    (mt (chunkMeets_iff ordered _).mp (by omega))
  rw [getValueAt_labelBetween _ label (by omega) inHorizon inRing,
    if_pos (by omega)] at kept
  exact isOther kept.symm

/-- The chunks between two times off the boundaries are labelled. -/
theorem LabelsExactly.of_mod_ne_zero
    {first last : UInt32}
    (label : TimelineLabel)
    (ordered : first.toNat ≤ last.toNat)
    (inHorizon : last.toNat < 1000000000)
    (starts : first.toNat % 10000 ≠ 0)
    (ends :
      last.toNat % 10000 ≠ 0 ∨
        first.toNat < 10000 ∧ last.toNat = 999990000) :
    LabelsExactly first last label := by
  have isFirst : chunkFor first.toNat = first.toNat / 10000 := by
    rw [chunkFor, if_neg starts]
  have isLast :
      chunkFor last.toNat = last.toNat / 10000 ∨
        first.toNat < 10000 ∧ last.toNat = 999990000 ∧
          chunkFor last.toNat = 100000 := by
    rcases ends with offBoundary | ⟨inFirst, atLast⟩
    · exact .inl (by rw [chunkFor, if_neg offBoundary])
    · exact .inr ⟨inFirst, atLast, by rw [atLast]; rfl⟩
  constructor
  · intro line chunk inRing meets
    rw [chunkMeets_iff ordered] at meets
    rw [getValueAt_labelBetween _ label (by omega) inHorizon inRing,
      if_pos (by omega)]
  · intro line chunk inRing avoids
    rw [chunkMeets_iff ordered] at avoids
    rw [toNat_timelineDepth] at inRing
    rw [getValueAt_labelBetween _ label (by omega) inHorizon inRing,
      if_neg (by omega)]
  · rw [Int32.le_iff_toInt_le, toInt_getIdxFor (by omega),
      toInt_getIdxFor inHorizon.le]
    omega
  · rintro rfl
    exact absurd rfl starts

/--
The sector between two times of the timeline is labelled as it is meant
exactly if neither time lies on a chunk boundary; only a sector from within
the first chunk may end at the start of the last one.
-/
theorem labelsExactly_iff
    {first last : UInt32}
    (label : TimelineLabel)
    (ordered : first ≤ last)
    (inTimeline : last < timelineDepth * timeChunkLength) :
    LabelsExactly first last label ↔
      first % timeChunkLength ≠ 0 ∧
        (last % timeChunkLength ≠ 0 ∨
          first < timeChunkLength ∧
            last = (timelineDepth - 1) * timeChunkLength) := by
  have orderedNat := UInt32.le_iff_toNat_le.mp ordered
  have inHorizon : last.toNat < 1000000000 :=
    UInt32.lt_iff_toNat_lt.mp inTimeline
  have onBoundary (time : UInt32) :
      time % timeChunkLength = 0 ↔ time.toNat % 10000 = 0 := by
    rw [← UInt32.toNat_inj, UInt32.toNat_mod]
    rfl
  have inFirst : first < timeChunkLength ↔ first.toNat < 10000 :=
    UInt32.lt_iff_toNat_lt
  have atLast :
      last = (timelineDepth - 1) * timeChunkLength ↔
        last.toNat = 999990000 := by
    rw [← UInt32.toNat_inj]
    rfl
  rw [ne_eq, ne_eq, onBoundary, onBoundary, inFirst, atLast]
  constructor
  · intro exactly
    exact ⟨exactly.mod_ne_zero orderedNat inHorizon,
      exactly.mod_ne_zero_or orderedNat inHorizon⟩
  · rintro ⟨starts, ends⟩
    exact .of_mod_ne_zero label orderedNat inHorizon starts ends

/-- A sector from 15 us to 25 us. -/
theorem labelsExactly_iff_fifteen :
    LabelsExactly 15000 25000 .dcuReceive :=
  (labelsExactly_iff .dcuReceive (by decide) (by decide)).mpr
    ⟨by decide, .inl (by decide)⟩

/-- The sector from 10 us to 15 us, both in chunk 1, is not labelled. -/
theorem boundary_not_labelsExactly :
    ¬ ∀ (first last : UInt32) (label : TimelineLabel), first ≤ last →
      last < timelineDepth * timeChunkLength →
      LabelsExactly first last label := by
  intro claim
  have exactly := claim 10000 15000 .dcuReceive (by decide) (by decide)
  have shown := exactly.labelled new 1 (by decide)
    ⟨10000, by decide, by decide, by decide, by decide⟩
  exact absurd shown (by decide)

end Radar.Timeline
