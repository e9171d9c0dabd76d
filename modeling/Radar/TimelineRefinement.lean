import Radar.Timeline

namespace Radar

/-!
# Timelines refine a map from absolute chunks to labels

Absolute chunk `n` covers the nanoseconds from `10000 * n` on.  After the move
to millisecond `tick` a timeline shows the absolute chunks
`100 * tick .. 100 * tick + 99999`.  The abstract state is the list of all
writes so far, newest first; a chunk has the label of its newest write.
-/

/-- One write of a label to the absolute chunks `first .. last`. -/
structure ChunkWrite where
  first : Nat
  last : Nat
  label : TimelineLabel
  deriving Repr, DecidableEq

/-- Label given to an absolute chunk by the newest write that covers it. -/
def lastWritten : List ChunkWrite → Nat → TimelineLabel
  | [], _ => .empty
  | write :: earlier, chunk =>
      if write.first ≤ chunk ∧ chunk ≤ write.last then
        write.label
      else
        lastWritten earlier chunk

/-- Chunks above every write have never been written. -/
theorem lastWritten_of_above
    {writes : List ChunkWrite}
    {chunk : Nat}
    (above : ∀ write ∈ writes, write.last < chunk) :
    lastWritten writes chunk = .empty := by
  induction writes with
  | nil =>
      rfl
  | cons write earlier inductionHypothesis =>
      have writeBelow : write.last < chunk :=
        above write (by simp)
      unfold lastWritten
      rw [if_neg (by omega)]
      apply inductionHypothesis
      intro other member
      exact above other (List.mem_cons_of_mem write member)

namespace Timeline

open Settings

/-- A move of exactly one millisecond clears and passes 100 chunks. -/
theorem ring_moveTimeline_tick
    {line : Timeline}
    {time : UInt64}
    (oneTick : time.toNat = line.startTime.toNat + 1000000) :
    (line.moveTimeline time).ring =
      (line.ring.fill 0 100 .empty).advance 100 := by
  have forward : line.startTime ≤ time :=
    UInt64.le_iff_toNat_le.mpr (by omega)
  have offset :
      ((time - line.startTime).toUInt32 / timeChunkLength).toNat = 100 := by
    rw [UInt32.toNat_div, UInt64.toNat_toUInt32,
      UInt64.toNat_sub_of_le _ _ forward, oneTick]
    simp
  rw [ring_moveTimeline forward, offset]

/-- A move to a chunk boundary makes that boundary the new start time. -/
theorem toNat_startTime_moveTimeline
    {line : Timeline}
    {time : UInt64}
    (forward : line.startTime ≤ time)
    (boundary : time.toNat % 10000 = 0) :
    (line.moveTimeline time).startTime.toNat = time.toNat := by
  rw [startTime_moveTimeline forward, toNat_multiplesOf_uint64,
    UInt32.toNat_toUInt64, toNat_timeChunkLength,
    roundUp_of_mod_eq_zero boundary, Nat.mod_eq_of_lt time.toNat_lt]

/--
Runs of a fresh timeline that is moved to 0 ms, 1 ms, 2 ms, ... and labelled
any number of times in between.  The run records the millisecond reached and
the absolute chunks of every write, newest first.
-/
inductive TickRun : Nat → List ChunkWrite → Timeline → Prop where
  | first :
      TickRun 0 [] (new.moveTimeline 0)
  | label
      {tick : Nat}
      {writes : List ChunkWrite}
      {line : Timeline}
      (startIdx stopIdx : UInt32)
      (label : TimelineLabel) :
      TickRun tick writes line →
      startIdx ≤ stopIdx →
      stopIdx < timelineDepth →
      TickRun tick
        (⟨100 * tick + startIdx.toNat,
          100 * tick + stopIdx.toNat, label⟩ :: writes)
        (line.labelSector startIdx stopIdx label)
  | move
      {tick : Nat}
      {writes : List ChunkWrite}
      {line : Timeline}
      (time : UInt64) :
      TickRun tick writes line →
      time.toNat = (tick + 1) * 1000000 →
      TickRun (tick + 1) writes (line.moveTimeline time)

/-- A timeline stands at `tick` and shows the newest writes. -/
structure Refines
    (tick : Nat)
    (writes : List ChunkWrite)
    (line : Timeline) :
    Prop where
  shown : line.ring.Shows (100 * tick) (lastWritten writes)
  inWindow : ∀ write ∈ writes, write.last < 100 * tick + 100000
  startTime : line.startTime.toNat = tick * 1000000
  startIdx : line.startIdx.val = 100 * tick % 100000

namespace Refines

/-- Labelling a sector adds one write to the abstract state. -/
theorem labelSector
    {tick : Nat}
    {writes : List ChunkWrite}
    {line : Timeline}
    (refines : Refines tick writes line)
    {startIdx stopIdx : UInt32}
    (label : TimelineLabel)
    (ordered : startIdx ≤ stopIdx)
    (inRing : stopIdx < timelineDepth) :
    Refines tick
      (⟨100 * tick + startIdx.toNat,
        100 * tick + stopIdx.toNat, label⟩ :: writes)
      (line.labelSector startIdx stopIdx label) := by
  have orderedNat := UInt32.le_iff_toNat_le.mp ordered
  have inRingNat := UInt32.lt_iff_toNat_lt.mp inRing
  rw [toNat_timelineDepth] at inRingNat
  refine ⟨?_, ?_, ?_, ?_⟩
  · rw [ring_labelSector]
    have inWindow :
        startIdx.toNat + (stopIdx.toNat + 1 - startIdx.toNat) ≤ 100000 := by
      omega
    have filled := refines.shown.fill label inWindow
    intro offset offsetInRing
    rw [filled offset offsetInRing, lastWritten]
    have sameRange :
        (100 * tick + startIdx.toNat ≤ 100 * tick + offset ∧
            100 * tick + offset < 100 * tick +
              (startIdx.toNat + (stopIdx.toNat + 1 - startIdx.toNat))) ↔
          (100 * tick + startIdx.toNat ≤ 100 * tick + offset ∧
            100 * tick + offset ≤ 100 * tick + stopIdx.toNat) := by
      omega
    simp only [sameRange]
  · intro write member
    rcases List.mem_cons.mp member with isNew | isOld
    · subst write
      simp only
      omega
    · exact refines.inWindow write isOld
  · rw [startTime_labelSector]
    exact refines.startTime
  · rw [startIdx_labelSector]
    exact refines.startIdx

/-- Moving on by one millisecond leaves the abstract state alone. -/
theorem moveTimeline
    {tick : Nat}
    {writes : List ChunkWrite}
    {line : Timeline}
    (refines : Refines tick writes line)
    {time : UInt64}
    (nextTick : time.toNat = (tick + 1) * 1000000) :
    Refines (tick + 1) writes (line.moveTimeline time) := by
  have oneTick : time.toNat = line.startTime.toNat + 1000000 := by
    rw [refines.startTime, nextTick]
    omega
  have forward : line.startTime ≤ time :=
    UInt64.le_iff_toNat_le.mpr (by omega)
  refine ⟨?_, ?_, ?_, ?_⟩
  · rw [ring_moveTimeline_tick oneTick, Nat.mul_add]
    apply refines.shown.advance .empty (by decide)
    intro position lower upper
    apply lastWritten_of_above
    intro write member
    exact Nat.lt_of_lt_of_le (refines.inWindow write member) lower
  · intro write member
    have := refines.inWindow write member
    omega
  · rw [toNat_startTime_moveTimeline forward (by omega), nextTick]
  · have headMoves :
        (line.moveTimeline time).startIdx.val =
          (line.startIdx.val + 100) % 100000 := by
      change (line.moveTimeline time).ring.head.val = _
      rw [ring_moveTimeline_tick oneTick]
      simp only [SlidingWindow.Ring.advance, SlidingWindow.Ring.slot,
        SlidingWindow.Ring.head_fill]
      rfl
    rw [headMoves, refines.startIdx]
    omega

/-- The move to time zero leaves a fresh timeline as it is. -/
theorem first : Refines 0 [] (new.moveTimeline 0) where
  shown := fun _ _ => rfl
  inWindow := by simp
  startTime := rfl
  startIdx := rfl

end Refines

/-- Every run of moves and labels keeps the refinement. -/
theorem TickRun.refines
    {tick : Nat}
    {writes : List ChunkWrite}
    {line : Timeline}
    (run : TickRun tick writes line) :
    Refines tick writes line := by
  induction run with
  | first =>
      exact .first
  | label startIdx stopIdx label _ ordered inRing inductionHypothesis =>
      exact inductionHypothesis.labelSector label ordered inRing
  | move time _ nextTick inductionHypothesis =>
      exact inductionHypothesis.moveTimeline nextTick

/--
After any run the timeline is the window of the abstract map that starts at
the millisecond reached, and its two position fields say so.
-/
theorem tickRun_getValueAt
    {tick : Nat}
    {writes : List ChunkWrite}
    {line : Timeline}
    (run : TickRun tick writes line) :
    (∀ idx, idx < 100000 →
      line.getValueAt idx = lastWritten writes (100 * tick + idx)) ∧
      line.startTime.toNat = tick * 1000000 ∧
      line.startIdx.val = 100 * tick % 100000 :=
  ⟨run.refines.shown, run.refines.startTime, run.refines.startIdx⟩

/-- One label at 0 ms, seen after the move to 1 ms. -/
theorem tickRun_getValueAt_one :
    ((((new.moveTimeline 0).labelSector 150 160 .dcuReceive).moveTimeline
        1000000).getValueAt 55 = .dcuReceive) ∧
      ((((new.moveTimeline 0).labelSector 150 160 .dcuReceive).moveTimeline
        1000000).startIdx.val = 100) := by
  have run :
      TickRun 1 _
        (((new.moveTimeline 0).labelSector 150 160 .dcuReceive).moveTimeline
          1000000) :=
    .move 1000000
      (.label 150 160 .dcuReceive .first (by decide) (by decide)) rfl
  have shown := tickRun_getValueAt run
  exact ⟨(shown.1 55 (by decide)).trans (by decide),
    shown.2.2.trans (by decide)⟩

end Timeline

end Radar
