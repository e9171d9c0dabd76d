import Radar.SchedulerWindows
import Radar.TimelineRefinement

namespace Radar

/-!
# Booked chunks, counted from time zero

A chunk is named by its distance from time zero.  Once booked it stays booked:
labelling never clears a chunk, and the move from one tick to the next clears
only chunks that have passed.
-/

open Settings

namespace Timeline

/-- Absolute number of the first chunk. -/
def baseChunk (line : Timeline) : Nat :=
  line.startTime.toNat / 10000

/-- An absolute chunk has passed or lies on the timeline with a label. -/
structure Busy (line : Timeline) (chunk : Nat) : Prop where
  inWindow : chunk < line.baseChunk + 100000
  booked :
    ∀ idx, line.baseChunk + idx = chunk → line.getValueAt idx ≠ .empty

/-- Chunks seen empty are not busy. -/
theorem Busy.false_of_empty
    {line : Timeline}
    {chunk : Nat}
    (busy : line.Busy chunk)
    {idx : Nat}
    (named : line.baseChunk + idx = chunk)
    (isEmpty : line.getValueAt idx = .empty) :
    False :=
  busy.booked idx named isEmpty

/-- Labelling a sector keeps every busy chunk busy. -/
theorem Busy.labelSector
    {line : Timeline}
    {chunk : Nat}
    (busy : line.Busy chunk)
    (startIdx stopIdx : UInt32)
    {label : TimelineLabel}
    (books : label ≠ .empty) :
    (line.labelSector startIdx stopIdx label).Busy chunk := by
  have sameBase :
      (line.labelSector startIdx stopIdx label).baseChunk =
        line.baseChunk := by
    rw [baseChunk, startTime_labelSector, baseChunk]
  refine ⟨by rw [sameBase]; exact busy.inWindow, ?_⟩
  intro idx named
  rw [sameBase] at named
  by_cases written :
      ∃ other, startIdx.toNat ≤ other ∧ other ≤ stopIdx.toNat ∧
        idx % 100000 = other % 100000
  · obtain ⟨other, lower, upper, same⟩ := written
    rw [getValueAt_labelSector_of_mem lower upper same]
    exact books
  · rw [getValueAt_labelSector_of_not_mem]
    · exact busy.booked idx named
    · intro other lower upper same
      exact written ⟨other, lower, upper, same⟩

/-- Moving on by one millisecond keeps every busy chunk busy. -/
theorem Busy.moveTimeline
    {line : Timeline}
    {chunk : Nat}
    (busy : line.Busy chunk)
    {time : UInt64}
    (boundary : time.toNat % 1000000 = 0)
    (oneTick : time.toNat = line.startTime.toNat + 1000000) :
    (line.moveTimeline time).Busy chunk := by
  have forward : line.startTime ≤ time :=
    UInt64.le_iff_toNat_le.mpr (by omega)
  have nextBase :
      (line.moveTimeline time).baseChunk = line.baseChunk + 100 := by
    rw [baseChunk, toNat_startTime_moveTimeline forward (by omega),
      oneTick, baseChunk]
    omega
  have inWindow := busy.inWindow
  refine ⟨by omega, ?_⟩
  intro idx named
  rw [nextBase, Nat.add_assoc] at named
  rw [getValueAt_eq_ring, ring_moveTimeline_tick oneTick,
    SlidingWindow.Ring.get_advance,
    SlidingWindow.Ring.get_fill_of_not_mem]
  · exact busy.booked (100 + idx) named
  · intro offset _ upper same
    omega

end Timeline

namespace Timelines

/-- Performing calls that book something keeps every busy chunk busy. -/
theorem busy_performAll
    {lines : Timelines}
    {calls : List LabelCall}
    (book : ∀ call ∈ calls, call.label ≠ .empty)
    {name : TimelineName}
    {chunk : Nat}
    (busy : (lines.get name).Busy chunk) :
    ((lines.performAll calls).get name).Busy chunk := by
  induction calls generalizing lines with
  | nil =>
      exact busy
  | cons call rest inductionHypothesis =>
      obtain ⟨books, restBook⟩ := List.forall_mem_cons.mp book
      apply inductionHypothesis restBook
      rw [get_perform]
      split
      · exact busy.labelSector _ _ books
      · exact busy

/-- A chunk that some call books is busy afterwards. -/
theorem busy_performAll_of_writes
    {lines : Timelines}
    {calls : List LabelCall}
    (book : ∀ call ∈ calls, call.label ≠ .empty)
    {call : LabelCall}
    (member : call ∈ calls)
    {idx : Nat}
    (inRing : idx < 100000)
    (writes : call.Writes idx) :
    ((lines.performAll calls).get call.target).Busy
      ((lines.get call.target).baseChunk + idx) := by
  induction calls generalizing lines with
  | nil =>
      cases member
  | cons first rest inductionHypothesis =>
      obtain ⟨books, restBook⟩ := List.forall_mem_cons.mp book
      have sameStart :
          ((first.perform lines).get call.target).baseChunk =
            (lines.get call.target).baseChunk := by
        rw [get_perform, Timeline.baseChunk, Timeline.baseChunk]
        split
        · rw [LabelCall.labelOn, Timeline.startTime_labelSector]
        · rfl
      rcases List.mem_cons.mp member with rfl | inRest
      · apply busy_performAll restBook
        refine ⟨by rw [sameStart]; omega, ?_⟩
        intro other named
        rw [sameStart] at named
        obtain rfl : other = idx := by omega
        rw [get_perform, if_pos rfl,
          LabelCall.getValueAt_labelOn_of_writes writes]
        exact books
      · rw [← sameStart]
        exact inductionHypothesis restBook inRest

end Timelines

namespace Scheduler

/-- Every call of a placement books something. -/
theorem label_ne_empty_of_mem_labelCalls
    {pair : ScanPair}
    {idx : UInt32}
    {call : LabelCall}
    (member : call ∈ labelCalls pair idx) :
    call.label ≠ .empty := by
  rcases mem_labelCalls_iff.mp member with
    inTrAu | inTransmit | inRsAu | inReceive
  · rcases (target_of_mem_trAuCalls inTrAu).2 with label | label
    · simp [label]
    · simp [label]
  · rcases (target_of_mem_transmitCalls inTransmit).2 with label | label
    · simp [label]
    · simp [label]
  · rcases (target_of_mem_rsAuCalls inRsAu).2 with label | label
    · simp [label]
    · simp [label]
  · simp [(target_of_mem_receiveCalls inReceive).2]

end Scheduler

end Radar
