import Radar.Timeline

namespace Radar.Timeline

/-!
# Sequences of moves

`move_timeline` rounds the start time up to a chunk, and moves the start index
by the whole chunks of a difference that has been cast to 32 bits.  The two
stay together only along certain sequences of times.
-/

open Settings

/-- The start time is a chunk boundary and the start index is its chunk. -/
structure Agrees (line : Timeline) : Prop where
  boundary : line.startTime.toNat % timeChunkLength.toNat = 0
  index :
    line.startIdx.val =
      line.startTime.toNat / timeChunkLength.toNat % timelineDepth.toNat

/--
Along a sequence of moves none is rejected as a move backward, and the start
time and the start index agree after each of them.
-/
def KeepsAgreement : Timeline → List UInt64 → Prop
  | _, [] => True
  | line, time :: later =>
      line.startTime ≤ time ∧ (line.moveTimeline time).Agrees ∧
        KeepsAgreement (line.moveTimeline time) later

/--
What a step loses: the part that the cast to 32 bits leaves out, the rest of a
chunk that the start index does not pass, and the rest up to the boundary that
the start time moves to.
-/
def lost (step : Nat) : Nat :=
  step / 2 ^ 32 * 2 ^ 32 + step % 2 ^ 32 % 10000 +
    (10000 - step % 10000) % 10000

/--
A move that keeps start time and start index together: it goes forward, its
time rounds up to a 64-bit number, and it loses whole turns of the ring.
-/
structure MoveFits (start time : Nat) : Prop where
  forward : start ≤ time
  inRange : time ≤ 18446744073709550000
  wholeTurns : 1000000000 ∣ lost (time - start)

/-- All moves fit, each from where the one before has moved the start time. -/
def MovesFit : Nat → List UInt64 → Prop
  | _, [] => True
  | start, time :: later =>
      MoveFits start time.toNat ∧ MovesFit (roundUp time.toNat 10000) later

/-- A step of less than 2 ^ 32 ns loses no turns if it has whole chunks. -/
theorem dvd_lost_iff_of_lt
    {step : Nat}
    (short : step < 2 ^ 32) :
    1000000000 ∣ lost step ↔ step % 10000 = 0 := by
  rw [lost, Nat.div_eq_of_lt short, Nat.mod_eq_of_lt short]
  omega

/-- A shorter move from a boundary fits if it leads to another boundary. -/
theorem moveFits_iff_of_lt
    {start time : Nat}
    (boundary : start % 10000 = 0)
    (short : time - start < 2 ^ 32)
    (fits : time < 2 ^ 64) :
    MoveFits start time ↔ start ≤ time ∧ time % 10000 = 0 := by
  constructor
  · rintro ⟨forward, -, wholeTurns⟩
    have := (dvd_lost_iff_of_lt short).mp wholeTurns
    exact ⟨forward, by omega⟩
  · rintro ⟨forward, onBoundary⟩
    exact ⟨forward, by omega, (dvd_lost_iff_of_lt short).mpr (by omega)⟩

/-- Rounding to chunks, in closed form. -/
theorem roundUp_chunk (time : Nat) :
    roundUp time 10000 = (time + 9999) / 10000 * 10000 := by
  by_cases divides : time % 10000 = 0
  · rw [roundUp_of_mod_eq_zero divides]
    omega
  · rw [roundUp_of_mod_ne_zero divides]
    omega

/-- The start time after a move. -/
theorem toNat_startTime_of_forward
    {line : Timeline}
    {time : UInt64}
    (forward : line.startTime ≤ time) :
    (line.moveTimeline time).startTime.toNat =
      roundUp time.toNat 10000 % 2 ^ 64 := by
  rw [startTime_moveTimeline forward, toNat_multiplesOf_uint64]
  rfl

/-- The start index after a move. -/
theorem startIdx_of_forward
    {line : Timeline}
    {time : UInt64}
    (forward : line.startTime ≤ time) :
    (line.moveTimeline time).startIdx.val =
      (line.startIdx.val +
        (time.toNat - line.startTime.toNat) % 2 ^ 32 / 10000) % 100000 := by
  have steps :
      ((time - line.startTime).toUInt32 / timeChunkLength).toNat =
        (time.toNat - line.startTime.toNat) % 2 ^ 32 / 10000 := by
    rw [UInt32.toNat_div, UInt64.toNat_toUInt32,
      UInt64.toNat_sub_of_le _ _ forward]
    rfl
  change (line.moveTimeline time).ring.head.val = _
  rw [ring_moveTimeline forward, steps]
  simp only [SlidingWindow.Ring.advance, SlidingWindow.Ring.slot,
    SlidingWindow.Ring.head_fill]
  rfl

/-- The start time rounds up to a 64-bit number up to the last boundary. -/
theorem roundUp_lt_iff (time : Nat) (fits : time < 2 ^ 64) :
    roundUp time 10000 < 2 ^ 64 ↔ time ≤ 18446744073709550000 := by
  rw [roundUp_chunk]
  omega

namespace Agrees

/-- From an agreeing timeline a forward move leads to another if it fits. -/
theorem moveTimeline_iff
    {line : Timeline}
    (agrees : line.Agrees)
    {time : UInt64}
    (forward : line.startTime ≤ time) :
    (line.moveTimeline time).Agrees ↔
      MoveFits line.startTime.toNat time.toNat := by
  have notBefore := UInt64.le_iff_toNat_le.mp forward
  have fits := time.toNat_lt
  have range := roundUp_lt_iff time.toNat fits
  obtain ⟨boundary, index⟩ := agrees
  rw [toNat_timeChunkLength] at boundary index
  rw [toNat_timelineDepth] at index
  by_cases inRange : time.toNat ≤ 18446744073709550000
  · have startTime := toNat_startTime_of_forward forward
    rw [Nat.mod_eq_of_lt (range.mpr inRange), roundUp_chunk] at startTime
    have startIdx := startIdx_of_forward forward
    rw [index] at startIdx
    have wholeTurns :
        (line.moveTimeline time).startIdx.val =
            (line.moveTimeline time).startTime.toNat / 10000 % 100000 ↔
          1000000000 ∣ lost (time.toNat - line.startTime.toNat) := by
      rw [startIdx, startTime]
      unfold lost
      omega
    constructor
    · intro agrees
      exact ⟨notBefore, inRange, wholeTurns.mp agrees.index⟩
    · intro moveFits
      refine ⟨?_, wholeTurns.mpr moveFits.wholeTurns⟩
      rw [startTime]
      exact Nat.mul_mod_left ..
  · refine iff_of_false ?_ fun moveFits => inRange moveFits.inRange
    intro agrees
    have startTime := toNat_startTime_of_forward forward
    have nextBoundary :
        roundUp time.toNat 10000 = 18446744073709560000 := by
      rw [roundUp_chunk]
      omega
    have wrapped := agrees.boundary
    rw [startTime, nextBoundary] at wrapped
    exact absurd wrapped (by decide)

/-- Where a fitting move leaves the start time. -/
theorem startTime_of_moveFits
    {line : Timeline}
    {time : UInt64}
    (moveFits : MoveFits line.startTime.toNat time.toNat) :
    (line.moveTimeline time).startTime.toNat =
      roundUp time.toNat 10000 := by
  rw [toNat_startTime_of_forward
      (UInt64.le_iff_toNat_le.mpr moveFits.forward),
    Nat.mod_eq_of_lt
      ((roundUp_lt_iff _ time.toNat_lt).mpr moveFits.inRange)]

/-- From an agreeing timeline moves keep agreement exactly if they fit. -/
theorem keepsAgreement_iff
    {line : Timeline}
    (agrees : line.Agrees)
    (times : List UInt64) :
    KeepsAgreement line times ↔ MovesFit line.startTime.toNat times := by
  induction times generalizing line with
  | nil =>
      exact Iff.rfl
  | cons time later inductionHypothesis =>
      constructor
      · rintro ⟨forward, next, rest⟩
        have moveFits := (agrees.moveTimeline_iff forward).mp next
        rw [inductionHypothesis next, startTime_of_moveFits moveFits] at rest
        exact ⟨moveFits, rest⟩
      · rintro ⟨moveFits, rest⟩
        have forward := UInt64.le_iff_toNat_le.mpr moveFits.forward
        have next := (agrees.moveTimeline_iff forward).mpr moveFits
        rw [← startTime_of_moveFits moveFits, ← inductionHypothesis next]
          at rest
        exact ⟨forward, next, rest⟩

/-- A fresh timeline agrees. -/
theorem new : Timeline.new.Agrees := ⟨rfl, rfl⟩

end Agrees

/--
Along a sequence of moves of a fresh timeline no move is rejected and start
time and start index agree exactly if every move goes forward from the start
time before it, rounds up to a 64-bit time, and loses whole turns of the ring.
-/
theorem move_keepsAgreement_iff (times : List UInt64) :
    KeepsAgreement new times ↔ MovesFit 0 times :=
  Agrees.new.keepsAgreement_iff times

/-- A move into chunk 1 sets the start time to chunk 2. -/
theorem unaligned_not_keepsAgreement :
    ¬ ∀ times : List UInt64, times.Pairwise (· ≤ ·) →
      KeepsAgreement new times := by
  intro claim
  obtain ⟨-, agrees, -⟩ := claim [15000] (List.pairwise_singleton ..)
  exact absurd agrees.index (by decide)

end Radar.Timeline
