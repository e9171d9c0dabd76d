import Mathlib.Algebra.GroupWithZero.Nat
import Mathlib.Data.List.Basic
import Mathlib.Data.List.Nodup
import Mathlib.Data.List.Range
import Mathlib.Data.List.Perm.Subperm

namespace Radar.DisjointIntervals

/-!
# Intervals that do not meet

Half-open intervals of natural numbers.  Intervals that lie in one window and
do not meet have no more room together than the window has.
-/

/-- The numbers from `start` on that are below `stop`. -/
structure Interval where
  start : Nat
  stop : Nat
  deriving Repr, DecidableEq

namespace Interval

/-- How many numbers an interval has. -/
def length (interval : Interval) : Nat :=
  interval.stop - interval.start

/-- One of two intervals ends before the other starts. -/
def Apart (first second : Interval) : Prop :=
  first.stop ≤ second.start ∨ second.stop ≤ first.start

/-- The first interval lies in the second one. -/
def Within (interval window : Interval) : Prop :=
  window.start ≤ interval.start ∧ interval.stop ≤ window.stop

instance (interval window : Interval) :
    Decidable (interval.Within window) := by
  unfold Within
  infer_instance

/-- The numbers of an interval, in order. -/
def points (interval : Interval) : List Nat :=
  List.range' interval.start interval.length

@[simp] theorem length_points (interval : Interval) :
    interval.points.length = interval.length :=
  List.length_range'

theorem mem_points_iff
    {interval : Interval}
    {point : Nat} :
    point ∈ interval.points ↔
      interval.start ≤ point ∧ point < interval.stop := by
  rw [points, List.mem_range'_1, length]
  omega

theorem nodup_points (interval : Interval) :
    interval.points.Nodup :=
  List.nodup_range'

/-- Intervals that are apart have no number in common. -/
theorem Apart.disjoint_points
    {first second : Interval}
    (apart : first.Apart second) :
    first.points.Disjoint second.points := by
  intro point inFirst inSecond
  rw [mem_points_iff] at inFirst inSecond
  rcases apart with before | after
  · omega
  · omega

theorem Within.points_subset
    {interval window : Interval}
    (inside : interval.Within window) :
    interval.points ⊆ window.points := by
  intro point member
  rw [mem_points_iff] at member ⊢
  exact ⟨Nat.le_trans inside.1 member.1,
    Nat.lt_of_lt_of_le member.2 inside.2⟩

end Interval

/-- Intervals that are apart have different numbers throughout. -/
theorem nodup_flatMap_points
    {intervals : List Interval}
    (apart : intervals.Pairwise Interval.Apart) :
    (intervals.flatMap Interval.points).Nodup :=
  List.nodup_flatMap.mpr
    ⟨fun interval _ => interval.nodup_points,
      apart.imp Interval.Apart.disjoint_points⟩

/-- Intervals of a window that are apart are together no longer than it. -/
theorem sum_length_le
    {intervals : List Interval}
    {window : Interval}
    (apart : intervals.Pairwise Interval.Apart)
    (inside : ∀ interval ∈ intervals, interval.Within window) :
    (intervals.map Interval.length).sum ≤ window.length := by
  have subset :
      intervals.flatMap Interval.points ⊆ window.points := by
    intro point member
    obtain ⟨interval, isMember, ofInterval⟩ := List.mem_flatMap.mp member
    exact (inside interval isMember).points_subset ofInterval
  calc
    (intervals.map Interval.length).sum =
        (intervals.flatMap Interval.points).length := by
      simp only [List.length_flatMap, Interval.length_points]
    _ ≤ window.points.length :=
      ((nodup_flatMap_points apart).subperm subset).length_le
    _ = window.length := window.length_points

end Radar.DisjointIntervals
