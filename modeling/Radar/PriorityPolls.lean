import Mathlib.Data.List.Forall2
import Radar.PriorityQueue

/-!
# Polling a priority queue

A poll at a key takes items from the top of a priority queue as long as they
have that key.  It looks at nothing behind the top, so an item with a smaller
key that no poll asks for hides all items behind it.
-/

namespace PriorityQueue

variable
  {Item Key : Type}
  [LinearOrder Key]
  {key : Item → Key}

/-- What a row of polls takes from a queue, and what it leaves there. -/
def polls
    (implementation : PriorityQueue key) :
    List Key →
    implementation.Carrier →
    List (List Item) × implementation.Carrier
  | [], queue => ([], queue)
  | time :: later, queue =>
      let polled :=
        implementation.popWhile (fun item => key item = time) queue
      let rest := implementation.polls later polled.2
      (polled.1 :: rest.1, rest.2)

/-- A poll takes items with the key it asks for. -/
theorem forall₂_polls
    (implementation : PriorityQueue key)
    (times : List Key)
    (queue : implementation.Carrier) :
    List.Forall₂ (fun time polled => ∀ item ∈ polled, key item = time)
      times (implementation.polls times queue).1 := by
  induction times generalizing queue with
  | nil =>
      exact .nil
  | cons time later inductionHypothesis =>
      refine .cons ?_ (inductionHypothesis _)
      intro item member
      have passed :=
        (implementation.poppedWhile_popWhile _ queue).passed item member
      simpa using passed

/-- An item that is taken has a key that was polled. -/
theorem key_mem_of_mem_polls
    {implementation : PriorityQueue key}
    {times : List Key}
    {queue : implementation.Carrier}
    {item : Item}
    (taken : item ∈ (implementation.polls times queue).1.flatten) :
    key item ∈ times := by
  induction times generalizing queue with
  | nil =>
      cases taken
  | cons time later inductionHypothesis =>
      rcases List.mem_append.mp taken with now | afterwards
      · have passed :=
          (implementation.poppedWhile_popWhile _ queue).passed item now
        have same : key item = time := by simpa using passed
        exact same ▸ List.mem_cons_self
      · exact List.mem_cons_of_mem time (inductionHypothesis afterwards)

/-- Polls take and leave the items that were there. -/
theorem polls_perm
    (implementation : PriorityQueue key)
    (times : List Key)
    (queue : implementation.Carrier) :
    (implementation.items queue).Perm
      ((implementation.polls times queue).1.flatten ++
        implementation.items (implementation.polls times queue).2) := by
  induction times generalizing queue with
  | nil =>
      exact .refl _
  | cons time later inductionHypothesis =>
      have first := (implementation.poppedWhile_popWhile
        (fun item => key item = time) queue).perm
      refine first.trans ?_
      rw [polls, List.flatten_cons, List.append_assoc]
      exact (inductionHypothesis _).append_left _

/-- What is left has keys that are not smaller than those taken. -/
theorem key_le_of_polls
    {implementation : PriorityQueue key}
    {times : List Key}
    {queue : implementation.Carrier}
    {item left : Item}
    (taken : item ∈ (implementation.polls times queue).1.flatten)
    (remains :
      left ∈ implementation.items (implementation.polls times queue).2) :
    key item ≤ key left := by
  induction times generalizing queue with
  | nil =>
      cases taken
  | cons time later inductionHypothesis =>
      rcases List.mem_append.mp taken with now | afterwards
      · have loop := implementation.poppedWhile_popWhile
          (fun item => key item = time) queue
        refine loop.popped_le item now left ?_
        exact (implementation.polls_perm later _).mem_iff.mpr
          (List.mem_append_right _ remains)
      · exact inductionHypothesis afterwards remains

/--
Every key that lies before a polled one, in a queue with these items, is
polled too.
-/
def NoneHidden
    (key : Item → Key)
    (items : List Item)
    (times : List Key) :
    Prop :=
  ∀ item ∈ items, key item ∈ times →
    ∀ earlier ∈ items, key earlier < key item → key earlier ∈ times

/-- A poll leaves no item that it asks for if no such item is hidden. -/
theorem key_ne_of_popWhile
    {implementation : PriorityQueue key}
    {time : Key}
    {later : List Key}
    {queue : implementation.Carrier}
    (ascending : ∀ next ∈ later, time ≤ next)
    (noneHidden :
      NoneHidden key (implementation.items queue) (time :: later))
    {item : Item}
    (remains :
      item ∈ implementation.items
        (implementation.popWhile (fun item => key item = time) queue).2) :
    key item ≠ time := by
  intro asked
  have loop := implementation.poppedWhile_popWhile
    (fun item => key item = time) queue
  have held {other : Item}
      (isLeft : other ∈ implementation.items
        (implementation.popWhile (fun item => key item = time) queue).2) :
      other ∈ implementation.items queue :=
    loop.perm.mem_iff.mpr (List.mem_append_right _ isLeft)
  rcases loop.stopped with nothing | ⟨first, isLeft, fails, least⟩
  · rw [nothing] at remains
    cases remains
  · have other : key first ≠ time := by simpa using fails
    have before : key first < key item :=
      lt_of_le_of_ne (least item remains) (asked ▸ other)
    have polled := noneHidden item (held remains)
      (asked ▸ List.mem_cons_self) first (held isLeft) before
    rcases List.mem_cons.mp polled with isTime | isLater
    · exact other isTime
    · exact absurd (asked ▸ before) (not_lt.mpr (ascending _ isLater))

/-- If no polled item is hidden, ascending polls leave no such item. -/
theorem key_not_mem_of_polls
    {implementation : PriorityQueue key}
    {times : List Key}
    {queue : implementation.Carrier}
    (ascending : times.Pairwise (· ≤ ·))
    (noneHidden :
      NoneHidden key (implementation.items queue) times)
    {item : Item}
    (remains :
      item ∈ implementation.items (implementation.polls times queue).2) :
    key item ∉ times := by
  induction times generalizing queue with
  | nil =>
      exact List.not_mem_nil
  | cons time later inductionHypothesis =>
      obtain ⟨timeFirst, laterAscending⟩ := List.pairwise_cons.mp ascending
      have loop := implementation.poppedWhile_popWhile
        (fun item => key item = time) queue
      have notTime {other : Item}
          (isLeft : other ∈ implementation.items
            (implementation.popWhile (fun item => key item = time) queue).2) :
          key other ≠ time :=
        key_ne_of_popWhile timeFirst noneHidden isLeft
      have laterHidden : NoneHidden key
          (implementation.items
            (implementation.popWhile (fun item => key item = time) queue).2)
          later := by
        intro other isLeft isLater earlier earlierLeft before
        have polled := noneHidden other
          (loop.perm.mem_iff.mpr (List.mem_append_right _ isLeft))
          (List.mem_cons_of_mem time isLater) earlier
          (loop.perm.mem_iff.mpr (List.mem_append_right _ earlierLeft))
          before
        exact (List.mem_cons.mp polled).resolve_left (notTime earlierLeft)
      have notLater := inductionHypothesis laterAscending laterHidden remains
      have leftByFirst := (implementation.polls_perm later _).mem_iff.mpr
        (List.mem_append_right _ remains)
      exact fun polled =>
        (List.mem_cons.mp polled).elim (notTime leftByFirst) notLater

/-- A test that holds of one of two parts selects that part. -/
theorem perm_filter_of_append
    {items taken left : List Item}
    {asked : Item → Bool}
    (perm : items.Perm (taken ++ left))
    (allTaken : ∀ item ∈ taken, asked item = true)
    (noneLeft : ∀ item ∈ left, asked item = false) :
    taken.Perm (items.filter asked) := by
  have noneAsked : left.filter asked = [] :=
    List.filter_eq_nil_iff.mpr fun item remains => by
      simp [noneLeft item remains]
  have split := perm.filter asked
  rw [List.filter_append, List.filter_eq_self.mpr allTaken, noneAsked,
    List.append_nil] at split
  exact split.symm

/--
Ascending polls take every item whose key they ask for, each of them once,
exactly if no such item lies behind a key that they do not ask for.
-/
theorem polls_flatten_perm_iff
    (implementation : PriorityQueue key)
    {times : List Key}
    (ascending : times.Pairwise (· ≤ ·))
    (queue : implementation.Carrier) :
    (implementation.polls times queue).1.flatten.Perm
        ((implementation.items queue).filter fun item => key item ∈ times) ↔
      NoneHidden key (implementation.items queue) times := by
  have perm := implementation.polls_perm times queue
  constructor
  · intro delivered item member polled earlier earlierMember before
    by_contra notPolled
    have taken : item ∈ (implementation.polls times queue).1.flatten :=
      delivered.mem_iff.mpr
        (List.mem_filter.mpr ⟨member, decide_eq_true polled⟩)
    have remains :=
      (List.mem_append.mp (perm.mem_iff.mp earlierMember)).resolve_left
        (mt key_mem_of_mem_polls notPolled)
    exact absurd before (not_lt.mpr (key_le_of_polls taken remains))
  · intro noneHidden
    refine perm_filter_of_append perm ?_ ?_
    · intro item taken
      exact decide_eq_true (key_mem_of_mem_polls taken)
    · intro item remains
      exact decide_eq_false (key_not_mem_of_polls ascending noneHidden remains)

/-- A poll at the least key takes all items with it and leaves the others. -/
theorem popWhile_perm_of_least
    {implementation : PriorityQueue key}
    {time : Key}
    {queue : implementation.Carrier}
    (least : ∀ item ∈ implementation.items queue, time ≤ key item) :
    (implementation.popWhile (fun item => key item = time) queue).1.Perm
        ((implementation.items queue).filter fun item => key item = time) ∧
      (implementation.items
          (implementation.popWhile
            (fun item => key item = time) queue).2).Perm
        ((implementation.items queue).filter fun item => time < key item) := by
  have loop := implementation.poppedWhile_popWhile
    (fun item => key item = time) queue
  have noneHidden :
      NoneHidden key (implementation.items queue) [time] := by
    intro item _ polled earlier member before
    rw [List.mem_singleton.mp polled] at before
    exact absurd before (not_lt.mpr (least earlier member))
  have isTime {item : Item}
      (taken : item ∈
        (implementation.popWhile (fun item => key item = time) queue).1) :
      key item = time := by
    simpa using loop.passed item taken
  have isLater {item : Item}
      (remains : item ∈ implementation.items
        (implementation.popWhile (fun item => key item = time) queue).2) :
      time < key item :=
    lt_of_le_of_ne
      (least item (loop.perm.mem_iff.mpr (List.mem_append_right _ remains)))
      (key_ne_of_popWhile (by simp) noneHidden remains).symm
  constructor
  · refine perm_filter_of_append loop.perm ?_ ?_
    · intro item taken
      exact decide_eq_true (isTime taken)
    · intro item remains
      exact decide_eq_false (isLater remains).ne'
  · refine perm_filter_of_append (loop.perm.trans List.perm_append_comm) ?_ ?_
    · intro item remains
      exact decide_eq_true (isLater remains)
    · intro item taken
      exact decide_eq_false (isTime taken).le.not_gt

end PriorityQueue
