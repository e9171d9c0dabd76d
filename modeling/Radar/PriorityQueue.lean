import Mathlib.Data.List.Sort
import Mathlib.Order.Defs.LinearOrder

/-!
# Priority queues

A contract for priority queues that hand out an item with the least key
first, and the two loops that consume such a queue: `drain`, which empties it,
and `popWhile`, which stops at the first item that fails a test.  The contract
leaves the order of items with equal keys open, as binary heaps do.
-/

/-- A priority queue of items that are ordered by their keys. -/
structure PriorityQueue
    {Item Key : Type}
    [LE Key]
    (key : Item → Key) where
  /-- Representation of a queue. -/
  Carrier : Type
  /-- The queue without items. -/
  empty : Carrier
  /-- Add an item. -/
  push : Carrier → Item → Carrier
  /-- An item with the least key. -/
  top : Carrier → Option Item
  /-- Remove the item at the top. -/
  pop : Carrier → Carrier
  /-- The items held, in the order of the representation. -/
  items : Carrier → List Item
  items_empty : items empty = []
  items_push :
    ∀ queue item, (items (push queue item)).Perm (item :: items queue)
  items_of_top_none :
    ∀ {queue}, top queue = none → items queue = []
  top_le :
    ∀ {queue first}, top queue = some first →
      ∀ item ∈ items queue, key first ≤ key item
  items_pop :
    ∀ {queue first}, top queue = some first →
      (items queue).Perm (first :: items (pop queue))

namespace PriorityQueue

variable {Item Key : Type} [LE Key] {key : Item → Key}

/-- Add the items of a list one after the other. -/
def pushAll
    (implementation : PriorityQueue key)
    (queue : implementation.Carrier)
    (added : List Item) :
    implementation.Carrier :=
  added.foldl implementation.push queue

theorem items_pushAll
    (implementation : PriorityQueue key)
    (queue : implementation.Carrier)
    (added : List Item) :
    (implementation.items (implementation.pushAll queue added)).Perm
      (added ++ implementation.items queue) := by
  induction added generalizing queue with
  | nil =>
      exact .refl _
  | cons item rest inductionHypothesis =>
      have pushed :=
        (implementation.items_push queue item).append_left rest
      exact (inductionHypothesis _).trans
        (pushed.trans List.perm_middle)

/-- Pop items as long as the one at the top passes a test. -/
def popWhileUpTo
    (implementation : PriorityQueue key)
    (passes : Item → Bool) :
    Nat → implementation.Carrier → List Item × implementation.Carrier
  | 0, queue => ([], queue)
  | fuel + 1, queue =>
      match implementation.top queue with
      | none => ([], queue)
      | some first =>
          if passes first then
            let later :=
              implementation.popWhileUpTo passes fuel
                (implementation.pop queue)
            (first :: later.1, later.2)
          else
            ([], queue)

/-- The pop loop; one step for each item is enough for it to stop. -/
def popWhile
    (implementation : PriorityQueue key)
    (passes : Item → Bool)
    (queue : implementation.Carrier) :
    List Item × implementation.Carrier :=
  implementation.popWhileUpTo passes (implementation.items queue).length
    queue

/-- All items, each popped from the top. -/
def drain
    (implementation : PriorityQueue key)
    (queue : implementation.Carrier) :
    List Item :=
  (implementation.popWhile (fun _ => true) queue).1

/-- What a pop loop has done with a queue. -/
structure PoppedWhile
    (implementation : PriorityQueue key)
    (passes : Item → Bool)
    (queue : implementation.Carrier)
    (popped : List Item)
    (rest : implementation.Carrier) :
    Prop where
  perm :
    (implementation.items queue).Perm (popped ++ implementation.items rest)
  passed : ∀ item ∈ popped, passes item
  sorted : popped.Pairwise (fun first second => key first ≤ key second)
  popped_le :
    ∀ item ∈ popped, ∀ later ∈ implementation.items rest,
      key item ≤ key later
  stopped :
    implementation.items rest = [] ∨
      ∃ first ∈ implementation.items rest, passes first = false ∧
        ∀ item ∈ implementation.items rest, key first ≤ key item

/-- One item of fuel for each item held lets the loop run to its end. -/
theorem poppedWhile_popWhileUpTo
    (implementation : PriorityQueue key)
    (passes : Item → Bool)
    {fuel : Nat}
    {queue : implementation.Carrier}
    (enough : (implementation.items queue).length ≤ fuel) :
    implementation.PoppedWhile passes queue
      (implementation.popWhileUpTo passes fuel queue).1
      (implementation.popWhileUpTo passes fuel queue).2 := by
  induction fuel generalizing queue with
  | zero =>
      have noItems : implementation.items queue = [] :=
        List.length_eq_zero_iff.mp (Nat.le_zero.mp enough)
      exact ⟨.refl _, by simp [popWhileUpTo], .nil,
        by simp [popWhileUpTo], .inl noItems⟩
  | succ fuel inductionHypothesis =>
      cases atTop : implementation.top queue with
      | none =>
          simp only [popWhileUpTo, atTop]
          exact ⟨.refl _, by simp, .nil, by simp,
            .inl (implementation.items_of_top_none atTop)⟩
      | some first =>
          have popped := implementation.items_pop atTop
          by_cases passesFirst : passes first
          · have shorter :
                (implementation.items (implementation.pop queue)).length ≤
                  fuel := by
              have := popped.length_eq
              rw [List.length_cons] at this
              omega
            obtain ⟨perm, passed, sorted, popped_le, stopped⟩ :=
              inductionHypothesis shorter
            have least : ∀ item ∈ implementation.items
                (implementation.pop queue), key first ≤ key item :=
              fun item member =>
                implementation.top_le atTop item
                  (popped.mem_iff.mpr (List.mem_cons_of_mem _ member))
            simp only [popWhileUpTo, atTop, passesFirst, if_true]
            refine ⟨popped.trans (perm.cons first), ?_, ?_, ?_, stopped⟩
            · exact List.forall_mem_cons.mpr ⟨passesFirst, passed⟩
            · refine List.pairwise_cons.mpr ⟨?_, sorted⟩
              intro item member
              exact least item
                (perm.mem_iff.mpr (List.mem_append_left _ member))
            · refine List.forall_mem_cons.mpr ⟨?_, popped_le⟩
              intro later member
              exact least later
                (perm.mem_iff.mpr (List.mem_append_right _ member))
          · simp only [popWhileUpTo, atTop, passesFirst]
            refine ⟨.refl _, by simp, .nil, by simp, .inr ⟨first, ?_, ?_, ?_⟩⟩
            · exact popped.mem_iff.mpr List.mem_cons_self
            · simpa using passesFirst
            · exact implementation.top_le atTop

theorem poppedWhile_popWhile
    (implementation : PriorityQueue key)
    (passes : Item → Bool)
    (queue : implementation.Carrier) :
    implementation.PoppedWhile passes queue
      (implementation.popWhile passes queue).1
      (implementation.popWhile passes queue).2 :=
  implementation.poppedWhile_popWhileUpTo passes (Nat.le_refl _)

/-- When smaller keys pass if larger ones do, nothing that is left passes. -/
theorem PoppedWhile.rest_fails
    {implementation : PriorityQueue key}
    {passes : Item → Bool}
    {queue rest : implementation.Carrier}
    {popped : List Item}
    (loop : implementation.PoppedWhile passes queue popped rest)
    (downward :
      ∀ {lower upper : Item}, key lower ≤ key upper → passes upper →
        passes lower) :
    ∀ item ∈ implementation.items rest, passes item = false := by
  intro item member
  rcases loop.stopped with nothing | ⟨first, _, fails, least⟩
  · rw [nothing] at member
    cases member
  · by_contra passesItem
    rw [downward (least item member) (by simpa using passesItem)] at fails
    cases fails

/-- Draining keeps every item. -/
theorem drain_perm
    (implementation : PriorityQueue key)
    (queue : implementation.Carrier) :
    (implementation.drain queue).Perm (implementation.items queue) := by
  have loop := implementation.poppedWhile_popWhile (fun _ => true) queue
  have nothingLeft :
      implementation.items
        (implementation.popWhile (fun _ => true) queue).2 = [] := by
    rcases loop.stopped with nothing | ⟨_, _, fails, _⟩
    · exact nothing
    · cases fails
  have perm := loop.perm
  rw [nothingLeft, List.append_nil] at perm
  exact perm.symm

/-- Draining yields the items in the order of their keys. -/
theorem drain_pairwise
    (implementation : PriorityQueue key)
    (queue : implementation.Carrier) :
    (implementation.drain queue).Pairwise
      (fun first second => key first ≤ key second) :=
  (implementation.poppedWhile_popWhile (fun _ => true) queue).sorted

end PriorityQueue

namespace PriorityQueue

/-! ## Sorted lists as priority queues -/

variable {Item Key : Type} [LinearOrder Key]

/-- The order of items that a key gives. -/
abbrev KeyLe (key : Item → Key) (first second : Item) : Prop :=
  key first ≤ key second

instance (key : Item → Key) : Std.Total (KeyLe key) :=
  ⟨fun first second => le_total (key first) (key second)⟩

instance (key : Item → Key) : IsTrans Item (KeyLe key) :=
  ⟨fun _ _ _ => le_trans⟩

/-- The queue that keeps its items in a sorted list. -/
def sortedList (key : Item → Key) : PriorityQueue key where
  Carrier := { items : List Item // items.Pairwise (KeyLe key) }
  empty := ⟨[], .nil⟩
  push queue item :=
    ⟨queue.val.orderedInsert (KeyLe key) item,
      queue.property.orderedInsert item _⟩
  top queue := queue.val.head?
  pop queue := ⟨queue.val.tail, queue.property.tail⟩
  items queue := queue.val
  items_empty := rfl
  items_push queue item := List.perm_orderedInsert (KeyLe key) item queue.val
  items_of_top_none {queue} atTop := List.head?_eq_none_iff.mp atTop
  top_le {queue first} atTop := by
    obtain ⟨rest, shape⟩ := List.head?_eq_some_iff.mp atTop
    have sorted := queue.property
    rw [shape, List.pairwise_cons] at sorted
    intro item member
    rw [shape] at member
    rcases List.mem_cons.mp member with rfl | inRest
    · exact le_refl _
    · exact sorted.1 item inRest
  items_pop {queue first} atTop := by
    obtain ⟨rest, shape⟩ := List.head?_eq_some_iff.mp atTop
    change queue.val.Perm (first :: queue.val.tail)
    rw [shape]
    exact .refl _

end PriorityQueue
