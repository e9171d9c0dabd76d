import Mathlib.Data.Fin.SuccPred
import Mathlib.Data.List.FinRange
import Mathlib.Data.List.Pairwise
import Mathlib.Order.WithBot
import Radar.StandardLibrary

/-!
# Sorting with a comparison that writes

A sort learns the order of its items only from the answers of its comparison.
Here such a sort is a tree of questions about positions.  The comparison may
write to the items that it looks at, as long as writing once more changes
nothing.  With two items or more the sort then answers what it answers when
every item has been written before; a single item is never looked at.
-/

/-- The questions of a sort of `count` items, largest item first. -/
inductive Comparisons (count : Nat) where
  /-- Stop with an order of the positions. -/
  | done (order : List (Fin count))
  /-- Ask whether one position goes before another. -/
  | ask (first second : Fin count) (next : Bool → Comparisons count)

namespace Comparisons

variable {count : Nat}

/-- The answers that keys give: larger keys go first. -/
def byKey
    {Key : Type} [LinearOrder Key]
    (key : Fin count → Key)
    (first second : Fin count) : Bool :=
  key second < key first

/-- The order that the answers lead to. -/
def order (answer : Fin count → Fin count → Bool) :
    Comparisons count → List (Fin count)
  | .done order => order
  | .ask first second next => (next (answer first second)).order answer

/-- The positions that are compared on the way. -/
def compared (answer : Fin count → Fin count → Bool) :
    Comparisons count → List (Fin count)
  | .done _ => []
  | .ask first second next =>
      first :: second :: (next (answer first second)).compared answer

/--
Sort items with a comparison that writes to both of its items, the second one
first, and then says whether the first one goes before the second one.
-/
def runWriting
    {Item : Type}
    (write : Item → Item)
    (goesFirst : Item → Item → Bool) :
    Comparisons count → (Fin count → Item) → List Item
  | .done order, items => order.map items
  | .ask first second next, items =>
      let half := Function.update items second (write (items second))
      let both := Function.update half first (write (half first))
      (next (goesFirst (both first) (both second))).runWriting write
        goesFirst both

/-- Only the answers about compared positions matter. -/
theorem order_congr
    {answer other : Fin count → Fin count → Bool}
    {questions : Comparisons count}
    (agree :
      ∀ first ∈ questions.compared answer,
        ∀ second ∈ questions.compared answer,
          answer first second = other first second) :
    questions.order answer = questions.order other := by
  induction questions with
  | done order =>
      rfl
  | ask first second next inductionHypothesis =>
      have same : answer first second = other first second :=
        agree first (by simp [compared]) second (by simp [compared])
      rw [order, order, ← same]
      apply inductionHypothesis
      intro earlier earlierMember later laterMember
      apply agree
      · exact List.mem_cons_of_mem _ (List.mem_cons_of_mem _ earlierMember)
      · exact List.mem_cons_of_mem _ (List.mem_cons_of_mem _ laterMember)

/--
A comparison that writes gives the answers of the written items, and leaves
the items written that it has compared.
-/
theorem runWriting_eq
    {Item : Type}
    {write : Item → Item}
    (goesFirst : Item → Item → Bool)
    (again : ∀ item, write (write item) = write item)
    (questions : Comparisons count)
    {start items : Fin count → Item}
    (reached :
      ∀ position, items position = start position ∨
        items position = write (start position)) :
    let answer := fun first second =>
      goesFirst (write (start first)) (write (start second))
    questions.runWriting write goesFirst items =
      (questions.order answer).map fun position =>
        if position ∈ questions.compared answer then
          write (start position)
        else
          items position := by
  intro answer
  induction questions generalizing items with
  | done order =>
      simp [runWriting, Comparisons.order, compared]
  | ask first second next inductionHypothesis =>
      have written (position) :
          write (items position) = write (start position) := by
        rcases reached position with same | same
        · rw [same]
        · rw [same, again]
      let half := Function.update items second (write (items second))
      let both := Function.update half first (write (half first))
      have both_eq (position) :
          both position =
            if position = first ∨ position = second then
              write (start position)
            else
              items position := by
        simp only [both, half, Function.update_apply]
        grind
      have answered :
          goesFirst (both first) (both second) = answer first second := by
        simp [both_eq, answer]
      have reachedBoth (position) :
          both position = start position ∨
            both position = write (start position) := by
        rw [both_eq]
        split
        · exact .inr rfl
        · exact reached position
      change (next (goesFirst (both first) (both second))).runWriting write
        goesFirst both = _
      rw [answered, inductionHypothesis _ reachedBoth, Comparisons.order]
      apply List.map_congr_left
      intro position _
      rw [both_eq, compared]
      simp only [List.mem_cons]
      grind

end Comparisons

/-- A sort: its questions lead to the right order, whatever the keys are. -/
structure ComparisonSort where
  /-- The questions for a number of items. -/
  questions : (count : Nat) → Comparisons count
  perm :
    ∀ {count : Nat} {Key : Type} [LinearOrder Key] (key : Fin count → Key),
      ((questions count).order (Comparisons.byKey key)).Perm
        (List.finRange count)
  sorted :
    ∀ {count : Nat} {Key : Type} [LinearOrder Key] (key : Fin count → Key),
      ((questions count).order (Comparisons.byKey key)).Pairwise
        fun first second => key second ≤ key first

namespace ComparisonSort

open Comparisons

variable (algorithm : ComparisonSort)
variable {Item Key : Type} [LinearOrder Key]

/-- Changing the key of a position that is not compared changes nothing. -/
private theorem order_update
    {count : Nat}
    {Other : Type} [LinearOrder Other]
    {key : Fin count → Key}
    {position : Fin count}
    (absent :
      position ∉ (algorithm.questions count).compared (byKey key))
    {other : Fin count → Other}
    (same :
      ∀ first second, first ≠ position → second ≠ position →
        (other second < other first ↔ key second < key first)) :
    (algorithm.questions count).order (byKey key) =
      (algorithm.questions count).order (byKey other) := by
  apply order_congr
  intro first firstMember second secondMember
  simp only [byKey, decide_eq_decide]
  refine (same first second ?_ ?_).symm
  · rintro rfl
    exact absent firstMember
  · rintro rfl
    exact absent secondMember

/-- An item that is not compared goes first if its key is the highest. -/
private theorem highest_first
    {count : Nat}
    {key : Fin count → Key}
    {position : Fin count}
    (absent :
      position ∉ (algorithm.questions count).compared (byKey key)) :
    ((algorithm.questions count).order (byKey key)).Pairwise
      fun first second => second = position → first = position := by
  let highest : Fin count → WithTop Key :=
    Function.update (fun place => (key place : WithTop Key)) position ⊤
  have same :
      (algorithm.questions count).order (byKey key) =
        (algorithm.questions count).order (byKey highest) := by
    apply algorithm.order_update absent
    intro first second isFirst isSecond
    simp [highest, isFirst, isSecond]
  rw [same]
  refine (algorithm.sorted highest).imp ?_
  rintro first _ ordered rfl
  by_contra isOther
  simp [highest, isOther] at ordered

/-- An item that is not compared goes last if its key is the lowest. -/
private theorem lowest_last
    {count : Nat}
    {key : Fin count → Key}
    {position : Fin count}
    (absent :
      position ∉ (algorithm.questions count).compared (byKey key)) :
    ((algorithm.questions count).order (byKey key)).Pairwise
      fun first second => first = position → second = position := by
  let lowest : Fin count → WithBot Key :=
    Function.update (fun place => (key place : WithBot Key)) position ⊥
  have same :
      (algorithm.questions count).order (byKey key) =
        (algorithm.questions count).order (byKey lowest) := by
    apply algorithm.order_update absent
    intro first second isFirst isSecond
    simp [lowest, isFirst, isSecond]
  rw [same]
  refine (algorithm.sorted lowest).imp ?_
  rintro _ second ordered rfl
  by_contra isOther
  simp [lowest, isOther] at ordered

/--
A sort of two items or more compares every one of them: it could not place an
item of which it knows nothing.
-/
theorem mem_compared
    {count : Nat}
    (several : count ≠ 1)
    (key : Fin count → Key)
    (position : Fin count) :
    position ∈ (algorithm.questions count).compared (byKey key) := by
  by_contra absent
  have : Nontrivial (Fin count) :=
    Fin.nontrivial_iff_two_le.mpr (by have := position.isLt; omega)
  obtain ⟨other, different⟩ := exists_ne position
  let Apart (first second : Fin count) : Prop :=
    ¬ (first = position ∧ second = other) ∧
      ¬ (first = other ∧ second = position)
  have : Std.Symm Apart :=
    ⟨fun _ _ apart => ⟨fun swapped => apart.2 swapped.symm,
      fun swapped => apart.1 swapped.symm⟩⟩
  have apart :
      ((algorithm.questions count).order (byKey key)).Pairwise Apart := by
    refine ((algorithm.highest_first absent).and
      (algorithm.lowest_last absent)).imp ?_
    rintro first second ⟨isHighest, isLowest⟩
    constructor
    · rintro ⟨rfl, rfl⟩
      exact different (isLowest rfl)
    · rintro ⟨rfl, rfl⟩
      exact different (isHighest rfl)
  have isMember (place : Fin count) :
      place ∈ (algorithm.questions count).order (byKey key) :=
    (algorithm.perm key).mem_iff.mpr (List.mem_finRange place)
  exact (apart.forall (isMember position) (isMember other)
    different.symm).1 ⟨rfl, rfl⟩

/-- The sorted items of a family. -/
def sorting
    {count : Nat}
    (key : Item → Key)
    (items : Fin count → Item) : List Item :=
  ((algorithm.questions count).order
    (byKey fun position => key (items position))).map items

theorem sorting_congr
    {count other : Nat}
    (same : count = other)
    (key : Item → Key)
    (items : Fin count → Item) :
    algorithm.sorting key items =
      algorithm.sorting key fun position : Fin other =>
        items (position.cast same.symm) := by
  subst same
  rfl

/-- The sort as a function of lists. -/
def stdSort (key : Item → Key) :
    StdSort (fun first second : Item => key second < key first) where
  sort items := algorithm.sorting key items.get
  perm items := by
    have permuted :=
      (algorithm.perm fun position => key (items.get position)).map items.get
    rwa [List.map_get_finRange] at permuted
  sorted items :=
    List.pairwise_map.mpr
      ((algorithm.sorted fun position => key (items.get position)).imp
        not_lt.mpr)

/-- Sort a list with a comparison that writes to the items it looks at. -/
def sortWriting
    (write : Item → Item)
    (key : Item → Key)
    (items : List Item) : List Item :=
  (algorithm.questions items.length).runWriting write
    (fun first second => key second < key first) items.get

/--
Unless there is exactly one item, sorting while writing is writing all items
and then sorting them.
-/
theorem sortWriting_eq
    {write : Item → Item}
    (key : Item → Key)
    (again : ∀ item, write (write item) = write item)
    {items : List Item}
    (several : items.length ≠ 1) :
    algorithm.sortWriting write key items =
      (algorithm.stdSort key).sort (items.map write) := by
  have written :=
    runWriting_eq (fun first second : Item => decide (key second < key first))
      again (algorithm.questions items.length)
      fun position => .inl (Eq.refl (items.get position))
  have sameItems :
      (algorithm.stdSort key).sort (items.map write) =
        algorithm.sorting key fun position => write (items.get position) := by
    change algorithm.sorting key (items.map write).get = _
    rw [algorithm.sorting_congr (List.length_map write)]
    simp
  rw [sortWriting, written, sameItems, sorting]
  apply List.map_congr_left
  intro position _
  rw [if_pos]
  exact algorithm.mem_compared several
    (fun position => key (write (items.get position))) position

end ComparisonSort

/-! ## Insertion sort -/

namespace Comparisons

variable {count : Nat}

/-- Find the place of a position in a sorted list of positions. -/
def insertPosition
    (position : Fin count) :
    List (Fin count) → (List (Fin count) → Comparisons count) →
      Comparisons count
  | [], next => next [position]
  | first :: rest, next =>
      .ask first position fun firstGoesFirst =>
        if firstGoesFirst then
          insertPosition position rest fun sorted => next (first :: sorted)
        else
          next (position :: first :: rest)

/-- Insert positions one after the other, the last one first. -/
def insertAll :
    List (Fin count) → (List (Fin count) → Comparisons count) →
      Comparisons count
  | [], next => next []
  | position :: rest, next =>
      insertAll rest fun sorted => insertPosition position sorted next

variable {Key : Type} [LinearOrder Key] (key : Fin count → Key)

/-- The first position may stand before the second one. -/
abbrev NotAfter (first second : Fin count) : Prop :=
  key second ≤ key first

instance : Std.Total (NotAfter key) :=
  ⟨fun _ _ => le_total _ _⟩

instance : IsTrans (Fin count) (NotAfter key) :=
  ⟨fun _ _ _ first later => later.trans first⟩

theorem order_insertPosition
    (position : Fin count)
    (sorted : List (Fin count))
    (next : List (Fin count) → Comparisons count) :
    (insertPosition position sorted next).order (byKey key) =
      (next (sorted.orderedInsert (NotAfter key) position)).order
        (byKey key) := by
  induction sorted generalizing next with
  | nil =>
      rfl
  | cons first rest inductionHypothesis =>
      rw [insertPosition, order, List.orderedInsert_cons]
      by_cases ordered : key first ≤ key position
      · have answer : byKey key first position = false := by
          simp [byKey, ordered]
        rw [answer, if_pos ordered]
        rfl
      · have answer : byKey key first position = true := by
          simpa [byKey] using ordered
        rw [answer, if_neg ordered]
        exact inductionHypothesis _

theorem order_insertAll
    (positions : List (Fin count))
    (next : List (Fin count) → Comparisons count) :
    (insertAll positions next).order (byKey key) =
      (next (positions.insertionSort (NotAfter key))).order (byKey key) := by
  induction positions generalizing next with
  | nil =>
      rfl
  | cons position rest inductionHypothesis =>
      rw [insertAll, inductionHypothesis, order_insertPosition]
      rfl

end Comparisons

/-- Insertion sort, which asks nothing about a single item. -/
def ComparisonSort.insertion : ComparisonSort where
  questions count := Comparisons.insertAll (List.finRange count) .done
  perm key := by
    rw [Comparisons.order_insertAll]
    exact List.perm_insertionSort (Comparisons.NotAfter key) _
  sorted key := by
    rw [Comparisons.order_insertAll]
    exact List.pairwise_insertionSort (Comparisons.NotAfter key) _
