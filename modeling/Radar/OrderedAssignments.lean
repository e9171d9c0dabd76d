import Mathlib.Data.List.Nodup
import Mathlib.Logic.Function.Basic

namespace OrderedAssignments

/-!
# Assignments between lookups

A function looks values up one after the other and assigns each one at once.
When a lookup fails, what has been assigned before stays.
-/

variable {Name : Type} {Value : Name → Type}

/-- A lookup of a value that is assigned, or one that is only checked. -/
inductive Lookup (Value : Name → Type) where
  | assign (name : Name) (found : Option (Value name))
  | check (passed : Bool)

/-- Are all values found? -/
def allFound : List (Lookup Value) → Bool
  | [] => true
  | .assign _ found :: later => found.isSome && allFound later
  | .check passed :: later => passed && allFound later

/-- The names that are assigned, in order. -/
def names : List (Lookup Value) → List Name
  | [] => []
  | .assign name _ :: later => name :: names later
  | .check _ :: later => names later

/--
The values that are assigned before a lookup fails are the ones that the names
already have.
-/
def AlreadySet (state : ∀ name, Value name) : List (Lookup Value) → Prop
  | [] => True
  | .assign name (some value) :: later =>
      state name = value ∧ AlreadySet state later
  | .assign _ none :: _ => True
  | .check true :: later => AlreadySet state later
  | .check false :: _ => True

variable [DecidableEq Name]

/-- The lookups one after the other, and whether all values were found. -/
def load :
    List (Lookup Value) → (∀ name, Value name) →
      Bool × (∀ name, Value name)
  | [], state => (true, state)
  | .assign name (some value) :: later, state =>
      load later (Function.update state name value)
  | .assign _ none :: _, state => (false, state)
  | .check true :: later, state => load later state
  | .check false :: _, state => (false, state)

theorem load_fst (lookups : List (Lookup Value)) (state : ∀ name, Value name) :
    (load lookups state).1 = allFound lookups := by
  induction lookups generalizing state with
  | nil => rfl
  | cons lookup later inductionHypothesis =>
      match lookup with
      | .assign name (some value) => exact inductionHypothesis _
      | .assign name none => rfl
      | .check true => exact inductionHypothesis _
      | .check false => rfl

/-- A name that no lookup assigns keeps its value. -/
theorem load_snd_of_notMem
    {lookups : List (Lookup Value)}
    {name : Name}
    (absent : name ∉ names lookups)
    (state : ∀ name, Value name) :
    (load lookups state).2 name = state name := by
  induction lookups generalizing state with
  | nil => rfl
  | cons lookup later inductionHypothesis =>
      match lookup with
      | .assign other (some value) =>
          rw [names, List.mem_cons, not_or] at absent
          rw [load, inductionHypothesis absent.2,
            Function.update_of_ne absent.1]
      | .assign other none => rfl
      | .check true => exact inductionHypothesis absent state
      | .check false => rfl

/-- What the lookups assign changes nothing exactly if it was already set. -/
theorem load_snd_eq_iff
    {lookups : List (Lookup Value)}
    (distinct : (names lookups).Nodup)
    (state : ∀ name, Value name) :
    (load lookups state).2 = state ↔ AlreadySet state lookups := by
  induction lookups with
  | nil => exact iff_of_true rfl trivial
  | cons lookup later inductionHypothesis =>
      match lookup with
      | .assign name (some value) =>
          rw [names, List.nodup_cons] at distinct
          rw [AlreadySet, load]
          by_cases same : state name = value
          · rw [← same, Function.update_eq_self, and_iff_right rfl]
            exact inductionHypothesis distinct.2
          · refine iff_of_false (fun unchanged => same ?_) fun set => same set.1
            rw [← unchanged, load_snd_of_notMem distinct.1,
              Function.update_self]
      | .assign name none => exact iff_of_true rfl trivial
      | .check true => exact inductionHypothesis distinct
      | .check false => exact iff_of_true rfl trivial

/--
Lookups that fail change nothing exactly if they all succeed or what they
assign before was already set.
-/
theorem load_keeps_iff
    {lookups : List (Lookup Value)}
    (distinct : (names lookups).Nodup)
    (state : ∀ name, Value name) :
    ((load lookups state).1 = false → (load lookups state).2 = state) ↔
      allFound lookups = true ∨ AlreadySet state lookups := by
  rw [load_fst, load_snd_eq_iff distinct, ← Bool.not_eq_true,
    ← or_iff_not_imp_left]

/-! ## Functions that do what lookups do -/

/-- A function fails when lookups fail, and leaves then what they assign. -/
structure Follows
    (lookups : List (Lookup Value))
    (before after : ∀ name, Value name)
    (failed : Prop) : Prop where
  failed_iff : failed ↔ (load lookups before).1 = false
  assigned : failed → after = (load lookups before).2

namespace Follows

variable
  {later : List (Lookup Value)}
  {before after : ∀ name, Value name}
  {failed : Prop}
  {name : Name}
  {found : Option (Value name)}
  {value : Value name}
  {passed : Bool}

theorem nil (returned : ¬ failed) :
    Follows ([] : List (Lookup Value)) before after failed :=
  ⟨iff_of_false returned (by simp [load]),
    fun failed => absurd failed returned⟩

theorem assign_none
    (missing : found = none)
    (fails : failed)
    (unchanged : after = before) :
    Follows (.assign name found :: later) before after failed := by
  subst missing
  exact ⟨iff_of_true fails rfl, fun _ => unchanged⟩

theorem assign_some
    (present : found = some value)
    (rest : Follows later (Function.update before name value) after failed) :
    Follows (.assign name found :: later) before after failed := by
  subst present
  exact ⟨rest.failed_iff, rest.assigned⟩

theorem check_false
    (refused : passed = false)
    (fails : failed)
    (unchanged : after = before) :
    Follows (.check passed :: later) before after failed := by
  subst refused
  exact ⟨iff_of_true fails rfl, fun _ => unchanged⟩

theorem check_true
    (accepted : passed = true)
    (rest : Follows later before after failed) :
    Follows (.check passed :: later) before after failed := by
  subst accepted
  exact ⟨rest.failed_iff, rest.assigned⟩

/-- What a function leaves that returns does not matter. -/
theorem of_returned
    {lookups : List (Lookup Value)}
    {otherAfter : ∀ name, Value name}
    {otherFailed : Prop}
    (follows : Follows lookups before after failed)
    (returned : ¬ failed)
    (otherReturned : ¬ otherFailed) :
    Follows lookups before otherAfter otherFailed :=
  ⟨(iff_of_false otherReturned returned).trans follows.failed_iff,
    fun otherFails => absurd otherFails otherReturned⟩

/--
A function that does what lookups do keeps its state on failure exactly if
all values are found or what they assign before was already set.
-/
theorem keeps_iff
    {lookups : List (Lookup Value)}
    (follows : Follows lookups before after failed)
    (distinct : (names lookups).Nodup) :
    (failed → after = before) ↔
      allFound lookups = true ∨ AlreadySet before lookups := by
  rw [← load_keeps_iff distinct, ← follows.failed_iff]
  exact forall_congr' fun failed => by rw [follows.assigned failed]

end Follows

end OrderedAssignments
