import Mathlib.Algebra.Order.Ring.Rat
import Mathlib.Data.List.Sort

/-!
# What the models use of the C++ language and its library

`DoubleRounding` is the rounding of a real number to a `double`, `StdSort` is
`std::sort` with a comparison, and `Run` is a run of labelled steps.  The
rounding and the sort are contracts: results about a model hold for every
rounding and every sort that keeps its contract.
-/

/-- Rounding of exact results to `double`. -/
structure DoubleRounding where
  /-- The `double` that stands for a number. -/
  round : Rat → Rat
  /-- Rounding keeps the order. -/
  mono : ∀ {lower upper : Rat}, lower ≤ upper → round lower ≤ round upper
  /-- Integers of at most 53 bits are exact. -/
  exact : ∀ value : Nat, value ≤ 2 ^ 53 → round value = value
  /-- Numbers of at most 64 bits are off by half a unit at most. -/
  near :
    ∀ value : Rat, 0 ≤ value → value ≤ 2 ^ 64 →
      value - 1024 ≤ round value ∧ round value ≤ value + 1024

namespace DoubleRounding

/-- Arithmetic on numbers that are all exact. -/
def exactly : DoubleRounding where
  round value := value
  mono ordered := ordered
  exact _ _ := rfl
  near value _ _ := by
    constructor
    · exact sub_le_self value (by decide)
    · exact le_add_of_nonneg_right (by decide)

/--
Comparing with an exact bound is comparing the numbers themselves, also where
the other number is too large to be exact.
-/
theorem round_lt_iff
    (rounding : DoubleRounding)
    {value bound : Nat}
    (exactBound : bound ≤ 2 ^ 53) :
    rounding.round value < bound ↔ value < bound := by
  constructor
  · intro below
    by_contra above
    have ordered : (bound : Rat) ≤ value := by
      exact_mod_cast Nat.not_lt.mp above
    have rounded := rounding.mono ordered
    rw [rounding.exact bound exactBound] at rounded
    exact absurd below (not_lt.mpr rounded)
  · intro below
    rw [rounding.exact value (by omega)]
    exact_mod_cast below

end DoubleRounding

/-- `std::sort` with a comparison that says which of two items goes first. -/
structure StdSort
    {Item : Type}
    (goesFirst : Item → Item → Prop) where
  /-- The sorted sequence. -/
  sort : List Item → List Item
  perm : ∀ items, (sort items).Perm items
  sorted :
    ∀ items, (sort items).Pairwise fun first second =>
      ¬ goesFirst second first

/-- Insertion sort by a key, largest keys first. -/
def StdSort.byKey
    {Item Key : Type} [LinearOrder Key]
    (key : Item → Key) :
    StdSort (fun first second : Item => key second < key first) :=
  let notAfter : Item → Item → Prop := fun first second =>
    key second ≤ key first
  have : Std.Total notAfter := ⟨fun _ _ => le_total _ _⟩
  have : IsTrans Item notAfter := ⟨fun _ _ _ first later => later.trans first⟩
  { sort := List.insertionSort notAfter
    perm := List.perm_insertionSort notAfter
    sorted := fun items =>
      (List.pairwise_insertionSort notAfter items).imp not_lt.mpr }

/-- A run of labelled steps that starts at a state. -/
inductive Run
    {State Label : Type}
    (step : State → Label → State → Prop)
    (start : State) :
    List Label → State → Prop where
  | nil : Run step start [] start
  | snoc
      {labels : List Label}
      {middle final : State}
      (label : Label)
      (earlier : Run step start labels middle)
      (last : step middle label final) :
      Run step start (labels ++ [label]) final

namespace Run

variable {State Label : Type} {step : State → Label → State → Prop}

/-- What holds at the start and is kept by every step holds at the end. -/
theorem invariant
    {holds : List Label → State → Prop}
    {start final : State}
    {labels : List Label}
    (run : Run step start labels final)
    (atStart : holds [] start)
    (kept :
      ∀ {labels middle label next},
        Run step start labels middle → holds labels middle →
        step middle label next → holds (labels ++ [label]) next) :
    holds labels final := by
  induction run with
  | nil =>
      exact atStart
  | snoc label earlier last inductionHypothesis =>
      exact kept earlier inductionHypothesis last

/--
Steps that are steps of another kind under an invariant, and keep it, make
runs of the other kind.
-/
theorem transfer
    {other : State → Label → State → Prop}
    {holds : State → Prop}
    {start final : State}
    {labels : List Label}
    (run : Run step start labels final)
    (atStart : holds start)
    (kept :
      ∀ {state label next},
        holds state → step state label next →
          other state label next ∧ holds next) :
    Run other start labels final := by
  suffices both : Run other start labels final ∧ holds final from both.1
  induction run with
  | nil =>
      exact ⟨.nil, atStart⟩
  | snoc label _ last inductionHypothesis =>
      obtain ⟨earlier, before⟩ := inductionHypothesis
      obtain ⟨otherStep, after⟩ := kept before last
      exact ⟨earlier.snoc label otherStep, after⟩

/--
Two kinds of steps that are the same under an invariant make the same runs, if
the steps keep the invariant.
-/
theorem congr
    {other : State → Label → State → Prop}
    {holds : State → Prop}
    {start : State}
    (atStart : holds start)
    (same :
      ∀ {state label next},
        holds state → (step state label next ↔ other state label next))
    (kept :
      ∀ {state label next}, holds state → step state label next → holds next)
    (labels : List Label)
    (final : State) :
    Run step start labels final ↔ Run other start labels final := by
  constructor
  · intro run
    apply run.transfer atStart
    intro state label next before last
    exact ⟨(same before).mp last, kept before last⟩
  · intro run
    apply run.transfer atStart
    intro state label next before last
    have sameStep := (same before).mpr last
    exact ⟨sameStep, kept before sameStep⟩

end Run
