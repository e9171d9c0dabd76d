import Mathlib.Algebra.Order.Field.Basic
import Mathlib.Logic.Function.Iterate
import Mathlib.Tactic.Linarith
import Mathlib.Tactic.Ring

/-!
# Integrators with a fixed step that keep their last node

An integrator that starts at time zero and advances its state by steps of a
fixed length, in one direction or the other.  It keeps the node that it has
reached for the next target, and starts again if it would have to go back by
more than a tolerance.  Except for targets within the tolerance the node that
it settles on does not depend on the targets before.
-/

variable {State K : Type} [Field K]

namespace FixedStep

/-- The two directions from time zero. -/
inductive Direction where
  | forward
  | backward
  deriving Repr, DecidableEq

/-- The sign of the times in a direction. -/
def Direction.sign : Direction → K
  | .forward => 1
  | .backward => -1

/-- How far a time lies in a direction. -/
def Direction.along (direction : Direction) (time : K) : K :=
  direction.sign * time

@[simp] theorem Direction.along_forward (time : K) :
    Direction.forward.along time = time :=
  one_mul time

@[simp] theorem Direction.along_backward (time : K) :
    Direction.backward.along time = -time :=
  neg_one_mul time

end FixedStep

variable [LinearOrder K]

/-- A start at time zero and a step that moves the time by its length. -/
structure FixedStep (State K : Type) [Field K] [LinearOrder K] where
  start : State
  advance : K → State → State
  time : State → K
  step : K
  positive : 0 < step
  time_start : time start = 0
  time_advance : ∀ delt state, time (advance delt state) = time state + delt

namespace FixedStep

variable (method : FixedStep State K)

/-! ## The integrator -/

/-- Take steps until the target is less than a step away. -/
def walk (delt target : K) : Nat → State → State
  | 0, state => state
  | fuel + 1, state =>
      let next := method.advance delt state
      if method.step ≤ |target - method.time next| then
        walk delt target fuel next
      else
        next

/-- Take steps towards the target if it is a step away or more. -/
def pursue (fuel : Nat) (target : K) (state : State) : State :=
  if method.step ≤ |target - method.time state| then
    method.walk
      (if method.time state ≤ target then method.step else -method.step)
      target fuel state
  else
    state

/--
Does the integrator start again?  It does so for targets near zero, and for
those on the near side of its node by more than a tolerance.
-/
def Restarts (tolerance target : K) (state : State) : Prop :=
  |target| < method.step ∨
    0 < method.time state ∧ target < method.time state - tolerance ∨
    method.time state < 0 ∧ method.time state + tolerance < target

instance (tolerance target : K) (state : State) :
    Decidable (method.Restarts tolerance target state) := by
  unfold Restarts
  infer_instance

/-- The state from which the target is pursued. -/
def resume (tolerance target : K) (state : State) : State :=
  if method.Restarts tolerance target state then method.start else state

/-- The state for a target. -/
def settle
    (fuel : Nat)
    (tolerance target : K)
    (state : State) : State :=
  method.pursue fuel target (method.resume tolerance target state)

/--
Does the node lie beyond the target, but by no more than the tolerance?  The
integrator then stays where it is.
-/
def Overshoots (tolerance target : K) (state : State) : Prop :=
  method.step ≤ |target| ∧
    (0 < method.time state ∧ target < method.time state ∧
        method.time state - tolerance ≤ target ∨
      method.time state < 0 ∧ method.time state < target ∧
        target ≤ method.time state + tolerance)

/-! ## Nodes -/

/-- The state after so many steps in a direction. -/
def node (direction : Direction) (count : Nat) : State :=
  (method.advance (direction.sign * method.step))^[count] method.start

/-- A node of the integrator. -/
def IsNode (state : State) : Prop :=
  ∃ direction count, state = method.node direction count

/-- The last node before a target, as seen from time zero. -/
def Settled (target : K) (state : State) : Prop :=
  ∃ direction count,
    state = method.node direction count ∧
      count * method.step ≤ direction.along target ∧
      direction.along target < (count + 1) * method.step

@[simp] theorem node_zero (direction : Direction) :
    method.node direction 0 = method.start :=
  rfl

theorem node_succ (direction : Direction) (count : Nat) :
    method.node direction (count + 1) =
      method.advance (direction.sign * method.step)
        (method.node direction count) :=
  Function.iterate_succ_apply' ..

theorem time_node (direction : Direction) (count : Nat) :
    method.time (method.node direction count) =
      direction.sign * (count * method.step) := by
  induction count with
  | zero =>
      simp [method.time_start]
  | succ count inductionHypothesis =>
      rw [node_succ, method.time_advance, inductionHypothesis]
      push_cast
      ring

theorem abs_sub_time_node
    (direction : Direction)
    (count : Nat)
    (target : K) :
    |target - method.time (method.node direction count)| =
      |direction.along target - count * method.step| := by
  rw [time_node]
  cases direction with
  | forward =>
      simp [Direction.along, Direction.sign]
  | backward =>
      rw [← abs_neg]
      simp only [Direction.along, Direction.sign]
      congr 1
      ring

variable {method}

theorem isNode_start : method.IsNode method.start :=
  ⟨.forward, 0, rfl⟩

theorem Settled.isNode
    {target : K}
    {state : State}
    (settled : method.Settled target state) :
    method.IsNode state := by
  obtain ⟨direction, count, same, _⟩ := settled
  exact ⟨direction, count, same⟩

theorem isNode_resume
    {tolerance target : K}
    {state : State}
    (isNode : method.IsNode state) :
    method.IsNode (method.resume tolerance target state) := by
  unfold resume
  split
  · exact isNode_start
  · exact isNode

/-- Starting again is no overshooting. -/
theorem not_overshoots_of_restarts
    {tolerance target : K}
    {state : State}
    (restarts : method.Restarts tolerance target state) :
    ¬ method.Overshoots tolerance target state := by
  rintro ⟨far, sides⟩
  rcases restarts with close | ⟨isAfter, before⟩ | ⟨isBefore, behind⟩
  · exact close.not_ge far
  · rcases sides with ⟨_, _, within⟩ | ⟨isBefore, _⟩
    · exact before.not_ge within
    · exact isAfter.not_gt isBefore
  · rcases sides with ⟨isAfter, _⟩ | ⟨_, _, within⟩
    · exact isAfter.not_gt isBefore
    · exact behind.not_ge within

variable (method)

theorem Direction.abs_along (direction : Direction) (time : K) :
    |direction.along time| = |time| := by
  cases direction <;> simp

variable [IsStrictOrderedRing K]

/-- Every time lies in one of the directions. -/
theorem exists_along_eq_abs (time : K) :
    ∃ direction : Direction, direction.along time = |time| := by
  rcases le_total 0 time with ahead | behind
  · refine ⟨.forward, ?_⟩
    simp [abs_of_nonneg ahead]
  · refine ⟨.backward, ?_⟩
    simp [abs_of_nonpos behind]

theorem count_lt
    {first second : Nat}
    {time : K}
    (lower : first * method.step ≤ time)
    (upper : time < (second + 1) * method.step) :
    first < second + 1 := by
  have steps : (first : K) < second + 1 :=
    lt_of_mul_lt_mul_right (lower.trans_lt upper) method.positive.le
  exact_mod_cast steps

theorem count_eq_zero
    {count : Nat}
    (low : (count : K) * method.step ≤ 0) :
    count = 0 := by
  by_contra some
  have one : (0 : K) < count := Nat.cast_pos.mpr (Nat.pos_of_ne_zero some)
  exact (mul_pos one method.positive).not_ge low

/-- A time has one last node before it. -/
theorem settled_unique
    {target : K}
    {first second : State}
    (isFirst : method.Settled target first)
    (isSecond : method.Settled target second) :
    first = second := by
  obtain ⟨direction, count, rfl, lower, upper⟩ := isFirst
  obtain ⟨other, otherCount, rfl, otherLower, otherUpper⟩ := isSecond
  by_cases same : direction = other
  · subst same
    have atMost := method.count_lt lower otherUpper
    have atLeast := method.count_lt otherLower upper
    rw [show count = otherCount by omega]
  · have opposite : direction.along target = -other.along target := by
      cases direction <;> cases other <;>
        simp [Direction.along, Direction.sign] at same ⊢
    have nonneg : (0 : K) ≤ count * method.step :=
      mul_nonneg (Nat.cast_nonneg count) method.positive.le
    have otherNonneg : (0 : K) ≤ otherCount * method.step :=
      mul_nonneg (Nat.cast_nonneg otherCount) method.positive.le
    rw [method.count_eq_zero (by linarith : (count : K) * method.step ≤ 0),
      method.count_eq_zero
        (by linarith : (otherCount : K) * method.step ≤ 0)]
    rfl

/-! ## Walks between nodes -/

/-- With enough fuel a walk stops at the last node before its target. -/
theorem walk_node
    {fuel count : Nat}
    {direction : Direction}
    {target : K}
    (behind : (count + 1) * method.step ≤ direction.along target)
    (near : direction.along target ≤ (count + fuel) * method.step) :
    method.Settled target
      (method.walk (direction.sign * method.step) target fuel
        (method.node direction count)) := by
  induction fuel generalizing count with
  | zero =>
      have := method.positive
      push_cast at near
      linarith
  | succ fuel inductionHypothesis =>
      rw [walk]
      simp only [← node_succ]
      have distance :
          |target - method.time (method.node direction (count + 1))| =
            direction.along target - (count + 1) * method.step := by
        rw [abs_sub_time_node]
        push_cast
        exact abs_of_nonneg (by linarith)
      rw [distance]
      split
      · next far =>
          apply inductionHypothesis
          · push_cast
            linarith
          · push_cast at near ⊢
            linarith
      · next close =>
          refine ⟨direction, count + 1, rfl, ?_, ?_⟩
          · push_cast
            exact behind
          · push_cast
            linarith

/-- A target ahead is pursued up to the last node before it. -/
theorem pursue_node
    {fuel count : Nat}
    {direction : Direction}
    {target : K}
    (ahead : count * method.step ≤ direction.along target)
    (near : direction.along target ≤ (count + fuel) * method.step) :
    method.Settled target
      (method.pursue fuel target (method.node direction count)) := by
  have distance :
      |target - method.time (method.node direction count)| =
        direction.along target - count * method.step := by
    rw [abs_sub_time_node]
    exact abs_of_nonneg (by linarith)
  rw [pursue, distance]
  split
  · next far =>
      have positive := method.positive
      have delt :
          (if method.time (method.node direction count) ≤ target then
              method.step
            else
              -method.step) =
            direction.sign * method.step := by
        rw [time_node]
        cases direction with
        | forward =>
            rw [if_pos]
            · simp [Direction.sign]
            · simp only [Direction.along, Direction.sign] at far ⊢
              linarith
        | backward =>
            rw [if_neg]
            · simp [Direction.sign]
            · simp only [Direction.along, Direction.sign] at far ⊢
              linarith
      rw [delt]
      exact method.walk_node (by linarith) near
  · next close =>
      exact ⟨direction, count, rfl, ahead, by linarith⟩

/-- From the start every target within reach is settled. -/
theorem pursue_start
    {fuel : Nat}
    {target : K}
    (near : |target| ≤ fuel * method.step) :
    method.Settled target (method.pursue fuel target method.start) := by
  obtain ⟨direction, inDirection⟩ := exists_along_eq_abs target
  rw [← method.node_zero direction]
  apply method.pursue_node
  · rw [inDirection]
    simp
  · rw [inDirection]
    simpa using near

/-! ## Restarts -/

theorem time_node_pos_iff
    (direction : Direction)
    (count : Nat) :
    0 < direction.along (method.time (method.node direction count)) ↔
      0 < count := by
  have along_eq :
      direction.along (method.time (method.node direction count)) =
        count * method.step := by
    rw [time_node]
    cases direction <;> simp [Direction.along, Direction.sign]
  rw [along_eq, mul_pos_iff_of_pos_right method.positive, Nat.cast_pos]

theorem restarts_node_iff
    (direction : Direction)
    (count : Nat)
    (tolerance target : K) :
    method.Restarts tolerance target (method.node direction count) ↔
      |target| < method.step ∨
        0 < count ∧
          direction.along target < count * method.step - tolerance := by
  have nonneg : (0 : K) ≤ count * method.step :=
    mul_nonneg (Nat.cast_nonneg count) method.positive.le
  rw [← method.time_node_pos_iff direction, Restarts, time_node]
  cases direction with
  | forward =>
      simp only [Direction.along, Direction.sign, one_mul]
      have notBefore : ¬ (count : K) * method.step < 0 := not_lt.mpr nonneg
      simp [notBefore]
  | backward =>
      simp only [Direction.along, Direction.sign]
      have notAfter : ¬ 0 < -1 * ((count : K) * method.step) := by
        linarith
      simp only [notAfter, false_and, false_or]
      refine or_congr_right (and_congr ?_ ?_)
      · constructor <;> intro <;> linarith
      · constructor <;> intro <;> linarith

theorem overshoots_node_iff
    (direction : Direction)
    (count : Nat)
    (tolerance target : K) :
    method.Overshoots tolerance target (method.node direction count) ↔
      method.step ≤ |target| ∧ 0 < count ∧
        direction.along target < count * method.step ∧
        count * method.step - tolerance ≤ direction.along target := by
  have nonneg : (0 : K) ≤ count * method.step :=
    mul_nonneg (Nat.cast_nonneg count) method.positive.le
  rw [← method.time_node_pos_iff direction, Overshoots, time_node]
  cases direction with
  | forward =>
      simp only [Direction.along, Direction.sign, one_mul]
      have notBefore : ¬ (count : K) * method.step < 0 := not_lt.mpr nonneg
      simp [notBefore]
  | backward =>
      simp only [Direction.along, Direction.sign]
      have notAfter : ¬ 0 < -1 * ((count : K) * method.step) := by
        linarith
      simp only [notAfter, false_and, false_or]
      refine and_congr_right fun _ => and_congr ?_ (and_congr ?_ ?_)
      · constructor <;> intro <;> linarith
      · constructor <;> intro <;> linarith
      · constructor <;> intro <;> linarith

variable {method}

/-- A node that is kept lies beyond its target by the tolerance at most. -/
theorem within_of_not_restarts
    {direction : Direction}
    {count : Nat}
    {tolerance target : K}
    (stays :
      ¬ method.Restarts tolerance target
        (method.node direction (count + 1))) :
    method.step ≤ |target| ∧
      (count + 1) * method.step - tolerance ≤ direction.along target := by
  rw [restarts_node_iff, not_or, not_lt] at stays
  refine ⟨stays.1, ?_⟩
  by_contra below
  apply stays.2
  push_cast
  exact ⟨count.succ_pos, not_le.mp below⟩

/-- A target before a node that is kept leaves the integrator there. -/
theorem settle_of_beyond
    {fuel count : Nat}
    {direction : Direction}
    {tolerance target : K}
    (small : tolerance < method.step)
    (stays :
      ¬ method.Restarts tolerance target (method.node direction (count + 1)))
    (beyond : direction.along target < (count + 1) * method.step) :
    method.Overshoots tolerance target (method.node direction (count + 1)) ∧
      method.settle fuel tolerance target (method.node direction (count + 1)) =
        method.node direction (count + 1) ∧
      method.Settled target (method.node direction count) := by
  obtain ⟨far, within⟩ := within_of_not_restarts stays
  refine ⟨?_, ?_, direction, count, rfl, by linarith, beyond⟩
  · rw [overshoots_node_iff]
    push_cast
    exact ⟨far, count.succ_pos, beyond, within⟩
  · rw [settle, resume, if_neg stays, pursue, if_neg]
    rw [abs_sub_time_node, not_le, abs_sub_comm]
    push_cast
    rw [abs_of_pos (by linarith)]
    linarith

/-- What the integrator does with a target within its reach. -/
theorem settle_cases
    {fuel : Nat}
    {tolerance target : K}
    {state : State}
    (small : tolerance < method.step)
    (isNode : method.IsNode state)
    (near :
      |target - method.time (method.resume tolerance target state)| ≤
        fuel * method.step) :
    ¬ method.Overshoots tolerance target state ∧
        method.Settled target (method.settle fuel tolerance target state) ∨
      method.Overshoots tolerance target state ∧
        method.settle fuel tolerance target state = state ∧
        ∃ direction count,
          state = method.node direction (count + 1) ∧
            method.Settled target (method.node direction count) := by
  obtain ⟨direction, count, rfl⟩ := isNode
  by_cases restarts :
      method.Restarts tolerance target (method.node direction count)
  · left
    rw [resume, if_pos restarts, method.time_start, sub_zero] at near
    rw [settle, resume, if_pos restarts]
    exact ⟨not_overshoots_of_restarts restarts, method.pursue_start near⟩
  by_cases ahead : count * method.step ≤ direction.along target
  · left
    rw [resume, if_neg restarts, abs_sub_time_node] at near
    rw [settle, resume, if_neg restarts, overshoots_node_iff]
    refine ⟨fun overshoots => overshoots.2.2.1.not_ge ahead,
      method.pursue_node ahead ?_⟩
    have := le_abs_self (direction.along target - count * method.step)
    linarith
  · cases count with
    | zero =>
        left
        rw [resume, if_neg restarts, node_zero, method.time_start,
          sub_zero] at near
        rw [settle, resume, if_neg restarts, overshoots_node_iff, node_zero]
        exact ⟨fun overshoots => overshoots.2.1.false,
          method.pursue_start near⟩
    | succ count =>
        right
        push_cast at ahead
        obtain ⟨overshoots, stays, settled⟩ :=
          settle_of_beyond small restarts (not_le.mp ahead)
        exact ⟨overshoots, stays, direction, count, rfl, settled⟩

/-- Targets that can be reached from time zero can be reached from any node. -/
theorem near_of_reach
    {fuel : Nat}
    {tolerance target : K}
    {state : State}
    (small : tolerance < method.step)
    (isNode : method.IsNode state)
    (reach : |target| ≤ fuel * method.step) :
    |target - method.time (method.resume tolerance target state)| ≤
      fuel * method.step := by
  obtain ⟨direction, count, rfl⟩ := isNode
  by_cases restarts :
      method.Restarts tolerance target (method.node direction count)
  · rw [resume, if_pos restarts, method.time_start, sub_zero]
    exact reach
  · rw [resume, if_neg restarts, abs_sub_time_node]
    cases count with
    | zero =>
        simpa [Direction.abs_along] using reach
    | succ count =>
        obtain ⟨far, within⟩ := within_of_not_restarts restarts
        have upper := le_abs_self (direction.along target)
        rw [Direction.abs_along] at upper
        have nonneg : (0 : K) ≤ (count + 1 : Nat) * method.step :=
          mul_nonneg (Nat.cast_nonneg _) method.positive.le
        push_cast at nonneg ⊢
        rw [abs_le]
        constructor <;> linarith

/-- The integrator moves from nodes to nodes. -/
theorem isNode_settle
    {fuel : Nat}
    {tolerance target : K}
    {state : State}
    (small : tolerance < method.step)
    (isNode : method.IsNode state)
    (near :
      |target - method.time (method.resume tolerance target state)| ≤
        fuel * method.step) :
    method.IsNode (method.settle fuel tolerance target state) := by
  rcases settle_cases small isNode near with ⟨_, settled⟩ | ⟨_, stays, _⟩
  · exact settled.isNode
  · rw [stays]
    exact isNode

theorem settled_start
    {fuel : Nat}
    {tolerance target : K}
    (small : tolerance < method.step)
    (reach : |target| ≤ fuel * method.step) :
    method.Settled target
      (method.settle fuel tolerance target method.start) := by
  have near := near_of_reach small isNode_start reach
  rcases settle_cases small isNode_start near with
    ⟨_, settled⟩ | ⟨overshoots, _⟩
  · exact settled
  · rw [← method.node_zero .forward, overshoots_node_iff] at overshoots
    exact overshoots.2.1.false.elim

/--
Unless its node lies just beyond the target, the integrator settles on the
node that it settles on when it is new.
-/
theorem settle_eq_settle_start
    {fuel : Nat}
    {tolerance target : K}
    {state : State}
    (small : tolerance < method.step)
    (isNode : method.IsNode state)
    (reach : |target| ≤ fuel * method.step)
    (regular : ¬ method.Overshoots tolerance target state) :
    method.settle fuel tolerance target state =
      method.settle fuel tolerance target method.start := by
  have near := near_of_reach small isNode reach
  rcases settle_cases small isNode near with ⟨_, settled⟩ | ⟨overshoots, _⟩
  · exact method.settled_unique settled (settled_start small reach)
  · exact (regular overshoots).elim

/-- A node just beyond the target is one step behind the one of the start. -/
theorem settle_of_overshoots
    {fuel : Nat}
    {tolerance target : K}
    {state : State}
    (small : tolerance < method.step)
    (isNode : method.IsNode state)
    (reach : |target| ≤ fuel * method.step)
    (overshoots : method.Overshoots tolerance target state) :
    method.settle fuel tolerance target state = state ∧
      ∃ direction : Direction,
        state =
          method.advance (direction.sign * method.step)
            (method.settle fuel tolerance target method.start) := by
  have near := near_of_reach small isNode reach
  rcases settle_cases small isNode near with
    ⟨regular, _⟩ | ⟨_, stays, direction, count, isNext, settled⟩
  · exact (regular overshoots).elim
  · refine ⟨stays, direction, ?_⟩
    rw [method.settled_unique (settled_start small reach) settled, isNext,
      node_succ]

end FixedStep
