import Mathlib.Analysis.Complex.Trigonometric
import Radar.NoradSDP4

namespace Radar.NoradSDP4

/-!
# Positions and the calls before them

An object for a resonant orbit moves its integrator from node to node.  A call
uses the node that a new object would use, unless the node that the object has
reached lies beyond the time by a minute at most: such a node is kept, and the
position is extrapolated back from it.
-/

variable {K : Type} [Field K] [LinearOrder K] [IsStrictOrderedRing K]

/-! ## The integrator as one with a fixed step -/

/-- The integrator of an orbit. -/
def integrator (trig : Trigonometry K) (orbit : DeepSpaceOrbit K) :
    FixedStep (IntegratorNode K) K where
  start := epochNode trig orbit
  advance := advance trig orbit
  time := IntegratorNode.atime
  step := step
  positive := by
    unfold step
    norm_num
  time_start := by
    unfold epochNode dotTermsCalculated
    dsimp only
    split <;> rfl
  time_advance delt node := by
    unfold advance dotTermsCalculated
    dsimp only
    split <;> rfl

theorem integrate_eq_walk
    (trig : Trigonometry K)
    (orbit : DeepSpaceOrbit K)
    (delt tsince : K)
    (fuel : Nat)
    (node : IntegratorNode K) :
    integrate trig orbit delt tsince fuel node =
      (integrator trig orbit).walk delt tsince fuel node := by
  induction fuel generalizing node with
  | zero =>
      rfl
  | succ fuel inductionHypothesis =>
      rw [integrate, FixedStep.walk, inductionHypothesis]
      rfl

/-- An object for a resonant orbit at one of the nodes of its integrator. -/
structure AtNode (trig : Trigonometry K) (object : NoradSDP4 K) : Prop where
  resonant : object.orbit.iresfl = true
  restartNode : object.restartNode = epochNode trig object.orbit
  isNode : (integrator trig object.orbit).IsNode object.node

/-- A new object is at the epoch. -/
theorem new_node
    (trig : Trigonometry K)
    {orbit : DeepSpaceOrbit K}
    (resonant : orbit.iresfl = true) :
    (new trig orbit).node = (integrator trig orbit).start := by
  rw [new, if_pos resonant]
  rfl

theorem atNode_new
    (trig : Trigonometry K)
    {orbit : DeepSpaceOrbit K}
    (resonant : orbit.iresfl = true) :
    AtNode trig (new trig orbit) where
  resonant := by
    rw [new_orbit]
    exact resonant
  restartNode := by
    rw [new_orbit, new, if_pos resonant]
    unfold restartNode epochNode dotTermsCalculated
    dsimp only
    split <;> rfl
  isNode := by
    rw [new_orbit, new_node trig resonant]
    exact FixedStep.isNode_start

/-- What `_secular` does with an object at a node. -/
theorem secular_eq
    {trig : Trigonometry K}
    {object : NoradSDP4 K}
    (atNode : AtNode trig object)
    (dcd : DeepCalcData K) :
    let method := integrator trig object.orbit
    let resumed := method.resume 1 dcd.tsince object.node
    let settled := method.settle 10000 1 dcd.tsince object.node
    secular trig dcd object =
      if maxIntegrate < |dcd.tsince - resumed.atime| then
        (false, addRates object.orbit dcd,
          { object with node := resumed, integrWarn := true })
      else
        (true,
          extrapolate object.orbit settled (addRates object.orbit dcd),
          { object with node := settled }) := by
  intro method resumed settled
  have resumed_eq :
      (if Restarts dcd.tsince object.node then
          object.restartNode
        else
          object.node) = resumed := by
    rw [atNode.restartNode]
    exact if_congr Iff.rfl rfl rfl
  have settled_eq :
      (if step ≤ |dcd.tsince - resumed.atime| then
          integrate trig object.orbit
            (if resumed.atime ≤ dcd.tsince then step else -step)
            dcd.tsince 10000 resumed
        else
          resumed) = settled := by
    rw [integrate_eq_walk]
    rfl
  have resonant : ¬ object.orbit.iresfl = false := by
    rw [atNode.resonant]
    decide
  rw [secular]
  dsimp only
  rw [if_neg resonant, resumed_eq, settled_eq]

/-- What a call of `getPosition` does with an object at a node. -/
theorem getPosition_eq
    {trig : Trigonometry K}
    {object : NoradSDP4 K}
    (atNode : AtNode trig object)
    (tsince : K) :
    let method := integrator trig object.orbit
    let resumed := method.resume 1 tsince object.node
    let settled := method.settle 10000 1 tsince object.node
    getPosition trig tsince object =
      if maxIntegrate < |tsince - resumed.atime| then
        (none, { object with node := resumed, integrWarn := true })
      else
        (some
            (extrapolate object.orbit settled
              (addRates object.orbit (initCalcData object.orbit tsince))),
          { object with node := settled }) := by
  intro method resumed settled
  have answer := secular_eq atNode (initCalcData object.orbit tsince)
  rw [getPosition]
  by_cases far : maxIntegrate < |tsince - resumed.atime|
  · rw [answer.trans (if_pos far), if_pos far]
    rfl
  · rw [answer.trans (if_neg far), if_neg far]
    rfl

theorem one_lt_step (trig : Trigonometry K) (orbit : DeepSpaceOrbit K) :
    1 < (integrator trig orbit).step := by
  change (1 : K) < 720
  norm_num

theorem maxIntegrate_eq (trig : Trigonometry K) (orbit : DeepSpaceOrbit K) :
    maxIntegrate = ((10000 : Nat) : K) * (integrator trig orbit).step := by
  change (step : K) * 10000 = (10000 : Nat) * step
  push_cast
  ring

/-- Every call leads from a node to a node. -/
theorem AtNode.getPosition
    {trig : Trigonometry K}
    {object : NoradSDP4 K}
    (atNode : AtNode trig object)
    (tsince : K) :
    AtNode trig (getPosition trig tsince object).2 ∧
      (NoradSDP4.getPosition trig tsince object).2.orbit = object.orbit := by
  rw [getPosition_eq atNode]
  split
  · exact ⟨⟨atNode.resonant, atNode.restartNode,
      FixedStep.isNode_resume atNode.isNode⟩, rfl⟩
  · next near =>
      rw [not_lt, maxIntegrate_eq trig object.orbit] at near
      exact ⟨⟨atNode.resonant, atNode.restartNode,
        FixedStep.isNode_settle (one_lt_step ..) atNode.isNode near⟩, rfl⟩

/-- After any calls an object for a resonant orbit is at a node. -/
theorem atNode_afterCalls
    (trig : Trigonometry K)
    {orbit : DeepSpaceOrbit K}
    (resonant : orbit.iresfl = true)
    (earlier : List K) :
    AtNode trig (afterCalls trig orbit earlier) ∧
      (afterCalls trig orbit earlier).orbit = orbit := by
  unfold afterCalls
  have start := atNode_new trig resonant
  have sameOrbit := new_orbit trig orbit
  generalize new trig orbit = object at start sameOrbit
  induction earlier generalizing object with
  | nil =>
      exact ⟨start, sameOrbit⟩
  | cons tsince rest inductionHypothesis =>
      have next := start.getPosition tsince
      exact inductionHypothesis _ next.1 (next.2.trans sameOrbit)

/-! ## Calls within the limit -/

/--
Does the node of an object lie beyond a time, but by a minute at most?  Such
a node is kept.
-/
def Overshoots (tsince : K) (node : IntegratorNode K) : Prop :=
  step ≤ |tsince| ∧
    (0 < node.atime ∧ tsince < node.atime ∧ node.atime - 1 ≤ tsince ∨
      node.atime < 0 ∧ node.atime < tsince ∧ tsince ≤ node.atime + 1)

/-- A call after earlier ones and the same call of a new object. -/
structure AnswersLikeNew
    (trig : Trigonometry K)
    (orbit : DeepSpaceOrbit K)
    (earlier : List K)
    (tsince : K) : Prop where
  /-- Both calls answer. -/
  answers :
    (getPosition trig tsince (afterCalls trig orbit earlier)).1.isSome ∧
      (getPosition trig tsince (new trig orbit)).1.isSome
  /-- Both use one node, with one longitude, mean motion and dot terms. -/
  same :
    ¬ Overshoots tsince (afterCalls trig orbit earlier).node →
      (getPosition trig tsince (afterCalls trig orbit earlier)).2.node =
          (getPosition trig tsince (new trig orbit)).2.node ∧
        (getPosition trig tsince (afterCalls trig orbit earlier)).1 =
          (getPosition trig tsince (new trig orbit)).1
  /-- A node that is kept is one step beyond the one of the new object. -/
  kept :
    Overshoots tsince (afterCalls trig orbit earlier).node →
      (getPosition trig tsince (afterCalls trig orbit earlier)).2.node =
          (afterCalls trig orbit earlier).node ∧
        ∃ direction : FixedStep.Direction,
          (afterCalls trig orbit earlier).node =
            advance trig orbit (direction.sign * step)
              (getPosition trig tsince (new trig orbit)).2.node

/-- Within the limit a call settles on a node and extrapolates from it. -/
theorem getPosition_of_within
    {trig : Trigonometry K}
    {object : NoradSDP4 K}
    (atNode : AtNode trig object)
    {tsince : K}
    (within : |tsince| ≤ maxIntegrate) :
    let settled :=
      (integrator trig object.orbit).settle 10000 1 tsince object.node
    getPosition trig tsince object =
      (some
          (extrapolate object.orbit settled
            (addRates object.orbit (initCalcData object.orbit tsince))),
        { object with node := settled }) := by
  rw [maxIntegrate_eq trig object.orbit] at within
  have near :=
    FixedStep.near_of_reach (one_lt_step trig object.orbit) atNode.isNode
      within
  rw [← maxIntegrate_eq] at near
  exact (getPosition_eq atNode tsince).trans (if_neg (not_lt.mpr near))

/--
Whatever calls are made before, a call within the limit answers like the one of
a new object, unless the node that has been reached is kept.
-/
theorem getPosition_answersLikeNew
    (trig : Trigonometry K)
    {orbit : DeepSpaceOrbit K}
    (resonant : orbit.iresfl = true)
    (earlier : List K)
    {tsince : K}
    (within : |tsince| ≤ maxIntegrate) :
    AnswersLikeNew trig orbit earlier tsince := by
  obtain ⟨atNode, sameOrbit⟩ := atNode_afterCalls trig resonant earlier
  have later := getPosition_of_within atNode within
  have fresh := getPosition_of_within (atNode_new trig resonant) within
  rw [sameOrbit] at later
  rw [new_orbit, new_node trig resonant] at fresh
  have reach := within
  rw [maxIntegrate_eq trig orbit] at reach
  have small := one_lt_step trig orbit
  have isNode := atNode.isNode
  rw [sameOrbit] at isNode
  refine ⟨?_, ?_, ?_⟩
  · rw [later, fresh]
    exact ⟨rfl, rfl⟩
  · intro regular
    have settled := FixedStep.settle_eq_settle_start small isNode reach regular
    rw [later, fresh, settled]
    exact ⟨rfl, rfl⟩
  · intro overshoots
    rw [later, fresh]
    exact FixedStep.settle_of_overshoots small isNode reach overshoots

/-- A geostationary satellite. -/
def geostationary : DeepSpaceOrbit K where
  meanMotionR := 0.0043752691
  argPerigee := 1.2
  raan := 0.4
  inclination := 0.001
  eccentricity := 0.0003
  meanAnomaly := 2.1
  bStar := 0.0001
  xmdot := 0.0043752
  xnodot := -0.0000002
  xnodcf := 0
  omgdot := 0.0000004
  c1 := 0
  c4 := 0
  t2cof := 0
  ssl := -0.00000005
  ssg := 0.00000003
  ssh := -0.00000001
  sse := 0
  ssi := 0.000000001
  thgr := 3.1
  xfact := -0.0043753
  xlamo := 0.6
  del1 := 0.00000000001
  del2 := 0.00000000002
  del3 := 0.000000000003
  d2201 := 0
  d2211 := 0
  d3210 := 0
  d3222 := 0
  d4410 := 0
  d4422 := 0
  d5220 := 0
  d5232 := 0
  d5421 := 0
  d5433 := 0
  iresfl := true
  isynfl := true

/-- The functions of real numbers. -/
noncomputable def realTrig : Trigonometry ℝ where
  sin := Real.sin
  cos := Real.cos

theorem getPosition_answersLikeNew_geostationary :
    AnswersLikeNew realTrig geostationary [1440, -3000] 2000 :=
  getPosition_answersLikeNew realTrig rfl [1440, -3000] (by
    norm_num [maxIntegrate, step])

/-- The node that a new object settles on. -/
theorem getPosition_new_node
    (trig : Trigonometry K)
    {orbit : DeepSpaceOrbit K}
    (resonant : orbit.iresfl = true)
    {tsince : K}
    (within : |tsince| ≤ maxIntegrate)
    {count : Nat}
    (lower : count * step ≤ tsince)
    (upper : tsince < (count + 1) * step) :
    (getPosition trig tsince (new trig orbit)).2.node =
      (integrator trig orbit).node .forward count := by
  rw [getPosition_of_within (atNode_new trig resonant) within]
  rw [maxIntegrate_eq trig orbit] at within
  simp only [new_orbit, new_node trig resonant]
  apply (integrator trig orbit).settled_unique
    (FixedStep.settled_start (one_lt_step trig orbit) within)
  refine ⟨.forward, count, rfl, ?_, ?_⟩
  · rw [FixedStep.Direction.along_forward]
    exact lower
  · rw [FixedStep.Direction.along_forward]
    exact upper

/-- The time of the node that a new object settles on. -/
theorem getPosition_new_atime
    (trig : Trigonometry K)
    {orbit : DeepSpaceOrbit K}
    (resonant : orbit.iresfl = true)
    {tsince : K}
    (within : |tsince| ≤ maxIntegrate)
    {count : Nat}
    (lower : count * step ≤ tsince)
    (upper : tsince < (count + 1) * step) :
    (getPosition trig tsince (new trig orbit)).2.node.atime = count * step := by
  rw [getPosition_new_node trig resonant within lower upper]
  exact ((integrator trig orbit).time_node .forward count).trans (one_mul _)

/-- A node just beyond the time of a call is kept. -/
theorem getPosition_kept
    {trig : Trigonometry K}
    {object : NoradSDP4 K}
    (atNode : AtNode trig object)
    {tsince : K}
    (within : |tsince| ≤ maxIntegrate)
    (overshoots : Overshoots tsince object.node) :
    (getPosition trig tsince object).2.node = object.node := by
  rw [getPosition_of_within atNode within]
  rw [maxIntegrate_eq trig object.orbit] at within
  exact (FixedStep.settle_of_overshoots (one_lt_step ..) atNode.isNode within
    overshoots).1

/--
A call for 1440 minutes makes a call for 1439.5 minutes extrapolate back from
another node.
-/
theorem geostationary_not_likeNew :
    (getPosition realTrig 1439.5
        (afterCalls realTrig geostationary [1440])).2.node.atime = 1440 ∧
      (getPosition realTrig 1439.5
        (new realTrig geostationary)).2.node.atime = 720 := by
  have reached :
      (afterCalls realTrig geostationary [1440]).node.atime = 1440 := by
    have node :=
      @getPosition_new_atime ℝ _ _ _ realTrig geostationary rfl 1440
        (by norm_num [maxIntegrate, step]) 2 (by norm_num [step])
        (by norm_num [step])
    exact node.trans (by norm_num [step])
  constructor
  · have atNode :=
      (@atNode_afterCalls ℝ _ _ _ realTrig geostationary rfl [1440]).1
    rw [getPosition_kept atNode (by norm_num [maxIntegrate, step])]
    · exact reached
    · rw [Overshoots, reached]
      norm_num [step]
  · have node :=
      @getPosition_new_atime ℝ _ _ _ realTrig geostationary rfl 1439.5
        (by norm_num [maxIntegrate, step]) 1 (by norm_num [step])
        (by norm_num [step])
    exact node.trans (by norm_num [step])

end Radar.NoradSDP4
