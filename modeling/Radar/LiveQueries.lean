import Mathlib.Data.List.Nodup
import Radar.QueryChains

namespace Radar.Scheduler

/-!
# One live query for each chain

Over a run that injects queries between ticks, the queue is at every moment a
rearrangement of the chains: each injected query has exactly one descendant in
it.
-/

open Settings

variable (platform : Platform)

/-- What happens to a scheduler: a query is pushed, or a tick passes. -/
inductive Label where
  | inject (query : Query)
  | tick (time : UInt64)

/-- The query that a label injects. -/
def Label.injected? : Label → Option Query
  | .inject query => some query
  | .tick _ => none

/-- One step of a scheduler. -/
inductive Step : Scheduler → Label → Scheduler → Prop where
  | inject (scheduler : Scheduler) (query : Query) :
      Step scheduler (.inject query)
        { scheduler with queries := scheduler.queries ++ [query] }
  | tick (scheduler : Scheduler) (time : UInt64) :
      Step scheduler (.tick time) (run platform scheduler time).1

/-- All queries ever pushed: those at the start, then the injected ones. -/
def injected (start : Scheduler) (labels : List Label) : List Query :=
  start.queries ++ labels.filterMap Label.injected?

/-! ## Ids along a chain -/

theorem id_mem_ownedIds (query : Query) : query.id ∈ ownedIds query := by
  unfold ownedIds
  split <;> exact List.mem_cons_self

theorem ownedIds_of_sameStage
    {earlier later : Query}
    (same : SameStage earlier later) :
    ownedIds later = ownedIds earlier := by
  rw [ownedIds, ownedIds, same.type, same.id]

/-- A step along the chain gives up the id that it leaves. -/
theorem ownedIds_of_nextStage
    {earlier later : Query}
    (next : NextStage earlier later) :
    ownedIds earlier = earlier.id :: ownedIds later := by
  rcases next.type with ⟨isConfirm, isCapture⟩ | ⟨isCapture, isTracking⟩
  · rw [ownedIds, ownedIds, isConfirm, isCapture, next.id,
      UInt32.add_assoc]
    rfl
  · rw [ownedIds, ownedIds, isCapture, isTracking, next.id]

theorem Descends.ownedIds_subset
    {first later : Query}
    (descends : Descends first later) :
    ownedIds later ⊆ ownedIds first := by
  induction descends with
  | same same =>
      rw [ownedIds_of_sameStage same]
      exact List.Subset.refl _
  | next _ next inductionHypothesis =>
      have shorter := ownedIds_of_nextStage next
      exact fun queryId member =>
        inductionHypothesis
          (shorter ▸ List.mem_cons_of_mem _ member)

theorem Descends.step
    {scheduler : Scheduler}
    {time : UInt64}
    {first earlier later : Query}
    (descends : Descends first earlier)
    (step : TickStep platform scheduler time earlier later) :
    Descends first later := by
  rcases step with ⟨_, next⟩ | ⟨_, same⟩
  · exact .next descends next
  · cases descends with
    | same before =>
        exact .same (before.trans same)
    | next before step =>
        exact .next before (step.trans_sameStage same)

/-- Only confirm and capture queries ever change their type. -/
theorem Descends.type_eq
    {first later : Query}
    (descends : Descends first later)
    (noChain : first.type ≠ .confirm ∧ first.type ≠ .capture) :
    SameStage first later := by
  induction descends with
  | same same =>
      exact same
  | next _ next inductionHypothesis =>
      rcases next.type with ⟨isConfirm, _⟩ | ⟨isCapture, _⟩
      · exact (noChain.1 (inductionHypothesis.type ▸ isConfirm)).elim
      · exact (noChain.2 (inductionHypothesis.type ▸ isCapture)).elim

theorem Descends.noDrop
    {first later : Query}
    (descends : Descends first later)
    (noDrop : first.type ≠ .drop) :
    later.type ≠ .drop := by
  cases descends with
  | same same =>
      rw [same.type]
      exact noDrop
  | next _ next =>
      rcases next.type with ⟨_, isCapture⟩ | ⟨_, isTracking⟩
      · simp [isCapture]
      · simp [isTracking]

/-! ## The queue as a rearrangement of the chains -/

/--
Pairs of an injected query and its descendant in the queue.  The descendants
are the whole queue in some order.
-/
structure Chains
    (firsts queries : List Query)
    (pairs : List (Query × Query)) :
    Prop where
  firsts : pairs.map Prod.fst = firsts
  queries : (pairs.map Prod.snd).Perm queries
  descends : ∀ pair ∈ pairs, Descends pair.1 pair.2

/-- Every query starts its own chain. -/
theorem Chains.start (queries : List Query) :
    Chains queries queries (queries.map fun query => (query, query)) where
  firsts := by
    rw [List.map_map]
    exact List.map_id queries
  queries := by
    rw [List.map_map]
    exact .of_eq (List.map_id queries)
  descends := by
    intro pair member
    obtain ⟨query, _, rfl⟩ := List.mem_map.mp member
    exact .same ⟨rfl, rfl, rfl, rfl⟩

/-- A pushed query starts its own chain. -/
theorem Chains.inject
    {firsts queries : List Query}
    {pairs : List (Query × Query)}
    (chains : Chains firsts queries pairs)
    (query : Query) :
    Chains (firsts ++ [query]) (queries ++ [query])
      (pairs ++ [(query, query)]) where
  firsts := by simp [chains.firsts]
  queries := by
    rw [List.map_append]
    exact chains.queries.append_right _
  descends := by
    intro pair member
    rcases List.mem_append.mp member with earlier | isNew
    · exact chains.descends pair earlier
    · rw [List.mem_singleton.mp isNew]
      exact .same ⟨rfl, rfl, rfl, rfl⟩

theorem Chains.flatMap_nodup
    {firsts queries : List Query}
    {pairs : List (Query × Query)}
    (chains : Chains firsts queries pairs)
    (owned : (firsts.flatMap ownedIds).Nodup) :
    (pairs.flatMap fun pair => ownedIds pair.1).Nodup := by
  rw [← chains.firsts, List.flatMap_map] at owned
  exact owned

/-- Two pairs that own one id are the same pair. -/
theorem Chains.pair_eq
    {firsts queries : List Query}
    {pairs : List (Query × Query)}
    (chains : Chains firsts queries pairs)
    (owned : (firsts.flatMap ownedIds).Nodup)
    {one other : Query × Query}
    (oneMember : one ∈ pairs)
    (otherMember : other ∈ pairs)
    {queryId : UInt32}
    (ofOne : queryId ∈ ownedIds one.1)
    (ofOther : queryId ∈ ownedIds other.1) :
    one = other := by
  by_contra different
  have apart :=
    (List.nodup_flatMap.mp (chains.flatMap_nodup owned)).2
  have : Std.Symm (Function.onFun List.Disjoint
      fun pair : Query × Query => ownedIds pair.1) :=
    ⟨fun _ _ disjoint => List.disjoint_symm disjoint⟩
  exact apart.forall oneMember otherMember different ofOne ofOther

/-- The ids of a queue of chains are pairwise distinct. -/
theorem Chains.ids_nodup
    {firsts queries : List Query}
    {pairs : List (Query × Query)}
    (chains : Chains firsts queries pairs)
    (owned : (firsts.flatMap ownedIds).Nodup) :
    (queries.map Query.id).Nodup := by
  rw [← (chains.queries.map Query.id).nodup_iff, List.map_map]
  have idsOwned :
      ∀ pair ∈ pairs, [pair.2.id] ⊆ ownedIds pair.1 := by
    intro pair member queryId isId
    rw [List.mem_singleton.mp isId]
    exact (chains.descends pair member).ownedIds_subset
      (id_mem_ownedIds pair.2)
  obtain ⟨_, apart⟩ := List.nodup_flatMap.mp (chains.flatMap_nodup owned)
  rw [List.Nodup, List.pairwise_map]
  apply apart.imp_of_mem
  intro one other oneMember otherMember disjoint sameId
  apply disjoint (idsOwned one oneMember List.mem_cons_self)
  have sameId : one.2.id = other.2.id := sameId
  rw [sameId]
  exact idsOwned other otherMember List.mem_cons_self

/-- The descendant of an injected query is the only one with one of its ids. -/
theorem Chains.filter_ownedIds
    {firsts queries : List Query}
    {pairs : List (Query × Query)}
    (chains : Chains firsts queries pairs)
    (owned : (firsts.flatMap ownedIds).Nodup)
    {pair : Query × Query}
    (member : pair ∈ pairs) :
    queries.filter (fun query => query.id ∈ ownedIds pair.1) = [pair.2] := by
  have nodup : queries.Nodup := (chains.ids_nodup owned).of_map
  have inQueue : pair.2 ∈ queries :=
    chains.queries.mem_iff.mp (List.mem_map_of_mem member)
  have only :
      ∀ query, query ∈ queries.filter
          (fun query => query.id ∈ ownedIds pair.1) ↔
        query ∈ [pair.2] := by
    intro query
    rw [List.mem_filter, List.mem_singleton, decide_eq_true_eq]
    constructor
    · rintro ⟨queryMember, isOwned⟩
      obtain ⟨other, otherMember, rfl⟩ :=
        List.mem_map.mp (chains.queries.mem_iff.mpr queryMember)
      have ofOther :=
        (chains.descends other otherMember).ownedIds_subset
          (id_mem_ownedIds other.2)
      rw [chains.pair_eq owned otherMember member ofOther isOwned]
    · rintro rfl
      exact ⟨inQueue,
        (chains.descends pair member).ownedIds_subset
          (id_mem_ownedIds pair.2)⟩
  have perm :=
    (List.perm_ext_iff_of_nodup (nodup.filter _)
      (List.nodup_singleton pair.2)).mpr only
  exact List.perm_singleton.mp perm

/-- The second component of a pair makes a step, the first one stays. -/
def PairStep
    (scheduler : Scheduler)
    (time : UInt64)
    (pair later : Query × Query) :
    Prop :=
  later.1 = pair.1 ∧ TickStep platform scheduler time pair.2 later.2

/-- Pair the first components with the images of the second ones. -/
private theorem exists_pairs
    {scheduler : Scheduler}
    {time : UInt64}
    {pairs : List (Query × Query)}
    {later : List Query}
    (steps :
      List.Forall₂ (TickStep platform scheduler time)
        (pairs.map Prod.snd) later) :
    ∃ laterPairs : List (Query × Query),
      laterPairs.map Prod.fst = pairs.map Prod.fst ∧
        laterPairs.map Prod.snd = later ∧
        List.Forall₂ (PairStep platform scheduler time) pairs laterPairs := by
  rw [List.forall₂_map_left_iff] at steps
  induction steps with
  | nil =>
      exact ⟨[], rfl, rfl, .nil⟩
  | @cons pair query _ _ step _ inductionHypothesis =>
      obtain ⟨laterPairs, firsts, seconds, laterSteps⟩ := inductionHypothesis
      exact ⟨(pair.1, query) :: laterPairs, by simp [firsts],
        by simp [seconds], .cons ⟨rfl, step⟩ laterSteps⟩

private theorem exists_of_mem_left
    {Item : Type}
    {related : Item → Item → Prop}
    {items laterItems : List Item}
    (steps : List.Forall₂ related items laterItems)
    {item : Item}
    (member : item ∈ items) :
    ∃ later ∈ laterItems, related item later := by
  induction steps with
  | nil =>
      cases member
  | cons step _ inductionHypothesis =>
      rcases List.mem_cons.mp member with rfl | inRest
      · exact ⟨_, List.mem_cons_self, step⟩
      · obtain ⟨later, laterMember, laterStep⟩ := inductionHypothesis inRest
        exact ⟨later, List.mem_cons_of_mem _ laterMember, laterStep⟩

/-- A tick moves every chain by the step of its query. -/
theorem Chains.tick
    {firsts : List Query}
    {scheduler : Scheduler}
    {pairs : List (Query × Query)}
    (chains : Chains firsts scheduler.queries pairs)
    (owned : (firsts.flatMap ownedIds).Nodup)
    (noDrop : ∀ query ∈ firsts, query.type ≠ .drop)
    (time : UInt64) :
    ∃ laterPairs,
      Chains firsts (run platform scheduler time).1.queries laterPairs ∧
        ∀ pair ∈ pairs, ∃ later ∈ laterPairs,
          PairStep platform scheduler time pair later := by
  have keepsType : ∀ query ∈ scheduler.queries, query.type ≠ .drop := by
    intro query member
    obtain ⟨pair, pairMember, rfl⟩ :=
      List.mem_map.mp (chains.queries.mem_iff.mpr member)
    apply (chains.descends pair pairMember).noDrop
    apply noDrop
    rw [← chains.firsts]
    exact List.mem_map_of_mem pairMember
  obtain ⟨later, steps, laterPerm⟩ :=
    exists_tickStep platform time (chains.ids_nodup owned) keepsType
  obtain ⟨moved, movedSteps, movedPerm⟩ :=
    List.perm_comp_forall₂ chains.queries steps
  obtain ⟨laterPairs, firstsShape, movedShape, pairSteps⟩ :=
    exists_pairs platform movedSteps
  refine ⟨laterPairs, ⟨?_, ?_, ?_⟩, ?_⟩
  · rw [firstsShape, chains.firsts]
  · rw [movedShape]
    exact movedPerm.trans laterPerm
  · intro laterPair laterMember
    obtain ⟨pair, member, sameFirst, step⟩ :=
      exists_of_mem_left pairSteps.flip laterMember
    rw [sameFirst]
    exact (chains.descends pair member).step platform step
  · intro pair member
    exact exists_of_mem_left pairSteps member

/-! ## Runs -/

/-- Every run keeps the queue a rearrangement of the chains. -/
theorem chains_of_run
    {start scheduler : Scheduler}
    {labels : List Label}
    (run : Run (Step platform) start labels scheduler)
    (noDrop : ∀ query ∈ injected start labels, query.type ≠ .drop)
    (owned : ((injected start labels).flatMap ownedIds).Nodup) :
    ∃ pairs, Chains (injected start labels) scheduler.queries pairs := by
  revert noDrop owned
  apply run.invariant
  · intro _ _
    have onlyStart : injected start [] = start.queries :=
      List.append_nil start.queries
    rw [onlyStart]
    exact ⟨_, Chains.start start.queries⟩
  · intro labels middle label next _ inductionHypothesis step noDrop owned
    have grows :
        injected start (labels ++ [label]) =
          injected start labels ++ label.injected?.toList := by
      rw [injected, injected, List.filterMap_append, List.append_assoc]
      cases label <;> rfl
    rw [grows] at noDrop owned ⊢
    rw [List.flatMap_append] at owned
    have earlierOwned := owned.of_append_left
    obtain ⟨pairs, chains⟩ :=
      inductionHypothesis
        (fun query member =>
          noDrop query (List.mem_append_left _ member))
        earlierOwned
    cases step with
    | inject query =>
        exact ⟨_, chains.inject query⟩
    | tick time =>
        obtain ⟨laterPairs, laterChains, _⟩ :=
          chains.tick platform earlierOwned
            (fun query member =>
              noDrop query (List.mem_append_left _ member)) time
        rw [Label.injected?, Option.toList_none, List.append_nil]
        exact ⟨laterPairs, laterChains⟩

/-! ## Chains of confirm queries -/

/-- Type and id at each stage of the chain that a confirm query starts. -/
def stageOf (first : Query) : Nat → QueryType × UInt32
  | 0 => (.confirm, first.id)
  | 1 => (.capture, first.id + 1)
  | _ => (.tracking, first.id + 2)

/-- A query is at a stage of the chain of a confirm query. -/
structure AtStage (first : Query) (stage : Nat) (live : Query) : Prop where
  bound : stage ≤ 2
  typeAndId : (live.type, live.id) = stageOf first stage
  range : live.range = first.range
  rcs : live.rcs = first.rcs

/-- The chain of a confirm query has one query in the queue, at a stage. -/
structure LiveAt
    (queries : List Query)
    (first : Query)
    (stage : Nat)
    (live : Query) :
    Prop extends AtStage first stage live where
  only :
    queries.filter
      (fun query =>
        query.id ∈ [first.id, first.id + 1, first.id + 2]) = [live]

theorem AtStage.sameStage
    {first live later : Query}
    {stage : Nat}
    (atStage : AtStage first stage live)
    (same : SameStage live later) :
    AtStage first stage later where
  bound := atStage.bound
  typeAndId := by rw [same.type, same.id, atStage.typeAndId]
  range := same.range.trans atStage.range
  rcs := same.rcs.trans atStage.rcs

/-- A step leads from one stage to the next. -/
theorem AtStage.nextStage
    {first live later : Query}
    {stage : Nat}
    (atStage : AtStage first stage live)
    (next : NextStage live later) :
    AtStage first (stage + 1) later := by
  obtain ⟨bound, typeAndId, range, rcs⟩ := atStage
  have target :
      stage + 1 ≤ 2 ∧
        (later.type, later.id) = stageOf first (stage + 1) := by
    have moved := next.type
    match stage, typeAndId with
    | 0, typeAndId =>
        simp only [stageOf, Prod.mk.injEq] at typeAndId ⊢
        simp only [typeAndId.1, true_and, reduceCtorEq, false_and,
          or_false] at moved
        exact ⟨by omega, moved, by rw [next.id, typeAndId.2]⟩
    | 1, typeAndId =>
        simp only [stageOf, Prod.mk.injEq] at typeAndId ⊢
        simp only [typeAndId.1, true_and, reduceCtorEq, false_and,
          false_or] at moved
        refine ⟨by omega, moved, ?_⟩
        rw [next.id, typeAndId.2, UInt32.add_assoc]
        rfl
    | stage + 2, typeAndId =>
        simp only [stageOf, Prod.mk.injEq] at typeAndId
        simp [typeAndId.1] at moved
  exact ⟨target.1, target.2, next.range.trans range, next.rcs.trans rcs⟩

/-- Every descendant of a confirm query is at one of its stages. -/
theorem Descends.exists_atStage
    {first live : Query}
    (isConfirm : first.type = .confirm)
    (descends : Descends first live) :
    ∃ stage, AtStage first stage live := by
  induction descends with
  | same same =>
      refine ⟨0, by omega, ?_, same.range, same.rcs⟩
      rw [same.type, same.id, isConfirm]
      rfl
  | next _ next inductionHypothesis =>
      obtain ⟨stage, atStage⟩ := inductionHypothesis
      exact ⟨stage + 1, atStage.nextStage next⟩

/-- Only a tracking query has no further step to make. -/
theorem AtStage.movable_iff
    {first live : Query}
    {stage : Nat}
    (atStage : AtStage first stage live) :
    live.type = .confirm ∨ live.type = .capture ↔
      live.type ≠ .tracking := by
  obtain ⟨_, typeAndId, _, _⟩ := atStage
  match stage, typeAndId with
  | 0, typeAndId =>
      simp only [stageOf, Prod.mk.injEq] at typeAndId
      simp [typeAndId.1]
  | 1, typeAndId =>
      simp only [stageOf, Prod.mk.injEq] at typeAndId
      simp [typeAndId.1]
  | stage + 2, typeAndId =>
      simp only [stageOf, Prod.mk.injEq] at typeAndId
      simp [typeAndId.1]

/-- The stage after a tick. -/
def NextLive
    (scheduler : Scheduler)
    (time : UInt64)
    (first : Query)
    (stage : Nat)
    (live : Query) :
    Prop :=
  (PlacedFor platform scheduler time live.id ∧ live.type ≠ .tracking →
    ∃ later,
      LiveAt (run platform scheduler time).1.queries first (stage + 1)
        later) ∧
  (¬ (PlacedFor platform scheduler time live.id ∧ live.type ≠ .tracking) →
    ∃ later,
      LiveAt (run platform scheduler time).1.queries first stage later)

/-- A descendant of a confirm query is the live query at its stage. -/
theorem Chains.liveAt
    {firsts queries : List Query}
    {pairs : List (Query × Query)}
    (chains : Chains firsts queries pairs)
    (owned : (firsts.flatMap ownedIds).Nodup)
    {pair : Query × Query}
    (member : pair ∈ pairs)
    (isConfirm : pair.1.type = .confirm)
    {stage : Nat}
    (atStage : AtStage pair.1 stage pair.2) :
    LiveAt queries pair.1 stage pair.2 := by
  have only := chains.filter_ownedIds owned member
  simp only [ownedIds, isConfirm] at only
  exact ⟨atStage, only⟩

/-- A tick moves the live query of a confirm query by at most one stage. -/
theorem Chains.nextLive
    {firsts : List Query}
    {scheduler : Scheduler}
    {pairs : List (Query × Query)}
    (chains : Chains firsts scheduler.queries pairs)
    (owned : (firsts.flatMap ownedIds).Nodup)
    (noDrop : ∀ query ∈ firsts, query.type ≠ .drop)
    {pair : Query × Query}
    (member : pair ∈ pairs)
    (isConfirm : pair.1.type = .confirm)
    {stage : Nat}
    (atStage : AtStage pair.1 stage pair.2)
    (time : UInt64) :
    NextLive platform scheduler time pair.1 stage pair.2 := by
  obtain ⟨laterPairs, laterChains, steps⟩ :=
    chains.tick platform owned noDrop time
  obtain ⟨⟨first, later⟩, laterMember, sameFirst, step⟩ := steps pair member
  obtain rfl : first = pair.1 := sameFirst
  rw [TickStep, atStage.movable_iff] at step
  constructor
  · intro moves
    rcases step with ⟨_, next⟩ | ⟨stays, _⟩
    · exact
        ⟨later,
          laterChains.liveAt owned laterMember isConfirm
            (atStage.nextStage next)⟩
    · exact (stays moves).elim
  · intro stays
    rcases step with ⟨moves, _⟩ | ⟨_, same⟩
    · exact (stays moves).elim
    · exact
        ⟨later,
          laterChains.liveAt owned laterMember isConfirm
            (atStage.sameStage same)⟩

/-- A confirm query for the target at 1 000 000 m. -/
def confirmNear : Query where
  type := .confirm
  id := 1001
  k := 100
  pThreshold := 0
  tPrev := 0
  range := 1000000
  rcs := 50
  active := true

/-- Another one, for a target at 1 500 000 m. -/
def confirmFar : Query :=
  { confirmNear with id := 2001, range := 1500000 }

end Radar.Scheduler
