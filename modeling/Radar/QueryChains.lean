import Radar.SchedulerVisits

namespace Radar.Scheduler

/-!
# Chains of queries

A confirm query is followed by a capture query and that one by a tracking
query, each with the next id.  When every query owns the ids that its chain
may use, the queue holds exactly one query of each chain at every moment.
-/

open Settings

variable (platform : Platform)

/-- The ids that a query and the queries after it in its chain may use. -/
def ownedIds (query : Query) : List UInt32 :=
  match query.type with
  | .confirm => [query.id, query.id + 1, query.id + 2]
  | .capture => [query.id, query.id + 1]
  | _ => [query.id]

/-- The same target, without a step along the chain. -/
structure SameStage (earlier later : Query) : Prop where
  type : later.type = earlier.type
  id : later.id = earlier.id
  range : later.range = earlier.range
  rcs : later.rcs = earlier.rcs

/-- The same target, one step along the chain. -/
structure NextStage (earlier later : Query) : Prop where
  type :
    earlier.type = .confirm ∧ later.type = .capture ∨
      earlier.type = .capture ∧ later.type = .tracking
  id : later.id = earlier.id + 1
  range : later.range = earlier.range
  rcs : later.rcs = earlier.rcs

/-- Zero or more steps along the chain. -/
inductive Descends (first : Query) : Query → Prop where
  | same {later : Query} : SameStage first later → Descends first later
  | next
      {earlier later : Query} :
      Descends first earlier →
      NextStage earlier later →
      Descends first later

/-! ## One visit -/

theorem sameStage_updatePriority
    (time : UInt64)
    (query : Query) :
    SameStage query (query.updatePriority platform.rounding time) :=
  ⟨rfl, rfl, rfl, rfl⟩

theorem Visit.sameStage_after (time : UInt64) (visit : Visit) :
    SameStage visit.query (visit.after time) := by
  unfold Visit.after
  split <;> exact ⟨rfl, rfl, rfl, rfl⟩

theorem Visit.nextStage_follower
    {time : UInt64}
    {visit : Visit}
    {later : Query}
    (follows : visit.follower time = some later) :
    NextStage visit.query later := by
  unfold Visit.follower at follows
  split at follows
  · split at follows
    · next isConfirm =>
        cases follows
        exact ⟨.inl ⟨isConfirm, rfl⟩, rfl, rfl, rfl⟩
    · next isCapture =>
        cases follows
        exact ⟨.inr ⟨isCapture, rfl⟩, rfl, rfl, rfl⟩
    · cases follows
  · cases follows

/-- A visit makes a step exactly when it places a confirm or capture scan. -/
theorem Visit.isSome_follower_iff (time : UInt64) (visit : Visit) :
    (visit.follower time).isSome ↔
      visit.placed ∧
        (visit.query.type = .confirm ∨ visit.query.type = .capture) := by
  unfold Visit.follower
  split
  · next placed =>
      cases type : visit.query.type <;> simp [placed]
  · next unplaced =>
      simp [unplaced]

/-- What becomes of a visited query. -/
theorem Visit.outcome_cases (time : UInt64) (visit : Visit) :
    (visit.placed ∧
        (visit.query.type = .confirm ∨ visit.query.type = .capture)) ∧
      NextStage visit.query (visit.outcome time) ∨
    ¬ (visit.placed ∧
        (visit.query.type = .confirm ∨ visit.query.type = .capture)) ∧
      SameStage visit.query (visit.outcome time) := by
  rw [← visit.isSome_follower_iff time, Visit.outcome]
  cases follows : visit.follower time with
  | none =>
      exact .inr ⟨by simp, visit.sameStage_after time⟩
  | some later =>
      exact .inl ⟨rfl, Visit.nextStage_follower follows⟩

/-! ## One tick -/

/-- The followers are the outcomes of the visits that make a step. -/
private theorem filterMap_follower
    (time : UInt64)
    (visited : List Visit) :
    visited.filterMap (Visit.follower time) =
      (visited.filter
        (fun visit => (visit.follower time).isSome)).map
          (Visit.outcome time) := by
  induction visited with
  | nil =>
      rfl
  | cons visit rest inductionHypothesis =>
      cases follows : visit.follower time with
      | none =>
          simp [follows, inductionHypothesis]
      | some later =>
          simp [follows, inductionHypothesis, Visit.outcome]

/-- With distinct ids only the queries that make a step are removed. -/
private theorem filter_removed
    (time : UInt64)
    {visited : List Visit}
    (distinct : (visited.map (fun visit => visit.query.id)).Nodup)
    (noDrop : ∀ visit ∈ visited, visit.query.type ≠ .drop) :
    (visited.map (Visit.after time)).filter
        (fun query =>
          query.id ∉ (visited.filter (Visit.removes time)).map
            (fun visit => visit.query.id)) =
      (visited.filter
        (fun visit => !(visit.follower time).isSome)).map
          (Visit.outcome time) := by
  have removes_eq :
      ∀ visit ∈ visited,
        visit.removes time = (visit.follower time).isSome := by
    intro visit member
    simp [Visit.removes, noDrop visit member]
  have removed_iff :
      ∀ visit ∈ visited,
        (visit.after time).id ∈
            (visited.filter (Visit.removes time)).map
              (fun visit => visit.query.id) ↔
          (visit.follower time).isSome := by
    intro visit member
    rw [(visit.sameStage_after time).id, ← removes_eq visit member]
    constructor
    · intro inRemoved
      obtain ⟨other, otherMember, sameId⟩ := List.mem_map.mp inRemoved
      obtain ⟨inVisited, removes⟩ := List.mem_filter.mp otherMember
      rw [← List.inj_on_of_nodup_map distinct inVisited member sameId]
      exact removes
    · intro removes
      exact List.mem_map_of_mem (List.mem_filter.mpr ⟨member, removes⟩)
  rw [List.filter_map]
  have sameFilter :
      visited.filter
          ((fun query : Query =>
            decide (query.id ∉ (visited.filter (Visit.removes time)).map
              (fun visit => visit.query.id))) ∘ Visit.after time) =
        visited.filter (fun visit => !(visit.follower time).isSome) := by
    apply List.filter_congr
    intro visit member
    simp only [Function.comp_apply, removed_iff visit member]
    cases visit.follower time <;> rfl
  rw [sameFilter]
  apply List.map_congr_left
  intro visit member
  have noFollower : visit.follower time = none := by
    simpa using (List.mem_filter.mp member).2
  rw [Visit.outcome, noFollower]
  rfl

/-- The visited queries are the queries of the scheduler in some order. -/
theorem visits_perm (scheduler : Scheduler) (time : UInt64) :
    ((visits platform scheduler time).map Visit.query).Perm
      (scheduler.queries.map
        (Query.updatePriority platform.rounding time)) := by
  rw [map_query_visits]
  exact prioritize_perm ..

theorem nodup_visits
    {scheduler : Scheduler}
    (time : UInt64)
    (distinct : (scheduler.queries.map Query.id).Nodup) :
    ((visits platform scheduler time).map
      (fun visit => visit.query.id)).Nodup := by
  have ids := (visits_perm platform scheduler time).map Query.id
  rw [List.map_map, List.map_map] at ids
  exact ids.nodup_iff.mpr distinct

/--
When ids are distinct and nothing is dropped, removing the replaced queries
and appending those that follow replaces each query by its outcome.
-/
theorem run_queries_perm
    {scheduler : Scheduler}
    (time : UInt64)
    (distinct : (scheduler.queries.map Query.id).Nodup)
    (noDrop : ∀ query ∈ scheduler.queries, query.type ≠ .drop) :
    (run platform scheduler time).1.queries.Perm
      ((visits platform scheduler time).map (Visit.outcome time)) := by
  have order := visits_perm platform scheduler time
  have visitIds := nodup_visits platform time distinct
  have keepsType :
      ∀ visit ∈ visits platform scheduler time,
        visit.query.type ≠ .drop := by
    intro visit member
    obtain ⟨query, queryMember, same⟩ :=
      List.mem_map.mp (order.mem_iff.mp (List.mem_map_of_mem member))
    rw [← same]
    exact noDrop query queryMember
  rw [run_queries, filter_removed time visitIds keepsType,
    filterMap_follower, ← List.map_append]
  apply List.Perm.map
  exact List.perm_append_comm.trans
    (List.filter_append_perm
      (fun visit : Visit => (visit.follower time).isSome) _)

/-- Did a tick place the scan of the query with an id? -/
def PlacedFor
    (scheduler : Scheduler)
    (time : UInt64)
    (queryId : UInt32) :
    Prop :=
  ∃ call ∈ calls platform scheduler time,
    call.queryId = queryId ∧ call.placed

/--
What a tick does to a query.  It makes a step along its chain if its scan has
been placed and there is a step to make, and keeps its stage otherwise.
-/
def TickStep
    (scheduler : Scheduler)
    (time : UInt64)
    (earlier later : Query) :
    Prop :=
  (PlacedFor platform scheduler time earlier.id ∧
      (earlier.type = .confirm ∨ earlier.type = .capture)) ∧
    NextStage earlier later ∨
  ¬ (PlacedFor platform scheduler time earlier.id ∧
      (earlier.type = .confirm ∨ earlier.type = .capture)) ∧
    SameStage earlier later

theorem SameStage.trans
    {first second third : Query}
    (earlier : SameStage first second)
    (later : SameStage second third) :
    SameStage first third where
  type := later.type.trans earlier.type
  id := later.id.trans earlier.id
  range := later.range.trans earlier.range
  rcs := later.rcs.trans earlier.rcs

theorem SameStage.trans_next
    {first second third : Query}
    (earlier : SameStage first second)
    (later : NextStage second third) :
    NextStage first third where
  type := by
    rw [← earlier.type]
    exact later.type
  id := by rw [← earlier.id, later.id]
  range := later.range.trans earlier.range
  rcs := later.rcs.trans earlier.rcs

theorem NextStage.trans_sameStage
    {first second third : Query}
    (earlier : NextStage first second)
    (later : SameStage second third) :
    NextStage first third where
  type := by
    rw [later.type]
    exact earlier.type
  id := by rw [later.id, earlier.id]
  range := later.range.trans earlier.range
  rcs := later.rcs.trans earlier.rcs

/-- The step of a query does not depend on its priority. -/
theorem TickStep.of_sameStage
    {scheduler : Scheduler}
    {time : UInt64}
    {first second later : Query}
    (same : SameStage first second)
    (step : TickStep platform scheduler time second later) :
    TickStep platform scheduler time first later := by
  rw [TickStep, same.type, same.id] at step
  rcases step with ⟨moves, next⟩ | ⟨stays, kept⟩
  · exact .inl ⟨moves, same.trans_next next⟩
  · exact .inr ⟨stays, same.trans kept⟩

/-- The call of a visit is made for the id of the visited query. -/
theorem queryId_of_mem_visits
    {scheduler : Scheduler}
    {time : UInt64}
    {visit : Visit}
    (member : visit ∈ visits platform scheduler time)
    {call : ScanCall}
    (makes : visit.call = some call) :
    call.queryId = visit.query.id := by
  have general :
      ∀ queries lines, visit ∈ visitsFrom platform queries lines →
        call.queryId = visit.query.id := by
    intro queries
    induction queries with
    | nil =>
        intro lines inVisits
        cases inVisits
    | cons query rest inductionHypothesis =>
        intro lines inVisits
        rcases List.mem_cons.mp inVisits with rfl | later
        · simp only [Scheduler.visit] at makes
          split at makes
          · cases makes
            rfl
          · cases makes
        · exact inductionHypothesis _ later
  exact general _ _ member

/-- With distinct ids, a scan is placed for an id if its own visit places it. -/
theorem placedFor_iff
    {scheduler : Scheduler}
    {time : UInt64}
    (distinct :
      ((visits platform scheduler time).map
        (fun visit => visit.query.id)).Nodup)
    {visit : Visit}
    (member : visit ∈ visits platform scheduler time) :
    PlacedFor platform scheduler time visit.query.id ↔ visit.placed := by
  constructor
  · rintro ⟨call, callMember, sameId, placed⟩
    obtain ⟨other, otherMember, makes⟩ := List.mem_filterMap.mp callMember
    have otherId := queryId_of_mem_visits platform otherMember makes
    have same : other = visit :=
      List.inj_on_of_nodup_map distinct otherMember member
        (otherId.symm.trans sameId)
    rw [← same, Visit.placed, makes]
    exact placed
  · intro placed
    cases makes : visit.call with
    | none =>
        simp [Visit.placed, makes] at placed
    | some call =>
        rw [Visit.placed, makes] at placed
        exact ⟨call, List.mem_filterMap.mpr ⟨visit, member, makes⟩,
          queryId_of_mem_visits platform member makes, placed⟩

/-- A tick turns every query of the queue into one query after it. -/
theorem exists_tickStep
    {scheduler : Scheduler}
    (time : UInt64)
    (distinct : (scheduler.queries.map Query.id).Nodup)
    (noDrop : ∀ query ∈ scheduler.queries, query.type ≠ .drop) :
    ∃ later,
      List.Forall₂ (TickStep platform scheduler time)
        scheduler.queries later ∧
      later.Perm (run platform scheduler time).1.queries := by
  have order := visits_perm platform scheduler time
  have visitIds :=
    nodup_visits platform time distinct
  have outcomes :
      List.Forall₂ (TickStep platform scheduler time)
        ((visits platform scheduler time).map Visit.query)
        ((visits platform scheduler time).map (Visit.outcome time)) := by
    rw [List.forall₂_map_left_iff, List.forall₂_map_right_iff,
      List.forall₂_same]
    intro visit member
    rw [TickStep, placedFor_iff platform visitIds member]
    exact visit.outcome_cases time
  obtain ⟨later, steps, laterPerm⟩ :=
    List.perm_comp_forall₂ order.symm outcomes
  rw [List.forall₂_map_left_iff] at steps
  refine ⟨later, steps.imp ?_, ?_⟩
  · intro query _ step
    exact step.of_sameStage platform (sameStage_updatePriority ..)
  exact laterPerm.trans
    (run_queries_perm platform time distinct noDrop).symm

end Radar.Scheduler
