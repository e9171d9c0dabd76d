import Radar.QueryChains

namespace Radar.Scheduler

/-!
# What a drop query removes

A tick collects the ids to remove while it serves the queries.  It removes
them when all queries have been served, and only then appends the queries that
follow.  A follower may have an id that has just been removed.
-/

open Settings

variable (platform : Platform)

/-- Does the visit replace its query by one with another id? -/
def Visit.Promotes (visit : Visit) : Prop :=
  visit.placed = true ∧
    (visit.query.type = .confirm ∨ visit.query.type = .capture)

/-- No confirm or capture query is served whose follower gets the id. -/
def NoPromotionTo
    (scheduler : Scheduler)
    (time : UInt64)
    (queryId : UInt32) : Prop :=
  ∀ visit ∈ visits platform scheduler time,
    visit.Promotes → visit.query.id + 1 ≠ queryId

/-- No query of the queue has the id. -/
def Absent (queries : List Query) (queryId : UInt32) : Prop :=
  ∀ query ∈ queries, query.id ≠ queryId

theorem absent_append_iff
    (front back : List Query)
    (queryId : UInt32) :
    Absent (front ++ back) queryId ↔
      Absent front queryId ∧ Absent back queryId :=
  List.forall_mem_append

/-- The followers have an id if and only if a promotion leads to it. -/
theorem absent_followers_iff
    (scheduler : Scheduler)
    (time : UInt64)
    (queryId : UInt32) :
    Absent
        ((visits platform scheduler time).filterMap (Visit.follower time))
        queryId ↔
      NoPromotionTo platform scheduler time queryId := by
  constructor
  · intro absent visit member promotes
    obtain ⟨later, follows⟩ :=
      Option.isSome_iff_exists.mp
        ((visit.isSome_follower_iff time).mpr promotes)
    have distinct :=
      absent later (List.mem_filterMap.mpr ⟨visit, member, follows⟩)
    rwa [(Visit.nextStage_follower follows).id] at distinct
  · intro noPromotion later member
    obtain ⟨visit, isVisit, follows⟩ := List.mem_filterMap.mp member
    have promotes :=
      (visit.isSome_follower_iff time).mp
        (Option.isSome_iff_exists.mpr ⟨later, follows⟩)
    rw [(Visit.nextStage_follower follows).id]
    exact noPromotion visit isVisit promotes

/-- A drop query that has reached its threshold at a time. -/
structure ReachedDrop
    (scheduler : Scheduler)
    (time : UInt64)
    (drop : Query) : Prop where
  member : drop ∈ scheduler.queries
  type : drop.type = .drop
  active : drop.active = true
  reached : drop.pThreshold ≤ drop.priority platform.rounding time

/-- The visit of a drop query puts its id on the list of removals. -/
theorem ReachedDrop.exists_visit
    {scheduler : Scheduler}
    {time : UInt64}
    {drop : Query}
    (reached : ReachedDrop platform scheduler time drop) :
    ∃ visit ∈ visits platform scheduler time,
      visit.removes time ∧ visit.query.id = drop.id := by
  have updated :
      drop.updatePriority platform.rounding time ∈
        (visits platform scheduler time).map Visit.query :=
    (visits_perm platform scheduler time).mem_iff.mpr
      (List.mem_map_of_mem reached.member)
  obtain ⟨visit, member, sameQuery⟩ := List.mem_map.mp updated
  have isReady : visit.query.ready := by
    rw [sameQuery, Query.ready, decide_eq_true_iff]
    exact ⟨reached.active, reached.reached⟩
  have isDrop : visit.query.type = .drop := by
    rw [sameQuery]
    exact reached.type
  refine ⟨visit, member, ?_, by rw [sameQuery]; rfl⟩
  simp [Visit.removes, isReady, isDrop]

/-- Nothing that has been in the queue keeps the id of a drop query. -/
theorem ReachedDrop.absent_kept
    {scheduler : Scheduler}
    {time : UInt64}
    {drop : Query}
    (reached : ReachedDrop platform scheduler time drop) :
    Absent
      (((visits platform scheduler time).map (Visit.after time)).filter
        fun query =>
          query.id ∉
            ((visits platform scheduler time).filter
              (Visit.removes time)).map fun visit => visit.query.id)
      drop.id := by
  intro query member sameId
  obtain ⟨visit, isVisit, removes, isDropId⟩ := reached.exists_visit
  have kept := of_decide_eq_true (List.mem_filter.mp member).2
  refine kept (List.mem_map.mpr ⟨visit, ?_, ?_⟩)
  · exact List.mem_filter.mpr ⟨isVisit, removes⟩
  · rw [isDropId, sameId]

/--
A drop takes effect if and only if no query is promoted to its id in the same
tick.
-/
theorem drop_removes_iff
    {scheduler : Scheduler}
    {time : UInt64}
    {drop : Query}
    (reached : ReachedDrop platform scheduler time drop) :
    Absent (run platform scheduler time).1.queries drop.id ↔
      NoPromotionTo platform scheduler time drop.id := by
  rw [run_queries, absent_append_iff, absent_followers_iff]
  exact and_iff_right (reached.absent_kept platform)

/-- The drop query for the id 1003 that the model engine pushes. -/
def dropTracking : Query where
  type := .drop
  id := 1003
  k := trackingQuerySpeed
  pThreshold := trackingQueryThreashold
  tPrev := 1000000000
  range := 0
  rcs := 0
  active := true

/-- The tracking query that it is for. -/
def trackNear : Query where
  type := .tracking
  id := 1003
  k := trackingQuerySpeed
  pThreshold := trackingQueryThreashold
  tPrev := 1000000000
  range := 1000000
  rcs := 50
  active := true

/-- The tracking query is removed together with the drop query. -/
theorem drop_removes_iff_tracked :
    Absent
      (run .twoTargets
        { Scheduler.new with queries := [trackNear, dropTracking] }
        1100000000).1.queries
      1003 := by
  have reached :
      ReachedDrop .twoTargets
        { Scheduler.new with queries := [trackNear, dropTracking] } 1100000000
        dropTracking :=
    ⟨by simp, rfl, rfl, by decide +kernel⟩
  refine (drop_removes_iff .twoTargets reached).mpr ?_
  have noChain :
      (visits .twoTargets
          { Scheduler.new with queries := [trackNear, dropTracking] }
          1100000000).all (fun visit =>
        visit.query.type ≠ .confirm ∧ visit.query.type ≠ .capture) =
      true := by
    decide +kernel
  intro visit member promotes
  have other := of_decide_eq_true (List.all_eq_true.mp noChain visit member)
  exact absurd promotes.2 (not_or.mpr other)

/-- The capture query that leads to the id 1003. -/
def captureNear : Query where
  type := .capture
  id := 1002
  k := captureQuerySpeed
  pThreshold := captureQueryThreshold
  tPrev := 1000000000
  range := 1000000
  rcs := 50
  active := true

/-- An empty timeline whose first chunk starts 1.1 s after the start. -/
def emptyTimeline : Timeline :=
  { Timeline.new with startTime := 1100000000, startIdx := 10000 }

/-- The capture query of a target that is to be dropped is still waiting. -/
def dropWhileCapturing : Scheduler where
  lines := ⟨emptyTimeline, emptyTimeline, emptyTimeline⟩
  queries := [captureNear, dropTracking]

/-- The dropped id is in the queue after the tick. -/
theorem dropWhileCapturing_keeps :
    ReachedDrop .twoTargets dropWhileCapturing 1100000000 dropTracking ∧
      ¬ Absent (run .twoTargets dropWhileCapturing 1100000000).1.queries
        dropTracking.id := by
  constructor
  · exact ⟨by simp [dropWhileCapturing], rfl, rfl, by decide +kernel⟩
  · intro absent
    have found :
        (run .twoTargets dropWhileCapturing 1100000000).1.queries.any
          (fun query => query.id = 1003) = true := by
      decide +kernel
    obtain ⟨query, member, sameId⟩ := List.any_eq_true.mp found
    exact absent query member (of_decide_eq_true sameId)

end Radar.Scheduler
