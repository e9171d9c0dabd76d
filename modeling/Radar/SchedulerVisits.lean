import Mathlib.Data.List.Perm.Basic
import Radar.SchedulerRun

namespace Radar.Scheduler

/-!
# What one tick does to the queries

A tick visits every query once.  Each visit says what becomes of its query,
which commands it issues and which query follows; the state after the tick is
put together from the visits.
-/

open Settings

variable (platform : Platform)

namespace Visit

/-- Has the scan of the visited query been placed? -/
def placed (visit : Visit) : Bool :=
  visit.call.any ScanCall.placed

/-- The query after the visit, before any removal. -/
def after (time : UInt64) (visit : Visit) : Query :=
  if visit.placed || visit.query.ready && visit.query.type = .techControl
  then
    { visit.query with tPrev := time }
  else
    visit.query

/-- The query that follows the visited one. -/
def follower (time : UInt64) (visit : Visit) : Option Query :=
  if visit.placed then
    match visit.query.type with
    | .confirm => some (visit.query.toCapture time)
    | .capture => some (visit.query.toTracking time)
    | _ => none
  else
    none

/-- Is the id of the visited query put on the list of removals? -/
def removes (time : UInt64) (visit : Visit) : Bool :=
  (visit.follower time).isSome ||
    visit.query.ready && visit.query.type = .drop

/-- Commands that the visit adds to the answer of the tick. -/
def issued (time : UInt64) (visit : Visit) : List ControlCommand :=
  match visit.call with
  | some call => call.result.2
  | none =>
      if visit.query.ready && visit.query.type = .techControl then
        [techCommand time visit.query]
      else
        []

/-- What the visited query has turned into. -/
def outcome (time : UInt64) (visit : Visit) : Query :=
  (visit.follower time).getD (visit.after time)

end Visit

/-- The timelines after all visits. -/
def linesAfter (visits : List Visit) (lines : Timelines) : Timelines :=
  visits.foldl (fun current visit => visit.linesAfter current) lines

/-- Serving a query is what its visit says. -/
theorem serve_eq
    (time : UInt64)
    (query : Query)
    (service : Service)
    {visited : Visit}
    (isVisit : visit platform service.lines query = visited) :
    serve platform time query service =
      (visited.after time,
        { lines := visited.linesAfter service.lines
          ret := service.ret ++ visited.issued time
          removedId :=
            service.removedId ++
              if visited.removes time then [query.id] else []
          newQueries :=
            service.newQueries ++ (visited.follower time).toList }) := by
  subst isVisit
  by_cases isReady : query.ready
  · cases type : query.type
    case drop | techControl | signalChange =>
      simp [serve, isReady, type, visit, scans, Visit.after, Visit.issued,
        Visit.removes, Visit.follower, Visit.placed, Visit.linesAfter]
    all_goals
      by_cases placed : (scanCall platform service.lines query).placed
      · simp [serve, serveScan, isReady, type, visit, scans, Visit.after,
          Visit.issued, Visit.removes, Visit.follower, Visit.placed,
          Visit.linesAfter, placed]
      · simp [serve, serveScan, isReady, type, visit, scans, Visit.after,
          Visit.issued, Visit.removes, Visit.follower, Visit.placed,
          Visit.linesAfter, placed]
  · simp [serve, isReady, visit, Visit.after, Visit.issued, Visit.removes,
      Visit.follower, Visit.placed, Visit.linesAfter]

/-- Serving queries in order is what their visits say. -/
theorem serveAll_eq
    (time : UInt64)
    (queries : List Query)
    (service : Service)
    {visited : List Visit}
    (areVisits : visitsFrom platform queries service.lines = visited) :
    serveAll platform time queries service =
      (visited.map (Visit.after time),
        { lines := linesAfter visited service.lines
          ret := service.ret ++ visited.flatMap (Visit.issued time)
          removedId :=
            service.removedId ++
              (visited.filter (Visit.removes time)).map
                (fun visit => visit.query.id)
          newQueries :=
            service.newQueries ++
              visited.filterMap (Visit.follower time) }) := by
  subst areVisits
  induction queries generalizing service with
  | nil =>
      simp [serveAll, visitsFrom, linesAfter]
  | cons query rest inductionHypothesis =>
      rw [serveAll, serve_eq platform time query service rfl,
        inductionHypothesis]
      have sameQuery : (visit platform service.lines query).query = query :=
        rfl
      simp only [visitsFrom, linesAfter, List.map_cons, List.foldl_cons,
        List.flatMap_cons, List.filter_cons, List.filterMap_cons,
        List.append_assoc, Prod.mk.injEq, Service.mk.injEq, true_and]
      constructor
      · split <;> simp [sameQuery]
      · cases (visit platform service.lines query).follower time <;> simp

@[simp] theorem map_query_visitsFrom
    (queries : List Query)
    (lines : Timelines) :
    (visitsFrom platform queries lines).map Visit.query = queries := by
  induction queries generalizing lines with
  | nil =>
      rfl
  | cons query rest inductionHypothesis =>
      simp only [visitsFrom, List.map_cons, inductionHypothesis]
      rfl

@[simp] theorem map_query_visits
    (scheduler : Scheduler)
    (time : UInt64) :
    (visits platform scheduler time).map Visit.query =
      prioritize platform time scheduler.queries :=
  map_query_visitsFrom ..

/-- The queries in priority order are the updated queries in some order. -/
theorem prioritize_perm
    (time : UInt64)
    (queries : List Query) :
    (prioritize platform time queries).Perm
      (queries.map (Query.updatePriority platform.rounding time)) := by
  unfold prioritize
  split
  · exact .refl _
  · exact platform.sort.perm _

private theorem foldl_removeQuery
    (queries : List Query)
    (removedId : List UInt32) :
    removedId.foldl removeQuery queries =
      queries.filter fun query => query.id ∉ removedId := by
  induction removedId generalizing queries with
  | nil =>
      simp
  | cons queryId rest inductionHypothesis =>
      rw [List.foldl_cons, inductionHypothesis, removeQuery,
        List.filter_filter]
      congr 1
      funext query
      simp [Bool.and_comm]

/-- The commands that a tick answers with. -/
theorem run_commands (scheduler : Scheduler) (time : UInt64) :
    (run platform scheduler time).2 =
      (visits platform scheduler time).flatMap (Visit.issued time) := by
  rw [run, serveAll_eq platform time _ _ rfl]
  rfl

/-- The timelines after a tick. -/
theorem run_lines (scheduler : Scheduler) (time : UInt64) :
    (run platform scheduler time).1.lines =
      linesAfter (visits platform scheduler time)
        (scheduler.lines.moveTimeline time) := by
  rw [run, serveAll_eq platform time _ _ rfl]
  rfl

/-- The queries after a tick: those that stay, then those that follow. -/
theorem run_queries (scheduler : Scheduler) (time : UInt64) :
    (run platform scheduler time).1.queries =
      ((visits platform scheduler time).map (Visit.after time)).filter
          (fun query =>
            query.id ∉
              ((visits platform scheduler time).filter
                (Visit.removes time)).map (fun visit => visit.query.id)) ++
        (visits platform scheduler time).filterMap
          (Visit.follower time) := by
  rw [run, serveAll_eq platform time _ _ rfl]
  simp only [List.nil_append, foldl_removeQuery]
  rfl

end Radar.Scheduler
