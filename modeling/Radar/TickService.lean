import Mathlib.Tactic.Ring
import Radar.ComparisonSort
import Radar.SchedulerVisits

namespace Radar

/-!
# Which queries a tick serves

The comparator of the sort in `Scheduler::run` sets the priorities of the
queries that it compares.  For every queue the tick then looks at the queries
in the order of their priorities at its time, serves those that have reached
their threshold, and stamps the ones that it has served.
-/

/-! ## Priorities -/

namespace Query

/-- The priority of a query at a time, as a rational number. -/
def rate (time : UInt64) (query : Query) : Rat :=
  query.k * ((time.toNat : Rat) - query.tPrev.toNat) / 1000000000

/-- Is a query due at a time? -/
def Due (time : UInt64) (query : Query) : Prop :=
  query.active = true ∧ query.pThreshold ≤ query.rate time

instance (time : UInt64) (query : Query) : Decidable (query.Due time) := by
  unfold Due
  infer_instance

/-- Exact arithmetic computes the priority of a query of the past. -/
theorem priority_exactly
    {time : UInt64}
    {query : Query}
    (earlier : query.tPrev ≤ time) :
    query.priority .exactly time = query.rate time := by
  have difference :
      ((time - query.tPrev).toNat : Rat) =
        (time.toNat : Rat) - query.tPrev.toNat := by
    rw [UInt64.toNat_sub_of_le _ _ earlier]
    exact Nat.cast_sub (UInt64.le_iff_toNat_le.mp earlier)
  simp only [priority, rate, DoubleRounding.exactly, difference]
  ring

theorem ready_updatePriority
    {time : UInt64}
    {query : Query}
    (earlier : query.tPrev ≤ time) :
    (query.updatePriority .exactly time).ready = decide (query.Due time) := by
  rw [ready, decide_eq_decide]
  simp only [updatePriority, Due, priority_exactly earlier]

end Query

namespace Scheduler

/-- The platform whose sort puts questions to the comparator. -/
def Platform.sorting
    (algorithm : ComparisonSort)
    (equation : RadarEquation) : Platform where
  rounding := .exactly
  equation := equation
  sort := algorithm.stdSort Query.pValue

/-! ## The order of a tick -/

/--
The call of `std::sort`: the comparator sets the priority of both queries and
then says whether the first one has the larger priority.
-/
def sortQueries
    (algorithm : ComparisonSort)
    (rounding : DoubleRounding)
    (time : UInt64)
    (queries : List Query) : List Query :=
  algorithm.sortWriting (Query.updatePriority rounding time) Query.pValue
    queries

/-- The special path for one query, and the sort for all other queues. -/
def prioritizeInPlace
    (algorithm : ComparisonSort)
    (rounding : DoubleRounding)
    (time : UInt64)
    (queries : List Query) : List Query :=
  if queries.length = 1 then
    queries.map (Query.updatePriority rounding time)
  else
    sortQueries algorithm rounding time queries

/-- On both paths the queries are sorted by their priorities at the time. -/
theorem prioritizeInPlace_eq
    (algorithm : ComparisonSort)
    (rounding : DoubleRounding)
    (time : UInt64)
    (queries : List Query) :
    prioritizeInPlace algorithm rounding time queries =
      (algorithm.stdSort Query.pValue).sort
        (queries.map (Query.updatePriority rounding time)) := by
  unfold prioritizeInPlace
  split
  · next single =>
      obtain ⟨query, rfl⟩ := List.length_eq_one_iff.mp single
      rw [List.map_singleton]
      exact (List.perm_singleton.mp
        ((algorithm.stdSort Query.pValue).perm _)).symm
  · next several =>
      refine algorithm.sortWriting_eq Query.pValue ?_ several
      exact fun _ => rfl

/-- The order of a tick is the one that the writing comparator leads to. -/
theorem prioritize_sorting
    (algorithm : ComparisonSort)
    (equation : RadarEquation)
    (time : UInt64)
    (queries : List Query) :
    prioritize (.sorting algorithm equation) time queries =
      prioritizeInPlace algorithm .exactly time queries := by
  rw [prioritize]
  split
  · next single =>
      rw [prioritizeInPlace, if_pos single]
      rfl
  · rw [prioritizeInPlace_eq]
    rfl

/-! ## What the loop does -/

/-- The queries whose service a tick attempts, in order. -/
def attempts (platform : Platform) (scheduler : Scheduler) (time : UInt64) :
    List Query :=
  ((visits platform scheduler time).map Visit.query).filter Query.ready

/-- The queries at the end of the loop, in the order of the loop. -/
def servedQueries
    (platform : Platform)
    (scheduler : Scheduler)
    (time : UInt64) : List Query :=
  (serveAll platform time (prioritize platform time scheduler.queries)
    { lines := scheduler.lines.moveTimeline time }).1

/-- What serving one query puts on `processed_queries`. -/
def processedBy
    (platform : Platform)
    (time : UInt64)
    (query : Query)
    (service : Service) : List Query :=
  if query.ready then
    match query.type with
    | .search | .confirm | .capture | .tracking =>
        if (scanCall platform service.lines query).placed then
          [(serve platform time query service).1]
        else
          []
    | .drop | .techControl | .signalChange => []
  else
    []

/-- What serving queries one after the other puts on `processed_queries`. -/
def processedFrom (platform : Platform) (time : UInt64) :
    List Query → Service → List Query
  | [], _ => []
  | query :: rest, service =>
      processedBy platform time query service ++
        processedFrom platform time rest
          (serve platform time query service).2

/-- The list `processed_queries` after a tick. -/
def processedQueries
    (platform : Platform)
    (scheduler : Scheduler)
    (time : UInt64) : List Query :=
  processedFrom platform time (prioritize platform time scheduler.queries)
    { lines := scheduler.lines.moveTimeline time }

/-- Has the visited query been served? -/
def Visit.Served (visit : Visit) : Prop :=
  visit.placed = true ∨
    visit.query.ready = true ∧ visit.query.type = .techControl

instance (visit : Visit) : Decidable visit.Served := by
  unfold Visit.Served
  infer_instance

/-- A visit stamps its query if it has served it, and changes nothing else. -/
theorem Visit.after_eq (time : UInt64) (visit : Visit) :
    visit.after time =
      { visit.query with
        tPrev := if visit.Served then time else visit.query.tPrev } := by
  by_cases served : visit.Served
  · rw [if_pos served, Visit.after, if_pos]
    simpa [Visit.Served] using served
  · rw [if_neg served, Visit.after, if_neg]
    simpa [Visit.Served] using served

theorem servedQueries_eq
    (platform : Platform)
    (scheduler : Scheduler)
    (time : UInt64) :
    servedQueries platform scheduler time =
      (visits platform scheduler time).map (Visit.after time) := by
  rw [servedQueries, serveAll_eq platform time _ _ rfl]
  rfl

theorem processedBy_eq
    (platform : Platform)
    (time : UInt64)
    (query : Query)
    (service : Service) :
    processedBy platform time query service =
      ([visit platform service.lines query].filter Visit.placed).map
        (Visit.after time) := by
  unfold processedBy
  rw [serve_eq platform time query service rfl]
  by_cases isReady : query.ready
  · cases type : query.type
    case drop | techControl | signalChange =>
      simp [isReady, type, visit, scans, Visit.placed]
    all_goals
      by_cases placed : (scanCall platform service.lines query).placed
      · simp [isReady, type, visit, scans, Visit.placed, placed]
      · simp [isReady, type, visit, scans, Visit.placed, placed]
  · simp [isReady, visit, Visit.placed]

theorem processedFrom_eq
    (platform : Platform)
    (time : UInt64)
    (queries : List Query)
    (service : Service) :
    processedFrom platform time queries service =
      ((visitsFrom platform queries service.lines).filter Visit.placed).map
        (Visit.after time) := by
  induction queries generalizing service with
  | nil =>
      rfl
  | cons query rest inductionHypothesis =>
      rw [processedFrom, processedBy_eq, inductionHypothesis,
        serve_eq platform time query service rfl, visitsFrom,
        ← List.map_append, ← List.filter_append]
      rfl

/-! ## One tick -/

/-- A tick serves the due queries in the order of their priorities. -/
structure ServesByPriority
    (algorithm : ComparisonSort)
    (equation : RadarEquation)
    (scheduler : Scheduler)
    (time : UInt64) : Prop where
  /-- The loop follows the order that the comparator has led to. -/
  looked :
    (visits (.sorting algorithm equation) scheduler time).map Visit.query =
      prioritizeInPlace algorithm .exactly time scheduler.queries
  /-- Whatever their number, the queries are sorted by their priorities. -/
  sorted :
    prioritizeInPlace algorithm .exactly time scheduler.queries =
      (algorithm.stdSort Query.pValue).sort
        (scheduler.queries.map (Query.updatePriority .exactly time))
  /-- The attempted queries are the due ones, each of them once. -/
  attempted :
    (attempts (.sorting algorithm equation) scheduler time).Perm
      ((scheduler.queries.filter fun query => query.Due time).map
        (Query.updatePriority .exactly time))
  /-- Larger priorities come first. -/
  descending :
    (attempts (.sorting algorithm equation) scheduler time).Pairwise
      fun first second => second.rate time ≤ first.rate time
  /-- The served queries are stamped, all others stay what they are. -/
  stamped :
    servedQueries (.sorting algorithm equation) scheduler time =
      (visits (.sorting algorithm equation) scheduler time).map fun visit =>
        { visit.query with
          tPrev := if visit.Served then time else visit.query.tPrev }
  /-- The queue keeps them, but for removed ones, and gains the followers. -/
  queue :
    (run (.sorting algorithm equation) scheduler time).1.queries =
      (servedQueries (.sorting algorithm equation) scheduler time).filter
          (fun query =>
            query.id ∉
              ((visits (.sorting algorithm equation) scheduler time).filter
                (Visit.removes time)).map (fun visit => visit.query.id)) ++
        (visits (.sorting algorithm equation) scheduler time).filterMap
          (Visit.follower time)
  /-- The processed queries are those whose scans have been placed. -/
  processed :
    processedQueries (.sorting algorithm equation) scheduler time =
      ((visits (.sorting algorithm equation) scheduler time).filter
        Visit.placed).map (Visit.after time)

/-- The attempted queries are the due ones at their priorities. -/
theorem attempts_perm
    (algorithm : ComparisonSort)
    (equation : RadarEquation)
    {scheduler : Scheduler}
    {time : UInt64}
    (earlier : ∀ query ∈ scheduler.queries, query.tPrev ≤ time) :
    (attempts (.sorting algorithm equation) scheduler time).Perm
      ((scheduler.queries.filter fun query => query.Due time).map
        (Query.updatePriority .exactly time)) := by
  have sorted :=
    (prioritize_perm (.sorting algorithm equation) time
      scheduler.queries).filter Query.ready
  have ready_eq :
      (scheduler.queries.map (Query.updatePriority .exactly time)).filter
          Query.ready =
        (scheduler.queries.filter fun query => query.Due time).map
          (Query.updatePriority .exactly time) := by
    rw [List.filter_map]
    congr 1
    apply List.filter_congr
    intro query member
    exact Query.ready_updatePriority (earlier query member)
  rw [attempts, map_query_visits]
  exact sorted.trans (.of_eq ready_eq)

/-- The attempted queries stand in the order of their priorities. -/
theorem attempts_pairwise
    (algorithm : ComparisonSort)
    (equation : RadarEquation)
    {scheduler : Scheduler}
    {time : UInt64}
    (earlier : ∀ query ∈ scheduler.queries, query.tPrev ≤ time) :
    (attempts (.sorting algorithm equation) scheduler time).Pairwise
      fun first second => second.rate time ≤ first.rate time := by
  rw [attempts, map_query_visits, prioritize_sorting, prioritizeInPlace_eq]
  have pValue_eq :
      ∀ query ∈ (algorithm.stdSort Query.pValue).sort
          (scheduler.queries.map (Query.updatePriority .exactly time)),
        query.pValue = query.rate time := by
    intro query member
    obtain ⟨original, isMember, rfl⟩ :=
      List.mem_map.mp
        (((algorithm.stdSort Query.pValue).perm _).mem_iff.mp member)
    exact Query.priority_exactly (earlier original isMember)
  refine List.Pairwise.filter _ ?_
  refine ((algorithm.stdSort Query.pValue).sorted _).imp_of_mem ?_
  intro first second firstMember secondMember ordered
  rw [← pValue_eq first firstMember, ← pValue_eq second secondMember]
  exact not_lt.mp ordered

/-- Every tick serves the due queries in the order of their priorities. -/
theorem run_servesByPriority
    (algorithm : ComparisonSort)
    (equation : RadarEquation)
    (scheduler : Scheduler)
    (time : UInt64)
    (earlier : ∀ query ∈ scheduler.queries, query.tPrev ≤ time) :
    ServesByPriority algorithm equation scheduler time where
  looked := by
    rw [map_query_visits, prioritize_sorting]
  sorted := prioritizeInPlace_eq ..
  attempted := attempts_perm algorithm equation earlier
  descending := attempts_pairwise algorithm equation earlier
  stamped := by
    rw [servedQueries_eq]
    exact List.map_congr_left fun visit _ => visit.after_eq time
  queue := by
    rw [run_queries, servedQueries_eq]
  processed := processedFrom_eq ..

/-- A search query that has never been looked at. -/
def freshSearch : Query where
  type := .search
  id := 1
  k := 1
  pThreshold := 1
  tPrev := 0
  range := 1000000
  rcs := 50
  active := true

/-- A technical control query of the same priority. -/
def freshControl : Query :=
  { freshSearch with type := .techControl, id := 2 }

theorem run_servesByPriority_pair :
    ServesByPriority .insertion Platform.twoTargets.equation
      { Scheduler.new with queries := [freshSearch, freshControl] }
      2000000000 :=
  run_servesByPriority _ _ _ _ (by simp [freshSearch, freshControl])

/--
The sorting path alone would leave the priority of a single query as it was:
there is nothing to compare it with.  The query would not be served.
-/
theorem sortQueries_freshSearch :
    prioritizeInPlace .insertion .exactly 2000000000 [freshSearch] ≠
        sortQueries .insertion .exactly 2000000000 [freshSearch] ∧
      (prioritizeInPlace .insertion .exactly 2000000000
        [freshSearch]).map Query.ready = [true] ∧
      (sortQueries .insertion .exactly 2000000000
        [freshSearch]).map Query.ready = [false] := by
  have special :
      (prioritizeInPlace .insertion .exactly 2000000000
        [freshSearch]).map Query.ready = [true] := by
    decide +kernel
  have sorting :
      (sortQueries .insertion .exactly 2000000000
        [freshSearch]).map Query.ready = [false] := by
    decide +kernel
  refine ⟨fun same => ?_, special, sorting⟩
  rw [same, sorting] at special
  cases special

end Scheduler

end Radar
