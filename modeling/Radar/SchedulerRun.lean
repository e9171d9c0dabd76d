import Radar.SchedulerPlacement
import Radar.StandardLibrary

namespace Radar

/-!
# One tick of the scheduler

`Scheduler::run` moves the timelines, sorts the queries by their dynamic
priority and serves those that have reached their threshold.  A served confirm
query is replaced by a capture query, a served capture query by a tracking
query.
-/

open Settings

/-- A query of the scheduler. -/
structure Query where
  type : QueryType
  id : UInt32
  k : Rat
  pThreshold : Rat
  tPrev : UInt64
  pValue : Rat := 0
  range : Rat
  rcs : Rat
  active : Bool := false
  deriving Repr, DecidableEq

namespace Query

/--
The dynamic priority `k * (time - t_prev) * 1.0e-9`.  The difference is
unsigned; each operation of the source rounds its result to `double`.
-/
def priority (rounding : DoubleRounding) (time : UInt64) (query : Query) :
    Rat :=
  rounding.round
    (rounding.round
      (query.k * rounding.round (time - query.tPrev).toNat) *
        rounding.round (1 / 1000000000))

/-- Set the dynamic priority to its value at a time. -/
def updatePriority
    (rounding : DoubleRounding)
    (time : UInt64)
    (query : Query) :
    Query :=
  { query with pValue := query.priority rounding time }

/-- Has a query reached its threshold? -/
def ready (query : Query) : Bool :=
  query.active = true ∧ query.pThreshold ≤ query.pValue

/-- The capture query that follows a confirm query. -/
def toCapture (time : UInt64) (query : Query) : Query where
  type := .capture
  id := query.id + 1
  k := captureQuerySpeed
  pThreshold := captureQueryThreshold
  tPrev := time
  range := query.range
  rcs := query.rcs
  active := true

/-- The tracking query that follows a capture query. -/
def toTracking (time : UInt64) (query : Query) : Query where
  type := .tracking
  id := query.id + 1
  k := trackingQuerySpeed
  pThreshold := trackingQueryThreashold
  tPrev := time
  range := query.range
  rcs := query.rcs
  active := true

/-- Does the first query have the larger priority? -/
def GoesFirst (first second : Query) : Prop :=
  second.pValue < first.pValue

end Query

/-- The scheduler: its timelines and its queries. -/
structure Scheduler where
  lines : Timelines
  queries : List Query

/-- A call of `place_scan`: the timelines it finds and its arguments. -/
structure ScanCall where
  lines : Timelines
  pair : ScanPair
  queryId : UInt32

namespace ScanCall

/-- Timelines and commands that the call answers with. -/
def result (call : ScanCall) : Timelines × List ControlCommand :=
  Scheduler.placeScan call.lines call.pair call.queryId

/-- Did the call place its scan? -/
def placed (call : ScanCall) : Bool :=
  call.result.2.any fun command => command.type ≠ .nop

end ScanCall

namespace Scheduler

/-- A scheduler without queries. -/
def new : Scheduler where
  lines := .new
  queries := []

/-- What a tick has collected while serving queries. -/
structure Service where
  lines : Timelines
  ret : List ControlCommand := []
  removedId : List UInt32 := []
  newQueries : List Query := []

/-- The environment of the scheduler: its formulas and its library. -/
structure Platform where
  rounding : DoubleRounding
  equation : RadarEquation
  sort : StdSort Query.GoesFirst

/--
A platform for two targets: one of 50 m² at 1 000 000 m and one of 60 m² at
1 077 946 m.  The numbers are what the formulas give for them.
-/
def Platform.twoTargets : Platform where
  rounding := .exactly
  equation :=
    { tauNsec := fun range _ => if range = 1000000 then 11698 else 13162
      rdtNanosec := fun range =>
        if range = 1000000 then 6671282 else 7191282 }
  sort := .byKey Query.pValue

/-- A platform for one target: 50 m² at 1 000 m, too close for any scan. -/
def Platform.tooClose : Platform where
  rounding := .exactly
  equation := { tauNsec := fun _ _ => 0, rdtNanosec := fun _ => 6672 }
  sort := .byKey Query.pValue

variable (platform : Platform)

/-- The call of `place_scan` for a query. -/
def scanCall (lines : Timelines) (query : Query) : ScanCall where
  lines := lines
  pair :=
    buildScanPair platform.equation query.range query.rcs query.type
  queryId := query.id

/--
Serve a query by placing its scan.  If the scan has been placed and there is a
query to follow, that query takes its place.
-/
def serveScan
    (time : UInt64)
    (query : Query)
    (follower : Option Query)
    (service : Service) :
    Query × Service :=
  let call := scanCall platform service.lines query
  let answered :=
    { service with
      lines := call.result.1
      ret := service.ret ++ call.result.2 }
  if call.placed then
    ({ query with tPrev := time },
      { answered with
        removedId :=
          service.removedId ++ (follower.map fun _ => query.id).toList
        newQueries := service.newQueries ++ follower.toList })
  else
    (query, answered)

/-- The command of a technical control query. -/
def techCommand (time : UInt64) (query : Query) : ControlCommand where
  type := .techCommand
  referanceTime := time - reserveTime.toUInt64
  executionTime := time
  executionLength := 0
  queryId := query.id

/-- Serve one query if it is ready. -/
def serve
    (time : UInt64)
    (query : Query)
    (service : Service) :
    Query × Service :=
  if query.ready then
    match query.type with
    | .search => serveScan platform time query none service
    | .confirm =>
        serveScan platform time query (some (query.toCapture time)) service
    | .capture =>
        serveScan platform time query (some (query.toTracking time)) service
    | .tracking => serveScan platform time query none service
    | .drop =>
        (query, { service with removedId := service.removedId ++ [query.id] })
    | .techControl =>
        ({ query with tPrev := time },
          { service with ret := service.ret ++ [techCommand time query] })
    | .signalChange => (query, service)
  else
    (query, service)

/-- Serve queries one after the other. -/
def serveAll
    (time : UInt64) :
    List Query → Service → List Query × Service
  | [], service => ([], service)
  | query :: rest, service =>
      let first := serve platform time query service
      let later := serveAll time rest first.2
      (first.1 :: later.1, later.2)

/-- The queries in the order in which a tick looks at them. -/
def prioritize (time : UInt64) (queries : List Query) : List Query :=
  let updated :=
    queries.map (Query.updatePriority platform.rounding time)
  if queries.length = 1 then
    updated
  else
    platform.sort.sort updated

/-- Remove all queries with an id. -/
def removeQuery (queries : List Query) (queryId : UInt32) : List Query :=
  queries.filter fun query => query.id ≠ queryId

/-- One tick: the new state and the commands that it issues. -/
def run
    (scheduler : Scheduler)
    (time : UInt64) :
    Scheduler × List ControlCommand :=
  let served :=
    serveAll platform time (prioritize platform time scheduler.queries)
      { lines := scheduler.lines.moveTimeline time }
  ({ lines := served.2.lines
     queries :=
      served.2.removedId.foldl removeQuery served.1 ++ served.2.newQueries },
    served.2.ret)

/-! ## The calls of `place_scan` that a tick makes -/

/-- Does a query of this type have its scan placed? -/
def scans : QueryType → Bool
  | .search | .confirm | .capture | .tracking => true
  | .drop | .techControl | .signalChange => false

/-- A query that a tick looks at, with the call that it makes for it. -/
structure Visit where
  query : Query
  call : Option ScanCall

/-- The visit of a query that finds the timelines in some state. -/
def visit (lines : Timelines) (query : Query) : Visit where
  query := query
  call :=
    if query.ready && scans query.type then
      some (scanCall platform lines query)
    else
      none

/-- The timelines after a visit that found them in some state. -/
def Visit.linesAfter (visit : Visit) (lines : Timelines) : Timelines :=
  match visit.call with
  | some call => call.result.1
  | none => lines

/-- The visits of queries one after the other. -/
def visitsFrom : List Query → Timelines → List Visit
  | [], _ => []
  | query :: rest, lines =>
      let first := visit platform lines query
      first :: visitsFrom rest (first.linesAfter lines)

/-- The visits of a tick, in order. -/
def visits (scheduler : Scheduler) (time : UInt64) : List Visit :=
  visitsFrom platform (prioritize platform time scheduler.queries)
    (scheduler.lines.moveTimeline time)

/-- The calls that a tick makes, in order. -/
def calls (scheduler : Scheduler) (time : UInt64) : List ScanCall :=
  (visits platform scheduler time).filterMap Visit.call

end Scheduler

end Radar
