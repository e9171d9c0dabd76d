import Radar.CommandProcessor
import Radar.SchedulerRun

namespace Radar

/-!
# The simulation loop

At every step the engine executes the events of the step, runs the scheduler,
queues and validates its commands and executes those that fall due before the
next step.
-/

open Settings

/--
A simulation event.  Its callback may change the queries of the scheduler and
may stop the engine.
-/
structure Event where
  triggerTime : UInt64
  exec : List Query → List Query
  stops : Bool := false

/-- Trigger time as a number of nanoseconds. -/
def Event.time (event : Event) : Nat :=
  event.triggerTime.toNat

/-- Queues of events, ordered by trigger time. -/
abbrev EventQueue := PriorityQueue Event.time

/-- The events at the head of the queue that are triggered at a time. -/
def EventQueue.getEvents
    (queues : EventQueue)
    (queue : queues.Carrier)
    (time : UInt64) :
    List Event × queues.Carrier :=
  queues.popWhile (fun event => event.triggerTime = time) queue

/-- The engine: scheduler, command processor, events and the model time. -/
structure ModelEngine
    (commandQueues : CommandQueue)
    (eventQueues : EventQueue) where
  shed : Scheduler
  commandProcessor : CommandProcessor commandQueues
  evQueue : eventQueues.Carrier
  modelTime : UInt64
  running : Bool

/-- What the engine records about one step. -/
structure ModelState where
  time : UInt64
  commandList : List ControlCommand
  validState : Bool
  execedCommands : List ControlCommand

namespace ModelEngine

variable
  {commandQueues : CommandQueue}
  {eventQueues : EventQueue}
  (platform : Scheduler.Platform)

/-- Simulation step, in nanoseconds. -/
def timeStep : UInt64 := 1000000

/-- An engine at time zero that waits for some events. -/
def new
    (evQueue : eventQueues.Carrier) :
    ModelEngine commandQueues eventQueues where
  shed := .new
  commandProcessor := .new
  evQueue := evQueue
  modelTime := 0
  running := true

/-- The scheduler after the events of a step. -/
def triggered (engine : ModelEngine commandQueues eventQueues) : Scheduler :=
  { engine.shed with
    queries :=
      (eventQueues.getEvents engine.evQueue engine.modelTime).1.foldl
        (fun queries event => event.exec queries) engine.shed.queries }

/-- The command processor when a step validates it. -/
def appended
    (engine : ModelEngine commandQueues eventQueues) :
    CommandProcessor commandQueues :=
  engine.commandProcessor.append
    (engine.triggered.run platform engine.modelTime).2

/-- One step of the loop: the new state and what is recorded about it. -/
def step
    (engine : ModelEngine commandQueues eventQueues) :
    ModelEngine commandQueues eventQueues × ModelState :=
  let events := eventQueues.getEvents engine.evQueue engine.modelTime
  let planned := engine.triggered.run platform engine.modelTime
  let appended := engine.commandProcessor.append planned.2
  let executed := appended.run platform.rounding engine.modelTime
  ({ shed := planned.1
     commandProcessor := executed
     evQueue := events.2
     modelTime := engine.modelTime + timeStep
     running := engine.running && !events.1.any Event.stops },
    { time := engine.modelTime
      commandList := planned.2
      validState := appended.validate
      execedCommands := executed.execedCommands })

/--
The states in which the loop starts its steps.  It runs as long as no event
has stopped it; the fuel bounds the number of steps.
-/
def steps :
    Nat →
    ModelEngine commandQueues eventQueues →
    List (ModelEngine commandQueues eventQueues)
  | 0, _ => []
  | fuel + 1, engine =>
      if engine.running then
        engine :: steps fuel (engine.step platform).1
      else
        []

end ModelEngine

end Radar
