import Mathlib.Logic.Relation
import Radar.MpmcBoundedQueue

namespace Radar

/-!
# The asynchronous logger

The class `async_log_helper`: any number of threads push messages into a bounded
queue, and one worker takes them out and hands them to the sinks.  A step is a
step of the queue or the start of a call; whether a sink throws, and whether the
time for a flush has come, are inputs of the worker.
-/

open MpmcBoundedQueue (BufferSize Event Memory Stage System ThreadStep)

/-- `level_enum` -/
inductive LogLevel where
  | trace
  | debug
  | info
  | notice
  | warn
  | err
  | critical
  | alert
  | emerg
  | off
  deriving DecidableEq, Repr

/-- `log_msg`, before it is formatted. -/
structure LogMsg where
  loggerName : List Char
  level : LogLevel
  time : Nat
  threadId : Nat
  raw : List Char
  deriving DecidableEq, Repr

/-- `async_msg`; only messages of the type `log` have anything else. -/
inductive AsyncMsg where
  | log (msg : LogMsg)
  | flush
  | terminate
  deriving DecidableEq, Repr

/-- `async_overflow_policy` -/
inductive OverflowPolicy where
  | blockRetry
  | discardLogMsg
  deriving DecidableEq, Repr

/-- A message in the queue, and the thread that has pushed it. -/
structure Pushed where
  thread : Nat
  msg : AsyncMsg
  deriving DecidableEq, Repr

/-- A message for the sinks, and the thread that has logged it. -/
structure Entry where
  thread : Nat
  msg : LogMsg
  deriving DecidableEq, Repr

/-- What the worker calls the sinks for. -/
inductive SinkCall where
  | log (entry : Entry)
  | flush
  deriving DecidableEq, Repr

def AsyncMsg.logMsg? : AsyncMsg → Option LogMsg
  | .log msg => some msg
  | .flush | .terminate => none

def Pushed.entry? (pushed : Pushed) : Option Entry :=
  pushed.msg.logMsg?.map fun msg => { thread := pushed.thread, msg := msg }

def SinkCall.entry? : SinkCall → Option Entry
  | .log entry => some entry
  | .flush => none

/-! ## The worker -/

/-- The loop of the worker runs, has ended, or was left by an exception. -/
inductive WorkerStatus where
  | running
  | ended
  | threw
  deriving DecidableEq, Repr

/-- The members of the worker, and its calls of the sinks so far. -/
structure Worker where
  flushRequested : Bool
  terminateRequested : Bool
  status : WorkerStatus
  calls : List SinkCall

/-- Does a sink throw, and has a flush interval been set and gone by? -/
structure SinkAnswers where
  throws : Bool
  timeToFlush : Bool

namespace Worker

def new : Worker where
  flushRequested := false
  terminateRequested := false
  status := .running
  calls := []

/-- The messages that the sinks have got. -/
def logged (worker : Worker) : List Entry :=
  worker.calls.filterMap SinkCall.entry?

/-- `process_next_msg`, for a message. -/
def process
    (answers : SinkAnswers)
    (pushed : Pushed)
    (worker : Worker) :
    Worker :=
  match pushed.msg with
  | .flush => { worker with flushRequested := true }
  | .terminate =>
      { worker with flushRequested := true, terminateRequested := true }
  | .log msg =>
      if answers.throws then
        { worker with status := .threw }
      else
        { worker with
          calls := worker.calls ++ [.log ⟨pushed.thread, msg⟩] }

/-- `process_next_msg`, for an empty queue. -/
def handleEmpty (answers : SinkAnswers) (worker : Worker) : Worker :=
  let status :=
    if worker.terminateRequested then WorkerStatus.ended else .running
  if worker.flushRequested ∨ answers.timeToFlush then
    if answers.throws then
      { worker with status := .threw }
    else
      { worker with
        flushRequested := false
        status := status
        calls := worker.calls ++ [.flush] }
  else
    { worker with status := status }

end Worker

/-! ## The system -/

/--
The members that the threads share.  In addition whether a thread has found an
exception of the worker and not thrown it yet, the message that it is pushing,
and those whose call of `push_msg` has ended.
-/
structure AsyncLogHelper where
  queue : System Pushed
  worker : Worker
  lastWorkerthreadEx : Bool
  throwing : Nat → Bool
  pushing : Nat → Option AsyncMsg
  returned : List Pushed
  discarded : List Pushed

namespace AsyncLogHelper

/-- The thread of the worker. -/
def workerThread : Nat := 0

def new : AsyncLogHelper where
  queue := .new
  worker := .new
  lastWorkerthreadEx := false
  throwing _ := false
  pushing _ := none
  returned := []
  discarded := []

/-- A step of a thread in the queue. -/
def advance
    (helper : AsyncLogHelper)
    (thread : Nat)
    (event : Event Pushed)
    (memory : Memory Pushed)
    (stage : Stage Pushed) :
    AsyncLogHelper :=
  { helper with
    queue := (helper.queue.advance thread memory stage).record event }

/-- What a thread does when its call of `enqueue` ends. -/
def afterEnqueue
    (policy : OverflowPolicy)
    (thread : Nat)
    (event : Event Pushed)
    (helper : AsyncLogHelper) :
    AsyncLogHelper :=
  match event, helper.pushing thread with
  | .accepted, some msg =>
      { helper with
        pushing := Function.update helper.pushing thread none
        returned := helper.returned ++ [⟨thread, msg⟩] }
  | .refused, some msg =>
      match policy with
      -- the loop of `push_msg` enqueues it again
      | .blockRetry => helper
      | .discardLogMsg =>
          { helper with
            pushing := Function.update helper.pushing thread none
            discarded := helper.discarded ++ [⟨thread, msg⟩] }
  | _, _ => helper

/-- The worker after a message; an exception is kept for the clients. -/
def setWorker (worker : Worker) (helper : AsyncLogHelper) : AsyncLogHelper :=
  { helper with
    worker := worker
    lastWorkerthreadEx :=
      helper.lastWorkerthreadEx || decide (worker.status = .threw) }

/-- What the worker does when its call of `dequeue` ends. -/
def afterDequeue
    (answers : SinkAnswers)
    (event : Event Pushed)
    (helper : AsyncLogHelper) :
    AsyncLogHelper :=
  match event with
  | .returned _ (some pushed) =>
      helper.setWorker (helper.worker.process answers pushed)
  | .empty => helper.setWorker (helper.worker.handleEmpty answers)
  | _ => helper

variable (size : BufferSize) (policy : OverflowPolicy)

/--
A step of the worker or of one of the other threads.  Each access to the
pointer to an exception is a step.
-/
inductive Step : AsyncLogHelper → AsyncLogHelper → Prop where
  | pushMsg
      {helper : AsyncLogHelper}
      {thread : Nat}
      (isClient : thread ≠ workerThread)
      (isFree : helper.pushing thread = none)
      (calm : helper.throwing thread = false)
      (noEx : helper.lastWorkerthreadEx = false)
      (msg : AsyncMsg) :
      Step helper
        { helper with
          pushing := Function.update helper.pushing thread (some msg) }
  | throwIfBadWorker
      {helper : AsyncLogHelper}
      {thread : Nat}
      (isClient : thread ≠ workerThread)
      (isFree : helper.pushing thread = none)
      (calm : helper.throwing thread = false)
      (ex : helper.lastWorkerthreadEx = true) :
      Step helper
        { helper with
          throwing := Function.update helper.throwing thread true }
  -- When another thread has moved the pointer away, this one dereferences
  -- null, which is not defined.
  | throwEx
      {helper : AsyncLogHelper}
      {thread : Nat}
      (throws : helper.throwing thread = true)
      (ex : helper.lastWorkerthreadEx = true) :
      Step helper
        { helper with
          throwing := Function.update helper.throwing thread false
          lastWorkerthreadEx := false }
  | enqueue
      {helper : AsyncLogHelper}
      {thread : Nat}
      {msg : AsyncMsg}
      (isClient : thread ≠ workerThread)
      (isPushing : helper.pushing thread = some msg)
      (idle : helper.queue.threads thread = .idle) :
      Step helper
        (helper.advance thread .silent helper.queue.memory
          (.enqueueLoop ⟨thread, msg⟩ helper.queue.memory.enqueuePos))
  | enqueueStep
      {helper : AsyncLogHelper}
      {thread : Nat}
      {event : Event Pushed}
      {memory : Memory Pushed}
      {stage : Stage Pushed}
      (isClient : thread ≠ workerThread)
      (busy : helper.queue.threads thread ≠ .idle)
      (step :
        ThreadStep size helper.queue.memory (helper.queue.threads thread)
          event memory stage) :
      Step helper
        ((helper.advance thread event memory stage).afterEnqueue policy
          thread event)
  | dequeue
      {helper : AsyncLogHelper}
      (runs : helper.worker.status = .running)
      (idle : helper.queue.threads workerThread = .idle) :
      Step helper
        (helper.advance workerThread .silent helper.queue.memory
          (.dequeueLoop helper.queue.memory.dequeuePos))
  | dequeueStep
      {helper : AsyncLogHelper}
      {event : Event Pushed}
      {memory : Memory Pushed}
      {stage : Stage Pushed}
      (runs : helper.worker.status = .running)
      (busy : helper.queue.threads workerThread ≠ .idle)
      (step :
        ThreadStep size helper.queue.memory
          (helper.queue.threads workerThread) event memory stage)
      (answers : SinkAnswers) :
      Step helper
        ((helper.advance workerThread event memory stage).afterDequeue
          answers event)

/-- A run: steps one after the other. -/
def Run : AsyncLogHelper → AsyncLogHelper → Prop :=
  Relation.ReflTransGen (Step size policy)

end AsyncLogHelper

end Radar
