import Mathlib.Data.List.TakeWhile
import Radar.AsyncLogHelper
import Radar.QueueTickets

namespace Radar

/-!
# What becomes of logged messages

However the threads interleave, the sinks get the messages in the order of
their tickets, those of one thread in the order in which it has logged them,
and none of them twice.  When the worker has ended, the sinks have got and
flushed everything that was in the queue before the message that ended it.
-/

open MpmcBoundedQueue

/-! ## The worker -/

namespace Worker

/-- What holds of a worker that has taken messages out of the queue. -/
structure Served (worker : Worker) (popped : List Pushed) : Prop where
  isPrefix : worker.logged <+: popped.filterMap Pushed.entry?
  isWhole :
    worker.status ≠ .threw →
      worker.logged = popped.filterMap Pushed.entry?
  terminates :
    worker.terminateRequested = true ↔
      ∃ pushed ∈ popped, pushed.msg = .terminate
  willFlush :
    worker.status = .running → worker.terminateRequested = true →
      worker.flushRequested = true
  flushed :
    worker.status = .ended →
      worker.terminateRequested = true ∧
        worker.calls.getLast? = some .flush

theorem served_new : new.Served [] where
  isPrefix := List.prefix_rfl
  isWhole _ := rfl
  terminates := ⟨nofun, nofun⟩
  willFlush _ := nofun
  flushed := nofun

variable {worker : Worker} {popped : List Pushed}

theorem Served.process
    (served : worker.Served popped)
    (runs : worker.status = .running)
    (answers : SinkAnswers)
    (pushed : Pushed) :
    (worker.process answers pushed).Served (popped ++ [pushed]) := by
  have whole := served.isWhole (by rw [runs]; nofun)
  have terminates :
      pushed.msg ≠ .terminate →
        (worker.terminateRequested = true ↔
          ∃ other ∈ popped ++ [pushed], other.msg = .terminate) := by
    intro notTerminate
    rw [served.terminates]
    constructor
    · rintro ⟨other, member, isTerminate⟩
      exact ⟨other, List.mem_append_left _ member, isTerminate⟩
    · rintro ⟨other, member, isTerminate⟩
      rcases List.mem_append.mp member with before | isNew
      · exact ⟨other, before, isTerminate⟩
      · rw [List.mem_singleton.mp isNew] at isTerminate
        exact absurd isTerminate notTerminate
  have notEnded : worker.status ≠ .ended := by
    rw [runs]
    nofun
  obtain ⟨thread, msg⟩ := pushed
  have entries :
      (popped ++ [Pushed.mk thread msg]).filterMap Pushed.entry? =
        worker.logged ++ [Pushed.mk thread msg].filterMap Pushed.entry? := by
    rw [List.filterMap_append, whole]
  have isPrefix :
      worker.logged <+:
        (popped ++ [Pushed.mk thread msg]).filterMap Pushed.entry? := by
    rw [entries]
    exact List.prefix_append _ _
  unfold Worker.process
  cases msg with
  | flush =>
      have same := entries.trans (List.append_nil _)
      exact
        { isPrefix := isPrefix
          isWhole := fun _ => same.symm
          terminates := terminates nofun
          willFlush := fun _ _ => rfl
          flushed := fun ended => absurd ended notEnded }
  | terminate =>
      have same := entries.trans (List.append_nil _)
      exact
        { isPrefix := isPrefix
          isWhole := fun _ => same.symm
          terminates :=
            ⟨fun _ => ⟨_, List.mem_append_right _ List.mem_cons_self, rfl⟩,
              fun _ => rfl⟩
          willFlush := fun _ _ => rfl
          flushed := fun ended => absurd ended notEnded }
  | log msg =>
      dsimp only
      split
      case isTrue throws =>
        exact
          { isPrefix := isPrefix
            isWhole := fun notThrew => absurd rfl notThrew
            terminates := terminates nofun
            willFlush := nofun
            flushed := nofun }
      case isFalse =>
        have same :
            (worker.calls ++ [SinkCall.log ⟨thread, msg⟩]).filterMap
                SinkCall.entry? =
              (popped ++ [Pushed.mk thread (.log msg)]).filterMap
                Pushed.entry? := by
          rw [entries, List.filterMap_append]
          rfl
        exact
          { isPrefix := same ▸ List.prefix_rfl
            isWhole := fun _ => same
            terminates := terminates nofun
            willFlush := served.willFlush
            flushed := fun ended => absurd ended notEnded }

theorem Served.handleEmpty
    (served : worker.Served popped)
    (runs : worker.status = .running)
    (answers : SinkAnswers) :
    (worker.handleEmpty answers).Served popped := by
  have whole := served.isWhole (by rw [runs]; nofun)
  have withFlush :
      (worker.calls ++ [SinkCall.flush]).filterMap SinkCall.entry? =
        popped.filterMap Pushed.entry? := by
    rw [← whole, List.filterMap_append]
    exact List.append_nil _
  unfold Worker.handleEmpty
  dsimp only
  split
  case isTrue flushes =>
    split
    case isTrue throws =>
      exact
        { isPrefix := served.isPrefix
          isWhole := fun notThrew => absurd rfl notThrew
          terminates := served.terminates
          willFlush := nofun
          flushed := nofun }
    case isFalse =>
      refine
        { isPrefix := withFlush ▸ List.prefix_rfl
          isWhole := fun _ => withFlush
          terminates := served.terminates
          willFlush := ?_
          flushed := ?_ }
      · intro runs requested
        dsimp only at runs requested
        rw [if_pos requested] at runs
        cases runs
      · intro ended
        dsimp only at ended
        split at ended
        case isTrue requested =>
          exact ⟨requested, List.getLast?_concat⟩
        case isFalse => cases ended
  case isFalse noFlush =>
    refine
      { isPrefix := served.isPrefix
        isWhole := fun _ => whole
        terminates := served.terminates
        willFlush := fun _ => served.willFlush runs
        flushed := ?_ }
    intro ended
    dsimp only at ended
    split at ended
    case isTrue requested =>
      exact absurd (.inl (served.willFlush runs requested)) noFlush
    case isFalse => cases ended

end Worker

namespace AsyncLogHelper

/-! ## Threads -/

/-- What a client may rely on: its messages that have tickets. -/
def Pushing
    (thread : Nat)
    (pushing : Option AsyncMsg)
    (tickets accepted : List AsyncMsg) :
    Stage Pushed → Prop
  | .idle => tickets = accepted
  | .enqueueLoop data _ | .enqueueCheck data _ _ =>
      ∃ msg, pushing = some msg ∧ data = ⟨thread, msg⟩ ∧ tickets = accepted
  | .enqueueWrite _ _ | .enqueueStore _ =>
      ∃ msg, pushing = some msg ∧ tickets = accepted ++ [msg]
  | .dequeueLoop _ | .dequeueCheck _ _ | .dequeueRead _ |
    .dequeueStore _ _ => False

/-- What the worker may rely on, after so many messages. -/
def Popping (popped dequeuePos : Nat) : Stage Pushed → Prop
  | .idle => dequeuePos = popped
  | .dequeueLoop pos | .dequeueCheck pos _ =>
      pos = popped ∧ dequeuePos = popped
  | .dequeueRead pos | .dequeueStore pos _ =>
      pos = popped ∧ dequeuePos = popped + 1
  | .enqueueLoop _ _ | .enqueueCheck _ _ _ | .enqueueWrite _ _ |
    .enqueueStore _ => False

section

variable {size : BufferSize} {memory next : Memory Pushed}
variable {stage after : Stage Pushed} {event : Event Pushed}

/-- What a step of a client in the queue can be. -/
theorem Pushing.step
    {thread : Nat}
    {pushing : Option AsyncMsg}
    {tickets accepted : List AsyncMsg}
    (ok : Pushing thread pushing tickets accepted stage)
    (busy : stage ≠ .idle)
    (step : ThreadStep size memory stage event next after) :
    next.dequeuePos = memory.dequeuePos ∧
      ((event = .silent ∧ Pushing thread pushing tickets accepted after) ∨
        (∃ msg, event = .claimed ⟨thread, msg⟩ ∧
          Pushing thread pushing (tickets ++ [msg]) accepted after) ∨
        (∃ msg, event = .accepted ∧ pushing = some msg ∧ after = .idle ∧
          tickets = accepted ++ [msg]) ∨
        (∃ msg, event = .refused ∧ pushing = some msg ∧ after = .idle ∧
          tickets = accepted)) := by
  cases step with
  | enqueue | dequeue => exact absurd rfl busy
  | enqueueLoad | enqueueExchangeFails | enqueueAgain =>
      exact ⟨rfl, .inl ⟨rfl, ok⟩⟩
  | enqueueExchange current =>
      obtain ⟨msg, isPushing, rfl, same⟩ := ok
      exact ⟨rfl, .inr (.inl ⟨msg, rfl, msg, isPushing, by rw [same]⟩)⟩
  | enqueueFull =>
      obtain ⟨msg, isPushing, -, same⟩ := ok
      exact ⟨rfl, .inr (.inr (.inr ⟨msg, rfl, isPushing, rfl, same⟩))⟩
  | enqueueWrite => exact ⟨rfl, .inl ⟨rfl, ok⟩⟩
  | enqueueStore =>
      obtain ⟨msg, isPushing, same⟩ := ok
      exact ⟨rfl, .inr (.inr (.inl ⟨msg, rfl, isPushing, rfl, same⟩))⟩
  | dequeueLoad | dequeueExchange | dequeueExchangeFails | dequeueEmpty
  | dequeueAgain | dequeueRead | dequeueStore => exact ok.elim

/-- What a step of the worker in the queue can be. -/
theorem Popping.step
    {popped : Nat}
    (ok : Popping popped memory.dequeuePos stage)
    (busy : stage ≠ .idle)
    (step : ThreadStep size memory stage event next after) :
    ((event = .silent ∨ event = .taking popped) ∧
        Popping popped next.dequeuePos after) ∨
      (event = .empty ∧ after = .idle ∧ next.dequeuePos = popped) ∨
      (∃ data, event = .returned popped data ∧ after = .idle ∧
        next.dequeuePos = popped + 1) := by
  cases step with
  | enqueue | dequeue => exact absurd rfl busy
  | dequeueLoad => exact .inl ⟨.inl rfl, ok⟩
  | dequeueExchangeFails | dequeueAgain =>
      exact .inl ⟨.inl rfl, ok.2, ok.2⟩
  | dequeueExchange current =>
      obtain ⟨rfl, -⟩ := ok
      exact .inl ⟨.inr rfl, rfl, rfl⟩
  | dequeueEmpty => exact .inr (.inl ⟨rfl, rfl, ok.2⟩)
  | dequeueRead => exact .inl ⟨.inl rfl, ok⟩
  | dequeueStore =>
      obtain ⟨rfl, taken⟩ := ok
      exact .inr (.inr ⟨_, rfl, rfl, taken⟩)
  | enqueueLoad | enqueueExchange | enqueueExchangeFails | enqueueFull
  | enqueueAgain | enqueueWrite | enqueueStore => exact ok.elim

end

/-! ## The system -/

/-- The messages of a thread that have tickets, in their order. -/
def tickets (helper : AsyncLogHelper) (thread : Nat) : List AsyncMsg :=
  (helper.queue.enqueued.filter fun pushed => pushed.thread = thread).map
    Pushed.msg

/-- The messages with which calls of a thread have returned. -/
def accepted (helper : AsyncLogHelper) (thread : Nat) : List AsyncMsg :=
  (helper.returned.filter fun pushed => pushed.thread = thread).map
    Pushed.msg

/-- What the worker has taken out of the queue. -/
def popped (helper : AsyncLogHelper) : List Pushed :=
  helper.queue.enqueued.take helper.queue.returned.length

/-- What holds in every reachable state. -/
structure Orderly (size : BufferSize) (helper : AsyncLogHelper) : Prop where
  consistent : Consistent size helper.queue
  pushing :
    ∀ thread, thread ≠ workerThread →
      Pushing thread (helper.pushing thread) (helper.tickets thread)
        (helper.accepted thread) (helper.queue.threads thread)
  popping :
    Popping helper.queue.returned.length helper.queue.memory.dequeuePos
      (helper.queue.threads workerThread)
  inOrder :
    helper.queue.returned.map Prod.fst =
      List.range helper.queue.returned.length
  served : helper.worker.Served helper.popped
  parked :
    helper.worker.status ≠ .running →
      helper.queue.threads workerThread = .idle

variable {size : BufferSize} {policy : OverflowPolicy}
variable {helper next : AsyncLogHelper} {thread : Nat}

theorem orderly_new : Orderly size new where
  consistent := consistent_new
  pushing _ _ := rfl
  popping := rfl
  inOrder := rfl
  served := Worker.served_new
  parked _ := rfl

/-- Messages of one thread are none of another one. -/
theorem messages_append
    {other : Nat}
    (pushed : List Pushed)
    (msgs : List AsyncMsg) :
    (((pushed ++ msgs.map (Pushed.mk thread)).filter fun pushed =>
        pushed.thread = other).map Pushed.msg) =
      ((pushed.filter fun pushed => pushed.thread = other).map Pushed.msg) ++
        if other = thread then msgs else [] := by
  rw [List.filter_append, List.map_append]
  refine congrArg _ ?_
  split
  case isTrue same =>
    rw [List.filter_eq_self.mpr, List.map_map]
    · exact List.map_id _
    · intro pushed member
      obtain ⟨msg, -, rfl⟩ := List.mem_map.mp member
      exact decide_eq_true same.symm
  case isFalse different =>
    rw [List.filter_eq_nil_iff.mpr, List.map_nil]
    intro pushed member isOther
    obtain ⟨msg, -, rfl⟩ := List.mem_map.mp member
    exact different (of_decide_eq_true isOther).symm

/-- The worker has taken as many messages as there are results at most. -/
theorem Orderly.popped_le (orderly : Orderly size helper) :
    helper.queue.returned.length ≤ helper.queue.enqueued.length := by
  have taken :
      helper.queue.returned.length ≤ helper.queue.memory.dequeuePos := by
    have popping := orderly.popping
    cases isStage : helper.queue.threads workerThread <;>
      rw [isStage] at popping <;>
      first
      | exact popping.elim
      | exact Nat.le_of_eq popping.symm
      | exact Nat.le_of_eq popping.2.symm
      | exact popping.2 ▸ Nat.le_succ _
  rw [orderly.consistent.length]
  exact Nat.le_trans taken orderly.consistent.ordered

/-- A step of a client, by what it adds to tickets and returned calls. -/
theorem Orderly.client
    (orderly : Orderly size helper)
    (isClient : thread ≠ workerThread)
    (consistent : Consistent size next.queue)
    (worker : next.worker = helper.worker)
    (popped : next.queue.returned = helper.queue.returned)
    (dequeuePos :
      next.queue.memory.dequeuePos = helper.queue.memory.dequeuePos)
    (threads :
      ∀ other, other ≠ thread →
        next.queue.threads other = helper.queue.threads other ∧
          next.pushing other = helper.pushing other)
    (enqueued returned : List AsyncMsg)
    (isEnqueued :
      next.queue.enqueued =
        helper.queue.enqueued ++ enqueued.map (Pushed.mk thread))
    (isReturned :
      next.returned = helper.returned ++ returned.map (Pushed.mk thread))
    {stage : Stage Pushed}
    (isStage : next.queue.threads thread = stage)
    {current : Option AsyncMsg}
    (isCurrent : next.pushing thread = current)
    (pushing :
      Pushing thread current (helper.tickets thread ++ enqueued)
        (helper.accepted thread ++ returned) stage) :
    Orderly size next := by
  have isTickets :
      ∀ other, next.tickets other =
        helper.tickets other ++
          if other = thread then enqueued else [] := by
    intro other
    rw [tickets, isEnqueued]
    exact messages_append _ _
  have isAccepted :
      ∀ other, next.accepted other =
        helper.accepted other ++
          if other = thread then returned else [] := by
    intro other
    rw [accepted, isReturned]
    exact messages_append _ _
  refine ⟨consistent, ?_, ?_, ?_, ?_, ?_⟩
  · intro other notWorker
    rw [isTickets, isAccepted]
    by_cases same : other = thread
    · subst same
      rw [if_pos rfl, if_pos rfl, isStage, isCurrent]
      exact pushing
    · obtain ⟨sameStage, samePushing⟩ := threads other same
      rw [if_neg same, if_neg same, List.append_nil, List.append_nil,
        sameStage, samePushing]
      exact orderly.pushing other notWorker
  · rw [popped, dequeuePos, (threads _ isClient.symm).1]
    exact orderly.popping
  · rw [popped]
    exact orderly.inOrder
  · have same : next.popped = helper.popped := by
      rw [AsyncLogHelper.popped, AsyncLogHelper.popped, popped, isEnqueued]
      exact List.take_append_of_le_length orderly.popped_le
    rw [worker, same]
    exact orderly.served
  · rw [worker, (threads _ isClient.symm).1]
    exact orderly.parked

/-- A step of the worker, by what it has taken and done. -/
theorem Orderly.ofWorker
    (orderly : Orderly size helper)
    (consistent : Consistent size next.queue)
    (pushing : next.pushing = helper.pushing)
    (returned : next.returned = helper.returned)
    (enqueued : next.queue.enqueued = helper.queue.enqueued)
    (threads :
      ∀ other, other ≠ workerThread →
        next.queue.threads other = helper.queue.threads other)
    {stage : Stage Pushed}
    (isStage : next.queue.threads workerThread = stage)
    (popping :
      Popping next.queue.returned.length next.queue.memory.dequeuePos stage)
    (inOrder :
      next.queue.returned.map Prod.fst =
        List.range next.queue.returned.length)
    (served : next.worker.Served next.popped)
    (parked : next.worker.status ≠ .running → stage = .idle) :
    Orderly size next where
  consistent := consistent
  pushing := by
    intro other isClient
    rw [tickets, accepted, enqueued, returned, pushing,
      threads other isClient]
    exact orderly.pushing other isClient
  popping := isStage.symm ▸ popping
  inOrder := inOrder
  served := served
  parked stopped := isStage.trans (parked stopped)

/-- A call of `push_msg` begins when the one before has ended. -/
theorem Pushing.ofFree
    {tickets accepted : List AsyncMsg}
    {stage : Stage Pushed}
    (ok : Pushing thread none tickets accepted stage) :
    stage = .idle := by
  cases stage with
  | idle => rfl
  | enqueueLoop | enqueueCheck =>
      obtain ⟨msg, isPushing, -⟩ := ok
      cases isPushing
  | enqueueWrite | enqueueStore =>
      obtain ⟨msg, isPushing, -⟩ := ok
      cases isPushing
  | dequeueLoop | dequeueCheck | dequeueRead | dequeueStore => exact ok.elim

/-- A step of a client in the queue. -/
theorem Orderly.enqueueStep
    (orderly : Orderly size helper)
    (isClient : thread ≠ workerThread)
    (busy : helper.queue.threads thread ≠ .idle)
    {event : Event Pushed}
    {memory : Memory Pushed}
    {stage : Stage Pushed}
    (step :
      ThreadStep size helper.queue.memory (helper.queue.threads thread)
        event memory stage) :
    Orderly size
      ((helper.advance thread event memory stage).afterEnqueue policy
        thread event) := by
  have consistent := orderly.consistent.threadStep rfl step
  have others :
      ∀ other, other ≠ thread →
        Function.update helper.queue.threads thread stage other =
          helper.queue.threads other :=
    fun other different => Function.update_of_ne different _ _
  have otherPushing :
      ∀ other, other ≠ thread →
        Function.update helper.pushing thread none other =
          helper.pushing other :=
    fun other different => Function.update_of_ne different _ _
  have isStage :
      Function.update helper.queue.threads thread stage thread = stage :=
    Function.update_self _ _ _
  have isFree : Function.update helper.pushing thread none thread = none :=
    Function.update_self _ _ _
  obtain ⟨dequeuePos, ⟨rfl, pushing⟩ | ⟨msg, rfl, pushing⟩ |
    ⟨msg, rfl, isPushing, rfl, same⟩ | ⟨msg, rfl, isPushing, rfl, same⟩⟩ :=
    (orderly.pushing thread isClient).step busy step
  · refine
      orderly.client isClient consistent rfl rfl dequeuePos
        (fun other different => ⟨others other different, rfl⟩) [] []
        (List.append_nil _).symm (List.append_nil _).symm isStage rfl ?_
    rwa [List.append_nil, List.append_nil]
  · refine
      orderly.client isClient consistent rfl rfl dequeuePos
        (fun other different => ⟨others other different, rfl⟩) [msg] []
        rfl (List.append_nil _).symm isStage rfl ?_
    rwa [List.append_nil]
  · unfold afterEnqueue
    rw [show (helper.advance thread .accepted memory .idle).pushing thread =
      some msg from isPushing]
    refine
      orderly.client isClient consistent rfl rfl dequeuePos
        (fun other different =>
          ⟨others other different, otherPushing other different⟩) [] [msg]
        (List.append_nil _).symm rfl isStage isFree ?_
    rw [List.append_nil, same]
    rfl
  · unfold afterEnqueue
    rw [show (helper.advance thread .refused memory .idle).pushing thread =
      some msg from isPushing]
    cases policy with
    | blockRetry =>
        refine
          orderly.client isClient consistent rfl rfl dequeuePos
            (fun other different => ⟨others other different, rfl⟩) [] []
            (List.append_nil _).symm (List.append_nil _).symm isStage rfl ?_
        rwa [List.append_nil, List.append_nil]
    | discardLogMsg =>
        refine
          orderly.client isClient consistent rfl rfl dequeuePos
            (fun other different =>
              ⟨others other different, otherPushing other different⟩) [] []
            (List.append_nil _).symm (List.append_nil _).symm isStage isFree
            ?_
        rwa [List.append_nil, List.append_nil]

/-- A step of the worker in the queue. -/
theorem Orderly.dequeueStep
    (orderly : Orderly size helper)
    (runs : helper.worker.status = .running)
    (busy : helper.queue.threads workerThread ≠ .idle)
    {event : Event Pushed}
    {memory : Memory Pushed}
    {stage : Stage Pushed}
    (step :
      ThreadStep size helper.queue.memory
        (helper.queue.threads workerThread) event memory stage)
    (answers : SinkAnswers) :
    Orderly size
      ((helper.advance workerThread event memory stage).afterDequeue answers
        event) := by
  have consistent := orderly.consistent.threadStep rfl step
  have others :
      ∀ other, other ≠ workerThread →
        Function.update helper.queue.threads workerThread stage other =
          helper.queue.threads other :=
    fun other different => Function.update_of_ne different _ _
  have isStage :
      Function.update helper.queue.threads workerThread stage workerThread =
        stage :=
    Function.update_self _ _ _
  obtain ⟨rfl | rfl, popping⟩ | ⟨rfl, rfl, popping⟩ |
    ⟨data, rfl, rfl, popping⟩ := orderly.popping.step busy step
  · exact
      orderly.ofWorker consistent rfl rfl rfl others
        isStage popping orderly.inOrder orderly.served
        fun stopped => absurd runs stopped
  · exact
      orderly.ofWorker consistent rfl rfl rfl others
        isStage popping orderly.inOrder orderly.served
        fun stopped => absurd runs stopped
  · exact
      orderly.ofWorker consistent rfl rfl rfl others
        isStage popping orderly.inOrder
        (orderly.served.handleEmpty runs answers) fun _ => rfl
  · obtain ⟨pushed, isPushed, isData⟩ :=
      consistent.returned_genuine
        (List.mem_append_right _ List.mem_cons_self)
    dsimp only at isPushed isData
    subst isData
    have length :
        (helper.queue.returned ++
          [(helper.queue.returned.length, some pushed)]).length =
            helper.queue.returned.length + 1 :=
      List.length_append
    have isNext :
        helper.queue.enqueued.take (helper.queue.returned.length + 1) =
          helper.popped ++ [pushed] := by
      rw [List.take_add_one, show helper.queue.enqueued[_]? = _ from isPushed]
      rfl
    have grown :
        Popping
          (helper.queue.returned ++
            [(helper.queue.returned.length, some pushed)]).length
          memory.dequeuePos .idle := by
      rw [length]
      exact popping
    have inOrder :
        (helper.queue.returned ++
            [(helper.queue.returned.length, some pushed)]).map Prod.fst =
          List.range
            (helper.queue.returned ++
              [(helper.queue.returned.length, some pushed)]).length := by
      rw [List.map_append, orderly.inOrder, length, List.range_succ]
      rfl
    have served :
        (helper.worker.process answers pushed).Served
          (helper.queue.enqueued.take
            (helper.queue.returned ++
              [(helper.queue.returned.length, some pushed)]).length) := by
      rw [length, isNext]
      exact orderly.served.process runs answers pushed
    exact
      orderly.ofWorker consistent rfl rfl rfl others isStage grown inOrder
        served fun _ => rfl

/-- Every step keeps the messages in order. -/
theorem Orderly.step
    (orderly : Orderly size helper)
    (step : Step size policy helper next) :
    Orderly size next := by
  cases step with
  | @pushMsg thread isClient isFree calm noEx msg =>
      have ok := orderly.pushing thread isClient
      rw [isFree] at ok
      have isIdle := ok.ofFree
      rw [isIdle] at ok
      refine
        orderly.client isClient orderly.consistent rfl rfl rfl
          (fun other different => ⟨rfl, Function.update_of_ne different _ _⟩)
          [] [] (List.append_nil _).symm (List.append_nil _).symm isIdle
          (Function.update_self _ _ _) ?_
      rwa [List.append_nil, List.append_nil]
  | throwIfBadWorker | throwEx => exact { orderly with }
  | @enqueue thread msg isClient isPushing idle =>
      have ok := orderly.pushing thread isClient
      rw [idle] at ok
      have consistent :=
        orderly.consistent.threadStep idle (.enqueue ⟨thread, msg⟩)
      refine
        orderly.client isClient consistent rfl rfl rfl
          (fun other different => ⟨Function.update_of_ne different _ _, rfl⟩)
          [] [] (List.append_nil _).symm (List.append_nil _).symm
          (Function.update_self _ _ _) isPushing ?_
      rw [List.append_nil, List.append_nil]
      exact ⟨msg, rfl, rfl, ok⟩
  | enqueueStep isClient busy step =>
      exact orderly.enqueueStep isClient busy step
  | dequeue runs idle =>
      have ok := orderly.popping
      rw [idle] at ok
      have consistent := orderly.consistent.threadStep idle .dequeue
      have isStage :
          Function.update helper.queue.threads workerThread
            (.dequeueLoop helper.queue.memory.dequeuePos) workerThread =
              .dequeueLoop helper.queue.memory.dequeuePos :=
        Function.update_self _ _ _
      exact
        orderly.ofWorker consistent rfl rfl rfl
          (fun other different => Function.update_of_ne different _ _)
          isStage ⟨ok, ok⟩ orderly.inOrder orderly.served
          fun stopped => absurd runs stopped
  | dequeueStep runs busy step answers =>
      exact orderly.dequeueStep runs busy step answers

theorem Orderly.run
    (orderly : Orderly size helper)
    (run : Run size policy helper next) :
    Orderly size next := by
  induction run with
  | refl => exact orderly
  | tail _ step inductionHypothesis => exact inductionHypothesis.step step

/-! ## A run -/

/-- A client that pushes a message begins to enqueue it. -/
theorem Run.consPush
    (isClient : thread ≠ workerThread)
    (isFree : helper.pushing thread = none)
    (calm : helper.throwing thread = false)
    (noEx : helper.lastWorkerthreadEx = false)
    (idle : helper.queue.threads thread = .idle)
    (msg : AsyncMsg)
    (run :
      Run size policy
        (advance
          { helper with
            pushing := Function.update helper.pushing thread (some msg) }
          thread .silent helper.queue.memory
          (.enqueueLoop ⟨thread, msg⟩ helper.queue.memory.enqueuePos))
        next) :
    Run size policy helper next :=
  .head (.pushMsg isClient isFree calm noEx msg)
    (.head (.enqueue isClient (Function.update_self _ _ _) idle) run)

theorem Run.consEnqueue
    {event : Event Pushed}
    {memory : Memory Pushed}
    {before stage : Stage Pushed}
    (isClient : thread ≠ workerThread)
    (step : ThreadStep size helper.queue.memory before event memory stage)
    (isStage : helper.queue.threads thread = before)
    (busy : before ≠ .idle)
    (run :
      Run size policy
        ((helper.advance thread event memory stage).afterEnqueue policy
          thread event)
        next) :
    Run size policy helper next :=
  .head (.enqueueStep isClient (isStage ▸ busy) (isStage ▸ step)) run

theorem Run.consDequeue
    {event : Event Pushed}
    {memory : Memory Pushed}
    {before stage : Stage Pushed}
    (answers : SinkAnswers)
    (runs : helper.worker.status = .running)
    (step : ThreadStep size helper.queue.memory before event memory stage)
    (isStage : helper.queue.threads workerThread = before)
    (busy : before ≠ .idle)
    (run :
      Run size policy
        ((helper.advance workerThread event memory stage).afterDequeue
          answers event)
        next) :
    Run size policy helper next :=
  .head (.dequeueStep runs (isStage ▸ busy) (isStage ▸ step) answers) run

/-- What a client logs, and what the sinks have got when the worker ends. -/
theorem exists_run_ended :
    ∃ helper next : AsyncLogHelper,
      Run ⟨1, Nat.one_pos⟩ .blockRetry new helper ∧
        Run ⟨1, Nat.one_pos⟩ .blockRetry helper next ∧
        helper.accepted 1 =
          [.log ⟨"radar".toList, .info, 0, 1, "started".toList⟩] ∧
        helper.queue.enqueued.map Pushed.msg = helper.accepted 1 ∧
        next.worker.status = .ended ∧
        next.pushing 1 = none ∧
        next.throwing 1 = false ∧
        next.lastWorkerthreadEx = false := by
  apply Exists.intro
  apply Exists.intro
  refine ⟨?_, ?_, ?_⟩
  · apply Run.consPush (Nat.succ_ne_zero 0) rfl rfl rfl rfl
      (.log ⟨"radar".toList, .info, 0, 1, "started".toList⟩)
    apply Run.consEnqueue (Nat.succ_ne_zero 0) .enqueueLoad rfl nofun
    apply Run.consEnqueue (Nat.succ_ne_zero 0) (.enqueueExchange rfl) rfl nofun
    apply Run.consEnqueue (Nat.succ_ne_zero 0) .enqueueWrite rfl nofun
    apply Run.consEnqueue (Nat.succ_ne_zero 0) .enqueueStore rfl nofun
    exact .refl
  · apply Run.consPush (Nat.succ_ne_zero 0) rfl rfl rfl rfl .terminate
    apply Run.consEnqueue (Nat.succ_ne_zero 0) .enqueueLoad rfl nofun
    apply Run.consEnqueue (Nat.succ_ne_zero 0) (.enqueueExchange rfl) rfl nofun
    apply Run.consEnqueue (Nat.succ_ne_zero 0) .enqueueWrite rfl nofun
    apply Run.consEnqueue (Nat.succ_ne_zero 0) .enqueueStore rfl nofun
    apply Relation.ReflTransGen.head (.dequeue rfl rfl)
    apply Run.consDequeue ⟨false, false⟩ rfl .dequeueLoad rfl nofun
    apply Run.consDequeue ⟨false, false⟩ rfl (.dequeueExchange rfl) rfl nofun
    apply Run.consDequeue ⟨false, false⟩ rfl .dequeueRead rfl nofun
    apply Run.consDequeue ⟨false, false⟩ rfl .dequeueStore rfl nofun
    apply Relation.ReflTransGen.head (.dequeue rfl rfl)
    apply Run.consDequeue ⟨false, false⟩ rfl .dequeueLoad rfl nofun
    apply Run.consDequeue ⟨false, false⟩ rfl (.dequeueExchange rfl) rfl nofun
    apply Run.consDequeue ⟨false, false⟩ rfl .dequeueRead rfl nofun
    apply Run.consDequeue ⟨false, false⟩ rfl .dequeueStore rfl nofun
    apply Relation.ReflTransGen.head (.dequeue rfl rfl)
    apply Run.consDequeue ⟨false, false⟩ rfl .dequeueLoad rfl nofun
    apply Run.consDequeue ⟨false, false⟩ rfl
      (.dequeueEmpty (Nat.lt_succ_self 2)) rfl nofun
    exact .refl
  · exact ⟨rfl, rfl, rfl, rfl, rfl, rfl⟩

/-! ## The order of messages -/

/-- The messages of a thread that the sinks have got. -/
def loggedBy (helper : AsyncLogHelper) (thread : Nat) : List LogMsg :=
  (helper.worker.logged.filter fun entry => entry.thread = thread).map
    Entry.msg

/-- The messages of a thread, among those for the sinks. -/
theorem entries_ofThread (pushed : List Pushed) (thread : Nat) :
    (((pushed.filterMap Pushed.entry?).filter fun entry =>
        entry.thread = thread).map Entry.msg) =
      (((pushed.filter fun pushed => pushed.thread = thread).map
        Pushed.msg).filterMap AsyncMsg.logMsg?) := by
  induction pushed with
  | nil => rfl
  | cons pushed rest inductionHypothesis =>
      obtain ⟨other, msg⟩ := pushed
      have isEntry :
          Pushed.entry? ⟨other, msg⟩ = msg.logMsg?.map (Entry.mk other) := rfl
      cases hasMsg : msg.logMsg? with
      | none =>
          rw [hasMsg] at isEntry
          rw [List.filterMap_cons_none isEntry, inductionHypothesis]
          by_cases same : other = thread <;> simp [same, hasMsg]
      | some logMsg =>
          rw [hasMsg] at isEntry
          rw [List.filterMap_cons_some isEntry]
          by_cases same : other = thread
          · simpa [same, hasMsg] using inductionHypothesis
          · simpa [same] using inductionHypothesis

/-- The tickets are those of the calls that have returned, and one more. -/
theorem Pushing.between
    {pushing : Option AsyncMsg}
    {tickets accepted : List AsyncMsg}
    {stage : Stage Pushed}
    (ok : Pushing thread pushing tickets accepted stage) :
    accepted <+: tickets ∧ tickets <+: accepted ++ pushing.toList := by
  cases stage with
  | idle =>
      obtain rfl := ok
      exact ⟨List.prefix_rfl, List.prefix_append _ _⟩
  | enqueueLoop | enqueueCheck =>
      obtain ⟨msg, -, -, rfl⟩ := ok
      exact ⟨List.prefix_rfl, List.prefix_append _ _⟩
  | enqueueWrite | enqueueStore =>
      obtain ⟨msg, rfl, rfl⟩ := ok
      exact ⟨List.prefix_append _ _, List.prefix_rfl⟩
  | dequeueLoop | dequeueCheck | dequeueRead | dequeueStore => exact ok.elim

theorem Orderly.isPrefix_loggedBy
    (orderly : Orderly size helper)
    (thread : Nat) :
    helper.loggedBy thread <+:
      (helper.tickets thread).filterMap AsyncMsg.logMsg? := by
  rw [tickets, ← entries_ofThread]
  have popped : helper.popped <+: helper.queue.enqueued :=
    List.take_prefix _ _
  exact
    ((orderly.served.isPrefix.trans (popped.filterMap _)).filter _).map _

/-- A call that blocks does not discard its message. -/
theorem Step.discarded_eq
    (step : Step size .blockRetry helper next) :
    next.discarded = helper.discarded := by
  cases step with
  | pushMsg | throwIfBadWorker | throwEx | enqueue | dequeue => rfl
  | enqueueStep =>
      unfold afterEnqueue
      split <;> rfl
  | dequeueStep =>
      unfold afterDequeue
      split <;> rfl

theorem Run.discarded_eq
    (run : Run size .blockRetry helper next) :
    next.discarded = helper.discarded := by
  induction run with
  | refl => rfl
  | tail _ step inductionHypothesis =>
      exact step.discarded_eq.trans inductionHypothesis

/--
However the threads interleave, and whatever the sinks throw: the sinks get the
messages in the order of their tickets, without a gap, and those of one thread
in the order of its calls.  A call that blocks never discards its message.
-/
theorem logged_inOrder (run : Run size policy new helper) :
    helper.worker.logged <+:
        helper.queue.enqueued.filterMap Pushed.entry? ∧
      (∀ thread, thread ≠ workerThread →
        helper.loggedBy thread <+:
          (helper.accepted thread ++
            (helper.pushing thread).toList).filterMap AsyncMsg.logMsg?) ∧
      (policy = .blockRetry → helper.discarded = []) := by
  have orderly := orderly_new.run run
  refine ⟨?_, ?_, ?_⟩
  · have popped : helper.popped <+: helper.queue.enqueued :=
      List.take_prefix _ _
    exact orderly.served.isPrefix.trans (popped.filterMap _)
  · intro thread isClient
    have tickets := (orderly.pushing thread isClient).between.2
    exact (orderly.isPrefix_loggedBy thread).trans (tickets.filterMap _)
  · rintro rfl
    exact Run.discarded_eq run

theorem logged_inOrder_ended :
    ∃ helper : AsyncLogHelper,
      Run ⟨1, Nat.one_pos⟩ .blockRetry new helper ∧
        helper.worker.status = .ended ∧
        helper.worker.logged <+:
          helper.queue.enqueued.filterMap Pushed.entry? ∧
        helper.discarded = [] := by
  obtain ⟨helper, next, run, later, -, -, ended, -⟩ := exists_run_ended
  have inOrder := logged_inOrder (run.trans later)
  exact ⟨next, run.trans later, ended, inOrder.1, inOrder.2.2 rfl⟩

/-! ## The end of the worker -/

section

variable {event : Event Pushed} {answers : SinkAnswers}

@[simp] theorem queue_afterEnqueue :
    (helper.afterEnqueue policy thread event).queue = helper.queue := by
  unfold afterEnqueue
  split
  · rfl
  · split <;> rfl
  · rfl

@[simp] theorem worker_afterEnqueue :
    (helper.afterEnqueue policy thread event).worker = helper.worker := by
  unfold afterEnqueue
  split
  · rfl
  · split <;> rfl
  · rfl

@[simp] theorem queue_afterDequeue :
    (helper.afterDequeue answers event).queue = helper.queue := by
  unfold afterDequeue
  split <;> rfl

theorem enqueued_advance
    {memory : Memory Pushed}
    {stage : Stage Pushed} :
    helper.queue.enqueued <+:
      (helper.advance thread event memory stage).queue.enqueued := by
  cases event with
  | claimed data => exact List.prefix_append _ _
  | silent | accepted | refused | taking | returned | empty =>
      exact List.prefix_rfl

end

/-- Tickets stay what they are. -/
theorem Step.isPrefix_enqueued (step : Step size policy helper next) :
    helper.queue.enqueued <+: next.queue.enqueued := by
  cases step with
  | pushMsg | throwIfBadWorker | throwEx | enqueue | dequeue =>
      exact List.prefix_rfl
  | enqueueStep =>
      rw [queue_afterEnqueue]
      exact enqueued_advance
  | dequeueStep =>
      rw [queue_afterDequeue]
      exact enqueued_advance

theorem Run.isPrefix_enqueued (run : Run size policy helper next) :
    helper.queue.enqueued <+: next.queue.enqueued := by
  induction run with
  | refl => exact List.prefix_rfl
  | tail _ step inductionHypothesis =>
      exact inductionHypothesis.trans step.isPrefix_enqueued

/-- The worker ends after it has taken everything before a `terminate`. -/
theorem Orderly.ended
    (orderly : Orderly size next)
    (ended : next.worker.status = .ended)
    {before : List Pushed}
    (earlier : before <+: next.queue.enqueued)
    (noTerminate : ∀ pushed ∈ before, pushed.msg ≠ .terminate) :
    before.filterMap Pushed.entry? <+: next.worker.logged := by
  have whole := orderly.served.isWhole (by rw [ended]; nofun)
  obtain ⟨requested, -⟩ := orderly.served.flushed ended
  obtain ⟨pushed, member, isTerminate⟩ :=
    orderly.served.terminates.mp requested
  have popped : next.popped <+: next.queue.enqueued := List.take_prefix _ _
  rw [whole]
  rcases List.prefix_or_prefix_of_prefix popped earlier with less | more
  · exact absurd isTerminate (noTerminate pushed (less.subset member))
  · exact more.filterMap _

/--
When the worker has ended, then the sinks have got all messages with tickets
before those that end it, with them those of all calls that have returned by
then; and after the last message they have been flushed.
-/
theorem ended_hasLogged
    (run : Run size policy new helper)
    (noTerminate :
      ∀ pushed ∈ helper.queue.enqueued, pushed.msg ≠ .terminate)
    (later : Run size policy helper next)
    (ended : next.worker.status = .ended) :
    helper.queue.enqueued.filterMap Pushed.entry? <+: next.worker.logged ∧
      (∀ thread, thread ≠ workerThread →
        (helper.accepted thread).filterMap AsyncMsg.logMsg? <+:
          next.loggedBy thread) ∧
      next.worker.calls.getLast? = some .flush := by
  have orderly := orderly_new.run run
  have orderlyNext := orderly.run later
  have isLogged :=
    orderlyNext.ended ended (Run.isPrefix_enqueued later) noTerminate
  refine ⟨isLogged, ?_, (orderlyNext.served.flushed ended).2⟩
  intro thread isClient
  have accepted := (orderly.pushing thread isClient).between.1
  refine (accepted.filterMap _).trans ?_
  rw [tickets, ← entries_ofThread]
  exact (isLogged.filter _).map _

theorem ended_hasLogged_started :
    ∃ helper : AsyncLogHelper,
      Run ⟨1, Nat.one_pos⟩ .blockRetry new helper ∧
        helper.worker.calls.getLast? = some .flush ∧
        [⟨"radar".toList, .info, 0, 1, "started".toList⟩] <+:
          helper.loggedBy 1 := by
  obtain ⟨helper, next, run, later, accepted, enqueued, ended, -⟩ :=
    exists_run_ended
  have noTerminate :
      ∀ pushed ∈ helper.queue.enqueued, pushed.msg ≠ .terminate := by
    intro pushed member isTerminate
    have isAccepted : pushed.msg ∈ helper.queue.enqueued.map Pushed.msg :=
      List.mem_map_of_mem member
    rw [enqueued, accepted, isTerminate, List.mem_singleton] at isAccepted
    cases isAccepted
  obtain ⟨-, isLogged, flushed⟩ :=
    ended_hasLogged run noTerminate later ended
  have ofClient := isLogged 1 (Nat.succ_ne_zero 0)
  rw [accepted] at ofClient
  exact ⟨next, run.trans later, flushed, ofClient⟩

/-- What a step does when the worker has stopped. -/
theorem Orderly.stopped_step
    (orderly : Orderly size helper)
    (stopped : helper.worker.status ≠ .running)
    (step : Step size policy helper next) :
    next.worker = helper.worker ∧
      next.queue.returned = helper.queue.returned := by
  cases step with
  | pushMsg | throwIfBadWorker | throwEx | enqueue => exact ⟨rfl, rfl⟩
  | dequeue runs | dequeueStep runs => exact absurd runs stopped
  | @enqueueStep thread event memory stage isClient busy step =>
      rw [worker_afterEnqueue, queue_afterEnqueue]
      refine ⟨rfl, ?_⟩
      obtain ⟨-, ⟨rfl, -⟩ | ⟨msg, rfl, -⟩ | ⟨msg, rfl, -⟩ | ⟨msg, rfl, -⟩⟩ :=
        (orderly.pushing thread isClient).step busy step <;> rfl

theorem Orderly.stopped_run
    (orderly : Orderly size helper)
    (stopped : helper.worker.status ≠ .running)
    (run : Run size policy helper next) :
    next.worker = helper.worker ∧
      next.queue.returned = helper.queue.returned := by
  induction run with
  | refl => exact ⟨rfl, rfl⟩
  | tail before step inductionHypothesis =>
      obtain ⟨worker, returned⟩ := inductionHypothesis
      have one :=
        (orderly.run before).stopped_step (worker.symm ▸ stopped) step
      exact ⟨one.1.trans worker, one.2.trans returned⟩

/--
When the worker has ended, or an exception has left it, then the sinks get
nothing more, and there are tickets for a buffer of messages at most that no
one takes, however long clients call.
-/
theorem stopped_fillsUp
    (run : Run size policy new helper)
    (stopped : helper.worker.status ≠ .running)
    (later : Run size policy helper next) :
    next.worker = helper.worker ∧
      next.queue.returned = helper.queue.returned ∧
      next.queue.enqueued.length ≤
        helper.queue.returned.length + size.bufferSize := by
  have orderly := orderly_new.run run
  have orderlyNext := orderly.run later
  obtain ⟨worker, returned⟩ := orderly.stopped_run stopped later
  refine ⟨worker, returned, ?_⟩
  have popping := orderlyNext.popping
  rw [orderlyNext.parked (worker.symm ▸ stopped), returned] at popping
  have taken : next.queue.memory.dequeuePos = _ := popping
  rw [orderlyNext.consistent.length, ← taken]
  exact orderlyNext.consistent.capacity

theorem stopped_fillsUp_ended :
    ∃ helper next : AsyncLogHelper,
      Run ⟨1, Nat.one_pos⟩ .blockRetry new helper ∧
        Run ⟨1, Nat.one_pos⟩ .blockRetry helper next ∧
        next.pushing 1 = some .flush ∧
        next.worker = helper.worker ∧
        next.queue.enqueued.length ≤ helper.queue.returned.length + 2 := by
  obtain ⟨before, helper, run, later, -, -, ended, isFree, calm, noEx⟩ :=
    exists_run_ended
  have isClient : 1 ≠ workerThread := Nat.succ_ne_zero 0
  have pushes :
      Run ⟨1, Nat.one_pos⟩ .blockRetry helper
        { helper with
          pushing := Function.update helper.pushing 1 (some .flush) } :=
    .single (.pushMsg isClient isFree calm noEx .flush)
  have isPushing :
      Function.update helper.pushing 1 (some AsyncMsg.flush) 1 =
        some .flush :=
    Function.update_self _ _ _
  have stopped : helper.worker.status ≠ .running := by
    rw [ended]
    nofun
  have fillsUp := stopped_fillsUp (run.trans later) stopped pushes
  exact
    ⟨helper, _, run.trans later, pushes, isPushing, fillsUp.1, fillsUp.2.2⟩

end AsyncLogHelper

end Radar
