import Radar.LoggedMessages

namespace Radar.AsyncLogHelper

/-!
# The worker can go on

As long as the worker runs, there is a way from every reachable state to one in
which the queue is empty.  So the worker can end as soon as a message that ends
it has a ticket, and a call that blocks can return.
-/

open MpmcBoundedQueue

variable {size : BufferSize} {policy : OverflowPolicy}
variable {helper middle next : AsyncLogHelper} {thread pos : Nat}

/-! ## Clients -/

/-- The call of a client goes on, or it has returned with its message. -/
def Kept (thread : Nat) (helper next : AsyncLogHelper) : Prop :=
  (next.pushing thread = helper.pushing thread ∧
      next.accepted thread = helper.accepted thread) ∨
    ∃ msg, helper.pushing thread = some msg ∧
      next.pushing thread = none ∧
      next.accepted thread = helper.accepted thread ++ [msg]

theorem Kept.trans
    (first : Kept thread helper middle)
    (second : Kept thread middle next) :
    Kept thread helper next := by
  rcases first with ⟨pushing, accepted⟩ | ⟨msg, isPushing, isFree, accepted⟩
  · rw [Kept, ← pushing, ← accepted]
    exact second
  · rcases second with ⟨pushing, later⟩ | ⟨other, isOther, -⟩
    · exact
        .inr ⟨msg, isPushing, pushing.trans isFree, later.trans accepted⟩
    · rw [isFree] at isOther
      cases isOther

theorem Kept.hasReturned
    {msg : AsyncMsg}
    (kept : Kept thread helper next)
    (isPushing : helper.pushing thread = some msg)
    (isFree : next.pushing thread = none) :
    next.accepted thread = helper.accepted thread ++ [msg] := by
  rcases kept with ⟨same, -⟩ | ⟨other, isOther, -, accepted⟩
  · rw [isFree, isPushing] at same
    cases same
  · rw [isPushing] at isOther
    cases isOther
    exact accepted

/-- No message gets a ticket, and each client is kept. -/
structure Settles (helper next : AsyncLogHelper) : Prop where
  enqueued : next.queue.enqueued = helper.queue.enqueued
  clients : ∀ thread, thread ≠ workerThread → Kept thread helper next

theorem Settles.refl (helper : AsyncLogHelper) : Settles helper helper where
  enqueued := rfl
  clients _ _ := .inl ⟨rfl, rfl⟩

theorem Settles.trans
    (first : Settles helper middle)
    (second : Settles middle next) :
    Settles helper next where
  enqueued := second.enqueued.trans first.enqueued
  clients thread isClient :=
    (first.clients thread isClient).trans (second.clients thread isClient)

/-- What a call that has been accepted leaves behind. -/
theorem afterEnqueue_accepted
    {msg : AsyncMsg}
    (isPushing : helper.pushing thread = some msg) :
    helper.afterEnqueue policy thread .accepted =
      { helper with
        pushing := Function.update helper.pushing thread none
        returned := helper.returned ++ [⟨thread, msg⟩] } := by
  unfold afterEnqueue
  rw [isPushing]

theorem kept_accepted
    {msg : AsyncMsg}
    (isPushing : helper.pushing thread = some msg)
    (pushing :
      next.pushing = Function.update helper.pushing thread none)
    (returned : next.returned = helper.returned ++ [⟨thread, msg⟩])
    (other : Nat) :
    Kept other helper next := by
  have isAccepted :
      next.accepted other =
        helper.accepted other ++ if other = thread then [msg] else [] := by
    rw [accepted, returned]
    exact messages_append helper.returned [msg]
  by_cases same : other = thread
  · subst same
    rw [if_pos rfl] at isAccepted
    refine .inr ⟨msg, isPushing, ?_, isAccepted⟩
    rw [pushing, Function.update_self]
  · rw [if_neg same, List.append_nil] at isAccepted
    refine .inl ⟨?_, isAccepted⟩
    rw [pushing, Function.update_of_ne same]

/-- What the worker sees of steps of clients that only finish a call. -/
structure Finishes (helper next : AsyncLogHelper) : Prop
    extends Settles helper next where
  worker : next.worker = helper.worker
  returned : next.queue.returned = helper.queue.returned
  stage :
    next.queue.threads workerThread = helper.queue.threads workerThread

theorem stage_advance
    (helper : AsyncLogHelper)
    (thread : Nat)
    (event : MpmcBoundedQueue.Event Pushed)
    (memory : Memory Pushed)
    (stage : Stage Pushed) :
    (helper.advance thread event memory stage).queue.threads thread =
      stage := by
  rw [advance, System.threads_record]
  exact Function.update_self _ _ _

/-- A client that stores its sequence number returns. -/
theorem Orderly.canStore
    (orderly : Orderly size helper)
    (policy : OverflowPolicy)
    (isClient : thread ≠ workerThread)
    (isStage : helper.queue.threads thread = .enqueueStore pos) :
    ∃ next, Run size policy helper next ∧ Finishes helper next ∧
      next.queue.memory.Full size pos ∧
      next.pushing thread = none := by
  have ok := orderly.pushing thread isClient
  rw [isStage] at ok
  obtain ⟨msg, isPushing, -⟩ := ok
  let memory :=
    helper.queue.memory.setCell size pos
      { helper.queue.memory.cell size pos with sequence := pos + 1 }
  have run :
      Run size policy helper
        ((helper.advance thread .accepted memory .idle).afterEnqueue policy
          thread .accepted) :=
    Run.consEnqueue isClient .enqueueStore isStage nofun .refl
  have isNext :
      (helper.advance thread .accepted memory .idle).afterEnqueue policy
          thread .accepted =
        { helper.advance thread .accepted memory .idle with
          pushing := Function.update helper.pushing thread none
          returned := helper.returned ++ [⟨thread, msg⟩] } :=
    afterEnqueue_accepted isPushing
  rw [isNext] at run
  refine ⟨_, run, ⟨⟨rfl, ?_⟩, rfl, rfl, ?_⟩, ?_, ?_⟩
  · exact fun other _ => kept_accepted isPushing rfl rfl other
  · exact Function.update_of_ne isClient.symm _ _
  · exact congrArg Cell.sequence (Memory.cell_setCell_of_eq rfl)
  · exact Function.update_self thread none helper.pushing

/-- A step of a client that is not the end of a call. -/
theorem canAdvance
    (size : BufferSize)
    (policy : OverflowPolicy)
    {before stage : Stage Pushed}
    {memory : Memory Pushed}
    (isClient : thread ≠ workerThread)
    (isStage : helper.queue.threads thread = before)
    (busy : before ≠ .idle)
    (step :
      ThreadStep size helper.queue.memory before .silent memory stage) :
    ∃ next, Run size policy helper next ∧ Finishes helper next ∧
      next.queue.threads thread = stage ∧
      next.queue.memory = memory ∧
      next.pushing = helper.pushing := by
  have run :
      Run size policy helper (helper.advance thread .silent memory stage) :=
    Run.consEnqueue isClient step isStage busy .refl
  refine
    ⟨_, run, ⟨⟨rfl, fun _ _ => .inl ⟨rfl, rfl⟩⟩, rfl, rfl, ?_⟩, ?_, rfl, rfl⟩
  · exact Function.update_of_ne isClient.symm _ _
  · exact stage_advance _ _ _ _ _

theorem Finishes.refl (helper : AsyncLogHelper) : Finishes helper helper where
  toSettles := .refl helper
  worker := rfl
  returned := rfl
  stage := rfl

theorem Finishes.trans
    (first : Finishes helper middle)
    (second : Finishes middle next) :
    Finishes helper next where
  toSettles := first.toSettles.trans second.toSettles
  worker := second.worker.trans first.worker
  returned := second.returned.trans first.returned
  stage := second.stage.trans first.stage

/-- A client that has a ticket can return. -/
theorem Orderly.canReturn_of_enqueues
    (orderly : Orderly size helper)
    (policy : OverflowPolicy)
    (isClient : thread ≠ workerThread)
    (enqueues : (helper.queue.threads thread).Enqueues pos) :
    ∃ next, Run size policy helper next ∧ Finishes helper next ∧
      next.queue.memory.Full size pos ∧
      next.pushing thread = none := by
  cases isStage : helper.queue.threads thread with
  | enqueueStore ticket =>
      rw [isStage] at enqueues
      obtain rfl : ticket = pos := enqueues
      exact orderly.canStore policy isClient isStage
  | enqueueWrite data ticket =>
      rw [isStage] at enqueues
      obtain rfl : ticket = pos := enqueues
      obtain ⟨written, run, finishes, isNext, -⟩ :=
        canAdvance size policy isClient isStage nofun
          .enqueueWrite
      obtain ⟨next, more, finishesMore, full, isFree⟩ :=
        (orderly.run run).canStore policy isClient isNext
      exact
        ⟨next, run.trans more, finishes.trans finishesMore, full, isFree⟩
  | _ =>
      rw [isStage] at enqueues
      exact enqueues.elim

/-- The worker does not enqueue. -/
theorem Orderly.isClient_of_enqueues
    (orderly : Orderly size helper)
    (enqueues : (helper.queue.threads thread).Enqueues pos) :
    thread ≠ workerThread := by
  rintro rfl
  have popping := orderly.popping
  cases isStage : helper.queue.threads workerThread <;>
    rw [isStage] at popping enqueues <;>
    first
    | exact popping
    | exact enqueues

/-- The clients do not dequeue. -/
theorem Orderly.isWorker_of_dequeues
    (orderly : Orderly size helper)
    (dequeues : (helper.queue.threads thread).Dequeues pos) :
    thread = workerThread := by
  by_contra isClient
  have pushing := orderly.pushing thread isClient
  cases isStage : helper.queue.threads thread <;>
    rw [isStage] at pushing dequeues <;>
    first
    | exact pushing
    | exact dequeues

/-- A message with a ticket can get into its cell. -/
theorem Orderly.canFill
    (orderly : Orderly size helper)
    (policy : OverflowPolicy)
    (notTaken : helper.queue.memory.dequeuePos ≤ pos)
    (early : pos < helper.queue.memory.enqueuePos) :
    ∃ next, Run size policy helper next ∧ Finishes helper next ∧
      next.queue.memory.Full size pos := by
  rcases orderly.consistent.pending pos notTaken early with full |
    ⟨thread, enqueues⟩
  · exact ⟨helper, .refl, .refl helper, full⟩
  · obtain ⟨next, run, finishes, full, -⟩ :=
      orderly.canReturn_of_enqueues policy
        (orderly.isClient_of_enqueues enqueues) enqueues
    exact ⟨next, run, finishes, full⟩

/-! ## The worker -/

/-- The sinks do not throw, and the time for a flush has not come. -/
def quietSinks : SinkAnswers where
  throws := false
  timeToFlush := false

theorem status_process (worker : Worker) (pushed : Pushed) :
    (worker.process quietSinks pushed).status = worker.status := by
  unfold Worker.process
  split <;> rfl

theorem status_handleEmpty (worker : Worker) :
    (worker.handleEmpty quietSinks).status =
      if worker.terminateRequested then .ended else .running := by
  unfold Worker.handleEmpty
  dsimp only
  split <;> rfl

theorem stage_afterDequeue
    (helper : AsyncLogHelper)
    (event : MpmcBoundedQueue.Event Pushed)
    (memory : Memory Pushed)
    (stage : Stage Pushed) :
    ((helper.advance workerThread event memory stage).afterDequeue quietSinks
        event).queue.threads workerThread =
      stage := by
  rw [queue_afterDequeue]
  exact stage_advance _ _ _ _ _

/-- A step of the worker before its call of `dequeue` ends. -/
theorem canDequeue
    (size : BufferSize)
    (policy : OverflowPolicy)
    {event : MpmcBoundedQueue.Event Pushed}
    {before stage : Stage Pushed}
    {memory : Memory Pushed}
    (runs : helper.worker.status = .running)
    (isStage : helper.queue.threads workerThread = before)
    (busy : before ≠ .idle)
    (step : ThreadStep size helper.queue.memory before event memory stage)
    (goesOn : event = .silent ∨ ∃ pos, event = .taking pos) :
    ∃ next, Run size policy helper next ∧ Settles helper next ∧
      next.worker = helper.worker ∧
      next.queue.returned = helper.queue.returned ∧
      next.queue.threads workerThread = stage ∧
      next.queue.memory = memory := by
  have run :
      Run size policy helper
        ((helper.advance workerThread event memory stage).afterDequeue
          quietSinks event) :=
    Run.consDequeue quietSinks runs step isStage busy .refl
  rcases goesOn with rfl | ⟨pos, rfl⟩
  · exact
      ⟨_, run, ⟨rfl, fun _ _ => .inl ⟨rfl, rfl⟩⟩, rfl, rfl,
        stage_afterDequeue _ _ _ _, rfl⟩
  · exact
      ⟨_, run, ⟨rfl, fun _ _ => .inl ⟨rfl, rfl⟩⟩, rfl, rfl,
        stage_afterDequeue _ _ _ _, rfl⟩

/-- The end of a call of `dequeue` that has found something. -/
theorem canTake
    (size : BufferSize)
    (policy : OverflowPolicy)
    {data : Option Pushed}
    (runs : helper.worker.status = .running)
    (isStage : helper.queue.threads workerThread = .dequeueStore pos data) :
    ∃ next, Run size policy helper next ∧ Settles helper next ∧
      next.worker.status = .running ∧
      next.queue.returned.length = helper.queue.returned.length + 1 ∧
      next.queue.threads workerThread = .idle := by
  let memory :=
    helper.queue.memory.setCell size pos
      { helper.queue.memory.cell size pos with
        sequence := pos + size.bufferMask + 1 }
  have run :
      Run size policy helper
        ((helper.advance workerThread (.returned pos data) memory
          .idle).afterDequeue quietSinks (.returned pos data)) :=
    Run.consDequeue quietSinks runs .dequeueStore isStage nofun .refl
  cases data with
  | none =>
      exact
        ⟨_, run, ⟨rfl, fun _ _ => .inl ⟨rfl, rfl⟩⟩, runs,
          List.length_append,
          stage_afterDequeue _ _ _ _⟩
  | some pushed =>
      exact
        ⟨_, run, ⟨rfl, fun _ _ => .inl ⟨rfl, rfl⟩⟩,
          (status_process _ _).trans runs, List.length_append,
          stage_afterDequeue _ _ _ _⟩

/-- The end of a call of `dequeue` that has found nothing. -/
theorem canFindEmpty
    (size : BufferSize)
    (policy : OverflowPolicy)
    {seq : Nat}
    (runs : helper.worker.status = .running)
    (isStage : helper.queue.threads workerThread = .dequeueCheck pos seq)
    (less : seq < pos + 1) :
    ∃ next, Run size policy helper next ∧ Settles helper next ∧
      next.worker = helper.worker.handleEmpty quietSinks ∧
      next.queue.threads workerThread = .idle :=
  have run :
      Run size policy helper
        ((helper.advance workerThread .empty helper.queue.memory
          .idle).afterDequeue quietSinks .empty) :=
    Run.consDequeue quietSinks runs (.dequeueEmpty less) isStage nofun .refl
  ⟨_, run, ⟨rfl, fun _ _ => .inl ⟨rfl, rfl⟩⟩, rfl,
    stage_afterDequeue _ _ _ _⟩

/-- The worker is about to look at the next cell. -/
def Looks (helper : AsyncLogHelper) : Prop :=
  helper.worker.status = .running ∧
    ∃ pos, helper.queue.threads workerThread = .dequeueLoop pos

theorem canLook
    (size : BufferSize)
    (policy : OverflowPolicy)
    (runs : helper.worker.status = .running)
    (idle : helper.queue.threads workerThread = .idle) :
    ∃ next, Run size policy helper next ∧ Settles helper next ∧
      next.Looks ∧ next.queue.returned = helper.queue.returned := by
  refine
    ⟨_, .single (.dequeue runs idle), ⟨rfl, fun _ _ => .inl ⟨rfl, rfl⟩⟩,
      ⟨runs, helper.queue.memory.dequeuePos, ?_⟩, rfl⟩
  exact stage_advance _ _ _ _ _

/-- The worker takes a message and looks again. -/
theorem canTakeAndLook
    (size : BufferSize)
    (policy : OverflowPolicy)
    {data : Option Pushed}
    (runs : helper.worker.status = .running)
    (isStage : helper.queue.threads workerThread = .dequeueStore pos data) :
    ∃ next, Run size policy helper next ∧ Settles helper next ∧
      next.Looks ∧
      next.queue.returned.length = helper.queue.returned.length + 1 := by
  obtain ⟨taken, run, settles, stillRuns, length, idle⟩ :=
    canTake size policy runs isStage
  obtain ⟨next, more, settlesMore, looks, returned⟩ :=
    canLook size policy stillRuns idle
  exact
    ⟨next, run.trans more, settles.trans settlesMore, looks,
      (congrArg List.length returned).trans length⟩

theorem canReadAndLook
    (size : BufferSize)
    (policy : OverflowPolicy)
    (runs : helper.worker.status = .running)
    (isStage : helper.queue.threads workerThread = .dequeueRead pos) :
    ∃ next, Run size policy helper next ∧ Settles helper next ∧
      next.Looks ∧
      next.queue.returned.length = helper.queue.returned.length + 1 := by
  obtain ⟨read, run, settles, worker, returned, isNext, -⟩ :=
    canDequeue size policy runs isStage nofun
      .dequeueRead (.inl rfl)
  obtain ⟨next, more, settlesMore, looks, length⟩ :=
    canTakeAndLook size policy (worker.symm ▸ runs)
      isNext
  refine
    ⟨next, run.trans more, settles.trans settlesMore, looks, ?_⟩
  rw [length, returned]

/-- The worker takes the next message, if there is one. -/
theorem Orderly.canPop
    (orderly : Orderly size helper)
    (policy : OverflowPolicy)
    (looks : helper.Looks)
    (early :
      helper.queue.returned.length < helper.queue.enqueued.length) :
    ∃ next, Run size policy helper next ∧ Settles helper next ∧
      next.Looks ∧
      next.queue.returned.length = helper.queue.returned.length + 1 := by
  obtain ⟨runs, pos, isStage⟩ := looks
  have popping := orderly.popping
  rw [isStage] at popping
  obtain ⟨isPos, dequeuePos⟩ := popping
  rw [← isPos, orderly.consistent.length] at early
  have isNext := dequeuePos.trans isPos.symm
  obtain ⟨filled, fill, finishes, full⟩ :=
    orderly.canFill policy (Nat.le_of_eq isNext) early
  have isFilled := finishes.stage.trans isStage
  have stillRuns := finishes.worker.symm ▸ runs
  have popping := (orderly.run fill).popping
  rw [isFilled, finishes.returned] at popping
  have isCurrent : filled.queue.memory.dequeuePos = pos :=
    popping.2.trans popping.1.symm
  obtain ⟨loaded, load, settlesLoad, workerLoad, returnedLoad, isLoaded,
    memoryLoad⟩ :=
    canDequeue size policy stillRuns isFilled nofun
      .dequeueLoad (.inl rfl)
  rw [show (filled.queue.memory.cell size pos).sequence = pos + 1 from full]
    at isLoaded
  obtain ⟨claimed, exchange, settlesClaim, workerClaim, returnedClaim,
    isClaimed, -⟩ :=
    canDequeue size policy (workerLoad.symm ▸ stillRuns) isLoaded
      nofun (.dequeueExchange (memoryLoad.symm ▸ isCurrent))
      (.inr ⟨pos, rfl⟩)
  obtain ⟨next, read, settlesRead, looksAgain, length⟩ :=
    canReadAndLook size policy
      (workerClaim.symm ▸ workerLoad.symm ▸ stillRuns) isClaimed
  refine
    ⟨next, ((fill.trans load).trans exchange).trans read,
      ((finishes.toSettles.trans settlesLoad).trans settlesClaim).trans
        settlesRead,
      looksAgain, ?_⟩
  rw [length, returnedClaim, returnedLoad, finishes.returned]

/-- From every state the worker gets to look at the next cell, or it ends. -/
theorem Orderly.canLook
    (orderly : Orderly size helper)
    (policy : OverflowPolicy)
    (runs : helper.worker.status = .running) :
    ∃ next, Run size policy helper next ∧ Settles helper next ∧
      (next.Looks ∨
        next.worker.status = .ended) := by
  have popping := orderly.popping
  cases isStage : helper.queue.threads workerThread with
  | idle =>
      obtain ⟨next, run, settles, looks, -⟩ :=
        AsyncLogHelper.canLook size policy runs isStage
      exact ⟨next, run, settles, .inl looks⟩
  | dequeueLoop pos =>
      exact ⟨helper, .refl, .refl helper, .inl ⟨runs, pos, isStage⟩⟩
  | dequeueCheck pos seq =>
      rcases Nat.lt_trichotomy seq (pos + 1) with less | rfl | greater
      · obtain ⟨found, run, settles, worker, idle⟩ :=
          canFindEmpty size policy runs isStage less
        have status := status_handleEmpty helper.worker
        rw [← worker] at status
        split at status
        case isTrue => exact ⟨found, run, settles, .inr status⟩
        case isFalse =>
          obtain ⟨next, more, settlesMore, looks, -⟩ :=
            AsyncLogHelper.canLook size policy status
              idle
          exact
            ⟨next, run.trans more, settles.trans settlesMore, .inl looks⟩
      · obtain ⟨next, run, settles, worker, -, isNext, -⟩ :=
          canDequeue size policy runs isStage nofun
            .dequeueExchangeFails (.inl rfl)
        exact ⟨next, run, settles, .inl ⟨worker.symm ▸ runs, _, isNext⟩⟩
      · obtain ⟨next, run, settles, worker, -, isNext, -⟩ :=
          canDequeue size policy runs isStage nofun
            (.dequeueAgain greater) (.inl rfl)
        exact ⟨next, run, settles, .inl ⟨worker.symm ▸ runs, _, isNext⟩⟩
  | dequeueRead pos =>
      obtain ⟨next, run, settles, looks, -⟩ :=
        canReadAndLook size policy runs isStage
      exact ⟨next, run, settles, .inl looks⟩
  | dequeueStore pos data =>
      obtain ⟨next, run, settles, looks, -⟩ :=
        canTakeAndLook size policy runs isStage
      exact ⟨next, run, settles, .inl looks⟩
  | _ =>
      rw [isStage] at popping
      exact popping.elim

/-- The worker takes all messages that have tickets. -/
theorem Orderly.canDrain
    (orderly : Orderly size helper)
    (policy : OverflowPolicy)
    (looks : helper.Looks) :
    ∃ next, Run size policy helper next ∧ Settles helper next ∧
      next.Looks ∧
      next.queue.returned.length = helper.queue.enqueued.length := by
  obtain ⟨left, isLeft⟩ := Nat.le.dest orderly.popped_le
  induction left generalizing helper with
  | zero => exact ⟨helper, .refl, .refl helper, looks, isLeft⟩
  | succ left inductionHypothesis =>
      obtain ⟨popped, pop, settles, looks, length⟩ :=
        orderly.canPop policy looks (by omega)
      obtain ⟨next, run, settlesRun, looks, all⟩ :=
        inductionHypothesis (orderly.run pop) looks
          (by rw [length, settles.enqueued]; omega)
      refine
        ⟨next, pop.trans run, settles.trans settlesRun, looks, ?_⟩
      rw [all, settles.enqueued]

/-! ## An empty queue -/

/-- When all messages are taken, the next cell is free. -/
theorem Orderly.free_of_drained
    (orderly : Orderly size helper)
    (looks : helper.Looks)
    (drained :
      helper.queue.returned.length = helper.queue.enqueued.length) :
    helper.queue.memory.dequeuePos = helper.queue.memory.enqueuePos ∧
      helper.queue.memory.Free size helper.queue.memory.enqueuePos := by
  obtain ⟨runs, pos, isStage⟩ := looks
  have popping := orderly.popping
  rw [isStage] at popping
  have same :
      helper.queue.memory.dequeuePos = helper.queue.memory.enqueuePos := by
    rw [popping.2, drained, orderly.consistent.length]
  have large := size.two_le_bufferSize
  refine ⟨same, ?_⟩
  rcases orderly.consistent.vacant helper.queue.memory.enqueuePos
      (Nat.le_refl _) (by omega) with free | ⟨ticket, -, thread, dequeues⟩
  · exact free
  · obtain rfl := orderly.isWorker_of_dequeues dequeues
    rw [isStage] at dequeues
    exact dequeues.elim

/-- When all messages are taken, the worker finds that. -/
theorem Orderly.canFindDrained
    (orderly : Orderly size helper)
    (policy : OverflowPolicy)
    (looks : helper.Looks)
    (drained :
      helper.queue.returned.length = helper.queue.enqueued.length) :
    ∃ next, Run size policy helper next ∧ Settles helper next ∧
      next.worker = helper.worker.handleEmpty quietSinks := by
  obtain ⟨same, free⟩ := orderly.free_of_drained looks drained
  obtain ⟨runs, pos, isStage⟩ := looks
  have popping := orderly.popping
  rw [isStage] at popping
  have isPos : helper.queue.memory.enqueuePos = pos :=
    same.symm.trans (popping.2.trans popping.1.symm)
  rw [isPos] at free
  obtain ⟨loaded, load, settles, worker, -, isLoaded, -⟩ :=
    canDequeue size policy runs isStage nofun
      .dequeueLoad (.inl rfl)
  rw [show (helper.queue.memory.cell size pos).sequence = pos from free]
    at isLoaded
  obtain ⟨next, find, settlesFind, isNext, -⟩ :=
    canFindEmpty size policy (worker.symm ▸ runs)
      isLoaded pos.lt_succ_self
  exact
    ⟨next, load.trans find, settles.trans settlesFind, worker ▸ isNext⟩

theorem Orderly.exists_terminate
    (orderly : Orderly size helper)
    (ended : helper.worker.status = .ended) :
    ∃ pushed ∈ helper.queue.enqueued, pushed.msg = .terminate := by
  obtain ⟨requested, -⟩ := orderly.served.flushed ended
  obtain ⟨pushed, member, isTerminate⟩ :=
    orderly.served.terminates.mp requested
  have popped : helper.popped <+: helper.queue.enqueued :=
    List.take_prefix _ _
  exact ⟨pushed, popped.subset member, isTerminate⟩

/--
While the worker runs, and clients send nothing more: it can end if and only if
a message that ends it has a ticket.  A `terminate` that the queue has refused
and that is not pushed again leaves it running.
-/
theorem canEnd_iff
    (run : Run size policy new helper)
    (runs : helper.worker.status = .running) :
    (∃ next, Run size policy helper next ∧
        next.queue.enqueued = helper.queue.enqueued ∧
        next.worker.status = .ended) ↔
      ∃ pushed ∈ helper.queue.enqueued, pushed.msg = .terminate := by
  have orderly := orderly_new.run run
  constructor
  · rintro ⟨next, later, same, ended⟩
    rw [← same]
    exact (orderly.run later).exists_terminate ended
  · rintro ⟨pushed, member, isTerminate⟩
    obtain ⟨looked, look, settles, looks | ended⟩ :=
      orderly.canLook policy runs
    · obtain ⟨drained, drain, settlesDrain, looks, all⟩ :=
        (orderly.run look).canDrain policy looks
      have orderlyDrained := (orderly.run look).run drain
      have same := settlesDrain.enqueued.trans settles.enqueued
      have allTaken :
          drained.queue.returned.length = drained.queue.enqueued.length := by
        rw [all, settlesDrain.enqueued]
      have popped : drained.popped = helper.queue.enqueued := by
        rw [AsyncLogHelper.popped, allTaken, List.take_length, same]
      have requested : drained.worker.terminateRequested = true :=
        orderlyDrained.served.terminates.mpr
          ⟨pushed, popped ▸ member, isTerminate⟩
      obtain ⟨next, find, settlesFind, worker⟩ :=
        orderlyDrained.canFindDrained policy looks allTaken
      refine
        ⟨next, (look.trans drain).trans find,
          settlesFind.enqueued.trans same, ?_⟩
      rw [worker, status_handleEmpty, if_pos requested]
    · exact ⟨looked, look, settles.enqueued, ended⟩

/-- A client has pushed a `terminate`, and the worker has not taken it yet. -/
theorem exists_run_terminates :
    ∃ helper : AsyncLogHelper,
      Run ⟨1, Nat.one_pos⟩ .discardLogMsg new helper ∧
        helper.worker.status = .running ∧
        helper.queue.enqueued = [⟨1, .terminate⟩] := by
  apply Exists.intro
  constructor
  · apply Run.consPush (Nat.succ_ne_zero 0) rfl rfl rfl rfl .terminate
    apply Run.consEnqueue (Nat.succ_ne_zero 0) .enqueueLoad rfl nofun
    apply Run.consEnqueue (Nat.succ_ne_zero 0) (.enqueueExchange rfl) rfl nofun
    exact .refl
  · exact ⟨rfl, rfl⟩

theorem canEnd_iff_terminates :
    ∃ helper next : AsyncLogHelper,
      Run ⟨1, Nat.one_pos⟩ .discardLogMsg new helper ∧
        Run ⟨1, Nat.one_pos⟩ .discardLogMsg helper next ∧
        helper.worker.status = .running ∧
        next.worker.status = .ended := by
  obtain ⟨helper, run, runs, enqueued⟩ := exists_run_terminates
  have hasTicket :
      ∃ pushed ∈ helper.queue.enqueued, pushed.msg = .terminate := by
    rw [enqueued]
    exact ⟨_, List.mem_cons_self, rfl⟩
  obtain ⟨next, later, -, ended⟩ := (canEnd_iff run runs).mpr hasTicket
  exact ⟨helper, next, run, later, runs, ended⟩

/-! ## Calls that block -/

/-- The client is at the start of its loop, with the newest position. -/
structure Retries
    (thread : Nat)
    (helper next : AsyncLogHelper) :
    Prop where
  pushing : next.pushing = helper.pushing
  clients : ∀ other, other ≠ workerThread → Kept other helper next
  memory : next.queue.memory = helper.queue.memory
  stage :
    ∃ data, next.queue.threads thread =
      .enqueueLoop data helper.queue.memory.enqueuePos

theorem retries_of_idle
    (size : BufferSize)
    (policy : OverflowPolicy)
    {msg : AsyncMsg}
    (isClient : thread ≠ workerThread)
    (isPushing : helper.pushing thread = some msg)
    (idle : helper.queue.threads thread = .idle) :
    ∃ next, Run size policy helper next ∧ Retries thread helper next :=
  ⟨_, .single (.enqueue isClient isPushing idle), rfl,
    fun _ _ => .inl ⟨rfl, rfl⟩, rfl, _, stage_advance _ _ _ _ _⟩

/-- What a thread compares does not keep it from its loop. -/
theorem retries_of_check
    (size : BufferSize)
    {msg : AsyncMsg}
    {data : Pushed}
    {seq : Nat}
    (isClient : thread ≠ workerThread)
    (isPushing : helper.pushing thread = some msg)
    (isStage : helper.queue.threads thread = .enqueueCheck data pos seq) :
    ∃ next, Run size .blockRetry helper next ∧
      Retries thread helper next := by
  rcases Nat.lt_trichotomy seq pos with less | rfl | greater
  · let refused := helper.advance thread .refused helper.queue.memory .idle
    have again :
        refused.afterEnqueue .blockRetry thread .refused = refused := by
      unfold afterEnqueue
      rw [show refused.pushing thread = some msg from isPushing]
    have refuse :
        Run size .blockRetry helper
          (refused.afterEnqueue .blockRetry thread .refused) :=
      Run.consEnqueue isClient (.enqueueFull less) isStage nofun .refl
    rw [again] at refuse
    have stillPushing : refused.pushing thread = some msg := isPushing
    obtain ⟨next, retry, retries⟩ :=
      retries_of_idle size .blockRetry isClient stillPushing
        (stage_advance _ _ _ _ _)
    exact
      ⟨next, refuse.trans retry, retries.pushing, retries.clients,
        retries.memory, retries.stage⟩
  · obtain ⟨next, run, finishes, stage, memory, pushing⟩ :=
      canAdvance size .blockRetry isClient isStage nofun
        .enqueueExchangeFails
    exact ⟨next, run, pushing, finishes.clients, memory, _, stage⟩
  · obtain ⟨next, run, finishes, stage, memory, pushing⟩ :=
      canAdvance size .blockRetry isClient isStage nofun
        (.enqueueAgain greater)
    exact ⟨next, run, pushing, finishes.clients, memory, _, stage⟩

/-- A client without a ticket begins its loop again. -/
theorem Orderly.canRetry
    {msg : AsyncMsg}
    (orderly : Orderly size helper)
    (isClient : thread ≠ workerThread)
    (isPushing : helper.pushing thread = some msg)
    (noTicket : ∀ pos, ¬ (helper.queue.threads thread).Enqueues pos) :
    ∃ next, Run size .blockRetry helper next ∧
      Retries thread helper next := by
  have ok := orderly.pushing thread isClient
  cases isStage : helper.queue.threads thread with
  | idle => exact retries_of_idle size .blockRetry isClient isPushing isStage
  | enqueueLoop data pos =>
      obtain ⟨loaded, load, finishes, stage, memory, pushing⟩ :=
        canAdvance size .blockRetry isClient isStage nofun
          .enqueueLoad
      have stillPushing : loaded.pushing thread = some msg := by
        rw [pushing]
        exact isPushing
      obtain ⟨next, run, retries⟩ :=
        retries_of_check size isClient stillPushing stage
      refine
        ⟨next, load.trans run, retries.pushing.trans pushing, ?_,
          retries.memory.trans memory, ?_⟩
      · intro other isClient
        exact
          (finishes.clients other isClient).trans
            (retries.clients other isClient)
      · rw [← memory]
        exact retries.stage
  | enqueueCheck data pos seq =>
      exact retries_of_check size isClient isPushing isStage
  | enqueueWrite data pos | enqueueStore pos =>
      rw [isStage] at noTicket
      exact absurd rfl (noTicket pos)
  | _ =>
      rw [isStage] at ok
      exact ok.elim

/-- A client returns when the cell for the next ticket is free. -/
theorem Orderly.canReturn_of_free
    {data : Pushed}
    (orderly : Orderly size helper)
    (policy : OverflowPolicy)
    (isClient : thread ≠ workerThread)
    (isStage : helper.queue.threads thread = .enqueueLoop data pos)
    (isCurrent : helper.queue.memory.enqueuePos = pos)
    (free : helper.queue.memory.Free size pos) :
    ∃ next, Run size policy helper next ∧ next.pushing thread = none ∧
      ∀ other, other ≠ workerThread → Kept other helper next := by
  obtain ⟨loaded, load, finishes, stage, memory, -⟩ :=
    canAdvance size policy isClient isStage nofun
      .enqueueLoad
  rw [show (helper.queue.memory.cell size pos).sequence = pos from free]
    at stage
  have exchange :
      Run size policy loaded
        (loaded.advance thread (.claimed data)
          { loaded.queue.memory with enqueuePos := pos + 1 }
          (.enqueueWrite data pos)) :=
    Run.consEnqueue isClient (.enqueueExchange (memory.symm ▸ isCurrent))
      stage nofun .refl
  have enqueues :
      ((loaded.advance thread (.claimed data)
          { loaded.queue.memory with enqueuePos := pos + 1 }
          (.enqueueWrite data pos)).queue.threads thread).Enqueues pos := by
    rw [stage_advance]
    rfl
  have orderlyClaimed := (orderly.run load).run exchange
  obtain ⟨next, store, finishesStore, -, isFree⟩ :=
    orderlyClaimed.canReturn_of_enqueues policy isClient enqueues
  refine ⟨next, (load.trans exchange).trans store, isFree, ?_⟩
  intro other isClient
  exact
    (finishes.clients other isClient).trans
      (finishesStore.clients other isClient)

/-- Wherever a client is, it can return when there is a free cell. -/
theorem Orderly.canReturn
    (orderly : Orderly size helper)
    (isClient : thread ≠ workerThread)
    (free :
      helper.queue.memory.Free size helper.queue.memory.enqueuePos) :
    ∃ next, Run size .blockRetry helper next ∧
      next.pushing thread = none ∧
      ∀ other, other ≠ workerThread → Kept other helper next := by
  cases isPushing : helper.pushing thread with
  | none =>
      exact ⟨helper, .refl, isPushing, (Settles.refl helper).clients⟩
  | some msg =>
      by_cases ticket : ∃ pos, (helper.queue.threads thread).Enqueues pos
      · obtain ⟨pos, enqueues⟩ := ticket
        obtain ⟨next, run, finishes, -, isFree⟩ :=
          orderly.canReturn_of_enqueues .blockRetry isClient
            enqueues
        exact ⟨next, run, isFree, finishes.clients⟩
      · obtain ⟨retried, retry, retries⟩ :=
          orderly.canRetry isClient isPushing (not_exists.mp ticket)
        obtain ⟨data, isStage⟩ := retries.stage
        rw [← retries.memory] at free isStage
        obtain ⟨next, run, isFree, clients⟩ :=
          (orderly.run retry).canReturn_of_free .blockRetry
            isClient isStage rfl free
        refine ⟨next, retry.trans run, isFree, fun other isClient => ?_⟩
        exact (retries.clients other isClient).trans (clients other isClient)

/--
While the worker runs and no message that ends it has a ticket, a call that
blocks can return: from every state there is a way to one in which its message
has been accepted, and the calls of other clients go on or have returned.
-/
theorem push_canReturn
    {msg : AsyncMsg}
    (run : Run size .blockRetry new helper)
    (runs : helper.worker.status = .running)
    (noTerminate :
      ∀ pushed ∈ helper.queue.enqueued, pushed.msg ≠ .terminate)
    (isClient : thread ≠ workerThread)
    (isPushing : helper.pushing thread = some msg) :
    ∃ next, Run size .blockRetry helper next ∧
      next.pushing thread = none ∧
      next.accepted thread = helper.accepted thread ++ [msg] ∧
      ∀ other, other ≠ workerThread → Kept other helper next := by
  have orderly := orderly_new.run run
  obtain ⟨looked, look, settles, looks | ended⟩ :=
    orderly.canLook .blockRetry runs
  · obtain ⟨drained, drain, settlesDrain, looks, all⟩ :=
      (orderly.run look).canDrain .blockRetry looks
    have orderlyDrained := (orderly.run look).run drain
    have toDrained := settles.trans settlesDrain
    have allTaken :
        drained.queue.returned.length = drained.queue.enqueued.length := by
      rw [all, settlesDrain.enqueued]
    obtain ⟨-, free⟩ := orderlyDrained.free_of_drained looks allTaken
    obtain ⟨next, back, isFree, clients⟩ :=
      orderlyDrained.canReturn isClient free
    have kept :
        ∀ other, other ≠ workerThread → Kept other helper next :=
      fun other isClient =>
        (toDrained.clients other isClient).trans (clients other isClient)
    exact
      ⟨next, (look.trans drain).trans back, isFree,
        (kept thread isClient).hasReturned isPushing isFree, kept⟩
  · obtain ⟨pushed, member, isTerminate⟩ :=
      (orderly.run look).exists_terminate ended
    rw [settles.enqueued] at member
    exact absurd isTerminate (noTerminate pushed member)

/-- One client has filled the queue, and another one pushes a message. -/
theorem exists_run_full :
    ∃ helper : AsyncLogHelper,
      Run ⟨1, Nat.one_pos⟩ .blockRetry new helper ∧
        helper.worker.status = .running ∧
        helper.queue.enqueued = [⟨1, .flush⟩, ⟨1, .flush⟩] ∧
        helper.queue.returned = [] ∧
        helper.queue.threads 2 =
          .enqueueCheck
            ⟨2, .log ⟨"radar".toList, .info, 0, 2, "started".toList⟩⟩ 2 1 ∧
        helper.pushing 2 =
          some (.log ⟨"radar".toList, .info, 0, 2, "started".toList⟩) ∧
        helper.accepted 2 = [] := by
  apply Exists.intro
  constructor
  · apply Run.consPush (Nat.succ_ne_zero 0) rfl rfl rfl rfl .flush
    apply Run.consEnqueue (Nat.succ_ne_zero 0) .enqueueLoad rfl nofun
    apply Run.consEnqueue (Nat.succ_ne_zero 0) (.enqueueExchange rfl) rfl nofun
    apply Run.consEnqueue (Nat.succ_ne_zero 0) .enqueueWrite rfl nofun
    apply Run.consEnqueue (Nat.succ_ne_zero 0) .enqueueStore rfl nofun
    apply Run.consPush (Nat.succ_ne_zero 0) rfl rfl rfl rfl .flush
    apply Run.consEnqueue (Nat.succ_ne_zero 0) .enqueueLoad rfl nofun
    apply Run.consEnqueue (Nat.succ_ne_zero 0) (.enqueueExchange rfl) rfl nofun
    apply Run.consEnqueue (Nat.succ_ne_zero 0) .enqueueWrite rfl nofun
    apply Run.consEnqueue (Nat.succ_ne_zero 0) .enqueueStore rfl nofun
    apply Run.consPush (Nat.succ_ne_zero 1) rfl rfl rfl rfl
      (.log ⟨"radar".toList, .info, 0, 2, "started".toList⟩)
    apply Run.consEnqueue (Nat.succ_ne_zero 1) .enqueueLoad rfl nofun
    exact .refl
  · exact ⟨rfl, rfl, rfl, rfl, rfl, rfl⟩

/-- The call in the full queue can return, and its message is accepted. -/
theorem push_canReturn_full :
    ∃ helper next : AsyncLogHelper,
      Run ⟨1, Nat.one_pos⟩ .blockRetry new helper ∧
        helper.queue.enqueued.length = helper.queue.returned.length + 2 ∧
        helper.accepted 2 = [] ∧
        Run ⟨1, Nat.one_pos⟩ .blockRetry helper next ∧
        next.accepted 2 =
          [.log ⟨"radar".toList, .info, 0, 2, "started".toList⟩] := by
  obtain
    ⟨helper, run, runs, enqueued, returned, -, isPushing, accepted⟩ :=
      exists_run_full
  have noTerminate :
      ∀ pushed ∈ helper.queue.enqueued, pushed.msg ≠ .terminate := by
    rw [enqueued]
    decide
  obtain ⟨next, later, -, isAccepted, -⟩ :=
    push_canReturn run runs noTerminate (Nat.succ_ne_zero 1) isPushing
  rw [accepted] at isAccepted
  refine ⟨helper, next, run, ?_, accepted, later, isAccepted⟩
  rw [enqueued, returned]
  rfl

end Radar.AsyncLogHelper
