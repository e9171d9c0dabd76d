import Radar.ModelEngine
import Radar.PriorityPolls

namespace Radar

/-!
# Delivery of simulation events

The engine polls its event queue at multiples of its time step.  An event is
delivered only if no event that lies at no such multiple is due before it.  The
events that the engine is built with all lie at multiples, so its stop event
is delivered and ends the loop.
-/

open Settings

/-! ## Polls -/

/-- Calls of `get_events` at the times 0, `step`, 2 `step` and so on. -/
structure Polling where
  step : UInt64
  count : Nat
  inRange : ∀ call, call < count → call * step.toNat < 2 ^ 64

namespace Polling

/-- The times of the calls. -/
def times (polling : Polling) : List UInt64 :=
  (List.range polling.count).map fun call =>
    UInt64.ofNat (call * polling.step.toNat)

/-- The times of the calls as numbers of nanoseconds. -/
theorem map_toNat_times (polling : Polling) :
    polling.times.map UInt64.toNat =
      (List.range polling.count).map (· * polling.step.toNat) := by
  rw [times, List.map_map]
  refine List.map_congr_left fun call member => ?_
  exact UInt64.toNat_ofNat_of_lt'
    (polling.inRange call (List.mem_range.mp member))

/-- A time is polled as itself or as its number of nanoseconds. -/
theorem toNat_mem_times_iff
    {polling : Polling}
    {time : UInt64} :
    time.toNat ∈ polling.times.map UInt64.toNat ↔ time ∈ polling.times :=
  List.mem_map_of_injective fun _ _ => UInt64.toNat_inj.mp

/-- The times ascend. -/
theorem pairwise_times (polling : Polling) :
    (polling.times.map UInt64.toNat).Pairwise (· ≤ ·) := by
  rw [map_toNat_times, List.pairwise_map]
  exact List.pairwise_lt_range.imp fun before =>
    Nat.mul_le_mul_right _ before.le

/-- Before a polled time exactly the multiples of the step are polled. -/
theorem mem_times_iff_of_lt
    {polling : Polling}
    {time earlier : UInt64}
    (polled : time ∈ polling.times)
    (before : earlier < time) :
    earlier ∈ polling.times ↔ polling.step.toNat ∣ earlier.toNat := by
  rw [← toNat_mem_times_iff, map_toNat_times, List.mem_map] at polled ⊢
  obtain ⟨call, inRow, isTime⟩ := polled
  have beforeNat := UInt64.lt_iff_toNat_lt.mp before
  constructor
  · rintro ⟨other, -, isEarlier⟩
    exact ⟨other, isEarlier ▸ Nat.mul_comm ..⟩
  · rintro ⟨other, isEarlier⟩
    have smaller : other < call := by
      rw [← isTime, isEarlier, Nat.mul_comm] at beforeNat
      exact Nat.lt_of_mul_lt_mul_right beforeNat
    refine ⟨other, ?_, isEarlier ▸ Nat.mul_comm ..⟩
    exact List.mem_range.mpr (smaller.trans (List.mem_range.mp inRow))

end Polling

namespace EventQueue

/-- A row of calls of `get_events`, and the queue that it leaves. -/
def polled
    (queues : EventQueue) :
    List UInt64 →
    queues.Carrier →
    List (List Event) × queues.Carrier
  | [], queue => ([], queue)
  | time :: later, queue =>
      let events := queues.getEvents queue time
      let rest := polled queues later events.2
      (events.1 :: rest.1, rest.2)

/-- Calls of `get_events` are polls of the priority queue. -/
theorem polled_eq_polls
    (queues : EventQueue)
    (times : List UInt64)
    (queue : queues.Carrier) :
    polled queues times queue =
      queues.polls (times.map UInt64.toNat) queue := by
  induction times generalizing queue with
  | nil =>
      rfl
  | cons time later inductionHypothesis =>
      have sameTest :
          (fun event : Event => decide (event.triggerTime = time)) =
            fun event => decide (event.time = time.toNat) := by
        funext event
        exact decide_eq_decide.mpr UInt64.toNat_inj.symm
      rw [polled, List.map_cons, PriorityQueue.polls, getEvents, sameTest,
        inductionHypothesis]

/--
Every event whose trigger time is polled is returned by a call at that time,
and exactly once.
-/
structure DeliversAll
    (queues : EventQueue)
    (events : List Event)
    (polling : Polling) :
    Prop where
  atItsTime :
    List.Forall₂
      (fun time returned => ∀ event ∈ returned, event.triggerTime = time)
      polling.times
      (polled queues polling.times (queues.pushAll queues.empty events)).1
  once :
    (polled queues polling.times
        (queues.pushAll queues.empty events)).1.flatten.Perm
      (events.filter fun event => event.triggerTime ∈ polling.times)

/-- The events of a queue to which they have been added one by one. -/
theorem items_pushAll_empty
    (queues : EventQueue)
    (events : List Event) :
    (queues.items (queues.pushAll queues.empty events)).Perm events := by
  have pushed := queues.items_pushAll queues.empty events
  rwa [queues.items_empty, List.append_nil] at pushed

/-- A call returns events of its time only. -/
theorem forall₂_polled
    (queues : EventQueue)
    (times : List UInt64)
    (queue : queues.Carrier) :
    List.Forall₂
      (fun time returned => ∀ event ∈ returned, event.triggerTime = time)
      times (polled queues times queue).1 := by
  have atTimes := queues.forall₂_polls (times.map UInt64.toNat) queue
  rw [List.forall₂_map_left_iff, ← polled_eq_polls] at atTimes
  exact atTimes.imp fun _ _ same event member =>
    UInt64.toNat_inj.mp (same event member)

/--
All polled events are delivered exactly if the events that are due before one
of them lie at multiples of the step.
-/
theorem deliversAll_iff
    (queues : EventQueue)
    (events : List Event)
    (polling : Polling) :
    DeliversAll queues events polling ↔
      ∀ event ∈ events, event.triggerTime ∈ polling.times →
        ∀ earlier ∈ events, earlier.triggerTime < event.triggerTime →
          polling.step.toNat ∣ earlier.triggerTime.toNat := by
  have held := items_pushAll_empty queues events
  have sameTest :
      (fun event : Event => decide (event.triggerTime ∈ polling.times)) =
        fun event =>
          decide (event.time ∈ polling.times.map UInt64.toNat) := by
    funext event
    exact decide_eq_decide.mpr Polling.toNat_mem_times_iff.symm
  have delivered := queues.polls_flatten_perm_iff polling.pairwise_times
    (queues.pushAll queues.empty events)
  rw [← polled_eq_polls, ← sameTest] at delivered
  have hidden :
      PriorityQueue.NoneHidden Event.time
          (queues.items (queues.pushAll queues.empty events))
          (polling.times.map UInt64.toNat) ↔
        ∀ event ∈ events, event.triggerTime ∈ polling.times →
          ∀ earlier ∈ events, earlier.triggerTime < event.triggerTime →
            polling.step.toNat ∣ earlier.triggerTime.toNat := by
    unfold PriorityQueue.NoneHidden
    simp only [held.mem_iff]
    refine forall₂_congr fun event _ => ?_
    rw [Event.time, Polling.toNat_mem_times_iff]
    refine forall_congr' fun polled => forall₂_congr fun earlier _ => ?_
    rw [Event.time, Polling.toNat_mem_times_iff, ← UInt64.lt_iff_toNat_lt]
    exact forall_congr' fun before =>
      Polling.mem_times_iff_of_lt polled before
  rw [← hidden, ← delivered]
  constructor
  · intro all
    exact all.once.trans (held.filter _).symm
  · intro once
    exact ⟨forall₂_polled queues _ _, once.trans (held.filter _)⟩

end EventQueue

/-! ## The events of the engine -/

/-- A new query; its dynamic priority is zero. -/
def Query.new
    (queryType : QueryType)
    (queryId : UInt32)
    (queryK queryThreshold : Rat)
    (queryTime : UInt64)
    (estimateRange estimateRcs : Rat)
    (activeState : Bool) :
    Query where
  type := queryType
  id := queryId
  k := queryK
  pThreshold := queryThreshold
  tPrev := queryTime
  range := estimateRange
  rcs := estimateRcs
  active := activeState

namespace ModelEngine

/-- A search query at time zero. -/
def searchQuery (id : UInt32) (range rcs : Rat) : Query :=
  .new .search id searchQuerySpeed searchQueryThreshold 0 range rcs true

/-- A query to confirm a target. -/
def confirmQuery
    (id : UInt32)
    (time : UInt64)
    (range rcs : Rat) :
    Query :=
  .new .confirm id confirmQuerySpeed confirmQueryThreashold time range rcs
    true

/-- A query to drop a target. -/
def dropQuery (id : UInt32) : Query :=
  .new .drop id trackingQuerySpeed trackingQueryThreashold 1000000000 0 0 true

/-- The event that stops the engine. -/
def stopEvent : Event where
  triggerTime := 15000000000
  exec queries := queries
  stops := true

/-- The events that the constructor adds. -/
def events : List Event :=
  [{ triggerTime := 0
     exec := fun queries =>
      queries ++
        [searchQuery 1000 2000000 15, searchQuery 2000 1000000 50,
          searchQuery 3000 2100000 50,
          .new .techControl 100 techControlSpeed techControlThreshold 0 0 0
            true] },
    { triggerTime := 10000000
      exec := fun queries =>
        queries ++ [confirmQuery 1001 10000000 2000000 15] },
    { triggerTime := 100000000
      exec := fun queries =>
        queries ++
          [confirmQuery 2001 100000000 1000000 50,
            confirmQuery 3001 100000000 1000000 50,
            confirmQuery 4001 100000000 2100000 50] },
    { triggerTime := 1000000000
      exec := fun queries =>
        queries ++
          [dropQuery 1003, dropQuery 2003, dropQuery 3003, dropQuery 4003,
            dropQuery 1000, dropQuery 2000, dropQuery 3000] },
    stopEvent]

/-- All of these events lie at multiples of the time step. -/
theorem dvd_time_of_mem_events :
    ∀ event ∈ events, timeStep.toNat ∣ event.time := by
  simp only [events, List.forall_mem_cons]
  exact ⟨by decide, by decide, by decide, by decide, by decide, by simp⟩

/-- Of these events only the one at 15 s stops the engine. -/
theorem stops_iff_of_mem_events :
    ∀ event ∈ events, event.stops = true ↔ event.time = 15000000000 := by
  simp only [events, List.forall_mem_cons]
  exact ⟨by decide, by decide, by decide, by decide, by decide, by simp⟩

section Run

variable
  {commandQueues : CommandQueue}
  {eventQueues : EventQueue}
  (platform : Scheduler.Platform)

/-- The engine that the constructor builds, when its loop starts. -/
def start : ModelEngine commandQueues eventQueues :=
  .new (eventQueues.pushAll eventQueues.empty events)

/-- The engine at a step of its run, with the events that are still due. -/
structure AtStep
    (count : Nat)
    (engine : ModelEngine commandQueues eventQueues) :
    Prop where
  modelTime : engine.modelTime.toNat = count * 1000000
  queued :
    (eventQueues.items engine.evQueue).Perm
      (events.filter fun event => count * 1000000 ≤ event.time)

theorem atStep_start :
    AtStep 0 (start : ModelEngine commandQueues eventQueues) where
  modelTime := rfl
  queued := by
    rw [List.filter_eq_self.mpr (by simp)]
    exact EventQueue.items_pushAll_empty eventQueues events

namespace AtStep

variable
  {count : Nat}
  {engine : ModelEngine commandQueues eventQueues}

/-- The poll of a step returns the events of its time and leaves later ones. -/
theorem getEvents_perm (atStep : AtStep count engine) :
    (eventQueues.getEvents engine.evQueue engine.modelTime).1.Perm
        (events.filter fun event => event.time = count * 1000000) ∧
      (eventQueues.items
          (eventQueues.getEvents engine.evQueue engine.modelTime).2).Perm
        (events.filter fun event => count * 1000000 < event.time) := by
  have sameTest :
      (fun event : Event => decide (event.triggerTime = engine.modelTime)) =
        fun event => decide (event.time = count * 1000000) := by
    funext event
    rw [← atStep.modelTime]
    exact decide_eq_decide.mpr UInt64.toNat_inj.symm
  have least :
      ∀ event ∈ eventQueues.items engine.evQueue,
        count * 1000000 ≤ event.time := by
    intro event member
    simpa using (List.mem_filter.mp (atStep.queued.mem_iff.mp member)).2
  obtain ⟨taken, left⟩ := PriorityQueue.popWhile_perm_of_least least
  rw [EventQueue.getEvents, sameTest]
  refine ⟨taken.trans ?_, left.trans ?_⟩
  · refine (atStep.queued.filter _).trans (.of_eq ?_)
    rw [List.filter_filter]
    refine List.filter_congr fun event _ => ?_
    rw [← Bool.decide_and, decide_eq_decide]
    omega
  · refine (atStep.queued.filter _).trans (.of_eq ?_)
    rw [List.filter_filter]
    refine List.filter_congr fun event _ => ?_
    rw [← Bool.decide_and, decide_eq_decide]
    omega

/-- A step leads to the next one. -/
theorem step
    (atStep : AtStep count engine)
    (inRun : count ≤ 15000) :
    AtStep (count + 1) (engine.step platform).1 where
  modelTime := by
    change (engine.modelTime + timeStep).toNat = _
    have stepLength : timeStep.toNat = 1000000 := rfl
    rw [UInt64.toNat_add, atStep.modelTime, stepLength]
    omega
  queued := by
    refine atStep.getEvents_perm.2.trans (.of_eq ?_)
    refine List.filter_congr fun event member => ?_
    obtain ⟨multiple, isMultiple⟩ := dvd_time_of_mem_events event member
    have stepLength : timeStep.toNat = 1000000 := rfl
    rw [stepLength] at isMultiple
    rw [decide_eq_decide, isMultiple]
    omega

/-- A step stops the engine exactly at 15 s. -/
theorem running_step
    (atStep : AtStep count engine)
    (isRunning : engine.running = true) :
    (engine.step platform).1.running = decide (count ≠ 15000) := by
  have stopped :
      (eventQueues.getEvents engine.evQueue engine.modelTime).1.any
          Event.stops = decide (count = 15000) := by
    rw [atStep.getEvents_perm.1.any_eq, List.any_filter, Bool.eq_iff_iff,
      List.any_eq_true, decide_eq_true_eq]
    constructor
    · rintro ⟨event, member, both⟩
      obtain ⟨isNow, stops⟩ := Bool.and_eq_true_iff.mp both
      have atEnd := (stops_iff_of_mem_events event member).mp stops
      rw [decide_eq_true_eq] at isNow
      omega
    · rintro rfl
      exact ⟨stopEvent, by simp [events], by decide⟩
  change (engine.running &&
    !(eventQueues.getEvents engine.evQueue engine.modelTime).1.any
      Event.stops) = _
  rw [isRunning, stopped, Bool.true_and, decide_not]

end AtStep

/-- From any of its steps the engine runs up to the one at 15 s. -/
theorem steps_of_atStep
    (more : Nat)
    {count : Nat}
    {engine : ModelEngine commandQueues eventQueues}
    (atStep : AtStep (15000 - count) engine)
    (inRun : count ≤ 15000)
    (isRunning : engine.running = true) :
    (steps platform (count + 1 + more) engine).length = count + 1 ∧
      ∃ state ∈ (steps platform (count + 1 + more) engine).getLast?,
        AtStep 15000 state := by
  induction count generalizing engine with
  | zero =>
      have stops := atStep.running_step platform isRunning
      have ended :
          steps platform more (engine.step platform).1 = [] := by
        cases more <;> simp [steps, stops]
      rw [Nat.zero_add, Nat.add_comm, steps, if_pos isRunning, ended]
      exact ⟨rfl, engine, rfl, atStep⟩
  | succ count inductionHypothesis =>
      have next := atStep.step platform (by omega)
      have goesOn := atStep.running_step platform isRunning
      rw [show 15000 - (count + 1) + 1 = 15000 - count by omega] at next
      rw [decide_eq_true (by omega : 15000 - (count + 1) ≠ 15000)] at goesOn
      obtain ⟨length, state, isLast, atEnd⟩ :=
        inductionHypothesis next (by omega) goesOn
      rw [Nat.add_right_comm, steps, if_pos isRunning]
      refine ⟨by rw [List.length_cons, length], state, ?_, atEnd⟩
      rw [List.getLast?_cons, Option.mem_def.mp isLast]
      rfl

end Run

/--
Polls at the multiples of a step deliver all events of the polled times, each
once, exactly if every event that is due before one of them lies at a multiple
of the step.  The events of the engine do, so that at 15 s of model time its
loop receives the stop event and ends.
-/
theorem events_delivered_iff
    (queues : EventQueue)
    (queued : List Event)
    (polling : Polling)
    (commandQueues : CommandQueue)
    (eventQueues : EventQueue)
    (platform : Scheduler.Platform)
    (more : Nat) :
    (EventQueue.DeliversAll queues queued polling ↔
      ∀ event ∈ queued, event.triggerTime ∈ polling.times →
        ∀ earlier ∈ queued, earlier.triggerTime < event.triggerTime →
          polling.step.toNat ∣ earlier.triggerTime.toNat) ∧
      let run := steps platform (15001 + more)
        (start : ModelEngine commandQueues eventQueues)
      run.length = 15001 ∧
        ∃ state ∈ run.getLast?,
          state.modelTime = stopEvent.triggerTime ∧
            stopEvent ∈
              (eventQueues.getEvents state.evQueue state.modelTime).1 := by
  refine ⟨EventQueue.deliversAll_iff queues queued polling, ?_⟩
  have atStart :
      AtStep (15000 - 15000) (start : ModelEngine commandQueues eventQueues) :=
    atStep_start
  obtain ⟨length, state, isLast, atEnd⟩ :=
    steps_of_atStep platform more atStart (Nat.le_refl _) rfl
  refine ⟨length, state, isLast, ?_, ?_⟩
  · exact UInt64.toNat_inj.mp atEnd.modelTime
  · refine atEnd.getEvents_perm.1.mem_iff.mpr (List.mem_filter.mpr ⟨?_, ?_⟩)
    · simp [events]
    · decide

/-- An event one nanosecond after the start. -/
def earlyEvent : Event where
  triggerTime := 1
  exec queries := queries

/-- The calls of the first two steps of the engine. -/
def twoSteps : Polling where
  step := timeStep
  count := 2
  inRange call first := by
    have stepLength : timeStep.toNat = 1000000 := rfl
    rw [stepLength]
    omega

/-- An event between two steps keeps an event of the second from delivery. -/
theorem earlyEvent_hides :
    ¬ ∀ (queues : EventQueue) (events : List Event) (polling : Polling),
      EventQueue.DeliversAll queues events polling := by
  intro claim
  have delivered :=
    claim (.sortedList Event.time)
      [earlyEvent, { stopEvent with triggerTime := 1000000 }] twoSteps
  have multiple :=
    (EventQueue.deliversAll_iff _ _ _).mp delivered
      { stopEvent with triggerTime := 1000000 } (by simp) (by decide)
      earlyEvent (by simp) (by decide)
  exact absurd multiple (by decide)

end ModelEngine

end Radar
