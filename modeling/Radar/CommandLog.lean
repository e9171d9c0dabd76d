import Radar.ModelEngine
import Radar.PlacementCommands
import Radar.SchedulerVisits
import Radar.TimelineRefinement

namespace Radar

/-!
# The log of executed commands

As long as the model time is exact as a `double`, every command is executed in
the step that its execution time belongs to, and the executed commands of all
steps are the queued ones up to the time reached, in order.
-/

open Settings

namespace Scheduler

variable (platform : Platform)

/-- A tick at a chunk boundary moves the converter timeline to its time. -/
theorem toNat_startTime_run
    {scheduler : Scheduler}
    {time : UInt64}
    (forward : scheduler.lines.dcu.startTime ≤ time)
    (boundary : time.toNat % 10000 = 0) :
    (run platform scheduler time).1.lines.dcu.startTime.toNat =
      time.toNat := by
  have sameStart := startTime_linesAfter platform
    (prioritize platform time scheduler.queries)
    (scheduler.lines.moveTimeline time) .dcu
  rw [run_lines, visits]
  change (Timelines.get _ .dcu).startTime.toNat = _
  rw [sameStart]
  exact Timeline.toNat_startTime_moveTimeline forward boundary

/-- No command of a tick is due before the tick. -/
theorem le_time_of_mem_run
    {scheduler : Scheduler}
    {time : UInt64}
    (forward : scheduler.lines.dcu.startTime ≤ time)
    (boundary : time.toNat % 10000 = 0)
    (early : time.toNat + 5000000000 ≤ 2 ^ 64)
    {command : ControlCommand}
    (member : command ∈ (run platform scheduler time).2)
    (isCommand : command.type ≠ .nop) :
    time.toNat ≤ command.time := by
  rw [run_commands] at member
  obtain ⟨visit, visitMember, isIssued⟩ := List.mem_flatMap.mp member
  unfold Visit.issued at isIssued
  split at isIssued
  · next call makes =>
      have atTime : call.lines.dcu.startTime.toNat = time.toNat := by
        have sameStart :=
          startTime_of_mem_visitsFrom platform visitMember makes .dcu
        change (call.lines.get .dcu).startTime.toNat = _
        rw [sameStart]
        exact Timeline.toNat_startTime_moveTimeline forward boundary
      rcases placeScan_cases call.lines call.pair call.queryId with
        isNop | ⟨idx, found, _, result⟩
      · rw [ScanCall.result, isNop, List.mem_singleton] at isIssued
        rw [isIssued] at isCommand
        exact (isCommand rfl).elim
      · rw [ScanCall.result, result] at isIssued
        have bound :=
          le_time_of_mem_scanCommands (bounds_of_placementIndex found).2
            (by rw [atTime]; exact early) isIssued
        rw [atTime] at bound
        exact Nat.le_trans (Nat.le_add_right ..) bound
  · split at isIssued
    · rw [List.mem_singleton.mp isIssued]
      exact Nat.le_refl _
    · cases isIssued

end Scheduler

namespace ModelEngine

variable
  {commandQueues : CommandQueue}
  {eventQueues : EventQueue}
  (platform : Scheduler.Platform)

/-- Commands queued between two steps. -/
def queued
    (engine : ModelEngine commandQueues eventQueues) :
    List ControlCommand :=
  commandQueues.items engine.commandProcessor.commandQueue

/-- Commands that a step appends to the queue. -/
def issued
    (engine : ModelEngine commandQueues eventQueues) :
    List ControlCommand :=
  (engine.step platform).2.commandList.filter fun command =>
    command.type ≠ .nop

/-- Commands that a step executes. -/
def executed
    (engine : ModelEngine commandQueues eventQueues) :
    List ControlCommand :=
  (engine.step platform).2.execedCommands

/-- A state between two steps: nothing is late. -/
structure Standing
    (engine : ModelEngine commandQueues eventQueues) :
    Prop where
  boundary : engine.modelTime.toNat % 1000000 = 0
  startTime : engine.shed.lines.dcu.startTime ≤ engine.modelTime
  notLate : ∀ command ∈ engine.queued, engine.modelTime.toNat ≤ command.time

/-- A new engine has nothing to be late with. -/
theorem standing_new (evQueue : eventQueues.Carrier) :
    (new evQueue : ModelEngine commandQueues eventQueues).Standing where
  boundary := rfl
  startTime := UInt64.le_refl _
  notLate := by
    intro command member
    rw [queued] at member
    change command ∈ commandQueues.items commandQueues.empty at member
    rw [commandQueues.items_empty] at member
    cases member

/-- Events leave the timelines alone. -/
theorem Standing.startTime_triggered
    {engine : ModelEngine commandQueues eventQueues}
    (standing : engine.Standing) :
    engine.triggered.lines.dcu.startTime ≤ engine.modelTime :=
  standing.startTime

/-- The queue that a step executes from: what it issues and what waited. -/
theorem items_appended
    (engine : ModelEngine commandQueues eventQueues) :
    (commandQueues.items (engine.appended platform).commandQueue).Perm
      (engine.issued platform ++ engine.queued) :=
  commandQueues.items_pushAll ..

/-- What the execution of a step has done with the queue. -/
theorem poppedWhile_step
    (engine : ModelEngine commandQueues eventQueues) :
    commandQueues.PoppedWhile
      (CommandProcessor.due platform.rounding engine.modelTime)
      (engine.appended platform).commandQueue
      (engine.executed platform)
      (engine.step platform).1.commandProcessor.commandQueue :=
  commandQueues.poppedWhile_popWhile ..

/-- Nothing is lost or duplicated by a step. -/
theorem issued_append_queued_perm
    (engine : ModelEngine commandQueues eventQueues) :
    (engine.issued platform ++ engine.queued).Perm
      (engine.executed platform ++ (engine.step platform).1.queued) :=
  (engine.items_appended platform).symm.trans
    (engine.poppedWhile_step platform).perm

/-- While the time is exact, due means before the end of the step. -/
theorem due_iff
    {time : UInt64}
    (exactTime : time.toNat + 1000000 ≤ 2 ^ 53)
    (command : ControlCommand) :
    CommandProcessor.due platform.rounding time command = true ↔
      command.time < time.toNat + 1000000 := by
  have exactStart :
      platform.rounding.round time.toNat + 1000000 =
        ((time.toNat + 1000000 : Nat) : Rat) := by
    rw [platform.rounding.exact _ (by omega)]
    push_cast
    rfl
  rw [CommandProcessor.due, decide_eq_true_eq, exactStart,
    platform.rounding.exact _ exactTime,
    platform.rounding.round_lt_iff exactTime]

theorem toNat_modelTime_step
    {engine : ModelEngine commandQueues eventQueues}
    (noWrap : engine.modelTime.toNat + 1000000 < 2 ^ 64) :
    (engine.step platform).1.modelTime.toNat =
      engine.modelTime.toNat + 1000000 := by
  change (engine.modelTime + timeStep).toNat = _
  rw [UInt64.toNat_add]
  exact Nat.mod_eq_of_lt noWrap

/-- No command issued by a step is due before the step. -/
theorem le_time_of_mem_issued
    {engine : ModelEngine commandQueues eventQueues}
    (standing : engine.Standing)
    (exactTime : engine.modelTime.toNat + 1000000 ≤ 2 ^ 53)
    {command : ControlCommand}
    (member : command ∈ engine.issued platform) :
    engine.modelTime.toNat ≤ command.time := by
  obtain ⟨inList, isCommand⟩ := List.mem_filter.mp member
  have boundary := standing.boundary
  exact Scheduler.le_time_of_mem_run platform standing.startTime_triggered
    (by omega) (by omega) inList (by simpa using isCommand)

/-- A step executes the commands of its own window. -/
theorem time_of_mem_executed
    {engine : ModelEngine commandQueues eventQueues}
    (standing : engine.Standing)
    (exactTime : engine.modelTime.toNat + 1000000 ≤ 2 ^ 53)
    {command : ControlCommand}
    (member : command ∈ engine.executed platform) :
    engine.modelTime.toNat ≤ command.time ∧
      command.time < engine.modelTime.toNat + 1000000 := by
  constructor
  · have origin :=
      (engine.issued_append_queued_perm platform).mem_iff.mpr
        (List.mem_append_left _ member)
    rcases List.mem_append.mp origin with isIssued | isQueued
    · exact le_time_of_mem_issued platform standing exactTime isIssued
    · exact standing.notLate command isQueued
  · exact (due_iff platform exactTime command).mp
      ((engine.poppedWhile_step platform).passed command member)

/-- A step leaves nothing late behind. -/
theorem standing_step
    {engine : ModelEngine commandQueues eventQueues}
    (standing : engine.Standing)
    (exactTime : engine.modelTime.toNat + 1000000 ≤ 2 ^ 53) :
    (engine.step platform).1.Standing := by
  have noWrap : engine.modelTime.toNat + 1000000 < 2 ^ 64 := by omega
  have nextTime := toNat_modelTime_step platform noWrap
  have boundary := standing.boundary
  refine ⟨by omega, ?_, ?_⟩
  · rw [UInt64.le_iff_toNat_le, nextTime]
    have started :=
      Scheduler.toNat_startTime_run platform standing.startTime_triggered
        (by omega)
    exact Nat.le_trans (Nat.le_of_eq started) (Nat.le_add_right ..)
  · intro command member
    rw [nextTime]
    have notDue :=
      (engine.poppedWhile_step platform).rest_fails
        (by
          intro lower upper ordered due
          rw [due_iff platform exactTime] at due ⊢
          exact Nat.lt_of_le_of_lt ordered due)
        command member
    by_contra early
    rw [Nat.not_le] at early
    rw [(due_iff platform exactTime command).mpr early] at notDue
    cases notDue

/-! ## Runs of the loop -/

/-- Commands issued by steps, in order. -/
def allIssued
    (started : List (ModelEngine commandQueues eventQueues)) :
    List ControlCommand :=
  started.flatMap (issued platform)

/-- The log: commands executed by steps, in order. -/
def allExecuted
    (started : List (ModelEngine commandQueues eventQueues)) :
    List ControlCommand :=
  started.flatMap (executed platform)

/-- The model time of a run is exact as a `double`, up to the end of it. -/
def ExactTimes
    (started : List (ModelEngine commandQueues eventQueues)) :
    Prop :=
  ∀ engine ∈ started, engine.modelTime.toNat + 1000000 ≤ 2 ^ 53

/-- What a run of steps from a state does with the commands. -/
structure LogOf
    (engine : ModelEngine commandQueues eventQueues)
    (started : List (ModelEngine commandQueues eventQueues)) :
    Prop where
  times :
    ∀ index, ∀ bound : index < started.length,
      started[index].modelTime.toNat =
        engine.modelTime.toNat + index * 1000000
  notEarly :
    ∀ state ∈ started, ∀ command ∈ state.issued platform,
      state.modelTime.toNat ≤ command.time
  inWindow :
    ∀ state ∈ started, ∀ command ∈ state.executed platform,
      state.modelTime.toNat ≤ command.time ∧
        command.time < state.modelTime.toNat + 1000000
  complete :
    (allExecuted platform started).Perm
      ((engine.queued ++ allIssued platform started).filter fun command =>
        command.time <
          engine.modelTime.toNat + started.length * 1000000)
  sorted :
    (allExecuted platform started).Pairwise fun first second =>
      first.time ≤ second.time

/-- Without steps nothing is executed and nothing was due. -/
theorem LogOf.nil
    {engine : ModelEngine commandQueues eventQueues}
    (standing : engine.Standing) :
    LogOf platform engine [] where
  times := by simp
  notEarly := by simp
  inWindow := by simp
  complete := by
    have noneIssued :
        allIssued platform
          ([] : List (ModelEngine commandQueues eventQueues)) = [] := rfl
    rw [noneIssued, List.append_nil, List.length_nil,
      List.filter_eq_nil_iff.mpr]
    · exact .refl _
    · intro command isQueued
      simpa using standing.notLate command isQueued
  sorted := .nil

/-- What a later run executes is due behind the first step. -/
theorem LogOf.le_time
    {engine : ModelEngine commandQueues eventQueues}
    {later : List (ModelEngine commandQueues eventQueues)}
    (log : LogOf platform engine later)
    {command : ControlCommand}
    (member : command ∈ allExecuted platform later) :
    engine.modelTime.toNat ≤ command.time := by
  obtain ⟨state, stateMember, isExecuted⟩ := List.mem_flatMap.mp member
  obtain ⟨index, bound, rfl⟩ := List.mem_iff_getElem.mp stateMember
  have window := (log.inWindow _ stateMember command isExecuted).1
  have atIndex := log.times index bound
  omega

/-- One more step executes what it and the later run have to execute. -/
theorem LogOf.complete_cons
    {engine : ModelEngine commandQueues eventQueues}
    {later : List (ModelEngine commandQueues eventQueues)}
    (standing : engine.Standing)
    (exactTime : engine.modelTime.toNat + 1000000 ≤ 2 ^ 53)
    (log : LogOf platform (engine.step platform).1 later) :
    (allExecuted platform (engine :: later)).Perm
      ((engine.queued ++ allIssued platform (engine :: later)).filter
        fun command =>
          command.time <
            engine.modelTime.toNat + (engine :: later).length * 1000000) := by
  have nextTime := toNat_modelTime_step platform
    (show engine.modelTime.toNat + 1000000 < 2 ^ 64 by omega)
  have sameEnd :
      engine.modelTime.toNat + (engine :: later).length * 1000000 =
        (engine.step platform).1.modelTime.toNat + later.length * 1000000 := by
    rw [nextTime, List.length_cons]
    omega
  have ownBefore :
      (engine.executed platform).filter
          (fun command => command.time <
            (engine.step platform).1.modelTime.toNat +
              later.length * 1000000) =
        engine.executed platform := by
    rw [List.filter_eq_self]
    intro command member
    have window :=
      (time_of_mem_executed platform standing exactTime member).2
    rw [decide_eq_true_eq, nextTime]
    omega
  have balance :
      (engine.queued ++ allIssued platform (engine :: later)).Perm
        (engine.executed platform ++
          ((engine.step platform).1.queued ++ allIssued platform later)) := by
    have own := engine.issued_append_queued_perm platform
    rw [allIssued, List.flatMap_cons, ← List.append_assoc,
      ← List.append_assoc]
    exact (List.perm_append_comm.trans own).append_right _
  rw [sameEnd]
  refine (log.complete.append_left (engine.executed platform)).trans ?_
  refine .trans ?_ (balance.filter _).symm
  rw [List.filter_append (engine.executed platform) _, ownBefore]

/-- One more step in front of a run. -/
theorem LogOf.cons
    {engine : ModelEngine commandQueues eventQueues}
    {later : List (ModelEngine commandQueues eventQueues)}
    (standing : engine.Standing)
    (exactTime : engine.modelTime.toNat + 1000000 ≤ 2 ^ 53)
    (log : LogOf platform (engine.step platform).1 later) :
    LogOf platform engine (engine :: later) := by
  have nextTime := toNat_modelTime_step platform
    (show engine.modelTime.toNat + 1000000 < 2 ^ 64 by omega)
  refine ⟨?_, ?_, ?_, log.complete_cons platform standing exactTime, ?_⟩
  · intro index bound
    cases index with
    | zero =>
        simp
    | succ index =>
        have atIndex :=
          log.times index (Nat.lt_of_succ_lt_succ bound)
        rw [List.getElem_cons_succ, atIndex, nextTime]
        omega
  · intro state member command isIssued
    rcases List.mem_cons.mp member with rfl | inLater
    · exact le_time_of_mem_issued platform standing exactTime isIssued
    · exact log.notEarly state inLater command isIssued
  · intro state member command isExecuted
    rcases List.mem_cons.mp member with rfl | inLater
    · exact time_of_mem_executed platform standing exactTime isExecuted
    · exact log.inWindow state inLater command isExecuted
  · rw [allExecuted, List.flatMap_cons, List.pairwise_append]
    refine ⟨(engine.poppedWhile_step platform).sorted, log.sorted, ?_⟩
    intro first firstMember second secondMember
    have window :=
      (time_of_mem_executed platform standing exactTime firstMember).2
    have behind := log.le_time platform secondMember
    omega

/-- Every run of steps from a standing state keeps the log right. -/
theorem logOf_steps
    (fuel : Nat)
    {engine : ModelEngine commandQueues eventQueues}
    (standing : engine.Standing)
    (exactTimes : ExactTimes (steps platform fuel engine)) :
    LogOf platform engine (steps platform fuel engine) := by
  induction fuel generalizing engine with
  | zero =>
      exact .nil platform standing
  | succ fuel inductionHypothesis =>
      unfold steps at exactTimes ⊢
      split at exactTimes
      · next running =>
          rw [if_pos running]
          obtain ⟨exactTime, laterTimes⟩ :=
            List.forall_mem_cons.mp exactTimes
          exact .cons platform standing exactTime
            (inductionHypothesis
              (standing_step platform standing exactTime) laterTimes)
      · next stopped =>
          rw [if_neg stopped]
          exact .nil platform standing

/--
In a run from time zero whose times are exact as `double`s, step `k` starts at
`k * 10^6` ns, every command that a step issues is due in that step or later,
every executed command is executed in the step of its execution time, the
executed commands are exactly the issued ones with an execution time before
the end of the last step, each once, and the log is in order.
-/
theorem logOf_new
    (evQueue : eventQueues.Carrier)
    (fuel : Nat)
    (exactTimes :
      ExactTimes
        (steps platform fuel
          (new evQueue : ModelEngine commandQueues eventQueues))) :
    let started :=
      steps platform fuel
        (new evQueue : ModelEngine commandQueues eventQueues)
    (∀ index, ∀ bound : index < started.length,
      started[index].modelTime.toNat = index * 1000000) ∧
      (∀ state ∈ started, ∀ command ∈ state.issued platform,
        state.modelTime.toNat ≤ command.time) ∧
      (∀ state ∈ started, ∀ command ∈ state.executed platform,
        state.modelTime.toNat ≤ command.time ∧
          command.time < state.modelTime.toNat + 1000000) ∧
      (allExecuted platform started).Perm
        ((allIssued platform started).filter fun command =>
          command.time < started.length * 1000000) ∧
      (allExecuted platform started).Pairwise fun first second =>
        first.time ≤ second.time := by
  intro started
  have log := logOf_steps platform fuel (standing_new evQueue) exactTimes
  have noneQueued :
      (new evQueue : ModelEngine commandQueues eventQueues).queued = [] :=
    commandQueues.items_empty
  have timeZero :
      (new evQueue : ModelEngine commandQueues
        eventQueues).modelTime.toNat = 0 := rfl
  obtain ⟨times, notEarly, inWindow, complete, sorted⟩ := log
  simp only [noneQueued, timeZero, List.nil_append, Nat.zero_add]
    at times complete
  exact ⟨times, notEarly, inWindow, complete, sorted⟩

/-- An engine whose first event injects one query. -/
def withQuery
    (triggerTime : UInt64)
    (query : Query) :
    ModelEngine (PriorityQueue.sortedList ControlCommand.time)
      (PriorityQueue.sortedList Event.time) :=
  new ((PriorityQueue.sortedList Event.time).push
    (PriorityQueue.sortedList Event.time).empty
    ⟨triggerTime, fun queries => queries ++ [query], false⟩)

/-- A search query for the target at 1 000 000 m. -/
def searchNear : Query where
  type := .search
  id := 2000
  k := 50
  pThreshold := 1
  tPrev := 0
  range := 1000000
  rcs := 50
  active := true

/-- The log of a search for the target at 1 000 000 m over 25 ms. -/
theorem logOf_new_searchNear :
    (allExecuted .twoTargets
        (steps .twoTargets 25 (withQuery 0 searchNear))).Pairwise
      fun first second => first.time ≤ second.time := by
  have exactTimes :
      ExactTimes (steps .twoTargets 25 (withQuery 0 searchNear)) := by
    unfold ExactTimes
    decide +kernel
  exact (logOf_new .twoTargets _ 25 exactTimes).2.2.2.2

/-- A confirm query, at 1 ms, for a target at 1 000 m. -/
def confirmTooClose : Query where
  type := .confirm
  id := 5001
  k := 100
  pThreshold := 0
  tPrev := 1000000
  range := 1000
  rcs := 50
  active := true

/-- The `nop` answered for a target that is too close has execution time 0. -/
theorem nop_before_step :
    ∃ state ∈ steps .tooClose 2 (withQuery 1000000 confirmTooClose),
      ∃ command ∈ (state.step .tooClose).2.commandList,
        command.time < state.modelTime.toNat := by
  decide +kernel

end ModelEngine

end Radar
