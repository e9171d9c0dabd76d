import Mathlib.Tactic.Linarith
import Radar.CommandLog
import Radar.PlacementBooking

namespace Radar

/-!
# The exchange protocol over whole runs

The queue of the command processor is prepared when its commands are booked on
the timelines and their precursors are queued or have just been executed.  A
prepared queue passes the validation, and a step whose placements have room
for their commands leaves a prepared queue behind.
-/

open Settings
open Scheduler (Booked HoldsChunks PrecedesBy Spaced StartsAt)

namespace CommandProcessor

variable {queues : CommandQueue}

/-- Queued commands are booked, in order, and have their precursors. -/
structure Prepared
    (lines : Timelines)
    (processor : CommandProcessor queues) :
    Prop where
  booked : Booked lines (queues.items processor.commandQueue)
  sorted :
    processor.execedCommands.Pairwise fun first second =>
      first.time ≤ second.time
  inOrder :
    ∀ earlier ∈ processor.execedCommands,
      ∀ later ∈ queues.items processor.commandQueue,
        later.type ≠ .techCommand → earlier.time ≤ later.time
  precursor :
    ∀ command ∈ queues.items processor.commandQueue,
      ∀ need ∈ precursors command.type,
        ∃ other ∈ processor.execedCommands ++
            queues.items processor.commandQueue,
          PrecedesBy need.1 need.2 other command

/-- Precursors are changes of phase or protection, with short delays. -/
theorem precursor_bounds
    {type : CommandType}
    {need : CommandType × UInt32}
    (needed : need ∈ precursors type) :
    need.1 ≠ .nop ∧ need.1 ≠ .techCommand ∧ need.2.toNat ≤ 270000 := by
  cases type with
  | receiveCommand =>
      rcases List.mem_pair.mp needed with rfl | rfl
      · decide
      · decide
  | transmitCommand =>
      obtain rfl := List.mem_singleton.mp needed
      decide
  | nop | trRephaseCommand | rsRephaseCommand | protectCommand
  | techCommand =>
      cases needed

namespace Prepared

variable
  {lines : Timelines}
  {processor : CommandProcessor queues}

/-- Commands of one type, in order and with the distances of the protocol. -/
theorem pairwise_currentOf
    (prepared : Prepared lines processor)
    (type : CommandType) :
    (processor.currentOf type).Pairwise fun first second =>
      Spaced first second ∧ first.time ≤ second.time :=
  List.Pairwise.and
    ((currentOf_pairwise_iff Spaced.symm).mpr
      (prepared.booked.spaced.filter _))
    (processor.currentOf_pairwise type)

theorem mem_currentOf
    {type : CommandType}
    {command : ControlCommand}
    (member : command ∈ processor.currentOf type) :
    command ∈ queues.items processor.commandQueue ∧
      command.type = type := by
  obtain ⟨inQueue, sameType⟩ := List.mem_filter.mp member
  exact ⟨mem_currentCommands_iff.mp inQueue, by simpa using sameType⟩

/-- In the order of execution phase changes pass the unsigned comparison. -/
theorem pairwise_rephase
    (prepared : Prepared lines processor)
    {type : CommandType}
    (isRephase : type = .trRephaseCommand ∨ type = .rsRephaseCommand) :
    (processor.currentOf type).Pairwise ApartUnsigned := by
  apply (prepared.pairwise_currentOf type).imp_of_mem
  rintro first second firstMember secondMember ⟨spaced, ordered⟩
  have apart :=
    spaced.rephase type isRephase (mem_currentOf firstMember).2
      (mem_currentOf secondMember).2
  rw [Apart, toNat_auCommandDelay] at apart
  rw [ApartUnsigned, UInt64.le_iff_toNat_le, toNat_sub_of_le ordered,
    UInt32.toNat_toUInt64, toNat_auCommandDelay]
  change _ ≤ second.time - first.time
  omega

/-- In the order of execution a transmission ends before the next one. -/
theorem pairwise_transmit
    (prepared : Prepared lines processor) :
    (processor.currentOf .transmitCommand).Pairwise fun first second =>
      first.time + first.executionLength.toNat ≤ second.time := by
  apply (prepared.pairwise_currentOf .transmitCommand).imp_of_mem
  rintro first second firstMember secondMember ⟨spaced, ordered⟩
  obtain ⟨_, isFirst⟩ := mem_currentOf firstMember
  obtain ⟨inQueue, isSecond⟩ := mem_currentOf secondMember
  have holds := prepared.booked.holds second inQueue
  simp only [HoldsChunks, isSecond] at holds
  obtain ⟨_, _, long, _⟩ := holds
  have apart := spaced.transmit isFirst isSecond
  omega

/-- The first command that the source finds is not after the precursor. -/
theorem firstOfQuery_of_precursor
    (prepared : Prepared lines processor)
    {type : CommandType}
    {command other : ControlCommand}
    (notTech : type ≠ .techCommand)
    (member : other ∈ processor.allCommands)
    (sameType : other.type = type)
    (sameQuery : other.queryId = command.queryId) :
    ∃ first,
      firstOfQuery processor.allCommands type command = some first ∧
        first.time ≤ other.time := by
  have ordered :
      processor.allCommands.Pairwise fun first second =>
        second.type = type → first.time ≤ second.time := by
    refine List.pairwise_append.mpr ⟨?_, ?_, ?_⟩
    · apply prepared.sorted.imp
      intro first second sorted _
      exact sorted
    · apply (queues.drain_pairwise processor.commandQueue).imp
      intro first second sorted _
      exact sorted
    · intro earlier isExecuted later isQueued isType
      exact prepared.inOrder earlier isExecuted later
        (mem_currentCommands_iff.mp isQueued)
        (isType.trans_ne notTech)
  cases found : firstOfQuery processor.allCommands type command with
  | none =>
      have missing := List.find?_eq_none.mp found other member
      simp [sameType, sameQuery] at missing
  | some first =>
      refine ⟨first, rfl, ?_⟩
      obtain ⟨_, before, after, shape, skipped⟩ :=
        List.find?_eq_some_iff_append.mp found
      rw [shape, List.mem_append, List.mem_cons] at member
      rcases member with inBefore | rfl | inAfter
      · have passed := skipped other inBefore
        simp [sameType, sameQuery] at passed
      · exact Nat.le_refl _
      · rw [shape] at ordered
        have later := (List.pairwise_append.mp ordered).2.1
        exact (List.pairwise_cons.mp later).1 other inAfter sameType

/-- A prepared queue passes every comparison of the validation. -/
theorem passesComparisons
    (prepared : Prepared lines processor) :
    processor.PassesComparisons where
  rephase _ isRephase := (prepared.pairwise_rephase isRephase).isChain
  precursor := by
    intro command member need needed
    obtain ⟨other, otherMember, precedes⟩ :=
      prepared.precursor command (mem_currentCommands_iff.mp member)
        need needed
    obtain ⟨_, notTech, _⟩ := precursor_bounds needed
    obtain ⟨first, found, notAfter⟩ :=
      prepared.firstOfQuery_of_precursor notTech
        (mem_allCommands_iff.mpr otherMember) precedes.type precedes.queryId
    refine ⟨first, found, ?_⟩
    have gap := precedes.time
    have ordered : first.time ≤ command.time := by omega
    rw [UInt64.le_iff_toNat_le, toNat_sub_of_le ordered,
      UInt32.toNat_toUInt64]
    change _ ≤ command.time - first.time
    omega
  transmit := by
    apply List.Pairwise.isChain
    apply prepared.pairwise_transmit.imp
    intro first second apart
    have bounded : second.time < 2 ^ 64 := second.executionTime.toNat_lt
    have noWrap :
        first.executionTime.toNat + first.executionLength.toNat < 2 ^ 64 :=
      Nat.lt_of_le_of_lt apart bounded
    rw [EndsBefore, UInt64.le_iff_toNat_le, UInt64.toNat_add,
      UInt32.toNat_toUInt64, Nat.mod_eq_of_lt noWrap]
    exact apart
  reference := by
    intro command member needed needs
    have reserved :=
      prepared.booked.reference command
        (mem_currentCommands_iff.mp member) needed needs
    have ordered :
        command.referanceTime.toNat ≤ command.executionTime.toNat :=
      Nat.le_trans (Nat.le_add_right ..) reserved
    refine ⟨?_, fun _ => UInt64.le_iff_toNat_le.mpr ordered⟩
    rw [UInt64.le_iff_toNat_le, toNat_sub_of_le ordered,
      UInt32.toNat_toUInt64]
    exact Nat.le_sub_of_add_le (by rw [Nat.add_comm]; exact reserved)

/-- In a prepared queue nothing that is compared has wrapped. -/
theorem nothingWraps
    (prepared : Prepared lines processor) :
    processor.NothingWraps where
  precursor := by
    intro command member need needed
    obtain ⟨other, otherMember, precedes⟩ :=
      prepared.precursor command (mem_currentCommands_iff.mp member)
        need needed
    exact .inr ⟨other, mem_allCommands_iff.mpr otherMember, precedes.type,
      precedes.queryId, Nat.le_of_eq precedes.time⟩
  transmit :=
    prepared.pairwise_transmit.imp fun {_ second} apart =>
      .inl (Nat.lt_of_le_of_lt apart second.executionTime.toNat_lt)
  reference := by
    intro command member isTransmit
    have reserved :=
      prepared.booked.reference command
        (mem_currentCommands_iff.mp member) transmitReserve
        (by simp [isTransmit, reserve])
    exact UInt64.le_iff_toNat_le.mpr
      (Nat.le_trans (Nat.le_add_right ..) reserved)

/-- A prepared queue is validated and obeys the exchange protocol. -/
theorem validate_and_sound
    (prepared : Prepared lines processor) :
    processor.validate = true ∧ processor.Sound :=
  ⟨validate_eq_true_iff.mpr prepared.passesComparisons,
    sound_of_nothingWraps prepared.passesComparisons prepared.nothingWraps⟩

/-- Commands that come with their precursors join a prepared queue. -/
theorem append
    {later : Timelines}
    {commandList : List ControlCommand}
    (prepared : Prepared lines processor)
    (booked :
      Booked later
        (commandList ++ queues.items processor.commandQueue))
    (notEarlier :
      ∀ earlier ∈ processor.execedCommands, ∀ command ∈ commandList,
        command.type ≠ .nop → command.type ≠ .techCommand →
        earlier.time ≤ command.time)
    (precede :
      ∀ command ∈ commandList, ∀ need ∈ precursors command.type,
        ∃ other ∈ commandList, PrecedesBy need.1 need.2 other command) :
    Prepared later (processor.append commandList) := by
  have contents :=
    queues.items_pushAll processor.commandQueue
      (commandList.filter fun command => command.type ≠ .nop)
  refine ⟨?_, prepared.sorted, ?_, ?_⟩
  · apply Booked.of_perm _ contents
    exact booked.of_sublist (List.filter_sublist.append_right _)
  · intro earlier isExecuted command member notTech
    rcases List.mem_append.mp (contents.mem_iff.mp member) with
      isNew | isQueued
    · obtain ⟨inList, isCommand⟩ := List.mem_filter.mp isNew
      exact notEarlier earlier isExecuted command inList
        (by simpa using isCommand) notTech
    · exact prepared.inOrder earlier isExecuted command isQueued notTech
  · intro command member need needed
    obtain ⟨notNop, _, _⟩ := precursor_bounds needed
    rcases List.mem_append.mp (contents.mem_iff.mp member) with
      isNew | isQueued
    · obtain ⟨other, inList, precedes⟩ :=
        precede command (List.mem_filter.mp isNew).1 need needed
      have isCommand : other ∈ commandList.filter fun command =>
          command.type ≠ .nop :=
        List.mem_filter.mpr
          ⟨inList, by simpa [precedes.type] using notNop⟩
      exact ⟨other, List.mem_append_right _
        (contents.mem_iff.mpr (List.mem_append_left _ isCommand)), precedes⟩
    · obtain ⟨other, member, precedes⟩ :=
        prepared.precursor command isQueued need needed
      refine ⟨other, ?_, precedes⟩
      rcases List.mem_append.mp member with isExecuted | otherQueued
      · exact List.mem_append_left _ isExecuted
      · exact List.mem_append_right _
          (contents.mem_iff.mpr (List.mem_append_right _ otherQueued))

end Prepared

/-! ## Execution with rounded times -/

section Due

variable
  {rounding : DoubleRounding}
  {time : UInt64}
  {command : ControlCommand}

/-- The rounded end of a step is at most two roundings off. -/
private theorem round_stepEnd
    (rounding : DoubleRounding)
    (early : time.toNat + 5000000000 ≤ 2 ^ 64) :
    (time.toNat : Rat) + 1000000 - 2048 ≤
        rounding.round (rounding.round time.toNat + 1000000) ∧
      rounding.round (rounding.round time.toNat + 1000000) ≤
        (time.toNat : Rat) + 1000000 + 2048 := by
  have bound : (time.toNat : Rat) + 5000000000 ≤ 2 ^ 64 := by
    exact_mod_cast early
  have positive : (0 : Rat) ≤ time.toNat := Nat.cast_nonneg _
  obtain ⟨startLower, startUpper⟩ :=
    rounding.near time.toNat positive (by linarith)
  obtain ⟨endLower, endUpper⟩ :=
    rounding.near (rounding.round time.toNat + 1000000)
      (by linarith) (by linarith)
  constructor
  · linarith
  · linarith

private theorem round_time
    (rounding : DoubleRounding)
    (command : ControlCommand) :
    (command.time : Rat) - 1024 ≤ rounding.round command.time ∧
      rounding.round command.time ≤ (command.time : Rat) + 1024 := by
  have bounded : command.time ≤ 2 ^ 64 :=
    Nat.le_of_lt command.executionTime.toNat_lt
  exact rounding.near command.time (Nat.cast_nonneg _)
    (by exact_mod_cast bounded)

/-- What is due lies before the end of the step, up to the rounding. -/
theorem time_lt_of_due
    (early : time.toNat + 5000000000 ≤ 2 ^ 64)
    (isDue : due rounding time command = true) :
    command.time < time.toNat + 1003072 := by
  rw [due, decide_eq_true_eq] at isDue
  have stepEnd := (round_stepEnd rounding early).2
  have rounded := (round_time rounding command).1
  have below : (command.time : Rat) < time.toNat + 1003072 := by
    linarith
  exact_mod_cast below

/-- What is not due lies after the end of the step, up to the rounding. -/
theorem le_time_of_not_due
    (early : time.toNat + 5000000000 ≤ 2 ^ 64)
    (notDue : due rounding time command = false) :
    time.toNat + 1000000 ≤ command.time + 3072 := by
  rw [due, decide_eq_false_iff_not, not_lt] at notDue
  have stepEnd := (round_stepEnd rounding early).1
  have rounded := (round_time rounding command).2
  have above : (time.toNat : Rat) + 1000000 ≤ command.time + 3072 := by
    linarith
  exact_mod_cast above

end Due

/-- Executing the commands of a step leaves a prepared queue behind. -/
theorem Prepared.run
    {lines : Timelines}
    {processor : CommandProcessor queues}
    (prepared : Prepared lines processor)
    (rounding : DoubleRounding)
    {time : UInt64}
    (early : time.toNat + 5000000000 ≤ 2 ^ 64)
    (recent :
      ∀ command ∈ processor.execedCommands,
        command.time < time.toNat + 3072) :
    Prepared lines (processor.run rounding time) := by
  have loop :=
    queues.poppedWhile_popWhile (due rounding time) processor.commandQueue
  have notDue :=
    loop.rest_fails (by
      intro lower upper ordered isDue
      rw [due, decide_eq_true_eq] at isDue ⊢
      exact lt_of_le_of_lt
        (rounding.mono (by exact_mod_cast ordered)) isDue)
  have stays :
      ∀ command ∈ queues.items
          (processor.run rounding time).commandQueue,
        command ∈ queues.items processor.commandQueue :=
    fun command member =>
      loop.perm.mem_iff.mpr (List.mem_append_right _ member)
  refine ⟨?_, loop.sorted, ?_, ?_⟩
  · exact (prepared.booked.of_perm loop.perm.symm).of_sublist
      (List.sublist_append_right ..)
  · intro earlier isExecuted later isQueued _
    exact loop.popped_le earlier isExecuted later isQueued
  · intro command member need needed
    obtain ⟨other, otherMember, precedes⟩ :=
      prepared.precursor command (stays command member) need needed
    refine ⟨other, ?_, precedes⟩
    rcases List.mem_append.mp otherMember with isExecuted | isQueued
    · have gap := precedes.time
      have wasRecent := recent other isExecuted
      have short := (precursor_bounds needed).2.2
      have waits := le_time_of_not_due early (notDue command member)
      omega
    · exact loop.perm.mem_iff.mp isQueued

end CommandProcessor

/-! ## The invariant of the engine -/

namespace ModelEngine

variable
  {commandQueues : CommandQueue}
  {eventQueues : EventQueue}
  (platform : Scheduler.Platform)

/-- A state in which the next step finds a prepared queue. -/
structure InProtocol
    (engine : ModelEngine commandQueues eventQueues) :
    Prop where
  boundary : engine.modelTime.toNat % 1000000 = 0
  starts :
    StartsAt (engine.shed.lines.moveTimeline engine.modelTime)
      engine.modelTime
  prepared :
    engine.commandProcessor.Prepared
      (engine.shed.lines.moveTimeline engine.modelTime)
  recent :
    ∀ command ∈ engine.commandProcessor.execedCommands,
      command.time < engine.modelTime.toNat + 3072

/-- A new engine has no commands at all. -/
theorem inProtocol_new (evQueue : eventQueues.Carrier) :
    (new evQueue : ModelEngine commandQueues eventQueues).InProtocol := by
  have noCommands :
      commandQueues.items
        (new evQueue : ModelEngine commandQueues
          eventQueues).commandProcessor.commandQueue = [] :=
    commandQueues.items_empty
  refine ⟨rfl, ⟨?_, rfl⟩, ⟨?_, .nil, ?_, ?_⟩, ?_⟩
  · intro name
    have fresh : (Timeline.new.moveTimeline 0).startTime = 0 := by
      have forward : Timeline.new.startTime ≤ 0 := UInt64.le_refl _
      rw [Timeline.startTime_moveTimeline forward]
      rfl
    cases name <;> exact fresh
  · rw [noCommands]
    exact .nil _
  · intro earlier member
    cases member
  · rw [noCommands]
    intro command member
    cases member
  · intro command member
    cases member

/-- All placements of the next step have room for their commands. -/
def HasRoom (engine : ModelEngine commandQueues eventQueues) : Prop :=
  Scheduler.HasRoom platform engine.triggered engine.modelTime

instance (engine : ModelEngine commandQueues eventQueues) :
    Decidable (engine.HasRoom platform) :=
  inferInstanceAs (Decidable (Scheduler.HasRoom ..))

/-- The queue that a step validates is prepared. -/
theorem InProtocol.prepared_appended
    {engine : ModelEngine commandQueues eventQueues}
    (inProtocol : engine.InProtocol)
    (room : engine.HasRoom platform) :
    (engine.appended platform).Prepared
      (engine.step platform).1.shed.lines := by
  have starts : StartsAt (engine.triggered.lines.moveTimeline
      engine.modelTime) engine.modelTime := inProtocol.starts
  have booked : Booked (engine.triggered.lines.moveTimeline
      engine.modelTime) engine.queued := inProtocol.prepared.booked
  refine inProtocol.prepared.append ?_ ?_ ?_
  · exact booked.run platform starts room
  · intro earlier isExecuted command member notNop notTech
    have recent := inProtocol.recent earlier isExecuted
    rcases Scheduler.mem_run_cases platform starts member with
      isNop | isTech | ⟨_, idx, _, phaseRoom, shallow, isScan, _⟩
    · exact (notNop isNop).elim
    · exact (notTech isTech).elim
    · have late :=
        Scheduler.le_time_of_mem_scanCommands shallow room.early isScan
      change _ ≤ command.time at late
      omega
  · intro command member need needed
    rcases Scheduler.mem_run_cases platform starts member with
      isNop | isTech | ⟨_, idx, _, _, shallow, isScan, answered⟩
    · rw [isNop] at needed
      cases needed
    · rw [isTech] at needed
      cases needed
    · obtain ⟨other, otherMember, precedes⟩ :=
        Scheduler.precedesBy_of_mem_scanCommands shallow room.early isScan
          needed
      exact ⟨other, answered other otherMember, precedes⟩

/-- A step with room for its commands leads to such a state again. -/
theorem InProtocol.step
    {engine : ModelEngine commandQueues eventQueues}
    (inProtocol : engine.InProtocol)
    (room : engine.HasRoom platform) :
    (engine.step platform).1.InProtocol := by
  have early := room.early
  have boundary := inProtocol.boundary
  have noWrap : engine.modelTime.toNat + 1000000 < 2 ^ 64 := by omega
  have nextTime := toNat_modelTime_step platform noWrap
  have starts : StartsAt (engine.triggered.lines.moveTimeline
      engine.modelTime) engine.modelTime := inProtocol.starts
  have ran : StartsAt (engine.step platform).1.shed.lines engine.modelTime :=
    starts.run platform
  have executed :=
    (inProtocol.prepared_appended platform room).run platform.rounding early
      inProtocol.recent
  have moved :
      ∀ name chunk,
        ((engine.step platform).1.shed.lines.get name).Busy chunk →
        (((engine.step platform).1.shed.lines.moveTimeline
          (engine.step platform).1.modelTime).get name).Busy chunk := by
    intro name chunk busy
    rw [Timelines.get_moveTimeline]
    apply busy.moveTimeline
    · omega
    · rw [nextTime, ran.startTime]
  refine ⟨by omega, ?_, ?_, ?_⟩
  · refine ⟨?_, by omega⟩
    intro name
    rw [Timelines.get_moveTimeline, ← UInt64.toNat_inj]
    apply Timeline.toNat_startTime_moveTimeline
    · rw [ran.startTime, UInt64.le_iff_toNat_le]
      omega
    · omega
  · exact { executed with booked := executed.booked.of_busy moved }
  · intro command member
    rw [nextTime]
    have isDue :=
      (engine.poppedWhile_step platform).passed command member
    have below := CommandProcessor.time_lt_of_due early isDue
    omega

/-- Every state of a run with room for its commands is of that kind. -/
theorem inProtocol_steps
    (fuel : Nat)
    {engine : ModelEngine commandQueues eventQueues}
    (inProtocol : engine.InProtocol)
    (room : ∀ state ∈ steps platform fuel engine, state.HasRoom platform) :
    ∀ state ∈ steps platform fuel engine, state.InProtocol := by
  induction fuel generalizing engine with
  | zero =>
      intro state member
      cases member
  | succ fuel inductionHypothesis =>
      unfold steps at room ⊢
      split at room
      · next running =>
          rw [if_pos running]
          obtain ⟨firstRoom, laterRoom⟩ := List.forall_mem_cons.mp room
          exact List.forall_mem_cons.mpr
            ⟨inProtocol,
              inductionHypothesis (inProtocol.step platform firstRoom)
                laterRoom⟩
      · next stopped =>
          rw [if_neg stopped]
          intro state member
          cases member

/--
In every run from time zero whose placements all have room for their commands,
each step finds its commands valid, and they obey the exchange protocol.
-/
theorem validState_of_hasRoom
    (evQueue : eventQueues.Carrier)
    (fuel : Nat)
    (room :
      ∀ engine ∈ steps platform fuel
          (new evQueue : ModelEngine commandQueues eventQueues),
        engine.HasRoom platform) :
    ∀ engine ∈ steps platform fuel
        (new evQueue : ModelEngine commandQueues eventQueues),
      (engine.step platform).2.validState = true ∧
        (engine.appended platform).Sound := by
  intro engine member
  have inProtocol :=
    inProtocol_steps platform fuel (inProtocol_new evQueue) room engine
      member
  exact (inProtocol.prepared_appended platform
    (room engine member)).validate_and_sound

/-- A confirm query for the target at 1 000 000 m. -/
def confirmOfNear : Query where
  type := .confirm
  id := 2001
  k := 100
  pThreshold := 0
  tPrev := 0
  range := 1000000
  rcs := 50
  active := true

/-- A confirm query for the target at 1 077 946 m. -/
def confirmOfFar : Query :=
  { confirmOfNear with id := 1001, range := 1077946, rcs := 60 }

/-- The first two steps with a confirm query for one target are valid. -/
theorem validState_confirmOfNear :
    ((steps .twoTargets 2 (withQuery 0 confirmOfNear)).all fun engine =>
      (engine.step .twoTargets).2.validState) = true := by
  have room :
      ∀ engine ∈ steps .twoTargets 2 (withQuery 0 confirmOfNear),
        engine.HasRoom .twoTargets := by
    decide +kernel
  exact
    List.all_eq_true.mpr fun engine member =>
      (validState_of_hasRoom .twoTargets _ 2 room engine member).1

/-- An engine whose first event injects a confirm query for each target. -/
def confirmsBoth :
    ModelEngine (PriorityQueue.sortedList ControlCommand.time)
      (PriorityQueue.sortedList Event.time) :=
  new ((PriorityQueue.sortedList Event.time).push
    (PriorityQueue.sortedList Event.time).empty
    ⟨0, fun queries => queries ++ [confirmOfFar, confirmOfNear], false⟩)

/-- Both receive phase changes of the first step are due at 7 461 300 ns. -/
theorem invalidState_confirmsBoth :
    ∃ engine ∈ steps .twoTargets 1 confirmsBoth,
      (engine.step .twoTargets).2.validState = false ∧
        ((engine.step .twoTargets).2.commandList.filter fun command =>
          command.type = .rsRephaseCommand ∧
            command.executionTime = 7461300).length = 2 := by
  decide +kernel

end ModelEngine

end Radar
