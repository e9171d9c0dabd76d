import Mathlib.Algebra.BigOperators.Ring.List
import Radar.DisjointIntervals
import Radar.ExchangeProtocol

namespace Radar

/-!
# The transmissions of a run

Whatever the queries are and however a run goes on, two transmissions never
overlap: the chunks of the first one stay busy until they have passed, and the
second one is placed on chunks that are not busy.  Each transmission takes
eight times as long as it emits, which bounds the power that is emitted.
-/

open Settings
open DisjointIntervals (Interval)

/-- The pulses of a regular pair are equal. -/
theorem RegularPair.sum_transmit
    {pair : ScanPair}
    {length : UInt32}
    (regular : RegularPair pair length) :
    (pair.transmit.map fun pulse => pulse.length.toNat).sum =
      length.toNat * pair.size.toNat := by
  rw [regular.transmit, ScanPair.pulses, List.map_map]
  change ((List.range pair.size.toNat).map fun _ => length.toNat).sum = _
  rw [List.map_const', List.length_range, List.sum_replicate_nat,
    Nat.mul_comm]

/-- A transmission of a regular pair lasts a few thousand chunks at most. -/
theorem RegularPair.transmitLen_bounds
    {pair : ScanPair}
    {length : UInt32}
    (regular : RegularPair pair length) :
    10000 ≤ (Scheduler.transmitLen pair).toNat ∧
      (Scheduler.transmitLen pair).toNat ≤ 30740000 := by
  obtain ⟨_, atMost⟩ := RegularPair.size_bounds pair
  have product : length.toNat * pair.size.toNat ≤ 240000 * 16 :=
    Nat.mul_le_mul regular.short atMost
  rw [regular.toNat_transmitLen]
  omega

namespace Scheduler

/-- A transmission that has been issued: its command and its scan pair. -/
structure Transmission where
  command : ControlCommand
  pair : ScanPair

namespace Transmission

/-- From the execution of the command to the end of its length. -/
def interval (transmission : Transmission) : Interval where
  start := transmission.command.time
  stop :=
    transmission.command.time + transmission.command.executionLength.toNat

/-- How long power is emitted: the pulses without their restore times. -/
def emission (transmission : Transmission) : Nat :=
  (transmission.pair.transmit.map fun pulse => pulse.length.toNat).sum

/-- The command lasts for its pulses, their restore times and the delays. -/
structure KeepsDuty (transmission : Transmission) : Prop where
  type : transmission.command.type = .transmitCommand
  lasts :
    transmission.command.executionLength.toNat =
      dutyFactor.toNat * transmission.emission + 14300

/-- The length of the interval is the length of the command. -/
theorem length_interval (transmission : Transmission) :
    transmission.interval.length =
      transmission.command.executionLength.toNat :=
  Nat.add_sub_cancel_left ..

end Transmission

/-- The transmissions among the commands of a placement. -/
def transmissionsOf
    (pair : ScanPair)
    (commandList : List ControlCommand) :
    List Transmission :=
  (commandList.filter fun command => command.type = .transmitCommand).map
    fun command => ⟨command, pair⟩

/-- The transmissions that a visit issues. -/
def Visit.transmissions (visit : Visit) : List Transmission :=
  match visit.call with
  | some call => transmissionsOf call.pair call.result.2
  | none => []

/-- The transmissions that a tick issues, in order. -/
def transmissions
    (platform : Platform)
    (scheduler : Scheduler)
    (time : UInt64) :
    List Transmission :=
  (visits platform scheduler time).flatMap Visit.transmissions

/-! ## One placement -/

section Placement

variable
  {lines : Timelines}
  {pair : ScanPair}
  {length idx : UInt32}
  {time : UInt64}

/-- The transmit command that a placement at an index issues. -/
def transmitCommand
    (pair : ScanPair)
    (startTime : UInt64)
    (idx queryId : UInt32) :
    ControlCommand where
  type := .transmitCommand
  referanceTime :=
    transmitExecTime startTime idx - reserveTime.toUInt64
      - blankDelay.toUInt64 - frequencyDelay.toUInt64
  executionTime := transmitExecTime startTime idx
  executionLength := transmitLen pair
  queryId := queryId

/-- A scan transmits once. -/
theorem transmissionsOf_scanCommands
    (pair : ScanPair)
    (startTime : UInt64)
    (idx queryId : UInt32) :
    transmissionsOf pair (scanCommands pair startTime idx queryId) =
      [⟨transmitCommand pair startTime idx queryId, pair⟩] := rfl

/-- A placement that answers `nop` transmits nothing. -/
theorem transmissionsOf_nop (pair : ScanPair) :
    transmissionsOf pair [{}] = [] := rfl

/-- The execution time of the transmission, from its absolute chunk. -/
theorem StartsAt.transmitExecTime_eq
    (starts : StartsAt lines time)
    (shallow : idx.toNat < 1500)
    (early : time.toNat + 5000000000 ≤ 2 ^ 64) :
    (transmitExecTime time idx).toNat =
      (lines.dcu.baseChunk + idx.toNat) * 10000 + 270000 := by
  have base := starts.baseChunk_mul .dcu
  rw [toNat_transmitExecTime shallow early, ← base, Nat.add_mul]
  rfl

/-- The transmission of a found index finds its sector vacant. -/
theorem findsVacant_transmitCommand
    (found : placementIndex lines pair = some idx)
    (starts : StartsAt lines time)
    (early : time.toNat + 5000000000 ≤ 2 ^ 64)
    (queryId : UInt32) :
    FindsVacant lines (transmitCommand pair time idx queryId) := by
  obtain ⟨_, shallow⟩ := bounds_of_placementIndex found
  obtain ⟨_, fits, _⟩ := findIndex_eq_some_iff.mp found
  refine ⟨lines.dcu.baseChunk + idx.toNat, ?_, ?_⟩
  · exact starts.transmitExecTime_eq shallow early
  · change Vacant _ _ (_ + ((transmitLen pair).toNat + 9999) / 10000)
    rw [← GoodPlacement.toNat_chunkCount_transmitLen]
    exact vacant_of_empty fits.dcuEmpty

/-- After its placement the chunks of a transmission are busy. -/
theorem holdsChunks_transmitCommand
    (found : placementIndex lines pair = some idx)
    (regular : RegularPair pair length)
    (starts : StartsAt lines time)
    (early : time.toNat + 5000000000 ≤ 2 ^ 64)
    (queryId : UInt32) :
    HoldsChunks (lines.performAll (labelCalls pair idx))
      (transmitCommand pair time idx queryId) := by
  obtain ⟨_, shallow⟩ := bounds_of_placementIndex found
  obtain ⟨long, short⟩ := regular.transmitLen_bounds
  refine ⟨lines.dcu.baseChunk + idx.toNat, ?_, long, ?_⟩
  · exact starts.transmitExecTime_eq shallow early
  · intro chunk lower upper
    change chunk ≤ _ + (transmitLen pair).toNat / 10000 at upper
    obtain ⟨offset, rfl⟩ := Nat.exists_eq_add_of_le
      (Nat.le_trans (Nat.le_add_right _ (idx.toNat + 1)) lower)
    obtain ⟨call, inTransmit, writes⟩ :=
      writes_transmitCalls regular shallow
        (by omega : idx.toNat < offset) (by omega)
    have onDcu := (target_of_mem_transmitCalls inTransmit).1
    have busy :
        ((lines.performAll (labelCalls pair idx)).get call.target).Busy
          ((lines.get call.target).baseChunk + offset) :=
      Timelines.busy_performAll_of_writes
        (fun _ => label_ne_empty_of_mem_labelCalls)
        (mem_labelCalls_iff.mpr (.inr (.inl inTransmit)))
        (by omega) writes
    rwa [onDcu] at busy

/-- The transmission of a found index is booked. -/
theorem booked_transmitCommand
    (found : placementIndex lines pair = some idx)
    (regular : RegularPair pair length)
    (starts : StartsAt lines time)
    (early : time.toNat + 5000000000 ≤ 2 ^ 64)
    (queryId : UInt32) :
    Booked (lines.performAll (labelCalls pair idx))
      [transmitCommand pair time idx queryId] where
  holds command member := by
    rw [List.mem_singleton.mp member]
    exact holdsChunks_transmitCommand found regular starts early queryId
  spaced := List.pairwise_singleton ..
  reference command member needed needs := by
    obtain ⟨_, shallow⟩ := bounds_of_placementIndex found
    have isReserve : CommandProcessor.transmitReserve.toNat = 11200 := rfl
    rw [List.mem_singleton.mp member] at needs ⊢
    cases needs
    change (transmitExecTime time idx - reserveTime.toUInt64
      - blankDelay.toUInt64 - frequencyDelay.toUInt64).toNat + _ ≤
        (transmitExecTime time idx).toNat
    have exec := toNat_transmitExecTime shallow early
    have bounded := (transmitExecTime time idx).toNat_lt
    rw [isReserve, UInt64.toNat_sub, UInt64.toNat_sub, UInt64.toNat_sub]
    simp only [UInt32.toNat_toUInt64, toNat_reserveTime, toNat_blankDelay,
      toNat_frequencyDelay]
    omega

/-- A placement for a regular pair joins the transmissions booked so far. -/
theorem Booked.placeScan_transmissions
    {waiting : List ControlCommand}
    (booked : Booked lines waiting)
    (regular : RegularPair pair length)
    (starts : StartsAt lines time)
    (early : time.toNat + 5000000000 ≤ 2 ^ 64)
    (queryId : UInt32) :
    Booked (Scheduler.placeScan lines pair queryId).1
      ((transmissionsOf pair (Scheduler.placeScan lines pair queryId).2).map
        Transmission.command ++ waiting) := by
  cases found : placementIndex lines pair with
  | none =>
      rw [placeScan_of_none queryId found]
      exact booked
  | some idx =>
      have keeps :
          ∀ name chunk, (lines.get name).Busy chunk →
            ((lines.performAll (labelCalls pair idx)).get name).Busy
              chunk :=
        fun _ _ busy =>
          Timelines.busy_performAll
            (fun _ => label_ne_empty_of_mem_labelCalls) busy
      by_cases late : 275000 ≤ pair.receiveTime.toNat
      · have atTime : lines.dcu.startTime = time := starts.startTime .dcu
        rw [placeScan_of_late queryId found late, atTime]
        dsimp only
        rw [transmissionsOf_scanCommands, List.map_singleton]
        refine booked.append keeps
          (booked_transmitCommand found regular starts early queryId) ?_
        intro command member
        rw [List.mem_singleton.mp member]
        exact findsVacant_transmitCommand found starts early queryId
      · rw [placeScan_of_early queryId found late]
        dsimp only
        rw [transmissionsOf_nop]
        exact booked.of_busy keeps

/-- Every transmission of a placement for a regular pair keeps the duty. -/
theorem keepsDuty_of_mem_transmissionsOf
    (regular : RegularPair pair length)
    {queryId : UInt32}
    {transmission : Transmission}
    (member :
      transmission ∈
        transmissionsOf pair (placeScan lines pair queryId).2) :
    transmission.KeepsDuty := by
  rcases placeScan_cases lines pair queryId with
    isNop | ⟨idx, _, _, result⟩
  · rw [isNop] at member
    cases member
  · rw [result, transmissionsOf_scanCommands, List.mem_singleton] at member
    subst member
    refine ⟨rfl, ?_⟩
    change (transmitLen pair).toNat = 8 * _ + 14300
    rw [Transmission.emission, regular.sum_transmit,
      regular.toNat_transmitLen]

end Placement

/-! ## One tick -/

section Tick

variable
  (platform : Platform)
  {lines : Timelines}
  {time : UInt64}

/-- A visit joins its transmissions to those booked so far. -/
theorem Booked.visit_transmissions
    {waiting : List ControlCommand}
    (booked : Booked lines waiting)
    (starts : StartsAt lines time)
    (early : time.toNat + 5000000000 ≤ 2 ^ 64)
    (query : Query) :
    Booked ((Scheduler.visit platform lines query).linesAfter lines)
      ((Scheduler.visit platform lines query).transmissions.map
        Transmission.command ++ waiting) := by
  unfold Visit.linesAfter Visit.transmissions Scheduler.visit
  by_cases scanned : query.ready && scans query.type
  · obtain ⟨length, regular⟩ :=
      RegularPair.of_buildScanPair platform.equation query.range query.rcs
        query.type
    simp only [scanned, if_true]
    exact booked.placeScan_transmissions regular starts early query.id
  · simp only [scanned]
    exact booked

/-- So do the visits of all queries, one after the other. -/
theorem Booked.visitsFrom_transmissions
    {queries : List Query}
    {waiting : List ControlCommand}
    (booked : Booked lines waiting)
    (starts : StartsAt lines time)
    (early : time.toNat + 5000000000 ≤ 2 ^ 64) :
    Booked (linesAfter (Scheduler.visitsFrom platform queries lines) lines)
      (((Scheduler.visitsFrom platform queries lines).flatMap
          Visit.transmissions).map Transmission.command ++ waiting) := by
  induction queries generalizing lines waiting with
  | nil =>
      exact booked
  | cons query rest inductionHypothesis =>
      have first := booked.visit_transmissions platform starts early query
      have later :=
        inductionHypothesis first (starts.visit platform query)
      rw [Scheduler.visitsFrom, List.flatMap_cons, List.map_append,
        List.append_assoc]
      exact later.of_perm (List.perm_append_comm_assoc ..)

/-- A tick joins its transmissions to those booked so far. -/
theorem Booked.run_transmissions
    {scheduler : Scheduler}
    {waiting : List ControlCommand}
    (booked : Booked (scheduler.lines.moveTimeline time) waiting)
    (starts : StartsAt (scheduler.lines.moveTimeline time) time)
    (early : time.toNat + 5000000000 ≤ 2 ^ 64) :
    Booked (Scheduler.run platform scheduler time).1.lines
      ((transmissions platform scheduler time).map Transmission.command ++
        waiting) := by
  rw [run_lines]
  exact booked.visitsFrom_transmissions platform starts early

/-- Every call of a tick is made for some query. -/
theorem scanCall_of_mem_visitsFrom
    {queries : List Query}
    {visit : Visit}
    (member : visit ∈ visitsFrom platform queries lines)
    {call : ScanCall}
    (makes : visit.call = some call) :
    ∃ query found, call = scanCall platform found query := by
  induction queries generalizing lines with
  | nil =>
      cases member
  | cons query rest inductionHypothesis =>
      rcases List.mem_cons.mp member with rfl | later
      · simp only [Scheduler.visit] at makes
        split at makes
        · exact ⟨query, lines, (Option.some.inj makes).symm⟩
        · cases makes
      · exact inductionHypothesis later

/-- Every transmission of a tick keeps the duty. -/
theorem keepsDuty_of_mem_transmissions
    {scheduler : Scheduler}
    {transmission : Transmission}
    (member : transmission ∈ transmissions platform scheduler time) :
    transmission.KeepsDuty := by
  obtain ⟨visit, isVisit, ofVisit⟩ := List.mem_flatMap.mp member
  unfold Visit.transmissions at ofVisit
  split at ofVisit
  · next call makes =>
      obtain ⟨query, lines, rfl⟩ :=
        scanCall_of_mem_visitsFrom platform isVisit makes
      obtain ⟨length, regular⟩ :=
        RegularPair.of_buildScanPair platform.equation query.range query.rcs
          query.type
      exact keepsDuty_of_mem_transmissionsOf regular ofVisit
  · cases ofVisit

/-- The transmissions of a tick are its transmit commands. -/
theorem map_command_transmissions
    (scheduler : Scheduler)
    (time : UInt64) :
    (transmissions platform scheduler time).map Transmission.command =
      (run platform scheduler time).2.filter fun command =>
        command.type = .transmitCommand := by
  rw [transmissions, run_commands, List.map_flatMap, List.filter_flatMap]
  congr 1
  funext visit
  unfold Visit.transmissions Visit.issued
  cases visit.call with
  | some call =>
      simp [transmissionsOf, Function.comp_def]
  | none =>
      dsimp only
      split
      · rfl
      · rfl

end Tick

end Scheduler

/-! ## Runs of the engine -/

namespace ModelEngine

open Scheduler (Booked StartsAt Transmission)

variable
  {commandQueues : CommandQueue}
  {eventQueues : EventQueue}
  (platform : Scheduler.Platform)

/-- The transmissions that a step issues. -/
def transmissions
    (engine : ModelEngine commandQueues eventQueues) :
    List Transmission :=
  engine.triggered.transmissions platform engine.modelTime

/-- The transmissions that steps issue, in order. -/
def allTransmissions
    (started : List (ModelEngine commandQueues eventQueues)) :
    List Transmission :=
  started.flatMap (transmissions platform)

/-- A state whose next step finds earlier transmissions booked. -/
structure Transmitting
    (engine : ModelEngine commandQueues eventQueues)
    (history : List Transmission) :
    Prop where
  boundary : engine.modelTime.toNat % 1000000 = 0
  starts :
    StartsAt (engine.shed.lines.moveTimeline engine.modelTime)
      engine.modelTime
  booked :
    Booked (engine.shed.lines.moveTimeline engine.modelTime)
      (history.map Transmission.command)

/-- A new engine has not transmitted yet. -/
theorem transmitting_new (evQueue : eventQueues.Carrier) :
    (new evQueue :
      ModelEngine commandQueues eventQueues).Transmitting [] where
  boundary := rfl
  starts := (inProtocol_new evQueue).starts
  booked := .nil _

/-- A step adds its transmissions to the history. -/
theorem Transmitting.step
    {engine : ModelEngine commandQueues eventQueues}
    {history : List Transmission}
    (transmitting : engine.Transmitting history)
    (early : engine.modelTime.toNat + 5000000000 ≤ 2 ^ 64) :
    (engine.step platform).1.Transmitting
      (history ++ engine.transmissions platform) := by
  have boundary := transmitting.boundary
  have nextTime :=
    toNat_modelTime_step platform
      (by omega : engine.modelTime.toNat + 1000000 < 2 ^ 64)
  have starts : StartsAt (engine.triggered.lines.moveTimeline
      engine.modelTime) engine.modelTime := transmitting.starts
  have booked : Booked (engine.triggered.lines.moveTimeline
      engine.modelTime) (history.map Transmission.command) :=
    transmitting.booked
  have ran : StartsAt (engine.step platform).1.shed.lines engine.modelTime :=
    starts.run platform
  refine ⟨by omega, ⟨?_, by omega⟩, ?_⟩
  · intro name
    rw [Timelines.get_moveTimeline, ← UInt64.toNat_inj]
    apply Timeline.toNat_startTime_moveTimeline
    · rw [ran.startTime, UInt64.le_iff_toNat_le]
      omega
    · omega
  · have served := booked.run_transmissions platform starts early
    have inOrder := served.of_perm List.perm_append_comm
    rw [List.map_append]
    apply inOrder.of_busy
    intro name chunk busy
    rw [Timelines.get_moveTimeline]
    apply busy.moveTimeline
    · omega
    · rw [nextTime]
      exact congrArg (·.toNat + 1000000) (ran.startTime name).symm

/-- Every step of a run from some state adds its transmissions. -/
theorem booked_allTransmissions
    (fuel : Nat)
    {engine : ModelEngine commandQueues eventQueues}
    {history : List Transmission}
    (transmitting : engine.Transmitting history)
    (early :
      engine.modelTime.toNat + fuel * 1000000 + 5000000000 ≤ 2 ^ 64) :
    ∃ lines,
      Booked lines
        ((history ++
          allTransmissions platform (steps platform fuel engine)).map
            Transmission.command) := by
  induction fuel generalizing engine history with
  | zero =>
      rw [steps, allTransmissions, List.flatMap_nil, List.append_nil]
      exact ⟨_, transmitting.booked⟩
  | succ fuel inductionHypothesis =>
      have nextTime :=
        toNat_modelTime_step platform
          (by omega : engine.modelTime.toNat + 1000000 < 2 ^ 64)
      rw [steps]
      split
      · have later :=
          inductionHypothesis (transmitting.step platform (by omega))
            (by omega)
        rwa [allTransmissions, List.flatMap_cons, ← List.append_assoc]
      · rw [allTransmissions, List.flatMap_nil, List.append_nil]
        exact ⟨_, transmitting.booked⟩

/-- Every transmission of a run keeps the duty. -/
theorem keepsDuty_of_mem_allTransmissions
    {started : List (ModelEngine commandQueues eventQueues)}
    {transmission : Transmission}
    (member : transmission ∈ allTransmissions platform started) :
    transmission.KeepsDuty := by
  obtain ⟨engine, _, ofStep⟩ := List.mem_flatMap.mp member
  exact Scheduler.keepsDuty_of_mem_transmissions platform ofStep

/-- The transmissions of a run are the transmit commands that it issues. -/
theorem map_command_allTransmissions
    (started : List (ModelEngine commandQueues eventQueues)) :
    (allTransmissions platform started).map Transmission.command =
      (allIssued platform started).filter fun command =>
        command.type = .transmitCommand := by
  rw [allTransmissions, allIssued, List.map_flatMap, List.filter_flatMap]
  congr 1
  funext engine
  have ofTick :=
    Scheduler.map_command_transmissions platform engine.triggered
      engine.modelTime
  rw [transmissions, ofTick, issued, List.filter_filter]
  apply List.filter_congr
  intro command _
  by_cases isTransmit : command.type = .transmitCommand
  · simp [isTransmit]
  · simp [isTransmit]

/-- The transmissions of a run do not overlap. -/
theorem pairwise_allTransmissions
    (evQueue : eventQueues.Carrier)
    (fuel : Nat)
    (early : fuel * 1000000 + 5000000000 ≤ 2 ^ 64) :
    ((allTransmissions platform
        (steps platform fuel
          (new evQueue : ModelEngine commandQueues eventQueues))).map
      Transmission.interval).Pairwise Interval.Apart := by
  have timeZero :
      (new evQueue : ModelEngine commandQueues
        eventQueues).modelTime.toNat = 0 := rfl
  obtain ⟨lines, booked⟩ :=
    booked_allTransmissions platform fuel (transmitting_new evQueue)
      (by omega)
  rw [List.pairwise_map]
  apply (List.pairwise_map.mp booked.spaced).imp_of_mem
  intro first second firstMember secondMember spaced
  exact spaced.transmit
    (keepsDuty_of_mem_allTransmissions platform firstMember).type
    (keepsDuty_of_mem_allTransmissions platform secondMember).type

/--
In every run from time zero, any two transmit commands that have been issued
are executed one after the other.
-/
theorem transmitCommands_apart
    (evQueue : eventQueues.Carrier)
    (fuel : Nat)
    (early : fuel * 1000000 + 5000000000 ≤ 2 ^ 64) :
    ((allIssued platform
        (steps platform fuel
          (new evQueue : ModelEngine commandQueues eventQueues))).filter
      fun command => command.type = .transmitCommand).Pairwise
        fun first second =>
          first.time + first.executionLength.toNat ≤ second.time ∨
            second.time + second.executionLength.toNat ≤ first.time := by
  rw [← map_command_allTransmissions, List.pairwise_map]
  exact List.pairwise_map.mp
    (pairwise_allTransmissions platform evQueue fuel early)

/-- Two confirm queries in one step transmit one after the other. -/
theorem transmitCommands_apart_confirmsBoth :
    ((allIssued .twoTargets (steps .twoTargets 1 confirmsBoth)).filter
        fun command => command.type = .transmitCommand).length = 2 ∧
      ((allIssued .twoTargets (steps .twoTargets 1 confirmsBoth)).filter
        fun command => command.type = .transmitCommand).Pairwise
          fun first second =>
            first.time + first.executionLength.toNat ≤ second.time ∨
              second.time + second.executionLength.toNat ≤ first.time :=
  ⟨by decide +kernel, transmitCommands_apart .twoTargets _ 1 (by decide)⟩

/--
In every run from time zero and every window of time, the transmissions that
lie in the window emit power for at most an eighth of it.
-/
theorem emission_within_window
    (evQueue : eventQueues.Carrier)
    (fuel : Nat)
    (early : fuel * 1000000 + 5000000000 ≤ 2 ^ 64)
    (window : Interval) :
    let inside :=
      (allTransmissions platform
        (steps platform fuel
          (new evQueue : ModelEngine commandQueues eventQueues))).filter
        fun transmission => transmission.interval.Within window
    dutyFactor.toNat * (inside.map Transmission.emission).sum +
        14300 * inside.length ≤ window.length := by
  intro inside
  have apart :
      (inside.map Transmission.interval).Pairwise Interval.Apart :=
    List.pairwise_map.mpr
      ((List.pairwise_map.mp
        (pairwise_allTransmissions platform evQueue fuel early)).filter _)
  have bounded :=
    DisjointIntervals.sum_length_le apart (by
      intro interval member
      obtain ⟨transmission, isInside, rfl⟩ := List.mem_map.mp member
      simpa using (List.mem_filter.mp isInside).2)
  have lengths :
      ∀ transmission ∈ inside,
        transmission.interval.length =
          dutyFactor.toNat * transmission.emission + 14300 := by
    intro transmission isInside
    rw [transmission.length_interval]
    exact (keepsDuty_of_mem_allTransmissions platform
      (List.mem_filter.mp isInside).1).lasts
  calc
    dutyFactor.toNat * (inside.map Transmission.emission).sum +
          14300 * inside.length =
        (inside.map fun transmission =>
          dutyFactor.toNat * transmission.emission + 14300).sum := by
      rw [List.sum_map_add, List.sum_map_mul_left, List.map_const',
        List.sum_replicate_nat, Nat.mul_comm 14300]
    _ = (inside.map fun transmission =>
          transmission.interval.length).sum := by
      rw [List.map_congr_left lengths]
    _ ≤ window.length := by
      rw [List.map_map] at bounded
      exact bounded

/-- The two transmissions, in the shortest window that has them both. -/
theorem emission_within_window_confirmsBoth :
    dutyFactor.toNat *
          (((allTransmissions .twoTargets
            (steps .twoTargets 1 confirmsBoth)).filter
              fun transmission =>
                transmission.interval.Within ⟨540000, 1194300⟩).map
            Transmission.emission).sum +
        14300 *
          ((allTransmissions .twoTargets
            (steps .twoTargets 1 confirmsBoth)).filter
              fun transmission =>
                transmission.interval.Within ⟨540000, 1194300⟩).length ≤
      654300 :=
  emission_within_window .twoTargets _ 1 (by decide) ⟨540000, 1194300⟩

end ModelEngine

end Radar
