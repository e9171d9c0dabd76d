import Radar.CommandValidation
import Radar.PlacementCommands
import Radar.PlacementReservations

namespace Radar

/-!
# The commands of one scan obey the exchange protocol

Whatever a scan pair holds, the only check that `place_scan` makes on its
commands leaves none of their times wrapped.  The five commands then keep all
distances that `validate` asks for.
-/

open Settings

/-- Any relation holds between the items of a list of at most one. -/
private theorem pairwise_of_length_le_one
    {Item : Type}
    {related : Item → Item → Prop}
    {items : List Item}
    (short : items.length ≤ 1) :
    items.Pairwise related := by
  match items, short with
  | [], _ => exact .nil
  | [_], _ => exact List.pairwise_singleton ..

namespace CommandProcessor

variable {queues : CommandQueue}

/-- No two commands of a processor have the same type. -/
def OneOfEach (processor : CommandProcessor queues) : Prop :=
  ∀ type,
    (processor.allCommands.filter
      (fun command => command.type = type)).length ≤ 1

theorem OneOfEach.eq
    {processor : CommandProcessor queues}
    (oneOfEach : processor.OneOfEach)
    {first second : ControlCommand}
    (firstMember : first ∈ processor.allCommands)
    (secondMember : second ∈ processor.allCommands)
    (sameType : first.type = second.type) :
    first = second := by
  have inFirst :
      first ∈ processor.allCommands.filter
        (fun command => command.type = second.type) :=
    List.mem_filter.mpr ⟨firstMember, by simpa using sameType⟩
  have inSecond :
      second ∈ processor.allCommands.filter
        (fun command => command.type = second.type) :=
    List.mem_filter.mpr ⟨secondMember, by simp⟩
  obtain ⟨only, shape⟩ :=
    List.length_eq_one_iff.mp
      (Nat.le_antisymm (oneOfEach second.type)
        (List.length_pos_of_mem inSecond))
  rw [shape, List.mem_singleton] at inFirst inSecond
  rw [inFirst, inSecond]

/-- A relation of neighbours holds of at most one queued command. -/
theorem OneOfEach.isChain
    {processor : CommandProcessor queues}
    (oneOfEach : processor.OneOfEach)
    (type : CommandType)
    (related : ControlCommand → ControlCommand → Prop) :
    (processor.currentOf type).IsChain related := by
  have short : (processor.currentOf type).length ≤ 1 := by
    have all := oneOfEach type
    rw [allCommands, List.filter_append, List.length_append] at all
    exact (Nat.le_add_left _ _).trans all
  exact (pairwise_of_length_le_one short).isChain

/-- A sound processor with one command of each type passes the validation. -/
theorem validate_of_sound
    {processor : CommandProcessor queues}
    (sound : processor.Sound)
    (oneOfEach : processor.OneOfEach) :
    processor.validate = true := by
  rw [validate_eq_true_iff]
  refine ⟨fun type _ => oneOfEach.isChain type _, ?_,
    oneOfEach.isChain .transmitCommand _, ?_⟩
  · intro command member need needed
    rw [mem_currentCommands_iff] at member
    obtain ⟨other, otherMember, sameType, sameQuery, early⟩ :=
      sound.precursor command member need needed
    rw [← mem_allCommands_iff] at otherMember
    have exists_first :
        (firstOfQuery processor.allCommands need.1 command).isSome := by
      rw [firstOfQuery, List.find?_isSome]
      exact ⟨other, otherMember, by simp [sameType, sameQuery]⟩
    obtain ⟨first, found⟩ := Option.isSome_iff_exists.mp exists_first
    obtain ⟨firstMember, firstType, _⟩ := firstOfQuery_eq_some found
    have same : first = other :=
      oneOfEach.eq firstMember otherMember (firstType.trans sameType.symm)
    refine ⟨first, found, ?_⟩
    subst same
    change first.executionTime.toNat + _ ≤ command.executionTime.toNat
      at early
    rw [UInt64.le_iff_toNat_le, toNat_sub_of_le (by omega),
      UInt32.toNat_toUInt64]
    omega
  · intro command member needed isReserve
    rw [mem_currentCommands_iff] at member
    have early := sound.reference command member needed isReserve
    change _ ≤ command.executionTime.toNat at early
    rw [UInt64.le_iff_toNat_le, toNat_sub_of_le (by omega),
      UInt32.toNat_toUInt64, UInt64.le_iff_toNat_le]
    exact ⟨by omega, fun _ => by omega⟩

end CommandProcessor

namespace Scheduler

/-- The five commands of one scan, as the protocol wants them. -/
structure ScanExchange
    (startTime : UInt64)
    (pair : ScanPair)
    (queryId : UInt32)
    (commands : List ControlCommand) :
    Prop where
  types :
    commands.map ControlCommand.type =
      [.transmitCommand, .trRephaseCommand, .protectCommand,
        .rsRephaseCommand, .receiveCommand]
  queryIds : ∀ command ∈ commands, command.queryId = queryId
  offset :
    ∀ transmit ∈ commands, ∀ receive ∈ commands,
      transmit.type = .transmitCommand → receive.type = .receiveCommand →
        receive.time =
          transmit.time +
            roundUp pair.receiveTime.toNat frequencyFactor.toNat
  notBefore :
    ∀ command ∈ commands,
      startTime ≤ command.referanceTime ∧
        startTime ≤ command.executionTime
  referance :
    ∀ command ∈ commands, command.referanceTime ≤ command.executionTime
  valid :
    ∀ (queues : CommandQueue) (processor : CommandProcessor queues),
      processor.execedCommands = [] →
      (queues.items processor.commandQueue).Perm commands →
      processor.validate = true

section Exchange

variable
  {pair : ScanPair}
  {startTime : UInt64}
  {idx queryId : UInt32}

theorem toNat_transmitReference
    (shallow : idx.toNat < 1500)
    (early : startTime.toNat + 5000000000 ≤ 2 ^ 64) :
    (transmitExecTime startTime idx - reserveTime.toUInt64 -
        blankDelay.toUInt64 - frequencyDelay.toUInt64).toNat =
      startTime.toNat + idx.toNat * 10000 + 258800 := by
  rw [UInt64.toNat_sub, UInt64.toNat_sub, UInt64.toNat_sub,
    toNat_transmitExecTime shallow early, UInt32.toNat_toUInt64,
    UInt32.toNat_toUInt64, UInt32.toNat_toUInt64, toNat_reserveTime,
    toNat_blankDelay, toNat_frequencyDelay]
  omega

theorem toNat_receiveReference
    (shallow : idx.toNat < 1500)
    (early : startTime.toNat + 5000000000 ≤ 2 ^ 64) :
    (receiveExecTime pair startTime idx - reserveTime.toUInt64).toNat =
      startTime.toNat + idx.toNat * 10000 +
        (rangeOffsetLen pair).toNat + 540000 := by
  have := (rangeOffsetLen pair).toNat_lt
  rw [UInt64.toNat_sub, toNat_receiveExecTime shallow early,
    UInt32.toNat_toUInt64, toNat_reserveTime]
  omega

/-- One command of each type. -/
theorem filter_scanCommands_length_le
    (pair : ScanPair)
    (startTime : UInt64)
    (idx queryId : UInt32)
    (type : CommandType) :
    ((scanCommands pair startTime idx queryId).filter
      (fun command => command.type = type)).length ≤ 1 := by
  cases type <;> simp [scanCommands]

/-- The commands that a command of a scan needs are there, and in time. -/
theorem exists_precedes_of_mem_scanCommands
    (shallow : idx.toNat < 1500)
    (early : startTime.toNat + 5000000000 ≤ 2 ^ 64)
    {command : ControlCommand}
    (member : command ∈ scanCommands pair startTime idx queryId)
    {need : CommandType × UInt32}
    (needed : need ∈ CommandProcessor.precursors command.type) :
    ∃ other ∈ scanCommands pair startTime idx queryId,
      CommandProcessor.Precedes need.1 need.2 other command := by
  simp only [scanCommands, List.mem_cons, List.not_mem_nil, or_false,
    exists_eq_or_imp, exists_eq_left] at member ⊢
  have trRephase := toNat_transmitRephaseTime shallow early
  have transmit := toNat_transmitExecTime shallow early
  have rsRephase := @toNat_receiveRephaseTime pair startTime idx shallow early
  have protect := @toNat_antennaProtectionTime pair startTime idx shallow early
  have receive := @toNat_receiveExecTime pair startTime idx shallow early
  rcases member with rfl | rfl | rfl | rfl | rfl
  · obtain rfl : need = (.trRephaseCommand, phaseDelay) := by
      simpa [CommandProcessor.precursors] using needed
    refine .inr (.inl ⟨rfl, rfl, ?_⟩)
    simp only [ControlCommand.time, toNat_phaseDelay]
    omega
  · simp [CommandProcessor.precursors] at needed
  · simp [CommandProcessor.precursors] at needed
  · simp [CommandProcessor.precursors] at needed
  · obtain rfl | rfl :
        need = (.protectCommand, channelSwitchDelay) ∨
          need = (.rsRephaseCommand, phaseDelay) := by
      simpa [CommandProcessor.precursors] using needed
    · refine .inr (.inr (.inl ⟨rfl, rfl, ?_⟩))
      simp only [ControlCommand.time, toNat_channelSwitchDelay]
      omega
    · refine .inr (.inr (.inr (.inl ⟨rfl, rfl, ?_⟩)))
      simp only [ControlCommand.time, toNat_phaseDelay]
      omega

/-- Reference times follow the first chunk and precede their commands. -/
theorem referance_of_mem_scanCommands
    (shallow : idx.toNat < 1500)
    (early : startTime.toNat + 5000000000 ≤ 2 ^ 64)
    {command : ControlCommand}
    (member : command ∈ scanCommands pair startTime idx queryId) :
    startTime.toNat ≤ command.referanceTime.toNat ∧
      command.referanceTime.toNat ≤ command.executionTime.toNat ∧
      ∀ needed, CommandProcessor.reserve command.type = some needed →
        command.referanceTime.toNat + needed.toNat ≤ command.time := by
  simp only [scanCommands, List.mem_cons, List.not_mem_nil, or_false]
    at member
  rcases member with rfl | rfl | rfl | rfl | rfl <;>
    dsimp only [ControlCommand.time]
  · have reference := toNat_transmitReference shallow early
    have execution := toNat_transmitExecTime shallow early
    refine ⟨by omega, by omega, ?_⟩
    rintro _ ⟨rfl⟩
    have delays : CommandProcessor.transmitReserve.toNat = 11200 := rfl
    omega
  · have execution := toNat_transmitRephaseTime shallow early
    exact ⟨by omega, Nat.le_refl _, by simp [CommandProcessor.reserve]⟩
  · have execution :=
      @toNat_antennaProtectionTime pair startTime idx shallow early
    exact ⟨by omega, Nat.le_refl _, by simp [CommandProcessor.reserve]⟩
  · have execution :=
      @toNat_receiveRephaseTime pair startTime idx shallow early
    exact ⟨by omega, Nat.le_refl _, by simp [CommandProcessor.reserve]⟩
  · have reference := @toNat_receiveReference pair startTime idx shallow early
    have execution := @toNat_receiveExecTime pair startTime idx shallow early
    refine ⟨by omega, by omega, ?_⟩
    rintro _ ⟨rfl⟩
    rw [toNat_reserveTime]
    omega

/-- A processor that holds only the commands of one scan is sound. -/
theorem sound_of_scanCommands
    (shallow : idx.toNat < 1500)
    (early : startTime.toNat + 5000000000 ≤ 2 ^ 64)
    {queues : CommandQueue}
    {processor : CommandProcessor queues}
    (noneExeced : processor.execedCommands = [])
    (holds :
      (queues.items processor.commandQueue).Perm
        (scanCommands pair startTime idx queryId)) :
    processor.Sound := by
  have pairwise
      (type : CommandType)
      (related : ControlCommand → ControlCommand → Prop) :
      ((queues.items processor.commandQueue).filter
        (fun command => command.type = type)).Pairwise related := by
    apply pairwise_of_length_le_one
    rw [(holds.filter _).length_eq]
    exact filter_scanCommands_length_le pair startTime idx queryId type
  refine ⟨fun type _ => pairwise type _, ?_, pairwise .transmitCommand _,
    ?_⟩
  · intro command member need needed
    obtain ⟨other, otherMember, precedes⟩ :=
      exists_precedes_of_mem_scanCommands shallow early
        (holds.mem_iff.mp member) needed
    refine ⟨other, ?_, precedes⟩
    rw [noneExeced, List.nil_append]
    exact holds.mem_iff.mpr otherMember
  · intro command member
    exact (referance_of_mem_scanCommands shallow early
      (holds.mem_iff.mp member)).2.2

/-- The commands of a scan that passes the offset check are an exchange. -/
theorem scanExchange_of_late
    (shallow : idx.toNat < 1500)
    (early : startTime.toNat + 5000000000 ≤ 2 ^ 64)
    (late : 275000 ≤ pair.receiveTime.toNat) :
    ScanExchange startTime pair queryId
      (scanCommands pair startTime idx queryId) where
  types := rfl
  queryIds := by
    simp [scanCommands]
  offset := by
    intro transmit transmitMember receive receiveMember isTransmit isReceive
    simp only [scanCommands, List.mem_cons, List.not_mem_nil, or_false]
      at transmitMember receiveMember
    rcases transmitMember with rfl | rfl | rfl | rfl | rfl
    case inl =>
      rcases receiveMember with rfl | rfl | rfl | rfl | rfl
      case inr.inr.inr.inr =>
        rw [ControlCommand.time, ControlCommand.time,
          toNat_receiveExecTime shallow early,
          toNat_transmitExecTime shallow early, toNat_frequencyFactor,
          ← toNat_rangeOffsetLen_of_le late]
        omega
      all_goals cases isReceive
    all_goals cases isTransmit
  notBefore := by
    intro command member
    obtain ⟨afterStart, ordered, _⟩ :=
      referance_of_mem_scanCommands shallow early member
    exact ⟨UInt64.le_iff_toNat_le.mpr afterStart,
      UInt64.le_iff_toNat_le.mpr (afterStart.trans ordered)⟩
  referance := by
    intro command member
    exact UInt64.le_iff_toNat_le.mpr
      (referance_of_mem_scanCommands shallow early member).2.1
  valid := by
    intro queues processor noneExeced holds
    apply CommandProcessor.validate_of_sound
      (sound_of_scanCommands shallow early noneExeced holds)
    intro type
    rw [CommandProcessor.allCommands, noneExeced, List.nil_append,
      CommandProcessor.currentCommands,
      (((queues.drain_perm processor.commandQueue).trans
        holds).filter _).length_eq]
    exact filter_scanCommands_length_le pair startTime idx queryId type

end Exchange

/--
Placing any scan pair at all issues the single `nop` or the five commands of
an exchange.
-/
theorem placeScan_scanExchange
    {lines : Timelines}
    (early : lines.dcu.startTime.toNat < 2 ^ 63)
    (pair : ScanPair)
    (queryId : UInt32) :
    (placeScan lines pair queryId).2 = [{}] ∨
      ScanExchange lines.dcu.startTime pair queryId
        (placeScan lines pair queryId).2 := by
  rcases placeScan_cases lines pair queryId with
    isNop | ⟨idx, found, late, placed⟩
  · exact .inl isNop
  · right
    rw [placed]
    exact scanExchange_of_late (bounds_of_placementIndex found).2
      (by omega) late

/-- The first scan of a fresh scheduler is an exchange. -/
theorem placeScan_scanExchange_new :
    ScanExchange 0 farScan 1 (placeScan .new farScan 1).2 :=
  (@placeScan_scanExchange .new (by decide) farScan 1).resolve_left
    (by decide +kernel)

end Scheduler

end Radar
