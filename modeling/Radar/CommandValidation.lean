import Radar.CommandProcessor

namespace Radar.CommandProcessor

/-!
# What a successful validation means

The checks compare neighbours and differences of unsigned times.  Neighbours
are enough, because the queue is read in the order of execution times.  The
differences are not: an unsigned difference that wraps looks like a long
delay.
-/

open Settings

variable {queues : CommandQueue}

/-- Commands that a command needs before it, with the shortest delays. -/
def precursors : CommandType → List (CommandType × UInt32)
  | .receiveCommand =>
      [(.protectCommand, channelSwitchDelay), (.rsRephaseCommand, phaseDelay)]
  | .transmitCommand => [(.trRephaseCommand, phaseDelay)]
  | _ => []

/-- Reserve that a command needs between reference and execution time. -/
def reserve : CommandType → Option UInt32
  | .receiveCommand => some reserveTime
  | .transmitCommand => some transmitReserve
  | _ => none

/-! ## The protocol -/

/-- Two phase changes leave the antenna the time that it needs. -/
def Apart (first second : ControlCommand) : Prop :=
  first.time + auCommandDelay.toNat ≤ second.time ∨
    second.time + auCommandDelay.toNat ≤ first.time

/-- A command lasts at a time. -/
def Lasts (command : ControlCommand) (time : Nat) : Prop :=
  command.time ≤ time ∧ time < command.time + command.executionLength.toNat

/-- No time belongs to both commands. -/
def Separate (first second : ControlCommand) : Prop :=
  ∀ time, ¬ (Lasts first time ∧ Lasts second time)

theorem Apart.symm
    {first second : ControlCommand}
    (apart : Apart first second) :
    Apart second first :=
  Or.symm apart

theorem Separate.symm
    {first second : ControlCommand}
    (separate : Separate first second) :
    Separate second first :=
  fun time both => separate time both.symm

/-- A command of a type for the same query, early enough before another. -/
def Precedes
    (type : CommandType)
    (delay : UInt32)
    (other command : ControlCommand) :
    Prop :=
  other.type = type ∧ other.queryId = command.queryId ∧
    other.time + delay.toNat ≤ command.time

/-- The exchange protocol, with times as mathematical integers. -/
structure Sound (processor : CommandProcessor queues) : Prop where
  rephase :
    ∀ type, type = .trRephaseCommand ∨ type = .rsRephaseCommand →
      ((queues.items processor.commandQueue).filter
        (fun command => command.type = type)).Pairwise Apart
  precursor :
    ∀ command ∈ queues.items processor.commandQueue,
      ∀ need ∈ precursors command.type,
        ∃ other ∈ processor.execedCommands ++
            queues.items processor.commandQueue,
          Precedes need.1 need.2 other command
  transmit :
    ((queues.items processor.commandQueue).filter
      (fun command => command.type = .transmitCommand)).Pairwise Separate
  reference :
    ∀ command ∈ queues.items processor.commandQueue,
      ∀ needed, reserve command.type = some needed →
        command.referanceTime.toNat + needed.toNat ≤ command.time

/-! ## What the comparisons of the source let through -/

/-- Queued commands of a type in the order of execution. -/
def currentOf
    (processor : CommandProcessor queues)
    (type : CommandType) :
    List ControlCommand :=
  processor.currentCommands.filter fun command => command.type = type

/-- The unsigned comparison of neighbouring phase changes. -/
def ApartUnsigned (first second : ControlCommand) : Prop :=
  auCommandDelay.toUInt64 ≤ second.executionTime - first.executionTime

/-- The unsigned comparison of neighbouring transmissions. -/
def EndsBefore (first second : ControlCommand) : Prop :=
  first.executionTime + first.executionLength.toUInt64 ≤
    second.executionTime

/-- Every comparison of the validation, on the unsigned words it compares. -/
structure PassesComparisons (processor : CommandProcessor queues) : Prop where
  rephase :
    ∀ type, type = .trRephaseCommand ∨ type = .rsRephaseCommand →
      (processor.currentOf type).IsChain ApartUnsigned
  precursor :
    ∀ command ∈ processor.currentCommands,
      ∀ need ∈ precursors command.type,
        ∃ first,
          firstOfQuery processor.allCommands need.1 command = some first ∧
            need.2.toUInt64 ≤ command.executionTime - first.executionTime
  transmit : (processor.currentOf .transmitCommand).IsChain EndsBefore
  reference :
    ∀ command ∈ processor.currentCommands,
      ∀ needed, reserve command.type = some needed →
        needed.toUInt64 ≤ command.executionTime - command.referanceTime ∧
          (command.type = .receiveCommand →
            command.referanceTime ≤ command.executionTime)

/-! ## The comparisons as the source makes them -/

/-- One step of a loop over neighbours; the first command has none. -/
private theorem neighbour_eq_none_iff
    {isFirst fails : Prop} [Decidable isFirst] [Decidable fails]
    {message : String}
    {later : Option String} :
    (if isFirst then later else if fails then some message else later) =
        none ↔
      (isFirst ∨ ¬ fails) ∧ later = none := by
  by_cases first : isFirst
  · simp [first]
  · by_cases failing : fails
    · simp [first, failing]
    · simp [first, failing]

/-- The earlier command that a loop over neighbours remembers. -/
private def remembered (command : ControlCommand) : List ControlCommand :=
  if command.type = .nop then [] else [command]

private theorem isChain_remembered
    (related : ControlCommand → ControlCommand → Prop)
    (command : ControlCommand) :
    (remembered command ++ []).IsChain related := by
  unfold remembered
  split
  · exact .nil
  · exact .singleton _

private theorem isChain_remembered_cons
    {related : ControlCommand → ControlCommand → Prop}
    {previous command : ControlCommand}
    {rest : List ControlCommand}
    (isCommand : command.type ≠ .nop) :
    (remembered previous ++ command :: rest).IsChain related ↔
      (previous.type = .nop ∨ related previous command) ∧
        (remembered command ++ rest).IsChain related := by
  rw [remembered, remembered, if_neg isCommand]
  split
  · next isNop => simp [isNop]
  · next notNop => simp [notNop]

/-- The loop over phase changes checks the neighbours of each antenna. -/
theorem rephaseFault_eq_none_iff
    {prevTrRephase prevRsRephase : ControlCommand}
    {commands : List ControlCommand} :
    rephaseFault prevTrRephase prevRsRephase commands = none ↔
      (remembered prevTrRephase ++ commands.filter
          (fun command => command.type = .trRephaseCommand)).IsChain
        ApartUnsigned ∧
      (remembered prevRsRephase ++ commands.filter
          (fun command => command.type = .rsRephaseCommand)).IsChain
        ApartUnsigned := by
  induction commands generalizing prevTrRephase prevRsRephase with
  | nil =>
      simp only [rephaseFault, List.filter_nil, true_iff]
      exact ⟨isChain_remembered .., isChain_remembered ..⟩
  | cons command rest inductionHypothesis =>
      by_cases isTr : command.type = .trRephaseCommand
      · rw [rephaseFault, if_pos isTr, neighbour_eq_none_iff,
          inductionHypothesis, List.filter_cons_of_pos (by simpa using isTr),
          List.filter_cons_of_neg (by simp [isTr]),
          isChain_remembered_cons (by simp [isTr]), ApartUnsigned,
          UInt64.not_lt, and_assoc]
      · rw [rephaseFault, if_neg isTr,
          List.filter_cons_of_neg (by simpa using isTr)]
        by_cases isRs : command.type = .rsRephaseCommand
        · rw [if_pos isRs, neighbour_eq_none_iff, inductionHypothesis,
            List.filter_cons_of_pos (by simpa using isRs),
            isChain_remembered_cons (by simp [isRs]), ApartUnsigned,
            UInt64.not_lt, and_left_comm]
        · rw [if_neg isRs, inductionHypothesis,
            List.filter_cons_of_neg (by simpa using isRs)]

/-- The loop over transmissions checks their neighbours. -/
theorem restoreFault_eq_none_iff
    {prevTransmit : ControlCommand}
    {commands : List ControlCommand} :
    restoreFault prevTransmit commands = none ↔
      (remembered prevTransmit ++ commands.filter
          (fun command => command.type = .transmitCommand)).IsChain
        EndsBefore := by
  induction commands generalizing prevTransmit with
  | nil =>
      simp only [restoreFault, List.filter_nil, true_iff]
      exact isChain_remembered ..
  | cons command rest inductionHypothesis =>
      by_cases isTransmit : command.type = .transmitCommand
      · rw [restoreFault, if_pos isTransmit, neighbour_eq_none_iff,
          inductionHypothesis,
          List.filter_cons_of_pos (by simpa using isTransmit),
          isChain_remembered_cons (by simp [isTransmit]), EndsBefore,
          gt_iff_lt, UInt64.not_lt]
      · rw [restoreFault, if_neg isTransmit, inductionHypothesis,
          List.filter_cons_of_neg (by simpa using isTransmit)]

/-- A precursor check accepts when the first match is early enough. -/
theorem precursorFault_eq_none_iff
    {commands : List ControlCommand}
    {precursor : CommandType}
    {delay : UInt32}
    {early missing : String}
    {command : ControlCommand} :
    precursorFault commands precursor delay early missing command = none ↔
      ∃ first, firstOfQuery commands precursor command = some first ∧
        delay.toUInt64 ≤ command.executionTime - first.executionTime := by
  unfold precursorFault
  cases firstOfQuery commands precursor command with
  | none =>
      simp
  | some first =>
      simp [UInt64.not_lt]

/-- The two sections about precursors check all that a command needs. -/
theorem protectFault_and_phaseFault_eq_none_iff
    {commands : List ControlCommand}
    {command : ControlCommand} :
    protectFault commands command = none ∧
        phaseFault commands command = none ↔
      ∀ need ∈ precursors command.type,
        ∃ first, firstOfQuery commands need.1 command = some first ∧
          need.2.toUInt64 ≤ command.executionTime - first.executionTime := by
  unfold protectFault phaseFault
  cases command.type <;>
    simp [precursors, precursorFault_eq_none_iff]

private theorem fails_eq_none_iff
    {fails : Prop} [Decidable fails]
    {message : String}
    {later : Option String} :
    (if fails then some message else later) = none ↔
      ¬ fails ∧ later = none := by
  split
  · next failing => simp [failing]
  · next passing => simp [passing]

/-- The section about reserves checks the reserve that a command needs. -/
theorem referenceFault_eq_none_iff {command : ControlCommand} :
    referenceFault command = none ↔
      ∀ needed, reserve command.type = some needed →
        needed.toUInt64 ≤ command.executionTime - command.referanceTime ∧
          (command.type = .receiveCommand →
            command.referanceTime ≤ command.executionTime) := by
  unfold referenceFault
  by_cases isReceive : command.type = .receiveCommand
  · rw [if_pos isReceive, fails_eq_none_iff, fails_eq_none_iff,
      UInt64.not_lt, UInt64.not_lt]
    simp only [isReceive, reserve, Option.some.injEq, forall_eq',
      and_true, forall_const]
    exact and_comm
  · rw [if_neg isReceive]
    by_cases isTransmit : command.type = .transmitCommand
    · rw [if_pos isTransmit, fails_eq_none_iff, UInt64.not_lt]
      simp only [isTransmit, reserve, Option.some.injEq, forall_eq',
        reduceCtorEq, false_implies, and_true]
    · rw [if_neg isTransmit]
      have noReserve : reserve command.type = none := by
        revert isReceive isTransmit
        cases command.type <;> simp [reserve]
      simp [noReserve]

/-- The validation succeeds exactly when every comparison does. -/
theorem validate_eq_true_iff {processor : CommandProcessor queues} :
    processor.validate = true ↔ processor.PassesComparisons := by
  have sections :
      processor.validate = true ↔
        rephaseFault {} {} processor.currentCommands = none ∧
          (∀ command ∈ processor.currentCommands,
            protectFault processor.allCommands command = none) ∧
          (∀ command ∈ processor.currentCommands,
            phaseFault processor.allCommands command = none) ∧
          restoreFault {} processor.currentCommands = none ∧
          ∀ command ∈ processor.currentCommands,
            referenceFault command = none := by
    simp [validate, fault]
  rw [sections, rephaseFault_eq_none_iff, restoreFault_eq_none_iff]
  constructor
  · rintro ⟨⟨trRephase, rsRephase⟩, protects, phases, transmit, references⟩
    refine ⟨?_, ?_, transmit, ?_⟩
    · rintro type (rfl | rfl)
      · exact trRephase
      · exact rsRephase
    · intro command member
      exact protectFault_and_phaseFault_eq_none_iff.mp
        ⟨protects command member, phases command member⟩
    · intro command member
      exact referenceFault_eq_none_iff.mp (references command member)
  · intro passes
    refine ⟨⟨?_, ?_⟩, ?_, ?_, passes.transmit, ?_⟩
    · exact passes.rephase .trRephaseCommand (.inl rfl)
    · exact passes.rephase .rsRephaseCommand (.inr rfl)
    · intro command member
      exact (protectFault_and_phaseFault_eq_none_iff.mpr
        (passes.precursor command member)).1
    · intro command member
      exact (protectFault_and_phaseFault_eq_none_iff.mpr
        (passes.precursor command member)).2
    · intro command member
      exact referenceFault_eq_none_iff.mpr (passes.reference command member)

/-! ## From the comparisons to the protocol -/

/-- No comparison is fooled by an unsigned word that has wrapped. -/
structure NothingWraps (processor : CommandProcessor queues) : Prop where
  precursor :
    ∀ command ∈ processor.currentCommands,
      ∀ need ∈ precursors command.type,
        (∀ first,
          firstOfQuery processor.allCommands need.1 command = some first →
          first.time ≤ command.time) ∨
        ∃ other ∈ processor.allCommands,
          Precedes need.1 need.2 other command
  transmit :
    (processor.currentOf .transmitCommand).Pairwise fun first second =>
      first.time + first.executionLength.toNat < 2 ^ 64 ∨
        second.executionLength = 0
  reference :
    ∀ command ∈ processor.currentCommands,
      command.type = .transmitCommand →
      command.referanceTime ≤ command.executionTime

/-- A relation of neighbours in a sorted list becomes one of all pairs. -/
theorem pairwise_of_isChain
    {Item : Type}
    {near sorted far : Item → Item → Prop}
    {items : List Item}
    (combine :
      ∀ first second, near first second → sorted first second →
        far first second)
    (transitive :
      ∀ first second third, far first second → far second third →
        far first third)
    (chain : items.IsChain near)
    (order : items.Pairwise sorted) :
    items.Pairwise far := by
  induction items with
  | nil =>
      exact .nil
  | cons first rest inductionHypothesis =>
      have restFar := inductionHypothesis chain.tail order.of_cons
      refine List.pairwise_cons.mpr ⟨?_, restFar⟩
      cases rest with
      | nil =>
          simp
      | cons second later =>
          have neighbours : far first second :=
            combine first second (List.isChain_cons_cons.mp chain).1
              ((List.pairwise_cons.mp order).1 second List.mem_cons_self)
          refine List.forall_mem_cons.mpr ⟨neighbours, ?_⟩
          intro third member
          exact transitive first second third neighbours
            ((List.pairwise_cons.mp restFar).1 third member)

/-- Without a wrap the unsigned difference is the difference. -/
theorem toNat_sub_of_le
    {earlier later : UInt64}
    (ordered : earlier.toNat ≤ later.toNat) :
    (later - earlier).toNat = later.toNat - earlier.toNat := by
  rw [UInt64.toNat_sub]
  have := later.toNat_lt
  omega

theorem mem_currentCommands_iff
    {processor : CommandProcessor queues}
    {command : ControlCommand} :
    command ∈ processor.currentCommands ↔
      command ∈ queues.items processor.commandQueue :=
  (queues.drain_perm processor.commandQueue).mem_iff

theorem mem_allCommands_iff
    {processor : CommandProcessor queues}
    {command : ControlCommand} :
    command ∈ processor.allCommands ↔
      command ∈ processor.execedCommands ++
        queues.items processor.commandQueue := by
  rw [allCommands, List.mem_append, List.mem_append,
    mem_currentCommands_iff]

theorem currentOf_pairwise
    (processor : CommandProcessor queues)
    (type : CommandType) :
    (processor.currentOf type).Pairwise fun first second =>
      first.time ≤ second.time :=
  (queues.drain_pairwise processor.commandQueue).filter _

/-- A symmetric relation of queued commands does not depend on their order. -/
theorem currentOf_pairwise_iff
    {processor : CommandProcessor queues}
    {type : CommandType}
    {related : ControlCommand → ControlCommand → Prop}
    (symmetric :
      ∀ {first second}, related first second → related second first) :
    (processor.currentOf type).Pairwise related ↔
      ((queues.items processor.commandQueue).filter
        (fun command => command.type = type)).Pairwise related :=
  ((queues.drain_perm processor.commandQueue).filter _).pairwise_iff symmetric

theorem firstOfQuery_eq_some
    {commands : List ControlCommand}
    {type : CommandType}
    {command first : ControlCommand}
    (found : firstOfQuery commands type command = some first) :
    first ∈ commands ∧ first.type = type ∧
      first.queryId = command.queryId := by
  have holds := List.find?_some found
  simp only [decide_eq_true_eq] at holds
  exact ⟨List.mem_of_find?_eq_some found, holds⟩

/-- Neighbouring phase changes that are apart keep all of them apart. -/
theorem rephase_pairwise
    {processor : CommandProcessor queues}
    (passes : processor.PassesComparisons)
    {type : CommandType}
    (isRephase : type = .trRephaseCommand ∨ type = .rsRephaseCommand) :
    (processor.currentOf type).Pairwise Apart := by
  have ordered :
      (processor.currentOf type).Pairwise fun first second =>
        first.time + 500000 ≤ second.time := by
    apply pairwise_of_isChain _ _ (passes.rephase type isRephase)
      (processor.currentOf_pairwise type)
    · intro first second apart sorted
      rw [ApartUnsigned, UInt64.le_iff_toNat_le, toNat_sub_of_le sorted,
        UInt32.toNat_toUInt64, toNat_auCommandDelay] at apart
      change first.executionTime.toNat ≤ second.executionTime.toNat at sorted
      change first.executionTime.toNat + _ ≤ second.executionTime.toNat
      omega
    · intro first second third before after
      omega
  exact ordered.imp fun apart => .inl apart

/-- When nothing wraps, neighbouring transmissions keep all of them apart. -/
theorem transmit_pairwise
    {processor : CommandProcessor queues}
    (passes : processor.PassesComparisons) :
    (processor.currentOf .transmitCommand).Pairwise fun first second =>
      first.time ≤ second.time ∧
        (first.time + first.executionLength.toNat < 2 ^ 64 →
          first.time + first.executionLength.toNat ≤ second.time) := by
  apply pairwise_of_isChain _ _ passes.transmit
    (processor.currentOf_pairwise .transmitCommand)
  · intro first second ends sorted
    refine ⟨sorted, ?_⟩
    intro noWrap
    rw [EndsBefore, UInt64.le_iff_toNat_le, UInt64.toNat_add,
      UInt32.toNat_toUInt64] at ends
    change first.executionTime.toNat + _ < _ at noWrap
    rw [Nat.mod_eq_of_lt noWrap] at ends
    exact ends
  · rintro first second third ⟨sorted, ends⟩ ⟨sortedLater, _⟩
    refine ⟨sorted.trans sortedLater, ?_⟩
    intro noWrap
    exact (ends noWrap).trans sortedLater

/-- A precursor that is not later than its command is early enough. -/
theorem precedes_of_passes
    {commands : List ControlCommand}
    {type : CommandType}
    {delay : UInt32}
    {command first : ControlCommand}
    (found : firstOfQuery commands type command = some first)
    (passes :
      delay.toUInt64 ≤ command.executionTime - first.executionTime)
    (notLater : first.time ≤ command.time) :
    Precedes type delay first command := by
  obtain ⟨_, sameType, sameQuery⟩ := firstOfQuery_eq_some found
  refine ⟨sameType, sameQuery, ?_⟩
  rw [UInt64.le_iff_toNat_le, toNat_sub_of_le notLater,
    UInt32.toNat_toUInt64] at passes
  change first.executionTime.toNat + _ ≤ command.executionTime.toNat
  change first.executionTime.toNat ≤ command.executionTime.toNat at notLater
  omega

/-- What passes every comparison is sound if nothing wraps. -/
theorem sound_of_nothingWraps
    {processor : CommandProcessor queues}
    (passes : processor.PassesComparisons)
    (unwrapped : processor.NothingWraps) :
    processor.Sound := by
  refine ⟨?_, ?_, ?_, ?_⟩
  · intro type isRephase
    rw [← currentOf_pairwise_iff Apart.symm]
    exact rephase_pairwise passes isRephase
  · intro command member need needed
    rw [← mem_currentCommands_iff] at member
    simp only [← mem_allCommands_iff]
    rcases unwrapped.precursor command member need needed with
      notLater | precursor
    · obtain ⟨first, found, early⟩ :=
        passes.precursor command member need needed
      exact ⟨first, (firstOfQuery_eq_some found).1,
        precedes_of_passes found early (notLater first found)⟩
    · exact precursor
  · rw [← currentOf_pairwise_iff Separate.symm]
    apply (transmit_pairwise passes).imp₂ _ unwrapped.transmit
    rintro first second ⟨sorted, ends⟩ noWrap time
      ⟨⟨_, beforeEnd⟩, afterStart, beforeSecondEnd⟩
    rcases noWrap with noWrap | noLength
    · have := ends noWrap
      omega
    · rw [noLength] at beforeSecondEnd
      change time < second.time + 0 at beforeSecondEnd
      omega
  · intro command member needed isReserve
    rw [← mem_currentCommands_iff] at member
    obtain ⟨early, notAfter⟩ :=
      passes.reference command member needed isReserve
    have ordered : command.referanceTime ≤ command.executionTime := by
      have isChecked :
          command.type = .receiveCommand ∨
            command.type = .transmitCommand := by
        revert isReserve
        cases command.type <;> simp [reserve]
      rcases isChecked with isReceive | isTransmit
      · exact notAfter isReceive
      · exact unwrapped.reference command member isTransmit
    rw [UInt64.le_iff_toNat_le] at ordered
    rw [UInt64.le_iff_toNat_le, toNat_sub_of_le ordered,
      UInt32.toNat_toUInt64] at early
    change _ ≤ command.executionTime.toNat
    omega

/-- Nothing that matters has wrapped in a sound processor. -/
theorem nothingWraps_of_sound
    {processor : CommandProcessor queues}
    (sound : processor.Sound) :
    processor.NothingWraps := by
  refine ⟨?_, ?_, ?_⟩
  · intro command member need needed
    rw [mem_currentCommands_iff] at member
    obtain ⟨other, otherMember, precedes⟩ :=
      sound.precursor command member need needed
    exact .inr ⟨other, mem_allCommands_iff.mpr otherMember, precedes⟩
  · have separate := sound.transmit
    rw [← currentOf_pairwise_iff Separate.symm] at separate
    apply separate.imp₂ _ (processor.currentOf_pairwise .transmitCommand)
    intro first second apart sorted
    by_contra wraps
    rw [not_or, Nat.not_lt] at wraps
    have someLength : 0 < second.executionLength.toNat := by
      rw [Nat.pos_iff_ne_zero]
      intro noLength
      exact wraps.2 (UInt32.toNat_inj.mp noLength)
    have inWord : second.time < 2 ^ 64 := second.executionTime.toNat_lt
    exact apart second.time
      ⟨⟨sorted, by omega⟩, ⟨Nat.le_refl _, by omega⟩⟩
  · intro command member isTransmit
    rw [mem_currentCommands_iff] at member
    have reserved :=
      sound.reference command member transmitReserve
        (by simp [isTransmit, reserve])
    rw [UInt64.le_iff_toNat_le]
    change _ ≤ command.executionTime.toNat at reserved
    omega

/--
The validation is sound on exactly those processors whose comparisons fail or
compare nothing that has wrapped.
-/
theorem validate_sound_iff (processor : CommandProcessor queues) :
    (processor.validate = true → processor.Sound) ↔
      (processor.PassesComparisons → processor.NothingWraps) := by
  rw [validate_eq_true_iff]
  constructor
  · intro sound passes
    exact nothingWraps_of_sound (sound passes)
  · intro unwrapped passes
    exact sound_of_nothingWraps passes (unwrapped passes)

/-- A phase change at once and a transmission referred to 30 us too late. -/
def lateReference :
    CommandProcessor (PriorityQueue.sortedList ControlCommand.time) :=
  new.append
    [⟨.trRephaseCommand, 0, 0, 270000, 1⟩,
      ⟨.transmitCommand, 300000, 270000, 1000, 1⟩]

/-- The transmission passes although its reference time follows it. -/
theorem validate_lateReference :
    lateReference.validate = true ∧ ¬ lateReference.Sound := by
  refine ⟨by decide +kernel, ?_⟩
  intro sound
  have reserved :=
    sound.reference ⟨.transmitCommand, 300000, 270000, 1000, 1⟩
      (by decide +kernel) transmitReserve rfl
  revert reserved
  decide

end Radar.CommandProcessor
