import Radar.BusyChunks
import Radar.CommandValidation

namespace Radar.Scheduler

/-!
# Waiting commands and the chunks booked for them

Every waiting phase change and every waiting transmission has a sector of
busy chunks of its own.  A placement whose sectors are all free then keeps the
distances of the exchange protocol to everything that waits.
-/

open Settings
open CommandProcessor (Apart reserve)

/-- Every chunk from the first to the last one is busy. -/
def Sector (line : Timeline) (first last : Nat) : Prop :=
  ∀ chunk, first ≤ chunk → chunk ≤ last → line.Busy chunk

/-- No chunk from the first to the last one is busy. -/
def Vacant (line : Timeline) (first last : Nat) : Prop :=
  ∀ chunk, first ≤ chunk → chunk ≤ last → ¬ line.Busy chunk

/-- A busy and a vacant sector have no chunk in common. -/
theorem Sector.lt_or_lt
    {line : Timeline}
    {first last start stop : Nat}
    (busy : Sector line first last)
    (vacant : Vacant line start stop)
    (nonempty : first ≤ last)
    (notReversed : start ≤ stop) :
    last < start ∨ stop < first := by
  by_contra meets
  rw [not_or, Nat.not_lt, Nat.not_lt] at meets
  exact vacant (max first start) (Nat.le_max_right ..)
    (Nat.max_le.mpr ⟨meets.2, notReversed⟩)
    (busy _ (Nat.le_max_left ..) (Nat.max_le.mpr ⟨nonempty, meets.1⟩))

/-- The sector that a waiting command has on its timeline. -/
def HoldsChunks (lines : Timelines) (command : ControlCommand) : Prop :=
  match command.type with
  | .trRephaseCommand =>
      ∃ start, command.time = start * 10000 ∧
        Sector lines.trAu (start - 26) (start + 24)
  | .rsRephaseCommand =>
      ∃ start, command.time = start + 275000 ∧
        Sector lines.rsAu (Timeline.chunkFor start)
          (Timeline.chunkFor start + 50)
  | .transmitCommand =>
      ∃ start, command.time = start * 10000 + 270000 ∧
        10000 ≤ command.executionLength.toNat ∧
        Sector lines.dcu (start + 1)
          (start + command.executionLength.toNat / 10000)
  | _ => True

/-- The sector that a new command needs to find vacant. -/
def FindsVacant (lines : Timelines) (command : ControlCommand) : Prop :=
  match command.type with
  | .trRephaseCommand =>
      ∃ start, command.time = start * 10000 ∧
        Vacant lines.trAu (start - 26) (start + 24)
  | .rsRephaseCommand =>
      ∃ start, command.time = start + 275000 ∧
        Vacant lines.rsAu (Timeline.chunkFor start - 1)
          (Timeline.chunkFor start + 51)
  | .transmitCommand =>
      ∃ start, command.time = start * 10000 + 270000 ∧
        Vacant lines.dcu start
          (start + (command.executionLength.toNat + 9999) / 10000)
  | _ => True

/-- The distances that the protocol asks for between two commands. -/
structure Spaced (first second : ControlCommand) : Prop where
  rephase :
    ∀ type, type = .trRephaseCommand ∨ type = .rsRephaseCommand →
      first.type = type → second.type = type → Apart first second
  transmit :
    first.type = .transmitCommand → second.type = .transmitCommand →
      first.time + first.executionLength.toNat ≤ second.time ∨
        second.time + second.executionLength.toNat ≤ first.time

theorem Spaced.symm
    {first second : ControlCommand}
    (spaced : Spaced first second) :
    Spaced second first where
  rephase type isRephase secondType firstType :=
    (spaced.rephase type isRephase firstType secondType).symm
  transmit secondType firstType :=
    (spaced.transmit firstType secondType).symm

/-- Commands of different types may be as close as they like. -/
theorem Spaced.of_ne
    {first second : ControlCommand}
    (different : first.type ≠ second.type) :
    Spaced first second where
  rephase _ _ firstType secondType :=
    (different (firstType.trans secondType.symm)).elim
  transmit firstType secondType :=
    (different (firstType.trans secondType.symm)).elim

/-- A command that finds its sector vacant keeps its distance. -/
theorem Spaced.of_findsVacant
    {lines : Timelines}
    {new waiting : ControlCommand}
    (finds : FindsVacant lines new)
    (holds : HoldsChunks lines waiting) :
    Spaced new waiting := by
  constructor
  · rintro type (rfl | rfl) newType waitingType
    · simp only [FindsVacant, newType] at finds
      simp only [HoldsChunks, waitingType] at holds
      obtain ⟨start, newTime, vacant⟩ := finds
      obtain ⟨earlier, waitingTime, busy⟩ := holds
      have apart := busy.lt_or_lt vacant (by omega) (by omega)
      rw [Apart, newTime, waitingTime, toNat_auCommandDelay]
      omega
    · simp only [FindsVacant, newType] at finds
      simp only [HoldsChunks, waitingType] at holds
      obtain ⟨start, newTime, vacant⟩ := finds
      obtain ⟨earlier, waitingTime, busy⟩ := holds
      have apart := busy.lt_or_lt vacant (by omega) (by omega)
      rw [Apart, newTime, waitingTime, toNat_auCommandDelay]
      unfold Timeline.chunkFor at apart
      split at apart
      · split at apart <;> omega
      · split at apart <;> omega
  · intro newType waitingType
    simp only [FindsVacant, newType] at finds
    simp only [HoldsChunks, waitingType] at holds
    obtain ⟨start, newTime, vacant⟩ := finds
    obtain ⟨earlier, waitingTime, long, busy⟩ := holds
    have apart := busy.lt_or_lt vacant (by omega) (by omega)
    rw [newTime, waitingTime]
    omega

/-- Waiting commands have their sectors, their distances and their reserves. -/
structure Booked
    (lines : Timelines)
    (waiting : List ControlCommand) :
    Prop where
  holds : ∀ command ∈ waiting, HoldsChunks lines command
  spaced : waiting.Pairwise Spaced
  reference :
    ∀ command ∈ waiting, ∀ needed, reserve command.type = some needed →
      command.referanceTime.toNat + needed.toNat ≤ command.time

namespace Booked

variable
  {lines later : Timelines}
  {waiting : List ControlCommand}

/-- Nothing has to be booked when nothing waits. -/
theorem nil (lines : Timelines) : Booked lines [] where
  holds := by simp
  spaced := .nil
  reference := by simp

theorem of_sublist
    {fewer : List ControlCommand}
    (booked : Booked lines waiting)
    (sublist : fewer.Sublist waiting) :
    Booked lines fewer where
  holds command member := booked.holds command (sublist.subset member)
  spaced := booked.spaced.sublist sublist
  reference command member :=
    booked.reference command (sublist.subset member)

theorem of_perm
    {other : List ControlCommand}
    (booked : Booked lines waiting)
    (perm : other.Perm waiting) :
    Booked lines other where
  holds command member := booked.holds command (perm.mem_iff.mp member)
  spaced := (perm.pairwise_iff Spaced.symm).mpr booked.spaced
  reference command member :=
    booked.reference command (perm.mem_iff.mp member)

/-- Commands stay booked as long as busy chunks stay busy. -/
theorem of_busy
    (booked : Booked lines waiting)
    (keeps :
      ∀ name chunk, (lines.get name).Busy chunk →
        (later.get name).Busy chunk) :
    Booked later waiting where
  holds command member := by
    have holds := booked.holds command member
    unfold HoldsChunks at holds ⊢
    cases type : command.type with
    | trRephaseCommand =>
        rw [type] at holds
        obtain ⟨start, time, busy⟩ := holds
        exact ⟨start, time, fun chunk lower upper =>
          keeps .trAu chunk (busy chunk lower upper)⟩
    | rsRephaseCommand =>
        rw [type] at holds
        obtain ⟨start, time, busy⟩ := holds
        exact ⟨start, time, fun chunk lower upper =>
          keeps .rsAu chunk (busy chunk lower upper)⟩
    | transmitCommand =>
        rw [type] at holds
        obtain ⟨start, time, long, busy⟩ := holds
        exact ⟨start, time, long, fun chunk lower upper =>
          keeps .dcu chunk (busy chunk lower upper)⟩
    | nop | receiveCommand | protectCommand | techCommand =>
        trivial
  spaced := booked.spaced
  reference := booked.reference

/-- New commands join those that wait. -/
theorem append
    {issued : List ControlCommand}
    (booked : Booked lines waiting)
    (keeps :
      ∀ name chunk, (lines.get name).Busy chunk →
        (later.get name).Busy chunk)
    (own : Booked later issued)
    (finds : ∀ command ∈ issued, FindsVacant lines command) :
    Booked later (issued ++ waiting) := by
  have stays := booked.of_busy keeps
  refine ⟨?_, ?_, ?_⟩
  · intro command member
    rcases List.mem_append.mp member with isNew | isWaiting
    · exact own.holds command isNew
    · exact stays.holds command isWaiting
  · refine List.pairwise_append.mpr ⟨own.spaced, stays.spaced, ?_⟩
    intro new isNew old isWaiting
    exact .of_findsVacant (finds new isNew) (booked.holds old isWaiting)
  · intro command member
    rcases List.mem_append.mp member with isNew | isWaiting
    · exact own.reference command isNew
    · exact stays.reference command isWaiting

end Booked

end Radar.Scheduler
