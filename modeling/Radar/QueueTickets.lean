import Radar.MpmcBoundedQueue

namespace Radar.MpmcBoundedQueue

/-!
# Every ticket is served once

What holds of the bounded queue in every state that any number of threads can
reach.  A cell is free for a ticket, or full with the data of a ticket; a
thread that has a ticket is the only one that uses its cell; and what a
dequeue returns is the data that was enqueued with its ticket.
-/

variable {T : Type} (size : BufferSize)

/-! ## Tickets -/

/-- The cell waits for the data of a ticket. -/
def Memory.Free (memory : Memory T) (pos : Nat) : Prop :=
  (memory.cell size pos).sequence = pos

/-- The cell has the data of a ticket. -/
def Memory.Full (memory : Memory T) (pos : Nat) : Prop :=
  (memory.cell size pos).sequence = pos + 1

namespace Stage

/-- The thread has a ticket to enqueue, and has not published its data. -/
def Enqueues : Stage T → Nat → Prop
  | .enqueueWrite _ ticket, pos | .enqueueStore ticket, pos => ticket = pos
  | _, _ => False

/-- The thread has a ticket to dequeue, and has not released its cell. -/
def Dequeues : Stage T → Nat → Prop
  | .dequeueRead ticket, pos | .dequeueStore ticket _, pos => ticket = pos
  | _, _ => False

end Stage

/-- What a thread may rely on, by where it is. -/
def StageOk (memory : Memory T) (enqueued : List T) : Stage T → Prop
  | .idle | .dequeueLoop _ => True
  | .enqueueLoop _ pos => pos ≤ memory.enqueuePos
  | .enqueueCheck _ pos seq =>
      seq = pos → pos < memory.enqueuePos ∨ memory.Free size pos
  | .enqueueWrite data pos =>
      pos < memory.enqueuePos ∧ memory.Free size pos ∧
        enqueued[pos]? = some data
  | .enqueueStore pos =>
      pos < memory.enqueuePos ∧ memory.Free size pos ∧
        (memory.cell size pos).data = enqueued[pos]?
  | .dequeueCheck pos seq =>
      seq = pos + 1 → pos < memory.dequeuePos ∨ memory.Full size pos
  | .dequeueRead pos =>
      pos < memory.dequeuePos ∧ memory.Full size pos ∧
        (memory.cell size pos).data = enqueued[pos]?
  | .dequeueStore pos data =>
      pos < memory.dequeuePos ∧ memory.Full size pos ∧
        data = enqueued[pos]?

/-- What holds in every reachable state. -/
structure Consistent (system : System T) : Prop where
  length : system.enqueued.length = system.memory.enqueuePos
  ordered : system.memory.dequeuePos ≤ system.memory.enqueuePos
  capacity :
    system.memory.enqueuePos ≤
      system.memory.dequeuePos + size.bufferSize
  stages :
    ∀ thread, StageOk size system.memory system.enqueued
      (system.threads thread)
  enqueueOnce :
    ∀ first second pos,
      (system.threads first).Enqueues pos →
        (system.threads second).Enqueues pos → first = second
  dequeueOnce :
    ∀ first second pos,
      (system.threads first).Dequeues pos →
        (system.threads second).Dequeues pos → first = second
  passed :
    ∀ pos < system.memory.dequeuePos,
      pos + 1 ≤ (system.memory.cell size pos).sequence
  free :
    ∀ pos, system.memory.Free size pos →
      pos < system.memory.dequeuePos + size.bufferSize
  full :
    ∀ pos, system.memory.Full size pos →
      pos < system.memory.enqueuePos ∧
        (system.memory.dequeuePos ≤ pos →
          (system.memory.cell size pos).data = system.enqueued[pos]?)
  pending :
    ∀ pos, system.memory.dequeuePos ≤ pos →
      pos < system.memory.enqueuePos →
        system.memory.Full size pos ∨
          ∃ thread, (system.threads thread).Enqueues pos
  vacant :
    ∀ pos, system.memory.enqueuePos ≤ pos →
      pos < system.memory.dequeuePos + size.bufferSize →
        system.memory.Free size pos ∨
          ∃ ticket, ticket + size.bufferSize = pos ∧
            ∃ thread, (system.threads thread).Dequeues ticket
  served :
    ∀ pos < system.memory.dequeuePos,
      pos ∈ system.returned.map Prod.fst ∨
        ∃ thread, (system.threads thread).Dequeues pos
  genuine :
    ∀ entry ∈ system.returned,
      entry.1 < system.memory.dequeuePos ∧
        entry.2 = system.enqueued[entry.1]? ∧
        ∀ thread, ¬ (system.threads thread).Dequeues entry.1
  distinct : (system.returned.map Prod.fst).Nodup

variable {size}

/-- A new queue is in order. -/
theorem consistent_new : Consistent size (System.new : System T) where
  length := rfl
  ordered := Nat.le_refl 0
  capacity := Nat.zero_le _
  stages _ := trivial
  enqueueOnce := nofun
  dequeueOnce := nofun
  passed := nofun
  free := by
    intro pos free
    have isFree : size.index pos = pos := free
    have inRange := size.index_lt pos
    rw [isFree] at inRange
    exact Nat.lt_add_left _ inRange
  full := by
    intro pos full
    have isFull : size.index pos = pos + 1 := full
    have small := size.index_le pos
    omega
  pending := nofun
  vacant := by
    intro pos _ inRange
    refine .inl ((size.index_eq_mod pos).trans (Nat.mod_eq_of_lt ?_))
    rwa [← Nat.zero_add size.bufferSize]
  served := nofun
  genuine := nofun
  distinct := List.nodup_nil

/-! ## Cells -/

namespace Memory

variable {memory : Memory T} {pos other : Nat}

theorem cell_congr (same : size.index other = size.index pos) :
    memory.cell size other = memory.cell size pos :=
  congrArg memory.buffer same

/-- A cell is free for one ticket at most. -/
theorem Free.eq
    (free : memory.Free size pos)
    (otherFree : memory.Free size other)
    (same : size.index other = size.index pos) :
    other = pos := by
  unfold Free at free otherFree
  rw [cell_congr same] at otherFree
  omega

theorem Full.eq
    (full : memory.Full size pos)
    (otherFull : memory.Full size other)
    (same : size.index other = size.index pos) :
    other = pos := by
  unfold Full at full otherFull
  rw [cell_congr same] at otherFull
  omega

/-- A cell that is free for a ticket is not full. -/
theorem Free.not_full
    (free : memory.Free size pos)
    (same : size.index other = size.index pos) :
    ¬ memory.Full size other := by
  intro full
  unfold Free at free
  unfold Full at full
  rw [cell_congr same, free] at full
  subst full
  exact size.index_succ_ne other same.symm

theorem cell_setCell_of_eq
    {cell : Cell T}
    (same : size.index other = size.index pos) :
    (memory.setCell size pos cell).cell size other = cell := by
  rw [cell_setCell, if_pos same]

theorem cell_setCell_of_ne
    {cell : Cell T}
    (apart : size.index other ≠ size.index pos) :
    (memory.setCell size pos cell).cell size other =
      memory.cell size other := by
  rw [cell_setCell, if_neg apart]

theorem free_setCell_of_ne
    {cell : Cell T}
    (apart : size.index other ≠ size.index pos) :
    (memory.setCell size pos cell).Free size other ↔
      memory.Free size other := by
  rw [Free, Free, cell_setCell_of_ne apart]

theorem full_setCell_of_ne
    {cell : Cell T}
    (apart : size.index other ≠ size.index pos) :
    (memory.setCell size pos cell).Full size other ↔
      memory.Full size other := by
  rw [Full, Full, cell_setCell_of_ne apart]

end Memory

/-! ## Threads -/

section

variable {threads : Nat → Stage T} {thread : Nat} {stage : Stage T}
variable {holds : Stage T → Nat → Prop}

/-- A property of all threads, after a step of one of them. -/
theorem forall_update
    (property : Stage T → Prop)
    (others : ∀ other, other ≠ thread → property (threads other))
    (own : property stage)
    (other : Nat) :
    property (Function.update threads thread stage other) := by
  by_cases same : other = thread
  · subst same
    rwa [Function.update_self]
  · rw [Function.update_of_ne same]
    exact others other same

/-- A ticket that no other thread has is held once. -/
theorem once_update
    (once :
      ∀ first second pos, holds (threads first) pos →
        holds (threads second) pos → first = second)
    (others :
      ∀ other pos, other ≠ thread → holds stage pos →
        ¬ holds (threads other) pos)
    (first second pos : Nat)
    (firstHolds : holds (Function.update threads thread stage first) pos)
    (secondHolds : holds (Function.update threads thread stage second) pos) :
    first = second := by
  by_cases isFirst : first = thread
  · by_cases isSecond : second = thread
    · rw [isFirst, isSecond]
    · rw [isFirst, Function.update_self] at firstHolds
      rw [Function.update_of_ne isSecond] at secondHolds
      exact absurd secondHolds (others second pos isSecond firstHolds)
  · rw [Function.update_of_ne isFirst] at firstHolds
    by_cases isSecond : second = thread
    · rw [isSecond, Function.update_self] at secondHolds
      exact absurd firstHolds (others first pos isFirst secondHolds)
    · rw [Function.update_of_ne isSecond] at secondHolds
      exact once first second pos firstHolds secondHolds

/-- The thread that steps holds what its stage says. -/
theorem exists_update_self
    {pos : Nat}
    (own : holds stage pos) :
    ∃ other, holds (Function.update threads thread stage other) pos :=
  ⟨thread, by rwa [Function.update_self]⟩

/-- A ticket stays held if the thread that steps keeps its own. -/
theorem exists_update
    {pos : Nat}
    (held : ∃ other, holds (threads other) pos)
    (keeps : holds (threads thread) pos → holds stage pos) :
    ∃ other, holds (Function.update threads thread stage other) pos := by
  obtain ⟨other, otherHolds⟩ := held
  by_cases same : other = thread
  · subst same
    exact ⟨other, by rw [Function.update_self]; exact keeps otherHolds⟩
  · exact ⟨other, by rwa [Function.update_of_ne same]⟩

theorem exists_update_of_not
    {pos : Nat}
    (held : ∃ other, holds (threads other) pos)
    (notOwn : ¬ holds (threads thread) pos) :
    ∃ other, holds (Function.update threads thread stage other) pos :=
  exists_update held fun own => absurd own notOwn

end

/-! ## Steps that change nothing but a stage -/

section

variable {system : System T} {thread : Nat} {stage : Stage T}

/-- A step of a thread without a ticket to dequeue leaves them as they are. -/
theorem Consistent.served_update
    (consistent : Consistent size system)
    (noDequeue : ∀ pos, ¬ (system.threads thread).Dequeues pos) :
    ∀ pos < system.memory.dequeuePos,
      pos ∈ system.returned.map Prod.fst ∨
        ∃ other,
          (Function.update system.threads thread stage other).Dequeues pos := by
  intro pos taken
  refine (consistent.served pos taken).imp_right ?_
  intro held
  exact exists_update_of_not held (noDequeue pos)

theorem Consistent.genuine_update
    (consistent : Consistent size system)
    (notReturned : ∀ entry ∈ system.returned, ¬ stage.Dequeues entry.1) :
    ∀ entry ∈ system.returned,
      entry.1 < system.memory.dequeuePos ∧
        entry.2 = system.enqueued[entry.1]? ∧
        ∀ other,
          ¬ (Function.update system.threads thread stage other).Dequeues
            entry.1 := by
  intro entry member
  obtain ⟨taken, same, unheld⟩ := consistent.genuine entry member
  exact
    ⟨taken, same,
      forall_update (fun stage => ¬ stage.Dequeues entry.1)
        (fun other _ => unheld other) (notReturned entry member)⟩

/-- Sequence numbers that grow have passed what they had passed. -/
theorem Consistent.passed_setCell
    (consistent : Consistent size system)
    {pos : Nat}
    {cell : Cell T}
    (grows : (system.memory.cell size pos).sequence ≤ cell.sequence) :
    ∀ other < system.memory.dequeuePos,
      other + 1 ≤
        ((system.memory.setCell size pos cell).cell size other).sequence := by
  intro other taken
  have before := consistent.passed other taken
  rw [Memory.cell_setCell]
  split
  case isTrue same =>
    rw [Memory.cell_congr same] at before
    exact Nat.le_trans before grows
  case isFalse => exact before

/-- A step without an effect on the memory, of a thread without a ticket. -/
theorem Consistent.advance
    (consistent : Consistent size system)
    (noEnqueue : ∀ pos, ¬ (system.threads thread).Enqueues pos)
    (noDequeue : ∀ pos, ¬ (system.threads thread).Dequeues pos)
    (nextNoEnqueue : ∀ pos, ¬ stage.Enqueues pos)
    (nextNoDequeue : ∀ pos, ¬ stage.Dequeues pos)
    (stageOk : StageOk size system.memory system.enqueued stage) :
    Consistent size (system.advance thread system.memory stage) :=
  { consistent with
    stages :=
      forall_update (StageOk size _ _)
        (fun other _ => consistent.stages other) stageOk
    enqueueOnce :=
      once_update consistent.enqueueOnce fun _ pos _ own =>
        absurd own (nextNoEnqueue pos)
    dequeueOnce :=
      once_update consistent.dequeueOnce fun _ pos _ own =>
        absurd own (nextNoDequeue pos)
    pending := by
      intro pos notTaken enqueued
      refine (consistent.pending pos notTaken enqueued).imp_right ?_
      intro held
      exact exists_update_of_not held (noEnqueue pos)
    vacant := by
      intro pos notEnqueued inRange
      refine (consistent.vacant pos notEnqueued inRange).imp_right ?_
      rintro ⟨ticket, isRound, held⟩
      exact ⟨ticket, isRound, exists_update_of_not held (noDequeue _)⟩
    served := consistent.served_update noDequeue
    genuine := consistent.genuine_update fun _ _ => nextNoDequeue _ }

end

/-! ## Steps that take a ticket -/

/-- Data with earlier tickets stays what it is. -/
theorem getElem?_append_of_lt
    {enqueued : List T}
    {pos : Nat}
    (early : pos < enqueued.length)
    (data : T) :
    (enqueued ++ [data])[pos]? = enqueued[pos]? :=
  List.getElem?_append_left early

theorem StageOk.claimed
    {memory : Memory T}
    {enqueued : List T}
    {stage : Stage T}
    (ok : StageOk size memory enqueued stage)
    (length : enqueued.length = memory.enqueuePos)
    (ordered : memory.dequeuePos ≤ memory.enqueuePos)
    (data : T) :
    StageOk size { memory with enqueuePos := memory.enqueuePos + 1 }
      (enqueued ++ [data]) stage := by
  have same :
      ∀ pos < memory.enqueuePos,
        (enqueued ++ [data])[pos]? = enqueued[pos]? :=
    fun pos early => getElem?_append_of_lt (length ▸ early) data
  cases stage with
  | idle | dequeueLoop => trivial
  | enqueueLoop => exact Nat.le_succ_of_le ok
  | enqueueCheck value pos seq =>
      exact fun isPos => (ok isPos).imp_left Nat.lt_succ_of_lt
  | dequeueCheck pos seq => exact ok
  | enqueueWrite value pos =>
      obtain ⟨early, free, isData⟩ := ok
      exact ⟨Nat.lt_succ_of_lt early, free, (same pos early).trans isData⟩
  | enqueueStore pos =>
      obtain ⟨early, free, isData⟩ := ok
      exact
        ⟨Nat.lt_succ_of_lt early, free,
          isData.trans (same pos early).symm⟩
  | dequeueRead pos =>
      obtain ⟨early, full, isData⟩ := ok
      exact
        ⟨early, full,
          isData.trans (same pos (Nat.lt_of_lt_of_le early ordered)).symm⟩
  | dequeueStore pos value =>
      obtain ⟨early, full, isData⟩ := ok
      exact
        ⟨early, full,
          isData.trans (same pos (Nat.lt_of_lt_of_le early ordered)).symm⟩

theorem StageOk.taken
    {memory : Memory T}
    {enqueued : List T}
    {stage : Stage T}
    (ok : StageOk size memory enqueued stage) :
    StageOk size { memory with dequeuePos := memory.dequeuePos + 1 }
      enqueued stage := by
  cases stage with
  | idle | dequeueLoop => trivial
  | enqueueLoop => exact ok
  | enqueueCheck | enqueueWrite | enqueueStore => exact ok
  | dequeueCheck pos seq =>
      exact fun isNext => (ok isNext).imp_left Nat.lt_succ_of_lt
  | dequeueRead pos => exact ⟨Nat.lt_succ_of_lt ok.1, ok.2⟩
  | dequeueStore pos data => exact ⟨Nat.lt_succ_of_lt ok.1, ok.2⟩

section

variable {system : System T} {thread pos : Nat}

/-- A thread that enqueues has one of the tickets. -/
theorem Consistent.lt_of_enqueues
    (consistent : Consistent size system)
    (enqueues : (system.threads thread).Enqueues pos) :
    pos < system.memory.enqueuePos := by
  have ok := consistent.stages thread
  cases isStage : system.threads thread <;>
    rw [isStage] at ok enqueues <;>
    first
    | exact enqueues.elim
    | exact enqueues ▸ ok.1

theorem Consistent.lt_of_dequeues
    (consistent : Consistent size system)
    (dequeues : (system.threads thread).Dequeues pos) :
    pos < system.memory.dequeuePos := by
  have ok := consistent.stages thread
  cases isStage : system.threads thread <;>
    rw [isStage] at ok dequeues <;>
    first
    | exact dequeues.elim
    | exact dequeues ▸ ok.1

/-- Taking a ticket to enqueue. -/
theorem Consistent.enqueueExchange
    (consistent : Consistent size system)
    {data : T}
    (stage : system.threads thread = .enqueueCheck data pos pos)
    (current : system.memory.enqueuePos = pos) :
    Consistent size
      ((system.advance thread
        { system.memory with enqueuePos := pos + 1 }
        (.enqueueWrite data pos)).record (.claimed data)) := by
  have noEnqueue : ∀ pos, ¬ (system.threads thread).Enqueues pos := by
    rw [stage]
    exact fun _ => id
  have noDequeue : ∀ pos, ¬ (system.threads thread).Dequeues pos := by
    rw [stage]
    exact fun _ => id
  have own := consistent.stages thread
  rw [stage] at own
  have free : system.memory.Free size pos := by
    rcases own rfl with taken | free
    · omega
    · exact free
  have length := consistent.length
  have ordered := consistent.ordered
  have room := consistent.free pos free
  subst current
  have same :
      ∀ pos < system.memory.enqueuePos,
        (system.enqueued ++ [data])[pos]? = system.enqueued[pos]? :=
    fun pos early => getElem?_append_of_lt (length ▸ early) data
  exact
    { consistent with
      length := by
        show (system.enqueued ++ [data]).length = _
        rw [List.length_append, length]
        rfl
      ordered := Nat.le_succ_of_le ordered
      capacity := room
      stages := by
        refine forall_update (StageOk size _ _) ?_ ?_
        · intro other _
          exact (consistent.stages other).claimed length ordered data
        · refine ⟨Nat.lt_succ_self _, free, ?_⟩
          show (system.enqueued ++ [data])[_]? = _
          rw [← length]
          exact List.getElem?_concat_length
      enqueueOnce := by
        refine once_update consistent.enqueueOnce ?_
        rintro other pos _ rfl enqueues
        exact absurd (consistent.lt_of_enqueues enqueues) (Nat.lt_irrefl _)
      dequeueOnce :=
        once_update consistent.dequeueOnce fun _ _ _ own => own.elim
      full := by
        intro pos full
        obtain ⟨early, isData⟩ := consistent.full pos full
        exact
          ⟨Nat.lt_succ_of_lt early, fun notTaken =>
            (isData notTaken).trans (same pos early).symm⟩
      pending := by
        intro pos notTaken early
        rcases Nat.lt_succ_iff_lt_or_eq.mp early with before | rfl
        · refine (consistent.pending pos notTaken before).imp_right ?_
          intro held
          exact exists_update_of_not held (noEnqueue _)
        · exact .inr (exists_update_self rfl)
      vacant := by
        intro pos notEnqueued inRange
        refine
          (consistent.vacant pos (Nat.le_of_succ_le notEnqueued)
            inRange).imp_right ?_
        rintro ⟨ticket, isRound, held⟩
        exact ⟨ticket, isRound, exists_update_of_not held (noDequeue _)⟩
      served := consistent.served_update noDequeue
      genuine := by
        intro entry member
        obtain ⟨taken, isData, unheld⟩ := consistent.genuine entry member
        exact
          ⟨taken,
            isData.trans
              (same entry.1 (Nat.lt_of_lt_of_le taken ordered)).symm,
            forall_update (fun stage => ¬ stage.Dequeues entry.1)
              (fun other _ => unheld other) id⟩ }

/-- Taking a ticket to dequeue. -/
theorem Consistent.dequeueExchange
    (consistent : Consistent size system)
    (stage : system.threads thread = .dequeueCheck pos (pos + 1))
    (current : system.memory.dequeuePos = pos) :
    Consistent size
      ((system.advance thread
        { system.memory with dequeuePos := pos + 1 }
        (.dequeueRead pos)).record (.taking pos)) := by
  have noEnqueue : ∀ pos, ¬ (system.threads thread).Enqueues pos := by
    rw [stage]
    exact fun _ => id
  have noDequeue : ∀ pos, ¬ (system.threads thread).Dequeues pos := by
    rw [stage]
    exact fun _ => id
  have own := consistent.stages thread
  rw [stage] at own
  have full : system.memory.Full size pos := by
    rcases own rfl with taken | full
    · omega
    · exact full
  obtain ⟨enqueued, isData⟩ := consistent.full pos full
  subst current
  exact
    { consistent with
      ordered := enqueued
      capacity :=
        Nat.le_trans consistent.capacity
          (Nat.add_le_add_right (Nat.le_succ _) _)
      stages := by
        refine forall_update (StageOk size _ _) ?_ ?_
        · intro other _
          exact (consistent.stages other).taken
        · exact ⟨Nat.lt_succ_self _, full, isData (Nat.le_refl _)⟩
      enqueueOnce :=
        once_update consistent.enqueueOnce fun _ _ _ own => own.elim
      dequeueOnce := by
        refine once_update consistent.dequeueOnce ?_
        rintro other pos _ rfl dequeues
        exact absurd (consistent.lt_of_dequeues dequeues) (Nat.lt_irrefl _)
      passed := by
        intro pos taken
        rcases Nat.lt_succ_iff_lt_or_eq.mp taken with before | rfl
        · exact consistent.passed pos before
        · exact Nat.le_of_eq full.symm
      free := by
        intro pos free
        exact
          Nat.lt_of_lt_of_le (consistent.free pos free)
            (Nat.add_le_add_right (Nat.le_succ _) _)
      full := by
        intro pos full
        obtain ⟨early, isData⟩ := consistent.full pos full
        exact ⟨early, fun notTaken => isData (Nat.le_of_succ_le notTaken)⟩
      pending := by
        intro pos notTaken early
        refine
          (consistent.pending pos (Nat.le_of_succ_le notTaken) early).imp_right
            ?_
        intro held
        exact exists_update_of_not held (noEnqueue _)
      vacant := by
        intro pos notEnqueued inRange
        have next :
            system.memory.dequeuePos + 1 + size.bufferSize =
              system.memory.dequeuePos + size.bufferSize + 1 :=
          Nat.succ_add _ _
        have isBehind := Nat.lt_of_lt_of_eq inRange next
        rcases Nat.lt_succ_iff_lt_or_eq.mp isBehind with before | rfl
        · refine (consistent.vacant pos notEnqueued before).imp_right ?_
          rintro ⟨ticket, isRound, held⟩
          exact ⟨ticket, isRound, exists_update_of_not held (noDequeue _)⟩
        · exact .inr ⟨_, rfl, exists_update_self rfl⟩
      served := by
        intro pos taken
        rcases Nat.lt_succ_iff_lt_or_eq.mp taken with before | rfl
        · refine (consistent.served pos before).imp_right ?_
          intro held
          exact exists_update_of_not held (noDequeue _)
        · exact .inr (exists_update_self rfl)
      genuine := by
        intro entry member
        obtain ⟨taken, isData, unheld⟩ := consistent.genuine entry member
        exact
          ⟨Nat.lt_succ_of_lt taken, isData,
            forall_update (fun stage => ¬ stage.Dequeues entry.1)
              (fun other _ => unheld other) (Nat.ne_of_gt taken)⟩ }

end

/-! ## Threads with tickets use different cells -/

/-- A thread has a ticket whose cell it may use. -/
def Stage.HasTicket (stage : Stage T) (pos : Nat) : Prop :=
  stage.Enqueues pos ∨ stage.Dequeues pos

section

variable {system : System T} {thread other pos otherPos : Nat}

theorem Consistent.free_of_enqueues
    (consistent : Consistent size system)
    (enqueues : (system.threads thread).Enqueues pos) :
    system.memory.Free size pos := by
  have ok := consistent.stages thread
  cases isStage : system.threads thread <;>
    rw [isStage] at ok enqueues <;>
    first
    | exact enqueues.elim
    | exact enqueues ▸ ok.2.1

theorem Consistent.full_of_dequeues
    (consistent : Consistent size system)
    (dequeues : (system.threads thread).Dequeues pos) :
    system.memory.Full size pos := by
  have ok := consistent.stages thread
  cases isStage : system.threads thread <;>
    rw [isStage] at ok dequeues <;>
    first
    | exact dequeues.elim
    | exact dequeues ▸ ok.2.1

/-- No two threads use the same cell. -/
theorem Consistent.apart
    (consistent : Consistent size system)
    (ticket : (system.threads thread).HasTicket pos)
    (otherTicket : (system.threads other).HasTicket otherPos)
    (different : other ≠ thread) :
    size.index otherPos ≠ size.index pos := by
  intro same
  rcases ticket with enqueues | dequeues
  · have free := consistent.free_of_enqueues enqueues
    rcases otherTicket with otherEnqueues | otherDequeues
    · obtain rfl :=
        free.eq (consistent.free_of_enqueues otherEnqueues) same
      exact different
        (consistent.enqueueOnce other thread _ otherEnqueues enqueues)
    · exact
        free.not_full same (consistent.full_of_dequeues otherDequeues)
  · have full := consistent.full_of_dequeues dequeues
    rcases otherTicket with otherEnqueues | otherDequeues
    · exact
        (consistent.free_of_enqueues otherEnqueues).not_full same.symm full
    · obtain rfl :=
        full.eq (consistent.full_of_dequeues otherDequeues) same
      exact different
        (consistent.dequeueOnce other thread _ otherDequeues dequeues)

end

/-! ## Steps that use a cell -/

section

variable {memory : Memory T} {enqueued : List T} {stage : Stage T}
variable {pos : Nat}

/-- Writing the data of a cell changes no sequence number. -/
theorem Memory.sequence_setData
    (memory : Memory T)
    (pos other : Nat)
    (data : Option T) :
    ((memory.setCell size pos
        { memory.cell size pos with data := data }).cell size
          other).sequence =
      (memory.cell size other).sequence := by
  rw [Memory.cell_setCell]
  split
  case isTrue same => rw [Memory.cell_congr same]
  case isFalse => rfl

theorem Memory.free_setData {data : Option T} {other : Nat} :
    (memory.setCell size pos
        { memory.cell size pos with data := data }).Free size other ↔
      memory.Free size other := by
  rw [Memory.Free, Memory.Free, Memory.sequence_setData]

theorem Memory.full_setData {data : Option T} {other : Nat} :
    (memory.setCell size pos
        { memory.cell size pos with data := data }).Full size other ↔
      memory.Full size other := by
  rw [Memory.Full, Memory.Full, Memory.sequence_setData]

/-- Threads that use other cells do not notice new data. -/
theorem StageOk.setData
    (ok : StageOk size memory enqueued stage)
    (apart :
      ∀ ticket, stage.HasTicket ticket →
        size.index ticket ≠ size.index pos)
    (data : Option T) :
    StageOk size
      (memory.setCell size pos { memory.cell size pos with data := data })
      enqueued stage := by
  cases stage with
  | idle | dequeueLoop => trivial
  | enqueueLoop => exact ok
  | enqueueCheck value ticket seq =>
      intro isTicket
      rw [Memory.free_setData]
      exact ok isTicket
  | enqueueWrite value ticket =>
      rw [StageOk, Memory.free_setData]
      exact ok
  | enqueueStore ticket =>
      rw [StageOk, Memory.free_setData,
        Memory.cell_setCell_of_ne (apart ticket (.inl rfl))]
      exact ok
  | dequeueCheck ticket seq =>
      intro isNext
      rw [Memory.full_setData]
      exact ok isNext
  | dequeueRead ticket =>
      rw [StageOk, Memory.full_setData,
        Memory.cell_setCell_of_ne (apart ticket (.inr rfl))]
      exact ok
  | dequeueStore ticket value =>
      rw [StageOk, Memory.full_setData]
      exact ok

/-- Nor do they notice a new sequence number, when the ticket is old. -/
theorem StageOk.setSequence
    (ok : StageOk size memory enqueued stage)
    (apart :
      ∀ ticket, stage.HasTicket ticket →
        size.index ticket ≠ size.index pos)
    (freeTaken :
      ∀ other, size.index other = size.index pos →
        memory.Free size other → other < memory.enqueuePos)
    (fullTaken :
      ∀ other, size.index other = size.index pos →
        memory.Full size other → other < memory.dequeuePos)
    (cell : Cell T) :
    StageOk size (memory.setCell size pos cell) enqueued stage := by
  cases stage with
  | idle | dequeueLoop => trivial
  | enqueueLoop => exact ok
  | enqueueCheck value ticket seq =>
      intro isTicket
      rcases ok isTicket with taken | free
      · exact .inl taken
      · by_cases same : size.index ticket = size.index pos
        · exact .inl (freeTaken ticket same free)
        · exact .inr ((Memory.free_setCell_of_ne same).mpr free)
  | dequeueCheck ticket seq =>
      intro isNext
      rcases ok isNext with taken | full
      · exact .inl taken
      · by_cases same : size.index ticket = size.index pos
        · exact .inl (fullTaken ticket same full)
        · exact .inr ((Memory.full_setCell_of_ne same).mpr full)
  | enqueueWrite value ticket =>
      have different := apart ticket (.inl rfl)
      rw [StageOk, Memory.free_setCell_of_ne different]
      exact ok
  | enqueueStore ticket =>
      have different := apart ticket (.inl rfl)
      rw [StageOk, Memory.free_setCell_of_ne different,
        Memory.cell_setCell_of_ne different]
      exact ok
  | dequeueRead ticket =>
      have different := apart ticket (.inr rfl)
      rw [StageOk, Memory.full_setCell_of_ne different,
        Memory.cell_setCell_of_ne different]
      exact ok
  | dequeueStore ticket value =>
      have different := apart ticket (.inr rfl)
      rw [StageOk, Memory.full_setCell_of_ne different]
      exact ok

end

section

variable {system : System T} {thread pos : Nat}

/-- Using the data of the own cell. -/
theorem Consistent.setData
    (consistent : Consistent size system)
    (ticket : (system.threads thread).HasTicket pos)
    {stage : Stage T}
    (sameEnqueues :
      ∀ other, stage.Enqueues other ↔
        (system.threads thread).Enqueues other)
    (sameDequeues :
      ∀ other, stage.Dequeues other ↔
        (system.threads thread).Dequeues other)
    (data : Option T)
    (stageOk :
      StageOk size
        (system.memory.setCell size pos
          { system.memory.cell size pos with data := data })
        system.enqueued stage) :
    Consistent size
      (system.advance thread
        (system.memory.setCell size pos
          { system.memory.cell size pos with data := data })
        stage) :=
  { consistent with
    stages := by
      refine forall_update (StageOk size _ _) ?_ stageOk
      intro other different
      refine (consistent.stages other).setData ?_ data
      intro otherPos otherTicket
      exact consistent.apart ticket otherTicket different
    enqueueOnce := by
      refine once_update consistent.enqueueOnce ?_
      intro other otherPos different own otherEnqueues
      exact different
        (consistent.enqueueOnce other thread otherPos otherEnqueues
          ((sameEnqueues otherPos).mp own))
    dequeueOnce := by
      refine once_update consistent.dequeueOnce ?_
      intro other otherPos different own otherDequeues
      exact different
        (consistent.dequeueOnce other thread otherPos otherDequeues
          ((sameDequeues otherPos).mp own))
    passed := by
      intro other taken
      exact
        Nat.le_trans (consistent.passed other taken)
          (Nat.le_of_eq (Memory.sequence_setData _ _ _ _).symm)
    free := by
      intro other free
      exact consistent.free other (Memory.free_setData.mp free)
    full := by
      intro other full
      have wasFull := Memory.full_setData.mp full
      obtain ⟨early, isData⟩ := consistent.full other wasFull
      refine ⟨early, fun notTaken => ?_⟩
      by_cases same : size.index other = size.index pos
      · exfalso
        rcases ticket with enqueues | dequeues
        · exact
            (consistent.free_of_enqueues enqueues).not_full same wasFull
        · obtain rfl :=
            (consistent.full_of_dequeues dequeues).eq wasFull same
          exact Nat.not_lt.mpr notTaken
            (consistent.lt_of_dequeues dequeues)
      · exact
          (congrArg Cell.data (Memory.cell_setCell_of_ne same)).trans
            (isData notTaken)
    pending := by
      intro other notTaken early
      refine (consistent.pending other notTaken early).imp ?_ ?_
      · exact Memory.full_setData.mpr
      · intro held
        exact exists_update held (sameEnqueues other).mpr
    vacant := by
      intro other notEnqueued inRange
      refine (consistent.vacant other notEnqueued inRange).imp ?_ ?_
      · exact Memory.free_setData.mpr
      · rintro ⟨ticket, isRound, held⟩
        exact
          ⟨ticket, isRound, exists_update held (sameDequeues ticket).mpr⟩
    served := by
      intro other taken
      refine (consistent.served other taken).imp_right ?_
      intro held
      exact exists_update held (sameDequeues other).mpr
    genuine := by
      refine consistent.genuine_update fun entry member => ?_
      rw [sameDequeues]
      exact (consistent.genuine entry member).2.2 thread }

/-- Publishing data. -/
theorem Consistent.enqueueStore
    (consistent : Consistent size system)
    (stage : system.threads thread = .enqueueStore pos) :
    Consistent size
      ((system.advance thread
        (system.memory.setCell size pos
          { system.memory.cell size pos with sequence := pos + 1 })
        .idle).record .accepted) := by
  have noDequeue : ∀ pos, ¬ (system.threads thread).Dequeues pos := by
    rw [stage]
    exact fun _ => id
  have own := consistent.stages thread
  rw [stage] at own
  obtain ⟨early, free, isData⟩ := own
  have ticket : (system.threads thread).Enqueues pos := by
    rw [stage]
    rfl
  have freeOnly :
      ∀ other, size.index other = size.index pos →
        system.memory.Free size other → other = pos :=
    fun other same otherFree => free.eq otherFree same
  exact
    { consistent with
      stages := by
        refine forall_update (StageOk size _ _) ?_ trivial
        intro other different
        refine
          (consistent.stages other).setSequence ?_ ?_ ?_ _
        · intro otherPos otherTicket
          exact consistent.apart (.inl ticket) otherTicket different
        · intro otherPos same otherFree
          rw [freeOnly otherPos same otherFree]
          exact early
        · intro otherPos same otherFull
          exact absurd otherFull (free.not_full same)
      enqueueOnce :=
        once_update consistent.enqueueOnce fun _ _ _ own => own.elim
      dequeueOnce :=
        once_update consistent.dequeueOnce fun _ _ _ own => own.elim
      passed :=
        consistent.passed_setCell
          (Nat.le_trans (Nat.le_of_eq free) (Nat.le_succ pos))
      free := by
        intro other otherFree
        by_cases same : size.index other = size.index pos
        · have isNext : pos + 1 = other :=
            (congrArg Cell.sequence
              (Memory.cell_setCell_of_eq same)).symm.trans otherFree
          subst isNext
          exact absurd same (size.index_succ_ne pos)
        · exact
            consistent.free other
              ((Memory.free_setCell_of_ne same).mp otherFree)
      full := by
        intro other otherFull
        by_cases same : size.index other = size.index pos
        · have isNext : pos + 1 = other + 1 :=
            (congrArg Cell.sequence
              (Memory.cell_setCell_of_eq same)).symm.trans otherFull
          obtain rfl := Nat.succ.inj isNext
          refine ⟨early, fun _ => ?_⟩
          exact
            (congrArg Cell.data (Memory.cell_setCell_of_eq same)).trans
              isData
        · obtain ⟨otherEarly, otherData⟩ :=
            consistent.full other
              ((Memory.full_setCell_of_ne same).mp otherFull)
          refine ⟨otherEarly, fun notTaken => ?_⟩
          exact
            (congrArg Cell.data (Memory.cell_setCell_of_ne same)).trans
              (otherData notTaken)
      pending := by
        intro other notTaken otherEarly
        by_cases isPos : other = pos
        · subst isPos
          exact
            .inl (congrArg Cell.sequence (Memory.cell_setCell_of_eq rfl))
        · refine (consistent.pending other notTaken otherEarly).imp ?_ ?_
          · intro otherFull
            exact
              (Memory.full_setCell_of_ne fun same =>
                free.not_full same otherFull).mpr otherFull
          · intro held
            refine exists_update held fun own => ?_
            rw [stage] at own
            exact absurd own.symm isPos
      vacant := by
        intro other notEnqueued inRange
        refine (consistent.vacant other notEnqueued inRange).imp ?_ ?_
        · intro otherFree
          refine (Memory.free_setCell_of_ne fun same => ?_).mpr otherFree
          rw [freeOnly other same otherFree] at notEnqueued
          exact Nat.not_lt.mpr notEnqueued early
        · rintro ⟨ticket, isRound, held⟩
          exact ⟨ticket, isRound, exists_update_of_not held (noDequeue _)⟩
      served := consistent.served_update noDequeue
      genuine := consistent.genuine_update fun _ _ => id }

/-- Releasing a cell. -/
theorem Consistent.dequeueStore
    (consistent : Consistent size system)
    {data : Option T}
    (stage : system.threads thread = .dequeueStore pos data) :
    Consistent size
      ((system.advance thread
        (system.memory.setCell size pos
          { system.memory.cell size pos with
            sequence := pos + size.bufferMask + 1 })
        .idle).record (.returned pos data)) := by
  have noEnqueue : ∀ pos, ¬ (system.threads thread).Enqueues pos := by
    rw [stage]
    exact fun _ => id
  have own := consistent.stages thread
  rw [stage] at own
  obtain ⟨early, full, isData⟩ := own
  have ticket : (system.threads thread).Dequeues pos := by
    rw [stage]
    rfl
  have large := size.two_le_bufferSize
  have round : pos + size.bufferMask + 1 = pos + size.bufferSize := by
    rw [BufferSize.bufferMask]
    omega
  rw [round]
  exact
    { consistent with
      stages := by
        refine forall_update (StageOk size _ _) ?_ trivial
        intro other different
        refine
          (consistent.stages other).setSequence ?_ ?_ ?_ _
        · intro otherPos otherTicket
          exact consistent.apart (.inr ticket) otherTicket different
        · intro otherPos same otherFree
          exact absurd full (otherFree.not_full same.symm)
        · intro otherPos same otherFull
          rw [full.eq otherFull same]
          exact early
      enqueueOnce :=
        once_update consistent.enqueueOnce fun _ _ _ own => own.elim
      dequeueOnce :=
        once_update consistent.dequeueOnce fun _ _ _ own => own.elim
      passed :=
        consistent.passed_setCell
          (Nat.le_trans (Nat.le_of_eq full)
            (Nat.add_le_add_left (Nat.le_of_succ_le large) pos))
      free := by
        intro other otherFree
        by_cases same : size.index other = size.index pos
        · have isRound : pos + size.bufferSize = other :=
            (congrArg Cell.sequence
              (Memory.cell_setCell_of_eq same)).symm.trans otherFree
          subst isRound
          exact Nat.add_lt_add_right early _
        · exact
            consistent.free other
              ((Memory.free_setCell_of_ne same).mp otherFree)
      full := by
        intro other otherFull
        by_cases same : size.index other = size.index pos
        · have isRound : pos + size.bufferSize = other + 1 :=
            (congrArg Cell.sequence
              (Memory.cell_setCell_of_eq same)).symm.trans otherFull
          exfalso
          refine size.index_succ_ne other ?_
          rw [← isRound, BufferSize.index_add_bufferSize, same]
        · obtain ⟨otherEarly, otherData⟩ :=
            consistent.full other
              ((Memory.full_setCell_of_ne same).mp otherFull)
          refine ⟨otherEarly, fun notTaken => ?_⟩
          exact
            (congrArg Cell.data (Memory.cell_setCell_of_ne same)).trans
              (otherData notTaken)
      pending := by
        intro other notTaken otherEarly
        refine (consistent.pending other notTaken otherEarly).imp ?_ ?_
        · intro otherFull
          refine (Memory.full_setCell_of_ne fun same => ?_).mpr otherFull
          obtain rfl := full.eq otherFull same
          exact Nat.not_lt.mpr notTaken early
        · intro held
          exact exists_update_of_not held (noEnqueue _)
      vacant := by
        intro other notEnqueued inRange
        by_cases isNext : pos + size.bufferSize = other
        · subst isNext
          exact
            .inl
              (congrArg Cell.sequence
                (Memory.cell_setCell_of_eq (size.index_add_bufferSize pos)))
        · refine (consistent.vacant other notEnqueued inRange).imp ?_ ?_
          · intro otherFree
            exact
              (Memory.free_setCell_of_ne fun same =>
                otherFree.not_full same.symm full).mpr otherFree
          · rintro ⟨ticket, isRound, held⟩
            refine ⟨ticket, isRound, exists_update held fun own => ?_⟩
            rw [stage] at own
            obtain rfl : pos = ticket := own
            exact absurd isRound isNext
      served := by
        intro other taken
        show other ∈ (system.returned ++ [(pos, data)]).map Prod.fst ∨ _
        rw [List.map_append, List.mem_append]
        by_cases isPos : other = pos
        · subst isPos
          exact .inl (.inr List.mem_cons_self)
        · refine (consistent.served other taken).imp .inl ?_
          intro held
          refine exists_update held fun own => ?_
          rw [stage] at own
          exact absurd own.symm isPos
      genuine := by
        intro entry member
        rcases List.mem_append.mp member with before | isNew
        · exact consistent.genuine_update (fun _ _ => id) entry before
        · obtain rfl := List.mem_singleton.mp isNew
          refine
            ⟨early, isData,
              forall_update (fun stage => ¬ stage.Dequeues pos)
                (fun other different otherDequeues => ?_) id⟩
          exact different
            (consistent.dequeueOnce other thread pos otherDequeues ticket)
      distinct := by
        show ((system.returned ++ [(pos, data)]).map Prod.fst).Nodup
        rw [List.map_append, List.nodup_append]
        refine ⟨consistent.distinct, List.nodup_singleton _, ?_⟩
        rintro first member second isNew rfl
        obtain rfl := List.mem_singleton.mp isNew
        obtain ⟨entry, isEntry, isPos⟩ := List.mem_map.mp member
        obtain ⟨-, -, unheld⟩ := consistent.genuine entry isEntry
        rw [isPos] at unheld
        exact unheld thread ticket }

end

/-! ## Steps and runs -/

section

variable {system next : System T} {thread : Nat} {event : Event T}
variable {memory : Memory T} {before stage : Stage T}

/-- Every step of a thread keeps the queue in order. -/
theorem Consistent.threadStep
    (consistent : Consistent size system)
    (isStage : system.threads thread = before)
    (step : ThreadStep size system.memory before event memory stage) :
    Consistent size ((system.advance thread memory stage).record event) := by
  have own := consistent.stages thread
  -- loads and exchanges that fail leave the memory and take no ticket
  have silent :
      ∀ next : Stage T,
        (∀ pos, before.HasTicket pos → False) →
          (∀ pos, next.HasTicket pos → False) →
            StageOk size system.memory system.enqueued next →
              Consistent size
                (system.advance thread system.memory next) := by
    intro next noTicket nextNoTicket stageOk
    rw [← isStage] at noTicket
    exact
      consistent.advance (fun pos own => noTicket pos (.inl own))
        (fun pos own => noTicket pos (.inr own))
        (fun pos own => nextNoTicket pos (.inl own))
        (fun pos own => nextNoTicket pos (.inr own)) stageOk
  rw [isStage] at own
  generalize isMemory : system.memory = was at step
  cases step with
  | enqueue | enqueueExchangeFails | enqueueAgain =>
      subst isMemory
      exact
        silent _ (fun _ ticket => Or.elim ticket id id)
          (fun _ ticket => Or.elim ticket id id) (Nat.le_refl _)
  | dequeue | dequeueExchangeFails | dequeueAgain | enqueueFull
  | dequeueEmpty =>
      subst isMemory
      exact
        silent _ (fun _ ticket => Or.elim ticket id id)
          (fun _ ticket => Or.elim ticket id id) trivial
  | enqueueLoad | dequeueLoad =>
      subst isMemory
      exact
        silent _ (fun _ ticket => Or.elim ticket id id)
          (fun _ ticket => Or.elim ticket id id) .inr
  | enqueueExchange current =>
      subst isMemory
      exact consistent.enqueueExchange isStage current
  | dequeueExchange current =>
      subst isMemory
      exact consistent.dequeueExchange isStage current
  | enqueueWrite =>
      subst isMemory
      obtain ⟨early, free, isData⟩ := own
      refine
        consistent.setData (isStage ▸ .inl rfl) (fun _ => isStage ▸ Iff.rfl)
          (fun _ => isStage ▸ Iff.rfl) _
          ⟨early, Memory.free_setData.mpr free, ?_⟩
      rw [Memory.cell_setCell_of_eq rfl]
      exact isData.symm
  | dequeueRead =>
      subst isMemory
      obtain ⟨early, full, isData⟩ := own
      exact
        consistent.setData (isStage ▸ .inr rfl) (fun _ => isStage ▸ Iff.rfl)
          (fun _ => isStage ▸ Iff.rfl) _
          ⟨early, Memory.full_setData.mpr full, isData⟩
  | enqueueStore =>
      subst isMemory
      exact consistent.enqueueStore isStage
  | dequeueStore =>
      subst isMemory
      exact consistent.dequeueStore isStage

end

section

variable {system next : System T} {label : Nat × Event T}
variable {labels : List (Nat × Event T)}

theorem Consistent.step
    (consistent : Consistent size system)
    (step : Step size system label next) :
    Consistent size next := by
  cases step with
  | thread step => exact consistent.threadStep rfl step

theorem Consistent.run
    (consistent : Consistent size system)
    (run : Run size system labels next) :
    Consistent size next := by
  induction run with
  | nil => exact consistent
  | cons step run inductionHypothesis =>
      exact inductionHypothesis (consistent.step step)

end

/-! ## A run -/

/-- A step of a thread whose stage is known. -/
theorem Run.cons_thread
    {system next : System T}
    {before stage : Stage T}
    {event : Event T}
    {memory : Memory T}
    {labels : List (Nat × Event T)}
    (thread : Nat)
    (isStage : system.threads thread = before)
    (step : ThreadStep size system.memory before event memory stage)
    (run :
      Run size ((system.advance thread memory stage).record event) labels
        next) :
    Run size system ((thread, event) :: labels) next :=
  .cons (.thread (isStage ▸ step)) run

/--
Two threads put numbers through a queue with two cells at the same time.  The
exchange of the second thread fails both times, and it is done first.
-/
theorem exists_run_passedTwo :
    ∃ labels system,
      Run ⟨1, Nat.one_pos⟩ (System.new : System Nat) labels system ∧
        system.returned = [(1, some 8), (0, some 7)] ∧
        system.memory.dequeuePos = 2 ∧
        ∀ thread, system.threads thread = .idle := by
  apply Exists.intro
  apply Exists.intro
  constructor
  · apply Run.cons_thread 0 rfl (.enqueue 7)
    apply Run.cons_thread 1 rfl (.enqueue 8)
    apply Run.cons_thread 0 rfl .enqueueLoad
    apply Run.cons_thread 1 rfl .enqueueLoad
    apply Run.cons_thread 0 rfl (.enqueueExchange rfl)
    apply Run.cons_thread 1 rfl .enqueueExchangeFails
    apply Run.cons_thread 1 rfl .enqueueLoad
    apply Run.cons_thread 1 rfl (.enqueueExchange rfl)
    apply Run.cons_thread 1 rfl .enqueueWrite
    apply Run.cons_thread 1 rfl .enqueueStore
    apply Run.cons_thread 0 rfl .enqueueWrite
    apply Run.cons_thread 0 rfl .enqueueStore
    apply Run.cons_thread 0 rfl .dequeue
    apply Run.cons_thread 1 rfl .dequeue
    apply Run.cons_thread 0 rfl .dequeueLoad
    apply Run.cons_thread 1 rfl .dequeueLoad
    apply Run.cons_thread 0 rfl (.dequeueExchange rfl)
    apply Run.cons_thread 1 rfl .dequeueExchangeFails
    apply Run.cons_thread 1 rfl .dequeueLoad
    apply Run.cons_thread 1 rfl (.dequeueExchange rfl)
    apply Run.cons_thread 1 rfl .dequeueRead
    apply Run.cons_thread 1 rfl .dequeueStore
    apply Run.cons_thread 0 rfl .dequeueRead
    apply Run.cons_thread 0 rfl .dequeueStore
    apply Run.nil
  · refine ⟨rfl, rfl, fun thread => ?_⟩
    rcases thread with _ | _ | thread
    · rfl
    · rfl
    · simp [System.record, System.advance, System.new, Function.update]

/-! ## Reachable states -/

section

variable {system : System T} {labels : List (Nat × Event T)}

/-- What dequeues have returned, with its tickets. -/
theorem Consistent.returned_genuine
    (consistent : Consistent size system)
    {entry : Nat × Option T}
    (member : entry ∈ system.returned) :
    ∃ data, system.enqueued[entry.1]? = some data ∧
      entry.2 = some data := by
  obtain ⟨taken, isData, -⟩ := consistent.genuine entry member
  have early : entry.1 < system.enqueued.length := by
    rw [consistent.length]
    exact Nat.lt_of_lt_of_le taken consistent.ordered
  refine ⟨system.enqueued[entry.1], List.getElem?_eq_getElem early, ?_⟩
  rw [isData, List.getElem?_eq_getElem early]

/--
However the threads interleave, no ticket is returned twice, whatever a
dequeue returns was enqueued with its ticket, two threads never use the same
cell, and no more tickets are out than there are cells.
-/
theorem tickets_servedOnce
    (run : Run size (System.new : System T) labels system) :
    (system.returned.map Prod.fst).Nodup ∧
      (∀ entry ∈ system.returned,
        ∃ data, system.enqueued[entry.1]? = some data ∧
          entry.2 = some data) ∧
      (∀ first second pos other,
        (system.threads first).HasTicket pos →
          (system.threads second).HasTicket other →
            second ≠ first → size.index other ≠ size.index pos) ∧
      system.memory.dequeuePos ≤ system.memory.enqueuePos ∧
      system.memory.enqueuePos ≤
        system.memory.dequeuePos + size.bufferSize := by
  have consistent := consistent_new.run run
  refine
    ⟨consistent.distinct, ?_, ?_, consistent.ordered, consistent.capacity⟩
  · exact fun entry member => consistent.returned_genuine member
  · exact fun first second pos other => consistent.apart

theorem tickets_servedOnce_passedTwo :
    ∃ labels system,
      Run ⟨1, Nat.one_pos⟩ (System.new : System Nat) labels system ∧
        system.returned = [(1, some 8), (0, some 7)] ∧
        system.enqueued[1]? = some 8 ∧
        system.memory.enqueuePos ≤ system.memory.dequeuePos + 2 := by
  obtain ⟨labels, system, run, returned, -⟩ := exists_run_passedTwo
  obtain ⟨-, genuine, -, -, capacity⟩ := tickets_servedOnce run
  obtain ⟨data, isData, same⟩ :=
    genuine (1, some 8) (returned ▸ List.mem_cons_self)
  cases same
  exact ⟨labels, system, run, returned, isData, capacity⟩

/--
When no call is under way, dequeues have returned the tickets before the
dequeue position, each once with its data, and the cells hold the others.
-/
theorem idle_losesNothing
    (run : Run size (System.new : System T) labels system)
    (idle : ∀ thread, system.threads thread = .idle) :
    (system.returned.Perm
      ((List.range system.memory.dequeuePos).map fun pos =>
        (pos, system.enqueued[pos]?))) ∧
      ∀ pos, system.memory.dequeuePos ≤ pos →
        pos < system.memory.enqueuePos →
          system.memory.Full size pos ∧
            (system.memory.cell size pos).data = system.enqueued[pos]? := by
  have consistent := consistent_new.run run
  have noTicket :
      ∀ thread pos, (system.threads thread).HasTicket pos → False := by
    intro thread pos ticket
    rw [idle thread] at ticket
    exact ticket.elim id id
  constructor
  · have entries :
        system.returned = (system.returned.map Prod.fst).map fun pos =>
          (pos, system.enqueued[pos]?) := by
      rw [List.map_map]
      refine (List.map_id _).symm.trans (List.map_congr_left ?_)
      intro entry member
      exact Prod.ext rfl (consistent.genuine entry member).2.1
    rw [entries]
    refine List.Perm.map _ ?_
    rw [List.perm_ext_iff_of_nodup consistent.distinct List.nodup_range]
    intro pos
    rw [List.mem_range]
    constructor
    · intro member
      obtain ⟨entry, isEntry, rfl⟩ := List.mem_map.mp member
      exact (consistent.genuine entry isEntry).1
    · intro taken
      rcases consistent.served pos taken with member | ⟨thread, dequeues⟩
      · exact member
      · exact (noTicket thread pos (.inr dequeues)).elim
  · intro pos notTaken early
    rcases consistent.pending pos notTaken early with full |
      ⟨thread, enqueues⟩
    · exact ⟨full, (consistent.full pos full).2 notTaken⟩
    · exact (noTicket thread pos (.inl enqueues)).elim

theorem idle_losesNothing_passedTwo :
    ∃ labels system,
      Run ⟨1, Nat.one_pos⟩ (System.new : System Nat) labels system ∧
        system.returned = [(1, some 8), (0, some 7)] ∧
        [(1, some 8), (0, some 7)].Perm
          ([0, 1].map fun pos => (pos, system.enqueued[pos]?)) := by
  obtain ⟨labels, system, run, returned, taken, idle⟩ := exists_run_passedTwo
  have entries := (idle_losesNothing run idle).1
  rw [returned, taken] at entries
  exact ⟨labels, system, run, returned, entries⟩

end

end Radar.MpmcBoundedQueue
