import Mathlib.Algebra.Group.Nat.Defs
import Mathlib.Data.List.Nodup
import Mathlib.Logic.Function.Basic

namespace Radar

/-!
# The bounded queue of the asynchronous logger

The class `mpmc_bounded_queue`: a ring of cells, each with a sequence number
that says which ticket it waits for.  Any number of threads enqueue and dequeue
at the same time; a step of the system is one access of one thread to the
memory that they share.  The counters do not overflow.
-/

namespace MpmcBoundedQueue

/-! ## Memory -/

/-- A cell of the ring; data that has been moved from is gone. -/
structure Cell (T : Type) where
  sequence : Nat
  data : Option T

/-- The sizes that the constructor accepts are powers of two from two on. -/
structure BufferSize where
  exponent : Nat
  positive : 0 < exponent

namespace BufferSize

def bufferSize (size : BufferSize) : Nat := 2 ^ size.exponent

def bufferMask (size : BufferSize) : Nat := size.bufferSize - 1

/-- The cell of a position: the position and the mask. -/
def index (size : BufferSize) (pos : Nat) : Nat :=
  pos &&& size.bufferMask

theorem index_eq_mod (size : BufferSize) (pos : Nat) :
    size.index pos = pos % size.bufferSize :=
  Nat.and_two_pow_sub_one_eq_mod pos size.exponent

theorem two_le_bufferSize (size : BufferSize) : 2 ≤ size.bufferSize := by
  have grows := Nat.pow_le_pow_right Nat.two_pos size.positive
  rwa [Nat.pow_one] at grows

theorem index_lt (size : BufferSize) (pos : Nat) :
    size.index pos < size.bufferSize := by
  rw [index_eq_mod]
  exact Nat.mod_lt pos (Nat.lt_of_lt_of_le Nat.two_pos size.two_le_bufferSize)

theorem index_le (size : BufferSize) (pos : Nat) : size.index pos ≤ pos :=
  Nat.and_le_left

/-- Neighbouring positions have different cells. -/
theorem index_succ_ne (size : BufferSize) (pos : Nat) :
    size.index (pos + 1) ≠ size.index pos := by
  have large := size.two_le_bufferSize
  have inRange := size.index_lt pos
  rw [index_eq_mod] at inRange
  rw [index_eq_mod, index_eq_mod, Nat.add_mod, Nat.mod_eq_of_lt large]
  rcases Nat.lt_or_ge (pos % size.bufferSize + 1) size.bufferSize with
    low | high
  · rw [Nat.mod_eq_of_lt low]
    omega
  · have last : pos % size.bufferSize + 1 = size.bufferSize := by omega
    rw [last, Nat.mod_self]
    omega

/-- A whole round later the cell is the same. -/
theorem index_add_bufferSize (size : BufferSize) (pos : Nat) :
    size.index (pos + size.bufferSize) = size.index pos := by
  rw [index_eq_mod, index_eq_mod, Nat.add_mod_right]

end BufferSize

/-- The shared memory of a queue. -/
structure Memory (T : Type) where
  buffer : Nat → Cell T
  enqueuePos : Nat
  dequeuePos : Nat

variable {T : Type} (size : BufferSize)

namespace Memory

/-- A new queue: every cell waits for the first ticket that is its own. -/
def new : Memory T where
  buffer index := { sequence := index, data := none }
  enqueuePos := 0
  dequeuePos := 0

/-- The cell of a position. -/
def cell (memory : Memory T) (pos : Nat) : Cell T :=
  memory.buffer (size.index pos)

/-- Write a cell. -/
def setCell (memory : Memory T) (pos : Nat) (cell : Cell T) : Memory T :=
  { memory with
    buffer := Function.update memory.buffer (size.index pos) cell }

theorem cell_setCell
    (memory : Memory T)
    (pos other : Nat)
    (cell : Cell T) :
    (memory.setCell size pos cell).cell size other =
      if size.index other = size.index pos then
        cell
      else
        memory.cell size other :=
  Function.update_apply _ _ _ _

end Memory

/-! ## Threads -/

/-- Where a thread is: in `enqueue`, in `dequeue`, or in neither of them. -/
inductive Stage (T : Type) where
  | idle
  | enqueueLoop (data : T) (pos : Nat)
  | enqueueCheck (data : T) (pos seq : Nat)
  | enqueueWrite (data : T) (pos : Nat)
  | enqueueStore (pos : Nat)
  | dequeueLoop (pos : Nat)
  | dequeueCheck (pos seq : Nat)
  | dequeueRead (pos : Nat)
  | dequeueStore (pos : Nat) (data : Option T)

/-- What a step means to the callers of the queue. -/
inductive Event (T : Type) where
  | silent
  /-- An enqueue has its ticket. -/
  | claimed (data : T)
  /-- An enqueue returns `true`, or `false`. -/
  | accepted
  | refused
  /-- A dequeue has its ticket. -/
  | taking (pos : Nat)
  /-- A dequeue returns data, or finds nothing. -/
  | returned (pos : Nat) (data : Option T)
  | empty

/-- A step of a thread. -/
inductive ThreadStep :
    Memory T → Stage T → Event T → Memory T → Stage T → Prop where
  | enqueue
      {memory : Memory T}
      (data : T) :
      ThreadStep memory .idle .silent memory
        (.enqueueLoop data memory.enqueuePos)
  | enqueueLoad
      {memory : Memory T}
      {data : T}
      {pos : Nat} :
      ThreadStep memory (.enqueueLoop data pos) .silent memory
        (.enqueueCheck data pos (memory.cell size pos).sequence)
  | enqueueExchange
      {memory : Memory T}
      {data : T}
      {pos : Nat}
      (current : memory.enqueuePos = pos) :
      ThreadStep memory (.enqueueCheck data pos pos) (.claimed data)
        { memory with enqueuePos := pos + 1 } (.enqueueWrite data pos)
  | enqueueExchangeFails
      {memory : Memory T}
      {data : T}
      {pos : Nat} :
      -- also without a reason, since the exchange is a weak one
      ThreadStep memory (.enqueueCheck data pos pos) .silent memory
        (.enqueueLoop data memory.enqueuePos)
  | enqueueFull
      {memory : Memory T}
      {data : T}
      {pos seq : Nat}
      (less : seq < pos) :
      ThreadStep memory (.enqueueCheck data pos seq) .refused memory .idle
  | enqueueAgain
      {memory : Memory T}
      {data : T}
      {pos seq : Nat}
      (greater : pos < seq) :
      ThreadStep memory (.enqueueCheck data pos seq) .silent memory
        (.enqueueLoop data memory.enqueuePos)
  | enqueueWrite
      {memory : Memory T}
      {data : T}
      {pos : Nat} :
      ThreadStep memory (.enqueueWrite data pos) .silent
        (memory.setCell size pos
          { memory.cell size pos with data := some data })
        (.enqueueStore pos)
  | enqueueStore
      {memory : Memory T}
      {pos : Nat} :
      ThreadStep memory (.enqueueStore pos) .accepted
        (memory.setCell size pos
          { memory.cell size pos with sequence := pos + 1 })
        .idle
  | dequeue
      {memory : Memory T} :
      ThreadStep memory .idle .silent memory (.dequeueLoop memory.dequeuePos)
  | dequeueLoad
      {memory : Memory T}
      {pos : Nat} :
      ThreadStep memory (.dequeueLoop pos) .silent memory
        (.dequeueCheck pos (memory.cell size pos).sequence)
  | dequeueExchange
      {memory : Memory T}
      {pos : Nat}
      (current : memory.dequeuePos = pos) :
      ThreadStep memory (.dequeueCheck pos (pos + 1)) (.taking pos)
        { memory with dequeuePos := pos + 1 } (.dequeueRead pos)
  | dequeueExchangeFails
      {memory : Memory T}
      {pos : Nat} :
      ThreadStep memory (.dequeueCheck pos (pos + 1)) .silent memory
        (.dequeueLoop memory.dequeuePos)
  | dequeueEmpty
      {memory : Memory T}
      {pos seq : Nat}
      (less : seq < pos + 1) :
      ThreadStep memory (.dequeueCheck pos seq) .empty memory .idle
  | dequeueAgain
      {memory : Memory T}
      {pos seq : Nat}
      (greater : pos + 1 < seq) :
      ThreadStep memory (.dequeueCheck pos seq) .silent memory
        (.dequeueLoop memory.dequeuePos)
  | dequeueRead
      {memory : Memory T}
      {pos : Nat} :
      ThreadStep memory (.dequeueRead pos) .silent
        (memory.setCell size pos { memory.cell size pos with data := none })
        (.dequeueStore pos (memory.cell size pos).data)
  | dequeueStore
      {memory : Memory T}
      {pos : Nat}
      {data : Option T} :
      ThreadStep memory (.dequeueStore pos data) (.returned pos data)
        (memory.setCell size pos
          { memory.cell size pos with
            sequence := pos + size.bufferMask + 1 })
        .idle

/-! ## The system -/

/--
Any number of threads and their memory, with the history of the queue: the
data that has tickets, in their order, and what dequeues have returned.
-/
structure System (T : Type) where
  memory : Memory T
  threads : Nat → Stage T
  enqueued : List T
  returned : List (Nat × Option T)

namespace System

def new : System T where
  memory := .new
  threads _ := .idle
  enqueued := []
  returned := []

/-- The history after an event. -/
def record (system : System T) : Event T → System T
  | .claimed data =>
      { system with enqueued := system.enqueued ++ [data] }
  | .returned pos data =>
      { system with returned := system.returned ++ [(pos, data)] }
  | .silent | .accepted | .refused | .taking _ | .empty => system

@[simp] theorem threads_record (system : System T) (event : Event T) :
    (system.record event).threads = system.threads := by
  cases event <;> rfl

/-- The memory and the stage of a thread after a step. -/
def advance
    (system : System T)
    (thread : Nat)
    (memory : Memory T)
    (stage : Stage T) :
    System T :=
  { system with
    memory := memory
    threads := Function.update system.threads thread stage }

end System

/-- A step of the system is a step of one of the threads. -/
inductive Step : System T → Nat × Event T → System T → Prop where
  | thread
      {system : System T}
      {thread : Nat}
      {event : Event T}
      {memory : Memory T}
      {stage : Stage T}
      (step :
        ThreadStep size system.memory (system.threads thread) event memory
          stage) :
      Step system (thread, event)
        ((system.advance thread memory stage).record event)

/-- A run of the system. -/
inductive Run : System T → List (Nat × Event T) → System T → Prop where
  | nil (system : System T) : Run system [] system
  | cons
      {system middle next : System T}
      {label : Nat × Event T}
      {labels : List (Nat × Event T)}
      (step : Step size system label middle)
      (run : Run middle labels next) :
      Run system (label :: labels) next

end MpmcBoundedQueue

end Radar
