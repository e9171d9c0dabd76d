import Mathlib.Data.List.Range
import Mathlib.Data.Nat.ModEq
import Mathlib.Logic.Function.Basic

namespace SlidingWindow

/-!
# Rings as windows onto an unbounded sequence

A ring of `size` cells is read relative to a moving head.  Read this way it
shows a window of fixed width onto a sequence indexed by the naturals: cell
`offset` of a ring whose window starts at `base` stands for position
`base + offset` of the sequence.  The lemmas say which sequence a ring shows
after a write, after a run of writes and after the head has moved on.
-/

/-- A ring of cells read relative to its head. -/
@[ext] structure Ring (α : Type) (size : Nat) where
  head : Fin size
  cells : Fin size → α

namespace Ring

variable {α : Type} {size : Nat}

/-- The physical cell `offset` places after the head. -/
def slot (ring : Ring α size) (offset : Nat) : Fin size :=
  ⟨(ring.head.val + offset) % size,
    Nat.mod_lt _ (Nat.zero_lt_of_lt ring.head.isLt)⟩

/-- Read the cell `offset` places after the head. -/
def get (ring : Ring α size) (offset : Nat) : α :=
  ring.cells (ring.slot offset)

/-- Overwrite the cell `offset` places after the head. -/
def set (ring : Ring α size) (offset : Nat) (value : α) : Ring α size :=
  { ring with cells := Function.update ring.cells (ring.slot offset) value }

/-- Overwrite `count` consecutive cells beginning `first` places after the head. -/
def fill
    (ring : Ring α size)
    (first count : Nat)
    (value : α) :
    Ring α size :=
  (List.range' first count).foldl
    (fun current offset => current.set offset value) ring

/-- Move the head forward without touching any cell. -/
def advance (ring : Ring α size) (steps : Nat) : Ring α size :=
  { ring with head := ring.slot steps }

/-- A ring whose window starts at `base` agrees with the sequence `sequence`. -/
def Shows
    (ring : Ring α size)
    (base : Nat)
    (sequence : Nat → α) :
    Prop :=
  ∀ offset, offset < size → ring.get offset = sequence (base + offset)

/-- Offsets name the same cell exactly when they agree modulo the size. -/
theorem slot_eq_slot_iff
    (ring : Ring α size)
    (first second : Nat) :
    ring.slot first = ring.slot second ↔
      first % size = second % size := by
  simp only [slot, Fin.mk.injEq]
  constructor
  · intro same
    exact Nat.ModEq.add_left_cancel' ring.head.val same
  · intro same
    exact Nat.ModEq.add_left ring.head.val same

@[simp] theorem slot_set
    (ring : Ring α size)
    (offset query : Nat)
    (value : α) :
    (ring.set offset value).slot query = ring.slot query := rfl

/-- A write is seen at every offset that names the written cell. -/
theorem get_set
    (ring : Ring α size)
    (offset query : Nat)
    (value : α) :
    (ring.set offset value).get query =
      if query % size = offset % size then
        value
      else
        ring.get query := by
  unfold get
  rw [slot_set]
  by_cases same : ring.slot query = ring.slot offset
  · rw [if_pos ((ring.slot_eq_slot_iff query offset).mp same), same]
    exact Function.update_self ..
  · rw [if_neg (same ∘ (ring.slot_eq_slot_iff query offset).mpr)]
    exact Function.update_of_ne same ..

theorem fill_succ
    (ring : Ring α size)
    (first count : Nat)
    (value : α) :
    ring.fill first (count + 1) value =
      (ring.set first value).fill (first + 1) count value := rfl

@[simp] theorem head_fill
    (ring : Ring α size)
    (first count : Nat)
    (value : α) :
    (ring.fill first count value).head = ring.head := by
  induction count generalizing ring first with
  | zero =>
      rfl
  | succ count inductionHypothesis =>
      rw [fill_succ, inductionHypothesis]
      rfl

/-- A value once shown survives a run of writes of that same value. -/
private theorem get_fill_of_covered
    {ring : Ring α size}
    {first count query : Nat}
    {value : α}
    (covered :
      ring.get query = value ∨
        ∃ offset, first ≤ offset ∧ offset < first + count ∧
          query % size = offset % size) :
    (ring.fill first count value).get query = value := by
  induction count generalizing ring first with
  | zero =>
      rcases covered with already | ⟨offset, lower, upper, _⟩
      · exact already
      · omega
  | succ count inductionHypothesis =>
      rw [fill_succ]
      apply inductionHypothesis
      rw [get_set]
      rcases covered with already | ⟨offset, lower, upper, same⟩
      · left
        split
        · rfl
        · exact already
      · by_cases isFirst : offset = first
        · left
          rw [if_pos (isFirst ▸ same)]
        · right
          exact ⟨offset, by omega, by omega, same⟩

/-- A run of writes is seen at every offset that names a written cell. -/
theorem get_fill_of_mem
    {ring : Ring α size}
    {first count query offset : Nat}
    {value : α}
    (lower : first ≤ offset)
    (upper : offset < first + count)
    (same : query % size = offset % size) :
    (ring.fill first count value).get query = value :=
  get_fill_of_covered (.inr ⟨offset, lower, upper, same⟩)

/-- Cells outside a run of writes keep their value. -/
theorem get_fill_of_not_mem
    {ring : Ring α size}
    {first count query : Nat}
    {value : α}
    (outside :
      ∀ offset, first ≤ offset → offset < first + count →
        query % size ≠ offset % size) :
    (ring.fill first count value).get query = ring.get query := by
  induction count generalizing ring first with
  | zero =>
      rfl
  | succ count inductionHypothesis =>
      rw [fill_succ, inductionHypothesis, get_set, if_neg]
      · exact outside first (by omega) (by omega)
      · intro offset lower upper
        exact outside offset (by omega) (by omega)

/-- Within one turn of the ring a run of writes covers an interval. -/
theorem get_fill
    (ring : Ring α size)
    {first count query : Nat}
    (value : α)
    (inRing : first + count ≤ size)
    (queryInRing : query < size) :
    (ring.fill first count value).get query =
      if first ≤ query ∧ query < first + count then
        value
      else
        ring.get query := by
  split
  · next covered =>
      exact get_fill_of_mem covered.1 covered.2 rfl
  · next uncovered =>
      apply get_fill_of_not_mem
      intro offset lower upper same
      rw [Nat.mod_eq_of_lt queryInRing,
        Nat.mod_eq_of_lt (by omega)] at same
      omega

/-- After the head has moved, offsets are read that much further on. -/
theorem get_advance
    (ring : Ring α size)
    (steps query : Nat) :
    (ring.advance steps).get query = ring.get (steps + query) := by
  simp [get, slot, advance, Nat.add_assoc]

namespace Shows

/-- A run of writes inside the window rewrites the shown sequence there. -/
theorem fill
    {ring : Ring α size}
    {base : Nat}
    {sequence : Nat → α}
    (shown : ring.Shows base sequence)
    {first count : Nat}
    (value : α)
    (inRing : first + count ≤ size) :
    (ring.fill first count value).Shows base
      (fun position =>
        if base + first ≤ position ∧
            position < base + (first + count) then
          value
        else
          sequence position) := by
  intro query queryInRing
  rw [ring.get_fill value inRing queryInRing,
    shown query queryInRing]
  simp only [Nat.add_le_add_iff_left, Nat.add_lt_add_iff_left]

/--
Moving the window on shows the same sequence from the new base, provided the
cells left behind were first overwritten with the values that come into view
at the far end.
-/
theorem advance
    {ring : Ring α size}
    {base : Nat}
    {sequence : Nat → α}
    (shown : ring.Shows base sequence)
    {steps : Nat}
    (value : α)
    (inRing : steps ≤ size)
    (incoming :
      ∀ position, base + size ≤ position →
        position < base + size + steps →
        sequence position = value) :
    ((ring.fill 0 steps value).advance steps).Shows
      (base + steps) sequence := by
  intro query queryInRing
  rw [get_advance]
  by_cases staysInRing : steps + query < size
  · rw [ring.get_fill value (by omega) staysInRing,
      if_neg (by omega), shown _ staysInRing, Nat.add_assoc]
  · have sameSlot :
        (steps + query) % size = (steps + query - size) % size :=
      Nat.mod_eq_sub_mod (by omega)
    rw [get_fill_of_mem (Nat.zero_le _) (by omega) sameSlot]
    exact (incoming _ (by omega) (by omega)).symm

end Shows

end Ring

end SlidingWindow
