import Mathlib.Data.Nat.Basic
import Mathlib.Order.Basic

namespace Radar

/-!
# Formatted text of any length

`string_format` prints into a buffer on the stack, and when the text does not
fit into a larger one on the heap.  `snprintf` keeps one place for the
terminating NUL; the test for a fit does not, so a text that is as long as the
first buffer loses its last character.
-/

namespace Utils

/-! ## Printing into a buffer -/

/-- The largest value of an `int`. -/
def intMax : Nat := 2147483647

/-- `static_cast<int>` of a size -/
def castInt (size : Nat) : Int := Int.bmod size 4294967296

/-- The contents of a buffer after a call, and what the call returns. -/
structure Printed where
  buf : List Char
  needed : Int

/--
`snprintf_impl` with a format and arguments that make a text: at most one
character less than the size is written, and a NUL.  A length that is no `int`
is an error.
-/
def snprintfImpl (buf : List Char) (bufSize : Nat) (text : List Char) :
    Printed where
  buf :=
    let written := text.take (bufSize - 1) ++ ['\x00']
    written ++ buf.drop written.length
  needed := if text.length ≤ intMax then text.length else -1

/-! ## The function -/

/-- `std::vector::resize` -/
def resize (buffer : List Char) (size : Nat) : List Char :=
  buffer.take size ++ List.replicate (size - buffer.length) '\x00'

/-- The two buffers of a call, and which of them `buf` points to. -/
structure Buffers where
  stackBuf : List Char
  dynamicBuf : List Char
  onStack : Bool

namespace Buffers

/-- `buf` -/
def buf (buffers : Buffers) : List Char :=
  if buffers.onStack then buffers.stackBuf else buffers.dynamicBuf

/-- The buffers after what `buf` points to is written. -/
def write (buffers : Buffers) (contents : List Char) : Buffers :=
  if buffers.onStack then
    { buffers with stackBuf := contents }
  else
    { buffers with dynamicBuf := contents }

/-- The vector is resized, and `buf` points to it. -/
def grow (buffers : Buffers) (size : Nat) : Buffers :=
  { buffers with
    dynamicBuf := resize buffers.dynamicBuf size
    onStack := false }

end Buffers

/--
How a call ends: a text is returned, the new size is no `int`, or the given
number of formatting calls is not enough.
-/
inductive Formatted where
  | returned (text : List Char)
  | undefined
  | unfinished
  deriving DecidableEq

/-- The loop of `string_format`, with a number of formatting calls. -/
def formatLoop (text : List Char) : Nat → Buffers → Nat → Formatted
  | 0, _, _ => .unfinished
  | calls + 1, buffers, size =>
      let printed := snprintfImpl buffers.buf size text
      if printed.needed ≤ castInt size ∧ 0 ≤ printed.needed then
        .returned (printed.buf.take printed.needed.toNat)
      else if printed.needed = intMax then
        .undefined
      else
        let size' :=
          if 0 < printed.needed then
            printed.needed.toNat + 1
          else
            size * 2 % 18446744073709551616
        formatLoop text calls
          ((buffers.write printed.buf).grow size') size'

/--
`string_format` with at most so many formatting calls.  The buffer on the
stack holds anything.
-/
def stringFormat
    (stackBuf : Vector Char 1024)
    (text : List Char)
    (calls : Nat) : Formatted :=
  formatLoop text calls
    { stackBuf := stackBuf.toList, dynamicBuf := [], onStack := true } 1024

/-! ## One formatting call -/

theorem castInt_of_le
    {size : Nat}
    (fits : size ≤ intMax) :
    castInt size = size := by
  have bound : size ≤ 2147483647 := fits
  exact Int.bmod_eq_of_le (by omega) (by omega)

theorem needed_of_le
    {text : List Char}
    (fits : text.length ≤ intMax)
    (buf : List Char)
    (size : Nat) :
    (snprintfImpl buf size text).needed = text.length :=
  if_pos fits

/-- A text that is shorter than the buffer is in it as a whole. -/
theorem take_buf_of_lt
    {text : List Char}
    {size : Nat}
    (fits : text.length < size)
    (buf : List Char) :
    (snprintfImpl buf size text).buf.take text.length = text := by
  have whole : text.take (size - 1) = text :=
    List.take_of_length_le (Nat.le_sub_one_of_lt fits)
  simp only [snprintfImpl, whole, List.append_assoc, List.take_left']

/-- A text that is as long as the buffer loses its last character. -/
theorem take_buf_of_eq
    {text : List Char}
    {size : Nat}
    (same : text.length = size)
    (positive : 0 < size)
    (buf : List Char) :
    (snprintfImpl buf size text).buf.take text.length =
      text.dropLast ++ ['\x00'] := by
  have long : (text.dropLast ++ ['\x00']).length = text.length := by
    rw [List.length_append, List.length_dropLast, List.length_singleton, same,
      Nat.sub_add_cancel positive]
  simp only [snprintfImpl]
  rw [← same, ← List.dropLast_eq_take,
    List.take_append_of_le_length long.ge, List.take_of_length_le long.le]

/-- A text that is not longer than the buffer is returned. -/
theorem formatLoop_of_le
    {text : List Char}
    {size : Nat}
    (fits : text.length ≤ size)
    (small : size ≤ intMax)
    (calls : Nat)
    (buffers : Buffers) :
    formatLoop text (calls + 1) buffers size =
      .returned
        ((snprintfImpl buffers.buf size text).buf.take text.length) := by
  simp only [formatLoop, needed_of_le (fits.trans small), castInt_of_le small,
    Int.toNat_natCast]
  exact if_pos ⟨by omega, Int.natCast_nonneg _⟩

/-- After a text that is longer the buffer is one larger than the text. -/
theorem formatLoop_of_gt
    {text : List Char}
    {size : Nat}
    (long : size < text.length)
    (small : text.length < intMax)
    (calls : Nat)
    (buffers : Buffers) :
    ∃ grown : Buffers,
      formatLoop text (calls + 1) buffers size =
        formatLoop text calls grown (text.length + 1) := by
  have notAccepted :
      ¬ ((text.length : Int) ≤ castInt size ∧ 0 ≤ (text.length : Int)) := by
    rw [castInt_of_le (long.le.trans small.le)]
    omega
  have notLargest : (text.length : Int) ≠ (intMax : Int) :=
    fun same => small.ne (Int.ofNat.inj same)
  have positive : 0 < (text.length : Int) := by omega
  simp only [formatLoop, needed_of_le small.le, if_neg notAccepted,
    if_neg notLargest, if_pos positive, Int.toNat_natCast]
  exact ⟨_, rfl⟩

/-- The length of a text with the largest length cannot be increased. -/
theorem formatLoop_of_eq_intMax
    {text : List Char}
    {size : Nat}
    (long : size < text.length)
    (largest : text.length = intMax)
    (calls : Nat)
    (buffers : Buffers) :
    formatLoop text (calls + 1) buffers size = .undefined := by
  have notAccepted :
      ¬ ((intMax : Int) ≤ castInt size ∧ 0 ≤ (intMax : Int)) := by
    rw [castInt_of_le (long.le.trans largest.le)]
    omega
  simp only [formatLoop, needed_of_le largest.le, largest, if_neg notAccepted,
    if_true]

/-- A text whose length is no `int` is never returned. -/
theorem formatLoop_of_gt_intMax
    {text : List Char}
    (long : intMax < text.length)
    (calls : Nat)
    (buffers : Buffers)
    (size : Nat) :
    formatLoop text calls buffers size = .unfinished := by
  induction calls generalizing buffers size with
  | zero => rfl
  | succ calls inductionHypothesis =>
      have failed (buf : List Char) :
          (snprintfImpl buf size text).needed = -1 :=
        if_neg long.not_ge
      simp only [formatLoop, failed]
      rw [if_neg (by omega), if_neg (by decide)]
      exact inductionHypothesis _ _

/-! ## All lengths -/

/-- The last character of a text is the one put in its place. -/
theorem dropLast_append_eq_iff
    {text : List Char}
    (notEmpty : text ≠ [])
    (character : Char) :
    text.dropLast ++ [character] = text ↔
      text.getLast? = some character := by
  constructor
  · intro same
    rw [← same, List.getLast?_append, List.getLast?_singleton]
    rfl
  · intro last
    obtain ⟨before, rfl⟩ := List.getLast?_eq_some_iff.mp last
    rw [List.dropLast_concat]

/-- What two formatting calls make of a text. -/
theorem stringFormat_cases (stackBuf : Vector Char 1024) (text : List Char) :
    text.length < intMax ∧ text.length ≠ 1024 ∧
        stringFormat stackBuf text 2 = .returned text ∨
      text.length = 1024 ∧
        stringFormat stackBuf text 2 =
          .returned (text.dropLast ++ ['\x00']) ∨
      text.length = intMax ∧ stringFormat stackBuf text 2 = .undefined ∨
      intMax < text.length ∧
        stringFormat stackBuf text 2 = .unfinished := by
  have small : 1024 ≤ intMax := by decide
  unfold stringFormat
  rcases lt_trichotomy text.length 1024 with short | same | long
  · refine Or.inl ⟨short.trans_le small, short.ne, ?_⟩
    rw [formatLoop_of_le short.le small, take_buf_of_lt short]
  · refine Or.inr (Or.inl ⟨same, ?_⟩)
    rw [formatLoop_of_le same.le small, take_buf_of_eq same (by decide)]
  · rcases lt_trichotomy text.length intMax with less | largest | more
    · refine Or.inl ⟨less, long.ne', ?_⟩
      obtain ⟨grown, again⟩ := formatLoop_of_gt long less 1 _
      rw [again, formatLoop_of_le (Nat.le_succ _) less,
        take_buf_of_lt (Nat.lt_succ_self _)]
    · exact
        Or.inr (Or.inr (Or.inl
          ⟨largest, formatLoop_of_eq_intMax long largest 1 _⟩))
    · exact
        Or.inr (Or.inr (Or.inr
          ⟨more, formatLoop_of_gt_intMax more 2 _ _⟩))

/--
What `string_format` returns for a text whose length is less than the largest
`int`.
-/
def formatted (text : List Char) : List Char :=
  if text.length = 1024 then
    text.dropLast ++ ['\x00']
  else
    text

theorem stringFormat_eq_formatted
    (stackBuf : Vector Char 1024)
    {text : List Char}
    (short : text.length < intMax) :
    stringFormat stackBuf text 2 = .returned (formatted text) := by
  rcases stringFormat_cases stackBuf text with
    ⟨-, other, result⟩ | ⟨same, result⟩ | ⟨largest, -⟩ | ⟨more, -⟩
  · rw [result, formatted, if_neg other]
  · rw [result, formatted, if_pos same]
  · exact absurd largest short.ne
  · exact absurd more short.not_gt

/--
Two formatting calls return the text exactly if its length is less than the
largest `int` and not the size of the first buffer, or its last character is
the NUL that is written there.
-/
theorem stringFormat_eq_returned_iff
    (stackBuf : Vector Char 1024)
    (text : List Char) :
    stringFormat stackBuf text 2 = .returned text ↔
      text.length < intMax ∧
        (text.length = 1024 → text.getLast? = some '\x00') := by
  rcases stringFormat_cases stackBuf text with
    ⟨less, other, result⟩ | ⟨same, result⟩ | ⟨largest, result⟩ |
      ⟨more, result⟩ <;> rw [result]
  · exact iff_of_true rfl ⟨less, fun same => absurd same other⟩
  · have notEmpty : text ≠ [] := by
      rintro rfl
      cases same
    rw [Formatted.returned.injEq, dropLast_append_eq_iff notEmpty]
    exact ⟨fun last => ⟨by rw [same]; decide, fun _ => last⟩,
      fun condition => condition.2 same⟩
  · exact iff_of_false (by simp) fun condition => condition.1.ne largest
  · exact iff_of_false (by simp) fun condition => condition.1.not_gt more

/-- A text of 1024 letters loses the last one. -/
theorem stringFormat_loses_last :
    ¬ ∀ (stackBuf : Vector Char 1024) (text : List Char),
      stringFormat stackBuf text 2 = .returned text := by
  intro claim
  have kept := claim (Vector.replicate 1024 ' ') (List.replicate 1024 'a')
  rcases stringFormat_cases (Vector.replicate 1024 ' ')
      (List.replicate 1024 'a') with
    ⟨-, other, -⟩ | ⟨-, result⟩ | ⟨largest, -⟩ | ⟨more, -⟩
  · exact other List.length_replicate
  · rw [kept, Formatted.returned.injEq] at result
    have last := congrArg List.getLast? result
    rw [List.getLast?_replicate, List.getLast?_append,
      List.getLast?_singleton] at last
    exact absurd last (by decide)
  · rw [List.length_replicate] at largest
    exact absurd largest (by decide)
  · rw [List.length_replicate] at more
    exact absurd more (by decide)

end Utils

end Radar
