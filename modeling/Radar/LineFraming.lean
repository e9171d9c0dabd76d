import Mathlib.Data.List.Basic

namespace LineFraming

/-!
# Streams of terminated records

A delimiter cuts a stream into records that end with it and an unfinished
rest.  The records do not depend on the pieces in which the stream arrives.
-/

variable {Symbol : Type}

/-! ## Records -/

/-- A record ends with the only delimiter in it. -/
def Terminated (delimiter : Symbol) (record : List Symbol) : Prop :=
  ∃ body, delimiter ∉ body ∧ record = body ++ [delimiter]

theorem Terminated.ne_nil
    {delimiter : Symbol}
    {record : List Symbol}
    (terminated : Terminated delimiter record) :
    record ≠ [] := by
  obtain ⟨body, -, rfl⟩ := terminated
  simp

variable [DecidableEq Symbol] (delimiter : Symbol)

/-- The records of a stream and what follows the last one. -/
def split : List Symbol → List (List Symbol) × List Symbol
  | [] => ([], [])
  | symbol :: stream =>
      if symbol = delimiter then
        ([symbol] :: (split stream).1, (split stream).2)
      else
        match split stream with
        | ([], rest) => ([], symbol :: rest)
        | (record :: records, rest) => ((symbol :: record) :: records, rest)

/-- The records of a stream, each with its delimiter. -/
def records (stream : List Symbol) : List (List Symbol) :=
  (split delimiter stream).1

/-- What follows the last record of a stream. -/
def rest (stream : List Symbol) : List Symbol :=
  (split delimiter stream).2

/-- The length of the first record of a stream, if there is one. -/
def firstLength : List Symbol → Option Nat
  | [] => none
  | symbol :: stream =>
      if symbol = delimiter then
        some 1
      else
        (firstLength stream).map (· + 1)

variable {delimiter}

/-- A record in front of a stream is its first one. -/
theorem split_append_of_terminated
    {record : List Symbol}
    (terminated : Terminated delimiter record)
    (stream : List Symbol) :
    split delimiter (record ++ stream) =
      (record :: records delimiter stream, rest delimiter stream) := by
  obtain ⟨body, absent, rfl⟩ := terminated
  induction body with
  | nil => simp [split, records, rest]
  | cons symbol body inductionHypothesis =>
      rw [List.mem_cons, not_or] at absent
      obtain ⟨other, absentBody⟩ := absent
      have found := inductionHypothesis absentBody
      rw [List.cons_append, List.cons_append, split, if_neg (Ne.symm other),
        found]

@[simp] theorem records_append_of_terminated
    {record : List Symbol}
    (terminated : Terminated delimiter record)
    (stream : List Symbol) :
    records delimiter (record ++ stream) =
      record :: records delimiter stream := by
  rw [records, split_append_of_terminated terminated]

@[simp] theorem rest_append_of_terminated
    {record : List Symbol}
    (terminated : Terminated delimiter record)
    (stream : List Symbol) :
    rest delimiter (record ++ stream) = rest delimiter stream := by
  rw [rest, split_append_of_terminated terminated]

/-- A stream without the delimiter is unfinished. -/
theorem split_of_notMem
    {stream : List Symbol}
    (absent : delimiter ∉ stream) :
    split delimiter stream = ([], stream) := by
  induction stream with
  | nil => rfl
  | cons symbol stream inductionHypothesis =>
      rw [List.mem_cons, not_or] at absent
      obtain ⟨other, absentStream⟩ := absent
      rw [split, if_neg (Ne.symm other), inductionHypothesis absentStream]

theorem records_of_notMem
    {stream : List Symbol}
    (absent : delimiter ∉ stream) :
    records delimiter stream = [] := by
  rw [records, split_of_notMem absent]

theorem rest_of_notMem
    {stream : List Symbol}
    (absent : delimiter ∉ stream) :
    rest delimiter stream = stream := by
  rw [rest, split_of_notMem absent]

/-! ## The first record -/

variable (delimiter) in
/-- A stream either has no delimiter or starts with a record. -/
theorem firstLength_cases (stream : List Symbol) :
    firstLength delimiter stream = none ∧ delimiter ∉ stream ∨
      ∃ size,
        firstLength delimiter stream = some size ∧ size ≤ stream.length ∧
          Terminated delimiter (stream.take size) := by
  induction stream with
  | nil => exact Or.inl ⟨rfl, List.not_mem_nil⟩
  | cons symbol stream inductionHypothesis =>
      have notIn {body : List Symbol} (other : symbol ≠ delimiter)
          (absent : delimiter ∉ body) : delimiter ∉ symbol :: body := by
        rw [List.mem_cons, not_or]
        exact ⟨other.symm, absent⟩
      by_cases same : symbol = delimiter
      · refine Or.inr ⟨1, if_pos same, by simp, [], List.not_mem_nil, ?_⟩
        rw [same, List.take_succ_cons, List.take_zero, List.nil_append]
      · rw [firstLength, if_neg same]
        rcases inductionHypothesis with
          ⟨none, absent⟩ | ⟨size, found, fits, body, absent, taken⟩
        · rw [none]
          exact Or.inl ⟨rfl, notIn same absent⟩
        · rw [found]
          refine
            Or.inr ⟨size + 1, rfl, Nat.succ_le_succ fits, symbol :: body,
              notIn same absent, ?_⟩
          rw [List.take_succ_cons, taken, List.cons_append]

/-- The first record and the stream behind it. -/
theorem records_of_firstLength
    {stream : List Symbol}
    {size : Nat}
    (found : firstLength delimiter stream = some size) :
    records delimiter stream =
        stream.take size :: records delimiter (stream.drop size) ∧
      rest delimiter stream = rest delimiter (stream.drop size) ∧
      0 < size ∧ size ≤ stream.length := by
  rcases firstLength_cases delimiter stream with
    ⟨none, -⟩ | ⟨size', found', fits, terminated⟩
  · rw [none] at found
    cases found
  · obtain rfl : size' = size := Option.some.inj (found'.symm.trans found)
    have whole := List.take_append_drop size' stream
    refine ⟨?_, ?_, ?_, fits⟩
    · conv_lhs => rw [← whole]
      exact records_append_of_terminated terminated _
    · conv_lhs => rw [← whole]
      exact rest_append_of_terminated terminated _
    · refine Nat.pos_of_ne_zero ?_
      rintro rfl
      exact terminated.ne_nil rfl

theorem notMem_of_firstLength
    {stream : List Symbol}
    (none : firstLength delimiter stream = none) :
    delimiter ∉ stream := by
  rcases firstLength_cases delimiter stream with
    ⟨-, absent⟩ | ⟨size, found, -⟩
  · exact absent
  · rw [found] at none
    cases none

variable (delimiter)

/-- Induction over the records of a stream. -/
theorem recordInduction
    {motive : List Symbol → Prop}
    (unfinished : ∀ stream, delimiter ∉ stream → motive stream)
    (record :
      ∀ record stream, Terminated delimiter record → motive stream →
        motive (record ++ stream))
    (stream : List Symbol) :
    motive stream := by
  rcases firstLength_cases delimiter stream with
    ⟨-, absent⟩ | ⟨size, -, -, terminated⟩
  · exact unfinished stream absent
  · have positive : 0 < size := by
      refine Nat.pos_of_ne_zero ?_
      rintro rfl
      exact terminated.ne_nil rfl
    have shorter : (stream.drop size).length < stream.length := by
      have notEmpty : 0 < stream.length := by
        refine List.length_pos_of_ne_nil ?_
        rintro rfl
        exact terminated.ne_nil List.take_nil
      rw [List.length_drop]
      omega
    rw [← List.take_append_drop size stream]
    exact
      record _ _ terminated
        (recordInduction unfinished record (stream.drop size))
termination_by stream.length

/-! ## Streams in pieces -/

/-- The records and the rest make the stream. -/
theorem flatten_records_append_rest (stream : List Symbol) :
    (records delimiter stream).flatten ++ rest delimiter stream = stream := by
  induction stream using recordInduction delimiter with
  | unfinished stream absent =>
      rw [records_of_notMem absent, rest_of_notMem absent]
      rfl
  | record record stream terminated inductionHypothesis =>
      rw [records_append_of_terminated terminated,
        rest_append_of_terminated terminated, List.flatten_cons,
        List.append_assoc, inductionHypothesis]

/-- The records of a stream without the rest. -/
theorem records_flatten_records (stream : List Symbol) :
    records delimiter (records delimiter stream).flatten =
      records delimiter stream := by
  induction stream using recordInduction delimiter with
  | unfinished stream absent =>
      rw [records_of_notMem absent]
      rfl
  | record record stream terminated inductionHypothesis =>
      rw [records_append_of_terminated terminated, List.flatten_cons,
        records_append_of_terminated terminated, inductionHypothesis]

/-- A piece completes the rest of what came before it. -/
theorem records_append (stream piece : List Symbol) :
    records delimiter (stream ++ piece) =
        records delimiter stream ++
          records delimiter (rest delimiter stream ++ piece) ∧
      rest delimiter (stream ++ piece) =
        rest delimiter (rest delimiter stream ++ piece) := by
  induction stream using recordInduction delimiter with
  | unfinished stream absent =>
      rw [records_of_notMem absent, rest_of_notMem absent]
      exact ⟨rfl, rfl⟩
  | record record stream terminated inductionHypothesis =>
      rw [List.append_assoc, records_append_of_terminated terminated,
        rest_append_of_terminated terminated,
        records_append_of_terminated terminated,
        rest_append_of_terminated terminated, inductionHypothesis.1,
        inductionHypothesis.2]
      exact ⟨rfl, rfl⟩

/-! ## One record under way -/

variable {delimiter}

/-- A text that ends with its only delimiter is a record. -/
theorem Terminated.of_count
    {record : List Symbol}
    (once : record.count delimiter = 1)
    (last : record.getLast? = some delimiter) :
    Terminated delimiter record := by
  obtain ⟨body, rfl⟩ := List.getLast?_eq_some_iff.mp last
  refine ⟨body, ?_, rfl⟩
  rw [List.count_append, List.count_singleton_self] at once
  exact List.count_eq_zero.mp (Nat.succ.inj once)

/--
A buffer with a delimiter, in front of the rest of one record, has the whole
record and nothing behind it.
-/
theorem Terminated.eq_of_firstLength
    {record buffer later : List Symbol}
    {size : Nat}
    (terminated : Terminated delimiter record)
    (whole : buffer ++ later = record)
    (found : firstLength delimiter buffer = some size) :
    later = [] ∧ buffer = record ∧ buffer.take size = record ∧
      buffer.drop size = [] := by
  rcases firstLength_cases delimiter buffer with
    ⟨none, -⟩ | ⟨first, isFirst, -, firstRecord⟩
  · rw [none] at found
    cases found
  · obtain rfl : first = size := Option.some.inj (isFirst.symm.trans found)
    have parts :
        buffer.take first ++ (buffer.drop first ++ later) = record := by
      rw [← List.append_assoc, List.take_append_drop, whole]
    have same : buffer.take first = record := by
      have ofParts :=
        records_append_of_terminated firstRecord (buffer.drop first ++ later)
      have ofRecord := records_append_of_terminated terminated []
      rw [List.append_nil] at ofRecord
      rw [parts, ofRecord] at ofParts
      exact (List.cons.inj ofParts).1.symm
    rw [same, List.append_right_eq_self, List.append_eq_nil_iff] at parts
    obtain ⟨nothingKept, nothingLater⟩ := parts
    refine ⟨nothingLater, ?_, same, nothingKept⟩
    rw [nothingLater, List.append_nil] at whole
    exact whole

/-- As long as one record is not complete, its rest is under way. -/
theorem Terminated.firstLength_append
    {record buffer later : List Symbol}
    (terminated : Terminated delimiter record)
    (whole : buffer ++ later = record) :
    ∃ size, firstLength delimiter (buffer ++ later) = some size := by
  obtain ⟨body, -, rfl⟩ := terminated
  rcases firstLength_cases delimiter (buffer ++ later) with
    ⟨-, absent⟩ | ⟨size, found, -⟩
  · rw [whole] at absent
    exact absurd (List.mem_append_right _ List.mem_cons_self) absent
  · exact ⟨size, found⟩

end LineFraming
