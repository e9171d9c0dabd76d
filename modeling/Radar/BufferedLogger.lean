import Mathlib.Data.List.Basic

namespace Radar

/-!
# The buffered logger

`Utils::Logger` collects entries in one buffer and writes them to a file from
another one.  The buffers change places when the first one is full, at a reset
and at the end.  The futures of the writes are waited for, so that a write ends
before the next entry is logged, and every file opens under a name of its own.
-/

namespace Utils

/-- `buffer_size` -/
def bufferSize : Nat := 50

/-- The contents of the buffers of a new logger. -/
def initValue : String := "Init buffer value, for memory preallocation"

/--
The state of a logger, the entries of the file that is open and those of the
files that are closed.  The place of the next entry is always in the buffer.
-/
structure Logger where
  currentBuffer : Vector String bufferSize
  secondBuffer : Vector String bufferSize
  bufferPtr : Fin bufferSize
  outFile : Option (List String)
  closedFiles : List (List String)

/-- The calls of a logger between its construction and its destruction. -/
inductive Logger.Call where
  | log (entry : String)
  | reset
  deriving DecidableEq

namespace Logger

/-! ## Functions -/

/-- A new logger. -/
def new : Logger where
  currentBuffer := Vector.replicate bufferSize initValue
  secondBuffer := Vector.replicate bufferSize initValue
  bufferPtr := ⟨0, by decide⟩
  outFile := some []
  closedFiles := []

/-- `std::swap` of the buffers -/
def swap (logger : Logger) : Logger :=
  { logger with
    currentBuffer := logger.secondBuffer
    secondBuffer := logger.currentBuffer }

/-- `flush` writes a range of the second buffer if a file is open. -/
def flush (logger : Logger) (start stop : Nat) : Logger :=
  { logger with
    outFile :=
      logger.outFile.map fun entries =>
        entries ++ (logger.secondBuffer.toList.take stop).drop start }

/-- `log` -/
def log (logger : Logger) (entry : String) : Logger :=
  let logger :=
    { logger with
      currentBuffer := logger.currentBuffer.set logger.bufferPtr entry }
  if more : logger.bufferPtr + 1 < bufferSize then
    { logger with bufferPtr := ⟨logger.bufferPtr + 1, more⟩ }
  else
    { logger.swap with bufferPtr := ⟨0, by decide⟩ }.flush 0 bufferSize

/-- The file that is open is closed. -/
def closeFile (logger : Logger) : Logger :=
  { logger with
    outFile := none
    closedFiles := logger.closedFiles ++ logger.outFile.toList }

/-- `reset` -/
def reset (logger : Logger) : Logger :=
  let logger :=
    if logger.outFile.isSome then
      (logger.swap.flush 0 logger.bufferPtr).closeFile
    else
      logger
  { logger with outFile := some [], bufferPtr := ⟨0, by decide⟩ }

/-- The destructor, and the files that the logger has written. -/
def destroy (logger : Logger) : List (List String) :=
  (logger.swap.flush 0 logger.bufferPtr).closeFile.closedFiles

/-- One call. -/
def call (logger : Logger) : Call → Logger
  | .log entry => logger.log entry
  | .reset => logger.reset

/-- The files of a logger after a sequence of calls and its destruction. -/
def files (calls : List Call) : List (List String) :=
  (calls.foldl call new).destroy

/-! ## What is logged -/

/-- The entry that a call logs. -/
def Call.entry? : Call → Option String
  | .log entry => some entry
  | .reset => none

/-- The entries that are logged. -/
def logged (calls : List Call) : List String :=
  calls.filterMap Call.entry?

/-- Sessions with more entries in front of the first one. -/
def extend (entries : List String) : List (List String) → List (List String)
  | [] => [entries]
  | session :: later => (entries ++ session) :: later

/-- The entries that are logged between the resets. -/
def sessions : List Call → List (List String)
  | [] => [[]]
  | .log entry :: calls => extend [entry] (sessions calls)
  | .reset :: calls => [] :: sessions calls

theorem extend_append
    (first second : List String)
    (sessions : List (List String)) :
    extend (first ++ second) sessions =
      extend first (extend second sessions) := by
  cases sessions <;> simp [extend]

@[simp] theorem extend_nil_sessions (calls : List Call) :
    extend [] (sessions calls) = sessions calls := by
  cases calls with
  | nil => rfl
  | cons next calls =>
      cases next with
      | log entry => rw [sessions, ← extend_append, List.nil_append]
      | reset => rfl

theorem flatten_extend
    (entries : List String)
    (sessions : List (List String)) :
    (extend entries sessions).flatten = entries ++ sessions.flatten := by
  cases sessions <;> simp [extend]

theorem extend_append_of_ne_nil
    (entries : List String)
    {sessions : List (List String)}
    (notEmpty : sessions ≠ [])
    (later : List (List String)) :
    extend entries (sessions ++ later) = extend entries sessions ++ later := by
  cases sessions with
  | nil => exact absurd rfl notEmpty
  | cons session sessions => rfl

/-! ## What is written -/

/-- The entries that are in the file or wait in the buffer. -/
def pending (logger : Logger) (entries : List String) : List String :=
  entries ++ logger.currentBuffer.toList.take logger.bufferPtr

/-- An entry waits behind the others, or is written behind them. -/
theorem log_spec
    {logger : Logger}
    {entries : List String}
    (isOpen : logger.outFile = some entries)
    (entry : String) :
    ∃ entries',
      (logger.log entry).outFile = some entries' ∧
        (logger.log entry).closedFiles = logger.closedFiles ∧
        (logger.log entry).pending entries' =
          logger.pending entries ++ [entry] := by
  have filled :
      (logger.currentBuffer.set logger.bufferPtr entry).toList.take
          (logger.bufferPtr + 1) =
        logger.currentBuffer.toList.take logger.bufferPtr ++ [entry] := by
    have inside :
        logger.bufferPtr.val < logger.currentBuffer.toList.length := by
      rw [Vector.length_toList]
      exact logger.bufferPtr.isLt
    rw [Vector.toList_set,
      List.take_succ_eq_append_getElem (by rwa [List.length_set]),
      List.take_set_of_le (Nat.le_refl _), List.getElem_set_self]
  unfold log
  dsimp only
  split_ifs with more
  · refine ⟨entries, isOpen, rfl, ?_⟩
    rw [pending, pending, filled, List.append_assoc]
  · have full : logger.bufferPtr + 1 = bufferSize := by omega
    refine ⟨_, by rw [flush, swap, isOpen]; rfl, rfl, ?_⟩
    rw [full, List.take_of_length_le (Nat.le_of_eq Vector.length_toList)]
      at filled
    simp only [pending, swap, flush, List.take_zero, List.append_nil,
      List.drop_zero, List.append_assoc, ← filled]
    rw [List.take_of_length_le (Nat.le_of_eq Vector.length_toList)]

/-- A reset writes what waits and closes the file. -/
theorem reset_spec
    {logger : Logger}
    {entries : List String}
    (isOpen : logger.outFile = some entries) :
    logger.reset.outFile = some [] ∧
      logger.reset.closedFiles =
        logger.closedFiles ++ [logger.pending entries] ∧
      logger.reset.pending [] = [] := by
  refine ⟨rfl, ?_, rfl⟩
  simp [reset, isOpen, closeFile, flush, swap, pending]

/-- The destructor writes what waits. -/
theorem destroy_spec
    {logger : Logger}
    {entries : List String}
    (isOpen : logger.outFile = some entries) :
    logger.destroy = logger.closedFiles ++ [logger.pending entries] := by
  simp [destroy, isOpen, closeFile, flush, swap, pending]

/--
From any state the entries that wait come in front of what is logged before
the first reset.
-/
theorem destroy_foldl
    (calls : List Call)
    (logger : Logger)
    {entries : List String}
    (isOpen : logger.outFile = some entries) :
    (calls.foldl call logger).destroy =
      logger.closedFiles ++
        extend (logger.pending entries) (sessions calls) := by
  induction calls generalizing logger entries with
  | nil =>
      rw [List.foldl_nil, destroy_spec isOpen]
      simp [sessions, extend]
  | cons next calls inductionHypothesis =>
      rw [List.foldl_cons]
      cases next with
      | log entry =>
          obtain ⟨entries', isOpen', closed, waiting⟩ :=
            log_spec isOpen entry
          rw [call, inductionHypothesis _ isOpen', closed, waiting,
            extend_append, sessions]
      | reset =>
          obtain ⟨isOpen', closed, waiting⟩ := reset_spec isOpen
          rw [call, inductionHypothesis _ isOpen', closed, waiting,
            extend_nil_sessions]
          simp [sessions, extend]

/-- Every file holds what is logged between two resets. -/
theorem files_eq_sessions (calls : List Call) :
    files calls = sessions calls := by
  rw [files, destroy_foldl calls new rfl]
  exact extend_nil_sessions calls

/-! ## Sessions -/

theorem sessions_ne_nil (calls : List Call) : sessions calls ≠ [] := by
  cases calls with
  | nil => exact List.cons_ne_nil _ _
  | cons next calls =>
      cases next with
      | log entry =>
          rw [sessions]
          cases sessions calls <;> exact List.cons_ne_nil _ _
      | reset => exact List.cons_ne_nil _ _

theorem flatten_sessions (calls : List Call) :
    (sessions calls).flatten = logged calls := by
  induction calls with
  | nil => rfl
  | cons next calls inductionHypothesis =>
      cases next with
      | log entry =>
          rw [sessions, flatten_extend, inductionHypothesis]
          rfl
      | reset =>
          rw [sessions, List.flatten_cons, inductionHypothesis]
          rfl

/-- A reset ends a session. -/
theorem sessions_append_reset (before after : List Call) :
    sessions (before ++ .reset :: after) =
      sessions before ++ sessions after := by
  induction before with
  | nil => rfl
  | cons next before inductionHypothesis =>
      rw [List.cons_append]
      cases next with
      | log entry =>
          rw [sessions, sessions, inductionHypothesis,
            extend_append_of_ne_nil _ (sessions_ne_nil before)]
      | reset => rw [sessions, sessions, inductionHypothesis, List.cons_append]

/-- One session for each reset and one for the end. -/
theorem length_sessions (calls : List Call) :
    (sessions calls).length = calls.count .reset + 1 := by
  induction calls with
  | nil => rfl
  | cons next calls inductionHypothesis =>
      cases next with
      | log entry =>
          rw [List.count_cons_of_ne (by simp), ← inductionHypothesis, sessions]
          have notEmpty := sessions_ne_nil calls
          cases same : sessions calls with
          | nil => exact absurd same notEmpty
          | cons session later => rfl
      | reset =>
          rw [sessions, List.length_cons, inductionHypothesis,
            List.count_cons_self]

/-- The last session ends with the last entry. -/
theorem getLast_sessions_append_log (before : List Call) (entry : String) :
    ∃ session,
      (sessions (before ++ [.log entry])).getLast? = some session ∧
        session.getLast? = some entry := by
  induction before with
  | nil => exact ⟨[entry], rfl, rfl⟩
  | cons next before inductionHypothesis =>
      obtain ⟨session, last, ends⟩ := inductionHypothesis
      obtain ⟨earlier, same⟩ := List.getLast?_eq_some_iff.mp last
      rw [List.cons_append]
      cases next with
      | log first =>
          rw [sessions, same]
          cases earlier with
          | nil =>
              exact ⟨first :: session, rfl, by simp [List.getLast?_cons, ends]⟩
          | cons head earlier =>
              exact
                ⟨session,
                  List.getLast?_eq_some_iff.mpr
                    ⟨([first] ++ head) :: earlier, rfl⟩,
                  ends⟩
      | reset =>
          rw [sessions, same]
          exact
            ⟨session, List.getLast?_eq_some_iff.mpr ⟨[] :: earlier, rfl⟩, ends⟩

/--
The files hold the logged entries, each one once and in order; those that are
closed at a reset hold what was logged before it, the last one of them up to
the last entry; and the value of a new buffer is written only if it is logged.
-/
theorem files_hold_logged (calls : List Call) :
    (files calls).flatten = logged calls ∧
      (∀ before after, calls = before ++ .reset :: after →
        ∃ closed later,
          files calls = closed ++ later ∧
            closed.length = before.count .reset + 1 ∧
            closed.flatten = logged before ∧
            ∀ entry, before.getLast? = some (.log entry) →
              ∃ file,
                closed.getLast? = some file ∧ file.getLast? = some entry) ∧
      (initValue ∉ logged calls →
        ∀ file ∈ files calls, initValue ∉ file) := by
  rw [files_eq_sessions]
  refine ⟨flatten_sessions calls, ?_, fun notLogged file member inFile => ?_⟩
  · rintro before after rfl
    refine
      ⟨sessions before, sessions after, sessions_append_reset before after,
        length_sessions before, flatten_sessions before, ?_⟩
    intro entry last
    obtain ⟨earlier, rfl⟩ := List.getLast?_eq_some_iff.mp last
    exact getLast_sessions_append_log earlier entry
  · rw [← flatten_sessions] at notLogged
    exact notLogged (List.mem_flatten_of_mem member inFile)

end Logger

end Utils

end Radar
