import Radar.Logger

namespace Radar.Logger

/-!
# Sessions and the ids of their files

When the configured directory is written with a separator at its end, every
session has its file in that directory, under a name from which the id is read
again, and no two sessions have the same id.  Without the separator the file
gets another name in another directory.
-/

open FileSystem (Closed Extends Opens lastName)

/-! ## Names -/

theorem not_mem_of_isDigit
    {digits : List Char}
    (areDigits : ∀ character ∈ digits, character.isDigit = true)
    {character : Char}
    (noDigit : character.isDigit = false) :
    character ∉ digits := by
  intro member
  rw [areDigits character member] at noDigit
  cases noDigit

theorem slash_not_mem_strftime (time : LocalTime) :
    '/' ∉ strftime time := by
  have month : '/' ∉ monthName time.month := by
    generalize time.month = month
    revert month
    decide
  have padded (number : Nat) : '/' ∉ (Digits.padded 2 number).chars :=
    not_mem_of_isDigit (Digits.padded 2 number).areDigits rfl
  have year : '/' ∉ (Digits.ofNat time.weekYear).chars :=
    not_mem_of_isDigit (Digits.ofNat time.weekYear).areDigits rfl
  simp [strftime, month, padded, year]

theorem slash_not_mem_timeStr
    {buff : List Char}
    (plain : '/' ∉ buff) :
    '/' ∉ timeStr buff := by
  intro member
  obtain ⟨character, isMember, isSlash⟩ := List.mem_map.mp member
  split at isSlash
  · cases isSlash
  · subst isSlash
    exact plain (List.takeWhile_subset _ isMember)

/-- The name of a log file is a single name. -/
theorem slash_not_mem_storedName (id : UInt32) (time : LocalTime) :
    '/' ∉ storedName id time := by
  have digits : '/' ∉ newIdStr id :=
    not_mem_of_isDigit (Digits.ofNat id.toNat).areDigits rfl
  have clock := slash_not_mem_timeStr (slash_not_mem_strftime time)
  simp [storedName, filename, digits, clock]

theorem space_not_mem_newIdStr (id : UInt32) : ' ' ∉ newIdStr id :=
  not_mem_of_isDigit (Digits.ofNat id.toNat).areDigits rfl

/-- A text without a space in front of a name is in front of its id. -/
theorem idStr_append
    {front : List Char}
    (noSpace : ' ' ∉ front)
    (name : FileName) :
    idStr (front ++ name) = front ++ idStr name := by
  unfold idStr
  rw [List.takeWhile_append_of_pos]
  intro character member
  simpa using ne_of_mem_of_not_mem member noSpace

/-- A text with a space in front of a name hides its id. -/
theorem idStr_append_of_mem
    {front : List Char}
    (space : ' ' ∈ front)
    (name : FileName) :
    idStr (front ++ name) = idStr front := by
  obtain ⟨before, behind, rfl⟩ := List.append_of_mem space
  induction before with
  | nil =>
      simp [idStr]
  | cons first rest inductionHypothesis =>
      by_cases isSpace : first = ' '
      · simp [idStr, isSpace]
      · have := inductionHypothesis (by simp)
        simpa [idStr, isSpace] using this

/-- The id is read again from the name of the log file. -/
theorem idStr_storedName (id : UInt32) (time : LocalTime) :
    idStr (storedName id time) = newIdStr id := by
  rw [storedName, filename, List.append_assoc, List.append_assoc,
    List.append_assoc, idStr_append (space_not_mem_newIdStr id)]
  simp [idStr]

/-! ## One call -/

/-- What a started session has found and left behind. -/
structure Starts
    (before : Logger)
    (session : Session)
    (after : Logger) : Prop where
  free :
    ∃ directory,
      before.files.directoryAt before.path = some directory ∧
        before.checkId directory session.id = false
  opened :
    ∃ time,
      Opens (before.path ++ storedName session.id time) before.files
        session.file after.files

/-- What every call keeps. -/
structure Keeps (before after : Logger) : Prop where
  path : after.path = before.path
  files : Extends before.files after.files

theorem generateId_free
    {taken : UInt32 → Bool}
    {left : Nat}
    {candidates : Nat → UInt32}
    {newId : UInt32}
    (drawn : generateId taken left candidates = some newId) :
    taken newId = false := by
  induction left generalizing candidates with
  | zero =>
      cases drawn
  | succ left inductionHypothesis =>
      rw [generateId] at drawn
      split at drawn
      · exact inductionHypothesis drawn
      · next free =>
          cases drawn
          simpa using free

/-- A chosen id is not taken, whether it was asked for or drawn. -/
theorem chooseId_free
    {directory : DirectoryId}
    {id newId : UInt32}
    {candidates : Nat → UInt32}
    {logger : Logger}
    (chosen : logger.chooseId directory id candidates = .ok newId) :
    logger.checkId directory newId = false := by
  unfold chooseId at chosen
  split at chosen
  · split at chosen
    · next drawn =>
        cases chosen
        exact generateId_free drawn
    · cases chosen
  · split at chosen
    · cases chosen
    · next free =>
        cases chosen
        simpa using free

/-- What opening a session does to the files, whether it succeeds or not. -/
theorem keeps_openSession
    (time : LocalTime)
    (openFails : Bool)
    (logger : Logger) :
    Keeps logger (openSession time openFails logger).2 := by
  unfold openSession
  dsimp only
  split
  · exact ⟨rfl, .refl _⟩
  · next file files opened =>
      have extended : Extends logger.files files := by
        split at opened
        · cases opened
        · exact (FileSystem.opens_of_openFile opened).extended
      split
      · exact ⟨rfl, extended⟩
      · split <;> exact ⟨rfl, extended⟩

theorem opens_of_openSession
    {time : LocalTime}
    {openFails : Bool}
    {logger : Logger}
    {session : Session}
    (opened : (openSession time openFails logger).1 = .ok session) :
    session.id = logger.id ∧
      Opens (logger.path ++ storedName logger.id time) logger.files
        session.file (openSession time openFails logger).2.files := by
  unfold openSession at opened ⊢
  dsimp only at opened ⊢
  split at opened
  · cases opened
  · next file files isOpened =>
      split at isOpened
      · cases isOpened
      · split at opened
        · cases opened
        · next unknown =>
            split at opened
            · cases opened
            · next fits =>
                cases opened
                rw [if_neg unknown, if_neg fits]
                exact ⟨rfl, FileSystem.opens_of_openFile isOpened⟩

/-- A session that is started has a free id and a file of its own. -/
theorem starts_of_startSession
    {id : UInt32}
    {answers : StartAnswers}
    {logger : Logger}
    {session : Session}
    (started : (startSession id answers logger).1 = .ok session) :
    Starts logger session (startSession id answers logger).2 := by
  unfold startSession at started ⊢
  split at started
  · cases started
  · next loaded =>
      rw [if_neg loaded]
      split at started
      · cases started
      · next directory found =>
          split at started
          · cases started
          · next newId chosen =>
              obtain ⟨sameId, opens⟩ := opens_of_openSession started
              refine ⟨⟨directory, ?_, ?_⟩, ⟨answers.time, ?_⟩⟩
              · split at found
                · cases found
                · exact found
              · rw [sameId]
                exact chooseId_free chosen
              · rw [sameId]
                exact opens

theorem keeps_startSession
    (id : UInt32)
    (answers : StartAnswers)
    (logger : Logger) :
    Keeps logger (startSession id answers logger).2 := by
  unfold startSession
  split
  · exact ⟨rfl, .refl _⟩
  · split
    · exact ⟨rfl, .refl _⟩
    · split
      · exact ⟨rfl, .refl _⟩
      · next newId _ =>
          have kept :=
            keeps_openSession answers.time answers.openFails
              { logger with id := newId }
          exact ⟨kept.path, kept.files⟩

theorem keeps_apply (label : Label) (logger : Logger) :
    Keeps logger (apply label logger).2 := by
  cases label with
  | start id answers =>
      exact keeps_startSession id answers logger
  | close =>
      exact ⟨rfl, .refl _⟩

theorem starts_of_apply
    {label : Label}
    {logger : Logger}
    {session : Session}
    (started : (apply label logger).1 = some session) :
    Starts logger session (apply label logger).2 := by
  cases label with
  | start id answers =>
      apply starts_of_startSession
      rw [apply] at started
      cases result : (startSession id answers logger).1 with
      | error _ =>
          rw [result] at started
          cases started
      | ok opened =>
          rw [result] at started
          cases started
          rfl
  | close =>
      cases started

/-! ## Where the file of a session is -/

/-- The file is in the configured directory and its name says the id. -/
structure Placed (logger : Logger) (session : Session) : Prop where
  directory :
    logger.files.directoryAt logger.path = some session.file.directory
  name : idStr session.file.name = newIdStr session.id

/-- Does a later search find the id? -/
def Taken (logger : Logger) (id : UInt32) : Prop :=
  ∃ directory,
    logger.files.directoryAt logger.path = some directory ∧
      logger.checkId directory id = true

theorem Keeps.placed_iff
    {before after : Logger}
    (kept : Keeps before after)
    (session : Session) :
    Placed after session ↔ Placed before session := by
  constructor
  · rintro ⟨directory, name⟩
    rw [kept.path, kept.files.directoryAt] at directory
    exact ⟨directory, name⟩
  · rintro ⟨directory, name⟩
    rw [← kept.files.directoryAt, ← kept.path] at directory
    exact ⟨directory, name⟩

/-- Nothing frees an id. -/
theorem Keeps.taken
    {before after : Logger}
    (kept : Keeps before after)
    {id : UInt32}
    (taken : Taken before id) :
    Taken after id := by
  obtain ⟨directory, found, isTaken⟩ := taken
  refine ⟨directory, ?_, ?_⟩
  · rw [kept.path, kept.files.directoryAt, found]
  · obtain ⟨name, member, same⟩ := List.any_eq_true.mp isTaken
    exact List.any_eq_true.mpr ⟨name, kept.files.list directory member, same⟩

/-- The free id of a session is not taken before. -/
theorem Starts.not_taken
    {before after : Logger}
    {session : Session}
    (starts : Starts before session after) :
    ¬ Taken before session.id := by
  rintro ⟨directory, found, taken⟩
  obtain ⟨other, sameFound, free⟩ := starts.free
  rw [found] at sameFound
  cases sameFound
  rw [taken] at free
  cases free

/-- A file in the right place takes the id of its session. -/
theorem Starts.taken
    {before after : Logger}
    {session : Session}
    (starts : Starts before session after)
    (kept : Keeps before after)
    (placed : Placed before session) :
    Taken after session.id := by
  obtain ⟨time, opens⟩ := starts.opened
  refine ⟨session.file.directory, ?_, ?_⟩
  · rw [kept.path, kept.files.directoryAt, placed.directory]
  · exact List.any_eq_true.mpr
      ⟨session.file.name, opens.listed, by simp [placed.name]⟩

/--
The file is where a search looks for it exactly if the directory is written
with a separator at its end.  There is one exception: a directory that is its
own parent under a name that starts with the id and a space.
-/
theorem Starts.placed_iff
    {before after : Logger}
    {session : Session}
    (starts : Starts before session after) :
    Placed before session ↔
      Closed before.path ∨
        ' ' ∈ lastName before.path ∧
          idStr (lastName before.path) = newIdStr session.id ∧
          before.files.directoryAt before.path =
            before.files.parent before.path := by
  obtain ⟨time, opens⟩ := starts.opened
  obtain ⟨directory, found, _⟩ := starts.free
  have notEmpty : before.path ≠ [] := by
    intro empty
    rw [empty] at found
    cases found
  have plain := slash_not_mem_storedName session.id time
  have isParent := opens.parent
  rw [FileSystem.parent_append _ notEmpty plain] at isParent
  have isName := opens.name
  rw [FileSystem.lastName_append _ plain] at isName
  have directory_iff :
      before.files.directoryAt before.path = some session.file.directory ↔
        before.files.directoryAt before.path =
          before.files.parent before.path := by
    rw [isParent]
  by_cases closed : Closed before.path
  · refine iff_of_true ⟨?_, ?_⟩ (.inl closed)
    · rw [directory_iff, FileSystem.directoryAt_of_closed _ closed]
    · rw [isName, (FileSystem.lastName_eq_nil_iff _).mpr (.inr closed)]
      exact idStr_storedName session.id time
  · rw [or_iff_right closed]
    have named : lastName before.path ≠ [] := by
      rw [Ne, FileSystem.lastName_eq_nil_iff, not_or]
      exact ⟨notEmpty, closed⟩
    by_cases space : ' ' ∈ lastName before.path
    · have sameId :
          idStr session.file.name = idStr (lastName before.path) := by
        rw [isName, idStr_append_of_mem space]
      constructor
      · rintro ⟨inDirectory, name⟩
        exact ⟨space, sameId.symm.trans name, directory_iff.mp inDirectory⟩
      · rintro ⟨_, name, inDirectory⟩
        exact ⟨directory_iff.mpr inDirectory, sameId.trans name⟩
    · refine iff_of_false ?_ fun other => space other.1
      rintro ⟨_, name⟩
      rw [isName, idStr_append space, idStr_storedName] at name
      exact named (List.append_left_eq_self.mp name)

/-! ## Calls one after the other -/

/-- Every session can be traced by its id. -/
structure Traced (labels : List Label) (logger : Logger) : Prop where
  /-- Every file is in the directory under a name that says the id. -/
  placed : ∀ session ∈ sessions labels logger, Placed logger session
  /-- No two sessions have the same id. -/
  unique :
    (sessions labels logger).Pairwise
      fun earlier later => earlier.id ≠ later.id
  /-- A later search finds the id of every session. -/
  taken :
    ∀ session ∈ sessions labels logger, Taken (after labels logger) session.id

/-- The calls that are left start no session with an id that is taken. -/
theorem not_taken_of_mem_sessions
    {labels : List Label}
    {logger : Logger}
    {session : Session}
    (member : session ∈ sessions labels logger) :
    ¬ Taken logger session.id := by
  induction labels generalizing logger with
  | nil =>
      cases member
  | cons label rest inductionHypothesis =>
      rcases List.mem_append.mp member with now | later
      · exact (starts_of_apply (Option.mem_toList.mp now)).not_taken
      · exact fun taken =>
          inductionHypothesis later ((keeps_apply label logger).taken taken)

theorem keeps_after (labels : List Label) (logger : Logger) :
    Keeps logger (after labels logger) := by
  induction labels generalizing logger with
  | nil =>
      exact ⟨rfl, .refl _⟩
  | cons label rest inductionHypothesis =>
      have first := keeps_apply label logger
      have later := inductionHypothesis (apply label logger).2
      exact ⟨later.path.trans first.path, first.files.trans later.files⟩

/--
With a separator at the end of the directory every session can be traced,
whatever calls are made.
-/
theorem traced_of_closed
    {logger : Logger}
    (closed : Closed logger.path)
    (labels : List Label) :
    Traced labels logger := by
  induction labels generalizing logger with
  | nil =>
      exact ⟨by simp [sessions], .nil, by simp [sessions]⟩
  | cons label rest inductionHypothesis =>
      have kept := keeps_apply label logger
      have stillClosed : Closed (apply label logger).2.path := by
        rw [kept.path]
        exact closed
      have later := inductionHypothesis stillClosed
      have placedNow :
          ∀ session ∈ (apply label logger).1, Placed logger session :=
        fun session started =>
          (starts_of_apply started).placed_iff.mpr (.inl closed)
      have takenNow :
          ∀ session ∈ (apply label logger).1,
            Taken (apply label logger).2 session.id :=
        fun session started =>
          (starts_of_apply started).taken kept (placedNow session started)
      refine ⟨?_, ?_, ?_⟩
      · intro session member
        rcases List.mem_append.mp member with now | inRest
        · exact placedNow session (Option.mem_toList.mp now)
        · exact (kept.placed_iff session).mp (later.placed session inRest)
      · refine List.pairwise_append.mpr ⟨?_, later.unique, ?_⟩
        · cases (apply label logger).1 <;> simp
        · intro session now other inRest sameId
          have free := not_taken_of_mem_sessions inRest
          rw [← sameId] at free
          exact free (takenNow session (Option.mem_toList.mp now))
      · intro session member
        rcases List.mem_append.mp member with now | inRest
        · exact (keeps_after rest _).taken
            (takenNow session (Option.mem_toList.mp now))
        · exact later.taken session inRest

/-- The directory of the logs that a configuration names. -/
def logDir? (conf : ConfigManager) : Option (List Char) :=
  match conf.getSection "logger" with
  | .error _ => none
  | .ok settings =>
      (ConfigManager.getValue Client.string? settings "log_dir").toOption

theorem path_ensureDirectory
    {faults : LoadFaults}
    {before after : Logger}
    (ensured : before.ensureDirectory faults = some after) :
    after.path = before.path := by
  unfold ensureDirectory at ensured
  split at ensured
  · cases ensured
  · split at ensured
    · cases ensured
      rfl
    · split at ensured
      · cases ensured
      · obtain ⟨_, _, rfl⟩ := Option.map_eq_some_iff.mp ensured
        rfl

theorem path_loadLimits (settings : Json) (logger : Logger) :
    (loadLimits settings logger).2.path = logger.path := by
  unfold loadLimits
  split
  · rfl
  · split
    · rfl
    · dsimp only
      split <;> rfl

/-- A configuration that is accepted sets the directory that it names. -/
theorem path_of_loadConfig
    {conf : ConfigManager}
    {faults : LoadFaults}
    {before : Logger}
    (accepted : (loadConfig conf faults before).1 = .ok ()) :
    logDir? conf = some (loadConfig conf faults before).2.path := by
  rw [logDir?]
  cases inSection : conf.getSection "logger" with
  | error what =>
      simp only [loadConfig, inSection] at accepted
      cases accepted
  | ok settings =>
      dsimp only
      cases named :
          ConfigManager.getValue Client.string? settings "log_dir" with
      | error what =>
          simp only [loadConfig, inSection, named] at accepted
          cases accepted
      | ok logDir =>
          cases ensured :
              ensureDirectory faults { before with path := logDir } with
          | none =>
              simp only [loadConfig, inSection, named, ensured] at accepted
              cases accepted
          | some logger =>
              simp only [loadConfig, inSection, named, ensured]
              rw [path_loadLimits, path_ensureDirectory ensured]
              rfl

/--
Whatever directory of the logs is accepted: if it is written with a separator
at its end, then every session can be traced, whatever calls are made.
-/
theorem loadConfig_traced
    {conf : ConfigManager}
    {faults : LoadFaults}
    {before : Logger}
    (accepted : (loadConfig conf faults before).1 = .ok ())
    {logDir : List Char}
    (named : logDir? conf = some logDir)
    (closed : Closed logDir)
    (labels : List Label) :
    Traced labels (loadConfig conf faults before).2 := by
  rw [path_of_loadConfig accepted] at named
  cases named
  exact traced_of_closed closed labels

/-- Settings of the logger with a directory for the logs. -/
def settingsWith (logDir : String) : ConfigManager where
  jsonConfig :=
    .object
      [("logger",
        .object
          [("buffer_size", .integer 1048576),
            ("log_dir", .string logDir),
            ("num_files", .integer 10),
            ("message_format", .string "[%l - %d.%m.%Y %H:%M:%S.%F] %v")])]
  configLoaded := true

/-- A logger in an empty file system. -/
def new : Logger where
  path := []
  numFiles := 0
  id := 0
  configLoaded := false
  sessionOpened := false
  queueSize := 0
  registered := false
  files := ⟨[], fun _ => []⟩

/-- A moment. -/
def moment : LocalTime where
  month := 4
  day := 5
  hour := 12
  minute := 30
  second := 0
  weekYear := 2016

/-- A session is started twice with one id. -/
def startTwice : List Label :=
  [.start 1001 { time := moment }, .close,
    .start 1001 { time := { moment with minute := 31 } }]

theorem loadConfig_traced_log :
    Traced startTwice (loadConfig (settingsWith "log/") {} new).2 :=
  @loadConfig_traced (settingsWith "log/") {} new (by decide +kernel)
    "log/".toList (by decide +kernel) (by decide +kernel) startTwice

/-- Without a separator both sessions get the id. -/
theorem loadConfig_not_traced :
    (loadConfig (settingsWith "log") {} new).1 = .ok () ∧
      (sessions startTwice (loadConfig (settingsWith "log") {} new).2).map
        Session.id = [1001, 1001] ∧
      ¬ Traced startTwice (loadConfig (settingsWith "log") {} new).2 := by
  have ids :
      (sessions startTwice (loadConfig (settingsWith "log") {} new).2).map
        Session.id = [1001, 1001] := by
    decide +kernel
  refine ⟨by decide +kernel, ids, fun traced => ?_⟩
  have distinct :
      ((sessions startTwice (loadConfig (settingsWith "log") {} new).2).map
        Session.id).Pairwise fun earlier later => earlier ≠ later :=
    List.pairwise_map.mpr traced.unique
  rw [ids] at distinct
  simp at distinct

end Radar.Logger
