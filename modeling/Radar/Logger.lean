import Radar.DecimalText
import Radar.FileSystem
import Radar.TargetServer
import Radar.TargetsMessage

namespace Radar

/-!
# The logger and its sessions

The functions of the `Logger` class that open and close sessions.  A session
writes to a file whose name starts with the id of the session; an id is taken
if a file with such a name is in the directory of the logs.  What the random
generator, the clock and the file system answer are inputs of the functions.
-/

/-- The exceptions of the logger; those of the file system are not caught. -/
inductive LoggerError where
  | config (what : List Char)
  | system (what : List Char)
  | filesystem
  deriving Repr, DecidableEq

/-- The state of the logger, and the files that it finds. -/
structure Logger where
  path : List Char
  numFiles : UInt32
  id : UInt32
  configLoaded : Bool
  sessionOpened : Bool
  /-- The queue size of asynchronous loggers in the library. -/
  queueSize : UInt32
  /-- Does the library know a logger with the name `file_logger`? -/
  registered : Bool
  files : FileSystem

/-- A session: its id and its file. -/
structure Session where
  id : UInt32
  file : OpenedFile
  deriving Repr, DecidableEq

namespace Logger

/-! ## Names of files -/

/-- A local time as the C library breaks it down. -/
structure LocalTime where
  month : Fin 12
  day : Nat
  hour : Nat
  minute : Nat
  second : Nat
  /-- The year of the week, as ISO 8601 counts it. -/
  weekYear : Nat

/-- The short names of the months. -/
def monthName : Fin 12 → List Char
  | 0 => "Jan".toList
  | 1 => "Feb".toList
  | 2 => "Mar".toList
  | 3 => "Apr".toList
  | 4 => "May".toList
  | 5 => "Jun".toList
  | 6 => "Jul".toList
  | 7 => "Aug".toList
  | 8 => "Sep".toList
  | 9 => "Oct".toList
  | 10 => "Nov".toList
  | 11 => "Dec".toList

/-- `strftime` with the format `%b %d %H-%M-%S %G`. -/
def strftime (time : LocalTime) : List Char :=
  monthName time.month ++ ' ' :: (Digits.padded 2 time.day).chars ++
    ' ' :: (Digits.padded 2 time.hour).chars ++
    '-' :: (Digits.padded 2 time.minute).chars ++
    '-' :: (Digits.padded 2 time.second).chars ++
    ' ' :: (Digits.ofNat time.weekYear).chars

/-- The first line of a text with every colon replaced. -/
def timeStr (buff : List Char) : List Char :=
  (buff.takeWhile fun character => character ≠ '\n').map fun character =>
    if character = ':' then '-' else character

/-- `std::to_string` of an id. -/
def newIdStr (id : UInt32) : List Char :=
  (Digits.ofNat id.toNat).chars

/-- The name of the log file of a session. -/
def filename (id : UInt32) (time : LocalTime) : List Char :=
  newIdStr id ++ " - ".toList ++ timeStr (strftime time) ++ ".log".toList

/-- The name with the suffix that the library adds. -/
def storedName (id : UInt32) (time : LocalTime) : List Char :=
  filename id time ++ ".txt".toList

/-- The part of a name before the first space. -/
def idStr (name : FileName) : List Char :=
  name.takeWhile fun character => character ≠ ' '

/-! ## The functions -/

/-- What the file system answers to `load_config`. -/
structure LoadFaults where
  existsFails : Bool := false
  createFails : Bool := false

/-- Make sure that the directory of the logs is there. -/
def ensureDirectory (faults : LoadFaults) (logger : Logger) : Option Logger :=
  if faults.existsFails then
    none
  else if (logger.files.status logger.path).isSome then
    some logger
  else if faults.createFails then
    none
  else
    (logger.files.createDirectory logger.path).map fun files =>
      { logger with files := files }

/-- Read the settings behind the directory. -/
def loadLimits (settings : Json) (logger : Logger) :
    Except LoggerError Unit × Logger :=
  match ConfigManager.getValue Json.uint32? settings "buffer_size" with
  | .error what => (.error (.config what.toList), logger)
  | .ok bufferSize =>
      match ConfigManager.getValue Json.uint32? settings "num_files" with
      | .error what => (.error (.config what.toList), logger)
      | .ok numFiles =>
          let logger := { logger with numFiles := numFiles }
          match ConfigManager.getValue Client.string? settings
              "message_format" with
          | .error what => (.error (.config what.toList), logger)
          | .ok _ =>
              (.ok (),
                { logger with queueSize := bufferSize, configLoaded := true })

/-- Load a configuration. -/
def loadConfig
    (conf : ConfigManager)
    (faults : LoadFaults)
    (logger : Logger) :
    Except LoggerError Unit × Logger :=
  match conf.getSection "logger" with
  | .error what => (.error (.config what.toList), logger)
  | .ok settings =>
      match ConfigManager.getValue Client.string? settings "log_dir" with
      | .error what => (.error (.config what.toList), logger)
      | .ok logDir =>
          let logger := { logger with path := logDir }
          match logger.ensureDirectory faults with
          | none => (.error .filesystem, logger)
          | some logger => loadLimits settings logger

/-- What the environment answers to `start_session`. -/
structure StartAnswers where
  /-- What the random generator answers one call after the other. -/
  candidates : Nat → UInt32 := fun _ => 0
  time : LocalTime
  listFails : Bool := false
  openFails : Bool := false

/-- Is there a file of a session with the id? -/
def checkId
    (directory : DirectoryId)
    (newId : UInt32)
    (logger : Logger) : Bool :=
  (logger.files.list directory).any fun name => newIdStr newId = idStr name

/-- Draw ids until one is free, a limited number of times. -/
def generateId (taken : UInt32 → Bool) : Nat → (Nat → UInt32) → Option UInt32
  | 0, _ => none
  | left + 1, candidates =>
      if taken (candidates 0) then
        generateId taken left fun drawn => candidates (drawn + 1)
      else
        some (candidates 0)

/-- Choose the id of a session: a random one if none is asked for. -/
def chooseId
    (directory : DirectoryId)
    (id : UInt32)
    (candidates : Nat → UInt32)
    (logger : Logger) : Except LoggerError UInt32 :=
  if id = 0 then
    match generateId (fun newId => logger.checkId directory newId) 1000
        candidates with
    | some newId => .ok newId
    | none =>
        .error (.system "Logger: Id generator guard overflow.".toList)
  else if logger.checkId directory id then
    .error
      (.config
        "Logger: Wrong id, log file with such id already exists.".toList)
  else
    .ok id

/-- May the queue of an asynchronous logger have this size? -/
def queueFits (size : UInt32) : Bool :=
  2 ≤ size ∧ size &&& (size - 1) = 0

/--
Open the log file of the current id.  The library opens the file before it
asks whether it knows a logger with the name.
-/
def openSession
    (time : LocalTime)
    (openFails : Bool)
    (logger : Logger) :
    Except LoggerError Session × Logger :=
  let path := logger.path ++ storedName logger.id time
  match if openFails then none else logger.files.openFile path with
  | none =>
      (.error
        (.system
          ("Logger : Failed opening file ".toList ++ path ++
            " for writing".toList)),
        logger)
  | some (file, files) =>
      let logger := { logger with files := files }
      if logger.registered then
        (.error
          (.system
            ("Logger : logger with name 'file_logger' " ++
              "already exists").toList),
          logger)
      else if queueFits logger.queueSize = false then
        (.error
          (.system
            "Logger : async logger queue size must be power of two".toList),
          logger)
      else
        (.ok ⟨logger.id, file⟩,
          { logger with registered := true, sessionOpened := true })

/-- Start a session. -/
def startSession
    (id : UInt32)
    (answers : StartAnswers)
    (logger : Logger) :
    Except LoggerError Session × Logger :=
  if logger.configLoaded = false then
    (.error (.config "Logger: Config not loaded.".toList), logger)
  else
    match if answers.listFails then none
        else logger.files.directoryAt logger.path with
    | none => (.error .filesystem, logger)
    | some directory =>
        match logger.chooseId directory id answers.candidates with
        | .error error => (.error error, logger)
        | .ok newId =>
            openSession answers.time answers.openFails
              { logger with id := newId }

/-- Close the session. -/
def closeSession (logger : Logger) : Logger :=
  { logger with registered := false, sessionOpened := false }

/-! ## Calls one after the other -/

/-- A call of the logger. -/
inductive Label where
  | start (id : UInt32) (answers : StartAnswers)
  | close

/-- The session that a call has started, and the logger after it. -/
def apply : Label → Logger → Option Session × Logger
  | .start id answers, logger =>
      ((startSession id answers logger).1.toOption,
        (startSession id answers logger).2)
  | .close, logger => (none, closeSession logger)

/-- The sessions that calls start one after the other. -/
def sessions : List Label → Logger → List Session
  | [], _ => []
  | label :: rest, logger =>
      (apply label logger).1.toList ++ sessions rest (apply label logger).2

/-- The logger after calls. -/
def after : List Label → Logger → Logger
  | [], logger => logger
  | label :: rest, logger => after rest (apply label logger).2

end Logger

end Radar
