import Radar.TargetsMessage

namespace Radar

/-!
# The configuration manager and its files

The state of the `ConfigManager` class and its functions.  The files are named
by the texts of their paths; what the file system answers is an input of the
functions, and so is the operator of the library that joins two paths.
References that callers hold lead to a part of the stored document or to
another document.
-/

/-- The two exceptions of the configuration manager. -/
inductive ConfigError where
  | system (what : String)
  | config (what : String)
  deriving Repr, DecidableEq

/-- How a function of the manager ends without a result. -/
inductive ConfigFailure where
  | thrown (error : ConfigError)
  | aborted
  deriving Repr, DecidableEq

/-- What the file system says about the path of a directory. -/
inductive PathStatus where
  | directory
  | notDirectory
  | missing
  | failed (what : String)
  deriving Repr, DecidableEq

/-- What the file system says about a file that is read. -/
inductive FileStatus where
  | contents (text : List Char)
  | missing
  | unreadable
  | failed (what : String)
  deriving Repr, DecidableEq

/-- The state of a manager. -/
structure ConfigStore extends ConfigManager where
  configName : List Char
  path : List Char

/-! ## Values of settings -/

/-- The types of values. -/
inductive ValueKind where
  | string
  | double
  | uint32
  | uint64
  | int32
  | int64
  deriving Repr, DecidableEq

/-- A value of one of the types. -/
inductive ConfigValue where
  | string (value : List Char)
  | double (value : Rat)
  | uint32 (value : UInt32)
  | uint64 (value : UInt64)
  | int32 (value : Int32)
  | int64 (value : Int64)
  deriving DecidableEq

/-- The test of a value before it is set. -/
def ValueKind.accepts (value : Json) : ValueKind → Bool
  | .string => value.string?.isSome
  | .double => value.isDouble
  | .uint32 => value.isInRange 0 4294967296
  | .uint64 => value.isInRange 0 18446744073709551616
  | .int32 => value.isInRange (-2147483648) 2147483648
  | .int64 =>
      value.isInRange (-9223372036854775808) 9223372036854775808

/-- The test of a value before it is read: here any number is a `double`. -/
def ValueKind.reads (value : Json) : ValueKind → Bool
  | .double => value.number?.isSome
  | kind => kind.accepts value

/-- The type of a value. -/
def ConfigValue.kind : ConfigValue → ValueKind
  | .string _ => .string
  | .double _ => .double
  | .uint32 _ => .uint32
  | .uint64 _ => .uint64
  | .int32 _ => .int32
  | .int64 _ => .int64

/-- A value as it is stored. -/
def ConfigValue.toJson : ConfigValue → Json
  | .string value => .string (String.ofList value)
  | .double value => .decimal value
  | .uint32 value => .integer value.toNat
  | .uint64 value => .integer value.toNat
  | .int32 value => .integer value.toInt
  | .int64 value => .integer value.toInt

/-- A reference that a caller holds. -/
inductive Settings where
  | inside (steps : List Nat)
  | outside (value : Json)

namespace ConfigStore

/-- The text of `Parse error.` as the manager throws it. -/
def parseError : ConfigFailure :=
  .thrown (.config "Configuration Manager: Parse error.")

/-- The exception of functions that need a configuration. -/
def notLoaded : ConfigFailure :=
  .thrown (.config "Configuration Manager: Config not loaded.")

/-- A new manager. -/
def new : ConfigStore where
  jsonConfig := .null
  configLoaded := false
  configName := []
  path := []

/-! ## Files -/

/-- The name of the file of a configuration. -/
def fileName (configName : List Char) : List Char :=
  configName ++ ".cfg".toList

/-- The file that `load_config` reads. -/
def loadPath
    (joinPath : List Char → List Char → List Char)
    (store : ConfigStore)
    (configName : List Char) :
    List Char :=
  joinPath store.path (fileName configName)

/-- The file that `save_config` writes. -/
def savePath (store : ConfigStore) (configName : List Char) : List Char :=
  store.path ++ fileName configName

/-- Set the path to the directory.  It is set before it is checked. -/
def setPath
    (status : List Char → PathStatus)
    (path : List Char)
    (store : ConfigStore) :
    Except ConfigFailure Unit × ConfigStore :=
  let store := { store with path }
  match status path with
  | .directory => (.ok (), store)
  | .notDirectory =>
      (.error
          (.thrown
            (.system "Configuration Manager: Path is not a directory.")),
        store)
  | .missing =>
      (.error
          (.thrown (.system "Configuration Manager: Directory don't exist.")),
        store)
  | .failed what =>
      (.error (.thrown (.system ("Configuration Manager: " ++ what))), store)

/-- Parse a C string, which has to be an object. -/
def parseObject (parser : Json.Parser) (text : List Char) : Option Json :=
  (parser.parse (Client.cString text)).filter Json.isObject

/-- Load a configuration by name. -/
def loadConfig
    (parser : Json.Parser)
    (joinPath : List Char → List Char → List Char)
    (files : List Char → FileStatus)
    (configName : List Char)
    (store : ConfigStore) :
    Except ConfigFailure Unit × ConfigStore :=
  match files (store.loadPath joinPath configName) with
  | .missing =>
      (.error
          (.thrown
            (.system
              "Configuration Manager: Configuration file don't exist.")),
        store)
  | .unreadable =>
      (.error
          (.thrown
            (.system
              "Configuration Manager: Con't open configuration file.")),
        store)
  | .failed what =>
      (.error (.thrown (.system ("Configuration Manager: " ++ what))), store)
  | .contents text =>
      match parseObject parser text with
      | some temp =>
          (.ok (),
            { store with jsonConfig := temp, configName, configLoaded := true })
      | none =>
          (.error
              (.thrown
                (.config
                  "Configuration Manager: Configuration file parse error.")),
            store)

/--
The file and the text that `save_config` writes.  Errors of the stream are not
noticed; an exception comes with its text.
-/
def saveConfig
    (write : Json → List Char)
    (fault : Option String)
    (configName : List Char)
    (store : ConfigStore) :
    Except ConfigFailure (List Char × List Char) :=
  if store.configLoaded = false then
    .error notLoaded
  else
    match fault with
    | some what =>
        .error (.thrown (.system ("Configuration Manager: " ++ what)))
    | none =>
        .ok
          (store.savePath configName, Client.cString (write store.jsonConfig))

/-- Update the configuration described by a text. -/
def updateConfig
    (parser : Json.Parser)
    (configStr : List Char)
    (store : ConfigStore) :
    Except ConfigFailure Unit × ConfigStore :=
  if store.configLoaded = false then
    (.error notLoaded, store)
  else
    match parseObject parser configStr with
    | some temp => (.ok (), { store with jsonConfig := temp })
    | none =>
        (.error
            (.thrown
              (.config "Configuration Manager: Configuration update error.")),
          store)

/-! ## Sections, objects and values -/

/-- What a reference leads to. -/
def resolve (store : ConfigStore) : Settings → Option Json
  | .inside steps => store.jsonConfig.at? steps
  | .outside value => some value

/-- Change what a reference leads to. -/
def change
    (settings : Settings)
    (new : Json → Json)
    (store : ConfigStore) :
    ConfigStore :=
  match settings with
  | .inside steps =>
      { store with jsonConfig := store.jsonConfig.modifyAt steps new }
  | .outside _ => store

/--
Get a section.  That the document is an object is an assertion of the library.
-/
def getSection
    (sectionName : String)
    (store : ConfigStore) :
    Except ConfigFailure Json :=
  if store.configLoaded = true ∧ store.jsonConfig.isObject = false then
    .error .aborted
  else
    match store.toConfigManager.getSection sectionName with
    | .ok settings => .ok settings
    | .error what => .error (.thrown (.config what))

/-- Get an object or an array by its key, which must not be null. -/
def getObject
    (settings : Settings)
    (key : Option String)
    (store : ConfigStore) :
    Except ConfigFailure Json :=
  if store.configLoaded = false then
    .error notLoaded
  else
    match store.resolve settings, key with
    | some (.object members), some key =>
        match (Json.object members).member? key with
        | some value =>
            if value.isObject ∨ value.isArray then
              .ok value
            else
              .error
                (.thrown (.config "Configuration Manager: Not an object."))
        | none =>
            .error
              (.thrown
                (.config "Configuration Manager: Unknown object name."))
    | _, _ => .error .aborted

/-- Set the value of a key that has a value of the same type. -/
def setValue
    (settings : Settings)
    (key : Option String)
    (value : ConfigValue)
    (store : ConfigStore) :
    Except ConfigFailure Unit × ConfigStore :=
  if store.configLoaded = false then
    (.error notLoaded, store)
  else
    match key with
    | none => (.error parseError, store)
    | some key =>
        match store.resolve settings with
        | some (.object members) =>
            match (Json.object members).member? key with
            | some old =>
                if value.kind.accepts old then
                  (.ok (),
                    store.change settings (Json.setMember key value.toJson))
                else
                  (.error parseError, store)
            | none => (.error parseError, store)
        | _ => (.error .aborted, store)

/-- Replace the elements of an array. -/
def setArray
    (object : Settings)
    (arr : List ConfigValue)
    (store : ConfigStore) :
    Except ConfigFailure Unit × ConfigStore :=
  match store.resolve object with
  | some value =>
      if value.isArray then
        (.ok (),
          store.change object fun _ => .array (arr.map ConfigValue.toJson))
      else
        (.error parseError, store)
  | none => (.error .aborted, store)

/--
Get the value of a key, or the value itself without a key.  The function for
`double` looks the key up before it asks whether it is there.
-/
def getValue
    (kind : ValueKind)
    (settings : Settings)
    (key : Option String)
    (store : ConfigStore) :
    Except ConfigFailure Json :=
  match store.resolve settings, key with
  | some value, none =>
      if kind.reads value then .ok value else .error parseError
  | some (.object members), some key =>
      match (Json.object members).member? key with
      | some value => if kind.reads value then .ok value else .error parseError
      | none => .error (if kind = .double then .aborted else parseError)
  | _, _ => .error .aborted

end ConfigStore

end Radar
