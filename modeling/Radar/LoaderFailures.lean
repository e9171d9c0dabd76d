import Radar.BrokerConnection
import Radar.LoggerSessions
import Radar.OrderedAssignments

namespace Radar

/-!
# Configurations that fail to load

Each of the four components looks the values of a configuration up one after
the other and assigns them at once.  A loader that fails keeps the settings of
its component exactly if what it assigns before the faulty value was already
set.
-/

open OrderedAssignments

/-- The value of a key, if it can be read. -/
def found?
    {Value : Type}
    (read : Json → Option Value)
    (settings : Json)
    (key : String) :
    Option Value :=
  (ConfigManager.getValue read settings key).toOption

section

variable
  {Value : Type}
  {read : Json → Option Value}
  {settings : Json}
  {key : String}

theorem found?_ok
    {value : Value}
    (answer : ConfigManager.getValue read settings key = .ok value) :
    found? read settings key = some value := by
  rw [found?, answer]
  rfl

theorem found?_error
    {what : String}
    (answer : ConfigManager.getValue read settings key = .error what) :
    found? read settings key = none := by
  rw [found?, answer]
  rfl

end

/-! ## The target environment server -/

namespace Server

variable {Elements : Type}

/-- What a configuration sets. -/
inductive Setting where
  | port
  | maxConnections
  | tlePath
  | configLoaded
  deriving Repr, DecidableEq

/-- The values of a setting. -/
def Setting.Value : Setting → Type
  | .port => UInt16
  | .maxConnections => UInt32
  | .tlePath => String
  | .configLoaded => Bool

/-- The settings of a server. -/
def settingValues (server : Server Elements) : ∀ name, Setting.Value name
  | .port => server.port
  | .maxConnections => server.maxConnections
  | .tlePath => server.tlePath
  | .configLoaded => server.configLoaded

/-- What `load_config` looks up, in this order. -/
def lookups
    (conf : ConfigManager)
    (server : Server Elements) :
    List (Lookup Setting.Value) :=
  .check server.stopped ::
    match conf.getSection "te_settings" with
    | .error _ => [.check false]
    | .ok settings =>
        [.assign .port
            ((found? Json.uint32? settings "port").map UInt32.toUInt16),
          .assign .maxConnections
            (found? Json.uint32? settings "max_connections"),
          .assign .tlePath (found? Json.string? settings "tle_catalog")]

/-- A configuration that fails to load leaves the settings as they were. -/
def KeepsSettings (conf : ConfigManager) (server : Server Elements) : Prop :=
  (server.loadConfig conf).2 ≠ .ok →
    settingValues (server.loadConfig conf).1 = settingValues server

theorem settingValues_port
    (server : Server Elements)
    (port : UInt16) :
    settingValues { server with port := port } =
      Function.update server.settingValues Setting.port port := by
  funext name
  cases name <;> rfl

theorem settingValues_maxConnections
    (server : Server Elements)
    (maxConnections : UInt32) :
    settingValues { server with maxConnections := maxConnections } =
      Function.update server.settingValues Setting.maxConnections
        maxConnections := by
  funext name
  cases name <;> rfl

theorem names_lookups_nodup
    (conf : ConfigManager)
    (server : Server Elements) :
    (names (lookups conf server)).Nodup := by
  unfold lookups
  split
  · exact List.nodup_nil
  · show [Setting.port, .maxConnections, .tlePath].Nodup
    decide

/-- The loader does what its lookups do. -/
theorem loadConfig_follows
    (conf : ConfigManager)
    (server : Server Elements) :
    Follows (lookups conf server) server.settingValues
      (settingValues (server.loadConfig conf).1)
      ((server.loadConfig conf).2 ≠ .ok) := by
  unfold loadConfig lookups
  cases running : server.stopped with
  | false => exact .check_false rfl (by simp) (by simp)
  | true =>
      refine .check_true rfl ?_
      cases inSection : conf.getSection "te_settings" with
      | error what => exact .check_false rfl (by simp) (by simp)
      | ok settings =>
          dsimp only
          cases onPort : ConfigManager.getValue Json.uint32? settings
              "port" with
          | error what =>
              exact .assign_none (by rw [found?_error onPort]; rfl)
                (by simp) (by simp)
          | ok port =>
              refine .assign_some (by rw [found?_ok onPort]; rfl) ?_
              rw [← settingValues_port]
              cases limited : ConfigManager.getValue Json.uint32? settings
                  "max_connections" with
              | error what =>
                  exact .assign_none (found?_error limited) (by simp)
                    (by simp [running])
              | ok maxConnections =>
                  refine .assign_some (found?_ok limited) ?_
                  rw [← settingValues_maxConnections]
                  cases catalogued : ConfigManager.getValue Json.string?
                      settings "tle_catalog" with
                  | error what =>
                      exact .assign_none (found?_error catalogued) (by simp)
                        (by simp [running])
                  | ok tlePath =>
                      refine .assign_some (found?_ok catalogued) (.nil ?_)
                      simp

theorem keepsSettings_iff
    (conf : ConfigManager)
    (server : Server Elements) :
    KeepsSettings conf server ↔
      allFound (lookups conf server) = true ∨
        AlreadySet server.settingValues (lookups conf server) :=
  (loadConfig_follows conf server).keeps_iff (names_lookups_nodup conf server)

end Server

/-! ## The client of the message broker -/

namespace BrokerClient

variable {Handler : Type}

/-- What a configuration sets. -/
inductive Setting where
  | serverIpAddress
  | clientSubPort
  | clientPubPort
  | bufferSize
  | pollInterval
  | heartbeatInterval
  | configLoaded
  deriving Repr, DecidableEq

/-- The values of a setting. -/
def Setting.Value : Setting → Type
  | .serverIpAddress | .clientSubPort | .clientPubPort => List Char
  | .bufferSize | .pollInterval | .heartbeatInterval => UInt32
  | .configLoaded => Bool

/-- The settings of a client. -/
def settingValues (client : BrokerClient Handler) :
    ∀ name, Setting.Value name
  | .serverIpAddress => client.serverIpAddress
  | .clientSubPort => client.clientSubPort
  | .clientPubPort => client.clientPubPort
  | .bufferSize => client.bufferSize
  | .pollInterval => client.pollInterval
  | .heartbeatInterval => client.heartbeatInterval
  | .configLoaded => client.configLoaded

/-- The lookups in the section of the client. -/
def sectionLookups (settings : Json) : List (Lookup Setting.Value) :=
  [.assign .serverIpAddress (found? Client.string? settings "server_ip"),
    .assign .clientSubPort (found? Client.string? settings "client_sub_port"),
    .assign .clientPubPort (found? Client.string? settings "client_pub_port"),
    .assign .bufferSize (found? Json.uint32? settings "buffer_size"),
    .assign .pollInterval (found? Json.uint32? settings "poll_interval"),
    .assign .heartbeatInterval
      (found? Json.uint32? settings "heartbeat_interval")]

/-- What `load_config` looks up, in this order. -/
def lookups (conf : ConfigManager) : List (Lookup Setting.Value) :=
  match conf.getSection "message_broker_settings" with
  | .error _ => [.check false]
  | .ok settings => sectionLookups settings

/-- A configuration that fails to load leaves the settings as they were. -/
def KeepsSettings
    (conf : ConfigManager)
    (client : BrokerClient Handler) : Prop :=
  (client.loadConfig conf).1 ≠ .ok () →
    settingValues (client.loadConfig conf).2 = settingValues client

theorem names_lookups_nodup (conf : ConfigManager) :
    (names (lookups conf)).Nodup := by
  unfold lookups
  split
  · exact List.nodup_nil
  · show [Setting.serverIpAddress, .clientSubPort, .clientPubPort, .bufferSize,
      .pollInterval, .heartbeatInterval].Nodup
    decide

/-- Reading one setting is one lookup. -/
def ReadsAs
    (settings : Json)
    (reader : SettingReader Handler)
    (lookup : Lookup Setting.Value) : Prop :=
  ∃ (name : Setting) (found : Option name.Value),
    lookup = .assign name found ∧
      match reader settings with
      | .error _ => found = none
      | .ok assign =>
          ∃ value, found = some value ∧
            ∀ client : BrokerClient Handler,
              settingValues (assign client) =
                Function.update client.settingValues name value

/-- A reader that looks one value up and assigns it. -/
theorem readsAs_assign
    (settings : Json)
    (name : Setting)
    (read : Json → Option name.Value)
    (key : String)
    (assign : name.Value → BrokerClient Handler → BrokerClient Handler)
    (assigns : ∀ value client,
      settingValues (assign value client) =
        Function.update client.settingValues name value) :
    ReadsAs settings
      (fun settings => do
        let value ← ConfigManager.getValue read settings key
        return assign value)
      (.assign name (found? read settings key)) := by
  refine ⟨name, found? read settings key, rfl, ?_⟩
  dsimp only
  cases answer : ConfigManager.getValue read settings key with
  | error what => exact found?_error answer
  | ok value => exact ⟨value, found?_ok answer, assigns value⟩

theorem settingReaders_readAs (settings : Json) :
    List.Forall₂ (@ReadsAs Handler settings) settingReaders
      (sectionLookups settings) := by
  refine .cons ?_ (.cons ?_ (.cons ?_ (.cons ?_ (.cons ?_ (.cons ?_ .nil)))))
  all_goals
    refine readsAs_assign settings _ _ _ _ fun value client => ?_
    funext name
    cases name <;> rfl

/-- Settings are read as their lookups are made. -/
theorem readSettings_follows
    {settings : Json}
    {readers : List (SettingReader Handler)}
    {lookups : List (Lookup Setting.Value)}
    (readAs : List.Forall₂ (ReadsAs settings) readers lookups)
    (client : BrokerClient Handler) :
    Follows lookups client.settingValues
      (settingValues (readSettings settings readers client).2)
      ((readSettings settings readers client).1 ≠ .ok ()) := by
  induction readAs generalizing client with
  | nil => exact .nil fun failed => failed rfl
  | @cons reader lookup readers lookups first later inductionHypothesis =>
      obtain ⟨name, found, rfl, answers⟩ := first
      cases answer : reader settings with
      | error what =>
          rw [answer] at answers
          exact .assign_none answers (by simp [readSettings, answer])
            (by simp [readSettings, answer])
      | ok assign =>
          rw [answer] at answers
          obtain ⟨value, present, assigned⟩ := answers
          refine .assign_some present ?_
          rw [← assigned, readSettings, answer]
          exact inductionHypothesis (assign client)

/-- The loader does what its lookups do. -/
theorem loadConfig_follows
    (conf : ConfigManager)
    (client : BrokerClient Handler) :
    Follows (lookups conf) client.settingValues
      (settingValues (client.loadConfig conf).2)
      ((client.loadConfig conf).1 ≠ .ok ()) := by
  unfold loadConfig lookups
  cases inSection : conf.getSection "message_broker_settings" with
  | error what => exact .check_false rfl (by simp) rfl
  | ok settings =>
      have follows :=
        readSettings_follows (settingReaders_readAs settings) client
      match answer : readSettings settings settingReaders client with
      | (.error what, read) =>
          rw [answer] at follows
          simpa [answer] using follows
      | (.ok (), read) =>
          rw [answer] at follows
          exact follows.of_returned (by simp) (by simp [answer])

theorem keepsSettings_iff
    (conf : ConfigManager)
    (client : BrokerClient Handler) :
    KeepsSettings conf client ↔
      allFound (lookups conf) = true ∨
        AlreadySet client.settingValues (lookups conf) :=
  (loadConfig_follows conf client).keeps_iff (names_lookups_nodup conf)

end BrokerClient

/-! ## The server of the message broker -/

/-- The settings of the broker's server. -/
structure BrokerServer where
  serverPubPort : List Char
  serverSubPort : List Char
  configLoaded : Bool
  deriving Repr, DecidableEq

namespace BrokerServer

/-- A new server. -/
def new : BrokerServer where
  serverPubPort := []
  serverSubPort := []
  configLoaded := false

/-- Read the ports from the section of the broker. -/
def readPorts (settings : Json) (server : BrokerServer) :
    Except String Unit × BrokerServer :=
  match ConfigManager.getValue Client.string? settings "server_pub_port" with
  | .error what => (.error what, server)
  | .ok serverPubPort =>
      let server := { server with serverPubPort := serverPubPort }
      match ConfigManager.getValue Client.string? settings
          "server_sub_port" with
      | .error what => (.error what, server)
      | .ok serverSubPort =>
          (.ok (),
            { server with
              serverSubPort := serverSubPort
              configLoaded := true })

/-- Load a configuration. -/
def loadConfig (conf : ConfigManager) (server : BrokerServer) :
    Except BrokerError Unit × BrokerServer :=
  match conf.getSection "message_broker_settings" with
  | .error what =>
      (.error (.config ("Message Broker server : " ++ what)), server)
  | .ok settings =>
      match readPorts settings server with
      | (.error what, server) =>
          (.error (.config ("Message Broker server : " ++ what)), server)
      | (.ok (), server) => (.ok (), server)

/-- What a configuration sets. -/
inductive Setting where
  | serverPubPort
  | serverSubPort
  | configLoaded
  deriving Repr, DecidableEq

/-- The values of a setting. -/
def Setting.Value : Setting → Type
  | .serverPubPort | .serverSubPort => List Char
  | .configLoaded => Bool

/-- The settings of a server. -/
def settingValues (server : BrokerServer) : ∀ name, Setting.Value name
  | .serverPubPort => server.serverPubPort
  | .serverSubPort => server.serverSubPort
  | .configLoaded => server.configLoaded

/-- What `load_config` looks up, in this order. -/
def lookups (conf : ConfigManager) : List (Lookup Setting.Value) :=
  match conf.getSection "message_broker_settings" with
  | .error _ => [.check false]
  | .ok settings =>
      [.assign .serverPubPort
          (found? Client.string? settings "server_pub_port"),
        .assign .serverSubPort
          (found? Client.string? settings "server_sub_port")]

/-- A configuration that fails to load leaves the settings as they were. -/
def KeepsSettings (conf : ConfigManager) (server : BrokerServer) : Prop :=
  (server.loadConfig conf).1 ≠ .ok () →
    settingValues (server.loadConfig conf).2 = settingValues server

theorem settingValues_serverPubPort
    (server : BrokerServer)
    (serverPubPort : List Char) :
    settingValues { server with serverPubPort := serverPubPort } =
      Function.update server.settingValues Setting.serverPubPort
        serverPubPort := by
  funext name
  cases name <;> rfl

theorem names_lookups_nodup (conf : ConfigManager) :
    (names (lookups conf)).Nodup := by
  unfold lookups
  split
  · exact List.nodup_nil
  · show [Setting.serverPubPort, .serverSubPort].Nodup
    decide

/-- The loader does what its lookups do. -/
theorem loadConfig_follows
    (conf : ConfigManager)
    (server : BrokerServer) :
    Follows (lookups conf) server.settingValues
      (settingValues (server.loadConfig conf).2)
      ((server.loadConfig conf).1 ≠ .ok ()) := by
  unfold loadConfig lookups
  cases inSection : conf.getSection "message_broker_settings" with
  | error what => exact .check_false rfl (by simp) rfl
  | ok settings =>
      dsimp only [readPorts]
      cases onPubPort : ConfigManager.getValue Client.string? settings
          "server_pub_port" with
      | error what =>
          exact .assign_none (found?_error onPubPort) (by simp) rfl
      | ok serverPubPort =>
          refine .assign_some (found?_ok onPubPort) ?_
          rw [← settingValues_serverPubPort]
          cases onSubPort : ConfigManager.getValue Client.string? settings
              "server_sub_port" with
          | error what =>
              exact .assign_none (found?_error onSubPort) (by simp) rfl
          | ok serverSubPort =>
              refine .assign_some (found?_ok onSubPort) (.nil ?_)
              simp

theorem keepsSettings_iff
    (conf : ConfigManager)
    (server : BrokerServer) :
    KeepsSettings conf server ↔
      allFound (lookups conf) = true ∨
        AlreadySet server.settingValues (lookups conf) :=
  (loadConfig_follows conf server).keeps_iff (names_lookups_nodup conf)

end BrokerServer

/-! ## The logger -/

namespace Logger

/-- What a configuration sets. -/
inductive Setting where
  | path
  | numFiles
  | queueSize
  | configLoaded
  deriving Repr, DecidableEq

/-- The values of a setting. -/
def Setting.Value : Setting → Type
  | .path => List Char
  | .numFiles | .queueSize => UInt32
  | .configLoaded => Bool

/-- The settings of the logger. -/
def settingValues (logger : Logger) : ∀ name, Setting.Value name
  | .path => logger.path
  | .numFiles => logger.numFiles
  | .queueSize => logger.queueSize
  | .configLoaded => logger.configLoaded

/-- The lookups behind the directory. -/
def limitLookups (settings : Json) : List (Lookup Setting.Value) :=
  [.check (found? Json.uint32? settings "buffer_size").isSome,
    .assign .numFiles (found? Json.uint32? settings "num_files"),
    .check (found? Client.string? settings "message_format").isSome]

/-- What `load_config` looks up, in this order. -/
def lookups
    (conf : ConfigManager)
    (faults : LoadFaults)
    (logger : Logger) :
    List (Lookup Setting.Value) :=
  match conf.getSection "logger" with
  | .error _ => [.check false]
  | .ok settings =>
      match found? Client.string? settings "log_dir" with
      | none => [.assign .path none]
      | some logDir =>
          .assign .path (some logDir) ::
            .check ({ logger with path := logDir }.ensureDirectory
              faults).isSome ::
            limitLookups settings

/-- A configuration that fails to load leaves the settings as they were. -/
def KeepsSettings
    (conf : ConfigManager)
    (faults : LoadFaults)
    (logger : Logger) : Prop :=
  (logger.loadConfig conf faults).1 ≠ .ok () →
    settingValues (logger.loadConfig conf faults).2 = settingValues logger

theorem settingValues_path (logger : Logger) (path : List Char) :
    settingValues { logger with path := path } =
      Function.update logger.settingValues Setting.path path := by
  funext name
  cases name <;> rfl

theorem settingValues_numFiles (logger : Logger) (numFiles : UInt32) :
    settingValues { logger with numFiles := numFiles } =
      Function.update logger.settingValues Setting.numFiles numFiles := by
  funext name
  cases name <;> rfl

/-- A new directory is not a setting. -/
theorem settingValues_files (logger : Logger) (files : FileSystem) :
    settingValues { logger with files := files } = logger.settingValues := by
  funext name
  cases name <;> rfl

theorem settingValues_of_ensureDirectory
    {faults : LoadFaults}
    {logger ensured : Logger}
    (there : logger.ensureDirectory faults = some ensured) :
    ensured.settingValues = logger.settingValues := by
  unfold ensureDirectory at there
  split_ifs at there
  · rw [Option.some.inj there]
  · obtain ⟨files, -, rfl⟩ := Option.map_eq_some_iff.mp there
    exact settingValues_files logger files

theorem names_limitLookups (settings : Json) :
    names (limitLookups settings) = [Setting.numFiles] :=
  rfl

theorem names_lookups_nodup
    (conf : ConfigManager)
    (faults : LoadFaults)
    (logger : Logger) :
    (names (lookups conf faults logger)).Nodup := by
  unfold lookups
  split
  · exact List.nodup_nil
  · split
    · exact List.nodup_singleton Setting.path
    · rw [names, names, names_limitLookups]
      decide

theorem loadLimits_follows (settings : Json) (logger : Logger) :
    Follows (limitLookups settings) logger.settingValues
      (settingValues (loadLimits settings logger).2)
      ((loadLimits settings logger).1 ≠ .ok ()) := by
  unfold loadLimits limitLookups
  cases buffered : ConfigManager.getValue Json.uint32? settings
      "buffer_size" with
  | error what =>
      exact .check_false (by rw [found?_error buffered]; rfl) (by simp) rfl
  | ok bufferSize =>
      refine .check_true (by rw [found?_ok buffered]; rfl) ?_
      cases counted : ConfigManager.getValue Json.uint32? settings
          "num_files" with
      | error what =>
          exact .assign_none (found?_error counted) (by simp) rfl
      | ok numFiles =>
          refine .assign_some (found?_ok counted) ?_
          rw [← settingValues_numFiles]
          cases formatted : ConfigManager.getValue Client.string? settings
              "message_format" with
          | error what =>
              exact .check_false (by rw [found?_error formatted]; rfl)
                (by simp) rfl
          | ok format =>
              refine .check_true (by rw [found?_ok formatted]; rfl) (.nil ?_)
              simp

/-- The loader does what its lookups do. -/
theorem loadConfig_follows
    (conf : ConfigManager)
    (faults : LoadFaults)
    (logger : Logger) :
    Follows (lookups conf faults logger) logger.settingValues
      (settingValues (logger.loadConfig conf faults).2)
      ((logger.loadConfig conf faults).1 ≠ .ok ()) := by
  unfold loadConfig lookups
  cases inSection : conf.getSection "logger" with
  | error what => exact .check_false rfl (by simp) rfl
  | ok settings =>
      dsimp only
      cases named : ConfigManager.getValue Client.string? settings
          "log_dir" with
      | error what =>
          rw [found?_error named]
          exact .assign_none rfl (by simp) rfl
      | ok logDir =>
          rw [found?_ok named]
          refine .assign_some rfl ?_
          rw [← settingValues_path]
          cases there : { logger with path := logDir }.ensureDirectory
              faults with
          | none =>
              exact .check_false rfl (by simp [there]) (by simp [there])
          | some ensured =>
              refine .check_true rfl ?_
              rw [← settingValues_of_ensureDirectory there]
              simpa [there] using loadLimits_follows settings ensured

theorem keepsSettings_iff
    (conf : ConfigManager)
    (faults : LoadFaults)
    (logger : Logger) :
    KeepsSettings conf faults logger ↔
      allFound (lookups conf faults logger) = true ∨
        AlreadySet logger.settingValues (lookups conf faults logger) :=
  (loadConfig_follows conf faults logger).keeps_iff
    (names_lookups_nodup conf faults logger)

end Logger

/-! ## All four loaders -/

/--
A loader that fails keeps the settings exactly if it does not fail or what it
assigns before the faulty value was already set.
-/
theorem loadConfig_keepsSettings_iff
    {Elements Handler : Type}
    (conf : ConfigManager)
    (server : Server Elements)
    (client : BrokerClient Handler)
    (brokerServer : BrokerServer)
    (faults : Logger.LoadFaults)
    (logger : Logger) :
    (server.KeepsSettings conf ↔
        allFound (server.lookups conf) = true ∨
          AlreadySet server.settingValues (server.lookups conf)) ∧
      (client.KeepsSettings conf ↔
        allFound (BrokerClient.lookups conf) = true ∨
          AlreadySet client.settingValues (BrokerClient.lookups conf)) ∧
      (brokerServer.KeepsSettings conf ↔
        allFound (BrokerServer.lookups conf) = true ∨
          AlreadySet brokerServer.settingValues (BrokerServer.lookups conf)) ∧
      (logger.KeepsSettings conf faults ↔
        allFound (logger.lookups conf faults) = true ∨
          AlreadySet logger.settingValues (logger.lookups conf faults)) :=
  ⟨Server.keepsSettings_iff conf server,
    BrokerClient.keepsSettings_iff conf client,
    BrokerServer.keepsSettings_iff conf brokerServer,
    Logger.keepsSettings_iff conf faults logger⟩

/-- A document in which every section lacks values behind its first ones. -/
def incomplete : ConfigManager where
  jsonConfig :=
    .object
      [("te_settings", .object [("port", .integer 7000)]),
        ("message_broker_settings",
          .object
            [("server_ip", .string "10.0.0.1"),
              ("server_pub_port", .string "7001")]),
        ("logger", .object [("log_dir", .string "./other")])]
  configLoaded := true

/-- Loaders that fail leave mixed settings behind in all four components. -/
theorem not_keepsSettings :
    ¬ Server.KeepsSettings incomplete
        ((Server.new 0 0 "" : Server Unit).loadConfig (Server.settings 10)).1 ∧
      ¬ BrokerClient.KeepsSettings incomplete
        ((BrokerClient.new 0 0 0 : BrokerClient Unit).loadConfig
          BrokerClient.settings).2 ∧
      ¬ BrokerServer.KeepsSettings incomplete
        (BrokerServer.new.loadConfig BrokerClient.settings).2 ∧
      ¬ Logger.KeepsSettings incomplete {}
        (Logger.new.loadConfig (Logger.settingsWith "./logs") {}).2 := by
  refine ⟨fun keeps => ?_, fun keeps => ?_, fun keeps => ?_, fun keeps => ?_⟩
  · have samePort : (7000 : UInt16) = 6565 :=
      congrFun (keeps (by decide)) .port
    exact absurd samePort (by decide)
  · have sameAddress : "10.0.0.1".toList = "127.0.0.1".toList :=
      congrFun (keeps nofun) .serverIpAddress
    exact absurd sameAddress (by decide)
  · have samePort : "7001".toList = "5896".toList :=
      congrFun (keeps nofun) .serverPubPort
    exact absurd samePort (by decide)
  · have samePath : "./other".toList = "./logs".toList :=
      congrFun (keeps nofun) .path
    exact absurd samePath (by decide)

end Radar
