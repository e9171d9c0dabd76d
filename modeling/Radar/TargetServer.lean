import Radar.CatalogTle
import Radar.Json

namespace Radar

/-!
# The target environment server

The steps of the `Server` class: loading a configuration, starting, stopping,
and the completions of accepts and reads, which its work threads run one at a
time between `start` and `stop`.  What the operating system answers, the
contents of the catalogue file and the messages of clients are inputs of the
steps.
-/

open CatalogTle (OrbitReader Keo parseKeo)

/-- Error codes of the target environment. -/
inductive ErrorCode where
  | ok
  | systemError
  | configError
  | registerFail
  | requestFail
  deriving Repr, DecidableEq

/-- The configuration manager: a document and whether one has been loaded. -/
structure ConfigManager where
  jsonConfig : Json
  configLoaded : Bool

namespace ConfigManager

/-- The settings of a section, or the text of the exception. -/
def getSection (conf : ConfigManager) (name : String) : Except String Json :=
  if conf.configLoaded = false then
    .error "Configuration Manager: Config not loaded."
  else
    match conf.jsonConfig.member? name with
    | none => .error "Configuration Manager: Unknown config section name."
    | some settings =>
        if settings.isObject then
          .ok settings
        else
          .error "Configuration Manager: Unknown config section name."

/-- The value of a key, if it is there and of the right kind. -/
def getValue
    {Value : Type}
    (read : Json → Option Value)
    (settings : Json)
    (key : String) :
    Except String Value :=
  match (settings.member? key).bind read with
  | some value => .ok value
  | none => .error "Configuration Manager: Parse error."

end ConfigManager

/--
An accepted connection: its socket, and the limit in force when it was
accepted, which the source does not keep.
-/
structure Connection where
  socket : Nat
  limit : UInt32
  deriving Repr, DecidableEq

/--
The state of a server.  `accepted` counts the sockets accepted so far, each of
which is a new one; `reads` are the sockets with a read under way.  The work
threads run exactly while the server is not stopped.
-/
structure Server (Elements : Type) where
  port : UInt16
  accOpen : Bool
  stopped : Bool
  configLoaded : Bool
  clients : List Connection
  clientsCounter : UInt32
  satelliteCatalog : List (Keo Elements)
  maxConnections : UInt32
  tlePath : String
  accepted : Nat
  reads : List Nat

/-- What the operating system answers to the calls of `start`. -/
structure StartFaults where
  openFails : Bool := false
  bindFails : Bool := false
  closeFails : Bool := false
  listenThrows : Bool := false
  deriving Repr, DecidableEq

/-- What the operating system answers to the calls of `stop`. -/
structure StopFaults where
  cancelFails : Bool := false
  closeFails : Bool := false
  shutdownThrows : Bool := false
  deriving Repr, DecidableEq

/-- How an accept completes. -/
inductive AcceptResult where
  | aborted
  | failed
  | completed (insertThrows : Bool)
  deriving Repr, DecidableEq

/-- How a read completes: a message, end of file or reset, another error. -/
inductive ReadResult where
  | message
  | closed
  | failed
  deriving Repr, DecidableEq

namespace Server

variable {Elements : Type} (reader : OrbitReader Elements)

/--
A new server.  The port, the limit and the catalogue path are what the memory
held before.
-/
def new
    (port : UInt16)
    (maxConnections : UInt32)
    (tlePath : String) :
    Server Elements where
  port := port
  accOpen := false
  stopped := true
  configLoaded := false
  clients := []
  clientsCounter := 0
  satelliteCatalog := []
  maxConnections := maxConnections
  tlePath := tlePath
  accepted := 0
  reads := []

/--
Load a configuration.  Values read before a faulty one have already been
assigned when the exception is caught.
-/
def loadConfig
    (conf : ConfigManager)
    (server : Server Elements) :
    Server Elements × ErrorCode :=
  if server.stopped = false then
    (server, .systemError)
  else
    match conf.getSection "te_settings" with
    | .error _ => (server, .configError)
    | .ok settings =>
        match ConfigManager.getValue Json.uint32? settings "port" with
        | .error _ => (server, .configError)
        | .ok port =>
            let server := { server with port := port.toUInt16 }
            match ConfigManager.getValue Json.uint32? settings
                "max_connections" with
            | .error _ => (server, .configError)
            | .ok maxConnections =>
                let server := { server with maxConnections := maxConnections }
                match ConfigManager.getValue Json.string? settings
                    "tle_catalog" with
                | .error _ => (server, .configError)
                | .ok tlePath =>
                    ({ server with tlePath := tlePath, configLoaded := true },
                      .ok)

/--
Start the server.  The files are those on disk at the time of the call; no
error code means that an exception leaves the function.
-/
def start
    (files : String → Option (List Line))
    (faults : StartFaults)
    (server : Server Elements) :
    Server Elements × Option ErrorCode :=
  if server.stopped = false then
    (server, some .systemError)
  else if server.configLoaded = false then
    (server, some .systemError)
  else
    let parsed := parseKeo reader (files server.tlePath)
      server.satelliteCatalog
    let server := { server with satelliteCatalog := parsed.2 }
    match parsed.1 with
    | .thrown => (server, none)
    | .failed => (server, some .configError)
    | .finished =>
        if server.accOpen ∨ faults.openFails then
          (server, some .systemError)
        else if faults.bindFails then
          ({ server with accOpen := faults.closeFails }, some .systemError)
        else if faults.listenThrows then
          ({ server with accOpen := true }, none)
        else
          ({ server with accOpen := true, stopped := false }, some .ok)

/--
Stop the server.  The catalogue is cleared first; an error of the acceptor
ends the function early, and so does a connection that cannot be shut down.
-/
def stop
    (faults : StopFaults)
    (server : Server Elements) :
    Server Elements × Option ErrorCode :=
  let server := { server with satelliteCatalog := [] }
  if server.accOpen ∧ (faults.cancelFails ∨ faults.closeFails) then
    (server, some .systemError)
  else
    let server := { server with accOpen := false }
    if server.clients ≠ [] ∧ faults.shutdownThrows then
      (server, none)
    else
      ({ server with clients := [], stopped := true }, some .ok)

/-- The completion of an accept. -/
def onAccept
    (result : AcceptResult)
    (server : Server Elements) :
    Server Elements :=
  match result with
  | .aborted => server
  | .failed => server
  | .completed insertThrows =>
      if server.clientsCounter = server.maxConnections then
        { server with accepted := server.accepted + 1 }
      else if insertThrows then
        { server with accepted := server.accepted + 1 }
      else
        { server with
          clients :=
            server.clients ++ [⟨server.accepted, server.maxConnections⟩]
          clientsCounter := server.clientsCounter + 1
          accepted := server.accepted + 1
          reads := server.reads ++ [server.accepted] }

/--
The completion of a read.  A completion that uses a connection no longer in
the list uses a dangling iterator: its effect is undefined, `none`.
-/
def onRead
    (socket : Nat)
    (result : ReadResult)
    (server : Server Elements) :
    Option (Server Elements) :=
  let listed := server.clients.any fun conn => conn.socket = socket
  match result with
  | .failed => some { server with reads := server.reads.erase socket }
  | .message => if listed then some server else none
  | .closed =>
      if listed then
        some
          { server with
            clients :=
              server.clients.filter fun conn => conn.socket ≠ socket
            clientsCounter := server.clientsCounter - 1
            reads := server.reads.erase socket }
      else
        none

/-- The steps of a server. -/
inductive Label where
  | loadConfig (conf : ConfigManager)
  | start (files : String → Option (List Line)) (faults : StartFaults)
  | stop (faults : StopFaults)
  | accept (result : AcceptResult)
  | read (socket : Nat) (result : ReadResult)

/-- One step; a step whose effect is undefined may lead to any state. -/
inductive Step : Server Elements → Label → Server Elements → Prop where
  | loadConfig (server : Server Elements) (conf : ConfigManager) :
      Step server (.loadConfig conf) (server.loadConfig conf).1
  | start
      (server : Server Elements)
      (files : String → Option (List Line))
      (faults : StartFaults) :
      Step server (.start files faults) (server.start reader files faults).1
  | stop (server : Server Elements) (faults : StopFaults) :
      Step server (.stop faults) (server.stop faults).1
  | accept
      {server : Server Elements}
      (result : AcceptResult)
      (running : server.stopped = false) :
      Step server (.accept result) (server.onAccept result)
  | read
      {server next : Server Elements}
      {socket : Nat}
      {result : ReadResult}
      (running : server.stopped = false)
      (underway : socket ∈ server.reads)
      (effect : server.onRead socket result = some next) :
      Step server (.read socket result) next
  | readUndefined
      {server : Server Elements}
      {socket : Nat}
      {result : ReadResult}
      (running : server.stopped = false)
      (underway : socket ∈ server.reads)
      (undefined : server.onRead socket result = none)
      (next : Server Elements) :
      Step server (.read socket result) next

/-- The settings that come with the server, with another limit. -/
def settings (maxConnections : Int) : ConfigManager where
  jsonConfig :=
    .object
      [("te_settings",
        .object
          [("ip_address", .string "127.0.0.1"),
            ("port", .integer 6565),
            ("tle_catalog", .string "Resourse/catalog.tle"),
            ("max_connections", .integer maxConnections)])]
  configLoaded := true

end Server

end Radar
