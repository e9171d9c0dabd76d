import Radar.TargetsMessage

namespace Radar

/-!
# The client of the message broker

The state of the broker's `Client` class and its functions.  What the library
and the other clients do are inputs of the functions, and calls of the library
return.  A socket delivers the messages that start with a subscribed type, and
it polls for nothing but incoming messages.
-/

/-- A message with its type. -/
structure BrokerMessage where
  type : List Char
  text : List Char
  deriving DecidableEq

/-- The bytes of a message. -/
def BrokerMessage.serialize (message : BrokerMessage) : List Char :=
  message.type ++ ' ' :: message.text

/--
How a function of the client fails: with one of the three exceptions, or with
undefined behaviour.
-/
inductive BrokerError where
  | config (what : String)
  | system (what : String)
  | zmq (what : String)
  | undefined
  deriving Repr, DecidableEq

/-- The state of a client; of its pointers, whether they are set. -/
structure BrokerClient (Handler : Type) where
  serverIpAddress : List Char
  clientSubPort : List Char
  clientPubPort : List Char
  bufferSize : UInt32
  pollInterval : UInt32
  heartbeatInterval : UInt32
  ctx : Bool
  output : Bool
  input : Bool
  handlersTbl : List (List Char × Handler)
  configLoaded : Bool
  connected : Bool
  messageProcessing : Bool

/-- A call of a handler; no message if its length exceeds the buffer. -/
structure HandlerCall (Handler : Type) where
  handler : Handler
  msg : Option (List Char)
  deriving DecidableEq

/-- What happens while messages are processed. -/
inductive BrokerEvent where
  | timeout
  | stop
  | received (bytes : List Char)
  | receiveFails (terminated : Bool)
  | pollThrows (what : String)
  deriving DecidableEq

/-- How processing stands when the events have happened. -/
inductive ProcessingEnd where
  | running
  | returned
  | thrown (error : BrokerError)
  deriving DecidableEq

/-- The calls of handlers, and how processing stands. -/
structure Processing (Handler : Type) where
  calls : List (HandlerCall Handler)
  ended : ProcessingEnd
  deriving DecidableEq

namespace BrokerClient

variable {Handler : Type}

/-- A new client; numbers without an initial value are what the memory held. -/
def new
    (bufferSize pollInterval heartbeatInterval : UInt32) :
    BrokerClient Handler where
  serverIpAddress := []
  clientSubPort := []
  clientPubPort := []
  bufferSize := bufferSize
  pollInterval := pollInterval
  heartbeatInterval := heartbeatInterval
  ctx := false
  output := false
  input := false
  handlersTbl := []
  configLoaded := false
  connected := false
  messageProcessing := false

/-! ## Configuration -/

/-- What reading a setting changes, or the text of the exception. -/
abbrev SettingReader (Handler : Type) :=
  Json → Except String (BrokerClient Handler → BrokerClient Handler)

/-- The settings in the order in which they are read. -/
def settingReaders : List (SettingReader Handler) :=
  [fun settings => do
      let value ← ConfigManager.getValue Client.string? settings "server_ip"
      return fun client => { client with serverIpAddress := value },
    fun settings => do
      let value ←
        ConfigManager.getValue Client.string? settings "client_sub_port"
      return fun client => { client with clientSubPort := value },
    fun settings => do
      let value ←
        ConfigManager.getValue Client.string? settings "client_pub_port"
      return fun client => { client with clientPubPort := value },
    fun settings => do
      let value ← ConfigManager.getValue Json.uint32? settings "buffer_size"
      return fun client => { client with bufferSize := value },
    fun settings => do
      let value ← ConfigManager.getValue Json.uint32? settings "poll_interval"
      return fun client => { client with pollInterval := value },
    fun settings => do
      let value ←
        ConfigManager.getValue Json.uint32? settings "heartbeat_interval"
      return fun client => { client with heartbeatInterval := value }]

/-- Read settings one by one until one of them is faulty. -/
def readSettings (settings : Json) :
    List (SettingReader Handler) → BrokerClient Handler →
      Except String Unit × BrokerClient Handler
  | [], client => (.ok (), client)
  | reader :: later, client =>
      match reader settings with
      | .ok assign => readSettings settings later (assign client)
      | .error what => (.error what, client)

/-- Load a configuration. -/
def loadConfig
    (conf : ConfigManager)
    (client : BrokerClient Handler) :
    Except BrokerError Unit × BrokerClient Handler :=
  match conf.getSection "message_broker_settings" with
  | .error what => (.error (.config ("Message broker client : " ++ what)), client)
  | .ok settings =>
      match readSettings settings settingReaders client with
      | (.error what, client) =>
          (.error (.config ("Message broker client : " ++ what)), client)
      | (.ok (), client) => (.ok (), { client with configLoaded := true })

/-! ## The connection -/

/-- The calls of the library that `connect` makes. -/
inductive ConnectStep where
  | context
  | outputSocket
  | outputConnect
  | inputSocket
  | inputConnect
  deriving Repr, DecidableEq

/--
Connect to the server.  The call that fails, if one does, comes with the text
of its exception.
-/
def connect
    (fault : Option (ConnectStep × String))
    (client : BrokerClient Handler) :
    Except BrokerError Unit × BrokerClient Handler :=
  if client.configLoaded = false then
    (.error
        (.config
          ("Message Broker client : Can't connect to the server. " ++
            "Config not loaded.")),
      client)
  else
    match fault with
    | none =>
        (.ok (),
          { client with
            ctx := true, output := true, input := true, connected := true })
    | some (_, what) =>
        (.error
            (.system
              ("Message Broker client : Can't create MessageBroker. " ++ what)),
          { client with output := false, ctx := false, input := false })

/-- Disconnect from the server. -/
def disconnect (client : BrokerClient Handler) : BrokerClient Handler :=
  if client.connected = false ∨ client.messageProcessing = true then
    client
  else
    { client with input := false, output := false, ctx := false }

/-- Send a message; the text is the one of an exception of the library. -/
def sendMessage
    (message : BrokerMessage)
    (fault : Option String)
    (client : BrokerClient Handler) :
    Except BrokerError (List Char) :=
  if client.configLoaded = false then
    .error
      (.config
        "Message Broker client: Can't sent message. Config not loaded.")
  else if client.connected = false then
    .error
      (.config
        ("Message Broker client: Can't sent message. " ++
          "Not connected to the server."))
  else if client.output = false then
    .error .undefined
  else
    match fault with
    | none => .ok message.serialize
    | some what =>
        .error (.system ("Message broker client: Can't sent message." ++ what))

/-! ## Handlers -/

/-- Register a handler.  A handler for a known type is ignored. -/
def registerHandler
    (type : List Char)
    (handler : Handler)
    (client : BrokerClient Handler) :
    Except BrokerError Unit × BrokerClient Handler :=
  if client.messageProcessing then
    (.error
        (.config
          ("Message Broker client: Can't register handler, " ++
            "message queue in process now.")),
      client)
  else if (client.handlersTbl.lookup type).isSome then
    (.ok (), client)
  else
    (.ok (),
      { client with handlersTbl := client.handlersTbl ++ [(type, handler)] })

/--
What `start_message_processing` does before its loop.  An exception of a
subscription is not caught.
-/
def beginProcessing
    (fault : Option String)
    (client : BrokerClient Handler) :
    Except BrokerError Unit × BrokerClient Handler :=
  if client.messageProcessing then
    (.error
        (.config
          ("Message Broker client: Can't start message processing, " ++
            "already running.")),
      client)
  else if client.connected = false then
    (.error
        (.config
          ("Message Broker client: Can't start message processing, " ++
            "Message Broker not connected.")),
      client)
  else if client.handlersTbl.isEmpty then
    (.error
        (.config
          ("Message Broker client: Can't start message processing, " ++
            "handlers table is empty.")),
      client)
  else if client.input = false then
    (.error .undefined, client)
  else
    match fault with
    | none => (.ok (), { client with messageProcessing := true })
    | some what => (.error (.zmq what), client)

/-- Stop processing messages. -/
def stopMessageProcessing
    (client : BrokerClient Handler) :
    BrokerClient Handler :=
  { client with messageProcessing := false }

/-! ## The loop -/

/--
The buffer after a message has been received: the message, as far as it fits,
in front of what was there before.
-/
def receive
    {size : Nat}
    (bytes : List Char)
    (buffer : Vector Char size) :
    Vector Char size :=
  Vector.ofFn fun index => bytes[index.val]?.getD buffer[index]

/--
`strstr(message_buffer, " ")`.  There is no position if the buffer has a NUL in
front of the first space or neither of them.
-/
def strstr (buffer : List Char) : Option Nat :=
  let front := buffer.takeWhile fun byte => byte ≠ ' ' && byte ≠ '\x00'
  if buffer[front.length]? = some ' ' then
    some front.length
  else
    none

/--
Pass the message in the buffer to its handler.  Without a position the type is
made from an invalid range.
-/
def dispatch
    (buffer : List Char)
    (messageSize : Nat)
    (client : BrokerClient Handler) :
    Except BrokerError (Option (HandlerCall Handler)) :=
  match strstr buffer with
  | none => .error .undefined
  | some msgTypeEnd =>
      let address := buffer.take msgTypeEnd
      let offset := msgTypeEnd + 1
      if 0 < messageSize then
        match client.handlersTbl.lookup address with
        | none =>
            .error
              (.config
                ("Message Broker client : Handle for " ++
                  String.ofList address ++ " not registered."))
        | some handler =>
            let inside := offset ≤ messageSize ∧ messageSize ≤ buffer.length
            let msg := (buffer.drop offset).take (messageSize - offset)
            .ok (some ⟨handler, if inside then some msg else none⟩)
      else
        .ok none

/-- The loop from a state of the buffer on. -/
def messageLoop
    {size : Nat}
    (client : BrokerClient Handler) :
    Vector Char size → List BrokerEvent → Processing Handler
  | _, [] => { calls := [], ended := .running }
  | buffer, .timeout :: later => client.messageLoop buffer later
  | _, .stop :: _ => { calls := [], ended := .returned }
  | buffer, .received bytes :: later =>
      let buffer := receive bytes buffer
      match client.dispatch buffer.toList bytes.length with
      | .error error => { calls := [], ended := .thrown error }
      | .ok call =>
          let rest := client.messageLoop buffer later
          { rest with calls := call.toList ++ rest.calls }
  | _, .receiveFails true :: _ => { calls := [], ended := .returned }
  | _, .receiveFails false :: _ =>
      { calls := []
        ended :=
          .thrown
            (.system
              "Message Broker client: Error while reading form socket.") }
  | _, .pollThrows what :: _ =>
      { calls := []
        ended :=
          .thrown
            (.system ("Message Broker: Error while polling input. " ++ what)) }

/--
Process messages.  The buffer is new memory with any contents.
-/
def startMessageProcessing
    (fault : Option String)
    (memory : Nat → Char)
    (events : List BrokerEvent)
    (client : BrokerClient Handler) :
    Processing Handler :=
  match client.beginProcessing fault with
  | (.error error, _) => { calls := [], ended := .thrown error }
  | (.ok (), client) =>
      let buffer : Vector Char client.bufferSize.toNat :=
        Vector.ofFn fun index => memory index.val
      client.messageLoop buffer events

end BrokerClient

end Radar
