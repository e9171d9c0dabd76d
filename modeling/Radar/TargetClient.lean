import Radar.FormatString
import Radar.RequestMessage

namespace Radar

/-!
# The client of the target environment

The state of the `Client` class and its functions.  What the operating system
and the server answer are inputs of the functions.  A socket that is still
connected cannot be connected again, and a socket without a connection cannot
be shut down.
-/

/--
The socket of a client: closed, open without a connection, or connected, in
which case the server may have registered the client.
-/
inductive ClientSocket where
  | closed
  | opened
  | connected (registered : Bool)
  deriving Repr, DecidableEq

/-- The state of a client. -/
structure Client where
  socket : ClientSocket
  serverEndpoint : Option (List Char × UInt16)
  connected : Bool
  configLoaded : Bool
  deriving Repr, DecidableEq

/-- The answer to a client that is registered. -/
def registerSuccessMsg : List Char :=
  "\x7b \"message\" : \"TE_RegisterSuccess\" \x7d\n".toList

/-- The answer to a client that is not registered. -/
def registerFailMsg : List Char :=
  "\x7b \"message\" : \"TE_RegisterFail\" \x7d\n".toList

/-- How connecting a socket and reading the first line end. -/
inductive ConnectResult where
  | openFails
  | refused
  | readFails
  | replied (res : List Char)
  deriving DecidableEq

/-- What the operating system answers when a connection is closed. -/
structure CloseFaults where
  shutdownFails : Bool := false
  closeFails : Bool := false
  deriving Repr, DecidableEq

/-- How sending a request and reading a line end. -/
inductive Exchange where
  | writeFails (faults : CloseFaults)
  | readFails (faults : CloseFaults)
  | replied (res : List Char)
  deriving DecidableEq

/-- What a request for targets returns, sends and leaves behind. -/
structure TargetsResult where
  code : Except Client.Failure ErrorCode
  sent : List (List Char)
  client : Client
  tbl : TargetTable

namespace Client

/-- A new client. -/
def new : Client where
  socket := .closed
  serverEndpoint := none
  connected := false
  configLoaded := false

/--
Load a configuration.  The exception for a text that is no address is not
caught.
-/
def loadConfig
    (isAddress : List Char → Bool)
    (conf : ConfigManager)
    (client : Client) :
    Except Failure ErrorCode × Client :=
  if client.connected then
    (.ok .systemError, client)
  else
    match conf.getSection "te_settings" with
    | .error _ => (.ok .configError, client)
    | .ok settings =>
        match ConfigManager.getValue string? settings "ip_address" with
        | .error _ => (.ok .configError, client)
        | .ok serverIp =>
            match ConfigManager.getValue Json.uint32? settings "port" with
            | .error _ => (.ok .configError, client)
            | .ok serverPort =>
                if isAddress serverIp then
                  (.ok .ok,
                    { client with
                      serverEndpoint := some (serverIp, serverPort.toUInt16)
                      configLoaded := true })
                else
                  (.error .thrown, client)

/-- Connect to the server. -/
def connect (result : ConnectResult) (client : Client) : ErrorCode × Client :=
  if client.connected then
    (.ok, client)
  else if client.configLoaded = false then
    (.systemError, client)
  else
    match client.socket with
    | .connected _ => (.systemError, client)
    | .closed | .opened =>
        match result with
        | .openFails => (.systemError, client)
        | .refused => (.systemError, { client with socket := .opened })
        | .readFails =>
            (.systemError, { client with socket := .connected false })
        | .replied res =>
            if res = registerSuccessMsg then
              (.ok,
                { client with socket := .connected true, connected := true })
            else if res = registerFailMsg then
              (.registerFail, { client with socket := .connected false })
            else
              (.systemError, { client with socket := .connected false })

/--
Close the connection.  An error of the shutdown ends the function early; the
socket is closed even if closing it reports an error.
-/
def closeClient (faults : CloseFaults) (client : Client) : ErrorCode × Client :=
  let client := { client with connected := false }
  match client.socket with
  | .connected _ =>
      if faults.shutdownFails then
        (.systemError, client)
      else if faults.closeFails then
        (.systemError, { client with socket := .closed })
      else
        (.ok, { client with socket := .closed })
  | .closed | .opened => (.systemError, client)

/-- Disconnect from the server. -/
def disconnect (faults : CloseFaults) (client : Client) : ErrorCode × Client :=
  client.closeClient faults

/--
Request the targets of an area.  The table is cleared before a list of targets
is read.
-/
def getTargets
    (parse : List Char → Option Json)
    (exchange : Exchange)
    (sa : SearchArea)
    (radarLoc : GCSPoint)
    (dur : UInt64)
    (client : Client)
    (tbl : TargetTable) :
    TargetsResult :=
  if client.connected = false then
    { code := .ok .requestFail, sent := [], client, tbl }
  else
    let sent := [Utils.formatted (RequestMsg.msg sa radarLoc dur.toInt64)]
    match exchange with
    | .writeFails faults =>
        { code := .ok .systemError
          sent
          client := (client.closeClient faults).2
          tbl }
    | .readFails faults =>
        { code := .ok .systemError
          sent
          client := (client.closeClient faults).2
          tbl }
    | .replied res =>
        if res = requestFailMsg then
          { code := .ok .requestFail, sent, client, tbl }
        else
          let read := deserialize parse res TargetTable.empty
          { code := read.1, sent, client, tbl := read.2 }

end Client

end Radar
