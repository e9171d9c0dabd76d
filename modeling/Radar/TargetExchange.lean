import Radar.RequestReading
import Radar.TargetClient

namespace Radar

/-!
# Clients and server of the target environment

A system of clients of one running server.  Each connection is a channel of
characters in both directions.  Characters arrive in pieces of any size, and
the calls of the clients, the accepts and the reads of the server follow each
other in any order.  Where the satellites are is different for each request
that is served, since the calls of `getPosition` depend on those before.
-/

open CatalogTle (Keo)
open LineFraming (firstLength)
open Server (LineResult OnRead Reading)

namespace TargetExchange

/-! ## One client and its connection -/

/-- The arguments of a call of `get_targets`. -/
structure Question where
  sa : SearchArea
  radarLoc : GCSPoint
  dur : UInt64
  tbl : TargetTable

/-- What the server has done with a connection. -/
inductive Stage where
  | waiting
  | reading
  | registered
  | refused
  deriving Repr, DecidableEq

/-- A connection: what is under way in both directions, and its read buffer. -/
structure Link where
  stage : Stage
  toServer : List Char
  toClient : List Char
  reading : Reading

/-- The call in which a client waits for a line, with its local buffer. -/
inductive Call where
  | idle
  | connecting (buff : List Char)
  | requesting (question : Question) (buff : List Char)

/-- A client, its connection and what its requests have returned. -/
structure Session where
  client : Client
  call : Call
  link : Option Link
  results : List (Question × TargetsResult)

/-- A connection that waits to be accepted. -/
def Link.new : Link where
  stage := .waiting
  toServer := []
  toClient := []
  reading := { Reading.new with started := false }

/-- A client that has done nothing yet. -/
def Session.new : Session where
  client := .new
  call := .idle
  link := none
  results := []

/-- The local buffer of a call that waits. -/
def Call.buff? : Call → Option (List Char)
  | .idle => none
  | .connecting buff => some buff
  | .requesting _ buff => some buff

/-- More characters in the local buffer. -/
def Call.receive (piece : List Char) : Call → Call
  | .idle => .idle
  | .connecting buff => .connecting (buff ++ piece)
  | .requesting question buff => .requesting question (buff ++ piece)

/-- The text that a call of `get_targets` sends. -/
def Question.msg (question : Question) : List Char :=
  Utils.formatted
    (RequestMsg.msg question.sa question.radarLoc question.dur.toInt64)

/-- The call of `get_targets` with its arguments. -/
def Question.getTargets
    (question : Question)
    (parse : List Char → Option Json)
    (exchange : Exchange)
    (client : Client) :
    TargetsResult :=
  client.getTargets parse exchange question.sa question.radarLoc
    question.dur question.tbl

/-- A call of `get_targets` has returned. -/
def Session.returned
    (session : Session)
    (question : Question)
    (result : TargetsResult) :
    Session :=
  { session with
    client := result.client
    call := .idle
    results := session.results ++ [(question, result)] }

/-! ## Steps -/

/-- What happens next on a connection. -/
inductive Action (Elements : Type) where
  | loadConfig (isAddress : List Char → Bool) (conf : ConfigManager)
  | connect
  | accept (registers : Bool)
  | register
  | ask (question : Question)
  | carryToServer (piece : List Char)
  | serve (ephemeris : Ephemeris Elements)
  | carryToClient (piece : List Char)
  | reply
  | fail (faults : CloseFaults)
  | disconnect (faults : CloseFaults)

section

variable {Elements : Type} (parse : List Char → Option Json)
variable (satelliteList : List (Keo Elements))

/-- The first line in the read buffer of a connection whose read is started. -/
structure HasLine (link : Link) (size : Nat) : Prop where
  started : link.reading.started = true
  found : firstLength '\n' link.reading.readBuffer = some size

/--
The steps of one client and its connection.  A read that is accepted is
started before the client is told that it is registered.  A call that fails
leaves its connection to the server, which can no longer reach the client.
-/
inductive SessionStep : Session → Action Elements → Session → Prop where
  | loadConfig
      {session : Session}
      (isAddress : List Char → Bool)
      (conf : ConfigManager)
      (idle : session.call = .idle) :
      SessionStep session (.loadConfig isAddress conf)
        { session with
          client := (session.client.loadConfig isAddress conf).2 }
  | connectEnds
      {session : Session}
      {result : ConnectResult}
      (idle : session.call = .idle)
      (notEstablished : result = .openFails ∨ result = .refused) :
      SessionStep session .connect
        { session with client := (session.client.connect result).2 }
  | connect
      {session : Session}
      (idle : session.call = .idle)
      (unconnected : session.client.connected = false)
      (configLoaded : session.client.configLoaded = true)
      (free : ∀ registered, session.client.socket ≠ .connected registered) :
      SessionStep session .connect
        { session with call := .connecting [], link := some .new }
  | accept
      {session : Session}
      {link : Link}
      (linked : session.link = some link)
      (waiting : link.stage = .waiting) :
      SessionStep session (.accept true)
        { session with
          link := some { link with stage := .reading, reading := .new } }
  | refuse
      {session : Session}
      {link : Link}
      (linked : session.link = some link)
      (waiting : link.stage = .waiting) :
      SessionStep session (.accept false)
        { session with
          link :=
            some
              { link with
                stage := .refused
                toClient := link.toClient ++ registerFailMsg } }
  | register
      {session : Session}
      {link : Link}
      (linked : session.link = some link)
      (reading : link.stage = .reading) :
      SessionStep session .register
        { session with
          link :=
            some
              { link with
                stage := .registered
                toClient := link.toClient ++ registerSuccessMsg } }
  | askUnconnected
      {session : Session}
      (question : Question)
      (idle : session.call = .idle)
      (unconnected : session.client.connected = false)
      (exchange : Exchange) :
      SessionStep session (.ask question)
        (session.returned question
          (question.getTargets parse exchange session.client))
  | ask
      {session : Session}
      {link : Link}
      (question : Question)
      (idle : session.call = .idle)
      (connected : session.client.connected = true)
      (linked : session.link = some link) :
      SessionStep session (.ask question)
        { session with
          call := .requesting question []
          link :=
            some
              { link with toServer := link.toServer ++ question.msg } }
  | carryToServer
      {session : Session}
      {link : Link}
      {piece later : List Char}
      (linked : session.link = some link)
      (started : link.reading.started = true)
      (noLine : firstLength '\n' link.reading.readBuffer = none)
      (underway : link.toServer = piece ++ later) :
      SessionStep session (.carryToServer piece)
        { session with
          link :=
            some
              { link with
                toServer := later
                reading :=
                  { link.reading with
                    readBuffer := link.reading.readBuffer ++ piece } } }
  | serve
      {session : Session}
      {link : Link}
      {size : Nat}
      {ephemeris : Ephemeris Elements}
      {result : LineResult}
      (linked : session.link = some link)
      (line : HasLine link size)
      (read :
        OnRead parse ephemeris satelliteList
          (link.reading.readBuffer.take size) (some result)) :
      SessionStep session (.serve ephemeris)
        { session with
          link :=
            some
              { link with
                toClient := link.toClient ++ result.sent
                reading :=
                  link.reading.onRead parse ephemeris satelliteList size } }
  | carryToClient
      {session : Session}
      {link : Link}
      {buff piece later : List Char}
      (linked : session.link = some link)
      (waits : session.call.buff? = some buff)
      (noLine : firstLength '\n' buff = none)
      (underway : link.toClient = piece ++ later) :
      SessionStep session (.carryToClient piece)
        { session with
          call := session.call.receive piece
          link := some { link with toClient := later } }
  | replyConnect
      {session : Session}
      {buff : List Char}
      {size : Nat}
      (call : session.call = .connecting buff)
      (line : firstLength '\n' buff = some size) :
      SessionStep session .reply
        { session with
          client := (session.client.connect (.replied (buff.take size))).2
          call := .idle }
  | replyRequest
      {session : Session}
      {question : Question}
      {buff : List Char}
      {size : Nat}
      (call : session.call = .requesting question buff)
      (line : firstLength '\n' buff = some size) :
      SessionStep session .reply
        (session.returned question
          (question.getTargets parse (.replied (buff.take size))
            session.client))
  | connectFails
      {session : Session}
      {buff : List Char}
      (call : session.call = .connecting buff)
      (faults : CloseFaults) :
      SessionStep session (.fail faults)
        { session with
          client := (session.client.connect .readFails).2
          call := .idle
          link := none }
  | requestFails
      {session : Session}
      {question : Question}
      {buff : List Char}
      {exchange : Exchange}
      {faults : CloseFaults}
      (call : session.call = .requesting question buff)
      (fails :
        exchange = .writeFails faults ∨ exchange = .readFails faults) :
      SessionStep session (.fail faults)
        { session.returned question
            (question.getTargets parse exchange session.client) with
          link := none }
  | disconnect
      {session : Session}
      (idle : session.call = .idle)
      (faults : CloseFaults) :
      SessionStep session (.disconnect faults)
        { session with
          client := (session.client.disconnect faults).2
          link := none }

/-! ## The system -/

/-- All clients; there is no bound on their number. -/
abbrev System := Nat → Session

/-- A system in which no client has done anything yet. -/
def System.new : System := fun _ => .new

/--
A step of the system is one of some client and its connection.  The end of the
server or its undefined behaviour may lead anywhere.
-/
inductive Step : System → Nat × Action Elements → System → Prop where
  | session
      {system : System}
      {index : Nat}
      {action : Action Elements}
      {next : Session}
      (step : SessionStep parse satelliteList (system index) action next) :
      Step system (index, action) (Function.update system index next)
  | undefined
      {system : System}
      {index size : Nat}
      {link : Link}
      {ephemeris : Ephemeris Elements}
      (linked : (system index).link = some link)
      (line : HasLine link size)
      (read :
        OnRead parse ephemeris satelliteList
          (link.reading.readBuffer.take size) none)
      (next : System) :
      Step system (index, .serve ephemeris) next

/-- Steps one after the other. -/
inductive Run : System → List (Nat × Action Elements) → System → Prop where
  | nil (system : System) : Run system [] system
  | cons
      {system middle next : System}
      {label : Nat × Action Elements}
      {labels : List (Nat × Action Elements)}
      (step : Step parse satelliteList system label middle)
      (run : Run middle labels next) :
      Run system (label :: labels) next

end

end TargetExchange

end Radar
