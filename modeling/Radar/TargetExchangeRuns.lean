import Mathlib.Logic.Relation
import Radar.TargetExchangePhases

namespace Radar.TargetExchange

/-!
# Every request is answered with its own targets

In every run of a system of clients and their server, whatever the order of
the steps and the pieces in which the texts arrive, a call that returns `OK`
has the targets of its own request, the local buffers of the clients lose
nothing, and a call that waits can always be answered.
-/

open CatalogTle (Keo)
open LineFraming (Terminated firstLength)
open Server (LineResult OnRead Reading)

variable {Elements : Type} {parser : Json.Parser}
variable {satelliteList : List (Keo Elements)}

/-! ## Safety -/

/--
All requests of each client are sent as they are, and with each of the given
skies the server finds satellites for them.
-/
structure AllAnswerable
    (satelliteList : List (Keo Elements))
    (questions : Nat → Set Question)
    (skies : Nat → Set (Ephemeris Elements)) :
    Prop where
  fits : ∀ index, ∀ question ∈ questions index, question.Fits
  answerable :
    ∀ index, ∀ question ∈ questions index, ∀ ephemeris ∈ skies index,
      Answerable ephemeris satelliteList question

/-- What a label asks and serves is among what is given. -/
structure Within
    (questions : Nat → Set Question)
    (skies : Nat → Set (Ephemeris Elements))
    (label : Nat × Action Elements) :
    Prop where
  asks :
    ∀ question, label.2 = .ask question → question ∈ questions label.1
  serves :
    ∀ ephemeris, label.2 = .serve ephemeris → ephemeris ∈ skies label.1

section

variable
  {questions : Nat → Set Question}
  {skies : Nat → Set (Ephemeris Elements)}

/-- A client that has done nothing yet is in order. -/
theorem orderly_new (index : Nat) :
    Orderly parser satelliteList (questions index) (skies index)
      Session.new where
  phase := .unconnected rfl nofun
  honest := by
    intro entry member
    cases member

/-- A step of the system keeps all clients in order. -/
theorem Step.orderly
    {system next : System}
    {label : Nat × Action Elements}
    (step : Step parser.parse satelliteList system label next)
    (orderly :
      ∀ index,
        Orderly parser satelliteList (questions index) (skies index)
          (system index))
    (all : AllAnswerable satelliteList questions skies)
    (within : Within questions skies label) :
    ∀ index,
      Orderly parser satelliteList (questions index) (skies index)
        (next index) := by
  cases step with
  | @session index action session step =>
      intro other
      by_cases same : other = index
      · subst same
        rw [Function.update_self]
        refine
          (orderly other).step step (all.fits other) within.asks
            fun ephemeris isServed => ?_
        have known := within.serves ephemeris isServed
        exact
          ⟨known, fun question isAsked =>
            all.answerable other question isAsked ephemeris known⟩
      · rw [Function.update_of_ne same]
        exact orderly other
  | @undefined index size link ephemeris linked line read next =>
      exfalso
      have phase := (orderly index).phase
      rw [linked] at phase
      obtain ⟨question, _, _, _, isAsked, sameLink, taken, -⟩ :=
        phase.of_hasLine (all.fits index) line
      rw [sameLink] at read
      dsimp only at read
      rw [taken] at read
      have known := within.serves ephemeris rfl
      obtain ⟨_, same, -⟩ :=
        (all.answerable index question isAsked ephemeris known).answer
          (all.fits index question isAsked) known read
      cases same

/-- Every run keeps all clients in order. -/
theorem Run.orderly
    {system next : System}
    {labels : List (Nat × Action Elements)}
    (run : Run parser.parse satelliteList system labels next)
    (orderly :
      ∀ index,
        Orderly parser satelliteList (questions index) (skies index)
          (system index))
    (all : AllAnswerable satelliteList questions skies)
    (within : ∀ label ∈ labels, Within questions skies label) :
    ∀ index,
      Orderly parser satelliteList (questions index) (skies index)
        (next index) := by
  induction run with
  | nil => exact orderly
  | cons step _ inductionHypothesis =>
      obtain ⟨first, later⟩ := List.forall_mem_cons.mp within
      exact inductionHypothesis (step.orderly orderly all first) later

end

/-- One run after another. -/
theorem Run.append
    {system middle next : System}
    {labels more : List (Nat × Action Elements)}
    (run : Run parser.parse satelliteList system labels middle)
    (onward : Run parser.parse satelliteList middle more next) :
    Run parser.parse satelliteList system (labels ++ more) next := by
  induction run with
  | nil => exact onward
  | cons step _ inductionHypothesis =>
      exact .cons step (inductionHypothesis onward)

/-- The requests that a client makes in a run. -/
def asked (labels : List (Nat × Action Elements)) (index : Nat) :
    Set Question :=
  { question | (index, .ask question) ∈ labels }

/-- Where the satellites are when requests of a client are served in a run. -/
def skies (labels : List (Nat × Action Elements)) (index : Nat) :
    Set (Ephemeris Elements) :=
  { ephemeris | (index, .serve ephemeris) ∈ labels }

/-- A run is within its own requests and skies. -/
theorem within_labels (labels : List (Nat × Action Elements)) :
    ∀ label ∈ labels, Within (asked labels) (skies labels) label := by
  rintro ⟨index, action⟩ member
  constructor
  · rintro question rfl
    exact member
  · rintro ephemeris rfl
    exact member

variable (satelliteList) in
/--
No text of a request in the run has exactly 1024 characters.  The catalogue
can be counted, and whenever requests of a client are served, some satellite is
in the area of each of its requests, and those in it have different numbers
and parameters that are sent as numbers.
-/
def AsksAnswerable (labels : List (Nat × Action Elements)) : Prop :=
  AllAnswerable satelliteList (asked labels) (skies labels)

/--
In every such run, when a client reads a line from its local buffer, nothing
is behind the line that the buffer could lose: neither in the buffer nor on
the connection nor in the read buffer of the server.
-/
theorem reply_losesNothing
    {system : System}
    {labels : List (Nat × Action Elements)}
    (run : Run parser.parse satelliteList System.new labels system)
    (answerable : AsksAnswerable satelliteList labels)
    {index size : Nat}
    {buff : List Char}
    (waits : (system index).call.buff? = some buff)
    (line : firstLength '\n' buff = some size) :
    buff.drop size = [] ∧
      ∃ link,
        (system index).link = some link ∧ link.toClient = [] ∧
          link.toServer = [] ∧ link.reading.readBuffer = [] := by
  have phase :=
    (run.orderly orderly_new answerable (within_labels labels) index).phase
  generalize (system index).client = client at phase
  generalize (system index).call = call at phase waits
  generalize (system index).link = connection at phase ⊢
  cases phase with
  | unconnected | quiet =>
      cases waits
  | waiting | reading | asked =>
      cases waits
      cases line
  | registered _ whole =>
      cases waits
      obtain ⟨rfl, -, -, dropped⟩ :=
        terminated_registerSuccessMsg.eq_of_firstLength whole line
      exact ⟨dropped, _, rfl, rfl, rfl, rfl⟩
  | refused _ whole =>
      cases waits
      obtain ⟨rfl, -, -, dropped⟩ :=
        terminated_registerFailMsg.eq_of_firstLength whole line
      exact ⟨dropped, _, rfl, rfl, rfl, rfl⟩
  | answered _ answer whole =>
      cases waits
      obtain ⟨rfl, -, -, dropped⟩ :=
        answer.terminated.eq_of_firstLength whole line
      exact ⟨dropped, _, rfl, rfl, rfl, rfl⟩

/-- A sky in which the only satellite is always in the area. -/
def clearSky : Ephemeris Unit where
  sectorCheck _ _ := true
  x _ _ := Vector.replicate 6 (.finite 6371000)
  y _ _ := Vector.replicate 6 (.finite 0)
  z _ _ := Vector.replicate 6 (.finite (-1 / 4))

/-- A catalogue of one satellite. -/
def oneSatellite : List (Keo Unit) :=
  [{ name := CatalogTle.noname, number := 25544, elements := () }]

/-- A request for it. -/
def firstQuestion : Question where
  sa := ⟨0, 0, 0, 3000000, 45, 25, 10, 40⟩
  radarLoc := ⟨44, -68, 100⟩
  dur := 14611968000000000
  tbl := TargetTable.empty

theorem fits_firstQuestion : firstQuestion.Fits := by
  unfold Question.Fits
  decide +kernel

theorem answerable_firstQuestion :
    Answerable clearSky oneSatellite firstQuestion where
  short := by decide
  found := by simp [Server.inSector, clearSky, oneSatellite]
  distinct := by simp [Server.inSector, clearSky, oneSatellite]
  printable := by
    have finite
        {value : Rat}
        (number : DecimalText.Double)
        (member : number ∈ Vector.replicate 6 (.finite value)) :
        number.isFinite = true := by
      rw [(Vector.mem_replicate.mp member).2]
      rfl
    intro item member
    have isOnly : item = oneSatellite.head (by decide) :=
      List.mem_singleton.mp (List.mem_filter.mp member).1
    rw [isOnly]
    refine ⟨⟨finite, finite, finite⟩, ?_⟩
    decide +kernel

/-- A run in which a client has received the answer to its connection. -/
theorem exists_run_registered :
    ∃ (labels : List (Nat × Action Unit)) (system : System),
      Run Json.Parser.recursiveDescent.parse oneSatellite System.new labels
          system ∧
        AsksAnswerable oneSatellite labels ∧
        (system 0).call = .connecting registerSuccessMsg := by
  refine
    ⟨[(0, .loadConfig (fun _ => true) (Server.settings 100)), (0, .connect),
      (0, .accept true), (0, .register), (0, .carryToClient _)], _,
      .cons (.session (.loadConfig _ _ rfl)) <|
        .cons (.session (.connect rfl rfl rfl nofun)) <|
          .cons (.session (.accept rfl rfl)) <|
            .cons (.session (.register rfl rfl)) <|
              .cons (.session (.carryToClient rfl rfl rfl
                (List.append_nil _).symm)) (.nil _), ?_, rfl⟩
  constructor <;> simp [asked]

/-- In that run the answer is all there is. -/
theorem reply_losesNothing_registered :
    ∃ (labels : List (Nat × Action Unit)) (system : System),
      Run Json.Parser.recursiveDescent.parse oneSatellite System.new labels
          system ∧
        (system 0).call.buff? = some registerSuccessMsg ∧
        ∃ link,
          (system 0).link = some link ∧ link.toClient = [] ∧
            link.toServer = [] ∧ link.reading.readBuffer = [] := by
  obtain ⟨labels, system, run, answerable, isCall⟩ := exists_run_registered
  have waits : (system 0).call.buff? = some registerSuccessMsg := by
    rw [isCall]
    rfl
  have line : firstLength '\n' registerSuccessMsg = some 37 := by
    decide
  exact
    ⟨labels, system, run, waits,
      (reply_losesNothing run answerable waits line).2⟩

variable (parser satelliteList) in
/-- A run in which a client has sent its request. -/
theorem Question.Fits.exists_run_asked
    {question : Question}
    (fits : question.Fits) :
    ∃ (labels : List (Nat × Action Elements)) (system : System),
      Run parser.parse satelliteList System.new labels system ∧
        (∀ index, ∀ other ∈ asked labels index, other = question) ∧
        (∀ index, skies labels index = ∅) ∧
        AsksAnswerable satelliteList labels ∧
        (system 0).call = .requesting question [] := by
  refine
    ⟨[(0, .loadConfig (fun _ => true) (Server.settings 100)), (0, .connect),
      (0, .accept true), (0, .register), (0, .carryToClient _), (0, .reply),
      (0, .ask question)], _,
      .cons (.session (.loadConfig _ _ rfl)) <|
        .cons (.session (.connect rfl rfl rfl nofun)) <|
          .cons (.session (.accept rfl rfl)) <|
            .cons (.session (.register rfl rfl)) <|
              .cons (.session (.carryToClient rfl rfl rfl
                (List.append_nil _).symm)) <|
                .cons (.session (.replyConnect rfl rfl)) <|
                  .cons (.session (.ask question rfl rfl rfl)) (.nil _),
      ?_, ?_, ⟨?_, ?_⟩, rfl⟩
  · simp [asked]
  · simp [skies]
  · simpa [asked] using fits
  · simp [skies]

/-! ## Progress -/

/--
Steps that the caller of a client has no part in, and no failure.  Requests
are served with a given sky.
-/
def Action.Delivers (ephemeris : Ephemeris Elements) :
    Action Elements → Prop
  | .serve other => other = ephemeris
  | .accept _ | .register | .carryToServer _ | .carryToClient _ | .reply =>
      True
  | .loadConfig _ _ | .connect | .ask _ | .fail _ | .disconnect _ => False

variable (parser satelliteList) in
/-- One such step of a client and its connection. -/
def Delivers (ephemeris : Ephemeris Elements) (session next : Session) :
    Prop :=
  ∃ action : Action Elements, action.Delivers ephemeris ∧
    SessionStep parser.parse satelliteList session action next

section

variable {ephemeris : Ephemeris Elements}

/-- Such steps of one client are a run of the system. -/
theorem Run.of_delivers
    {index : Nat}
    {session later : Session}
    (steps :
      Relation.ReflTransGen (Delivers parser satelliteList ephemeris) session
        later) :
    ∀ system : System, system index = session →
      ∃ labels,
        Run parser.parse satelliteList system labels
          (Function.update system index later) ∧
        ∀ label ∈ labels, label.1 = index ∧ label.2.Delivers ephemeris := by
  induction steps using Relation.ReflTransGen.head_induction_on with
  | refl =>
      rintro system rfl
      refine ⟨[], ?_, by simp⟩
      rw [Function.update_eq_self]
      exact .nil system
  | @head session middle step _ inductionHypothesis =>
      rintro system rfl
      obtain ⟨action, delivers, step⟩ := step
      obtain ⟨labels, run, all⟩ :=
        inductionHypothesis (Function.update system index middle)
          (Function.update_self ..)
      rw [Function.update_idem] at run
      exact
        ⟨(index, action) :: labels, .cons (.session step) run,
          List.forall_mem_cons.mpr ⟨⟨rfl, delivers⟩, all⟩⟩

variable
  {client : Client}
  {results : List (Question × TargetsResult)}
  {link : Link}

/-- All that is under way to a waiting client can arrive. -/
theorem delivers_toClient
    {call : Call}
    {buff record : List Char}
    (waits : call.buff? = some buff)
    (terminated : Terminated '\n' record)
    (whole : buff ++ link.toClient = record) :
    Relation.ReflTransGen (Delivers parser satelliteList ephemeris)
      ⟨client, call, some link, results⟩
      ⟨client, call.receive link.toClient, some { link with toClient := [] },
        results⟩ := by
  cases line : firstLength '\n' buff with
  | none =>
      exact
        .single
          ⟨.carryToClient link.toClient, trivial,
            .carryToClient rfl waits line (List.append_nil _).symm⟩
  | some size =>
      obtain ⟨nothing, -⟩ := terminated.eq_of_firstLength whole line
      have sameCall : call.receive [] = call := by
        cases call with
        | idle => rfl
        | connecting buff | requesting _ buff =>
            simp [Call.receive]
      have sameLink : { link with toClient := [] } = link := by
        rw [← nothing]
      rw [nothing, sameCall, sameLink]

/-- All that is under way to the server can arrive. -/
theorem delivers_toServer
    {call : Call}
    {record : List Char}
    (started : link.reading.started = true)
    (terminated : Terminated '\n' record)
    (whole : link.reading.readBuffer ++ link.toServer = record) :
    Relation.ReflTransGen (Delivers parser satelliteList ephemeris)
      ⟨client, call, some link, results⟩
      ⟨client, call,
        some
          { link with
            toServer := []
            reading := { link.reading with readBuffer := record } },
        results⟩ := by
  cases line : firstLength '\n' link.reading.readBuffer with
  | none =>
      subst whole
      exact
        .single
          ⟨.carryToServer link.toServer, trivial,
            .carryToServer rfl started line (List.append_nil _).symm⟩
  | some size =>
      obtain ⟨nothing, same, -⟩ := terminated.eq_of_firstLength whole line
      rw [← same, ← nothing]

/-- A record that has arrived is a line. -/
theorem exists_firstLength
    {record : List Char}
    (terminated : Terminated '\n' record) :
    ∃ size,
      firstLength '\n' record = some size ∧ record.take size = record := by
  obtain ⟨size, found⟩ :=
    terminated.firstLength_append (List.append_nil record)
  rw [List.append_nil] at found
  obtain ⟨-, -, taken, -⟩ :=
    terminated.eq_of_firstLength (List.append_nil record) found
  exact ⟨size, found, taken⟩

variable (parser satelliteList ephemeris) in
/-- The call can return without any further step of its caller. -/
def CanReturn (session : Session) : Prop :=
  ∃ later,
    Relation.ReflTransGen (Delivers parser satelliteList ephemeris) session
        later ∧
      later.call = .idle ∧
      ∀ question buff, session.call = .requesting question buff →
        ∃ result,
          later.results = session.results ++ [(question, result)] ∧
            result.code = .ok .ok

theorem CanReturn.of_delivers
    {session middle : Session}
    (steps :
      Relation.ReflTransGen (Delivers parser satelliteList ephemeris)
        session middle)
    (sameResults : middle.results = session.results)
    (sameQuestion :
      ∀ question buff, session.call = .requesting question buff →
        ∃ buff, middle.call = .requesting question buff)
    (canReturn : CanReturn parser satelliteList ephemeris middle) :
    CanReturn parser satelliteList ephemeris session := by
  obtain ⟨later, more, idle, returns⟩ := canReturn
  refine ⟨later, steps.trans more, idle, ?_⟩
  intro question buff isCall
  obtain ⟨buff, isCall⟩ := sameQuestion question buff isCall
  rw [← sameResults]
  exact returns question buff isCall

/-- The line that tells a client whether it is registered can be read. -/
theorem canReturn_connecting
    {buff record : List Char}
    (terminated : Terminated '\n' record)
    (whole : buff ++ link.toClient = record) :
    CanReturn parser satelliteList ephemeris
      ⟨client, .connecting buff, some link, results⟩ := by
  obtain ⟨size, found, -⟩ := exists_firstLength terminated
  have arrived :
      Relation.ReflTransGen (Delivers parser satelliteList ephemeris)
        ⟨client, .connecting buff, some link, results⟩ _ :=
    delivers_toClient rfl terminated whole
  rw [Call.receive, whole] at arrived
  refine ⟨_, arrived.tail ⟨.reply, trivial, .replyConnect rfl found⟩, rfl, ?_⟩
  rintro question buff ⟨⟩

/-- The answer to a request can be read. -/
theorem canReturn_answered
    {question : Question}
    {buff text : List Char}
    (connected : client.connected = true)
    {sky : Set (Ephemeris Elements)}
    (answer : Answer parser satelliteList sky question text)
    (whole : buff ++ link.toClient = text) :
    CanReturn parser satelliteList ephemeris
      ⟨client, .requesting question buff, some link, results⟩ := by
  obtain ⟨size, found, taken⟩ := exists_firstLength answer.terminated
  have arrived :
      Relation.ReflTransGen (Delivers parser satelliteList ephemeris)
        ⟨client, .requesting question buff, some link, results⟩ _ :=
    delivers_toClient rfl answer.terminated whole
  rw [Call.receive, whole] at arrived
  refine ⟨_, arrived.tail ⟨.reply, trivial, .replyRequest rfl found⟩, rfl, ?_⟩
  rintro _ _ ⟨⟩
  obtain ⟨_, -, read⟩ := answer.read
  obtain ⟨tbl, -, result⟩ := read client connected
  refine ⟨_, rfl, ?_⟩
  dsimp only
  rw [taken, result]

/-- A request can be served, and its answer can be read. -/
theorem canReturn_asked
    {question : Question}
    (connected : client.connected = true)
    {record : List Char}
    (terminated : Terminated '\n' record)
    {result : LineResult}
    (read :
      OnRead parser.parse ephemeris satelliteList record (some result))
    {sky : Set (Ephemeris Elements)}
    (answer : Answer parser satelliteList sky question result.sent)
    (started : link.reading.started = true)
    (whole : link.reading.readBuffer ++ link.toServer = record)
    (nothing : link.toClient = []) :
    CanReturn parser satelliteList ephemeris
      ⟨client, .requesting question [], some link, results⟩ := by
  obtain ⟨size, found, taken⟩ := exists_firstLength terminated
  have arrived :
      Relation.ReflTransGen (Delivers parser satelliteList ephemeris)
        ⟨client, .requesting question [], some link, results⟩ _ :=
    delivers_toServer started terminated whole
  have isServed :=
    arrived.tail
      ⟨.serve ephemeris, rfl,
        .serve rfl ⟨started, found⟩ (by rw [taken]; exact read)⟩
  refine CanReturn.of_delivers isServed rfl ?_
    (canReturn_answered connected answer ?_)
  · rintro _ _ ⟨⟩
    exact ⟨_, rfl⟩
  · rw [nothing]
    rfl

/-- In every phase a call that waits can return. -/
theorem Phase.canReturn
    {call : Call}
    {connection : Option Link}
    {questions : Set Question}
    {sky : Set (Ephemeris Elements)}
    (phase :
      Phase parser satelliteList questions sky client call connection)
    (fits : ∀ question ∈ questions, question.Fits)
    (answerable :
      ∀ question ∈ questions, Answerable ephemeris satelliteList question) :
    CanReturn parser satelliteList ephemeris
      ⟨client, call, connection, results⟩ := by
  have registering :
      CanReturn parser satelliteList ephemeris
        ⟨client, .connecting [],
          some ⟨.reading, [], [], ⟨[], [], true⟩⟩, results⟩ := by
    refine
      .of_delivers (.single ⟨.register, trivial, .register rfl rfl⟩) rfl ?_
        (canReturn_connecting terminated_registerSuccessMsg rfl)
    rintro _ _ ⟨⟩
  cases phase with
  | unconnected | quiet =>
      refine ⟨_, .refl, rfl, ?_⟩
      rintro _ _ ⟨⟩
  | waiting =>
      refine
        .of_delivers (.single ⟨.accept true, trivial, .accept rfl rfl⟩) rfl ?_
          registering
      rintro _ _ ⟨⟩
  | reading =>
      exact registering
  | registered _ whole =>
      exact canReturn_connecting terminated_registerSuccessMsg whole
  | refused _ whole =>
      exact canReturn_connecting terminated_registerFailMsg whole
  | asked connected isAsked whole =>
      obtain ⟨result, read⟩ :=
        (answerable _ isAsked).exists_onRead (fits _ isAsked)
      obtain ⟨_, same, answer⟩ :=
        (answerable _ isAsked).answer (fits _ isAsked)
          (Set.mem_singleton ephemeris) read
      cases same
      exact
        canReturn_asked connected (fits _ isAsked).terminated_msg read answer
          rfl whole rfl
  | answered connected answer whole =>
      exact canReturn_answered connected answer whole

/--
No call is stuck.  In every run in which all requests find satellites with
different numbers and finite parameters, and all texts are sent as they are,
and for each client whose call waits, the network and the server alone can
lead to a state in which the call has returned and no other client has
changed, wherever the satellites are then, if its requests find some.  If it
is a call of `get_targets`, then it has returned `OK`.
-/
theorem call_canReturn
    {system : System}
    {labels : List (Nat × Action Elements)}
    (run : Run parser.parse satelliteList System.new labels system)
    (answerable : AsksAnswerable satelliteList labels)
    {index : Nat}
    {ephemeris : Ephemeris Elements}
    (found :
      ∀ question ∈ asked labels index,
        Answerable ephemeris satelliteList question) :
    ∃ more later,
      Run parser.parse satelliteList system more later ∧
        (∀ label ∈ more, label.1 = index ∧ label.2.Delivers ephemeris) ∧
        (later index).call = .idle ∧
        (∀ other, other ≠ index → later other = system other) ∧
        ∀ question buff,
          (system index).call = .requesting question buff →
            ∃ result,
              (later index).results =
                  (system index).results ++ [(question, result)] ∧
                result.code = .ok .ok := by
  have phase :=
    (run.orderly orderly_new answerable (within_labels labels) index).phase
  obtain ⟨session, steps, idle, returns⟩ :=
    phase.canReturn (answerable.fits index) found
  obtain ⟨more, onward, all⟩ := Run.of_delivers steps system rfl
  refine ⟨more, _, onward, all, ?_, ?_, ?_⟩
  · rw [Function.update_self]
    exact idle
  · intro other different
    exact Function.update_of_ne different ..
  · intro question buff isCall
    rw [Function.update_self]
    exact returns question buff isCall

/-- The client that has sent its request can be answered. -/
theorem call_canReturn_asked :
    ∃ (system : System) (more : List (Nat × Action Unit)) (later : System),
      Run Json.Parser.recursiveDescent.parse oneSatellite system more later ∧
        (system 0).call = .requesting firstQuestion [] ∧
        (later 0).call = .idle := by
  obtain ⟨labels, system, run, only, -, answerable, isCall⟩ :=
    fits_firstQuestion.exists_run_asked .recursiveDescent oneSatellite
  have found :
      ∀ question ∈ asked labels 0,
        Answerable clearSky oneSatellite question := by
    intro question isAsked
    rw [only 0 question isAsked]
    exact answerable_firstQuestion
  obtain ⟨more, later, onward, -, idle, -⟩ :=
    call_canReturn run answerable found
  exact ⟨system, more, later, onward, isCall, idle⟩

variable (parser) in
/-- A run in which a client has been answered. -/
theorem Answerable.exists_run_answered
    {question : Question}
    (answerable : Answerable ephemeris satelliteList question)
    (fits : question.Fits) :
    ∃ labels system result,
      Run parser.parse satelliteList System.new labels system ∧
        AsksAnswerable satelliteList labels ∧
        (∀ index, skies labels index ⊆ {ephemeris}) ∧
        (question, result) ∈ (system 0).results ∧ result.code = .ok .ok := by
  obtain ⟨labels, system, run, only, none, allAnswerable, isCall⟩ :=
    fits.exists_run_asked parser satelliteList
  have phase :=
    (run.orderly orderly_new allAnswerable (within_labels labels) 0).phase
  have found :
      ∀ other ∈ asked labels 0, Answerable ephemeris satelliteList other := by
    intro other isAsked
    rw [only 0 other isAsked]
    exact answerable
  obtain ⟨session, steps, -, returns⟩ :=
    phase.canReturn (allAnswerable.fits 0) found
  obtain ⟨more, onward, delivers⟩ := Run.of_delivers steps system rfl
  obtain ⟨result, results, code⟩ := returns _ _ isCall
  have onlyAsked
      (index : Nat)
      (other : Question)
      (isAsked : other ∈ asked (labels ++ more) index) :
      other = question := by
    rcases List.mem_append.mp isAsked with before | after
    · exact only index other before
    · exact (delivers _ after).2.elim
  have onlySky (index : Nat) : skies (labels ++ more) index ⊆ {ephemeris} := by
    intro other isServed
    rcases List.mem_append.mp isServed with before | after
    · have inLabels : other ∈ skies labels index := before
      rw [none index] at inLabels
      exact inLabels.elim
    · exact (delivers _ after).2
  refine
    ⟨labels ++ more, _, result, run.append onward, ⟨?_, ?_⟩, onlySky, ?_,
      code⟩
  · intro index other isAsked
    rw [onlyAsked index other isAsked]
    exact fits
  · intro index other isAsked known isServed
    rw [onlyAsked index other isAsked,
      Set.mem_singleton_iff.mp (onlySky index isServed)]
    exact answerable
  · rw [Function.update_self, results]
    exact List.mem_append_right _ List.mem_cons_self

end

end Radar.TargetExchange
