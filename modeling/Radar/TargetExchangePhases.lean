import Radar.ClientReplies
import Radar.RequestRoundTrip
import Radar.TargetExchange

namespace Radar

/-!
# The phases of a connection

A client sends one request and waits for one line, and the server sends one
line for each line that it reads.  In every phase of a connection at most one
line is under way, and every step leads from a phase to a phase.
-/

open CatalogTle (Keo)
open LineFraming (Terminated firstLength)
open DecimalText (Double)
open Server (LineResult OnRead ProcessRequest Reading inSector computeParams)

/-! ## The messages are lines -/

namespace TargetsListMsg

open RequestMsg (not_newline_of_isDigit)

/-- A number is printed without a line break. -/
theorem newline_notMem_unsigned (value : UInt32) :
    '\n' ∉ unsigned value := fun member =>
  not_newline_of_isDigit
    ((Digits.ofNat value.toNat).areDigits _ member) rfl

/-- Texts and separators without a line break are joined without one. -/
theorem newline_notMem_intercalate
    {separator : List Char}
    {texts : List (List Char)}
    (inSeparator : '\n' ∉ separator)
    (inTexts : ∀ text ∈ texts, '\n' ∉ text) :
    '\n' ∉ separator.intercalate texts := by
  induction texts with
  | nil => simp
  | cons text later inductionHypothesis =>
      obtain ⟨inText, inLater⟩ := List.forall_mem_cons.mp inTexts
      cases later with
      | nil => simpa using inText
      | cons next others =>
          rw [List.intercalate_cons_cons]
          simp [inText, inSeparator, inductionHypothesis inLater]

theorem newline_notMem_coordinates
    {Number : Type}
    {fixed : Number → List Char}
    (inNumbers : ∀ number, '\n' ∉ fixed number)
    (values : Vector Number 6) :
    '\n' ∉ coordinates fixed values := by
  apply newline_notMem_intercalate (by decide)
  intro text member
  obtain ⟨value, -, rfl⟩ := List.mem_map.mp member
  exact inNumbers value

/-- The text of a target has no line break. -/
theorem newline_notMem_itemText
    {Number : Type}
    {fixed : Number → List Char}
    (inNumbers : ∀ number, '\n' ∉ fixed number)
    (targetId : UInt32)
    (x y z : Vector Number 6) :
    '\n' ∉ itemText fixed targetId x y z := by
  have noneInId : (unsigned targetId).count '\n' = 0 :=
    List.count_eq_zero.mpr (newline_notMem_unsigned _)
  have noneInCoordinates (values : Vector Number 6) :
      (coordinates fixed values).count '\n' = 0 :=
    List.count_eq_zero.mpr (newline_notMem_coordinates inNumbers values)
  rw [← List.count_eq_zero]
  unfold itemText
  simp only [List.count_append, noneInId, noneInCoordinates]
  rfl

section

variable
  {Item : Type}
  {targetId : Item → UInt32}
  {itemBuff : Item → List Char}
  {targets : List Item}

/-- The message of a list of targets is one line. -/
theorem terminated_listText
    (notEmpty : targets ≠ [])
    (inItems : ∀ item ∈ targets, '\n' ∉ itemBuff item) :
    Terminated '\n' (listText targetId itemBuff targets notEmpty) := by
  have noneInSize :
      (unsigned (UInt32.ofNat targets.length)).count '\n' = 0 :=
    List.count_eq_zero.mpr (newline_notMem_unsigned _)
  have noneInItems :
      (targets.flatMap
          (separated targetId itemBuff (targets.getLast notEmpty))).count
          '\n' =
        0 := by
    rw [List.count_eq_zero, List.mem_flatMap]
    rintro ⟨item, member, inText⟩
    rw [separated] at inText
    split at inText
    · rcases List.mem_append.mp inText with inItem | inSeparator
      · exact inItems item member inItem
      · exact absurd inSeparator (by decide)
    · exact inItems item member inText
  apply Terminated.of_count
  · unfold listText
    simp only [List.count_append, noneInSize, noneInItems]
    rfl
  · unfold listText
    rw [List.getLast?_append]
    rfl

/-- It is not the answer to a request that cannot be processed. -/
theorem listText_ne_requestFailMsg (notEmpty : targets ≠ []) :
    listText targetId itemBuff targets notEmpty ≠ requestFailMsg := by
  intro same
  have letter :=
    congrArg
      (fun text => ("TE_T".toList.isPrefixOf (text.drop 15) : Bool)) same
  cases letter

end

end TargetsListMsg

/-- A computed target is sent without a line break. -/
theorem ComputedTarget.newline_notMem_itemBuff
    {target : ComputedTarget}
    (fits : target.text.length ≠ 1024) :
    '\n' ∉ target.itemBuff := by
  have inNumbers (value : Double) : '\n' ∉ value.printFixed 8 := by
    cases value with
    | finite value => exact RequestMsg.newline_notMem_fixed value
    | negativeZero =>
        exact
          List.not_mem_cons_of_ne_of_not_mem (by decide)
            (RequestMsg.newline_notMem_fixed 0)
    | infinite negative | nan negative => cases negative <;> decide
  rw [itemBuff, Utils.formatted, if_neg fits]
  exact TargetsListMsg.newline_notMem_itemText inNumbers _ _ _ _

/-- The text of a request is one line. -/
theorem RequestMsg.terminated_msg
    (sa : SearchArea)
    (radarLoc : GCSPoint)
    (time : Int64) :
    Terminated '\n' (msg sa radarLoc time) :=
  .of_count (count_newline_msg ..) (getLast?_msg ..)

theorem terminated_registerSuccessMsg :
    Terminated '\n' registerSuccessMsg :=
  .of_count (by decide) (by decide)

theorem terminated_registerFailMsg : Terminated '\n' registerFailMsg :=
  .of_count (by decide) (by decide)

namespace TargetExchange

/-! ## What a request is answered with -/

section

variable {Elements : Type} (parser : Json.Parser)
variable (ephemeris : Ephemeris Elements) (satelliteList : List (Keo Elements))
variable (sky : Set (Ephemeris Elements))

/-- The request that the server reads from it: the printed numbers. -/
def Question.request (question : Question) : Request where
  sa := question.sa.printed
  radarLoc := question.radarLoc.printed
  time := question.dur

/-- The text of the request is sent as it is. -/
def Question.Fits (question : Question) : Prop :=
  (RequestMsg.msg question.sa question.radarLoc
    question.dur.toInt64).length ≠ 1024

/-- The targets that a request finds, with the coordinates as printed. -/
def Question.targets (question : Question) : List Target :=
  (inSector ephemeris satelliteList question.request).map fun item =>
    (computeParams ephemeris question.request item).toTarget.printed

/--
The catalogue can be counted, some satellite is in the area, and those in it
have different numbers and parameters that are sent as numbers.
-/
structure Answerable (question : Question) : Prop where
  short : satelliteList.length < 2147483648
  found : inSector ephemeris satelliteList question.request ≠ []
  distinct :
    ((inSector ephemeris satelliteList question.request).map
      Keo.number).Nodup
  printable :
    ∀ item ∈ inSector ephemeris satelliteList question.request,
      (computeParams ephemeris question.request item).Printable

/--
A call of `get_targets` has returned `OK` and the table of its own targets,
where the satellites have been found at one of the given times, or a failure
for lack of a connection, and then the table is the one before.
-/
def Honest (question : Question) (result : TargetsResult) : Prop :=
  (result.code = .ok .ok ∧
      ∃ ephemeris ∈ sky,
        result.tbl.Holds (question.targets ephemeris satelliteList)) ∨
    (result.code = .ok .requestFail ∨ result.code = .ok .systemError) ∧
      result.tbl = question.tbl ∧ result.client.connected = false

/-- An answer to a request: one line that the client reads as its targets. -/
structure Answer (question : Question) (text : List Char) : Prop where
  terminated : Terminated '\n' text
  read :
    ∃ ephemeris ∈ sky,
      ∀ client : Client, client.connected = true →
        ∃ tbl : TargetTable,
          tbl.Holds (question.targets ephemeris satelliteList) ∧
            question.getTargets parser.parse (.replied text) client =
              { code := .ok .ok, sent := [question.msg], client, tbl }

variable {parser ephemeris satelliteList sky}

/-- The numbers of the targets are those of the satellites. -/
theorem Answerable.distinct_targets
    {question : Question}
    (answerable : Answerable ephemeris satelliteList question)
    {targets : List ComputedTarget}
    (gathered :
      targets.Perm
        ((inSector ephemeris satelliteList question.request).map
          (computeParams ephemeris question.request))) :
    targets ≠ [] ∧ (targets.map ComputedTarget.targetId).Nodup ∧
      targets.length < 2147483648 := by
  have sized := gathered.length_eq
  rw [List.length_map] at sized
  have positive := List.length_pos_iff.mpr answerable.found
  refine ⟨List.length_pos_iff.mp (by omega), ?_, ?_⟩
  · rw [(gathered.map ComputedTarget.targetId).nodup_iff,
      Server.map_targetId]
    exact answerable.distinct
  · rw [sized]
    exact (List.length_filter_le _ _).trans_lt answerable.short

/-- So they are sent as values. -/
theorem Answerable.printable_targets
    {question : Question}
    (answerable : Answerable ephemeris satelliteList question)
    {targets : List ComputedTarget}
    (gathered :
      targets.Perm
        ((inSector ephemeris satelliteList question.request).map
          (computeParams ephemeris question.request))) :
    ∀ target ∈ targets, target.Printable := by
  intro target member
  obtain ⟨item, inArea, rfl⟩ := List.mem_map.mp (gathered.mem_iff.mp member)
  exact answerable.printable item inArea

/-- The client reads the message of gathered targets into a table of them. -/
theorem Answerable.answer_listText
    {question : Question}
    (answerable : Answerable ephemeris satelliteList question)
    (known : ephemeris ∈ sky)
    {targets : List ComputedTarget}
    (gathered :
      targets.Perm
        ((inSector ephemeris satelliteList question.request).map
          (computeParams ephemeris question.request)))
    (notEmpty : targets ≠ []) :
    Answer parser satelliteList sky question
      (TargetsListMsg.listText ComputedTarget.targetId
        ComputedTarget.itemBuff targets notEmpty) := by
  obtain ⟨_, distinct, short⟩ := answerable.distinct_targets gathered
  have printable := answerable.printable_targets gathered
  have sizeNotZero :
      UInt32.ofNat (targets.map ComputedTarget.toTarget).length ≠ 0 := by
    intro zero
    rw [List.length_map] at zero
    have low := congrArg UInt32.toNat zero
    rw [UInt32.toNat_ofNat_of_lt' (short.trans (by decide)),
      UInt32.toNat_zero] at low
    exact notEmpty (List.length_eq_zero_iff.mp low)
  have read :=
    Client.deserialize_of_document parser
      (TargetsListMsg.document_computed notEmpty distinct printable)
      TargetTable.empty
  rw [if_neg sizeNotZero, List.map_map] at read
  have printedIds :
      (targets.map (Target.printed ∘ ComputedTarget.toTarget)).map
          Target.targetId =
        targets.map ComputedTarget.targetId := by
    rw [List.map_map]
    rfl
  have holds :
      (TargetTable.empty.addTargets
          (targets.map (Target.printed ∘ ComputedTarget.toTarget))).Holds
        (question.targets ephemeris satelliteList) := by
    intro id item
    have sameTargets :
        item ∈ question.targets ephemeris satelliteList ↔
          item ∈
            targets.map (Target.printed ∘ ComputedTarget.toTarget) := by
      rw [(gathered.map _).mem_iff, List.map_map]
      rfl
    rw [sameTargets,
      TargetTable.tbl_addTargets (printedIds ▸ distinct) fun _ _ => rfl]
    simp [TargetTable.empty]
  refine ⟨TargetsListMsg.terminated_listText notEmpty ?_, ephemeris, known, ?_⟩
  · intro target member
    exact
      ComputedTarget.newline_notMem_itemBuff (printable target member).fits
  · intro client connected
    refine ⟨_, holds, ?_⟩
    rw [Question.getTargets, Client.getTargets, if_neg (by simp [connected])]
    simp only [TargetsListMsg.listText_ne_requestFailMsg notEmpty, if_false,
      read]
    rfl

/-- The line of a request that fits is read as the request. -/
theorem Question.Fits.onLine_msg
    (parser : Json.Parser)
    {question : Question}
    (fits : question.Fits) :
    Server.onLine parser.parse question.msg =
      .ok (.request question.request) := by
  have line :=
    Server.onLine_msg parser question.sa question.radarLoc
      question.dur.toInt64
  rw [UInt64.toUInt64_toInt64] at line
  rw [Question.msg, Utils.formatted, if_neg fits]
  exact line

/-- What the server makes of an answerable request is an answer to it. -/
theorem Answerable.answer
    {question : Question}
    (answerable : Answerable ephemeris satelliteList question)
    (fits : question.Fits)
    (known : ephemeris ∈ sky)
    {result : Option LineResult}
    (read :
      OnRead parser.parse ephemeris satelliteList question.msg result) :
    ∃ line,
      result = some line ∧
        Answer parser satelliteList sky question line.sent := by
  have line := fits.onLine_msg parser
  cases read with
  | aborted other | failed other =>
      rw [line] at other
      cases other
  | @undefined request other undefined =>
      rw [line] at other
      cases other
      exact
        absurd undefined
          (Server.not_processRequest_none_iff.mpr
            ⟨answerable.found, answerable.short⟩)
  | @answered request text other processed =>
      rw [line] at other
      cases other
      refine ⟨_, rfl, ?_⟩
      generalize same : some text = result at processed
      cases processed with
      | overflow long =>
          exact absurd answerable.short (Nat.not_lt.mpr long)
      | @finished targets _ gathered =>
          have notEmpty := (answerable.distinct_targets gathered).1
          rw [TargetsListMsg.build, dif_pos notEmpty, Option.some.injEq]
            at same
          subst same
          exact answerable.answer_listText known gathered notEmpty

/-- There is an answer to every answerable request. -/
theorem Answerable.exists_onRead
    {question : Question}
    (answerable : Answerable ephemeris satelliteList question)
    (fits : question.Fits) :
    ∃ line,
      OnRead parser.parse ephemeris satelliteList question.msg
        (some line) := by
  have line := fits.onLine_msg parser
  have processed :
      ProcessRequest ephemeris satelliteList question.request
        (TargetsListMsg.build _) :=
    .finished answerable.short (List.Perm.refl _)
  have notEmpty :=
    (answerable.distinct_targets (List.Perm.refl _)).1
  rw [TargetsListMsg.build, dif_pos notEmpty] at processed
  exact ⟨_, .answered line processed⟩

/-- After such a request the server reads on. -/
theorem Answerable.startsRead
    {question : Question}
    (answerable : Answerable ephemeris satelliteList question)
    (fits : question.Fits) :
    Reading.startsRead parser.parse ephemeris satelliteList question.msg =
      true := by
  rw [Reading.startsRead, fits.onLine_msg]
  simp [Reading.processes, answerable.short, answerable.found]

end

/-! ## Phases of a connection -/

section

/-- A client that may connect. -/
structure Ready (client : Client) : Prop where
  unconnected : client.connected = false
  configLoaded : client.configLoaded = true
  free : ∀ registered, client.socket ≠ .connected registered

variable {Elements : Type} (parser : Json.Parser)
variable (satelliteList : List (Keo Elements)) (questions : Set Question)
variable (sky : Set (Ephemeris Elements))

/--
The phases of a client and its connection.  In each of them at most one line
is under way, partly in a buffer and partly on the connection.
-/
inductive Phase : Client → Call → Option Link → Prop where
  | unconnected
      {client : Client}
      (unconnected : client.connected = false)
      {link : Option Link}
      (closed :
        ∀ connection ∈ link,
          connection.stage = .refused ∧
            connection.reading.started = false) :
      Phase client .idle link
  | waiting {client : Client} (ready : Ready client) :
      Phase client (.connecting []) (some ⟨.waiting, [], [], ⟨[], [], false⟩⟩)
  | reading {client : Client} (ready : Ready client) :
      Phase client (.connecting []) (some ⟨.reading, [], [], ⟨[], [], true⟩⟩)
  | registered
      {client : Client}
      {buff toClient : List Char}
      (ready : Ready client)
      (whole : buff ++ toClient = registerSuccessMsg) :
      Phase client (.connecting buff)
        (some ⟨.registered, [], toClient, ⟨[], [], true⟩⟩)
  | refused
      {client : Client}
      {buff toClient : List Char}
      (ready : Ready client)
      (whole : buff ++ toClient = registerFailMsg) :
      Phase client (.connecting buff)
        (some ⟨.refused, [], toClient, ⟨[], [], false⟩⟩)
  | quiet
      {client : Client}
      (connected : client.connected = true)
      (parsed : List (List Char)) :
      Phase client .idle (some ⟨.registered, [], [], ⟨[], parsed, true⟩⟩)
  | asked
      {client : Client}
      {question : Question}
      {readBuffer toServer : List Char}
      (connected : client.connected = true)
      (isAsked : question ∈ questions)
      (whole : readBuffer ++ toServer = question.msg)
      (parsed : List (List Char)) :
      Phase client (.requesting question [])
        (some ⟨.registered, toServer, [], ⟨readBuffer, parsed, true⟩⟩)
  | answered
      {client : Client}
      {question : Question}
      {buff toClient text : List Char}
      (connected : client.connected = true)
      (answer : Answer parser satelliteList sky question text)
      (whole : buff ++ toClient = text)
      (parsed : List (List Char)) :
      Phase client (.requesting question buff)
        (some ⟨.registered, [], toClient, ⟨[], parsed, true⟩⟩)

/-- What has been returned so far is honest, and the next line is awaited. -/
structure Orderly (session : Session) : Prop where
  phase :
    Phase parser satelliteList questions sky session.client session.call
      session.link
  honest :
    ∀ entry ∈ session.results,
      Honest satelliteList sky entry.1 entry.2

variable {parser satelliteList questions sky}

/-! ### What the functions of the client leave behind -/

theorem Question.Fits.terminated_msg
    {question : Question}
    (fits : question.Fits) :
    Terminated '\n' question.msg := by
  rw [Question.msg, Utils.formatted, if_neg fits]
  exact RequestMsg.terminated_msg _ _ _

theorem registerFailMsg_ne_registerSuccessMsg :
    registerFailMsg ≠ registerSuccessMsg := by
  decide

theorem connected_closeClient (faults : CloseFaults) (client : Client) :
    (client.closeClient faults).2.connected = false := by
  unfold Client.closeClient
  cases client.socket with
  | closed | opened => rfl
  | connected registered =>
      dsimp only
      split
      · rfl
      · split
        · rfl
        · rfl

theorem connected_loadConfig
    (isAddress : List Char → Bool)
    (conf : ConfigManager)
    (client : Client) :
    (client.loadConfig isAddress conf).2.connected = client.connected := by
  unfold Client.loadConfig
  split
  · rfl
  · split
    · rfl
    · split
      · rfl
      · split
        · rfl
        · split
          · rfl
          · rfl

/-- A client whose connection is not established stays unconnected. -/
theorem connected_connect
    {client : Client}
    (unconnected : client.connected = false)
    {result : ConnectResult}
    (notRegistered : result ≠ .replied registerSuccessMsg) :
    (client.connect result).2.connected = false := by
  unfold Client.connect
  rw [if_neg (by simp [unconnected])]
  split
  · exact unconnected
  · split
    · exact unconnected
    all_goals
      cases result with
      | openFails | refused | readFails => exact unconnected
      | replied res =>
          have other : res ≠ registerSuccessMsg := fun same =>
            notRegistered (same ▸ rfl)
          dsimp only
          rw [if_neg other]
          split
          · exact unconnected
          · exact unconnected

/-- A client that may connect is connected once it is registered. -/
theorem Ready.connect
    {client : Client}
    (ready : Ready client) :
    (client.connect (.replied registerSuccessMsg)).2.connected = true := by
  unfold Client.connect
  rw [if_neg (by simp [ready.unconnected]),
    if_neg (by simp [ready.configLoaded])]
  cases socket : client.socket with
  | closed | opened => rfl
  | connected registered => exact absurd socket (ready.free registered)

variable (parser) in
/-- A request without a connection returns a failure. -/
theorem honest_unconnected
    (question : Question)
    (exchange : Exchange)
    {client : Client}
    (unconnected : client.connected = false) :
    Honest satelliteList sky question
        (question.getTargets parser.parse exchange client) ∧
      (question.getTargets parser.parse exchange client).client = client := by
  rw [Question.getTargets, Client.getTargets, if_pos unconnected]
  exact ⟨.inr ⟨.inl rfl, rfl, unconnected⟩, rfl⟩

variable (parser) in
/-- A request whose connection fails returns a failure and disconnects. -/
theorem honest_failed
    (question : Question)
    {exchange : Exchange}
    {faults : CloseFaults}
    (fails : exchange = .writeFails faults ∨ exchange = .readFails faults)
    {client : Client}
    (connected : client.connected = true) :
    Honest satelliteList sky question
        (question.getTargets parser.parse exchange client) ∧
      (question.getTargets parser.parse exchange client).client.connected =
        false := by
  rw [Question.getTargets, Client.getTargets, if_neg (by simp [connected])]
  have closed := connected_closeClient faults client
  rcases fails with rfl | rfl
  · exact ⟨.inr ⟨.inr rfl, rfl, closed⟩, closed⟩
  · exact ⟨.inr ⟨.inr rfl, rfl, closed⟩, closed⟩

/-! ### What a step does to a phase -/

namespace Phase

variable
  {client : Client}
  {call : Call}
  {link : Link}

/-- Accepting a connection starts its read. -/
theorem accept
    (phase : Phase parser satelliteList questions sky client call (some link))
    (waiting : link.stage = .waiting) :
    Phase parser satelliteList questions sky client call
      (some { link with stage := .reading, reading := .new }) := by
  cases phase with
  | unconnected _ closed =>
      rw [(closed _ rfl).1] at waiting
      cases waiting
  | waiting ready => exact .reading ready
  | reading | registered | refused | quiet | asked | answered =>
      cases waiting

/-- A client that is refused is told so. -/
theorem refuse
    (phase : Phase parser satelliteList questions sky client call (some link))
    (waiting : link.stage = .waiting) :
    Phase parser satelliteList questions sky client call
      (some
        { link with
          stage := .refused
          toClient := link.toClient ++ registerFailMsg }) := by
  cases phase with
  | unconnected _ closed =>
      rw [(closed _ rfl).1] at waiting
      cases waiting
  | waiting ready => exact .refused ready (List.nil_append _)
  | reading | registered | refused | quiet | asked | answered =>
      cases waiting

/-- A client is told that it is registered. -/
theorem register
    (phase : Phase parser satelliteList questions sky client call (some link))
    (reading : link.stage = .reading) :
    Phase parser satelliteList questions sky client call
      (some
        { link with
          stage := .registered
          toClient := link.toClient ++ registerSuccessMsg }) := by
  cases phase with
  | unconnected _ closed =>
      rw [(closed _ rfl).1] at reading
      cases reading
  | reading ready => exact .registered ready (List.nil_append _)
  | waiting | registered | refused | quiet | asked | answered =>
      cases reading

/-- A request is sent. -/
theorem ask
    {question : Question}
    (phase : Phase parser satelliteList questions sky client .idle (some link))
    (connected : client.connected = true)
    (isAsked : question ∈ questions) :
    Phase parser satelliteList questions sky client (.requesting question [])
      (some { link with toServer := link.toServer ++ question.msg }) := by
  cases phase with
  | unconnected unconnected =>
      rw [unconnected] at connected
      cases connected
  | quiet _ parsed =>
      dsimp only
      rw [List.nil_append]
      exact .asked connected isAsked (List.nil_append _) parsed

/-- A piece of a request arrives. -/
theorem carryToServer
    (phase : Phase parser satelliteList questions sky client call (some link))
    {piece later : List Char}
    (started : link.reading.started = true)
    (underway : link.toServer = piece ++ later) :
    Phase parser satelliteList questions sky client call
      (some
        { link with
          toServer := later
          reading :=
            { link.reading with
              readBuffer := link.reading.readBuffer ++ piece } }) := by
  cases phase with
  | unconnected _ closed =>
      rw [(closed _ rfl).2] at started
      cases started
  | asked connected isAsked whole parsed =>
      dsimp only at underway
      subst underway
      exact
        .asked connected isAsked ((List.append_assoc ..).trans whole)
          parsed
  | waiting | refused =>
      cases started
  | reading ready =>
      obtain ⟨rfl, rfl⟩ := List.append_eq_nil_iff.mp underway.symm
      exact .reading ready
  | registered ready whole =>
      obtain ⟨rfl, rfl⟩ := List.append_eq_nil_iff.mp underway.symm
      exact .registered ready whole
  | quiet connected parsed =>
      obtain ⟨rfl, rfl⟩ := List.append_eq_nil_iff.mp underway.symm
      exact .quiet connected parsed
  | answered connected answer whole parsed =>
      obtain ⟨rfl, rfl⟩ := List.append_eq_nil_iff.mp underway.symm
      exact .answered connected answer whole parsed

/-- Only a request that is under way can be served. -/
theorem of_hasLine
    (phase : Phase parser satelliteList questions sky client call (some link))
    (fits : ∀ question ∈ questions, question.Fits)
    {size : Nat}
    (line : HasLine link size) :
    ∃ question parsed,
      call = .requesting question [] ∧
        client.connected = true ∧
        question ∈ questions ∧
        link = ⟨.registered, [], [], ⟨question.msg, parsed, true⟩⟩ ∧
        question.msg.take size = question.msg ∧
        question.msg.drop size = [] := by
  obtain ⟨started, found⟩ := line
  cases phase with
  | unconnected _ closed =>
      rw [(closed _ rfl).2] at started
      cases started
  | waiting | refused =>
      cases started
  | reading | registered | quiet | answered =>
      cases found
  | @asked question _ _ connected isAsked whole parsed =>
      obtain ⟨rfl, same, taken, dropped⟩ :=
        (fits question isAsked).terminated_msg.eq_of_firstLength whole found
      rw [same] at taken dropped
      exact
        ⟨question, parsed, rfl, connected, isAsked, by rw [same], taken,
          dropped⟩

/-- A line is served. -/
theorem serve
    (phase : Phase parser satelliteList questions sky client call (some link))
    (fits : ∀ question ∈ questions, question.Fits)
    {ephemeris : Ephemeris Elements}
    (known : ephemeris ∈ sky)
    (answerable :
      ∀ question ∈ questions, Answerable ephemeris satelliteList question)
    {size : Nat}
    (line : HasLine link size)
    {result : LineResult}
    (read :
      OnRead parser.parse ephemeris satelliteList
        (link.reading.readBuffer.take size) (some result)) :
    Phase parser satelliteList questions sky client call
      (some
        { link with
          toClient := link.toClient ++ result.sent
          reading :=
            link.reading.onRead parser.parse ephemeris satelliteList
              size }) := by
  obtain ⟨question, parsed, rfl, connected, isAsked, rfl, taken, dropped⟩ :=
    phase.of_hasLine fits line
  have found := answerable question isAsked
  have sent := fits question isAsked
  dsimp only at read
  rw [taken] at read
  obtain ⟨_, same, answer⟩ := found.answer sent known read
  cases same
  have goesOn :
      Reading.startsRead parser.parse ephemeris satelliteList question.msg =
        true :=
    found.startsRead sent
  rw [Reading.onRead]
  dsimp only
  rw [taken, dropped, goesOn]
  exact .answered connected answer rfl _

/-- A piece of an answer arrives. -/
theorem carryToClient
    (phase : Phase parser satelliteList questions sky client call (some link))
    {piece later : List Char}
    (underway : link.toClient = piece ++ later) :
    Phase parser satelliteList questions sky client (call.receive piece)
      (some { link with toClient := later }) := by
  cases phase with
  | unconnected unconnected closed =>
      refine .unconnected unconnected ?_
      rintro _ ⟨⟩
      exact closed link rfl
  | waiting ready =>
      obtain ⟨rfl, rfl⟩ := List.append_eq_nil_iff.mp underway.symm
      exact .waiting ready
  | reading ready =>
      obtain ⟨rfl, rfl⟩ := List.append_eq_nil_iff.mp underway.symm
      exact .reading ready
  | registered ready whole =>
      dsimp only at underway
      subst underway
      exact .registered ready ((List.append_assoc ..).trans whole)
  | refused ready whole =>
      dsimp only at underway
      subst underway
      exact .refused ready ((List.append_assoc ..).trans whole)
  | quiet connected parsed =>
      obtain ⟨rfl, rfl⟩ := List.append_eq_nil_iff.mp underway.symm
      exact .quiet connected parsed
  | asked connected isAsked whole parsed =>
      obtain ⟨rfl, rfl⟩ := List.append_eq_nil_iff.mp underway.symm
      exact .asked connected isAsked whole parsed
  | answered connected answer whole parsed =>
      dsimp only at underway
      subst underway
      exact
        .answered connected answer ((List.append_assoc ..).trans whole)
          parsed

/-- The client reads whether it is registered. -/
theorem replyConnect
    {buff : List Char}
    {link : Option Link}
    (phase :
      Phase parser satelliteList questions sky client (.connecting buff) link)
    {size : Nat}
    (line : firstLength '\n' buff = some size) :
    Phase parser satelliteList questions sky
      (client.connect (.replied (buff.take size))).2 .idle link := by
  cases phase with
  | waiting | reading =>
      cases line
  | registered ready whole =>
      obtain ⟨rfl, rfl, taken, -⟩ :=
        terminated_registerSuccessMsg.eq_of_firstLength whole line
      rw [taken]
      exact .quiet ready.connect _
  | refused ready whole =>
      obtain ⟨rfl, rfl, taken, -⟩ :=
        terminated_registerFailMsg.eq_of_firstLength whole line
      rw [taken]
      refine .unconnected (connected_connect ready.unconnected ?_) ?_
      · rw [Ne, ConnectResult.replied.injEq]
        exact registerFailMsg_ne_registerSuccessMsg
      · rintro _ ⟨⟩
        exact ⟨rfl, rfl⟩

/-- The client reads the answer to its request. -/
theorem replyRequest
    {question : Question}
    {buff : List Char}
    {link : Option Link}
    (phase :
      Phase parser satelliteList questions sky client
        (.requesting question buff) link)
    {size : Nat}
    (line : firstLength '\n' buff = some size) :
    let result :=
      question.getTargets parser.parse (.replied (buff.take size)) client
    Honest satelliteList sky question result ∧
      Phase parser satelliteList questions sky result.client .idle link := by
  intro result
  cases phase with
  | asked =>
      cases line
  | answered connected answer whole parsed =>
      obtain ⟨rfl, rfl, taken, -⟩ :=
        answer.terminated.eq_of_firstLength whole line
      obtain ⟨ephemeris, known, read⟩ := answer.read
      obtain ⟨tbl, holds, isResult⟩ := read client connected
      rw [← taken] at isResult
      have same : result = _ := isResult
      rw [same]
      exact ⟨.inl ⟨rfl, ephemeris, known, holds⟩, .quiet connected parsed⟩

/-- A client that waits for a registration is not connected. -/
theorem unconnected_of_connecting
    {buff : List Char}
    {link : Option Link}
    (phase :
      Phase parser satelliteList questions sky client (.connecting buff) link) :
    client.connected = false := by
  cases phase with
  | waiting ready | reading ready | registered ready | refused ready =>
      exact ready.unconnected

/-- A client that waits for an answer is connected. -/
theorem connected_of_requesting
    {question : Question}
    {buff : List Char}
    {link : Option Link}
    (phase :
      Phase parser satelliteList questions sky client
        (.requesting question buff) link) :
    client.connected = true := by
  cases phase with
  | asked connected | answered connected =>
      exact connected

end Phase

/-! ### One step -/

/-- Every step leads from a phase to a phase, and what it returns is honest. -/
theorem Orderly.step
    {session next : Session}
    {action : Action Elements}
    (orderly : Orderly parser satelliteList questions sky session)
    (step :
      SessionStep parser.parse satelliteList session action next)
    (fits : ∀ question ∈ questions, question.Fits)
    (asks : ∀ question, action = .ask question → question ∈ questions)
    (serves :
      ∀ ephemeris, action = .serve ephemeris →
        ephemeris ∈ sky ∧
          ∀ question ∈ questions,
            Answerable ephemeris satelliteList question) :
    Orderly parser satelliteList questions sky next := by
  obtain ⟨client, call, link, results⟩ := session
  obtain ⟨phase, honest⟩ := orderly
  dsimp only at phase honest
  have returned
      {question : Question}
      {result : TargetsResult}
      (isHonest : Honest satelliteList sky question result) :
      ∀ entry ∈ results ++ [(question, result)],
        Honest satelliteList sky entry.1 entry.2 := by
    intro entry member
    rcases List.mem_append.mp member with before | isNew
    · exact honest entry before
    · rw [List.mem_singleton.mp isNew]
      exact isHonest
  cases step with
  | loadConfig isAddress conf idle =>
      obtain rfl : call = .idle := idle
      have same := connected_loadConfig isAddress conf client
      refine ⟨?_, honest⟩
      cases phase with
      | unconnected unconnected closed =>
          exact .unconnected (same.trans unconnected) closed
      | quiet connected parsed =>
          exact .quiet (same.trans connected) parsed
  | @connectEnds result idle notEstablished =>
      obtain rfl : call = .idle := idle
      refine ⟨?_, honest⟩
      cases phase with
      | unconnected unconnected closed =>
          refine .unconnected (connected_connect unconnected ?_) closed
          rcases notEstablished with rfl | rfl
          · simp
          · simp
      | quiet connected parsed =>
          have same : client.connect result = (.ok, client) :=
            if_pos connected
          rw [same]
          exact .quiet connected parsed
  | connect idle unconnected configLoaded free =>
      exact ⟨.waiting ⟨unconnected, configLoaded, free⟩, honest⟩
  | accept linked waiting =>
      obtain rfl : link = some _ := linked
      exact ⟨phase.accept waiting, honest⟩
  | refuse linked waiting =>
      obtain rfl : link = some _ := linked
      exact ⟨phase.refuse waiting, honest⟩
  | register linked reading =>
      obtain rfl : link = some _ := linked
      exact ⟨phase.register reading, honest⟩
  | askUnconnected question idle unconnected exchange =>
      obtain ⟨isHonest, sameClient⟩ :=
        honest_unconnected parser question exchange unconnected
      obtain rfl : call = .idle := idle
      refine ⟨?_, returned isHonest⟩
      cases phase with
      | unconnected _ closed =>
          exact
            .unconnected ((congrArg _ sameClient).trans unconnected) closed
      | quiet connected =>
          exact absurd (connected.symm.trans unconnected) (by decide)
  | ask question idle connected linked =>
      obtain rfl : call = .idle := idle
      obtain rfl : link = some _ := linked
      exact ⟨phase.ask connected (asks question rfl), honest⟩
  | carryToServer linked started noLine underway =>
      obtain rfl : link = some _ := linked
      exact ⟨phase.carryToServer started underway, honest⟩
  | serve linked line read =>
      obtain rfl : link = some _ := linked
      obtain ⟨known, answerable⟩ := serves _ rfl
      exact ⟨phase.serve fits known answerable line read, honest⟩
  | carryToClient linked waits noLine underway =>
      obtain rfl : link = some _ := linked
      exact ⟨phase.carryToClient underway, honest⟩
  | replyConnect isCall line =>
      obtain rfl : call = .connecting _ := isCall
      exact ⟨phase.replyConnect line, honest⟩
  | replyRequest isCall line =>
      obtain rfl : call = .requesting _ _ := isCall
      obtain ⟨isHonest, later⟩ := phase.replyRequest line
      exact ⟨later, returned isHonest⟩
  | connectFails isCall faults =>
      obtain rfl : call = .connecting _ := isCall
      have closed : (client.connect .readFails).2.connected = false :=
        connected_connect phase.unconnected_of_connecting (by simp)
      exact ⟨.unconnected closed nofun, honest⟩
  | requestFails isCall fails =>
      obtain rfl : call = .requesting _ _ := isCall
      obtain ⟨isHonest, unconnected⟩ :=
        honest_failed parser _ fails phase.connected_of_requesting
      exact ⟨.unconnected unconnected nofun, returned isHonest⟩
  | disconnect idle faults =>
      obtain rfl : call = .idle := idle
      exact
        ⟨.unconnected (connected_closeClient faults client) nofun, honest⟩

end

end TargetExchange

end Radar
