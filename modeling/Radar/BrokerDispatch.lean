import Radar.MessageBroker

namespace Radar.BrokerClient

/-!
# Messages and their handlers

A socket delivers the messages that start with a registered type, and the loop
looks for a handler of the text in front of the first space.  The two agree for
messages whose type is registered itself, if the message fits the buffer and
its type has no NUL.
-/

variable {Handler : Type}

/-! ## What is delivered -/

/-- A message that starts with a registered type; its own has no space. -/
structure Delivery (handlersTbl : List (List Char × Handler)) where
  message : BrokerMessage
  noSpace : ' ' ∉ message.type
  subscribed : ∃ entry ∈ handlersTbl, entry.1 <+: message.serialize

/-- What happens while nothing fails. -/
inductive Arrival (handlersTbl : List (List Char × Handler)) where
  | timeout
  | stop
  | delivered (delivery : Delivery handlersTbl)

/-- The event that the loop sees. -/
def Arrival.toEvent
    {handlersTbl : List (List Char × Handler)} :
    Arrival handlersTbl → BrokerEvent
  | .timeout => .timeout
  | .stop => .stop
  | .delivered delivery => .received delivery.message.serialize

/--
Processing as it should be: until it is stopped, every message is passed to
the handler of its type, and messages of other types are ignored.
-/
def passAll
    (handlersTbl : List (List Char × Handler)) :
    List (Arrival handlersTbl) → Processing Handler
  | [] => { calls := [], ended := .running }
  | .timeout :: later => passAll handlersTbl later
  | .stop :: _ => { calls := [], ended := .returned }
  | .delivered delivery :: later =>
      let rest := passAll handlersTbl later
      match handlersTbl.lookup delivery.message.type with
      | some handler =>
          { rest with
            calls := ⟨handler, some delivery.message.text⟩ :: rest.calls }
      | none => rest

/-- The messages that are received before processing is stopped. -/
def receivedMessages
    {handlersTbl : List (List Char × Handler)} :
    List (Arrival handlersTbl) → List BrokerMessage
  | [] => []
  | .timeout :: later => receivedMessages later
  | .stop :: _ => []
  | .delivered delivery :: later =>
      delivery.message :: receivedMessages later

/--
The type of a message is registered and has no NUL, and the message fits the
buffer.
-/
structure HasHandler
    (handlersTbl : List (List Char × Handler))
    (bufferSize : Nat)
    (message : BrokerMessage) :
    Prop where
  registered : (handlersTbl.lookup message.type).isSome
  fits : message.serialize.length ≤ bufferSize
  nulFree : '\x00' ∉ message.type

/-! ## The first space -/

@[simp] theorem strstr_space (bytes : List Char) :
    strstr (' ' :: bytes) = some 0 := rfl

@[simp] theorem strstr_nul (bytes : List Char) :
    strstr ('\x00' :: bytes) = none := rfl

/-- Another byte is left out. -/
theorem strstr_cons
    {byte : Char}
    (notSpace : byte ≠ ' ')
    (notNul : byte ≠ '\x00')
    (bytes : List Char) :
    strstr (byte :: bytes) = (strstr bytes).map (· + 1) := by
  simp only [strstr]
  rw [List.takeWhile_cons_of_pos (by simp [notSpace, notNul]),
    List.length_cons, List.getElem?_cons_succ]
  split <;> rfl

/-- Without a space there is no position. -/
theorem strstr_eq_none
    {bytes : List Char}
    (noSpace : ' ' ∉ bytes) :
    strstr bytes = none := by
  induction bytes with
  | nil => rfl
  | cons byte later inductionHypothesis =>
      rw [List.mem_cons, not_or] at noSpace
      by_cases nul : byte = '\x00'
      · rw [nul, strstr_nul]
      · rw [strstr_cons (Ne.symm noSpace.1) nul,
          inductionHypothesis noSpace.2, Option.map_none]

/-- The position of the space behind a type. -/
theorem strstr_append
    {type : List Char}
    (noSpace : ' ' ∉ type)
    (rest : List Char) :
    strstr (type ++ ' ' :: rest) =
      if '\x00' ∈ type then none else some type.length := by
  induction type with
  | nil => simp
  | cons byte later inductionHypothesis =>
      rw [List.mem_cons, not_or] at noSpace
      rw [List.cons_append]
      by_cases nul : byte = '\x00'
      · simp [nul]
      · rw [strstr_cons (Ne.symm noSpace.1) nul,
          inductionHypothesis noSpace.2]
        by_cases later' : '\x00' ∈ later
        · simp [later']
        · simp [later', Ne.symm nul]

/-! ## The buffer -/

/-- What the buffer contains after a message has been received. -/
theorem toList_receive
    {size : Nat}
    (bytes : List Char)
    (buffer : Vector Char size) :
    (receive bytes buffer).toList =
      bytes.take size ++ buffer.toList.drop bytes.length := by
  refine List.ext_getElem (by simp; omega) fun index inside _ => ?_
  have inSize : index < size := by simpa using inside
  simp only [Vector.getElem_toList, receive, Vector.getElem_ofFn]
  by_cases inBytes : index < bytes.length
  · rw [List.getElem_append_left (by simp; omega), List.getElem_take,
      List.getElem?_eq_getElem inBytes, Option.getD_some]
  · have taken : (bytes.take size).length = bytes.length := by
      rw [List.length_take]
      omega
    rw [List.getElem_append_right (by omega), List.getElem_drop,
      List.getElem?_eq_none (by omega), Option.getD_none]
    simp only [taken, Fin.getElem_fin, Vector.getElem_toList]
    congr 1
    omega

/-- A message has its type, a space and its text. -/
theorem length_serialize (message : BrokerMessage) :
    message.serialize.length =
      message.type.length + 1 + message.text.length := by
  simp [BrokerMessage.serialize]
  omega

/-- As far as a message fits, its type is followed by a space. -/
theorem take_serialize
    {size : Nat}
    {message : BrokerMessage}
    (typeFits : message.type.length < size) :
    message.serialize.take size =
      message.type ++
        ' ' :: message.text.take (size - message.type.length - 1) := by
  rw [BrokerMessage.serialize, List.take_append,
    List.take_of_length_le typeFits.le]
  obtain ⟨room, split⟩ := Nat.exists_eq_succ_of_ne_zero
    (Nat.sub_ne_zero_of_lt typeFits)
  rw [split]
  simp

/-- A message whose type fits the buffer is followed by its space there. -/
theorem exists_toList_receive
    {size : Nat}
    {message : BrokerMessage}
    (typeFits : message.type.length < size)
    (buffer : Vector Char size) :
    ∃ rest,
      (receive message.serialize buffer).toList =
        message.type ++ ' ' :: rest := by
  rw [toList_receive, take_serialize typeFits, List.append_assoc,
    List.cons_append]
  exact ⟨_, rfl⟩

/-- A message whose type does not fit leaves no space in the buffer. -/
theorem space_notMem_receive
    {size : Nat}
    {message : BrokerMessage}
    (noSpace : ' ' ∉ message.type)
    (tooLong : size ≤ message.type.length)
    (buffer : Vector Char size) :
    ' ' ∉ (receive message.serialize buffer).toList := by
  have noStale :
      buffer.toList.drop message.serialize.length = [] := by
    rw [List.drop_eq_nil_iff, Vector.length_toList,
      BrokerMessage.serialize, List.length_append]
    exact tooLong.trans (Nat.le_add_right _ _)
  rw [toList_receive, noStale, List.append_nil, BrokerMessage.serialize,
    List.take_append_of_le_length tooLong]
  exact fun member => noSpace (List.mem_of_mem_take member)

/-! ## One message -/

/-- A message with a handler is passed to it. -/
theorem dispatch_of_hasHandler
    {client : BrokerClient Handler}
    {size : Nat}
    {message : BrokerMessage}
    (noSpace : ' ' ∉ message.type)
    (has : HasHandler client.handlersTbl size message)
    (buffer : Vector Char size) :
    ∃ handler,
      client.handlersTbl.lookup message.type = some handler ∧
        client.dispatch (receive message.serialize buffer).toList
            message.serialize.length =
          .ok (some ⟨handler, some message.text⟩) := by
  obtain ⟨handler, found⟩ := Option.isSome_iff_exists.mp has.registered
  refine ⟨handler, found, ?_⟩
  have fits := has.fits
  have inBuffer :
      (receive message.serialize buffer).toList =
        message.serialize ++ buffer.toList.drop message.serialize.length := by
    rw [toList_receive, List.take_of_length_le fits]
  have length := length_serialize message
  have position :
      strstr (receive message.serialize buffer).toList =
        some message.type.length := by
    rw [inBuffer, BrokerMessage.serialize, List.append_assoc,
      List.cons_append, strstr_append noSpace, if_neg has.nulFree]
  have address :
      (receive message.serialize buffer).toList.take message.type.length =
        message.type := by
    rw [inBuffer, BrokerMessage.serialize, List.append_assoc,
      List.take_left]
  have inside :
      message.type.length + 1 ≤ message.serialize.length ∧
        message.serialize.length ≤
          (receive message.serialize buffer).toList.length := by
    rw [Vector.length_toList]
    omega
  have msg :
      ((receive message.serialize buffer).toList.drop
          (message.type.length + 1)).take
          (message.serialize.length - (message.type.length + 1)) =
        message.text := by
    have split :
        (receive message.serialize buffer).toList =
          (message.type ++ [' ']) ++
            (message.text ++
              buffer.toList.drop message.serialize.length) := by
      rw [inBuffer, BrokerMessage.serialize]
      simp
    have textLength :
        message.serialize.length - (message.type.length + 1) =
          message.text.length := by
      omega
    rw [split, textLength, List.drop_left' (by simp), List.take_left]
  have positive : 0 < message.serialize.length := by omega
  rw [dispatch, position]
  simp only [address, found, msg, if_pos positive, if_pos inside]

/-- A message without one ends the loop or is not passed as it is. -/
theorem dispatch_of_not_hasHandler
    {client : BrokerClient Handler}
    {size : Nat}
    {message : BrokerMessage}
    (noSpace : ' ' ∉ message.type)
    (hasNot : ¬ HasHandler client.handlersTbl size message)
    (buffer : Vector Char size) :
    (∃ error,
        client.dispatch (receive message.serialize buffer).toList
            message.serialize.length =
          .error error) ∨
      ∃ handler,
        client.handlersTbl.lookup message.type = some handler ∧
          client.dispatch (receive message.serialize buffer).toList
              message.serialize.length =
            .ok (some ⟨handler, none⟩) := by
  by_cases typeFits : message.type.length < size
  · obtain ⟨rest, inBuffer⟩ := exists_toList_receive typeFits buffer
    have position := strstr_append noSpace rest
    rw [← inBuffer] at position
    by_cases nul : '\x00' ∈ message.type
    · rw [if_pos nul] at position
      exact Or.inl ⟨.undefined, by rw [dispatch, position]⟩
    · rw [if_neg nul] at position
      have address :
          (receive message.serialize buffer).toList.take
              message.type.length =
            message.type := by
        rw [inBuffer, List.take_left]
      have positive : 0 < message.serialize.length := by
        simp [BrokerMessage.serialize]
      rw [dispatch, position]
      simp only [address, if_pos positive]
      cases found : client.handlersTbl.lookup message.type with
      | none => exact Or.inl ⟨_, rfl⟩
      | some handler =>
          refine Or.inr ⟨handler, rfl, ?_⟩
          have tooLong : ¬ message.serialize.length ≤ size := fun fits =>
            hasNot ⟨by rw [found]; rfl, fits, nul⟩
          have outside :
              ¬ (message.type.length + 1 ≤ message.serialize.length ∧
                message.serialize.length ≤
                  (receive message.serialize buffer).toList.length) := by
            rw [Vector.length_toList]
            exact fun both => tooLong both.2
          simp only [if_neg outside]
  · have position :=
      strstr_eq_none
        (space_notMem_receive noSpace (Nat.not_lt.mp typeFits) buffer)
    exact Or.inl ⟨.undefined, by rw [dispatch, position]⟩

/-! ## The loop -/

/-- Processing as it should be throws no exception. -/
theorem passAll_ended
    {handlersTbl : List (List Char × Handler)}
    (arrivals : List (Arrival handlersTbl))
    (error : BrokerError) :
    (passAll handlersTbl arrivals).ended ≠ .thrown error := by
  induction arrivals with
  | nil => simp [passAll]
  | cons arrival later inductionHypothesis =>
      cases arrival with
      | timeout => exact inductionHypothesis
      | stop => simp [passAll]
      | delivered delivery =>
          rw [passAll]
          split <;> exact inductionHypothesis

/-- The first call is the same in both. -/
theorem processing_cons_iff
    (call : HandlerCall Handler)
    (first second : Processing Handler) :
    ({ first with calls := call :: first.calls } : Processing Handler) =
        { second with calls := call :: second.calls } ↔
      first = second := by
  obtain ⟨calls, ended⟩ := first
  obtain ⟨otherCalls, otherEnded⟩ := second
  simp

/--
The loop passes all messages to their handlers exactly if all of them have one.
-/
theorem messageLoop_eq_passAll_iff
    (client : BrokerClient Handler)
    {size : Nat}
    (buffer : Vector Char size)
    (arrivals : List (Arrival client.handlersTbl)) :
    client.messageLoop buffer (arrivals.map Arrival.toEvent) =
        passAll client.handlersTbl arrivals ↔
      ∀ message ∈ receivedMessages arrivals,
        HasHandler client.handlersTbl size message := by
  induction arrivals generalizing buffer with
  | nil => simp [messageLoop, passAll, receivedMessages]
  | cons arrival later inductionHypothesis =>
      cases arrival with
      | timeout => exact inductionHypothesis buffer
      | stop =>
          simp [Arrival.toEvent, messageLoop, passAll, receivedMessages]
      | delivered delivery =>
          rw [receivedMessages, List.forall_mem_cons, List.map_cons,
            Arrival.toEvent, messageLoop, passAll,
            ← inductionHypothesis
              (receive delivery.message.serialize buffer)]
          by_cases has :
              HasHandler client.handlersTbl size delivery.message
          · obtain ⟨handler, found, passed⟩ :=
              dispatch_of_hasHandler delivery.noSpace has buffer
            simp only [passed, found, has, true_and, Option.toList_some,
              List.singleton_append]
            rw [processing_cons_iff]
          · refine iff_of_false (fun same => ?_) fun both => has both.1
            rcases dispatch_of_not_hasHandler delivery.noSpace has buffer with
              ⟨error, thrown⟩ | ⟨handler, found, passed⟩
            · have ended := congrArg Processing.ended same
              simp only [thrown] at ended
              have expected :=
                passAll_ended (.delivered delivery :: later) error
              rw [passAll] at expected
              exact expected ended.symm
            · have calls := congrArg Processing.calls same
              simp [passed, found] at calls

/-! ## Processing messages -/

/--
A client that can start processing messages: it is connected, has a handler,
and is not processing messages yet.
-/
structure Ready (client : BrokerClient Handler) : Prop where
  idle : client.messageProcessing = false
  connected : client.connected = true
  input : client.input = true
  handlers : client.handlersTbl ≠ []

/--
Until it is stopped, a client passes every message to the handler of its type,
ignores messages of other types and throws nothing exactly if every message
that it receives has a handler, fits the buffer and has no NUL in its type.
-/
theorem startMessageProcessing_eq_passAll_iff
    {client : BrokerClient Handler}
    (ready : Ready client)
    (memory : Nat → Char)
    (arrivals : List (Arrival client.handlersTbl)) :
    client.startMessageProcessing none memory (arrivals.map Arrival.toEvent) =
        passAll client.handlersTbl arrivals ↔
      ∀ message ∈ receivedMessages arrivals,
        HasHandler client.handlersTbl client.bufferSize.toNat message := by
  have begun :
      client.beginProcessing none =
        (.ok (), { client with messageProcessing := true }) := by
    have notEmpty : client.handlersTbl.isEmpty = false :=
      List.isEmpty_eq_false_iff.mpr ready.handlers
    simp [beginProcessing, ready.idle, ready.connected, notEmpty, ready.input]
  rw [startMessageProcessing, begun]
  exact
    messageLoop_eq_passAll_iff { client with messageProcessing := true } _
      arrivals

/-- A connected client that handles tracks. -/
def trackClient : BrokerClient Unit :=
  { (new 16 10 2000 : BrokerClient Unit) with
    ctx := true
    output := true
    input := true
    handlersTbl := [("track".toList, ())]
    configLoaded := true
    connected := true }

theorem ready_trackClient : Ready trackClient :=
  ⟨rfl, rfl, rfl, by decide⟩

/-- Memory that is filled with zeros. -/
def clearMemory (_ : Nat) : Char := '\x00'

/-- A message for the handler of tracks. -/
def trackMessage : Delivery trackClient.handlersTbl where
  message := ⟨"track".toList, "7".toList⟩
  noSpace := by decide
  subscribed := ⟨("track".toList, ()), List.mem_cons_self, by decide⟩

/-- A message of a type with a longer name. -/
def tracksMessage : Delivery trackClient.handlersTbl where
  message := ⟨"tracks".toList, "7".toList⟩
  noSpace := by decide
  subscribed := ⟨("track".toList, ()), List.mem_cons_self, by decide⟩

/-- The next one. -/
def nextMessage : Delivery trackClient.handlersTbl where
  message := ⟨"track".toList, "8 moves".toList⟩
  noSpace := by decide
  subscribed := ⟨("track".toList, ()), List.mem_cons_self, by decide⟩

/-- Messages of the registered type are passed to its handler in order. -/
theorem trackMessages_passed :
    trackClient.startMessageProcessing none clearMemory
        ([.delivered trackMessage, .delivered nextMessage].map
          Arrival.toEvent) =
      passAll trackClient.handlersTbl
        [.delivered trackMessage, .delivered nextMessage] := by
  refine
    (startMessageProcessing_eq_passAll_iff ready_trackClient clearMemory
      [.delivered trackMessage, .delivered nextMessage]).mpr
      fun message received => ?_
  simp only [receivedMessages, List.mem_cons, List.not_mem_nil, or_false]
    at received
  rcases received with rfl | rfl
  · exact ⟨by decide, by decide, by decide⟩
  · exact ⟨by decide, by decide, by decide⟩

/-- The message of the type with the longer name ends the loop. -/
theorem tracksMessage_throws :
    ¬ ∀ (client : BrokerClient Unit)
        (memory : Nat → Char)
        (arrivals : List (Arrival client.handlersTbl)),
      Ready client →
        client.startMessageProcessing none memory
            (arrivals.map Arrival.toEvent) =
          passAll client.handlersTbl arrivals := by
  intro claim
  have same :=
    claim trackClient clearMemory [.delivered tracksMessage] ready_trackClient
  revert same
  decide +kernel

end Radar.BrokerClient
