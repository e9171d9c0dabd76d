import Radar.BrokerDispatch

namespace Radar.BrokerClient

/-!
# The receive buffer

`zmq_recv` returns the size of a message, also when it copies less of it, and
`strstr` stops at the first space or NUL, also behind the buffer.  Here the
buffer is memory with more memory behind it, handlers are called with a pointer
and a length, and the bytes that are read are counted.
-/

variable {Handler : Type}

/-! ## Handling a message in memory -/

/-- A call of a handler; the pointer counts from `message_buffer`. -/
structure RawCall (Handler : Type) where
  handler : Handler
  msg : Nat
  len : Nat
  deriving DecidableEq

/--
A message that has been received: its bytes, the memory from `message_buffer`
on behind `zmq_recv`, the bytes read there to find the handler, and its call.
-/
structure Handled (Handler : Type) where
  bytes : List Char
  memory : List Char
  bytesRead : Nat
  call : Except BrokerError (Option (RawCall Handler))

/-- `zmq_recv` copies a message as far as it fits into the buffer. -/
def zmqRecv (bytes : List Char) (bufferSize : Nat) (memory : List Char) :
    List Char :=
  bytes.take bufferSize ++ memory.drop (min bytes.length bufferSize)

/-- Number of bytes that `strstr(message_buffer, " ")` reads. -/
def strstrReads (memory : List Char) : Nat :=
  (memory.takeWhile fun byte => byte ≠ ' ' && byte ≠ '\x00').length + 1

/-- The conversion of a difference to `size_t`. -/
def toSize (difference : Int) : Nat := (difference % 2 ^ 64).toNat

/-- Find the handler of a message in memory, as `dispatch` does. -/
def rawDispatch
    (memory : List Char)
    (messageSize : Nat)
    (client : BrokerClient Handler) :
    Except BrokerError (Option (RawCall Handler)) :=
  match strstr memory with
  | none => .error .undefined
  | some msgTypeEnd =>
      let address := memory.take msgTypeEnd
      let offset := msgTypeEnd + 1
      if 0 < messageSize then
        match client.handlersTbl.lookup address with
        | none =>
            .error
              (.config
                ("Message Broker client : Handle for " ++
                  String.ofList address ++ " not registered."))
        | some handler =>
            .ok (some ⟨handler, offset, toSize (messageSize - offset)⟩)
      else
        .ok none

/-- Receive a message and pass it on. -/
def handle
    (client : BrokerClient Handler)
    (bytes : List Char)
    (memory : List Char) :
    Handled Handler :=
  let received := zmqRecv bytes client.bufferSize.toNat memory
  { bytes := bytes
    memory := received
    bytesRead := strstrReads received
    call := client.rawDispatch received bytes.length }

/-- The messages that the loop handles, from a state of the memory on. -/
def rawLoop
    (client : BrokerClient Handler) :
    List Char → List BrokerEvent → List (Handled Handler)
  | _, [] => []
  | memory, .timeout :: later => client.rawLoop memory later
  | _, .stop :: _ => []
  | memory, .received bytes :: later =>
      let handled := client.handle bytes memory
      match handled.call with
      | .error _ => [handled]
      | .ok _ => handled :: client.rawLoop handled.memory later
  | _, .receiveFails _ :: _ => []
  | _, .pollThrows _ :: _ => []

/--
The messages that are handled while messages are processed.  The buffer is new
memory with any contents, and so is the memory behind it.
-/
def handledMessages
    (fault : Option String)
    (memory : Nat → Char)
    (behind : List Char)
    (events : List BrokerEvent)
    (client : BrokerClient Handler) :
    List (Handled Handler) :=
  match client.beginProcessing fault with
  | (.error _, _) => []
  | (.ok (), client) =>
      let buffer : Vector Char client.bufferSize.toNat :=
        Vector.ofFn fun index => memory index.val
      client.rawLoop (buffer.toList ++ behind) events

/-! ## What is expected of a message -/

/-- A message for a handler; its type has no space and no NUL. -/
structure Addressed
    (handlersTbl : List (List Char × Handler))
    (message : BrokerMessage) : Prop where
  noSpace : ' ' ∉ message.type
  nulFree : '\x00' ∉ message.type
  registered : (handlersTbl.lookup message.type).isSome

/-- Size of the part of the buffer that a message fills. -/
def filledSize (message : BrokerMessage) (bufferSize : Nat) : Nat :=
  min message.serialize.length bufferSize

/--
Only bytes of the message are read, and the handler of its type is called with
its text, which stands in the part of the buffer that the message fills.
-/
structure Handled.PassesText
    (handlersTbl : List (List Char × Handler))
    (bufferSize : Nat)
    (message : BrokerMessage)
    (handled : Handled Handler) : Prop where
  readsFilled : handled.bytesRead ≤ filledSize message bufferSize
  passed :
    ∃ handler msg len,
      handlersTbl.lookup message.type = some handler ∧
        handled.call = .ok (some ⟨handler, msg, len⟩) ∧
        msg + len ≤ filledSize message bufferSize ∧
        (handled.memory.drop msg).take len = message.text

/-! ## One message -/

/-- Bytes that are neither a space nor a NUL are all read. -/
theorem length_lt_strstrReads
    {bytes : List Char}
    (noSpace : ' ' ∉ bytes)
    (nulFree : '\x00' ∉ bytes)
    (rest : List Char) :
    bytes.length < strstrReads (bytes ++ rest) := by
  have taken : ∀ byte ∈ bytes, (byte ≠ ' ' && byte ≠ '\x00') = true := by
    rintro byte member
    have notSpace : byte ≠ ' ' := by
      rintro rfl
      exact noSpace member
    have notNul : byte ≠ '\x00' := by
      rintro rfl
      exact nulFree member
    simp [notSpace, notNul]
  rw [strstrReads, List.takeWhile_append_of_pos taken, List.length_append]
  omega

/-- The bytes up to the space behind a type are read. -/
theorem strstrReads_append
    {type : List Char}
    (noSpace : ' ' ∉ type)
    (nulFree : '\x00' ∉ type)
    (rest : List Char) :
    strstrReads (type ++ ' ' :: rest) = type.length + 1 := by
  induction type with
  | nil => rfl
  | cons byte later inductionHypothesis =>
      rw [List.mem_cons, not_or] at noSpace nulFree
      have next := inductionHypothesis noSpace.2 nulFree.2
      rw [strstrReads] at next ⊢
      rw [List.cons_append, List.takeWhile_cons_of_pos
        (by simp [Ne.symm noSpace.1, Ne.symm nulFree.1]), List.length_cons,
        next, List.length_cons]

/-- Differences that fit are kept by the conversion. -/
theorem toSize_natCast_sub
    {size offset : Nat}
    (inside : offset ≤ size)
    (small : size < 2 ^ 64) :
    toSize (size - offset) = size - offset := by
  unfold toSize
  omega

/-- A message whose type fits is followed by its space in the memory. -/
theorem exists_zmqRecv
    {bufferSize : Nat}
    {message : BrokerMessage}
    (typeFits : message.type.length < bufferSize)
    (memory : List Char) :
    ∃ rest,
      zmqRecv message.serialize bufferSize memory =
        message.type ++ ' ' :: rest := by
  rw [zmqRecv, take_serialize typeFits, List.append_assoc,
    List.cons_append]
  exact ⟨_, rfl⟩

/-- The call for a message whose type fits the buffer. -/
theorem rawDispatch_of_typeFits
    {client : BrokerClient Handler}
    {message : BrokerMessage}
    (addressed : Addressed client.handlersTbl message)
    (rest : List Char) :
    ∃ handler, client.handlersTbl.lookup message.type = some handler ∧
      client.rawDispatch (message.type ++ ' ' :: rest)
          message.serialize.length =
        .ok
          (some
            ⟨handler, message.type.length + 1,
              toSize
                (message.serialize.length -
                  (message.type.length + 1 : Nat))⟩) := by
  obtain ⟨handler, found⟩ := Option.isSome_iff_exists.mp addressed.registered
  refine ⟨handler, found, ?_⟩
  have positive : 0 < message.serialize.length := by
    simp [BrokerMessage.serialize]
  rw [rawDispatch, strstr_append addressed.noSpace,
    if_neg addressed.nulFree]
  simp only [List.take_left, found, if_pos positive]

/-- A message that fits is passed to its handler. -/
theorem handle_passesText
    {client : BrokerClient Handler}
    {message : BrokerMessage}
    (addressed : Addressed client.handlersTbl message)
    (fits : message.serialize.length ≤ client.bufferSize.toNat)
    (memory : List Char) :
    (client.handle message.serialize memory).PassesText client.handlersTbl
      client.bufferSize.toNat message := by
  have length := length_serialize message
  have filled :
      filledSize message client.bufferSize.toNat =
        message.serialize.length :=
    min_eq_left fits
  have received :
      zmqRecv message.serialize client.bufferSize.toNat memory =
        message.type ++
          ' ' :: (message.text ++ memory.drop message.serialize.length) := by
    rw [zmqRecv, List.take_of_length_le fits, min_eq_left fits,
      BrokerMessage.serialize]
    simp
  obtain ⟨handler, found, call⟩ := rawDispatch_of_typeFits addressed
    (message.text ++ memory.drop message.serialize.length)
  have small : message.serialize.length < 2 ^ 64 := by
    have := client.bufferSize.toNat_lt
    omega
  have len :
      toSize (message.serialize.length - (message.type.length + 1 : Nat)) =
        message.text.length := by
    rw [toSize_natCast_sub (by omega) small]
    omega
  rw [len, ← received] at call
  constructor
  · simp only [handle]
    rw [filled, received,
      strstrReads_append addressed.noSpace addressed.nulFree]
    omega
  · refine ⟨handler, _, _, found, call, by omega, ?_⟩
    simp only [handle]
    rw [received, ← List.singleton_append, ← List.append_assoc,
      List.drop_left' (by simp), List.take_left]

/-- A message that is passed to its handler fits. -/
theorem fits_of_passesText
    {client : BrokerClient Handler}
    {message : BrokerMessage}
    {memory : List Char}
    (addressed : Addressed client.handlersTbl message)
    (passes :
      (client.handle message.serialize memory).PassesText client.handlersTbl
        client.bufferSize.toNat message) :
    message.serialize.length ≤ client.bufferSize.toNat := by
  have length := length_serialize message
  obtain ⟨readsFilled, handler, msg, len, -, call, inside, text⟩ := passes
  have atMost : filledSize message client.bufferSize.toNat ≤
      client.bufferSize.toNat :=
    min_le_right ..
  by_cases typeFits : message.type.length < client.bufferSize.toNat
  · -- The handler starts to read behind the type, so it reads the whole text.
    obtain ⟨rest, received⟩ := exists_zmqRecv typeFits memory
    obtain ⟨other, -, same⟩ := rawDispatch_of_typeFits addressed rest
    simp only [handle] at call text
    rw [received] at call
    rw [call] at same
    simp only [Except.ok.injEq, Option.some.injEq, RawCall.mk.injEq] at same
    have enough : message.text.length ≤ len := by
      rw [← text]
      exact List.length_take_le ..
    omega
  · -- The type fills the buffer, so the search leaves it.
    have atLeast : client.bufferSize.toNat ≤ message.type.length := by
      omega
    have reads :
        client.bufferSize.toNat <
          strstrReads
            (zmqRecv message.serialize client.bufferSize.toNat memory) := by
      have long := length_lt_strstrReads
        (fun member => addressed.noSpace
          (List.mem_of_mem_take (i := client.bufferSize.toNat) member))
        (fun member => addressed.nulFree (List.mem_of_mem_take member))
        (memory.drop
          (min message.serialize.length client.bufferSize.toNat))
      rw [List.length_take_of_le atLeast] at long
      rwa [zmqRecv, BrokerMessage.serialize,
        List.take_append_of_le_length atLeast]
    simp only [handle] at readsFilled
    omega

/-! ## Processing messages -/

/-- A message that cannot be passed on is the last one. -/
theorem rawLoop_error
    {client : BrokerClient Handler}
    {bytes memory : List Char}
    {error : BrokerError}
    {later : List BrokerEvent}
    (called :
      client.rawDispatch (zmqRecv bytes client.bufferSize.toNat memory)
        bytes.length = .error error) :
    client.rawLoop memory (.received bytes :: later) =
      [client.handle bytes memory] := by
  have call : (client.handle bytes memory).call = .error error := called
  rw [rawLoop, call]

/-- Behind a message that is passed on the loop goes on. -/
theorem rawLoop_ok
    {client : BrokerClient Handler}
    {bytes memory : List Char}
    {call : Option (RawCall Handler)}
    {later : List BrokerEvent}
    (called :
      client.rawDispatch (zmqRecv bytes client.bufferSize.toNat memory)
        bytes.length = .ok call) :
    client.rawLoop memory (.received bytes :: later) =
      client.handle bytes memory ::
        client.rawLoop (zmqRecv bytes client.bufferSize.toNat memory)
          later := by
  have called : (client.handle bytes memory).call = .ok call := called
  rw [rawLoop, called]
  rfl

/-- Every message is handled in the memory that earlier ones have left. -/
theorem exists_handle_of_mem
    {client : BrokerClient Handler}
    {memory : List Char}
    {events : List BrokerEvent}
    {handled : Handled Handler}
    (member : handled ∈ client.rawLoop memory events) :
    ∃ before, handled = client.handle handled.bytes before := by
  induction events generalizing memory with
  | nil => cases member
  | cons event later inductionHypothesis =>
      cases event with
      | timeout => exact inductionHypothesis member
      | received bytes =>
          rw [rawLoop] at member
          split at member
          · rw [List.mem_singleton] at member
            exact ⟨memory, by rw [member]; rfl⟩
          · rcases List.mem_cons.mp member with rfl | member
            · exact ⟨memory, rfl⟩
            · exact inductionHypothesis member
      | stop => cases member
      | receiveFails terminated => cases member
      | pollThrows what => cases member

/-- Before the loop only the flag of a client changes. -/
theorem handledMessages_eq_rawLoop
    {fault : Option String}
    {memory : Nat → Char}
    {behind : List Char}
    {events : List BrokerEvent}
    {client : BrokerClient Handler}
    {handled : Handled Handler}
    (member : handled ∈ client.handledMessages fault memory behind events) :
    ∃ contents,
      handled ∈
        { client with messageProcessing := true }.rawLoop contents events := by
  unfold handledMessages beginProcessing at member
  split_ifs at member
  · cases member
  · cases member
  · cases member
  · cases member
  · cases fault with
    | none => exact ⟨_, member⟩
    | some what => cases member

/--
Whatever a client receives before and whatever its memory holds, a message is
passed to the handler of its type, and nothing but the message is read, exactly
if it fits the buffer.
-/
theorem handledMessages_passesText_iff
    {client : BrokerClient Handler}
    {fault : Option String}
    {memory : Nat → Char}
    {behind : List Char}
    {events : List BrokerEvent}
    {handled : Handled Handler}
    {message : BrokerMessage}
    (member : handled ∈ client.handledMessages fault memory behind events)
    (isMessage : handled.bytes = message.serialize)
    (addressed : Addressed client.handlersTbl message) :
    handled.PassesText client.handlersTbl client.bufferSize.toNat message ↔
      message.serialize.length ≤ client.bufferSize.toNat := by
  obtain ⟨contents, member⟩ := handledMessages_eq_rawLoop member
  obtain ⟨before, same⟩ := exists_handle_of_mem member
  rw [isMessage] at same
  rw [same]
  exact ⟨fun passes => fits_of_passesText addressed passes,
    fun fits => handle_passesText addressed fits before⟩

/-- A message that fits the buffer is passed to its handler. -/
theorem track_passesText :
    (trackClient.handle trackMessage.message.serialize
          (List.replicate 16 '\x00')).PassesText
        trackClient.handlersTbl trackClient.bufferSize.toNat
        trackMessage.message := by
  have member :
      trackClient.handle trackMessage.message.serialize
          (List.replicate 16 '\x00') ∈
        trackClient.handledMessages none clearMemory []
          [.received trackMessage.message.serialize] :=
    List.mem_cons_self
  exact (handledMessages_passesText_iff member rfl
    ⟨by decide, by decide, by decide⟩).mpr (by decide)

/-- A message for the handler of tracks, longer than the buffer. -/
def longTrack : BrokerMessage where
  type := "track".toList
  text := List.replicate 20 '7'

/-- The handler is called with a length that leaves the buffer. -/
theorem longTrack_not_passesText :
    ¬ ∀ handled ∈
        trackClient.handledMessages none clearMemory []
          [.received longTrack.serialize],
      handled.PassesText trackClient.handlersTbl
        trackClient.bufferSize.toNat longTrack := by
  intro claim
  have passes := claim
    (trackClient.handle longTrack.serialize (List.replicate 16 '\x00'))
    List.mem_cons_self
  exact absurd
    (fits_of_passesText ⟨by decide, by decide, by decide⟩ passes)
    (by decide)

/-- Messages that fit are all handled, in their order. -/
theorem rawLoop_passesText
    {client : BrokerClient Handler}
    (memory : List Char)
    (arrivals : List (Arrival client.handlersTbl))
    (haveHandlers :
      ∀ message ∈ receivedMessages arrivals,
        HasHandler client.handlersTbl client.bufferSize.toNat message) :
    List.Forall₂
      (fun message handled => handled.PassesText client.handlersTbl
        client.bufferSize.toNat message)
      (receivedMessages arrivals)
      (client.rawLoop memory (arrivals.map Arrival.toEvent)) := by
  induction arrivals generalizing memory with
  | nil => exact .nil
  | cons arrival later inductionHypothesis =>
      cases arrival with
      | timeout => exact inductionHypothesis memory haveHandlers
      | stop => exact .nil
      | delivered delivery =>
          rw [receivedMessages, List.forall_mem_cons] at haveHandlers
          obtain ⟨has, others⟩ := haveHandlers
          have passes := handle_passesText
            ⟨delivery.noSpace, has.nulFree, has.registered⟩ has.fits memory
          obtain ⟨handler, msg, len, -, called, -⟩ := passes.passed
          rw [receivedMessages, List.map_cons, Arrival.toEvent,
            rawLoop_ok called]
          exact .cons passes (inductionHypothesis _ others)

/-! ## The buffer without the memory behind it -/

/-- What a handler reads through its pointer, as far as it is in the buffer. -/
def RawCall.read
    (bufferSize : Nat)
    (memory : List Char)
    (call : RawCall Handler) :
    HandlerCall Handler where
  handler := call.handler
  msg :=
    if call.msg + call.len ≤ bufferSize then
      some ((memory.drop call.msg).take call.len)
    else
      none

/-- Receiving a message changes the buffer only. -/
theorem zmqRecv_append
    {size : Nat}
    (bytes : List Char)
    (buffer : Vector Char size)
    (behind : List Char) :
    zmqRecv bytes size (buffer.toList ++ behind) =
      (receive bytes buffer).toList ++ behind := by
  rw [zmqRecv, toList_receive, List.append_assoc,
    List.drop_append_of_le_length (by simp)]
  rcases Nat.le_total bytes.length size with fits | exceeds
  · rw [min_eq_left fits]
  · rw [min_eq_right exceeds, List.drop_of_length_le (by simp),
      List.drop_of_length_le (by simpa using exceeds)]

/-- A search that stays in the buffer does not depend on what is behind. -/
theorem strstr_append_of_reads
    {buffer behind : List Char}
    (inside : strstrReads (buffer ++ behind) ≤ buffer.length) :
    strstr (buffer ++ behind) = strstr buffer := by
  unfold strstrReads at inside
  unfold strstr
  rw [List.takeWhile_append] at inside ⊢
  split_ifs at inside ⊢ with all
  · rw [List.length_append] at inside
    omega
  · dsimp only
    rw [List.getElem?_append_left (by omega)]

/-- The space is the last byte that is read. -/
theorem strstrReads_of_strstr
    {memory : List Char}
    {position : Nat}
    (found : strstr memory = some position) :
    strstrReads memory = position + 1 := by
  unfold strstr at found
  obtain ⟨-, same⟩ := Option.ite_none_right_eq_some.mp found
  rw [← Option.some.inj same, strstrReads]

/-- A search that stays in the buffer finds the same handler. -/
theorem dispatch_eq_rawDispatch
    (client : BrokerClient Handler)
    {buffer behind : List Char}
    {messageSize : Nat}
    (inside : strstrReads (buffer ++ behind) ≤ buffer.length)
    (smallBuffer : buffer.length < 2 ^ 32)
    (smallMessage : messageSize < 2 ^ 64) :
    client.dispatch buffer messageSize =
      (client.rawDispatch (buffer ++ behind) messageSize).map
        (Option.map (RawCall.read buffer.length (buffer ++ behind))) := by
  rw [dispatch, rawDispatch, strstr_append_of_reads inside]
  cases found : strstr buffer with
  | none => rfl
  | some position =>
      rw [strstrReads_of_strstr
        ((strstr_append_of_reads inside).trans found)] at inside
      dsimp only
      rw [List.take_append_of_le_length (by omega)]
      split_ifs with positive sizes
      · cases client.handlersTbl.lookup (buffer.take position) with
        | none => rfl
        | some handler =>
            simp only [Except.map, Option.map_some, RawCall.read]
            rw [toSize_natCast_sub sizes.1 smallMessage, if_pos (by omega),
              List.drop_append_of_le_length inside,
              List.take_append_of_le_length (by simp; omega)]
      · cases client.handlersTbl.lookup (buffer.take position) with
        | none => rfl
        | some handler =>
            simp only [Except.map, Option.map_some, RawCall.read]
            rw [if_neg]
            unfold toSize
            omega
      · rfl

/-- A message whose handler is found in the buffer is dispatched alike. -/
theorem dispatch_receive
    {client : BrokerClient Handler}
    {bytes : List Char}
    {buffer : Vector Char client.bufferSize.toNat}
    {behind : List Char}
    (reads :
      strstrReads
          (zmqRecv bytes client.bufferSize.toNat (buffer.toList ++ behind)) ≤
        client.bufferSize.toNat)
    (small : bytes.length < 2 ^ 64) :
    client.dispatch (receive bytes buffer).toList bytes.length =
      (client.rawDispatch
          (zmqRecv bytes client.bufferSize.toNat (buffer.toList ++ behind))
          bytes.length).map
        (Option.map
          (RawCall.read client.bufferSize.toNat
            (zmqRecv bytes client.bufferSize.toNat
              (buffer.toList ++ behind)))) := by
  have size : (receive bytes buffer).toList.length =
      client.bufferSize.toNat :=
    Vector.length_toList
  rw [zmqRecv_append] at reads ⊢
  have stays :
      strstrReads ((receive bytes buffer).toList ++ behind) ≤
        (receive bytes buffer).toList.length := by
    rwa [size]
  have smallBuffer : (receive bytes buffer).toList.length < 2 ^ 32 := by
    rw [size]
    exact client.bufferSize.toNat_lt
  have same := dispatch_eq_rawDispatch client stays smallBuffer small
  rwa [size] at same

/-- The calls for handled messages, as the handlers see them. -/
def handledCalls
    (bufferSize : Nat)
    (handled : List (Handled Handler)) :
    List (HandlerCall Handler) :=
  handled.flatMap fun handled =>
    match handled.call with
    | .ok (some call) => [call.read bufferSize handled.memory]
    | _ => []

/-- While all searches stay in the buffer, the loop makes the same calls. -/
theorem messageLoop_calls
    {client : BrokerClient Handler}
    (buffer : Vector Char client.bufferSize.toNat)
    (behind : List Char)
    (events : List BrokerEvent)
    (inside :
      ∀ handled ∈ client.rawLoop (buffer.toList ++ behind) events,
        handled.bytesRead ≤ client.bufferSize.toNat ∧
          handled.bytes.length < 2 ^ 64) :
    (client.messageLoop buffer events).calls =
      handledCalls client.bufferSize.toNat
        (client.rawLoop (buffer.toList ++ behind) events) := by
  induction events generalizing buffer with
  | nil => rfl
  | cons event later inductionHypothesis =>
      cases event with
      | timeout => exact inductionHypothesis buffer inside
      | received bytes =>
          have handledFirst :
              client.handle bytes (buffer.toList ++ behind) ∈
                client.rawLoop (buffer.toList ++ behind)
                  (.received bytes :: later) := by
            rw [rawLoop]
            split <;> exact List.mem_cons_self
          obtain ⟨reads, small⟩ := inside _ handledFirst
          rw [messageLoop, dispatch_receive reads small]
          cases called : client.rawDispatch
              (zmqRecv bytes client.bufferSize.toNat
                (buffer.toList ++ behind)) bytes.length with
          | error error =>
              rw [rawLoop_error called]
              simp [handledCalls, handle, called, Except.map]
          | ok call =>
              rw [rawLoop_ok called] at inside ⊢
              obtain ⟨-, others⟩ := List.forall_mem_cons.mp inside
              rw [zmqRecv_append] at others
              have rest := inductionHypothesis _ others
              rw [← zmqRecv_append] at rest
              simp only [Except.map, rest, handledCalls, List.flatMap_cons,
                handle, called]
              cases call <;> rfl
      | stop => rfl
      | receiveFails terminated => cases terminated <;> rfl
      | pollThrows what => rfl

end Radar.BrokerClient
