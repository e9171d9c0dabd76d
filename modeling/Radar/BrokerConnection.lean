import Radar.MessageBroker
import Radar.StandardLibrary

namespace Radar.BrokerClient

/-!
# The sockets of the broker's client

`disconnect` and a `connect` that fails reset the pointers and leave the flag
`_connected` as it is.  The flag is right as long as neither of them happens to
a connected client.
-/

variable {Handler : Type}

/-- The calls of a client. -/
inductive Label (Handler : Type) where
  | loadConfig (conf : ConfigManager)
  | connect (fault : Option (ConnectStep × String))
  | disconnect
  | registerHandler (type : List Char) (handler : Handler)
  | sendMessage (message : BrokerMessage) (fault : Option String)
  | startMessageProcessing (fault : Option String)
  | stopMessageProcessing

/--
What a call returns and leaves behind.  Processing messages changes nothing
after its beginning, so that other calls can be made until it is stopped.
-/
def apply (client : BrokerClient Handler) :
    Label Handler → Except BrokerError Unit × BrokerClient Handler
  | .loadConfig conf => client.loadConfig conf
  | .connect fault => client.connect fault
  | .disconnect => (.ok (), client.disconnect)
  | .registerHandler type handler => client.registerHandler type handler
  | .sendMessage message fault =>
      ((client.sendMessage message fault).map fun _ => (), client)
  | .startMessageProcessing fault => client.beginProcessing fault
  | .stopMessageProcessing => (.ok (), client.stopMessageProcessing)

/-- One call; a call whose effect is undefined may lead to any state. -/
inductive Step (client : BrokerClient Handler) :
    Label Handler → BrokerClient Handler → Prop where
  | defined
      (label : Label Handler)
      (isDefined : (client.apply label).1 ≠ .error .undefined) :
      Step client label (client.apply label).2
  | undefined
      {label : Label Handler}
      (isUndefined : (client.apply label).1 = .error .undefined)
      (next : BrokerClient Handler) :
      Step client label next

/--
The flag is set only if all pointers are, and no call uses a pointer that is
not set.
-/
structure SocketsSet (client : BrokerClient Handler) : Prop where
  whileConnected :
    client.connected = true →
      client.ctx = true ∧ client.output = true ∧ client.input = true
  defined : ∀ label, (client.apply label).1 ≠ .error .undefined

/--
The calls that leave the sockets of a connected client alone: a `connect` that
succeeds and a `disconnect` that is ignored.
-/
def SparesSockets (client : BrokerClient Handler) : Label Handler → Prop
  | .connect fault =>
      client.connected = true → client.configLoaded = true → fault = none
  | .disconnect =>
      client.connected = false ∨ client.messageProcessing = true
  | _ => True

/-! ## One call -/

/-- Do two states have the same pointers and the same flag? -/
structure SameConnection (client next : BrokerClient Handler) : Prop where
  ctx : next.ctx = client.ctx
  output : next.output = client.output
  input : next.input = client.input
  connected : next.connected = client.connected

theorem SameConnection.refl (client : BrokerClient Handler) :
    SameConnection client client :=
  ⟨rfl, rfl, rfl, rfl⟩

theorem SameConnection.trans
    {client middle next : BrokerClient Handler}
    (first : SameConnection client middle)
    (second : SameConnection middle next) :
    SameConnection client next :=
  ⟨second.ctx.trans first.ctx, second.output.trans first.output,
    second.input.trans first.input, second.connected.trans first.connected⟩

/-- Reading a setting changes no pointer. -/
theorem settingReaders_same
    {reader : SettingReader Handler}
    (member : reader ∈ settingReaders)
    {settings : Json}
    {assign : BrokerClient Handler → BrokerClient Handler}
    (read : reader settings = .ok assign)
    (client : BrokerClient Handler) :
    SameConnection client (assign client) := by
  simp only [settingReaders, List.mem_cons, List.not_mem_nil, or_false]
    at member
  have keeps
      {Value : Type}
      {value : Except String Value}
      {change : Value → BrokerClient Handler → BrokerClient Handler}
      (changes :
        ∀ found, SameConnection client (change found client))
      (bound : (value >>= fun found => pure (change found)) = .ok assign) :
      SameConnection client (assign client) := by
    cases value with
    | error what => cases bound
    | ok found =>
        cases bound
        exact changes found
  rcases member with rfl | rfl | rfl | rfl | rfl | rfl <;>
    exact keeps (fun _ => ⟨rfl, rfl, rfl, rfl⟩) read

/-- Reading settings changes no pointer. -/
theorem readSettings_same
    {readers : List (SettingReader Handler)}
    (known : ∀ reader ∈ readers, reader ∈ settingReaders)
    (settings : Json)
    (client : BrokerClient Handler) :
    SameConnection client (readSettings settings readers client).2 := by
  induction readers generalizing client with
  | nil => exact SameConnection.refl client
  | cons reader later inductionHypothesis =>
      rw [readSettings]
      cases read : reader settings with
      | error what => exact SameConnection.refl client
      | ok assign =>
          have first :=
            settingReaders_same (known reader List.mem_cons_self) read client
          exact
            first.trans
              (inductionHypothesis
                (fun other member => known other (List.mem_cons_of_mem _ member))
                (assign client))

/-- Loading a configuration changes no pointer. -/
theorem loadConfig_same
    (conf : ConfigManager)
    (client : BrokerClient Handler) :
    SameConnection client (client.loadConfig conf).2 := by
  unfold loadConfig
  cases conf.getSection "message_broker_settings" with
  | error what => exact SameConnection.refl client
  | ok settings =>
      have same :=
        readSettings_same (fun _ member => member) settings client
      dsimp only
      split
      case h_1 read => rwa [read] at same
      case h_2 read =>
        rw [read] at same
        exact ⟨same.ctx, same.output, same.input, same.connected⟩

/-- No call but these two changes a pointer or the flag. -/
theorem apply_same
    (client : BrokerClient Handler)
    {label : Label Handler}
    (noConnect : ∀ fault, label ≠ .connect fault)
    (noDisconnect : label ≠ .disconnect) :
    SameConnection client (client.apply label).2 := by
  cases label with
  | connect fault => exact absurd rfl (noConnect fault)
  | disconnect => exact absurd rfl noDisconnect
  | loadConfig conf => exact loadConfig_same conf client
  | registerHandler type handler =>
      simp only [apply, registerHandler]
      split
      · exact SameConnection.refl client
      · split <;> exact ⟨rfl, rfl, rfl, rfl⟩
  | sendMessage message fault => exact SameConnection.refl client
  | startMessageProcessing fault =>
      simp only [apply, beginProcessing]
      repeat' split
      all_goals exact ⟨rfl, rfl, rfl, rfl⟩
  | stopMessageProcessing => exact ⟨rfl, rfl, rfl, rfl⟩

/-- Sending a message uses a socket that is set. -/
theorem sendMessage_defined
    {client : BrokerClient Handler}
    (output : client.connected = true → client.output = true)
    (message : BrokerMessage)
    (fault : Option String) :
    client.sendMessage message fault ≠ .error .undefined := by
  unfold sendMessage
  cases connected : client.connected with
  | false => split <;> simp
  | true =>
      rw [output connected]
      cases client.configLoaded <;> cases fault <;> simp

/-- Starting to process messages uses a socket that is set. -/
theorem beginProcessing_defined
    {client : BrokerClient Handler}
    (input : client.connected = true → client.input = true)
    (fault : Option String) :
    (client.beginProcessing fault).1 ≠ .error .undefined := by
  unfold beginProcessing
  cases connected : client.connected with
  | false => split <;> simp
  | true =>
      rw [input connected]
      cases client.messageProcessing <;> cases client.handlersTbl.isEmpty <;>
        cases fault <;> simp

/-- The flag alone decides whether sockets are used. -/
theorem socketsSet_iff (client : BrokerClient Handler) :
    SocketsSet client ↔
      (client.connected = true →
        client.ctx = true ∧ client.output = true ∧ client.input = true) := by
  refine ⟨SocketsSet.whileConnected, fun set => ⟨set, fun label => ?_⟩⟩
  cases label with
  | loadConfig conf =>
      simp only [apply, loadConfig]
      split
      · simp
      · split <;> simp
  | connect fault =>
      simp only [apply, connect]
      split
      · simp
      · split <;> simp
  | disconnect => simp [apply]
  | registerHandler type handler =>
      simp only [apply, registerHandler]
      split
      · simp
      · split <;> simp
  | sendMessage message fault =>
      have sends :=
        sendMessage_defined (fun connected => (set connected).2.1) message
          fault
      simp only [apply]
      cases sent : client.sendMessage message fault with
      | ok bytes => simp [Except.map]
      | error error =>
          rw [sent] at sends
          simpa [Except.map] using sends
  | startMessageProcessing fault =>
      exact beginProcessing_defined (fun connected => (set connected).2.2) fault
  | stopMessageProcessing => simp [apply]

/-- A call leaves the pointers set exactly if it spares the sockets. -/
theorem Step.socketsSet_iff
    {client next : BrokerClient Handler}
    {label : Label Handler}
    (set : SocketsSet client)
    (step : Step client label next) :
    SocketsSet next ↔ SparesSockets client label := by
  cases step with
  | undefined isUndefined next => exact absurd isUndefined (set.defined label)
  | defined _ =>
      have unchanged
          (same : SameConnection client (client.apply label).2) :
          SocketsSet (client.apply label).2 := by
        rw [BrokerClient.socketsSet_iff, same.ctx, same.output, same.input,
          same.connected]
        exact set.whileConnected
      have other
          (noConnect : ∀ fault, label ≠ .connect fault)
          (noDisconnect : label ≠ .disconnect) :
          SocketsSet (client.apply label).2 :=
        unchanged (apply_same client noConnect noDisconnect)
      cases label with
      | connect fault =>
          simp only [apply, connect, SparesSockets]
          cases loaded : client.configLoaded with
          | false => simpa using set
          | true =>
              rw [BrokerClient.socketsSet_iff]
              cases fault with
              | none => simp
              | some failure => simp
      | disconnect =>
          simp only [apply, disconnect, SparesSockets]
          split
          case isTrue ignored => exact iff_of_true set ignored
          case isFalse taken =>
            rw [BrokerClient.socketsSet_iff]
            refine iff_of_false (fun pointers => ?_) taken
            have connected : client.connected = true := by
              simpa using fun notConnected => taken (Or.inl notConnected)
            exact absurd (pointers connected).1 (by simp)
      | loadConfig | registerHandler | sendMessage | startMessageProcessing
      | stopMessageProcessing =>
          exact iff_of_true (other (by simp) (by simp)) trivial

/-! ## Runs -/

/-- A new client is not connected. -/
theorem socketsSet_new (bufferSize pollInterval heartbeatInterval : UInt32) :
    SocketsSet
      (new bufferSize pollInterval heartbeatInterval : BrokerClient Handler) :=
  (socketsSet_iff _).mpr (by simp [new])

/--
The runs in which the flag is right after every call are exactly the runs in
which every call spares the sockets of a connected client.
-/
theorem run_socketsSet_iff
    (bufferSize pollInterval heartbeatInterval : UInt32)
    (labels : List (Label Handler))
    (final : BrokerClient Handler) :
    Run
        (fun client label next => Step client label next ∧ SocketsSet next)
        (new bufferSize pollInterval heartbeatInterval) labels final ↔
      Run
        (fun client label next =>
          Step client label next ∧ SparesSockets client label)
        (new bufferSize pollInterval heartbeatInterval) labels final :=
  Run.congr (socketsSet_new bufferSize pollInterval heartbeatInterval)
    (fun set => and_congr_right fun step => step.socketsSet_iff set)
    (fun _ step => step.2) labels final

/-- Settings of the broker on this computer. -/
def settings : ConfigManager where
  jsonConfig :=
    .object
      [("message_broker_settings",
        .object
          [("server_ip", .string "127.0.0.1"),
            ("server_pub_port", .string "5896"),
            ("server_sub_port", .string "5897"),
            ("client_pub_port", .string "5897"),
            ("client_sub_port", .string "5896"),
            ("buffer_size", .integer 2048),
            ("poll_interval", .integer 10),
            ("heartbeat_interval", .integer 2000)])]
  configLoaded := true

/-- A client that has been disconnected still takes itself for connected. -/
theorem disconnect_not_socketsSet :
    ¬ ∀ (labels : List (Label Unit)) (final : BrokerClient Unit),
      Run Step (new 0 0 0) labels final → SocketsSet final := by
  intro claim
  have start : Run Step (new 0 0 0 : BrokerClient Unit) [] (new 0 0 0) := .nil
  have loaded := start.snoc _ (Step.defined (.loadConfig settings) (by decide))
  have connected := loaded.snoc _ (Step.defined (.connect none) (by decide))
  have disconnected := connected.snoc _ (Step.defined .disconnect (by decide))
  have set := (claim _ _ disconnected).whileConnected (by decide)
  revert set
  decide

end Radar.BrokerClient
