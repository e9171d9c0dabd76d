import Radar.StandardLibrary
import Radar.TargetClient

namespace Radar.Client

/-!
# The connection of the client

The flag `_connected` and the state of the socket are changed by different
functions.  They agree as long as every attempt to connect ends before the
socket is open or with a registration, and every connection is shut down.
-/

/-- The calls of a client. -/
inductive Label where
  | loadConfig (isAddress : List Char → Bool) (conf : ConfigManager)
  | connect (result : ConnectResult)
  | getTargets
      (exchange : Exchange)
      (sa : SearchArea)
      (radarLoc : GCSPoint)
      (dur : UInt64)
      (tbl : TargetTable)
  | disconnect (faults : CloseFaults)

variable (parse : List Char → Option Json)

/-- One call that does not end the program. -/
inductive Step : Client → Label → Client → Prop where
  | loadConfig
      (client : Client)
      (isAddress : List Char → Bool)
      (conf : ConfigManager) :
      Step client (.loadConfig isAddress conf)
        (client.loadConfig isAddress conf).2
  | connect (client : Client) (result : ConnectResult) :
      Step client (.connect result) (client.connect result).2
  | getTargets
      (client : Client)
      (exchange : Exchange)
      (sa : SearchArea)
      (radarLoc : GCSPoint)
      (dur : UInt64)
      (tbl : TargetTable)
      (continues :
        (client.getTargets parse exchange sa radarLoc dur tbl).code ≠
          .error .aborted) :
      Step client (.getTargets exchange sa radarLoc dur tbl)
        (client.getTargets parse exchange sa radarLoc dur tbl).client
  | disconnect (client : Client) (faults : CloseFaults) :
      Step client (.disconnect faults) (client.disconnect faults).2

/--
The flag is set while the socket is connected and registered only, and
otherwise the socket is closed, so that the client can connect again.
-/
structure FreshSocket (client : Client) : Prop where
  whileConnected :
    client.connected = true → client.socket = .connected true
  otherwise : client.connected = false → client.socket = .closed
  canConnect :
    client.connected = false → client.configLoaded = true →
      (client.connect (.replied registerSuccessMsg)).1 = .ok

/--
The calls that keep the socket and the flag together: an attempt to connect
ends with an error of opening the socket or with a registration, and the
connection of a connected client is shut down when the client closes it.
-/
def KeepsTogether (client : Client) : Label → Prop
  | .loadConfig _ _ => True
  | .connect result =>
      client.connected = false → client.configLoaded = true →
        result = .openFails ∨ result = .replied registerSuccessMsg
  | .getTargets exchange _ _ _ _ =>
      client.connected = true → ∀ faults,
        exchange = .writeFails faults ∨ exchange = .readFails faults →
          faults.shutdownFails = false
  | .disconnect faults =>
      client.connected = true → faults.shutdownFails = false

/-! ## One call -/

/-- The socket and the flag agree in these two cases only. -/
theorem freshSocket_iff (client : Client) :
    FreshSocket client ↔
      client.connected = true ∧ client.socket = .connected true ∨
        client.connected = false ∧ client.socket = .closed := by
  constructor
  · intro fresh
    cases connected : client.connected with
    | true => exact Or.inl ⟨rfl, fresh.whileConnected connected⟩
    | false => exact Or.inr ⟨rfl, fresh.otherwise connected⟩
  · rintro (⟨connected, socket⟩ | ⟨notConnected, socket⟩)
    · exact
        { whileConnected := fun _ => socket
          otherwise := fun notConnected => by simp [connected] at notConnected
          canConnect := fun notConnected => by
            simp [connected] at notConnected }
    · exact
        { whileConnected := fun connected => by simp [notConnected] at connected
          otherwise := fun _ => socket
          canConnect := fun _ loaded => by
            simp [Client.connect, notConnected, loaded, socket] }

/-- A configuration changes neither the socket nor the flag. -/
theorem loadConfig_keeps
    (isAddress : List Char → Bool)
    (conf : ConfigManager)
    (client : Client) :
    (client.loadConfig isAddress conf).2.socket = client.socket ∧
      (client.loadConfig isAddress conf).2.connected = client.connected := by
  unfold loadConfig
  split
  · exact ⟨rfl, rfl⟩
  · split
    · exact ⟨rfl, rfl⟩
    · split
      · exact ⟨rfl, rfl⟩
      · split
        · exact ⟨rfl, rfl⟩
        · split <;> exact ⟨rfl, rfl⟩

/-- Closing a connection keeps the two together if it is shut down. -/
theorem closeClient_freshSocket_iff
    {client : Client}
    (fresh : FreshSocket client)
    (faults : CloseFaults) :
    FreshSocket (client.closeClient faults).2 ↔
      (client.connected = true → faults.shutdownFails = false) := by
  rw [freshSocket_iff] at fresh ⊢
  obtain ⟨shutdownFails, closeFails⟩ := faults
  rcases fresh with ⟨connected, socket⟩ | ⟨notConnected, socket⟩
  · cases shutdownFails <;> cases closeFails <;>
      simp [closeClient, connected, socket]
  · simp [closeClient, notConnected, socket]

/-- An attempt to connect keeps the two together if it ends in time. -/
theorem connect_freshSocket_iff
    {client : Client}
    (fresh : FreshSocket client)
    (result : ConnectResult) :
    FreshSocket (client.connect result).2 ↔
      (client.connected = false → client.configLoaded = true →
        result = .openFails ∨ result = .replied registerSuccessMsg) := by
  have both := (freshSocket_iff client).mp fresh
  rcases both with ⟨connected, socket⟩ | ⟨notConnected, socket⟩
  · unfold connect
    rw [if_pos connected]
    exact iff_of_true fresh (by simp [connected])
  · cases loaded : client.configLoaded with
    | false =>
        simp only [connect, notConnected, loaded, Bool.false_eq_true, if_false,
          if_true]
        exact iff_of_true fresh (by simp)
    | true =>
        rw [freshSocket_iff]
        cases result with
        | openFails => simp [connect, notConnected, loaded, socket]
        | refused => simp [connect, notConnected, loaded, socket]
        | readFails => simp [connect, notConnected, loaded, socket]
        | replied res =>
            by_cases success : res = registerSuccessMsg
            · simp [connect, notConnected, loaded, socket, success]
            · have unregistered :
                  (client.connect (.replied res)).2 =
                    { client with socket := .connected false } := by
                simp only [connect, notConnected, loaded, socket, success,
                  Bool.false_eq_true, reduceCtorEq, if_false]
                split <;> rfl
              simp [unregistered, notConnected, loaded, success]

/-- A request keeps the two together if a broken connection is shut down. -/
theorem getTargets_freshSocket_iff
    {client : Client}
    (fresh : FreshSocket client)
    (exchange : Exchange)
    (sa : SearchArea)
    (radarLoc : GCSPoint)
    (dur : UInt64)
    (tbl : TargetTable) :
    FreshSocket
        (client.getTargets parse exchange sa radarLoc dur tbl).client ↔
      (client.connected = true → ∀ faults,
        exchange = .writeFails faults ∨ exchange = .readFails faults →
          faults.shutdownFails = false) := by
  unfold getTargets
  cases connected : client.connected with
  | false => exact iff_of_true fresh (by simp)
  | true =>
      cases exchange with
      | writeFails faults =>
          simpa [connected] using closeClient_freshSocket_iff fresh faults
      | readFails faults =>
          simpa [connected] using closeClient_freshSocket_iff fresh faults
      | replied res =>
          simp only [reduceCtorEq, if_false]
          split <;> exact iff_of_true fresh (by simp)

/-- A call keeps the two together exactly if it is one of these calls. -/
theorem Step.freshSocket_iff
    {client next : Client}
    {label : Label}
    (fresh : FreshSocket client)
    (step : Step parse client label next) :
    FreshSocket next ↔ KeepsTogether client label := by
  cases step with
  | loadConfig isAddress conf =>
      obtain ⟨socket, connected⟩ := loadConfig_keeps isAddress conf client
      rw [Client.freshSocket_iff] at fresh
      rw [Client.freshSocket_iff, socket, connected]
      exact iff_of_true fresh trivial
  | connect result => exact connect_freshSocket_iff fresh result
  | getTargets exchange sa radarLoc dur tbl continues =>
      exact
        getTargets_freshSocket_iff parse fresh exchange sa radarLoc dur tbl
  | disconnect faults => exact closeClient_freshSocket_iff fresh faults

/-! ## Runs -/

/-- The socket of a new client is closed. -/
theorem freshSocket_new : FreshSocket new :=
  (freshSocket_iff new).mpr (Or.inr ⟨rfl, rfl⟩)

/--
The runs in which the flag and the socket agree after every call are exactly
the runs in which every call keeps them together.
-/
theorem run_freshSocket_iff (labels : List Label) (final : Client) :
    Run
        (fun client label next =>
          Step parse client label next ∧ FreshSocket next)
        new labels final ↔
      Run
        (fun client label next =>
          Step parse client label next ∧ KeepsTogether client label)
        new labels final :=
  Run.congr freshSocket_new
    (fun fresh => and_congr_right fun step => step.freshSocket_iff parse fresh)
    (fun _ step => step.2) labels final

/-- The client of a full server keeps a socket that it cannot connect. -/
theorem registerFail_not_freshSocket :
    ¬ ∀ (labels : List Label) (final : Client),
      Run (Step Json.parseDocument) new labels final →
        FreshSocket final := by
  intro claim
  have start : Run (Step Json.parseDocument) new [] new := .nil
  have loaded :=
    start.snoc _ (Step.loadConfig new (fun _ => true) (Server.settings 1))
  have refused := loaded.snoc _ (Step.connect _ (.replied registerFailMsg))
  have closed := (claim _ _ refused).otherwise (by decide)
  revert closed
  decide

end Radar.Client
