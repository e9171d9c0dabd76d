import Radar.StandardLibrary
import Radar.TargetServer

namespace Radar.Server

/-!
# The counter of clients

`_clients_counter` is kept beside the list of clients.  It agrees with the
list as long as `stop` has no clients to clear, because `stop` clears the list
but not the counter.
-/

open CatalogTle (OrbitReader)

variable {Elements : Type} {reader : OrbitReader Elements}

/-- The counter is right and no entry shares the list with too many others. -/
structure CountsClients (server : Server Elements) : Prop where
  counter : server.clientsCounter.toNat = server.clients.length
  limit :
    ∀ conn ∈ server.clients, server.clients.length ≤ conn.limit.toNat

/--
A step spares the clients if it is not a `stop` that gets as far as clearing a
list with entries: the list is empty, the acceptor ends the function early, or
a connection cannot be shut down.
-/
def SparesClients (server : Server Elements) : Label → Prop
  | .stop faults =>
      server.clients = [] ∨
        server.accOpen ∧ (faults.cancelFails ∨ faults.closeFails) ∨
        faults.shutdownThrows
  | _ => True

/-! ## The invariant -/

/-- What holds between two steps as long as the clients are spared. -/
structure Tidy (server : Server Elements) : Prop where
  counter : server.clientsCounter.toNat = server.clients.length
  limit : ∀ conn ∈ server.clients, conn.limit = server.maxConnections
  bounded : server.clients.length ≤ server.maxConnections.toNat
  whileStopped : server.stopped = true → server.clients = []
  sockets : (server.clients.map Connection.socket).Nodup
  old : ∀ conn ∈ server.clients, conn.socket < server.accepted
  listed :
    ∀ socket ∈ server.reads,
      ∃ conn ∈ server.clients, conn.socket = socket
  once : server.reads.Nodup

theorem Tidy.countsClients
    {server : Server Elements}
    (tidy : Tidy server) :
    CountsClients server where
  counter := tidy.counter
  limit conn member := by
    rw [tidy.limit conn member]
    exact tidy.bounded

theorem tidy_new
    (port : UInt16)
    (maxConnections : UInt32)
    (tlePath : String) :
    Tidy (new port maxConnections tlePath : Server Elements) where
  counter := rfl
  limit := by simp [new]
  bounded := Nat.zero_le _
  whileStopped _ := rfl
  sockets := .nil
  old := by simp [new]
  listed := by simp [new]
  once := .nil

/-- What the calls between two sessions leave alone. -/
structure SameClients (earlier later : Server Elements) : Prop where
  clients : later.clients = earlier.clients
  clientsCounter : later.clientsCounter = earlier.clientsCounter
  accepted : later.accepted = earlier.accepted
  reads : later.reads = earlier.reads
  stopped : later.stopped = true → earlier.stopped = true

theorem SameClients.refl (server : Server Elements) :
    SameClients server server :=
  ⟨rfl, rfl, rfl, rfl, id⟩

theorem sameClients_loadConfig
    (server : Server Elements)
    (conf : ConfigManager) :
    SameClients server (server.loadConfig conf).1 ∧
      (server.stopped = false → (server.loadConfig conf).1 = server) := by
  unfold loadConfig
  split
  · exact ⟨.refl server, fun _ => rfl⟩
  · next stopped =>
      refine ⟨?_, fun running => (stopped running).elim⟩
      split
      · exact .refl server
      · split
        · exact .refl server
        · dsimp only
          split
          · exact ⟨rfl, rfl, rfl, rfl, id⟩
          · split
            · exact ⟨rfl, rfl, rfl, rfl, id⟩
            · exact ⟨rfl, rfl, rfl, rfl, id⟩

theorem sameClients_start
    (server : Server Elements)
    (files : String → Option (List Line))
    (faults : StartFaults) :
    SameClients server (server.start reader files faults).1 ∧
      (server.start reader files faults).1.maxConnections =
        server.maxConnections := by
  unfold start
  split
  · exact ⟨.refl server, rfl⟩
  · next stopped =>
      rw [Bool.not_eq_false] at stopped
      split
      · exact ⟨.refl server, rfl⟩
      · dsimp only
        split
        · exact ⟨⟨rfl, rfl, rfl, rfl, id⟩, rfl⟩
        · exact ⟨⟨rfl, rfl, rfl, rfl, id⟩, rfl⟩
        · split
          · exact ⟨⟨rfl, rfl, rfl, rfl, id⟩, rfl⟩
          · split
            · exact ⟨⟨rfl, rfl, rfl, rfl, id⟩, rfl⟩
            · split
              · exact ⟨⟨rfl, rfl, rfl, rfl, id⟩, rfl⟩
              · exact ⟨⟨rfl, rfl, rfl, rfl, fun _ => stopped⟩, rfl⟩

/-- Calls that leave clients and limit alone keep the server tidy. -/
theorem Tidy.of_sameClients
    {earlier later : Server Elements}
    (tidy : Tidy earlier)
    (same : SameClients earlier later)
    (limit :
      later.maxConnections = earlier.maxConnections ∨
        earlier.clients = []) :
    Tidy later := by
  obtain ⟨clients, clientsCounter, accepted, reads, stopped⟩ := same
  refine ⟨?_, ?_, ?_, ?_, ?_, ?_, ?_, ?_⟩
  · rw [clientsCounter, clients]
    exact tidy.counter
  · rw [clients]
    rcases limit with sameLimit | noClients
    · rw [sameLimit]
      exact tidy.limit
    · simp [noClients]
  · rw [clients]
    rcases limit with sameLimit | noClients
    · rw [sameLimit]
      exact tidy.bounded
    · simp [noClients]
  · intro isStopped
    rw [clients]
    exact tidy.whileStopped (stopped isStopped)
  · rw [clients]
    exact tidy.sockets
  · rw [clients, accepted]
    exact tidy.old
  · rw [clients, reads]
    exact tidy.listed
  · rw [reads]
    exact tidy.once

theorem Tidy.loadConfig
    {server : Server Elements}
    (tidy : Tidy server)
    (conf : ConfigManager) :
    Tidy (server.loadConfig conf).1 := by
  obtain ⟨same, whileRunning⟩ := sameClients_loadConfig server conf
  cases stopped : server.stopped with
  | false =>
      rw [whileRunning stopped]
      exact tidy
  | true =>
      exact tidy.of_sameClients same (.inr (tidy.whileStopped stopped))

theorem Tidy.start
    {server : Server Elements}
    (tidy : Tidy server)
    (files : String → Option (List Line))
    (faults : StartFaults) :
    Tidy (server.start reader files faults).1 := by
  obtain ⟨same, sameLimit⟩ := sameClients_start server files faults
  exact tidy.of_sameClients same (.inl sameLimit)

/-- A `stop` that spares the clients keeps the server tidy. -/
theorem Tidy.stop
    {server : Server Elements}
    (tidy : Tidy server)
    {faults : StopFaults}
    (spares : SparesClients server (.stop faults)) :
    Tidy (server.stop faults).1 := by
  unfold Server.stop
  dsimp only
  split
  · exact tidy.of_sameClients ⟨rfl, rfl, rfl, rfl, id⟩ (.inl rfl)
  · next reached =>
      split
      · exact tidy.of_sameClients ⟨rfl, rfl, rfl, rfl, id⟩ (.inl rfl)
      · next cleared =>
          have noClients : server.clients = [] := by
            by_contra someClients
            rcases spares with noClients | early | throws
            · exact someClients noClients
            · exact reached early
            · exact cleared ⟨someClients, throws⟩
          refine ⟨?_, ?_, ?_, fun _ => rfl, ?_, ?_, ?_, tidy.once⟩
          · rw [tidy.counter, noClients]
          · simp
          · exact Nat.zero_le _
          · exact .nil
          · simp
          · intro socket member
            obtain ⟨conn, inList, _⟩ := tidy.listed socket member
            rw [noClients] at inList
            cases inList

/-- The next socket is the one of no connection. -/
theorem Tidy.notMem_sockets
    {server : Server Elements}
    (tidy : Tidy server) :
    server.accepted ∉ server.clients.map Connection.socket := by
  intro inList
  obtain ⟨conn, member, same⟩ := List.mem_map.mp inList
  exact Nat.ne_of_lt (tidy.old conn member) same

/-- No read of the next socket is under way. -/
theorem Tidy.notMem_reads
    {server : Server Elements}
    (tidy : Tidy server) :
    server.accepted ∉ server.reads := by
  intro underway
  obtain ⟨conn, member, same⟩ := tidy.listed _ underway
  exact Nat.ne_of_lt (tidy.old conn member) same

/-- Below the limit there is room for one more connection. -/
theorem Tidy.room
    {server : Server Elements}
    (tidy : Tidy server)
    (below : server.clientsCounter ≠ server.maxConnections) :
    server.clients.length + 1 ≤ server.maxConnections.toNat := by
  have notFull : server.clients.length ≠ server.maxConnections.toNat := by
    rw [← tidy.counter]
    exact fun full => below (UInt32.toNat_inj.mp full)
  have := tidy.bounded
  omega

/-- A connection that is accepted below the limit keeps the server tidy. -/
theorem Tidy.append
    {server : Server Elements}
    (tidy : Tidy server)
    (running : server.stopped = false)
    (below : server.clientsCounter ≠ server.maxConnections) :
    Tidy
      { server with
        clients := server.clients ++ [⟨server.accepted, server.maxConnections⟩]
        clientsCounter := server.clientsCounter + 1
        accepted := server.accepted + 1
        reads := server.reads ++ [server.accepted] } := by
  have room := tidy.room below
  have inWord := server.maxConnections.toNat_lt
  refine ⟨?_, ?_, ?_, ?_, ?_, ?_, ?_, ?_⟩
  · rw [UInt32.toNat_add, tidy.counter, List.length_append]
    exact Nat.mod_eq_of_lt (by
      change server.clients.length + 1 < _
      omega)
  · intro conn member
    rcases List.mem_append.mp member with inList | isNew
    · exact tidy.limit conn inList
    · rw [List.mem_singleton.mp isNew]
  · simpa using room
  · intro isStopped
    rw [running] at isStopped
    cases isStopped
  · rw [List.map_append]
    exact
      tidy.sockets.append (List.nodup_singleton _)
        (List.disjoint_singleton.mpr tidy.notMem_sockets)
  · intro conn member
    rcases List.mem_append.mp member with inList | isNew
    · exact Nat.lt_succ_of_lt (tidy.old conn inList)
    · rw [List.mem_singleton.mp isNew]
      exact Nat.lt_succ_self _
  · intro socket member
    rcases List.mem_append.mp member with inList | isNew
    · obtain ⟨conn, inClients, same⟩ := tidy.listed socket inList
      exact ⟨conn, List.mem_append_left _ inClients, same⟩
    · rw [List.mem_singleton.mp isNew]
      exact ⟨_, List.mem_append_right _ List.mem_cons_self, rfl⟩
  · exact
      tidy.once.append (List.nodup_singleton _)
        (List.disjoint_singleton.mpr tidy.notMem_reads)

/-- The completion of an accept keeps the server tidy. -/
theorem Tidy.onAccept
    {server : Server Elements}
    (tidy : Tidy server)
    (running : server.stopped = false)
    (result : AcceptResult) :
    Tidy (server.onAccept result) := by
  have nextSocket :
      Tidy { server with accepted := server.accepted + 1 } :=
    { tidy with
      old := fun conn member =>
        Nat.lt_succ_of_lt (tidy.old conn member) }
  unfold Server.onAccept
  split
  · exact tidy
  · exact tidy
  · split
    · exact nextSocket
    · next below =>
        split
        · exact nextSocket
        · exact tidy.append running below

/-- The connection of a read under way is in the list. -/
theorem Tidy.listed_any
    {server : Server Elements}
    (tidy : Tidy server)
    {socket : Nat}
    (underway : socket ∈ server.reads) :
    (server.clients.any fun conn => conn.socket = socket) = true := by
  obtain ⟨conn, member, same⟩ := tidy.listed socket underway
  exact List.any_eq_true.mpr ⟨conn, member, by simpa using same⟩

/-- A read under way on a tidy server has a defined effect. -/
theorem Tidy.onRead_ne_none
    {server : Server Elements}
    (tidy : Tidy server)
    {socket : Nat}
    (underway : socket ∈ server.reads)
    (result : ReadResult) :
    server.onRead socket result ≠ none := by
  have listed := tidy.listed_any underway
  unfold Server.onRead
  cases result <;> simp [listed]

/-- Taking one connection out of the list takes one entry. -/
theorem Tidy.length_filter
    {server : Server Elements}
    (tidy : Tidy server)
    {socket : Nat}
    (underway : socket ∈ server.reads) :
    (server.clients.filter fun conn => conn.socket ≠ socket).length + 1 =
      server.clients.length := by
  obtain ⟨conn, member, same⟩ := tidy.listed socket underway
  have inSockets : socket ∈ server.clients.map Connection.socket :=
    List.mem_map.mpr ⟨conn, member, same⟩
  have erased := List.length_erase_of_mem inSockets
  have nonempty := List.length_pos_of_mem inSockets
  rw [tidy.sockets.erase_eq_filter, List.filter_map, List.length_map,
    List.length_map] at erased
  rw [List.length_map] at nonempty
  have sameTest :
      (fun other : Nat => other != socket) ∘ Connection.socket =
        fun conn : Connection => decide (conn.socket ≠ socket) := by
    funext conn
    by_cases isSocket : conn.socket = socket <;> simp [isSocket]
  rw [sameTest] at erased
  omega

/-- The completion of a read keeps the server tidy. -/
theorem Tidy.onRead
    {server next : Server Elements}
    (tidy : Tidy server)
    (running : server.stopped = false)
    {socket : Nat}
    (underway : socket ∈ server.reads)
    {result : ReadResult}
    (effect : server.onRead socket result = some next) :
    Tidy next := by
  have listed := tidy.listed_any underway
  unfold Server.onRead at effect
  cases result with
  | failed =>
      cases effect
      exact
        { tidy with
          listed := fun other member =>
            tidy.listed other (List.mem_of_mem_erase member)
          once := tidy.once.erase socket }
  | message =>
      simp only [listed, if_true, Option.some.injEq] at effect
      rw [← effect]
      exact tidy
  | closed =>
      simp only [listed, if_true, Option.some.injEq] at effect
      rw [← effect]
      have fewer := tidy.length_filter underway
      have counter := tidy.counter
      have sublist :
          (server.clients.filter fun conn => conn.socket ≠ socket).Sublist
            server.clients := List.filter_sublist
      refine ⟨?_, ?_, ?_, ?_, ?_, ?_, ?_, tidy.once.erase socket⟩
      · have one : (1 : UInt32) ≤ server.clientsCounter := by
          rw [UInt32.le_iff_toNat_le, counter, UInt32.toNat_one]
          omega
        rw [UInt32.toNat_sub_of_le _ _ one, counter, UInt32.toNat_one]
        exact (Nat.eq_sub_of_add_eq fewer).symm
      · intro conn member
        exact tidy.limit conn (sublist.subset member)
      · exact Nat.le_trans sublist.length_le tidy.bounded
      · intro isStopped
        rw [running] at isStopped
        cases isStopped
      · exact tidy.sockets.sublist (sublist.map _)
      · intro conn member
        exact tidy.old conn (sublist.subset member)
      · intro other member
        obtain ⟨different, inReads⟩ := (tidy.once.mem_erase_iff).mp member
        obtain ⟨conn, inClients, same⟩ := tidy.listed other inReads
        exact ⟨conn,
          List.mem_filter.mpr ⟨inClients, by simpa [same] using different⟩,
          same⟩

/-- One step that spares the clients keeps the server tidy. -/
theorem Tidy.step
    {server next : Server Elements}
    {label : Label}
    (tidy : Tidy server)
    (step : Step reader server label next)
    (spares : SparesClients server label) :
    Tidy next := by
  cases step with
  | loadConfig conf =>
      exact tidy.loadConfig conf
  | start files faults =>
      exact tidy.start files faults
  | stop faults =>
      exact tidy.stop spares
  | accept result running =>
      exact tidy.onAccept running result
  | read running underway effect =>
      exact tidy.onRead running underway effect
  | readUndefined running underway undefined =>
      exact (tidy.onRead_ne_none underway _ undefined).elim

/-! ## Runs -/

/-- A step after which the counter is right and the limits are kept. -/
def CountingStep
    (reader : OrbitReader Elements)
    (server : Server Elements)
    (label : Label)
    (next : Server Elements) :
    Prop :=
  Step reader server label next ∧ CountsClients next

/-- A step that spares the clients. -/
def SparingStep
    (reader : OrbitReader Elements)
    (server : Server Elements)
    (label : Label)
    (next : Server Elements) :
    Prop :=
  Step reader server label next ∧ SparesClients server label

/-- A `stop` that clears clients leaves the counter wrong. -/
theorem sparesClients_of_counts
    {server next : Server Elements}
    {label : Label}
    (counts : CountsClients server)
    (step : CountingStep reader server label next) :
    SparesClients server label := by
  obtain ⟨isStep, countsNext⟩ := step
  cases isStep with
  | stop faults =>
      by_contra clears
      simp only [SparesClients, not_or] at clears
      obtain ⟨someClients, reached, shutDown⟩ := clears
      have counter := countsNext.counter
      have notThrown :
          ¬ (server.clients ≠ [] ∧ faults.shutdownThrows = true) :=
        fun thrown => shutDown thrown.2
      simp only [Server.stop, if_neg reached, if_neg notThrown] at counter
      rw [counts.counter, List.length_nil, List.length_eq_zero_iff]
        at counter
      exact someClients counter
  | loadConfig | start | accept | read | readUndefined =>
      trivial

/--
The runs whose states all have the right counter and keep the limits are
exactly the runs in which every `stop` spares the clients.
-/
theorem run_countsClients_iff
    (reader : OrbitReader Elements)
    (port : UInt16)
    (maxConnections : UInt32)
    (tlePath : String)
    (labels : List Label)
    (final : Server Elements) :
    Run (CountingStep reader) (new port maxConnections tlePath) labels
        final ↔
      Run (SparingStep reader) (new port maxConnections tlePath) labels
        final := by
  have fresh : Tidy (new port maxConnections tlePath : Server Elements) :=
    tidy_new port maxConnections tlePath
  have spares
      {server next : Server Elements}
      {label : Label}
      (tidy : Tidy server)
      (step : CountingStep reader server label next) :
      SparesClients server label :=
    sparesClients_of_counts tidy.countsClients step
  refine Run.congr fresh (fun tidy => ?_) (fun tidy step => ?_) labels final
  · constructor
    · exact fun step => ⟨step.1, spares tidy step⟩
    · exact fun step => ⟨step.1, (tidy.step step.1 step.2).countsClients⟩
  · exact tidy.step step.1 (spares tidy step)

/-- A disk on which every file is empty. -/
def emptyFiles (_ : String) : Option (List Line) := some []

/-- A reader that is never asked for anything. -/
def noOrbits : OrbitReader Unit where
  read _ _ := none

/--
A server with one client is stopped: the counter stays at one without an
entry.  Started again with a limit of one after two clients had been cleared,
a server accepts two clients more.
-/
theorem counter_survives_stop :
    (∃ labels final,
      Run (Step noOrbits) (new 0 0 "") labels final ∧
        final.clientsCounter = 1 ∧ final.clients = [] ∧
        ¬ CountsClients final) ∧
      ∃ labels final,
        Run (Step noOrbits) (new 0 0 "") labels final ∧
          final.clients = [⟨2, 1⟩, ⟨3, 1⟩] := by
  constructor
  · refine ⟨_, _,
      (((Run.nil.snoc _ (.loadConfig _ (settings 1))).snoc _
        (.start _ emptyFiles {})).snoc _
        (.accept (.completed false) (by decide +kernel))).snoc _
        (.stop _ {}), by decide +kernel, by decide +kernel, ?_⟩
    intro counts
    have counter := counts.counter
    revert counter
    decide +kernel
  · exact ⟨_, _,
      ((((((((Run.nil.snoc _ (.loadConfig _ (settings 2))).snoc _
        (.start _ emptyFiles {})).snoc _
        (.accept (.completed false) (by decide +kernel))).snoc _
        (.accept (.completed false) (by decide +kernel))).snoc _
        (.stop _ {})).snoc _
        (.loadConfig _ (settings 1))).snoc _
        (.start _ emptyFiles {})).snoc _
        (.accept (.completed false) (by decide +kernel))).snoc _
        (.accept (.completed false) (by decide +kernel)),
      by decide +kernel⟩

end Radar.Server
