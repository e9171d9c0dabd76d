import Radar.StandardLibrary
import Radar.TargetServer

namespace Radar.Server

/-!
# The satellite list over sessions

`start` appends the catalogue to the satellite list before it opens the
acceptor, and only `stop` clears the list.  The list is the configured
catalogue after every successful `start` as long as no call of `start` that
does not succeed has found a record to append.
-/

open CatalogTle

variable {Elements : Type} (reader : OrbitReader Elements)

/-- What a call of `start` owes to the satellite list. -/
structure StartKeeps
    (server : Server Elements)
    (files : String → Option (List Line))
    (faults : StartFaults) :
    Prop where
  onSuccess :
    (server.start reader files faults).2 = some .ok →
      ∃ lines records, files server.tlePath = some lines ∧
        Catalogue lines records ∧
        Lists reader records
          (server.start reader files faults).1.satelliteCatalog
  onError :
    ∀ code, (server.start reader files faults).2 = some code → code ≠ .ok →
      (server.start reader files faults).1.satelliteCatalog =
        server.satelliteCatalog

/-- Every step but `start` owes nothing to the satellite list. -/
def KeepsSatellites (server : Server Elements) : Label → Prop
  | .start files faults => StartKeeps reader server files faults
  | _ => True

/--
Nothing stands in the way of a call of `start`: the file is a catalogue whose
records all convert, and the acceptor can be opened, bound and listened on.
-/
structure CanStart
    (server : Server Elements)
    (files : String → Option (List Line))
    (faults : StartFaults) :
    Prop where
  catalogue :
    ∃ lines records, files server.tlePath = some lines ∧
      Catalogue lines records ∧
      ∀ record ∈ records, (record.entry reader).isSome
  accOpen : server.accOpen = false
  opens : faults.openFails = false
  binds : faults.bindFails = false
  listens : faults.listenThrows = false

/--
A call of `start` on a stopped and configured server can go through, or finds
no record that it could append before its first fault.
-/
def StartsOrReadsNothing (server : Server Elements) : Label → Prop
  | .start files faults =>
      server.stopped = true → server.configLoaded = true →
        CanStart reader server files faults ∨
          NoRecord reader (files server.tlePath)
  | _ => True

/-- The effect of a step is defined. -/
def Defined (server : Server Elements) : Label → Prop
  | .read socket result => server.onRead socket result ≠ none
  | _ => True

/-! ## The cases of `start` -/

section Start

variable
  {server : Server Elements}
  (files : String → Option (List Line))
  (faults : StartFaults)

/-- A running or unconfigured server is not changed by `start`. -/
theorem start_of_guard
    (guard : server.stopped = false ∨ server.configLoaded = false) :
    server.start reader files faults = (server, some .systemError) := by
  unfold start
  rcases guard with running | unconfigured
  · rw [if_pos running]
  · rw [if_pos unconfigured, ite_self]

/-- Past its guards `start` parses the catalogue, whatever follows. -/
theorem satelliteCatalog_start
    (stopped : server.stopped = true)
    (configured : server.configLoaded = true) :
    (server.start reader files faults).1.satelliteCatalog =
        (parseKeo reader (files server.tlePath)
          server.satelliteCatalog).2 ∧
      ((server.start reader files faults).2 = some .ok →
        (parseKeo reader (files server.tlePath)
          server.satelliteCatalog).1 = .finished) := by
  unfold start
  rw [if_neg (by simp [stopped]), if_neg (by simp [configured])]
  dsimp only
  cases (parseKeo reader (files server.tlePath)
      server.satelliteCatalog).1 with
  | thrown | failed =>
      simp
  | finished =>
      dsimp only
      split
      · simp
      · split
        · simp
        · split
          · simp
          · simp

/-- Nothing in the way, `start` succeeds. -/
theorem start_of_canStart
    (stopped : server.stopped = true)
    (configured : server.configLoaded = true)
    {files : String → Option (List Line)}
    {faults : StartFaults}
    (canStart : CanStart reader server files faults) :
    (server.start reader files faults).2 = some .ok ∧
      (server.start reader files faults).1.stopped = false := by
  obtain ⟨⟨lines, records, onDisk, catalogue, convert⟩, accOpen, opens,
    binds, listens⟩ := canStart
  have lists : ∃ entries, Lists reader records entries := by
    clear catalogue
    induction records with
    | nil =>
        exact ⟨[], .nil⟩
    | cons record rest inductionHypothesis =>
        obtain ⟨first, restConvert⟩ := List.forall_mem_cons.mp convert
        obtain ⟨entry, built⟩ := Option.isSome_iff_exists.mp first
        obtain ⟨entries, lists⟩ := inductionHypothesis restConvert
        exact ⟨entry :: entries, .cons built lists⟩
  obtain ⟨entries, lists⟩ := lists
  have finished :=
    (parseFrom_finished_iff reader).mpr ⟨records, catalogue, lists⟩
  unfold start
  simp [stopped, configured, onDisk, parseKeo, finished, accOpen, opens,
    binds, listens]

end Start

/-! ## The invariant -/

/-- A stopped server has no satellites. -/
def Cleared (server : Server Elements) : Prop :=
  server.stopped = true → server.satelliteCatalog = []

theorem satelliteCatalog_loadConfig
    (server : Server Elements)
    (conf : ConfigManager) :
    (server.loadConfig conf).1.satelliteCatalog =
        server.satelliteCatalog ∧
      (server.loadConfig conf).1.stopped = server.stopped := by
  unfold loadConfig
  split
  · exact ⟨rfl, rfl⟩
  · split
    · exact ⟨rfl, rfl⟩
    · split
      · exact ⟨rfl, rfl⟩
      · dsimp only
        split
        · exact ⟨rfl, rfl⟩
        · split
          · exact ⟨rfl, rfl⟩
          · exact ⟨rfl, rfl⟩

theorem satelliteCatalog_stop
    (server : Server Elements)
    (faults : StopFaults) :
    (server.stop faults).1.satelliteCatalog = [] := by
  unfold stop
  dsimp only
  split
  · rfl
  · split
    · rfl
    · rfl

/-- The work threads do not stop the server. -/
theorem stopped_onAccept
    (server : Server Elements)
    (result : AcceptResult) :
    (server.onAccept result).stopped = server.stopped := by
  unfold onAccept
  split
  · rfl
  · rfl
  · split
    · rfl
    · split
      · rfl
      · rfl

theorem stopped_onRead
    {server next : Server Elements}
    {socket : Nat}
    {result : ReadResult}
    (effect : server.onRead socket result = some next) :
    next.stopped = server.stopped := by
  unfold onRead at effect
  dsimp only at effect
  split at effect
  · cases effect
    rfl
  · split at effect
    · cases effect
      rfl
    · cases effect
  · split at effect
    · cases effect
      rfl
    · cases effect

/-- A step that starts or reads nothing leaves a stopped server cleared. -/
theorem Cleared.step
    {server next : Server Elements}
    {label : Label}
    (cleared : Cleared server)
    (step : Step reader server label next)
    (isDefined : Defined server label)
    (condition : StartsOrReadsNothing reader server label) :
    Cleared next := by
  intro stopped
  cases step with
  | loadConfig conf =>
      obtain ⟨sameCatalog, sameStopped⟩ :=
        satelliteCatalog_loadConfig server conf
      rw [sameStopped] at stopped
      rw [sameCatalog]
      exact cleared stopped
  | start files faults =>
      by_cases guard :
          server.stopped = false ∨ server.configLoaded = false
      · rw [start_of_guard reader files faults guard] at stopped ⊢
        exact cleared stopped
      · rw [not_or, Bool.not_eq_false, Bool.not_eq_false] at guard
        obtain ⟨wasStopped, configured⟩ := guard
        rcases condition wasStopped configured with canStart | noRecord
        · rw [(start_of_canStart reader wasStopped configured
            canStart).2] at stopped
          cases stopped
        · rw [(satelliteCatalog_start reader files faults wasStopped
            configured).1,
            parseKeo_of_noRecord reader _ noRecord]
          exact cleared wasStopped
  | stop faults =>
      exact satelliteCatalog_stop server faults
  | accept result running =>
      rw [stopped_onAccept, running] at stopped
      cases stopped
  | read running underway effect =>
      rw [stopped_onRead effect, running] at stopped
      cases stopped
  | readUndefined running underway undefined =>
      exact (isDefined undefined).elim

/-- On a cleared server a call of `start` gives the list what it owes it. -/
theorem Cleared.keepsSatellites
    {server : Server Elements}
    (cleared : Cleared server)
    {label : Label}
    (condition : StartsOrReadsNothing reader server label) :
    KeepsSatellites reader server label := by
  cases label with
  | loadConfig | stop | accept | read =>
      trivial
  | start files faults =>
      by_cases guard :
          server.stopped = false ∨ server.configLoaded = false
      · have refused := start_of_guard reader files faults guard
        refine ⟨?_, ?_⟩
        · intro succeeds
          rw [refused] at succeeds
          cases succeeds
        · intro _ _ _
          rw [refused]
      · rw [not_or, Bool.not_eq_false, Bool.not_eq_false] at guard
        obtain ⟨stopped, configured⟩ := guard
        have catalog :=
          satelliteCatalog_start reader files faults stopped configured
        refine ⟨?_, ?_⟩
        · intro succeeds
          obtain ⟨lines, records, entries, onDisk, catalogue, lists,
              listed⟩ :=
            parseKeo_of_finished reader (catalog.2 succeeds)
          rw [catalog.1, listed, cleared stopped, List.nil_append]
          exact ⟨lines, records, onDisk, catalogue, lists⟩
        · intro code returned notOk
          rcases condition stopped configured with canStart | noRecord
          · rw [(start_of_canStart reader stopped configured
              canStart).1] at returned
            exact (notOk (Option.some.inj returned).symm).elim
          · rw [catalog.1, parseKeo_of_noRecord reader _ noRecord]

/-! ## Runs -/

/-- A defined step that starts or reads nothing. -/
def CleanStep
    (server : Server Elements)
    (label : Label)
    (next : Server Elements) :
    Prop :=
  Step reader server label next ∧ Defined server label ∧
    StartsOrReadsNothing reader server label

/-- A step that gives the satellite list what it owes it. -/
def KeepingStep
    (server : Server Elements)
    (label : Label)
    (next : Server Elements) :
    Prop :=
  Step reader server label next ∧ KeepsSatellites reader server label

/--
In every run whose calls of `start` can go through or read nothing, each of
them gives the satellite list what it owes it.
-/
theorem run_keepsSatellites
    {port : UInt16}
    {maxConnections : UInt32}
    {tlePath : String}
    {labels : List Label}
    {final : Server Elements}
    (run :
      Run (CleanStep reader) (new port maxConnections tlePath) labels
        final) :
    Run (KeepingStep reader) (new port maxConnections tlePath) labels
      final := by
  have cleared : Cleared (new port maxConnections tlePath : Server Elements) :=
    fun _ => rfl
  apply run.transfer cleared
  intro server label next cleared last
  obtain ⟨step, isDefined, condition⟩ := last
  exact
    ⟨⟨step, cleared.keepsSatellites reader condition⟩,
      cleared.step reader step isDefined condition⟩

/-- A disk whose files hold one satellite. -/
def vanguardFiles (_ : String) : Option (List Line) :=
  some vanguard.lines

/-- A disk whose files hold two of them. -/
def vanguardsFiles (_ : String) : Option (List Line) :=
  some (vanguard.lines ++ vanguard2.lines)

/-- A reader that keeps no elements. -/
def anyOrbit : OrbitReader Unit where
  read _ _ := some ()

/-- The entries of the satellites. -/
theorem entry_vanguard :
    vanguard.entry anyOrbit = some ⟨vanguard.name, 5, ()⟩ := by
  decide +kernel

theorem entry_vanguard2 :
    vanguard2.entry anyOrbit = some ⟨vanguard2.name, 11, ()⟩ := by
  decide +kernel

/-- The files hold one satellite. -/
theorem parseKeo_vanguard
    (path : String)
    (satellites : List (Keo Unit)) :
    parseKeo anyOrbit (vanguardFiles path) satellites =
      (.finished, satellites ++ [⟨vanguard.name, 5, ()⟩]) := by
  have parsed := parseFrom_lines anyOrbit isRecord_vanguard []
  rw [List.append_nil, entry_vanguard] at parsed
  unfold parseKeo vanguardFiles
  simp only [parsed]
  rfl

/-- The satellite is listed by a start that succeeds. -/
theorem start_vanguard
    {server : Server Unit}
    (stopped : server.stopped = true)
    (configured : server.configLoaded = true)
    (closed : server.accOpen = false) :
    server.start anyOrbit vanguardFiles {} =
      ({ server with
          satelliteCatalog :=
            server.satelliteCatalog ++ [⟨vanguard.name, 5, ()⟩]
          accOpen := true
          stopped := false },
        some .ok) := by
  simp [start, stopped, configured, closed, parseKeo_vanguard]

/-- So are two satellites. -/
theorem start_vanguards
    {server : Server Unit}
    (stopped : server.stopped = true)
    (configured : server.configLoaded = true)
    (closed : server.accOpen = false) :
    server.start anyOrbit vanguardsFiles {} =
      ({ server with
          satelliteCatalog :=
            server.satelliteCatalog ++
              [⟨vanguard.name, 5, ()⟩, ⟨vanguard2.name, 11, ()⟩]
          accOpen := true
          stopped := false },
        some .ok) := by
  have later := parseFrom_lines anyOrbit isRecord_vanguard2 []
  have parsed := parseFrom_lines anyOrbit isRecord_vanguard vanguard2.lines
  rw [List.append_nil, entry_vanguard2] at later
  rw [entry_vanguard, later] at parsed
  have read :
      parseKeo anyOrbit (vanguardsFiles server.tlePath)
          server.satelliteCatalog =
        (.finished,
          server.satelliteCatalog ++
            [⟨vanguard.name, 5, ()⟩, ⟨vanguard2.name, 11, ()⟩]) := by
    unfold parseKeo vanguardsFiles
    simp only [parsed]
    rfl
  simp [start, stopped, configured, closed, read]

/-- The satellite is listed by a start that fails to bind, too. -/
theorem start_vanguard_bindFails
    {server : Server Unit}
    (stopped : server.stopped = true)
    (configured : server.configLoaded = true)
    (closed : server.accOpen = false) :
    server.start anyOrbit vanguardFiles { bindFails := true } =
      ({ server with
          satelliteCatalog :=
            server.satelliteCatalog ++ [⟨vanguard.name, 5, ()⟩]
          accOpen := false },
        some .systemError) := by
  simp [start, stopped, configured, closed, parseKeo_vanguard]

/-- After a start that fails to bind the next one lists it again. -/
theorem start_vanguard_again
    {server : Server Unit}
    (stopped : server.stopped = true)
    (configured : server.configLoaded = true)
    (closed : server.accOpen = false) :
    (server.start anyOrbit vanguardFiles { bindFails := true }).1.start
        anyOrbit vanguardFiles {} =
      ({ server with
          satelliteCatalog :=
            server.satelliteCatalog ++ [⟨vanguard.name, 5, ()⟩] ++
              [⟨vanguard.name, 5, ()⟩]
          accOpen := true
          stopped := false },
        some .ok) := by
  rw [start_vanguard_bindFails stopped configured closed]
  exact start_vanguard stopped configured rfl

/-- A server whose settings have been loaded can be started. -/
theorem loadConfig_settings :
    let server := ((new 0 0 "" : Server Unit).loadConfig (settings 1)).1
    server.stopped = true ∧ server.configLoaded = true ∧
      server.accOpen = false ∧ server.satelliteCatalog = [] := by
  decide +kernel

/-- A configured server with two satellites on its disk can start. -/
theorem run_keepsSatellites_vanguards :
    ∃ labels final,
      Run (KeepingStep anyOrbit) (new 0 0 "") labels final ∧
        final.satelliteCatalog =
          [⟨vanguard.name, 5, ()⟩, ⟨vanguard2.name, 11, ()⟩] := by
  have rest : Catalogue [] [] :=
    .rest (Nat.zero_le _) (Nat.zero_le _) (.inl rfl)
  have catalogue :
      Catalogue (vanguard.lines ++ (vanguard2.lines ++ []))
        [vanguard, vanguard2] :=
    .record isRecord_vanguard (.record isRecord_vanguard2 rest)
  rw [List.append_nil] at catalogue
  have canStart :
      CanStart anyOrbit ((new 0 0 "").loadConfig (settings 1)).1
        vanguardsFiles {} :=
    ⟨⟨_, _, rfl, catalogue, by simp [entry_vanguard, entry_vanguard2]⟩,
      by decide +kernel, rfl, rfl, rfl⟩
  have configured :
      CleanStep anyOrbit (new 0 0 "") (.loadConfig (settings 1)) _ :=
    ⟨.loadConfig _ _, trivial, trivial⟩
  have started :
      CleanStep anyOrbit ((new 0 0 "").loadConfig (settings 1)).1
        (.start vanguardsFiles {}) _ :=
    ⟨.start _ _ _, trivial, fun _ _ => .inl canStart⟩
  refine ⟨_, _,
    run_keepsSatellites anyOrbit
      ((Run.nil.snoc _ configured).snoc _ started), ?_⟩
  obtain ⟨stopped, configLoaded, closed, empty⟩ := loadConfig_settings
  rw [start_vanguards stopped configLoaded closed, empty]
  rfl

/--
A call of `start` that fails to bind leaves the satellite in the list, and the
next one puts it there a second time.
-/
theorem bind_failure_keeps_satellites :
    ∃ server labels,
      Run (Step anyOrbit) (new 0 0 "") labels server ∧
        ¬ KeepsSatellites anyOrbit server
          (.start vanguardFiles { bindFails := true }) ∧
        ((server.start anyOrbit vanguardFiles { bindFails := true }).1.start
            anyOrbit vanguardFiles {}).2 = some .ok ∧
        ((server.start anyOrbit vanguardFiles { bindFails := true }).1.start
            anyOrbit vanguardFiles {}).1.satelliteCatalog.length = 2 := by
  obtain ⟨stopped, configured, closed, empty⟩ := loadConfig_settings
  refine ⟨_, _, Run.nil.snoc _ (.loadConfig _ (settings 1)), ?_⟩
  rw [start_vanguard_again stopped configured closed]
  refine ⟨?_, rfl, by rw [empty]; rfl⟩
  intro keeps
  have listed := start_vanguard_bindFails stopped configured closed
  have unchanged :=
    keeps.onError .systemError (by rw [listed]) (by decide)
  rw [listed] at unchanged
  simp at unchanged

end Radar.Server
