import Radar.ConfigStore
import Radar.StandardLibrary

namespace Radar.ConfigStore

/-!
# Failing functions of the configuration manager

The stored document is an object once a configuration has been loaded.  A
function that throws leaves the manager as it was, except that `set_path` has
already replaced the path.
-/

/-- The calls of a manager. -/
inductive Label where
  | setPath (status : List Char → PathStatus) (path : List Char)
  | loadConfig (files : List Char → FileStatus) (configName : List Char)
  | saveConfig (fault : Option String) (configName : List Char)
  | updateConfig (configStr : List Char)
  | getSection (sectionName : String)
  | getObject (settings : Settings) (key : Option String)
  | setValue (settings : Settings) (key : Option String) (value : ConfigValue)
  | setArray (object : Settings) (arr : List ConfigValue)
  | getValue (kind : ValueKind) (settings : Settings) (key : Option String)

variable (parser : Json.Parser)
variable (joinPath : List Char → List Char → List Char)
variable (write : Json → List Char)

/-- How a call ends and what it leaves behind. -/
def apply (store : ConfigStore) :
    Label → Except ConfigFailure Unit × ConfigStore
  | .setPath status path => store.setPath status path
  | .loadConfig files configName =>
      store.loadConfig parser joinPath files configName
  | .saveConfig fault configName =>
      ((store.saveConfig write fault configName).map fun _ => (), store)
  | .updateConfig configStr => store.updateConfig parser configStr
  | .getSection sectionName =>
      ((store.getSection sectionName).map fun _ => (), store)
  | .getObject settings key =>
      ((store.getObject settings key).map fun _ => (), store)
  | .setValue settings key value => store.setValue settings key value
  | .setArray object arr => store.setArray object arr
  | .getValue kind settings key =>
      ((store.getValue kind settings key).map fun _ => (), store)

/-- One call that does not end the program. -/
inductive Step (store : ConfigStore) : Label → ConfigStore → Prop where
  | call
      (label : Label)
      (continues :
        (store.apply parser joinPath write label).1 ≠ .error .aborted) :
      Step store label (store.apply parser joinPath write label).2

/-- Once a configuration has been loaded, the document is an object. -/
def HoldsObject (store : ConfigStore) : Prop :=
  store.configLoaded = true → store.jsonConfig.isObject = true

/-- Does a call end with an exception? -/
def Throws (store : ConfigStore) (label : Label) : Prop :=
  ∃ error, (store.apply parser joinPath write label).1 = .error (.thrown error)

/--
The document is an object after the call, and if the call throws, then nothing
has changed.
-/
structure RollsBack (store : ConfigStore) (label : Label) (next : ConfigStore) :
    Prop where
  holdsObject : HoldsObject next
  unchanged : Throws parser joinPath write store label → next = store

/-- A path that is set is the path of a directory or the one already set. -/
def AcceptsPath (store : ConfigStore) : Label → Prop
  | .setPath status path => status path = .directory ∨ path = store.path
  | _ => True

/-! ## One call -/

/-- What is parsed as an object is one. -/
theorem isObject_of_parseObject
    {parser : Json.Parser}
    {text : List Char}
    {temp : Json}
    (parsed : parseObject parser text = some temp) :
    temp.isObject = true :=
  (Option.filter_eq_some_iff.mp parsed).2

/-- Changing an object or an array keeps the document an object. -/
theorem HoldsObject.change
    {store : ConfigStore}
    (holds : HoldsObject store)
    {settings : Settings}
    {new : Json → Json}
    (kept :
      ∀ value, store.resolve settings = some value →
        value.isObject = true → (new value).isObject = true) :
    HoldsObject (store.change settings new) := by
  cases settings with
  | outside value => exact holds
  | inside steps =>
      intro loaded
      have isObject := holds loaded
      cases steps with
      | nil => exact kept _ rfl isObject
      | cons index later =>
          rwa [ConfigStore.change, Json.modifyAt, Json.isObject_modifyChild]

/--
A call either fails and leaves the manager as it was, or returns and keeps the
document an object.
-/
inductive FailsClean (store : ConfigStore) :
    Except ConfigFailure Unit × ConfigStore → Prop where
  | failed (failure : ConfigFailure) :
      FailsClean store (.error failure, store)
  | returned
      {next : ConfigStore}
      (kept : HoldsObject store → HoldsObject next) :
      FailsClean store (.ok (), next)

/-- A call that only reads leaves the manager as it was. -/
theorem FailsClean.reading
    {Value : Type}
    (store : ConfigStore)
    (result : Except ConfigFailure Value) :
    FailsClean store (result.map fun _ => (), store) := by
  cases result with
  | error failure => exact .failed failure
  | ok value => exact .returned id

theorem loadConfig_failsClean
    (files : List Char → FileStatus)
    (configName : List Char)
    (store : ConfigStore) :
    FailsClean store (store.loadConfig parser joinPath files configName) := by
  unfold loadConfig
  cases files (store.loadPath joinPath configName) with
  | missing => exact .failed _
  | unreadable => exact .failed _
  | failed what => exact .failed _
  | contents text =>
      cases parsed : parseObject parser text with
      | none =>
          simp only [parsed]
          exact .failed _
      | some temp =>
          simp only [parsed]
          exact .returned fun _ _ => isObject_of_parseObject parsed

theorem updateConfig_failsClean
    (configStr : List Char)
    (store : ConfigStore) :
    FailsClean store (store.updateConfig parser configStr) := by
  unfold updateConfig
  by_cases loaded : store.configLoaded = false
  · rw [if_pos loaded]
    exact .failed _
  · rw [if_neg loaded]
    cases parsed : parseObject parser configStr with
    | none => exact .failed _
    | some temp => exact .returned fun _ _ => isObject_of_parseObject parsed

theorem setValue_failsClean
    (settings : Settings)
    (key : Option String)
    (value : ConfigValue)
    (store : ConfigStore) :
    FailsClean store (store.setValue settings key value) := by
  have changed (name : String) :
      FailsClean store
        (.ok (), store.change settings (Json.setMember name value.toJson)) :=
    .returned fun holds => holds.change fun _ _ isObject => by
      rwa [Json.isObject_setMember]
  unfold setValue
  split
  · exact .failed _
  · cases key with
    | none => exact .failed _
    | some name =>
        dsimp only
        split
        · split
          · split
            · exact changed name
            · exact .failed _
          · exact .failed _
        · exact .failed _

/-- An array is no object. -/
theorem isObject_of_isArray
    {value : Json}
    (isArray : value.isArray = true) :
    value.isObject = false := by
  cases value with
  | array elements => rfl
  | _ => cases isArray

theorem setArray_failsClean
    (object : Settings)
    (arr : List ConfigValue)
    (store : ConfigStore) :
    FailsClean store (store.setArray object arr) := by
  unfold setArray
  cases resolved : store.resolve object with
  | none => exact .failed _
  | some value =>
      dsimp only
      by_cases isArray : value.isArray = true
      · rw [if_pos isArray]
        refine .returned fun holds => holds.change fun other same isObject => ?_
        rw [resolved, Option.some.injEq] at same
        rw [← same, isObject_of_isArray isArray] at isObject
        cases isObject
      · rw [if_neg isArray]
        exact .failed _

/-- Every call fails clean, except for the one that sets the path. -/
theorem apply_failsClean
    (store : ConfigStore)
    {label : Label}
    (noPath : ∀ status path, label ≠ .setPath status path) :
    FailsClean store (store.apply parser joinPath write label) := by
  cases label with
  | setPath status path => exact absurd rfl (noPath status path)
  | loadConfig files configName =>
      exact loadConfig_failsClean parser joinPath files configName store
  | updateConfig configStr =>
      exact updateConfig_failsClean parser configStr store
  | setValue settings key value =>
      exact setValue_failsClean settings key value store
  | setArray object arr => exact setArray_failsClean object arr store
  | saveConfig | getSection | getObject | getValue =>
      exact FailsClean.reading store _

/-- A call that fails clean rolls back. -/
theorem FailsClean.rollsBack
    {store : ConfigStore}
    {label : Label}
    (holds : HoldsObject store)
    (clean : FailsClean store (store.apply parser joinPath write label)) :
    RollsBack parser joinPath write store label
      (store.apply parser joinPath write label).2 := by
  generalize applied : store.apply parser joinPath write label = result at clean
  cases clean with
  | failed failure => exact ⟨holds, fun _ => rfl⟩
  | returned kept =>
      refine ⟨kept holds, fun throws => ?_⟩
      obtain ⟨error, thrown⟩ := throws
      rw [applied] at thrown
      cases thrown

/-- Setting the path rolls back if the path is accepted or not changed. -/
theorem setPath_rollsBack_iff
    {store : ConfigStore}
    (holds : HoldsObject store)
    (status : List Char → PathStatus)
    (path : List Char) :
    RollsBack parser joinPath write store (.setPath status path)
        (store.setPath status path).2 ↔
      status path = .directory ∨ path = store.path := by
  have next : (store.setPath status path).2 = { store with path } := by
    unfold setPath
    cases status path <;> rfl
  have unchanged : { store with path } = store ↔ path = store.path := by
    constructor
    · intro same
      exact congrArg ConfigStore.path same
    · rintro rfl
      rfl
  have throws :
      Throws parser joinPath write store (.setPath status path) ↔
        status path ≠ .directory := by
    cases known : status path <;> simp [Throws, apply, setPath, known]
  rw [next]
  constructor
  · intro rolls
    by_contra neither
    rw [not_or] at neither
    exact neither.2 (unchanged.mp (rolls.unchanged (throws.mpr neither.1)))
  · intro accepted
    refine ⟨holds, fun thrown => unchanged.mpr ?_⟩
    exact accepted.resolve_left (throws.mp thrown)

/-- A call rolls back exactly if it accepts the path. -/
theorem Step.rollsBack_iff
    {store next : ConfigStore}
    {label : Label}
    (holds : HoldsObject store)
    (step : Step parser joinPath write store label next) :
    RollsBack parser joinPath write store label next ↔
      AcceptsPath store label := by
  cases step with
  | call continues =>
      have clean
          (noPath : ∀ status path, label ≠ .setPath status path) :
          RollsBack parser joinPath write store label
            (store.apply parser joinPath write label).2 :=
        (apply_failsClean parser joinPath write store noPath).rollsBack parser
          joinPath write holds
      cases label with
      | setPath status path =>
          exact setPath_rollsBack_iff parser joinPath write holds status path
      | loadConfig | saveConfig | updateConfig | getSection | getObject
      | setValue | setArray | getValue =>
          exact iff_of_true (clean (by simp)) trivial

/-! ## Runs -/

/--
The runs in which the document is an object after every call and every call
that throws changes nothing are exactly the runs in which every path is
accepted or the one already set.
-/
theorem run_rollsBack_iff (labels : List Label) (final : ConfigStore) :
    Run
        (fun store label next =>
          Step parser joinPath write store label next ∧
            RollsBack parser joinPath write store label next)
        new labels final ↔
      Run
        (fun store label next =>
          Step parser joinPath write store label next ∧ AcceptsPath store label)
        new labels final := by
  have start : HoldsObject new := by
    intro loaded
    cases loaded
  exact
    Run.congr start
      (fun holds =>
        and_congr_right fun step =>
          step.rollsBack_iff parser joinPath write holds)
      (fun _ step => step.2.holdsObject) labels final

/-- A file system without directories. -/
def noDirectories (_ : List Char) : PathStatus := .missing

/-- A path that is refused replaces the one before. -/
theorem noDirectories_not_rollsBack :
    ¬ ∀ (joinPath : List Char → List Char → List Char)
        (write : Json → List Char)
        (labels : List Label)
        (store next : ConfigStore)
        (label : Label),
      Run (Step Json.Parser.recursiveDescent joinPath write) new labels store →
        Step Json.Parser.recursiveDescent joinPath write store label next →
          RollsBack Json.Parser.recursiveDescent joinPath write store label
            next := by
  intro claim
  let path : Label := .setPath noDirectories "etc/".toList
  have rolls :=
    claim List.append (fun _ => []) [] new _ path .nil (.call path (by decide))
  have same := rolls.unchanged ⟨_, rfl⟩
  have paths := congrArg ConfigStore.path same
  revert paths
  decide

end Radar.ConfigStore
