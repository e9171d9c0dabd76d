import Radar.ConfigReading
import Radar.JsonPaths

namespace Radar

/-!
# Editing a loaded configuration

What `set_value` and `set_array` do to the document of a loaded configuration:
the part at one place is replaced, it is read back until another edit replaces
it, and everything else stays as it is.
-/

open Json (outline)

/-! ## Edits -/

/-- A value whose text has no NUL in it. -/
def ConfigValue.NulFree : ConfigValue → Prop
  | .string text => Json.NulFree text
  | _ => True

/-- An array of numbers of one type. -/
structure NumericArray where
  kind : ValueKind
  values : List ConfigValue
  numeric : kind ≠ .string
  sameKind : ∀ value ∈ values, value.kind = kind

/--
A call of `set_value` or `set_array` on a section or on what is nested in one,
which is given by the positions that lead to it.
-/
inductive Edit where
  | setValue
      (settings : List Nat)
      (key : String)
      (value : ConfigValue)
      (nulFree : value.NulFree)
  | setArray (object : List Nat) (arr : NumericArray)

namespace Edit

/-- The call. -/
def apply (store : ConfigStore) :
    Edit → Except ConfigFailure Unit × ConfigStore
  | .setValue settings key value _ =>
      store.setValue (.inside settings) (some key) value
  | .setArray object arr => store.setArray (.inside object) arr.values

/-- The manager after a sequence of calls. -/
def run : List Edit → ConfigStore → ConfigStore
  | [], store => store
  | edit :: later, store => run later (edit.apply store).2

/-- What a call addresses: a member or an array. -/
def addressed (document : Json) : Edit → Option Json
  | .setValue settings key _ _ =>
      (document.at? settings).bind (Json.member? key)
  | .setArray object _ => document.at? object

/-- Is the addressed value of the type that is set? -/
def matchesKind (old : Json) : Edit → Bool
  | .setValue _ _ value _ => value.kind.accepts old
  | .setArray _ _ => old.isArray

/-- The value that is set. -/
def new : Edit → Json
  | .setValue _ _ value _ => value.toJson
  | .setArray _ arr => .array (arr.values.map ConfigValue.toJson)

/-- The place of the addressed value in the document. -/
def place (document : Json) : Edit → List Nat
  | .setValue settings key _ _ =>
      match document.at? settings with
      | some value => settings ++ [value.memberIndex key]
      | none => settings
  | .setArray object _ => object

/-- `get_value` or `get_array` returns what has been set. -/
def ReadsBack (store : ConfigStore) : Edit → Prop
  | .setValue settings key value _ =>
      ∃ found,
        store.resolve (.inside settings) = some found ∧
          ConfigReading.getValue value.kind found (some key) = .ok value
  | .setArray object arr =>
      ∃ found,
        store.resolve (.inside object) = some found ∧
          ConfigReading.getArray arr.kind found = .ok arr.values

/-- A call for the same member with a value of the same type. -/
def Again : Edit → Edit → Prop
  | .setValue settings key value _, .setValue settings' key' value' _ =>
      settings' = settings ∧ key' = key ∧ value'.kind = value.kind
  | .setArray object _, .setArray object' _ => object' = object
  | _, _ => False

/-- Two places of which none is in the other one. -/
def Apart (first second : List Nat) : Prop :=
  ¬ first <+: second ∧ ¬ second <+: first

/-- Later calls that address places apart from one place. -/
def AllApart (place : List Nat) : ConfigStore → List Edit → Prop
  | _, [] => True
  | store, edit :: later =>
      Apart place (edit.place store.jsonConfig) ∧
        AllApart place (edit.apply store).2 later

/--
Everything apart from a place is as before, and what is around it has the same
members in the same order.
-/
structure OnlyAt (place : List Nat) (before after : Json) : Prop where
  apart :
    ∀ other, Apart place other → after.at? other = before.at? other
  around :
    ∀ other, ¬ place <+: other →
      (after.at? other).map outline = (before.at? other).map outline

/-! ## The document -/

theorem onlyAt_modifyAt
    (place : List Nat)
    (change : Json → Json)
    (value : Json) :
    OnlyAt place value (Json.modifyAt place change value) where
  apart := fun _ apart => Json.at?_modifyAt_apart apart.2 apart.1 change value
  around := fun _ outside => Json.outline_at?_modifyAt outside change value

/-- Setting the value of a member replaces what is at its place. -/
theorem setValue_cases
    {store : ConfigStore}
    (loaded : store.configLoaded = true)
    (settings : List Nat)
    (key : String)
    (value : ConfigValue) :
    (∃ found old,
        store.jsonConfig.at? settings = some found ∧
          found.member? key = some old ∧ value.kind.accepts old = true ∧
          store.setValue (.inside settings) (some key) value =
            (.ok (),
              { store with
                jsonConfig :=
                  store.jsonConfig.modifyAt
                    (settings ++ [found.memberIndex key])
                    fun _ => value.toJson })) ∨
      (¬ ∃ old,
          (store.jsonConfig.at? settings).bind (Json.member? key) = some old ∧
            value.kind.accepts old = true) ∧
        ∃ failure,
          store.setValue (.inside settings) (some key) value =
            (.error failure, store) := by
  unfold ConfigStore.setValue
  rw [if_neg (by rw [loaded]; decide), ConfigStore.resolve]
  dsimp only
  cases resolved : store.jsonConfig.at? settings with
  | none => exact Or.inr ⟨by simp, _, rfl⟩
  | some found =>
      cases found with
      | object members =>
          rw [Option.bind_some]
          dsimp only
          cases member : (Json.object members).member? key with
          | none => exact Or.inr ⟨by simp, _, rfl⟩
          | some old =>
              dsimp only
              by_cases accepted : value.kind.accepts old = true
              · refine Or.inl ⟨_, old, rfl, member, accepted, ?_⟩
                rw [if_pos accepted, ConfigStore.change,
                  ← Json.modifyAt_modifyChild]
                rw [Json.modifyAt_congr resolved
                  (Json.setMember_eq_modifyChild rfl key value.toJson)]
              · refine Or.inr ⟨?_, _, if_neg accepted⟩
                rintro ⟨other, ⟨⟩, accepts⟩
                exact accepted accepts
      | _ => exact Or.inr ⟨by simp [Json.member?], _, rfl⟩

/-- A call replaces what is at its place, or it fails and changes nothing. -/
theorem apply_cases
    {store : ConfigStore}
    (loaded : store.configLoaded = true)
    (edit : Edit) :
    (∃ old,
        edit.addressed store.jsonConfig = some old ∧
          edit.matchesKind old = true ∧
          edit.apply store =
            (.ok (),
              { store with
                jsonConfig :=
                  store.jsonConfig.modifyAt (edit.place store.jsonConfig)
                    fun _ => edit.new })) ∨
      (¬ ∃ old,
          edit.addressed store.jsonConfig = some old ∧
            edit.matchesKind old = true) ∧
        ∃ failure, edit.apply store = (.error failure, store) := by
  cases edit with
  | setValue settings key value nulFree =>
      rcases setValue_cases loaded settings key value with
        ⟨found, old, resolved, member, accepted, result⟩ | failed
      · refine Or.inl ⟨old, ?_, accepted, ?_⟩
        · rw [addressed, resolved, Option.bind_some, member]
        · simp only [apply, place, resolved, new]
          exact result
      · exact Or.inr failed
  | setArray object arr =>
      simp only [apply, addressed, matchesKind, place, new]
      unfold ConfigStore.setArray
      rw [ConfigStore.resolve]
      cases resolved : store.jsonConfig.at? object with
      | none => exact Or.inr ⟨by simp, _, rfl⟩
      | some old =>
          dsimp only
          by_cases isArray : old.isArray = true
          · exact Or.inl ⟨old, rfl, isArray, if_pos isArray⟩
          · refine Or.inr ⟨?_, _, if_neg isArray⟩
            rintro ⟨other, ⟨⟩, accepts⟩
            exact isArray accepts

/-! ## Reading back -/

/-- A value that is stored is read as the same value. -/
theorem get_toJson
    {value : ConfigValue}
    (nulFree : value.NulFree) :
    ConfigReading.get value.kind value.toJson = some value := by
  cases value with
  | string text =>
      simp [ConfigValue.kind, ConfigValue.toJson, ConfigReading.get,
        ConfigReading.getString, Json.string?,
        Client.cString_of_nulFree nulFree]
  | double value => rfl
  | uint32 value =>
      have bound := value.toNat_lt
      simp only [ConfigValue.kind, ConfigValue.toJson, ConfigReading.get,
        ConfigReading.stored, Json.uint32?]
      rw [if_pos (by omega), Int.toNat_natCast, UInt32.ofNat_toNat]
      rfl
  | uint64 value =>
      have bound := value.toNat_lt
      simp only [ConfigValue.kind, ConfigValue.toJson, ConfigReading.get,
        ConfigReading.stored, Json.uint64?]
      rw [if_pos (by omega), Int.toNat_natCast, UInt64.ofNat_toNat]
      rfl
  | int32 value =>
      have low := value.le_toInt
      have high := value.toInt_lt
      simp only [ConfigValue.kind, ConfigValue.toJson, ConfigReading.get,
        ConfigReading.stored, ConfigReading.int32?]
      rw [if_pos (by omega), Int32.ofInt_toInt]
      rfl
  | int64 value =>
      have low := value.le_toInt
      have high := value.toInt_lt
      simp only [ConfigValue.kind, ConfigValue.toJson, ConfigReading.get,
        ConfigReading.stored, ConfigReading.int64?]
      rw [if_pos (by omega), Int64.ofInt_toInt]
      rfl

/-- A value that is stored has the type that it had. -/
theorem accepts_toJson (value : ConfigValue) :
    value.kind.accepts value.toJson = true := by
  have isRead (nulFree : value.NulFree) :
      value.kind.reads value.toJson = true := by
    rw [ConfigReading.reads_eq_isSome_get, get_toJson nulFree]
    rfl
  cases value with
  | string text => rfl
  | double value => rfl
  | uint32 value | uint64 value | int32 value | int64 value =>
      exact isRead trivial

/-- The value that a call has set is at a place of the document. -/
def Holds (place : List Nat) (document : Json) : Edit → Prop
  | .setValue settings key value _ =>
      ∃ found,
        document.at? settings = some found ∧ found.isObject = true ∧
          place = settings ++ [found.memberIndex key] ∧
          document.at? place = some value.toJson
  | .setArray object arr =>
      place = object ∧
        document.at? place = some (.array (arr.values.map ConfigValue.toJson))

/-- A value that has a member is an object. -/
theorem isObject_of_member
    {found old : Json}
    {key : String}
    (member : found.member? key = some old) :
    found.isObject = true := by
  cases found with
  | object members => rfl
  | _ => cases member

/-- After a call has succeeded the document holds its value. -/
theorem holds_modifyAt
    {document old : Json}
    {edit : Edit}
    (isAddressed : edit.addressed document = some old) :
    edit.Holds (edit.place document)
      (document.modifyAt (edit.place document) fun _ => edit.new) := by
  cases edit with
  | setValue settings key value nulFree =>
      obtain ⟨found, resolved, member⟩ :=
        Option.bind_eq_some_iff.mp isAddressed
      have isObject := isObject_of_member member
      simp only [place, resolved, new]
      refine
        ⟨Json.modifyChild (found.memberIndex key) (fun _ => value.toJson) found,
          ?_, ?_, ?_, ?_⟩
      · rw [← Json.modifyAt_modifyChild, Json.at?_modifyAt_self, resolved]
        rfl
      · rw [Json.isObject_modifyChild, isObject]
      · rw [Json.memberIndex_modifyChild]
      · rw [Json.at?_modifyAt_self, Json.at?_append, resolved, Option.bind_some]
        rw [Json.member?_eq_child? isObject] at member
        rw [Json.at?, member]
        rfl
  | setArray object arr =>
      refine ⟨rfl, ?_⟩
      rw [place, Json.at?_modifyAt_self]
      rw [addressed] at isAddressed
      rw [isAddressed]
      rfl

/-- A change apart from the place keeps the value. -/
theorem Holds.onlyAt
    {place other : List Nat}
    {before after : Json}
    {edit : Edit}
    (holds : edit.Holds place before)
    (apart : Apart place other)
    (changed : OnlyAt other before after) :
    edit.Holds place after := by
  have kept := changed.apart place ⟨apart.2, apart.1⟩
  cases edit with
  | setValue settings key value nulFree =>
      obtain ⟨found, resolved, isObject, rfl, isThere⟩ := holds
      have outside : ¬ other <+: settings := fun inside =>
        apart.2 (inside.trans (List.prefix_append _ _))
      have same := changed.around settings outside
      rw [resolved] at same
      obtain ⟨found', resolved', outlines⟩ := Option.map_eq_some_iff.mp same
      refine ⟨found', resolved', ?_, ?_, ?_⟩
      · rw [← Json.isObject_outline, outlines, Json.isObject_outline, isObject]
      · rw [← Json.memberIndex_outline key found', outlines,
          Json.memberIndex_outline]
      · rw [kept, isThere]
  | setArray object arr =>
      obtain ⟨rfl, isThere⟩ := holds
      exact ⟨rfl, kept.trans isThere⟩

/-- The numbers of an array are read as the same numbers. -/
theorem mapM_get_toJson (arr : NumericArray) :
    (arr.values.map ConfigValue.toJson).mapM (ConfigReading.get arr.kind) =
      some arr.values := by
  obtain ⟨kind, values, numeric, sameKind⟩ := arr
  dsimp only at *
  induction values with
  | nil => rfl
  | cons value values inductionHypothesis =>
      have first := sameKind value List.mem_cons_self
      have nulFree : value.NulFree := by
        cases value with
        | string text => exact absurd first.symm numeric
        | _ => trivial
      have read := get_toJson nulFree
      rw [first] at read
      rw [List.map_cons, List.mapM_cons, read,
        inductionHypothesis fun other member =>
          sameKind other (List.mem_cons_of_mem value member)]
      rfl

/-- What the document holds is read back. -/
theorem Holds.readsBack
    {place : List Nat}
    {store : ConfigStore}
    {edit : Edit}
    (holds : edit.Holds place store.jsonConfig) :
    edit.ReadsBack store := by
  cases edit with
  | setValue settings key value nulFree =>
      obtain ⟨found, resolved, isObject, rfl, isThere⟩ := holds
      refine ⟨found, resolved, ?_⟩
      have member : found.member? key = some value.toJson := by
        rw [Json.member?_eq_child? isObject]
        rw [Json.at?_append, resolved, Option.bind_some, Json.at?] at isThere
        obtain ⟨child, isChild, ⟨⟩⟩ := Option.bind_eq_some_iff.mp isThere
        exact isChild
      rw [ConfigReading.getValue_member value.kind isObject member,
        get_toJson nulFree]
      rfl
  | setArray object arr =>
      obtain ⟨rfl, isThere⟩ := holds
      refine ⟨_, isThere, ?_⟩
      rw [ConfigReading.getArray_array, mapM_get_toJson]
      rfl

/-- A value of the same type can be set in its place. -/
theorem Holds.again
    {place : List Nat}
    {store : ConfigStore}
    {edit next : Edit}
    (loaded : store.configLoaded = true)
    (holds : edit.Holds place store.jsonConfig)
    (again : edit.Again next) :
    (next.apply store).1 = .ok () := by
  have accepted :
      ∃ old,
        next.addressed store.jsonConfig = some old ∧
          next.matchesKind old = true := by
    cases edit with
    | setValue settings key value nulFree =>
        cases next with
        | setArray object arr => exact again.elim
        | setValue settings' key' value' nulFree' =>
            obtain ⟨rfl, rfl, sameKind⟩ := again
            obtain ⟨found, resolved, isObject, rfl, isThere⟩ := holds
            refine ⟨value.toJson, ?_, ?_⟩
            · rw [addressed, resolved, Option.bind_some,
                Json.member?_eq_child? isObject,
                ← isThere, Json.at?_append, resolved, Option.bind_some,
                Json.at?]
              cases found.child? (found.memberIndex key') <;> rfl
            · rw [matchesKind, sameKind]
              exact accepts_toJson value
    | setArray object arr =>
        cases next with
        | setArray object' arr' =>
            obtain ⟨rfl, isThere⟩ := holds
            obtain rfl : object' = place := again
            exact ⟨_, isThere, rfl⟩
        | setValue settings key value nulFree => exact again.elim
  rcases apply_cases loaded next with ⟨old, -, -, result⟩ | ⟨none, -⟩
  · rw [result]
  · exact absurd accepted none

/-! ## Runs -/

theorem configLoaded_apply
    {store : ConfigStore}
    (loaded : store.configLoaded = true)
    (edit : Edit) :
    (edit.apply store).2.configLoaded = true := by
  rcases apply_cases loaded edit with ⟨old, -, -, result⟩ | ⟨-, failure, result⟩
  · rw [result]
    exact loaded
  · rw [result]
    exact loaded

theorem configLoaded_run
    {store : ConfigStore}
    (loaded : store.configLoaded = true)
    (edits : List Edit) :
    (run edits store).configLoaded = true := by
  induction edits generalizing store with
  | nil => exact loaded
  | cons edit edits inductionHypothesis =>
      exact inductionHypothesis (configLoaded_apply loaded edit)

/-- Calls at other places keep a value. -/
theorem Holds.run
    {place : List Nat}
    {edit : Edit}
    {later : List Edit}
    {store : ConfigStore}
    (loaded : store.configLoaded = true)
    (holds : edit.Holds place store.jsonConfig)
    (apart : AllApart place store later) :
    edit.Holds place (Edit.run later store).jsonConfig := by
  induction later generalizing store with
  | nil => exact holds
  | cons next later inductionHypothesis =>
      refine
        inductionHypothesis (configLoaded_apply loaded next) ?_ apart.2
      rcases apply_cases loaded next with
        ⟨old, -, -, result⟩ | ⟨-, failure, result⟩
      · rw [result]
        exact holds.onlyAt apart.1 (onlyAt_modifyAt _ _ _)
      · rw [result]
        exact holds

/--
A call succeeds exactly if it addresses a value of the type that it sets.  What
has been set is read back until a call for a place around it or in it, can be
set again, and nothing else changes; a call that fails changes nothing.
-/
structure Correct (store : ConfigStore) (edit : Edit) : Prop where
  succeeds :
    (edit.apply store).1 = .ok () ↔
      ∃ old,
        edit.addressed store.jsonConfig = some old ∧
          edit.matchesKind old = true
  readsBack :
    (edit.apply store).1 = .ok () →
      ∀ later,
        AllApart (edit.place store.jsonConfig) (edit.apply store).2 later →
          edit.ReadsBack (run later (edit.apply store).2)
  again :
    (edit.apply store).1 = .ok () →
      ∀ next, edit.Again next → (next.apply (edit.apply store).2).1 = .ok ()
  frame :
    (edit.apply store).1 = .ok () →
      OnlyAt (edit.place store.jsonConfig) store.jsonConfig
        (edit.apply store).2.jsonConfig
  failed :
    (edit.apply store).1 ≠ .ok () → (edit.apply store).2 = store

theorem correct_of_loaded
    {store : ConfigStore}
    (loaded : store.configLoaded = true)
    (edit : Edit) :
    Correct store edit := by
  rcases apply_cases loaded edit with
    ⟨old, isAddressed, isKind, result⟩ | ⟨none, failure, result⟩
  · have stillLoaded := configLoaded_apply loaded edit
    have succeeded : (edit.apply store).1 = .ok () := by rw [result]
    have holds :
        edit.Holds (edit.place store.jsonConfig)
          (edit.apply store).2.jsonConfig := by
      rw [result]
      exact holds_modifyAt isAddressed
    exact
      { succeeds := iff_of_true succeeded ⟨old, isAddressed, isKind⟩
        readsBack := fun _ later apart =>
          (holds.run stillLoaded apart).readsBack
        again := fun _ next again => holds.again stillLoaded again
        frame := fun _ => by
          rw [result]
          exact onlyAt_modifyAt _ _ _
        failed := fun fails => absurd succeeded fails }
  · have fails : (edit.apply store).1 ≠ .ok () := by
      rw [result]
      simp
    exact
      { succeeds := iff_of_false fails none
        readsBack := fun succeeds => absurd succeeds fails
        again := fun succeeds => absurd succeeds fails
        frame := fun succeeds => absurd succeeds fails
        failed := fun _ => by rw [result] }

/-- Every call of a sequence on a loaded configuration is correct. -/
theorem run_correct
    (store : ConfigStore)
    (loaded : store.configLoaded = true)
    (edits : List Edit)
    (edit : Edit) :
    Correct (run edits store) edit :=
  correct_of_loaded (configLoaded_run loaded edits) edit

/-- The settings that come with the server, as a loaded configuration. -/
def serverStore : ConfigStore :=
  { Server.settings 10 with configName := [], path := [] }

theorem run_correct_serverStore :
    Correct
      (run [.setValue [0] "port" (.uint32 1921) trivial] serverStore)
      (.setValue [0] "ip_address" (.string "192.168.0.100".toList)
        (by simp [ConfigValue.NulFree, Json.NulFree])) :=
  run_correct serverStore rfl _ _

/-! ## Sections and objects -/

/-- A member of a part of the document is at a place of it. -/
theorem exists_place_of_member
    {store : ConfigStore}
    (steps : List Nat)
    {found value : Json}
    {key : String}
    (resolved : store.resolve (.inside steps) = some found)
    (member : found.member? key = some value) :
    ∃ index, store.resolve (.inside (steps ++ [index])) = some value := by
  refine ⟨found.memberIndex key, ?_⟩
  rw [Json.member?_eq_child? (isObject_of_member member)] at member
  rw [ConfigStore.resolve] at resolved ⊢
  rw [Json.at?_append, resolved, Option.bind_some, Json.at?, member]
  rfl

/-- A section of the document is at a place of it. -/
theorem exists_place_of_getSection
    {store : ConfigStore}
    {sectionName : String}
    {settings : Json}
    (found : store.getSection sectionName = .ok settings) :
    ∃ index, store.resolve (.inside [index]) = some settings := by
  unfold ConfigStore.getSection ConfigManager.getSection at found
  cases member : store.jsonConfig.member? sectionName with
  | none =>
      simp only [member] at found
      split_ifs at found
  | some value =>
      simp only [member] at found
      split_ifs at found
      cases found
      exact exists_place_of_member [] rfl member

/-- An object or an array of a part of the document is at a place of it. -/
theorem exists_place_of_getObject
    {store : ConfigStore}
    {steps : List Nat}
    {key : Option String}
    {object : Json}
    (found : store.getObject (.inside steps) key = .ok object) :
    ∃ index, store.resolve (.inside (steps ++ [index])) = some object := by
  unfold ConfigStore.getObject at found
  split_ifs at found with notLoaded
  cases resolved : store.resolve (.inside steps) with
  | none =>
      rw [resolved] at found
      cases found
  | some value =>
      rw [resolved] at found
      cases key with
      | none => cases value <;> cases found
      | some key =>
          cases value with
          | object members =>
              dsimp only at found
              cases member : (Json.object members).member? key with
              | none =>
                  rw [member] at found
                  cases found
              | some inner =>
                  rw [member] at found
                  dsimp only at found
                  split_ifs at found
                  cases found
                  exact exists_place_of_member steps resolved member
          | _ => cases found

end Edit

end Radar
