import Radar.ConfigStore

namespace Radar

/-!
# Reading values of the configuration

The six functions `get_value` and `get_array` with the values that they
return.  The function for `double` applies `operator[]` before it asks whether
the member is there, the function for strings returns a C string, and all of
them ask for members of what may be no object.
-/

open Client (cString)
open Json (NulFree)
open DecimalText (roundHalfEven)

namespace ConfigReading

/-! ## Accesses -/

/-- `HasMember` asserts that the value is an object. -/
def hasMember (settings : Json) (key : String) : Except ConfigFailure Bool :=
  if settings.isObject then
    .ok (settings.member? key).isSome
  else
    .error .aborted

/-- `operator[]` asserts that the member is there. -/
def index (settings : Json) (key : String) : Except ConfigFailure Json :=
  match settings.member? key with
  | some value => .ok value
  | none => .error .aborted

/-- `IsInt` and `GetInt` -/
def int32? : Json → Option Int32
  | .integer value =>
      if -2147483648 ≤ value ∧ value < 2147483648 then
        some (Int32.ofInt value)
      else
        none
  | _ => none

/-- `IsInt64` and `GetInt64` -/
def int64? : Json → Option Int64
  | .integer value =>
      if -9223372036854775808 ≤ value ∧ value < 9223372036854775808 then
        some (Int64.ofInt value)
      else
        none
  | _ => none

/-- The nearest `double` of an integer, the even one of two. -/
def nearestDouble (value : Int) : Rat :=
  let unit : Rat := 2 ^ (value.natAbs.log2 - 52)
  roundHalfEven (value / unit) * unit

/-- `IsNumber` and `GetDouble` -/
def double? : Json → Option Rat
  | .integer value => some (nearestDouble value)
  | .decimal value => some value
  | _ => none

/-- A value, or the exception of the manager. -/
def orThrow {Value : Type} : Option Value → Except ConfigFailure Value
  | some value => .ok value
  | none => .error ConfigStore.parseError

/-! ## The functions -/

/-- The body of `get_value` with a test and an access of one type. -/
def getChecked
    (get : Json → Option ConfigValue)
    (settings : Json)
    (key : Option String) :
    Except ConfigFailure ConfigValue :=
  match key with
  | some key => do
      if ← hasMember settings key then
        orThrow (get (← index settings key))
      else
        orThrow none
  | none => orThrow (get settings)

/-- `GetString` is read up to a NUL. -/
def getString (value : Json) : Option ConfigValue :=
  value.string?.map fun text => .string (cString text.toList)

/-- `get_value<std::string>` -/
def getValueString : Json → Option String → Except ConfigFailure ConfigValue :=
  getChecked getString

/-- `get_value<double>` looks the member up first. -/
def getValueDouble (settings : Json) (key : Option String) :
    Except ConfigFailure ConfigValue :=
  match key with
  | some key => do
      if (double? (← index settings key)).isSome then
        if ← hasMember settings key then
          orThrow ((double? (← index settings key)).map .double)
        else
          orThrow none
      else
        orThrow none
  | none => orThrow ((double? settings).map .double)

/-- `get_value<std::uint32_t>` -/
def getValueUint32 : Json → Option String → Except ConfigFailure ConfigValue :=
  getChecked fun value => value.uint32?.map .uint32

/-- `get_value<std::int32_t>` -/
def getValueInt32 : Json → Option String → Except ConfigFailure ConfigValue :=
  getChecked fun value => (int32? value).map .int32

/-- `get_value<std::uint64_t>` -/
def getValueUint64 : Json → Option String → Except ConfigFailure ConfigValue :=
  getChecked fun value => value.uint64?.map .uint64

/-- `get_value<std::int64_t>` -/
def getValueInt64 : Json → Option String → Except ConfigFailure ConfigValue :=
  getChecked fun value => (int64? value).map .int64

/-- `get_value` of a type -/
def getValue : ValueKind → Json → Option String →
    Except ConfigFailure ConfigValue
  | .string => getValueString
  | .double => getValueDouble
  | .uint32 => getValueUint32
  | .uint64 => getValueUint64
  | .int32 => getValueInt32
  | .int64 => getValueInt64

/-- `get_array` of a type -/
def getArray (kind : ValueKind) (object : Json) :
    Except ConfigFailure (List ConfigValue) :=
  match object.elements? with
  | some elements => elements.mapM fun element => getValue kind element none
  | none => .error ConfigStore.parseError

/-! ## What should be returned -/

/-- The value of a type that is stored, if there is one. -/
def stored (kind : ValueKind) (value : Json) : Option ConfigValue :=
  match kind with
  | .string => value.string?.map fun text => .string text.toList
  | .double => (double? value).map .double
  | .uint32 => value.uint32?.map .uint32
  | .uint64 => value.uint64?.map .uint64
  | .int32 => (int32? value).map .int32
  | .int64 => (int64? value).map .int64

/-- The value that a key addresses, or the settings without a key. -/
def addressed (settings : Json) : Option String → Option Json
  | some key => settings.member? key
  | none => some settings

/-- The stored value is returned if there is one, otherwise it is thrown. -/
def AnswersValue
    (kind : ValueKind)
    (settings : Json)
    (key : Option String) :
    Prop :=
  getValue kind settings key =
    orThrow ((addressed settings key).bind (stored kind))

/-- All elements are returned in order if they have the type. -/
def AnswersArray (kind : ValueKind) (elements : List Json) : Prop :=
  getArray kind (.array elements) = orThrow (elements.mapM (stored kind))

/-- A key is asked of an object only, and for a `double` it is there. -/
def KeyGuarded (kind : ValueKind) (settings : Json) (key : Option String) :
    Prop :=
  ∀ name, key = some name →
    settings.isObject = true ∧
      (kind = .double → (settings.member? name).isSome)

/-- A string that is read has no NUL in it. -/
def TextGuarded (kind : ValueKind) (value : Option Json) : Prop :=
  kind = .string → ∀ text, value.bind Json.string? = some text →
    NulFree text.toList

/-! ## One value -/

/-- The access of a type, without a key. -/
def get (kind : ValueKind) (value : Json) : Option ConfigValue :=
  match kind with
  | .string => getString value
  | kind => stored kind value

theorem getValue_none (kind : ValueKind) (settings : Json) :
    getValue kind settings none = orThrow (get kind settings) := by
  cases kind <;> rfl

theorem orThrow_ne_aborted {Value : Type} (value : Option Value) :
    orThrow value ≠ .error .aborted := by
  cases value <;> simp [orThrow, ConfigStore.parseError]

theorem orThrow_inj
    {Value : Type}
    {first second : Option Value} :
    orThrow first = orThrow second ↔ first = second := by
  cases first <;> cases second <;> simp [orThrow]

theorem hasMember_of_object
    {settings : Json}
    (isObject : settings.isObject = true)
    (key : String) :
    hasMember settings key = .ok (settings.member? key).isSome :=
  if_pos isObject

/-- What is no object has no members. -/
theorem member?_of_noObject
    {settings : Json}
    (noObject : settings.isObject = false)
    (key : String) :
    settings.member? key = none := by
  cases settings with
  | object members => cases noObject
  | _ => rfl

section

variable (read : Json → Option ConfigValue)

theorem getChecked_member
    {settings value : Json}
    {name : String}
    (isObject : settings.isObject = true)
    (found : settings.member? name = some value) :
    getChecked read settings (some name) = orThrow (read value) := by
  simp only [getChecked, hasMember_of_object isObject, index, found, bind,
    Except.bind, Option.isSome_some, if_true]

theorem getChecked_missing
    {settings : Json}
    {name : String}
    (isObject : settings.isObject = true)
    (missing : settings.member? name = none) :
    getChecked read settings (some name) = orThrow none := by
  simp only [getChecked, hasMember_of_object isObject, missing, bind,
    Except.bind, Option.isSome_none, Bool.false_eq_true, if_false]

theorem getChecked_noObject
    {settings : Json}
    (noObject : settings.isObject = false)
    (name : String) :
    getChecked read settings (some name) = .error .aborted := by
  simp only [getChecked, hasMember, noObject, Bool.false_eq_true, if_false,
    bind, Except.bind]

end

/-- A member of an object is read like a value without a key. -/
theorem getValue_member
    (kind : ValueKind)
    {settings value : Json}
    {name : String}
    (isObject : settings.isObject = true)
    (found : settings.member? name = some value) :
    getValue kind settings (some name) = orThrow (get kind value) := by
  cases kind with
  | double =>
      simp only [getValue, getValueDouble, index, found,
        hasMember_of_object isObject, bind, Except.bind, Option.isSome_some,
        if_true, get, stored]
      cases double? value <;> rfl
  | _ => exact getChecked_member _ isObject found

/-- A key that is missing throws, unless a `double` is asked for. -/
theorem getValue_missing
    (kind : ValueKind)
    {settings : Json}
    {name : String}
    (isObject : settings.isObject = true)
    (missing : settings.member? name = none) :
    getValue kind settings (some name) =
      if kind = .double then .error .aborted else orThrow none := by
  cases kind with
  | double => simp [getValue, getValueDouble, index, missing, bind, Except.bind]
  | _ => exact getChecked_missing _ isObject missing

/-- A key of what is no object ends the program. -/
theorem getValue_noObject
    (kind : ValueKind)
    {settings : Json}
    (noObject : settings.isObject = false)
    (name : String) :
    getValue kind settings (some name) = .error .aborted := by
  cases kind with
  | double =>
      simp [getValue, getValueDouble, index, member?_of_noObject noObject, bind,
        Except.bind]
  | _ => exact getChecked_noObject _ noObject name

/-- A text is a C string if there is no NUL in it. -/
theorem cString_eq_iff (text : List Char) :
    cString text = text ↔ NulFree text :=
  ⟨fun same => same ▸ Client.nulFree_cString text, Client.cString_of_nulFree⟩

/-- What is read is what is stored, up to a NUL in a string. -/
theorem bind_get_eq_iff (kind : ValueKind) (value : Option Json) :
    value.bind (get kind) = value.bind (stored kind) ↔
      TextGuarded kind value := by
  cases kind with
  | string =>
      have read :
          value.bind (get .string) =
            (value.bind Json.string?).map fun text =>
              .string (cString text.toList) :=
        Option.map_bind.symm
      have kept :
          value.bind (stored .string) =
            (value.bind Json.string?).map fun text => .string text.toList :=
        Option.map_bind.symm
      rw [read, kept, TextGuarded]
      cases value.bind Json.string? with
      | none => simp
      | some text => simp [cString_eq_iff]
  | _ => exact iff_of_true rfl (by rintro ⟨⟩)

/-- A value is answered exactly if its key and its text are guarded. -/
theorem answersValue_iff
    (kind : ValueKind)
    (settings : Json)
    (key : Option String) :
    AnswersValue kind settings key ↔
      KeyGuarded kind settings key ∧
        TextGuarded kind (addressed settings key) := by
  rw [AnswersValue, ← bind_get_eq_iff]
  cases key with
  | none =>
      have guarded : KeyGuarded kind settings none := by rintro name ⟨⟩
      rw [getValue_none, addressed, Option.bind_some, Option.bind_some,
        orThrow_inj, and_iff_right guarded]
  | some name =>
      rw [addressed]
      cases isObject : settings.isObject with
      | false =>
          rw [getValue_noObject kind isObject]
          refine iff_of_false (orThrow_ne_aborted _).symm fun guarded => ?_
          have checked := (guarded.1 name rfl).1
          rw [isObject] at checked
          cases checked
      | true =>
          cases found : settings.member? name with
          | none =>
              rw [getValue_missing kind isObject found]
              split_ifs with double
              · refine iff_of_false (orThrow_ne_aborted _).symm
                  fun guarded => ?_
                have there := (guarded.1 name rfl).2 double
                rw [found] at there
                cases there
              · refine iff_of_true rfl ⟨?_, rfl⟩
                rintro other ⟨⟩
                exact ⟨isObject, fun isDouble => absurd isDouble double⟩
          | some value =>
              rw [getValue_member kind isObject found, Option.bind_some,
                Option.bind_some, orThrow_inj, and_iff_right]
              rintro other ⟨⟩
              rw [found]
              exact ⟨isObject, fun _ => rfl⟩

/-! ## Arrays -/

/-- The elements of an array are read one after the other. -/
theorem getArray_array (kind : ValueKind) (elements : List Json) :
    getArray kind (.array elements) = orThrow (elements.mapM (get kind)) := by
  simp only [getArray, Json.elements?, getValue_none]
  induction elements with
  | nil => rfl
  | cons element elements inductionHypothesis =>
      rw [List.mapM_cons, List.mapM_cons, inductionHypothesis]
      cases get kind element with
      | none => rfl
      | some value => cases elements.mapM (get kind) <;> rfl

/-- All strings of an array that are read have no NUL in them. -/
def TextsGuarded (kind : ValueKind) (elements : List Json) : Prop :=
  kind = .string → ∀ texts, elements.mapM Json.string? = some texts →
    ∀ text ∈ texts, NulFree text.toList

/-- Reading converts the strings of an array. -/
theorem mapM_map_string
    (convert : String → ConfigValue)
    (elements : List Json) :
    elements.mapM (fun value => value.string?.map convert) =
      (elements.mapM Json.string?).map (List.map convert) := by
  induction elements with
  | nil => rfl
  | cons element elements inductionHypothesis =>
      rw [List.mapM_cons, List.mapM_cons, inductionHypothesis]
      cases element.string? with
      | none => rfl
      | some text => cases elements.mapM Json.string? <;> rfl

/-- An array is answered exactly if its strings are guarded. -/
theorem answersArray_iff (kind : ValueKind) (elements : List Json) :
    AnswersArray kind elements ↔ TextsGuarded kind elements := by
  rw [AnswersArray, getArray_array, orThrow_inj]
  cases kind with
  | string =>
      have read :
          elements.mapM (get .string) =
            (elements.mapM Json.string?).map
              (List.map fun text => .string (cString text.toList)) :=
        mapM_map_string _ elements
      have kept :
          elements.mapM (stored .string) =
            (elements.mapM Json.string?).map
              (List.map fun text => .string text.toList) :=
        mapM_map_string _ elements
      rw [read, kept, TextsGuarded]
      cases elements.mapM Json.string? with
      | none => simp
      | some texts => simp [List.map_inj_left, cString_eq_iff]
  | _ => exact iff_of_true rfl (by rintro ⟨⟩)

/--
A value is returned or its absence thrown exactly if a key is asked of an
object, in which a `double` is there, and a string has no NUL in it; and so
are the elements of an array exactly if its strings have none.
-/
theorem answers_iff_guarded (kind : ValueKind) :
    (∀ settings key,
      AnswersValue kind settings key ↔
        KeyGuarded kind settings key ∧
          TextGuarded kind (addressed settings key)) ∧
      ∀ elements,
        AnswersArray kind elements ↔ TextsGuarded kind elements :=
  ⟨answersValue_iff kind, answersArray_iff kind⟩

/-- A `double` that is missing in the settings of the server. -/
theorem missing_double_not_answers :
    ¬ ∀ (kind : ValueKind) (settings : Json) (key : Option String),
      AnswersValue kind settings key := by
  intro claim
  have answered :=
    claim .double (.object [("port", .integer 6565)]) (some "frequency")
  rw [AnswersValue, getValue_missing .double rfl rfl, if_pos rfl] at answered
  exact orThrow_ne_aborted _ answered.symm

/-! ## The manager -/

/-- A value passes the test of a type exactly if it can be read. -/
theorem reads_eq_isSome_get (kind : ValueKind) (value : Json) :
    kind.reads value = (get kind value).isSome := by
  cases kind <;> cases value <;>
    simp [ValueKind.reads, ValueKind.accepts, get, getString, stored,
      Json.string?, Json.number?, Json.uint32?, Json.uint64?, double?, int32?,
      int64?, Json.isInRange] <;>
    split_ifs <;> simp_all

/-- The test of a type, with what is read behind it. -/
theorem map_some_orThrow_get (kind : ValueKind) (value : Json) :
    (orThrow (get kind value)).map some =
      (if kind.reads value then
          .ok value
        else
          .error ConfigStore.parseError : Except ConfigFailure Json).map
        (get kind) := by
  rw [reads_eq_isSome_get]
  cases read : get kind value with
  | none => rfl
  | some result => exact congrArg Except.ok read.symm

/-- The functions read what the manager gives for a reference. -/
theorem getValue_eq_map
    {store : ConfigStore}
    {settings : Settings}
    {value : Json}
    (resolved : store.resolve settings = some value)
    (kind : ValueKind)
    (key : Option String) :
    (getValue kind value key).map some =
      (store.getValue kind settings key).map (get kind) := by
  unfold ConfigStore.getValue
  rw [resolved]
  cases key with
  | none =>
      rw [getValue_none]
      exact map_some_orThrow_get kind value
  | some name =>
      cases value with
      | object members =>
          cases found : (Json.object members).member? name with
          | none =>
              rw [getValue_missing kind rfl found]
              dsimp only
              rw [found]
              split_ifs <;> rfl
          | some member =>
              rw [getValue_member kind rfl found]
              dsimp only
              rw [found]
              exact map_some_orThrow_get kind member
      | _ => rw [getValue_noObject kind rfl]; rfl

end ConfigReading

end Radar
