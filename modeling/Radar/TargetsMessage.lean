import Radar.JsonParser
import Radar.TargetServer

namespace Radar

/-!
# Lists of targets between server and client

The text in which the server sends its targets and the client's function that
reads it, with any parser of JSON.  Formatting returns the whole text, and the
coordinates of the client are exact fractions.
-/

/-! ## Targets -/

/-- Description of a target. -/
structure Target where
  targetId : UInt32
  x : Vector Rat 6
  y : Vector Rat 6
  z : Vector Rat 6
  deriving DecidableEq

/-- A table of targets by identifier. -/
@[ext] structure TargetTable where
  tbl : UInt32 → Option Target

namespace TargetTable

/-- A table without targets. -/
def empty : TargetTable where
  tbl _ := none

/-- Add a target, unless there is one with the identifier. -/
def addTarget (table : TargetTable) (desc : Target) : TargetTable :=
  if (table.tbl desc.targetId).isSome then
    table
  else
    { tbl := Function.update table.tbl desc.targetId (some desc) }

end TargetTable

/-! ## The message -/

namespace TargetsListMsg

/-- `%u` -/
def unsigned (value : UInt32) : List Char :=
  Nat.toDigits 10 value.toNat

section

variable {Number : Type} (fixed : Number → List Char)

/-- `%.8f, %.8f, %.8f, %.8f, %.8f, %.8f` -/
def coordinates (values : Vector Number 6) : List Char :=
  ", ".toList.intercalate (values.toList.map fixed)

/-- The text of a target, with what `%.8f` prints for a coordinate. -/
def itemText (targetId : UInt32) (x y z : Vector Number 6) : List Char :=
  "\x7b \"id\" : ".toList ++ unsigned targetId ++
    ",\"X\" : [".toList ++ coordinates fixed x ++
    "],\"Y\" : [".toList ++ coordinates fixed y ++
    "],\"Z\" : [".toList ++ coordinates fixed z ++ "] \x7d".toList

end

section

variable
  {Item : Type}
  (targetId : Item → UInt32)
  (itemBuff : Item → List Char)

/--
The text of a target with the separator behind it.  `operator!=` compares
identifiers.
-/
def separated (lastItem item : Item) : List Char :=
  if targetId item != targetId lastItem then
    itemBuff item ++ ", ".toList
  else
    itemBuff item

/--
The text of a list of targets.  `%u` prints the low 32 bits of the size of the
list.
-/
def listText (targets : List Item) (notEmpty : targets ≠ []) : List Char :=
  "\x7b \"message\" : \"TE_TargetsList\", \"size\" : ".toList ++
    unsigned (UInt32.ofNat targets.length) ++ ", \"targets\" : [".toList ++
    targets.flatMap
      (separated targetId itemBuff (targets.getLast notEmpty)) ++
    "]\x7d\n".toList

end

/-- The text of a target whose coordinates are exact fractions. -/
def itemBuff (item : Target) : List Char :=
  itemText (DecimalText.printFixed 8) item.targetId item.x item.y item.z

/-- The text of a list of such targets. -/
def msg (targets : List Target) (notEmpty : targets ≠ []) : List Char :=
  listText Target.targetId itemBuff targets notEmpty

end TargetsListMsg

/-! ## The client -/

namespace Client

/-- How a function of the client ends without a result. -/
inductive Failure where
  | thrown
  | aborted
  deriving Repr, DecidableEq

/-- The characters of a C string. -/
def cString (text : List Char) : List Char :=
  text.takeWhile (· ≠ '\x00')

/-- A text without the character that ends C strings is one. -/
theorem cString_of_nulFree
    {text : List Char}
    (nulFree : Json.NulFree text) :
    cString text = text := by
  rw [cString, List.takeWhile_eq_self_iff]
  intro character member
  rw [decide_eq_true_eq]
  rintro rfl
  exact nulFree member

/-- A C string has no such character. -/
theorem nulFree_cString (text : List Char) :
    Json.NulFree (cString text) := by
  intro member
  have notNul := List.mem_takeWhile_imp member
  simp at notNul

/-- A JSON string as a C string. -/
def string? (value : Json) : Option (List Char) :=
  value.string?.map fun content => cString content.toList

/-- A member of an object; that it is there is an assertion of the library. -/
def getMember (root : Json) (key : String) : Except Failure Json :=
  match root.member? key with
  | some value => .ok value
  | none => .error .aborted

/--
The value of a member of the right kind.  That the root is an object is an
assertion of the library.
-/
def getValue
    {Value : Type}
    (read : Json → Option Value)
    (root : Json)
    (key : String) :
    Except Failure Value :=
  if root.isObject then
    match (root.member? key).bind read with
    | some value => .ok value
    | none => .error .thrown
  else
    .error .aborted

/-- A number. -/
def getDouble (value : Json) : Except Failure Rat :=
  match value.number? with
  | some number => .ok number
  | none => .error .thrown

/-- An array of numbers; its size is an assertion. -/
def getArray (size : Nat) (arr : Json) : Except Failure (Vector Rat size) :=
  match arr.elements? with
  | some elements =>
      if sized : elements.toArray.size = size then
        (Vector.mk elements.toArray sized).mapM getDouble
      else
        .error .aborted
  | none => .error .thrown

/-- The target that an element of the list describes. -/
def getTarget (target : Json) : Except Failure Target := do
  let targetId ← getValue Json.uint32? target "id"
  let x ← getArray 6 (← getMember target "X")
  let y ← getArray 6 (← getMember target "Y")
  let z ← getArray 6 (← getMember target "Z")
  return { targetId, x, y, z }

/-- The loop over the elements of the list. -/
def addTargets :
    List Json → TargetTable → Except Failure ErrorCode × TargetTable
  | [], tbl => (.ok .ok, tbl)
  | target :: later, tbl =>
      if target.isObject then
        match getTarget target with
        | .ok item => addTargets later (tbl.addTarget item)
        | .error failure => (.error failure, tbl)
      else
        (.ok .requestFail, tbl)

/-- The header of a message and the size that it gives. -/
def getHeader (root : Json) : Except Failure (List Char × UInt32) := do
  let header ← getValue string? root "message"
  let ntargets ← getValue Json.uint32? root "size"
  return (header, ntargets)

/-- Deserialize a message to a table, with any parser of JSON. -/
def deserialize
    (parse : List Char → Option Json)
    (msg : List Char)
    (tbl : TargetTable) :
    Except Failure ErrorCode × TargetTable :=
  if msg = [] then
    (.ok .requestFail, tbl)
  else
    match parse (cString msg) with
    | none => (.ok .requestFail, tbl)
    | some root =>
        match getHeader root with
        | .error .thrown => (.ok .requestFail, tbl)
        | .error .aborted => (.error .aborted, tbl)
        | .ok (header, ntargets) =>
            if header ≠ "TE_TargetsList".toList then
              (.ok .requestFail, tbl)
            else if ntargets = 0 then
              (.ok .ok, tbl)
            else
              match (root.member? "targets").bind Json.elements? with
              | none => (.ok .requestFail, tbl)
              | some elements =>
                  if UInt32.ofNat elements.length = ntargets then
                    addTargets elements tbl
                  else
                    (.ok .requestFail, tbl)

end Client

end Radar
