import Mathlib.Algebra.Order.Ring.Rat

/-!
# JSON values

Values of JSON documents.  Numbers keep the distinction that JSON libraries
make between integers and other numbers; objects keep their members in the
order of the text, duplicates included.
-/

/-- A JSON value. -/
inductive Json where
  | null
  | bool (value : Bool)
  | integer (value : Int)
  | decimal (value : Rat)
  | string (value : String)
  | array (elements : List Json)
  | object (members : List (String × Json))

namespace Json

/-- The value of the first member with a name. -/
def member? (name : String) : Json → Option Json
  | object members =>
      (members.find? fun member => member.1 = name).map Prod.snd
  | _ => none

/-- A number that fits 32 bits without a sign. -/
def uint32? : Json → Option UInt32
  | integer value =>
      if 0 ≤ value ∧ value < 4294967296 then
        some (UInt32.ofNat value.toNat)
      else
        none
  | _ => none

/-- A number that fits 64 bits without a sign. -/
def uint64? : Json → Option UInt64
  | integer value =>
      if 0 ≤ value ∧ value < 18446744073709551616 then
        some (UInt64.ofNat value.toNat)
      else
        none
  | _ => none

/-- Any number, converted to a fraction. -/
def number? : Json → Option Rat
  | integer value => some value
  | decimal value => some value
  | _ => none

/-- A string. -/
def string? : Json → Option String
  | string value => some value
  | _ => none

/-- The elements of an array. -/
def elements? : Json → Option (List Json)
  | array elements => some elements
  | _ => none

/-- An integer in a range. -/
def isInRange (low high : Int) : Json → Bool
  | .integer value => low ≤ value ∧ value < high
  | _ => false

/-- A number that the library keeps in floating point. -/
def isDouble : Json → Bool
  | .decimal _ => true
  | .integer value =>
      value < -9223372036854775808 ∨ 18446744073709551616 ≤ value
  | _ => false

/-- Is a value an object? -/
def isObject : Json → Bool
  | object _ => true
  | _ => false

/-- Is a value an array? -/
def isArray : Json → Bool
  | array _ => true
  | _ => false

/-! ## Parts of a value -/

/-- An element of an array or the value of a member, by its position. -/
def child? (index : Nat) : Json → Option Json
  | array elements => elements[index]?
  | object members => members[index]?.map Prod.snd
  | _ => none

/-- The part of a value that positions lead to. -/
def at? : List Nat → Json → Option Json
  | [], value => some value
  | index :: later, value => (value.child? index).bind (at? later)

/-- Change an element or the value of a member. -/
def modifyChild (index : Nat) (change : Json → Json) : Json → Json
  | array elements => array (elements.modify index change)
  | object members =>
      object
        (members.modify index fun member => (member.1, change member.2))
  | value => value

/-- Change the part of a value that positions lead to. -/
def modifyAt : List Nat → (Json → Json) → Json → Json
  | [], change => change
  | index :: later, change => modifyChild index (modifyAt later change)

/-- Change the value of the first member with a name. -/
def setMember (name : String) (new : Json) : Json → Json
  | object members =>
      object
        (members.modify (members.findIdx fun member => member.1 = name)
          fun member => (member.1, new))
  | value => value

@[simp] theorem isObject_setMember (name : String) (new value : Json) :
    (setMember name new value).isObject = value.isObject := by
  cases value <;> rfl

@[simp] theorem isObject_modifyChild
    (index : Nat)
    (change : Json → Json)
    (value : Json) :
    (modifyChild index change value).isObject = value.isObject := by
  cases value <;> rfl

end Json
