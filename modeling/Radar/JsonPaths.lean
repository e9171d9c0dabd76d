import Radar.Json

namespace Json

/-!
# Parts of JSON values after a change

A change at one place of a value leaves the parts at all other places as they
are, and every value around the place keeps its kind, its members in their
order and the number of its elements.
-/

/-! ## Outlines -/

/-- A value without what is in its elements and members. -/
def outline : Json → Json
  | array elements => array (elements.map fun _ => null)
  | object members => object (members.map fun member => (member.1, null))
  | value => value

/-- A change that a view does not show does not show in a list. -/
theorem map_modify_of_view
    {Item View : Type}
    (view : Item → View)
    (change : Item → Item)
    (unseen : ∀ item, view (change item) = view item)
    (items : List Item)
    (index : Nat) :
    (items.modify index change).map view = items.map view := by
  apply List.ext_getElem?
  intro position
  rw [List.getElem?_map, List.getElem?_map, List.getElem?_modify]
  cases items[position]? with
  | none => rfl
  | some item =>
      by_cases same : index = position <;> simp [same, unseen]

@[simp] theorem outline_modifyChild
    (index : Nat)
    (change : Json → Json)
    (value : Json) :
    outline (modifyChild index change value) = outline value := by
  cases value with
  | array elements =>
      exact
        congrArg array
          (map_modify_of_view (fun _ => null) change (fun _ => rfl) elements
            index)
  | object members =>
      exact
        congrArg object
          (map_modify_of_view (fun member => (member.1, null))
            (fun member => (member.1, change member.2)) (fun _ => rfl) members
            index)
  | _ => rfl

/-! ## One level -/

theorem child?_modifyChild_self
    (index : Nat)
    (change : Json → Json)
    (value : Json) :
    (modifyChild index change value).child? index =
      (value.child? index).map change := by
  cases value with
  | array elements => simp [modifyChild, child?]
  | object members => simp [modifyChild, child?, Function.comp_def]
  | _ => rfl

theorem child?_modifyChild_other
    {index other : Nat}
    (different : other ≠ index)
    (change : Json → Json)
    (value : Json) :
    (modifyChild index change value).child? other = value.child? other := by
  cases value with
  | array elements =>
      simp [modifyChild, child?, different.symm]
  | object members =>
      simp [modifyChild, child?, different.symm]
  | _ => rfl

theorem modifyChild_congr
    {index : Nat}
    {value child : Json}
    (found : value.child? index = some child)
    {first second : Json → Json}
    (same : first child = second child) :
    modifyChild index first value = modifyChild index second value := by
  have kept {Item : Type} {items : List Item} {item : Item}
      {change change' : Item → Item} (isItem : items[index]? = some item)
      (agree : change item = change' item) :
      items.modify index change = items.modify index change' := by
    apply List.ext_getElem?
    intro position
    rw [List.getElem?_modify, List.getElem?_modify]
    by_cases here : index = position
    · rw [← here, isItem]
      simp [agree]
    · simp [here]
  cases value with
  | array elements => exact congrArg array (kept found same)
  | object members =>
      rw [child?] at found
      obtain ⟨member, isMember, rfl⟩ := Option.map_eq_some_iff.mp found
      exact congrArg object (kept isMember (by rw [same]))
  | _ => rfl

/-! ## Places -/

theorem at?_append (first second : List Nat) (value : Json) :
    value.at? (first ++ second) = (value.at? first).bind (at? second) := by
  induction first generalizing value with
  | nil => rfl
  | cons index first inductionHypothesis =>
      rw [List.cons_append, at?, at?]
      cases value.child? index with
      | none => rfl
      | some part => exact inductionHypothesis part

/-- The part at the place of a change is changed. -/
theorem at?_modifyAt_self
    (place : List Nat)
    (change : Json → Json)
    (value : Json) :
    (modifyAt place change value).at? place =
      (value.at? place).map change := by
  induction place generalizing value with
  | nil => rfl
  | cons index place inductionHypothesis =>
      rw [modifyAt, at?, at?, child?_modifyChild_self]
      cases value.child? index with
      | none => rfl
      | some part => exact inductionHypothesis part

/-- A part that neither contains the place nor is in it stays as it is. -/
theorem at?_modifyAt_apart
    {place other : List Nat}
    (notAround : ¬ other <+: place)
    (notInside : ¬ place <+: other)
    (change : Json → Json)
    (value : Json) :
    (modifyAt place change value).at? other = value.at? other := by
  induction place generalizing other value with
  | nil => exact absurd List.nil_prefix notInside
  | cons index place inductionHypothesis =>
      cases other with
      | nil => exact absurd List.nil_prefix notAround
      | cons step other =>
          rw [modifyAt, at?, at?]
          by_cases same : step = index
          · subst same
            rw [List.prefix_cons_inj] at notAround notInside
            rw [child?_modifyChild_self]
            cases value.child? step with
            | none => rfl
            | some part => exact inductionHypothesis notAround notInside part
          · rw [child?_modifyChild_other same]

/-- A change below a place is a change of the part at the place. -/
theorem modifyAt_append (first second : List Nat) (change : Json → Json) :
    modifyAt (first ++ second) change =
      modifyAt first (modifyAt second change) := by
  induction first with
  | nil => rfl
  | cons index first inductionHypothesis =>
      rw [List.cons_append, modifyAt, modifyAt, inductionHypothesis]

/-- A part that is not in the place keeps its outline. -/
theorem outline_at?_modifyAt
    {place other : List Nat}
    (notInside : ¬ place <+: other)
    (change : Json → Json)
    (value : Json) :
    ((modifyAt place change value).at? other).map outline =
      (value.at? other).map outline := by
  by_cases around : other <+: place
  · obtain ⟨later, rfl⟩ := around
    rw [modifyAt_append, at?_modifyAt_self, Option.map_map]
    cases later with
    | nil =>
        rw [List.append_nil] at notInside
        exact absurd List.prefix_rfl notInside
    | cons index later =>
        have unseen :
            outline ∘ modifyAt (index :: later) change = outline :=
          funext (outline_modifyChild index _)
        rw [unseen]
  · rw [at?_modifyAt_apart around notInside]

/-- Only what a change makes of the part at the place matters. -/
theorem modifyAt_congr
    {place : List Nat}
    {value part : Json}
    (found : value.at? place = some part)
    {first second : Json → Json}
    (same : first part = second part) :
    modifyAt place first value = modifyAt place second value := by
  induction place generalizing value with
  | nil =>
      obtain rfl : value = part := Option.some.inj found
      exact same
  | cons index place inductionHypothesis =>
      rw [at?] at found
      obtain ⟨child, isChild, inside⟩ := Option.bind_eq_some_iff.mp found
      exact modifyChild_congr isChild (inductionHypothesis inside)

/-- A change of a child is a change one level deeper. -/
theorem modifyAt_modifyChild
    (place : List Nat)
    (index : Nat)
    (change : Json → Json)
    (value : Json) :
    modifyAt place (modifyChild index change) value =
      modifyAt (place ++ [index]) change value :=
  congrFun (modifyAt_append place [index] change).symm value

/-! ## Members -/

/-- The position of the first member with a name. -/
def memberIndex (name : String) : Json → Nat
  | object members => members.findIdx fun member => member.1 = name
  | _ => 0

/-- A member is set where it is. -/
theorem setMember_eq_modifyChild
    {value : Json}
    (isObject : value.isObject = true)
    (name : String)
    (new : Json) :
    setMember name new value =
      modifyChild (value.memberIndex name) (fun _ => new) value := by
  cases value with
  | object members => rfl
  | _ => cases isObject

/-- The first item that passes a test is where it is found. -/
theorem find?_eq_getElem?_findIdx
    {Item : Type}
    (test : Item → Bool)
    (items : List Item) :
    items.find? test = items[items.findIdx test]? := by
  induction items with
  | nil => rfl
  | cons item items inductionHypothesis =>
      rw [List.find?_cons, List.findIdx_cons]
      cases test item with
      | true => rfl
      | false => exact inductionHypothesis

/-- A member is where it is found. -/
theorem member?_eq_child?
    {value : Json}
    (isObject : value.isObject = true)
    (name : String) :
    value.member? name = value.child? (value.memberIndex name) := by
  cases value with
  | object members =>
      exact congrArg (Option.map Prod.snd) (find?_eq_getElem?_findIdx _ members)
  | _ => cases isObject

@[simp] theorem isObject_outline (value : Json) :
    (outline value).isObject = value.isObject := by
  cases value <;> rfl

@[simp] theorem memberIndex_outline (name : String) (value : Json) :
    (outline value).memberIndex name = value.memberIndex name := by
  cases value with
  | object members => exact List.findIdx_map members _ _
  | _ => rfl

@[simp] theorem memberIndex_modifyChild
    (name : String)
    (index : Nat)
    (change : Json → Json)
    (value : Json) :
    (modifyChild index change value).memberIndex name =
      value.memberIndex name := by
  rw [← memberIndex_outline, outline_modifyChild, memberIndex_outline]

end Json
