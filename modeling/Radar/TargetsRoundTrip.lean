import Mathlib.Data.List.Nodup
import Radar.TargetsMessage

namespace Radar

/-!
# Reading a list of targets back

The text of a list of targets is a JSON document.  Its values are the
identifiers and the rounded coordinates, so that the client's table is the list
again.
-/

open DecimalText (HasPlaces rounded)

namespace Target

/-- The target with the coordinates that are printed. -/
def printed (item : Target) : Target where
  targetId := item.targetId
  x := item.x.map (rounded 8)
  y := item.y.map (rounded 8)
  z := item.z.map (rounded 8)

/-- All coordinates are written with at most eight decimal places. -/
def HasEightPlaces (item : Target) : Prop :=
  (∀ value ∈ item.x, HasPlaces 8 value) ∧
    (∀ value ∈ item.y, HasPlaces 8 value) ∧
      ∀ value ∈ item.z, HasPlaces 8 value

instance (item : Target) : Decidable item.HasEightPlaces :=
  inferInstanceAs (Decidable (_ ∧ _))

/-- Such targets are printed as they are. -/
theorem printed_of_hasEightPlaces
    {item : Target}
    (places : item.HasEightPlaces) :
    item.printed = item := by
  have keeps
      {values : Vector Rat 6}
      (hasPlaces : ∀ value ∈ values, HasPlaces 8 value) :
      values.map (rounded 8) = values := by
    refine Vector.ext fun index inside => ?_
    rw [Vector.getElem_map]
    exact
      DecimalText.rounded_of_hasPlaces
        (hasPlaces _ (Vector.getElem_mem inside))
  rw [printed, keeps places.1, keeps places.2.1, keeps places.2.2]

/-- A target as a JSON value. -/
def toJson (item : Target) : Json :=
  .object
    [("id", .integer item.targetId.toNat),
      ("X", .array ((item.x.map (rounded 8)).toList.map Json.decimal)),
      ("Y", .array ((item.y.map (rounded 8)).toList.map Json.decimal)),
      ("Z", .array ((item.z.map (rounded 8)).toList.map Json.decimal))]

end Target

namespace TargetsListMsg

open Json (Spells SpellsString Blank Document)

section

variable {Number : Type} {fixed : Number → List Char}

/-- Coordinates that are printed as numbers are the elements of an array. -/
theorem spells_coordinates
    {value : Number → Rat}
    {values : Vector Number 6}
    (spelled :
      ∀ number ∈ values,
        Spells (fixed number) (.value (.decimal (value number)))) :
    Spells (coordinates fixed values ++ [']'])
      (.elements ((values.map value).toList.map Json.decimal)) := by
  refine Spells.joined ?_ ?_
  · intro empty
    have sized := congrArg List.length empty
    simp at sized
  · rw [Vector.toList_map, List.map_map, List.forall₂_map_left_iff,
      List.forall₂_map_right_iff, List.forall₂_same]
    exact fun number member => spelled number (Vector.mem_toList_iff.mp member)

/-- The text of a target is its JSON value. -/
theorem spells_itemText
    {item : Target}
    {x y z : Vector Number 6}
    (spelledX :
      Spells (coordinates fixed x ++ [']'])
        (.elements ((item.x.map (rounded 8)).toList.map Json.decimal)))
    (spelledY :
      Spells (coordinates fixed y ++ [']'])
        (.elements ((item.y.map (rounded 8)).toList.map Json.decimal)))
    (spelledZ :
      Spells (coordinates fixed z ++ [']'])
        (.elements ((item.z.map (rounded 8)).toList.map Json.decimal))) :
    Spells (itemText fixed item.targetId x y z) (.value item.toJson) := by
  have nameId : SpellsString ['"', 'i', 'd', '"'] "id" :=
    SpellsString.plain "id" (by simp)
  have nameX : SpellsString ['"', 'X', '"'] "X" :=
    SpellsString.plain "X" (by simp)
  have nameY : SpellsString ['"', 'Y', '"'] "Y" :=
    SpellsString.plain "Y" (by simp)
  have nameZ : SpellsString ['"', 'Z', '"'] "Z" :=
    SpellsString.plain "Z" (by simp)
  have z :=
    Spells.lastMember Blank.nil nameZ Blank.space Blank.space
      (Spells.array spelledZ) Blank.space
  have y :=
    Spells.member Blank.nil nameY Blank.space Blank.space
      (Spells.array spelledY) Blank.nil z
  have x :=
    Spells.member Blank.nil nameX Blank.space Blank.space
      (Spells.array spelledX) Blank.nil y
  have object :=
    Spells.object
      (Spells.member Blank.space nameId Blank.space Blank.space
        (Spells.unsigned item.targetId.toNat) Blank.nil x)
  unfold itemText unsigned Target.toJson
  simpa using object

end

/-- The text of a target with exact coordinates is its JSON value. -/
theorem spells_itemBuff (item : Target) :
    Spells (itemBuff item) (.value item.toJson) :=
  spells_itemText
    (spells_coordinates fun _ _ => Spells.fixed (by decide) _)
    (spells_coordinates fun _ _ => Spells.fixed (by decide) _)
    (spells_coordinates fun _ _ => Spells.fixed (by decide) _)

section

variable
  {Item : Type}
  {targetId : Item → UInt32}
  {itemBuff : Item → List Char}

/-- Separators stand between the targets if their identifiers differ. -/
theorem flatMap_separated
    {targets : List Item}
    (notEmpty : targets ≠ [])
    (distinct : (targets.map targetId).Nodup) :
    targets.flatMap
        (separated targetId itemBuff (targets.getLast notEmpty)) =
      [',', ' '].intercalate (targets.map itemBuff) := by
  induction targets with
  | nil => exact absurd rfl notEmpty
  | cons first later inductionHypothesis =>
      cases later with
      | nil => simp [separated]
      | cons second others =>
          have differs :
              targetId first !=
                targetId
                  ((second :: others).getLast (List.cons_ne_nil _ _)) := by
            rw [List.map_cons, List.nodup_cons] at distinct
            refine bne_iff_ne.mpr fun same => distinct.1 ?_
            rw [same]
            exact List.mem_map_of_mem (List.getLast_mem _)
          have rest :=
            inductionHypothesis (List.cons_ne_nil _ _)
              (List.nodup_cons.mp distinct).2
          rw [List.getLast_cons (List.cons_ne_nil _ _), List.flatMap_cons, rest,
            separated, if_pos differs]
          simp [List.intercalate_cons_cons]

/-- A list of targets as a JSON value. -/
def toJson (targets : List Target) : Json :=
  .object
    [("message", .string "TE_TargetsList"),
      ("size", .integer (UInt32.ofNat targets.length).toNat),
      ("targets", .array (targets.map Target.toJson))]

/-- The text of a list is a JSON document if those of its targets are values. -/
theorem document_listText
    {targets : List Item}
    (notEmpty : targets ≠ [])
    (distinct : (targets.map targetId).Nodup)
    {described : Item → Target}
    (spelled :
      ∀ item ∈ targets,
        Spells (itemBuff item) (.value (described item).toJson)) :
    Document (listText targetId itemBuff targets notEmpty)
      (toJson (targets.map described)) := by
  have nameMessage :
      SpellsString ['"', 'm', 'e', 's', 's', 'a', 'g', 'e', '"'] "message" :=
    SpellsString.plain "message" (by simp)
  have nameSize : SpellsString ['"', 's', 'i', 'z', 'e', '"'] "size" :=
    SpellsString.plain "size" (by simp)
  have nameTargets :
      SpellsString ['"', 't', 'a', 'r', 'g', 'e', 't', 's', '"'] "targets" :=
    SpellsString.plain "targets" (by simp)
  have header :
      SpellsString
        ['"', 'T', 'E', '_', 'T', 'a', 'r', 'g', 'e', 't', 's', 'L', 'i', 's',
          't', '"']
        "TE_TargetsList" :=
    SpellsString.plain "TE_TargetsList" (by simp)
  have elements :
      Spells ([',', ' '].intercalate (targets.map itemBuff) ++ [']'])
        (.elements ((targets.map described).map Target.toJson)) := by
    refine Spells.joined (by simpa using notEmpty) ?_
    rw [List.map_map, List.forall₂_map_left_iff, List.forall₂_map_right_iff,
      List.forall₂_same]
    exact spelled
  have items :=
    Spells.lastMember Blank.space nameTargets Blank.space Blank.space
      (Spells.array elements) Blank.nil
  have size :=
    Spells.member Blank.space nameSize Blank.space Blank.space
      (Spells.unsigned (UInt32.ofNat targets.length).toNat) Blank.nil items
  have message :=
    Spells.object
      (Spells.member Blank.space nameMessage Blank.space Blank.space
        (Spells.string header) Blank.nil size)
  have newline : Blank ['\n'] := by
    intro character member
    rw [List.mem_singleton.mp member]
    decide
  have document := Document.document Blank.nil message newline
  rw [← flatMap_separated notEmpty distinct] at document
  unfold listText unsigned toJson
  simpa using document

end

/-- The text of a list of targets is a JSON document. -/
theorem document_msg
    {targets : List Target}
    (notEmpty : targets ≠ [])
    (distinct : (targets.map Target.targetId).Nodup) :
    Document (msg targets notEmpty) (toJson targets) := by
  have document :=
    document_listText notEmpty distinct fun item _ =>
      spells_itemBuff item
  rwa [List.map_id'] at document

end TargetsListMsg

/-! ## Tables -/

namespace TargetTable

/-- The table after adding targets one by one. -/
def addTargets (table : TargetTable) (targets : List Target) : TargetTable :=
  targets.foldl addTarget table

/-- What a table holds after adding targets whose identifiers are new. -/
theorem tbl_addTargets
    {table : TargetTable}
    {targets : List Target}
    (distinct : (targets.map Target.targetId).Nodup)
    (new : ∀ item ∈ targets, table.tbl item.targetId = none)
    (id : UInt32)
    (item : Target) :
    (table.addTargets targets).tbl id = some item ↔
      table.tbl id = some item ∨ (item ∈ targets ∧ item.targetId = id) := by
  induction targets generalizing table with
  | nil => simp [addTargets]
  | cons first later inductionHypothesis =>
      have firstNew := new first List.mem_cons_self
      rw [List.map_cons, List.nodup_cons] at distinct
      have otherIds (other : Target) (member : other ∈ later) :
          other.targetId ≠ first.targetId := by
        intro same
        exact distinct.1 (same ▸ List.mem_map_of_mem member)
      have added :
          (table.addTarget first).tbl =
            Function.update table.tbl first.targetId (some first) := by
        rw [addTarget, firstNew]
        rfl
      have laterNew (other : Target) (member : other ∈ later) :
          (table.addTarget first).tbl other.targetId = none := by
        rw [added, Function.update_of_ne (otherIds other member)]
        exact new other (List.mem_cons_of_mem _ member)
      have rest := inductionHypothesis distinct.2 laterNew
      rw [addTargets, List.foldl_cons, ← addTargets, rest, added,
        List.mem_cons]
      by_cases same : id = first.targetId
      · subst same
        rw [Function.update_self, firstNew, Option.some.injEq]
        constructor
        · rintro (rfl | ⟨member, sameId⟩)
          · exact Or.inr ⟨Or.inl rfl, rfl⟩
          · exact absurd sameId (otherIds item member)
        · rintro (absent | ⟨rfl | member, sameId⟩)
          · cases absent
          · exact Or.inl rfl
          · exact absurd sameId (otherIds item member)
      · rw [Function.update_of_ne same]
        constructor
        · rintro (found | ⟨member, sameId⟩)
          · exact Or.inl found
          · exact Or.inr ⟨Or.inr member, sameId⟩
        · rintro (found | ⟨rfl | member, sameId⟩)
          · exact Or.inl found
          · exact absurd sameId.symm same
          · exact Or.inr ⟨member, sameId⟩

end TargetTable

/-! ## The client reads the message -/

namespace Client

open Json (Document)

/-- A number below 2 ^ 32 is read back. -/
theorem uint32?_toNat (value : UInt32) :
    Json.uint32? (.integer value.toNat) = some value := by
  have below : value.toNat < 4294967296 := value.toNat_lt
  simp only [Json.uint32?, Int.natCast_nonneg, true_and]
  rw [if_pos (by exact_mod_cast below), Int.toNat_natCast,
    UInt32.ofNat_toNat]

/-- Arrays of numbers are read back. -/
theorem getArray_decimal (values : Vector Rat 6) :
    getArray 6 (.array (values.toList.map Json.decimal)) = .ok values := by
  have sized : (values.toList.map Json.decimal).toArray.size = 6 := by simp
  have vector :
      Vector.mk (values.toList.map Json.decimal).toArray sized =
        values.map Json.decimal := by
    apply Vector.toList_inj.mp
    rw [Vector.toList_map, Vector.toList_mk]
  have reads :
      (getDouble ∘ Json.decimal) = fun value => pure (id value) := rfl
  rw [getArray]
  simp only [Json.elements?]
  rw [dif_pos sized, vector, Vector.mapM_map, reads, Vector.mapM_pure,
    Vector.map_id]
  rfl

/-- Targets are read back as they are printed. -/
theorem getTarget_toJson (item : Target) :
    getTarget item.toJson = .ok item.printed := by
  have idMember :
      item.toJson.member? "id" = some (.integer item.targetId.toNat) := rfl
  have id : getValue Json.uint32? item.toJson "id" = .ok item.targetId := by
    rw [getValue, idMember, Option.bind_some, uint32?_toNat]
    rfl
  have x :
      getMember item.toJson "X" =
        .ok (.array ((item.x.map (rounded 8)).toList.map Json.decimal)) := rfl
  have y :
      getMember item.toJson "Y" =
        .ok (.array ((item.y.map (rounded 8)).toList.map Json.decimal)) := rfl
  have z :
      getMember item.toJson "Z" =
        .ok (.array ((item.z.map (rounded 8)).toList.map Json.decimal)) := rfl
  unfold getTarget
  rw [id, x, y, z]
  simp only [bind, Except.bind, getArray_decimal]
  rfl

/-- The loop adds every target. -/
theorem addTargets_toJson (targets : List Target) (tbl : TargetTable) :
    addTargets (targets.map Target.toJson) tbl =
      (.ok .ok, tbl.addTargets (targets.map Target.printed)) := by
  induction targets generalizing tbl with
  | nil => rfl
  | cons first later inductionHypothesis =>
      have isObject : first.toJson.isObject = true := rfl
      rw [List.map_cons, addTargets, if_pos isObject, getTarget_toJson]
      exact inductionHypothesis _

/-- The header and the size of the message are read back. -/
theorem getHeader_toJson (targets : List Target) :
    getHeader (TargetsListMsg.toJson targets) =
      .ok ("TE_TargetsList".toList, UInt32.ofNat targets.length) := by
  have sizeMember :
      (TargetsListMsg.toJson targets).member? "size" =
        some (.integer (UInt32.ofNat targets.length).toNat) := rfl
  have size :
      getValue Json.uint32? (TargetsListMsg.toJson targets) "size" =
        .ok (UInt32.ofNat targets.length) := by
    rw [getValue, sizeMember, Option.bind_some, uint32?_toNat]
    rfl
  have messageMember :
      (TargetsListMsg.toJson targets).member? "message" =
        some (.string "TE_TargetsList") := rfl
  have nulFree : Json.NulFree "TE_TargetsList".toList := by simp
  have message :
      getValue string? (TargetsListMsg.toJson targets) "message" =
        .ok "TE_TargetsList".toList := by
    rw [getValue, messageMember, Option.bind_some, string?, Json.string?,
      Option.map_some, cString_of_nulFree nulFree]
    rfl
  unfold getHeader
  rw [message, size]
  rfl

/-- What the client does with a message that has the right header and size. -/
theorem deserialize_of_parsed
    {parse : List Char → Option Json}
    {msg : List Char}
    {root : Json}
    {elements : List Json}
    {ntargets : UInt32}
    (notEmpty : msg ≠ [])
    (nulFree : Json.NulFree msg)
    (parsed : parse msg = some root)
    (header : getHeader root = .ok ("TE_TargetsList".toList, ntargets))
    (found :
      (root.member? "targets").bind Json.elements? = some elements)
    (sized : UInt32.ofNat elements.length = ntargets)
    (tbl : TargetTable) :
    deserialize parse msg tbl =
      if ntargets = 0 then (.ok .ok, tbl) else addTargets elements tbl := by
  rw [deserialize, if_neg notEmpty, cString_of_nulFree nulFree, parsed]
  simp only [header, found]
  rw [if_neg (not_not_intro rfl), if_pos sized]

/--
The client reads a list of targets.  It adds the printed targets, unless the
size of the list is zero in 32 bits.
-/
theorem deserialize_of_document
    (parser : Json.Parser)
    {msg : List Char}
    {targets : List Target}
    (document : Document msg (TargetsListMsg.toJson targets))
    (tbl : TargetTable) :
    deserialize parser.parse msg tbl =
      if UInt32.ofNat targets.length = 0 then
        (.ok .ok, tbl)
      else
        (.ok .ok, tbl.addTargets (targets.map Target.printed)) := by
  have msgNotEmpty : msg ≠ [] := by
    rintro rfl
    have parsedEmpty := document.parseDocument_eq
    cases parsedEmpty
  have elements :
      ((TargetsListMsg.toJson targets).member? "targets").bind
          Json.elements? =
        some (targets.map Target.toJson) := rfl
  rw [deserialize_of_parsed msgNotEmpty document.nulFree
    (parser.complete document) (getHeader_toJson targets) elements
    (by rw [List.length_map]), addTargets_toJson]

/-- The client reads the message of a list with distinct identifiers. -/
theorem deserialize_msg
    (parser : Json.Parser)
    {targets : List Target}
    (notEmpty : targets ≠ [])
    (distinct : (targets.map Target.targetId).Nodup)
    (tbl : TargetTable) :
    deserialize parser.parse (TargetsListMsg.msg targets notEmpty) tbl =
      if UInt32.ofNat targets.length = 0 then
        (.ok .ok, tbl)
      else
        (.ok .ok, tbl.addTargets (targets.map Target.printed)) :=
  deserialize_of_document parser
    (TargetsListMsg.document_msg notEmpty distinct) tbl

/-! ## Decoding undoes encoding -/

/--
The message of a list fills an empty table with exactly the targets of the
list, and so does the message of the list in any other order.
-/
def ReadsBack
    (parser : Json.Parser)
    (targets : List Target)
    (notEmpty : targets ≠ []) :
    Prop :=
  ∃ tbl : TargetTable,
    deserialize parser.parse (TargetsListMsg.msg targets notEmpty)
        TargetTable.empty =
      (.ok .ok, tbl) ∧
    (∀ id item,
      tbl.tbl id = some item ↔ item ∈ targets ∧ item.targetId = id) ∧
    ∀ (permuted : List Target) (permutedNotEmpty : permuted ≠ []),
      permuted.Perm targets →
        deserialize parser.parse (TargetsListMsg.msg permuted permutedNotEmpty)
            TargetTable.empty =
          (.ok .ok, tbl)

/-- A list of fewer than 2 ^ 32 targets is added to the table as it is. -/
theorem deserialize_msg_exact
    (parser : Json.Parser)
    {targets : List Target}
    (notEmpty : targets ≠ [])
    (distinct : (targets.map Target.targetId).Nodup)
    (places : ∀ item ∈ targets, item.HasEightPlaces)
    (short : targets.length < 4294967296)
    (tbl : TargetTable) :
    deserialize parser.parse (TargetsListMsg.msg targets notEmpty) tbl =
      (.ok .ok, tbl.addTargets targets) := by
  have sizeNotZero : UInt32.ofNat targets.length ≠ 0 := by
    intro zero
    have low := congrArg UInt32.toNat zero
    rw [UInt32.toNat_ofNat_of_lt' short, UInt32.toNat_zero] at low
    exact notEmpty (List.length_eq_zero_iff.mp low)
  have printed : targets.map Target.printed = targets := by
    rw [List.map_congr_left fun item member =>
      Target.printed_of_hasEightPlaces (places item member), List.map_id']
  rw [deserialize_msg parser notEmpty distinct, if_neg sizeNotZero, printed]

/--
Lists of fewer than 2 ^ 32 targets with distinct identifiers, and coordinates of
at most eight decimal places, are read back.
-/
theorem readsBack_of_length_lt
    (parser : Json.Parser)
    {targets : List Target}
    (notEmpty : targets ≠ [])
    (distinct : (targets.map Target.targetId).Nodup)
    (places : ∀ item ∈ targets, item.HasEightPlaces)
    (short : targets.length < 4294967296) :
    ReadsBack parser targets notEmpty := by
  have holds
      {permuted : List Target}
      (sameItems : permuted.Perm targets)
      (id : UInt32)
      (item : Target) :
      (TargetTable.empty.addTargets permuted).tbl id = some item ↔
        item ∈ targets ∧ item.targetId = id := by
    have permutedDistinct :=
      (sameItems.map Target.targetId).nodup_iff.mpr distinct
    rw [TargetTable.tbl_addTargets permutedDistinct fun _ _ => rfl,
      sameItems.mem_iff]
    simp [TargetTable.empty]
  refine ⟨TargetTable.empty.addTargets targets, ?_, holds (List.Perm.refl _),
    ?_⟩
  · exact deserialize_msg_exact parser notEmpty distinct places short _
  · intro permuted permutedNotEmpty sameItems
    have sameTable :
        TargetTable.empty.addTargets permuted =
          TargetTable.empty.addTargets targets := by
      ext id item
      rw [holds sameItems, holds (List.Perm.refl _)]
    rw [← sameTable]
    exact
      deserialize_msg_exact parser permutedNotEmpty
        ((sameItems.map Target.targetId).nodup_iff.mpr distinct)
        (fun item member => places item (sameItems.mem_iff.mp member))
        (sameItems.length_eq ▸ short) _

/-- Two targets, one of which moves by a hundred-millionth of a metre. -/
def nearbyTargets : List Target :=
  [{ targetId := 7
     x := #v[6371000, -5 / 4, 0, 0, 0, 0]
     y := #v[0, 1 / 100000000, 0, 0, 0, 0]
     z := #v[-3, 0, 0, 0, 0, 0] },
    { targetId := 2
      x := #v[1, 0, 0, 0, 0, 0]
      y := #v[0, 0, 0, 0, 0, 0]
      z := #v[1 / 2, 0, 0, 0, 0, 0] }]

/-- Both of them are read back. -/
theorem readsBack_nearbyTargets :
    ReadsBack Json.Parser.recursiveDescent nearbyTargets
      (List.cons_ne_nil _ _) :=
  readsBack_of_length_lt Json.Parser.recursiveDescent (List.cons_ne_nil _ _)
    (by decide) (by decide +kernel) (by decide)

/-- Targets at rest with the first identifiers. -/
def stillTargets (count : Nat) : List Target :=
  (List.range count).map fun id =>
    { targetId := UInt32.ofNat id
      x := Vector.replicate 6 0
      y := Vector.replicate 6 0
      z := Vector.replicate 6 0 }

@[simp] theorem length_stillTargets (count : Nat) :
    (stillTargets count).length = count := by
  simp [stillTargets]

/-- There are targets unless the count is zero. -/
theorem stillTargets_ne_nil
    {count : Nat}
    (positive : count ≠ 0) :
    stillTargets count ≠ [] :=
  List.ne_nil_of_length_pos
    (by rw [length_stillTargets]; exact Nat.pos_of_ne_zero positive)

/-- The identifiers are distinct as long as they fit 32 bits. -/
theorem nodup_stillTargets
    {count : Nat}
    (fits : count ≤ 4294967296) :
    ((stillTargets count).map Target.targetId).Nodup := by
  rw [stillTargets, List.map_map]
  refine List.Nodup.map_on ?_ List.nodup_range
  intro first inRange second inRange' same
  have low := congrArg UInt32.toNat same
  rw [List.mem_range] at inRange inRange'
  simp only [Function.comp_apply] at low
  rwa [UInt32.toNat_ofNat_of_lt' (inRange.trans_le fits),
    UInt32.toNat_ofNat_of_lt' (inRange'.trans_le fits)] at low

/-- Zero is written without decimal places. -/
theorem hasEightPlaces_stillTargets
    (count : Nat) :
    ∀ item ∈ stillTargets count, item.HasEightPlaces := by
  intro item member
  obtain ⟨id, -, rfl⟩ := List.mem_map.mp member
  have zero (value : Rat) (inside : value ∈ Vector.replicate 6 (0 : Rat)) :
      HasPlaces 8 value := by
    rw [(Vector.mem_replicate.mp inside).2]
    decide +kernel
  exact ⟨zero, zero, zero⟩

/--
The list of all 2 ^ 32 identifiers is not read back: its size is printed as
zero, and the client takes the message for one without targets.
-/
theorem stillTargets_not_readsBack :
    ¬ ∀ (targets : List Target) (notEmpty : targets ≠ []),
      (targets.map Target.targetId).Nodup →
        (∀ item ∈ targets, item.HasEightPlaces) →
          ReadsBack Json.Parser.recursiveDescent targets notEmpty := by
  intro claim
  have positive : 4294967296 ≠ 0 := by decide
  obtain ⟨tbl, decoded, holds, -⟩ :=
    claim (stillTargets 4294967296) (stillTargets_ne_nil positive)
      (nodup_stillTargets le_rfl) (hasEightPlaces_stillTargets _)
  have sizeZero : UInt32.ofNat (stillTargets 4294967296).length = 0 := by
    rw [length_stillTargets]
    rfl
  rw [deserialize_msg _ _ (nodup_stillTargets le_rfl), if_pos sizeZero]
    at decoded
  obtain ⟨item, member⟩ :=
    List.exists_mem_of_ne_nil _ (stillTargets_ne_nil positive)
  have found := (holds item.targetId item).mpr ⟨member, rfl⟩
  rw [← (Prod.mk.inj decoded).2] at found
  cases found

end Client

end Radar
