import Radar.FormatString
import Radar.RequestMessage
import Radar.TargetsRoundTrip

namespace Radar

/-!
# Processing a request

`Server::process_request` collects the targets of the satellites in the search
area and makes the message of the list.  The threads of the loop add their
targets in any order.  Where the satellites are is computed in floating point
and is a parameter; what is computed need not be a number.
-/

open CatalogTle (Keo)
open DecimalText (Double rounded)
open Json (Spells SpellsString Blank Document)

/-! ## The function -/

/-- A target as the server computes it. -/
structure ComputedTarget where
  targetId : UInt32
  x : Vector Double 6
  y : Vector Double 6
  z : Vector Double 6

namespace ComputedTarget

/-- The text that is to be formatted. -/
def text (target : ComputedTarget) : List Char :=
  TargetsListMsg.itemText (Double.printFixed 8) target.targetId target.x
    target.y target.z

/-- The text that `string_format` makes of it. -/
def itemBuff (target : ComputedTarget) : List Char :=
  Utils.formatted target.text

/-- All parameters are numbers. -/
structure IsFinite (target : ComputedTarget) : Prop where
  x : ∀ value ∈ target.x, value.isFinite = true
  y : ∀ value ∈ target.y, value.isFinite = true
  z : ∀ value ∈ target.z, value.isFinite = true

/-- The target that these numbers describe. -/
def toTarget (target : ComputedTarget) : Target where
  targetId := target.targetId
  x := target.x.map Double.toRat
  y := target.y.map Double.toRat
  z := target.z.map Double.toRat

end ComputedTarget

/-- The constructor of a message: an empty list has no last element. -/
def TargetsListMsg.build (targets : List ComputedTarget) :
    Option (List Char) :=
  if notEmpty : targets ≠ [] then
    some
      (listText ComputedTarget.targetId ComputedTarget.itemBuff targets
        notEmpty)
  else
    none

/--
What the calls of `getPosition` of one request lead to: which satellites are
found, and the parameters of their paths.
-/
structure Ephemeris (Elements : Type) where
  sectorCheck : Request → Keo Elements → Bool
  x : Request → Keo Elements → Vector Double 6
  y : Request → Keo Elements → Vector Double 6
  z : Request → Keo Elements → Vector Double 6

namespace Server

variable {Elements : Type} (ephemeris : Ephemeris Elements)

/-- The target of a satellite. -/
def computeParams (request : Request) (item : Keo Elements) :
    ComputedTarget where
  targetId := item.number
  x := ephemeris.x request item
  y := ephemeris.y request item
  z := ephemeris.z request item

/-- The satellites in the search area, in the order of the catalogue. -/
def inSector
    (satelliteList : List (Keo Elements))
    (request : Request) :
    List (Keo Elements) :=
  satelliteList.filter (ephemeris.sectorCheck request)

/--
The results of processing a request; `none` is undefined behaviour.  The loop
counts the entries of the catalogue in an `int`.
-/
inductive ProcessRequest
    (satelliteList : List (Keo Elements))
    (request : Request) :
    Option (List Char) → Prop where
  | overflow (long : 2147483648 ≤ satelliteList.length) :
      ProcessRequest satelliteList request none
  | finished
      {targetBuffer : List ComputedTarget}
      (short : satelliteList.length < 2147483648)
      (gathered :
        targetBuffer.Perm
          ((inSector ephemeris satelliteList request).map
            (computeParams ephemeris request))) :
      ProcessRequest satelliteList request (TargetsListMsg.build targetBuffer)

/-! ## What the message should be -/

/--
The text is a list of targets: valid JSON, and the size is the length of the
array.
-/
def WellFormed (text : List Char) : Prop :=
  ∃ targets : List Json,
    Document text
      (.object
        [("message", .string "TE_TargetsList"),
          ("size", .integer targets.length),
          ("targets", .array targets)])

/--
The message is defined and well formed in every order of the threads.  If no
satellite is in the area, then the client reads an empty list.
-/
def SendsList
    (satelliteList : List (Keo Elements))
    (request : Request) :
    Prop :=
  ∀ result, ProcessRequest ephemeris satelliteList request result →
    ∃ text,
      result = some text ∧ WellFormed text ∧
        (inSector ephemeris satelliteList request = [] →
          ∀ parser : Json.Parser,
            Client.deserialize parser.parse text TargetTable.empty =
              (.ok .ok, TargetTable.empty))

end Server

/-! ## Lists with distinct identifiers -/

namespace ComputedTarget

/-- A target is sent as a value: its text is one, and is sent as it is. -/
structure Printable (target : ComputedTarget) : Prop where
  isFinite : target.IsFinite
  fits : target.text.length ≠ 1024

/-- Such a text is a value. -/
theorem Printable.spells_itemBuff
    {target : ComputedTarget}
    (printable : target.Printable) :
    Spells target.itemBuff (.value target.toTarget.toJson) := by
  have spelled
      {values : Vector Double 6}
      (finite : ∀ value ∈ values, value.isFinite = true) :
      Spells
        (TargetsListMsg.coordinates (Double.printFixed 8) values ++ [']'])
        (.elements
          (((values.map Double.toRat).map (rounded 8)).toList.map
            Json.decimal)) := by
    rw [Vector.map_map]
    exact
      TargetsListMsg.spells_coordinates fun value member =>
        Spells.printFixed (by decide) (finite value member)
  obtain ⟨x, y, z⟩ := printable.isFinite
  rw [itemBuff, Utils.formatted, if_neg printable.fits]
  exact
    @TargetsListMsg.spells_itemText Double (Double.printFixed 8)
      target.toTarget target.x target.y target.z (spelled x) (spelled y)
      (spelled z)

end ComputedTarget

namespace TargetsListMsg

/-- A list of such targets with distinct identifiers is a document. -/
theorem document_computed
    {targets : List ComputedTarget}
    (notEmpty : targets ≠ [])
    (distinct : (targets.map ComputedTarget.targetId).Nodup)
    (printable : ∀ target ∈ targets, target.Printable) :
    Document
      (listText ComputedTarget.targetId ComputedTarget.itemBuff targets
        notEmpty)
      (toJson (targets.map ComputedTarget.toTarget)) :=
  document_listText notEmpty distinct fun target member =>
    (printable target member).spells_itemBuff

end TargetsListMsg

namespace Server

/-- So it is well formed if its length is read as it is. -/
theorem wellFormed_computed
    {targets : List ComputedTarget}
    (notEmpty : targets ≠ [])
    (distinct : (targets.map ComputedTarget.targetId).Nodup)
    (printable : ∀ target ∈ targets, target.Printable)
    (short : targets.length < 2147483648) :
    WellFormed
      (TargetsListMsg.listText ComputedTarget.targetId ComputedTarget.itemBuff
        targets notEmpty) := by
  have size : (UInt32.ofNat targets.length).toNat = targets.length :=
    UInt32.toNat_ofNat_of_lt' (short.trans (by decide))
  have document :=
    TargetsListMsg.document_computed notEmpty distinct printable
  rw [TargetsListMsg.toJson, List.length_map, size] at document
  refine ⟨(targets.map ComputedTarget.toTarget).map Target.toJson, ?_⟩
  rwa [List.length_map, List.length_map]

end Server

/-! ## Lists that start with a refused target -/

namespace TargetsListMsg

variable
  {Item : Type}
  {targetId : Item → UInt32}
  {itemBuff : Item → List Char}

/-- A list is refused if its elements are. -/
theorem not_document_of_elements
    {targets : List Item}
    (notEmpty : targets ≠ [])
    {later : List Char}
    (starts :
      targets.flatMap
          (separated targetId itemBuff (targets.getLast notEmpty)) =
        '\x7b' :: later)
    (refused :
      ∀ fuel behind, later.length + 8 < fuel →
        Json.parseElements fuel ('\x7b' :: (later ++ behind)) = none)
    (value : Json) :
    ¬ Document (listText targetId itemBuff targets notEmpty) value := by
  have nameMessage := SpellsString.plain "message" (by simp)
  have nameSize := SpellsString.plain "size" (by simp)
  have nameTargets := SpellsString.plain "targets" (by simp)
  have header := SpellsString.plain "TE_TargetsList" (by simp)
  let size := UInt32.ofNat targets.length
  let behind := "]\x7d\n".toList
  let text :=
    " \"message\" : \"TE_TargetsList\", \"size\" : ".toList ++
      Nat.toDigits 10 size.toNat ++ ", \"targets\" : [".toList ++
        '\x7b' :: (later ++ behind)
  have shape :
      listText targetId itemBuff targets notEmpty = '\x7b' :: text := by
    unfold listText unsigned
    rw [starts]
    simp [text, size, behind]
  obtain ⟨fuel, length, enough⟩ :
      ∃ fuel,
        ('\x7b' :: text).length = fuel + 4 ∧
          later.length + (Nat.toDigits 10 size.toNat).length + 20 < fuel := by
    refine ⟨text.length - 3, ?_⟩
    have words :
        " \"message\" : \"TE_TargetsList\", \"size\" : ".toList.length =
          40 := rfl
    simp only [text, List.length_append, List.length_cons, words]
    omega
  have brace : Json.skipBlank ('\x7b' :: (later ++ behind)) =
      '\x7b' :: (later ++ behind) :=
    Json.skipBlank_cons rfl _
  have items :=
    Json.parseMembers_of_elements Blank.space nameTargets Blank.space
      Blank.space (by simp [brace]) (refused fuel behind (by omega))
  have sized :=
    Json.parseMembers_of_later Blank.space nameSize Blank.space Blank.space
      (Spells.unsigned size.toNat) Blank.nil (by omega) items
  have longHeader : "\"TE_TargetsList\"".length < fuel + 3 := by
    have words : "\"TE_TargetsList\"".length = 16 := rfl
    omega
  have message :=
    Json.parseMembers_of_later Blank.space nameMessage Blank.space
      Blank.space (Spells.string header) Blank.nil longHeader sized
  rw [shape]
  refine Json.not_document_of_members ?_ ?_ value
  · simp [text, Json.skipBlank, Json.isBlank]
  · rw [length]
    simpa [text] using message

/-- So is one that starts with an object and another one right behind it. -/
theorem not_document_of_two_objects
    {first last : Item}
    {others : List Item}
    (same : targetId first = targetId last)
    (objects :
      ∀ item ∈ first :: (others ++ [last]),
        ∃ inside members,
          itemBuff item = '\x7b' :: inside ∧
            Spells inside (.members members))
    (notEmpty : first :: (others ++ [last]) ≠ [])
    (value : Json) :
    ¬ Document (listText targetId itemBuff (first :: (others ++ [last]))
        notEmpty) value := by
  have lastItem :
      (first :: (others ++ [last])).getLast notEmpty = last := by
    simp
  obtain ⟨inside, members, brace, spelled⟩ :=
    objects first List.mem_cons_self
  obtain ⟨rest, later⟩ :
      ∃ rest,
        (others ++ [last]).flatMap (separated targetId itemBuff last) =
          '\x7b' :: rest := by
    cases others with
    | nil =>
        obtain ⟨text, _, start, -⟩ := objects last (by simp)
        exact ⟨text, by simp [separated, start]⟩
    | cons second others =>
        obtain ⟨text, _, start, -⟩ := objects second (by simp)
        rw [List.cons_append, List.flatMap_cons, separated, start]
        split <;> exact ⟨_, rfl⟩
  have notSeparated :
      separated targetId itemBuff last first = itemBuff first := by
    rw [separated, same, bne_self_eq_false]
    rfl
  have starts :
      (first :: (others ++ [last])).flatMap
          (separated targetId itemBuff
            ((first :: (others ++ [last])).getLast notEmpty)) =
        '\x7b' :: (inside ++ '\x7b' :: rest) := by
    rw [lastItem, List.flatMap_cons, notSeparated, later, brace,
      List.cons_append]
  refine not_document_of_elements notEmpty starts ?_ value
  intro fuel behind enough
  obtain ⟨fuel, rfl⟩ := Json.exists_fuel enough
  have second :
      Json.skipBlank ('\x7b' :: (rest ++ behind)) =
        '\x7b' :: (rest ++ behind) :=
    Json.skipBlank_cons rfl _
  rw [List.append_assoc, List.cons_append]
  refine Json.parseElements_eq_none spelled ?_ ?_ ?_
  · simp [second]
  · simp [second]
  · rw [List.length_append, List.length_cons] at enough
    rw [List.length_cons]
    omega

end TargetsListMsg

/-! ### A parameter is no number -/

namespace ComputedTarget

open TargetsListMsg (coordinates itemText unsigned)

/-- What is no number is refused as a value. -/
theorem parseValue_printFixed
    {value : Double}
    (noNumber : value.isFinite = false)
    (fuel : Nat)
    (rest : List Char) :
    Json.parseValue fuel
        (Json.skipBlank (value.printFixed 8 ++ rest)) =
      none := by
  cases fuel with
  | zero => rw [Json.parseValue]
  | succ fuel =>
      cases value with
      | finite | negativeZero => cases noNumber
      | infinite negative | nan negative => cases negative <;> rfl

/-- Elements of which one is no number are refused. -/
theorem parseElements_printFixed
    {values : List Double}
    (noNumber : ∃ value ∈ values, value.isFinite = false) :
    ∀ before, Json.Blank before → ∀ fuel rest,
      (before ++ [',', ' '].intercalate
        (values.map (Double.printFixed 8))).length < fuel →
      Json.parseElements fuel
          (before ++
            ([',', ' '].intercalate (values.map (Double.printFixed 8)) ++
              rest)) =
        none := by
  induction values with
  | nil =>
      obtain ⟨_, member, -⟩ := noNumber
      cases member
  | cons first later inductionHypothesis =>
      intro before blankBefore fuel rest enough
      obtain ⟨fuel, rfl⟩ := Json.exists_fuel enough
      cases isFinite : first.isFinite with
      | false =>
          apply Json.parseElements_of_value
          rw [Json.skipBlank_append blankBefore]
          cases later with
          | nil => simpa using parseValue_printFixed isFinite fuel rest
          | cons second others =>
              rw [List.map_cons, List.map_cons, List.intercalate_cons_cons,
                List.append_assoc, List.append_assoc]
              exact parseValue_printFixed isFinite fuel _
      | true =>
          obtain ⟨value, member, isNone⟩ := noNumber
          have inLater : value ∈ later := by
            rcases List.mem_cons.mp member with rfl | inLater
            · rw [isFinite] at isNone
              cases isNone
            · exact inLater
          cases later with
          | nil => cases inLater
          | cons second others =>
              rw [List.map_cons, List.map_cons, List.intercalate_cons_cons]
                at enough ⊢
              rw [← List.map_cons] at enough ⊢
              have refused :=
                inductionHypothesis ⟨value, inLater, isNone⟩ [' ']
                  Json.Blank.space fuel rest (by simp at enough ⊢; omega)
              have spelled : Spells (first.printFixed 8) (.value _) :=
                Spells.printFixed (by decide) isFinite
              have whole :=
                Json.parseElements_of_later blankBefore spelled Json.Blank.nil
                  (by simp at enough; omega) refused
              simpa using whole

/-- Coordinates do not start with a closing bracket. -/
theorem coordinates_notClosed
    (values : Vector Double 6)
    (rest : List Char) :
    ∀ later,
      Json.skipBlank (coordinates (Double.printFixed 8) values ++ rest) ≠
        ']' :: later := by
  have starts (value : Double) :
      ∃ first tail,
        value.printFixed 8 = first :: tail ∧ Json.isBlank first = false ∧
          first ≠ ']' := by
    cases isFinite : value.isFinite with
    | true => exact (Spells.printFixed (by decide) isFinite).head
    | false =>
        cases value with
        | finite | negativeZero => cases isFinite
        | infinite negative | nan negative =>
            cases negative <;> exact ⟨_, _, rfl, by decide, by decide⟩
  intro later closed
  obtain ⟨value, others, cons⟩ :
      ∃ value others, values.toList = value :: others :=
    List.exists_cons_of_length_pos (by rw [Vector.length_toList]; decide)
  obtain ⟨first, tail, same, notBlank, notBracket⟩ := starts value
  rw [coordinates, cons] at closed
  have text :
      ∃ behind,
        ", ".toList.intercalate
            ((value :: others).map (Double.printFixed 8)) ++ rest =
          first :: behind := by
    cases others with
    | nil => exact ⟨tail ++ rest, by simp [same]⟩
    | cons second others =>
        rw [List.map_cons, List.map_cons, List.intercalate_cons_cons, same]
        exact ⟨_, rfl⟩
  obtain ⟨behind, text⟩ := text
  rw [text, Json.skipBlank_cons notBlank] at closed
  exact notBracket (List.cons.inj closed).1

section

variable
  {nameText : List Char}
  {name : String}
  {values : Vector Double 6}
  {fuel : Nat}

/-- A member with coordinates that are no numbers is refused. -/
theorem parseMembers_of_row
    (named : SpellsString nameText name)
    (noNumber : ¬ ∀ value ∈ values, value.isFinite = true)
    (enough : (coordinates (Double.printFixed 8) values).length < fuel)
    (rest : List Char) :
    Json.parseMembers (fuel + 2)
        (nameText ++ (' ' :: ':' :: ' ' :: '[' ::
          (coordinates (Double.printFixed 8) values ++ rest))) =
      none := by
  push Not at noNumber
  obtain ⟨value, member, isNone⟩ := noNumber
  have refused :=
    parseElements_printFixed
      ⟨value, Vector.mem_toList_iff.mpr member,
        Bool.eq_false_iff.mpr isNone⟩ [] Json.Blank.nil fuel rest enough
  exact
    Json.parseMembers_of_elements Json.Blank.nil named Json.Blank.space
      Json.Blank.space (coordinates_notClosed values rest) refused

/-- So is one behind which the other members are refused. -/
theorem parseMembers_of_behind
    (named : SpellsString nameText name)
    (enough : (coordinates (Double.printFixed 8) values).length + 2 < fuel)
    {texts : List Char}
    (refused :
      (∀ value ∈ values, value.isFinite = true) →
        Json.parseMembers (fuel + 1) texts = none) :
    Json.parseMembers (fuel + 2)
        (nameText ++ (' ' :: ':' :: ' ' :: '[' ::
          (coordinates (Double.printFixed 8) values ++
            ']' :: ',' :: texts))) =
      none := by
  by_cases finite : ∀ value ∈ values, value.isFinite = true
  · have spelled :
        Spells ('[' :: (coordinates (Double.printFixed 8) values ++ [']']))
          (.value (.array _)) :=
      Spells.array
        (TargetsListMsg.spells_coordinates fun value member =>
          Spells.printFixed (by decide) (finite value member))
    have short :
        ('[' :: (coordinates (Double.printFixed 8) values ++ [']'])).length <
          fuel + 1 := by
      rw [List.length_cons, List.length_append, List.length_singleton]
      omega
    have whole :=
      Json.parseMembers_of_later Json.Blank.nil named Json.Blank.space
        Json.Blank.space spelled Json.Blank.nil short (refused finite)
    simpa using whole
  · exact parseMembers_of_row named finite (by omega) _

end

/-- The members of a target with a parameter that is no number are refused. -/
theorem exists_refused_members
    {target : ComputedTarget}
    (noNumber : ¬ target.IsFinite) :
    ∃ inside,
      target.text = '\x7b' :: inside ∧
        (∀ rest later, Json.skipBlank (inside ++ rest) ≠ '\x7d' :: later) ∧
        ∀ fuel rest, inside.length < fuel →
          Json.parseMembers fuel (inside ++ rest) = none := by
  have nameId : SpellsString ['"', 'i', 'd', '"'] "id" :=
    SpellsString.plain "id" (by simp)
  have nameX : SpellsString ['"', 'X', '"'] "X" :=
    SpellsString.plain "X" (by simp)
  have nameY : SpellsString ['"', 'Y', '"'] "Y" :=
    SpellsString.plain "Y" (by simp)
  have nameZ : SpellsString ['"', 'Z', '"'] "Z" :=
    SpellsString.plain "Z" (by simp)
  refine
    ⟨" \"id\" : ".toList ++ unsigned target.targetId ++
      ",\"X\" : [".toList ++ coordinates (Double.printFixed 8) target.x ++
      "],\"Y\" : [".toList ++ coordinates (Double.printFixed 8) target.y ++
      "],\"Z\" : [".toList ++ coordinates (Double.printFixed 8) target.z ++
      "] \x7d".toList, ?_, ?_, ?_⟩
  · have brace : "\x7b \"id\" : ".toList = '\x7b' :: " \"id\" : ".toList := by
      simp
    change itemText (Double.printFixed 8) target.targetId target.x target.y
      target.z = _
    unfold itemText
    rw [brace]
    rfl
  · simp [Json.skipBlank, Json.isBlank]
  · intro fuel rest enough
    have words : " \"id\" : ".toList.length = 8 := rfl
    simp only [List.length_append, words] at enough
    obtain ⟨fuel, rfl⟩ : ∃ smaller, fuel = smaller + 5 :=
      ⟨fuel - 5, by omega⟩
    have refused :
        Json.parseMembers (fuel + 4)
            (['"', 'X', '"'] ++ (' ' :: ':' :: ' ' :: '[' ::
              (coordinates (Double.printFixed 8) target.x ++ ']' :: ',' ::
                (['"', 'Y', '"'] ++ (' ' :: ':' :: ' ' :: '[' ::
                  (coordinates (Double.printFixed 8) target.y ++ ']' :: ',' ::
                    (['"', 'Z', '"'] ++ (' ' :: ':' :: ' ' :: '[' ::
                      (coordinates (Double.printFixed 8) target.z ++
                        ("] \x7d".toList ++ rest)))))))))) =
          none := by
      refine parseMembers_of_behind nameX (by omega) fun x => ?_
      refine parseMembers_of_behind nameY (by omega) fun y => ?_
      refine parseMembers_of_row nameZ (fun z => ?_) (by omega) _
      exact noNumber ⟨x, y, z⟩
    have short : (unsigned target.targetId).length < fuel + 4 := by
      omega
    have members :=
      Json.parseMembers_of_later Json.Blank.space nameId Json.Blank.space
        Json.Blank.space (Spells.unsigned target.targetId.toNat)
        Json.Blank.nil short refused
    simpa [unsigned] using members

end ComputedTarget

namespace TargetsListMsg

/-- A list that starts with such a target is no document. -/
theorem not_document_of_not_isFinite
    {target : ComputedTarget}
    (noNumber : ¬ target.IsFinite)
    (fits : target.text.length ≠ 1024)
    (others : List ComputedTarget)
    (notEmpty : target :: others ≠ [])
    (value : Json) :
    ¬ Document
      (listText ComputedTarget.targetId ComputedTarget.itemBuff
        (target :: others) notEmpty) value := by
  obtain ⟨inside, text, notClosed, refused⟩ :=
    ComputedTarget.exists_refused_members noNumber
  have itemText : target.itemBuff = '\x7b' :: inside := by
    rw [ComputedTarget.itemBuff, Utils.formatted, if_neg fits, text]
  obtain ⟨separator, starts⟩ :
      ∃ separator,
        separated ComputedTarget.targetId ComputedTarget.itemBuff
            ((target :: others).getLast notEmpty) target =
          '\x7b' :: (inside ++ separator) := by
    rw [separated, itemText]
    split
    · exact ⟨", ".toList, rfl⟩
    · exact ⟨[], by rw [List.append_nil]⟩
  let later :=
    inside ++ (separator ++ others.flatMap
      (separated ComputedTarget.targetId ComputedTarget.itemBuff
        ((target :: others).getLast notEmpty)))
  have whole :
      (target :: others).flatMap
          (separated ComputedTarget.targetId ComputedTarget.itemBuff
            ((target :: others).getLast notEmpty)) =
        '\x7b' :: later := by
    rw [List.flatMap_cons, starts, List.cons_append, List.append_assoc]
  refine not_document_of_elements notEmpty whole ?_ value
  intro fuel behind enough
  simp only [later, List.length_append] at enough
  obtain ⟨fuel, rfl⟩ : ∃ smaller, fuel = smaller + 2 :=
    ⟨fuel - 2, by omega⟩
  apply Json.parseElements_of_value
  rw [Json.skipBlank_cons rfl, List.append_assoc]
  apply Json.parseValue_of_members
  · exact notClosed _
  · exact refused _ _ (by omega)

/-- A list with a text of 1024 characters is no document. -/
theorem not_document_of_length
    {targets : List ComputedTarget}
    (notEmpty : targets ≠ [])
    {target : ComputedTarget}
    (member : target ∈ targets)
    (long : target.text.length = 1024)
    (value : Json) :
    ¬ Document
      (listText ComputedTarget.targetId ComputedTarget.itemBuff targets
        notEmpty) value := by
  intro document
  refine document.nulFree ?_
  have inItem : '\x00' ∈ target.itemBuff := by
    rw [ComputedTarget.itemBuff, Utils.formatted, if_pos long]
    exact List.mem_append_right _ (List.mem_singleton_self _)
  have inItems :
      '\x00' ∈
        targets.flatMap
          (separated ComputedTarget.targetId ComputedTarget.itemBuff
            (targets.getLast notEmpty)) := by
    refine List.mem_flatMap.mpr ⟨target, member, ?_⟩
    rw [separated]
    split
    · exact List.mem_append_left _ inItem
    · exact inItem
  exact List.mem_append_left _ (List.mem_append_right _ inItems)

end TargetsListMsg

/-! ## When the message is defined and well formed -/

namespace Server

variable {Elements : Type} (ephemeris : Ephemeris Elements)

/-- A list with a repeated entry can start and end with two equal ones. -/
theorem exists_perm_first_last
    {Item Key : Type}
    {key : Item → Key}
    {items : List Item}
    (repeated : ¬ (items.map key).Nodup) :
    ∃ first others last,
      (first :: (others ++ [last])).Perm items ∧ key first = key last := by
  induction items with
  | nil => exact absurd List.nodup_nil repeated
  | cons item later inductionHypothesis =>
      by_cases member : key item ∈ later.map key
      · obtain ⟨last, inLater, same⟩ := List.mem_map.mp member
        obtain ⟨before, after, rfl⟩ := List.append_of_mem inLater
        refine ⟨item, before ++ after, last, ?_, same.symm⟩
        have behind :
            (before ++ after ++ [last]).Perm (before ++ last :: after) :=
          (List.perm_append_singleton last _).trans List.perm_middle.symm
        exact behind.cons item
      · rw [List.map_cons, List.nodup_cons, not_and] at repeated
        obtain ⟨first, others, last, permuted, same⟩ :=
          inductionHypothesis (repeated member)
        refine ⟨first, item :: others, last, ?_, same⟩
        exact (List.Perm.swap _ _ _).trans (permuted.cons item)

/-- The identifiers of the targets are the numbers of the satellites. -/
theorem map_targetId
    (items : List (Keo Elements))
    (request : Request) :
    (items.map (computeParams ephemeris request)).map
        ComputedTarget.targetId =
      items.map Keo.number := by
  rw [List.map_map]
  rfl

/-- When processing a request is undefined. -/
theorem not_processRequest_none_iff
    {ephemeris : Ephemeris Elements}
    {satelliteList : List (Keo Elements)}
    {request : Request} :
    ¬ ProcessRequest ephemeris satelliteList request none ↔
      inSector ephemeris satelliteList request ≠ [] ∧
        satelliteList.length < 2147483648 := by
  constructor
  · intro defined
    have short : satelliteList.length < 2147483648 :=
      Nat.not_le.mp fun long => defined (.overflow long)
    refine ⟨fun empty => defined ?_, short⟩
    have built : ProcessRequest ephemeris satelliteList request _ :=
      .finished short (List.Perm.refl _)
    rw [empty] at built
    exact built
  · rintro ⟨found, short⟩ undefined
    generalize same : (none : Option (List Char)) = result at undefined
    cases undefined with
    | overflow long => exact absurd short (Nat.not_lt.mpr long)
    | @finished targetBuffer _ gathered =>
        have notEmpty : targetBuffer ≠ [] := by
          rintro rfl
          exact found (List.map_eq_nil_iff.mp gathered.nil_eq.symm)
        rw [TargetsListMsg.build, dif_pos notEmpty] at same
        cases same

/-- If the message is always sent, then it is defined. -/
theorem SendsList.defined
    {ephemeris : Ephemeris Elements}
    {satelliteList : List (Keo Elements)}
    {request : Request}
    (sends : SendsList ephemeris satelliteList request) :
    inSector ephemeris satelliteList request ≠ [] ∧
      satelliteList.length < 2147483648 := by
  refine not_processRequest_none_iff.mp fun undefined => ?_
  obtain ⟨text, isSome, -⟩ := sends none undefined
  cases isSome

/-- If the message is always sent, then it is so in every order. -/
theorem SendsList.wellFormed
    {ephemeris : Ephemeris Elements}
    {satelliteList : List (Keo Elements)}
    {request : Request}
    (sends : SendsList ephemeris satelliteList request)
    (short : satelliteList.length < 2147483648)
    {targets : List ComputedTarget}
    (gathered :
      targets.Perm
        ((inSector ephemeris satelliteList request).map
          (computeParams ephemeris request)))
    (notEmpty : targets ≠ []) :
    WellFormed
      (TargetsListMsg.listText ComputedTarget.targetId ComputedTarget.itemBuff
        targets notEmpty) := by
  obtain ⟨text, built, wellFormed, -⟩ :=
    sends _ (ProcessRequest.finished short gathered)
  rw [TargetsListMsg.build, dif_pos notEmpty, Option.some.injEq] at built
  rwa [built]

/-- If the message is always sent, then each target in it is printable. -/
theorem SendsList.printable
    {ephemeris : Ephemeris Elements}
    {satelliteList : List (Keo Elements)}
    {request : Request}
    (sends : SendsList ephemeris satelliteList request)
    (short : satelliteList.length < 2147483648)
    {item : Keo Elements}
    (member : item ∈ inSector ephemeris satelliteList request) :
    (computeParams ephemeris request item).Printable := by
  have isTarget :
      computeParams ephemeris request item ∈
        (inSector ephemeris satelliteList request).map
          (computeParams ephemeris request) :=
    List.mem_map_of_mem member
  have fits :
      (computeParams ephemeris request item).text.length ≠ 1024 := by
    intro long
    have notEmpty := List.ne_nil_of_mem isTarget
    obtain ⟨values, document⟩ :=
      sends.wellFormed short (List.Perm.refl _) notEmpty
    exact
      TargetsListMsg.not_document_of_length notEmpty isTarget long _ document
  refine ⟨?_, fits⟩
  by_contra noNumber
  -- The threads may add the target with the bad parameter first.
  obtain ⟨before, after, same⟩ := List.append_of_mem isTarget
  have gathered :
      (computeParams ephemeris request item :: (before ++ after)).Perm
        ((inSector ephemeris satelliteList request).map
          (computeParams ephemeris request)) := by
    rw [same]
    exact List.perm_middle.symm
  obtain ⟨values, document⟩ :=
    sends.wellFormed short gathered (List.cons_ne_nil _ _)
  exact
    TargetsListMsg.not_document_of_not_isFinite noNumber fits _ _ _ document

/-- If the message is always sent, then the numbers are different. -/
theorem SendsList.distinct
    {ephemeris : Ephemeris Elements}
    {satelliteList : List (Keo Elements)}
    {request : Request}
    (sends : SendsList ephemeris satelliteList request)
    (short : satelliteList.length < 2147483648) :
    ((inSector ephemeris satelliteList request).map Keo.number).Nodup := by
  by_contra repeated
  rw [← map_targetId ephemeris _ request] at repeated
  obtain ⟨first, others, last, permuted, same⟩ :=
    exists_perm_first_last repeated
  have notEmpty : first :: (others ++ [last]) ≠ [] := List.cons_ne_nil _ _
  obtain ⟨values, document⟩ := sends.wellFormed short permuted notEmpty
  refine TargetsListMsg.not_document_of_two_objects same ?_ notEmpty _ document
  intro target member
  obtain ⟨item, inArea, rfl⟩ :=
    List.mem_map.mp (permuted.mem_iff.mp member)
  obtain ⟨inside, brace, spelled⟩ :=
    (sends.printable short inArea).spells_itemBuff.exists_members
  exact ⟨inside, _, brace, spelled⟩

/--
The message is defined and well formed exactly if a satellite is in the area,
the satellites in the area have different numbers and parameters that are
numbers, no text of a target has exactly 1024 characters, and the loop can
count the catalogue.
-/
theorem sendsList_iff
    (satelliteList : List (Keo Elements))
    (request : Request) :
    SendsList ephemeris satelliteList request ↔
      inSector ephemeris satelliteList request ≠ [] ∧
        ((inSector ephemeris satelliteList request).map Keo.number).Nodup ∧
        (∀ item ∈ inSector ephemeris satelliteList request,
          (computeParams ephemeris request item).IsFinite ∧
            (computeParams ephemeris request item).text.length ≠ 1024) ∧
        satelliteList.length < 2147483648 := by
  constructor
  · intro sends
    obtain ⟨found, short⟩ := sends.defined
    refine ⟨found, sends.distinct short, fun item member => ?_, short⟩
    have printable := sends.printable short member
    exact ⟨printable.isFinite, printable.fits⟩
  · rintro ⟨found, distinct, sound, short⟩ result processed
    cases processed with
    | overflow long => exact absurd short (Nat.not_lt.mpr long)
    | @finished targetBuffer _ gathered =>
        have sized :
            targetBuffer.length =
              (inSector ephemeris satelliteList request).length := by
          rw [gathered.length_eq, List.length_map]
        have notEmpty : targetBuffer ≠ [] := by
          rw [← List.length_pos_iff, sized]
          exact List.length_pos_iff.mpr found
        have targetIds :
            (targetBuffer.map ComputedTarget.targetId).Nodup := by
          rwa [(gathered.map ComputedTarget.targetId).nodup_iff,
            map_targetId]
        have printable : ∀ target ∈ targetBuffer, target.Printable := by
          intro target member
          obtain ⟨item, inArea, rfl⟩ :=
            List.mem_map.mp (gathered.mem_iff.mp member)
          exact ⟨(sound item inArea).1, (sound item inArea).2⟩
        have fits : targetBuffer.length < 2147483648 := by
          rw [sized]
          exact (List.length_filter_le _ _).trans_lt short
        refine
          ⟨_, dif_pos notEmpty,
            wellFormed_computed notEmpty targetIds printable fits, ?_⟩
        exact fun empty => absurd empty found

/-- A sky in which no satellite is ever in the area. -/
def emptySky : Ephemeris Unit where
  sectorCheck _ _ := false
  x _ _ := Vector.replicate 6 (.finite 0)
  y _ _ := Vector.replicate 6 (.finite 0)
  z _ _ := Vector.replicate 6 (.finite 0)

/-- A request that finds no satellite evaluates the last of no targets. -/
theorem emptySky_not_sendsList :
    ¬ ∀ (ephemeris : Ephemeris Unit)
        (satelliteList : List (Keo Unit))
        (request : Request),
      SendsList ephemeris satelliteList request := by
  intro claim
  let request : Request :=
    { sa := ⟨0, 0, 0, 0, 0, 0, 0, 0⟩, radarLoc := ⟨0, 0, 0⟩, time := 0 }
  let satellite : Keo Unit :=
    { name := CatalogTle.noname, number := 25544, elements := () }
  exact (claim emptySky [satellite] request).defined.1 rfl

end Server

end Radar
