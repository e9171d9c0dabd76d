import Radar.TargetClient
import Radar.TargetsRoundTrip

namespace Radar

/-!
# Replies that the client reads as a whole

The client clears its table and fills it while it reads a reply.  An element
that is no target ends the loop in the middle, by a return, an exception or an
assertion, and of two targets with one identifier only the first gets into the
table.
-/

/-! ## Tables and lists of targets -/

namespace TargetTable

/-- A table holds exactly the targets of a list. -/
def Holds (table : TargetTable) (targets : List Target) : Prop :=
  ∀ id item, table.tbl id = some item ↔ item ∈ targets ∧ item.targetId = id

/-- Targets with the same identifier are the same. -/
def Agree (targets : List Target) : Prop :=
  ∀ first ∈ targets, ∀ second ∈ targets,
    first.targetId = second.targetId → first = second

/-- The first target with an identifier is the one that is added. -/
theorem tbl_addTargets_eq
    (table : TargetTable)
    (targets : List Target)
    (id : UInt32) :
    (table.addTargets targets).tbl id =
      (table.tbl id).or (targets.find? fun item => item.targetId = id) := by
  induction targets generalizing table with
  | nil => simp [addTargets]
  | cons first later inductionHypothesis =>
      rw [addTargets, List.foldl_cons, ← addTargets, inductionHypothesis,
        addTarget, List.find?_cons]
      by_cases same : first.targetId = id
      · subst same
        cases found : table.tbl first.targetId with
        | none => simp [Function.update_self]
        | some item => simp [found]
      · cases table.tbl first.targetId <;>
          simp [same, Function.update_of_ne (Ne.symm same)]

/-- The table after adding a list holds the list if identifiers agree. -/
theorem holds_addTargets_iff (targets : List Target) :
    (empty.addTargets targets).Holds targets ↔ Agree targets := by
  have held (id : UInt32) :
      (empty.addTargets targets).tbl id =
        targets.find? fun item => item.targetId = id := by
    rw [tbl_addTargets_eq]
    rfl
  constructor
  · intro holds first inList second inList' same
    have foundFirst := (holds first.targetId first).mpr ⟨inList, rfl⟩
    have foundSecond :=
      (holds first.targetId second).mpr ⟨inList', same.symm⟩
    exact Option.some.inj (foundFirst.symm.trans foundSecond)
  · intro agree id item
    rw [held]
    constructor
    · intro found
      exact
        ⟨List.mem_of_find?_eq_some found, by
          simpa using List.find?_some found⟩
    · rintro ⟨member, rfl⟩
      cases found : targets.find? fun other => other.targetId = item.targetId with
      | none =>
          have absent := List.find?_eq_none.mp found item member
          simp at absent
      | some other =>
          have same : other.targetId = item.targetId := by
            simpa using List.find?_some found
          rw [agree other (List.mem_of_find?_eq_some found) item member same]

/-- An empty table holds no targets. -/
theorem empty_holds_iff (targets : List Target) :
    empty.Holds targets ↔ targets = [] := by
  constructor
  · intro holds
    rw [List.eq_nil_iff_forall_not_mem]
    intro item member
    have found := (holds item.targetId item).mpr ⟨member, rfl⟩
    cases found
  · rintro rfl id item
    simp [empty]

/-- A table is not empty after a target has been added. -/
theorem addTargets_ne_empty
    (first : Target)
    (later : List Target) :
    empty.addTargets (first :: later) ≠ empty := by
  intro same
  have found := tbl_addTargets_eq empty (first :: later) first.targetId
  rw [same, List.find?_cons_of_pos (by simp)] at found
  cases found

end TargetTable

namespace Client

/-! ## The loop over the elements -/

/-- The target that an element describes. -/
def describe? (element : Json) : Option Target :=
  if element.isObject then
    (getTarget element).toOption
  else
    none

/-- The targets that the elements describe. -/
def described (elements : List Json) : List Target :=
  elements.filterMap describe?

theorem described_cons_some
    {element : Json}
    {item : Target}
    (describes : describe? element = some item)
    (later : List Json) :
    described (element :: later) = item :: described later := by
  rw [described, List.filterMap_cons, describes]
  rfl

/-- An element that describes a target is an object. -/
theorem isObject_of_describes
    {element : Json}
    {item : Target}
    (describes : describe? element = some item) :
    element.isObject = true := by
  rw [describe?] at describes
  split at describes
  case isTrue isObject => exact isObject
  case isFalse => cases describes

/-- One turn of the loop with a target. -/
theorem addTargets_cons_some
    {element : Json}
    {item : Target}
    (describes : describe? element = some item)
    (later : List Json)
    (tbl : TargetTable) :
    addTargets (element :: later) tbl = addTargets later (tbl.addTarget item) := by
  have isObject := isObject_of_describes describes
  rw [describe?, if_pos isObject] at describes
  rw [addTargets, if_pos isObject]
  cases read : getTarget element with
  | error failure =>
      rw [read] at describes
      cases describes
  | ok found =>
      rw [read] at describes
      cases describes
      rfl

/-- The loop over elements that all describe targets. -/
theorem addTargets_append
    {before : List Json}
    (describes : ∀ element ∈ before, (describe? element).isSome)
    (rest : List Json)
    (tbl : TargetTable) :
    addTargets (before ++ rest) tbl =
      addTargets rest (tbl.addTargets (described before)) := by
  induction before generalizing tbl with
  | nil => rfl
  | cons element later inductionHypothesis =>
      obtain ⟨item, first⟩ :=
        Option.isSome_iff_exists.mp (describes element List.mem_cons_self)
      have others (other : Json) (member : other ∈ later) :
          (describe? other).isSome :=
        describes other (List.mem_cons_of_mem _ member)
      rw [List.cons_append, addTargets_cons_some first,
        inductionHypothesis others, described_cons_some first]
      rfl

/-- The loop ends at an element that describes no target. -/
theorem addTargets_cons_none
    {element : Json}
    (describes : describe? element = none)
    (later : List Json)
    (tbl : TargetTable) :
    (element.isObject = false ∧
        addTargets (element :: later) tbl = (.ok .requestFail, tbl)) ∨
      (element.isObject = true ∧
        ∃ failure,
          addTargets (element :: later) tbl = (.error failure, tbl)) := by
  rw [describe?] at describes
  cases isObject : element.isObject with
  | false =>
      refine Or.inl ⟨rfl, ?_⟩
      rw [addTargets, isObject]
      rfl
  | true =>
      rw [if_pos isObject] at describes
      cases read : getTarget element with
      | ok item =>
          rw [read] at describes
          cases describes
      | error failure =>
          refine Or.inr ⟨rfl, failure, ?_⟩
          rw [addTargets, if_pos isObject, read]

/-! ## All or nothing -/

/--
A function that reads targets returns a code.  If it is `OK`, then the table
holds exactly the targets; otherwise the table is as it was before or empty.
-/
def AllOrNothing
    (code : Except Failure ErrorCode)
    (before after : TargetTable)
    (targets : List Target) :
    Prop :=
  ∃ error,
    code = .ok error ∧
      (error = .ok → after.Holds targets) ∧
        (error ≠ .ok → after = before ∨ after = TargetTable.empty)

/--
The first element is no object, or all of them describe targets, the same ones
where the identifiers are the same.
-/
def WholeElements (elements : List Json) : Prop :=
  (∃ first ∈ elements.head?, first.isObject = false) ∨
    (∀ element ∈ elements, (describe? element).isSome) ∧
      TargetTable.Agree (described elements)

/-- The elements in front of the first one that describes no target. -/
theorem exists_first_undescribed
    {elements : List Json}
    (undescribed : ¬ ∀ element ∈ elements, (describe? element).isSome) :
    ∃ before bad after,
      elements = before ++ bad :: after ∧ describe? bad = none ∧
        ∀ element ∈ before, (describe? element).isSome := by
  induction elements with
  | nil => exact absurd (fun _ member => absurd member List.not_mem_nil) undescribed
  | cons element later inductionHypothesis =>
      cases first : describe? element with
      | none => exact ⟨[], element, later, rfl, first, by simp⟩
      | some item =>
          have laterUndescribed :
              ¬ ∀ other ∈ later, (describe? other).isSome := by
            intro all
            refine undescribed fun other member => ?_
            rcases List.mem_cons.mp member with rfl | inLater
            · rw [first]
              rfl
            · exact all other inLater
          obtain ⟨before, bad, after, rfl, none, all⟩ :=
            inductionHypothesis laterUndescribed
          refine ⟨element :: before, bad, after, rfl, none, ?_⟩
          rintro other (_ | ⟨_, inBefore⟩)
          · rw [first]
            rfl
          · exact all other inBefore

/-- An object in front and an element that is no target: not as a whole. -/
theorem not_wholeElements
    {first : Json}
    {later : List Json}
    (isObject : first.isObject = true)
    (undescribed : ¬ ∀ element ∈ first :: later, (describe? element).isSome) :
    ¬ WholeElements (first :: later) := by
  rintro (⟨other, isFirst, noObject⟩ | ⟨all, -⟩)
  · rw [List.head?_cons, Option.mem_some_iff] at isFirst
    rw [← isFirst, isObject] at noObject
    cases noObject
  · exact undescribed all

/-- When the loop adds all targets or none, whatever the table was before. -/
theorem addTargets_allOrNothing_iff
    (elements : List Json) :
    (∀ before,
        AllOrNothing (addTargets elements TargetTable.empty).1 before
          (addTargets elements TargetTable.empty).2 (described elements)) ↔
      WholeElements elements := by
  by_cases all : ∀ element ∈ elements, (describe? element).isSome
  · have added :
        addTargets elements TargetTable.empty =
          (.ok .ok, TargetTable.empty.addTargets (described elements)) := by
      have appended := addTargets_append all [] TargetTable.empty
      rwa [List.append_nil] at appended
    rw [added]
    constructor
    · intro whole
      obtain ⟨code, same, holds, -⟩ := whole TargetTable.empty
      cases same
      exact Or.inr ⟨all, (TargetTable.holds_addTargets_iff _).mp (holds rfl)⟩
    · intro whole before
      refine ⟨.ok, rfl, fun _ => ?_, fun failed => absurd rfl failed⟩
      rw [TargetTable.holds_addTargets_iff]
      rcases whole with ⟨first, isFirst, noObject⟩ | ⟨-, agree⟩
      · have described := all first (List.mem_of_mem_head? isFirst)
        rw [describe?, noObject] at described
        cases described
      · exact agree
  · obtain ⟨before, bad, after, rfl, undescribed, allBefore⟩ :=
      exists_first_undescribed all
    rw [addTargets_append allBefore]
    cases before with
    | nil =>
        rcases addTargets_cons_none undescribed after
            (TargetTable.empty.addTargets (described [])) with
          ⟨noObject, ended⟩ | ⟨isObject, failure, ended⟩
        · rw [ended]
          refine iff_of_true (fun before => ?_) (Or.inl ⟨bad, rfl, noObject⟩)
          exact ⟨.requestFail, rfl, by simp, fun _ => Or.inr rfl⟩
        · rw [ended]
          refine iff_of_false (fun whole => ?_) (not_wholeElements isObject all)
          obtain ⟨code, same, -⟩ := whole TargetTable.empty
          cases same
    | cons first others =>
        obtain ⟨item, describes⟩ :=
          Option.isSome_iff_exists.mp (allBefore first List.mem_cons_self)
        have isObject := isObject_of_describes describes
        refine iff_of_false (fun whole => ?_) (not_wholeElements isObject all)
        obtain ⟨code, same, -, kept⟩ := whole TargetTable.empty
        rcases addTargets_cons_none undescribed after
            (TargetTable.empty.addTargets (described (first :: others))) with
          ⟨-, ended⟩ | ⟨-, failure, ended⟩
        · rw [ended] at same kept
          cases same
          rw [described_cons_some describes] at kept
          exact
            (kept (by simp)).elim (TargetTable.addTargets_ne_empty _ _)
              (TargetTable.addTargets_ne_empty _ _)
        · rw [ended] at same
          cases same

/-! ## Replies -/

/-- The elements of the list of a reply. -/
def listElements (root : Json) : List Json :=
  ((root.member? "targets").bind Json.elements?).getD []

/-- The targets of a reply. -/
def replyTargets
    (parse : List Char → Option Json)
    (res : List Char) :
    List Target :=
  match parse (cString res) with
  | some root => described (listElements root)
  | none => []

/-- The header of a list with its size. -/
def HasListHeader (root : Json) (ntargets : UInt32) : Prop :=
  (root.member? "message").bind string? = some "TE_TargetsList".toList ∧
    (root.member? "size").bind Json.uint32? = some ntargets

/--
The reply is an object.  If it is a list, then its size is zero and none of
its elements describes a target, or its elements are read as a whole as soon
as there are as many as the size says.
-/
def WholeRoot (root : Json) : Prop :=
  root.isObject = true ∧
    ∀ ntargets, HasListHeader root ntargets →
      if ntargets = 0 then
        described (listElements root) = []
      else
        ∀ elements,
          (root.member? "targets").bind Json.elements? = some elements →
            UInt32.ofNat elements.length = ntargets → WholeElements elements

/-- The reply is a failure, or no document, or read as a whole. -/
def WholeReply
    (parse : List Char → Option Json)
    (res : List Char) :
    Prop :=
  res = requestFailMsg ∨ res = [] ∨
    ∀ root, parse (cString res) = some root → WholeRoot root

/-- The header of an object is read, or an exception is thrown. -/
theorem getHeader_cases
    {root : Json}
    (isObject : root.isObject = true) :
    (getHeader root = .error .thrown ∧
        ∀ ntargets, ¬ HasListHeader root ntargets) ∨
      ∃ header ntargets,
        getHeader root = .ok (header, ntargets) ∧
          ∀ other,
            HasListHeader root other ↔
              header = "TE_TargetsList".toList ∧ ntargets = other := by
  rw [getHeader, getValue, getValue, if_pos isObject, if_pos isObject]
  unfold HasListHeader
  cases (root.member? "message").bind string? with
  | none => exact Or.inl ⟨rfl, by simp⟩
  | some header =>
      cases (root.member? "size").bind Json.uint32? with
      | none => exact Or.inl ⟨rfl, by simp⟩
      | some ntargets =>
          refine Or.inr ⟨header, ntargets, rfl, fun other => ?_⟩
          rw [Option.some.injEq, Option.some.injEq]

/-- A code other than `OK` with an empty table is all or nothing. -/
theorem AllOrNothing.failed
    {error : ErrorCode}
    (notOk : error ≠ .ok)
    (before : TargetTable)
    (targets : List Target) :
    AllOrNothing (.ok error) before TargetTable.empty targets :=
  ⟨error, rfl, fun ok => absurd ok notOk, fun _ => Or.inr rfl⟩

/-- An exception or an assertion is not. -/
theorem not_allOrNothing_error
    {failure : Failure}
    {before after : TargetTable}
    {targets : List Target} :
    ¬ AllOrNothing (.error failure) before after targets := by
  rintro ⟨code, same, -⟩
  cases same

/-- When a document is read as a whole, whatever the table was before. -/
theorem deserialize_allOrNothing_iff
    {parse : List Char → Option Json}
    {res : List Char}
    {root : Json}
    (notEmpty : res ≠ [])
    (parsed : parse (cString res) = some root) :
    (∀ before,
        AllOrNothing (deserialize parse res TargetTable.empty).1 before
          (deserialize parse res TargetTable.empty).2
          (described (listElements root))) ↔
      WholeRoot root := by
  rw [deserialize, if_neg notEmpty, parsed]
  cases isObject : root.isObject with
  | false =>
      have aborts : getHeader root = .error .aborted := by
        rw [getHeader, getValue, isObject]
        rfl
      rw [WholeRoot, isObject]
      simp only [aborts]
      exact
        iff_of_false (fun whole => not_allOrNothing_error (whole .empty))
          (by simp)
  | true =>
      rw [WholeRoot, isObject, eq_self, true_and]
      rcases getHeader_cases isObject with
        ⟨thrown, noHeader⟩ | ⟨header, ntargets, read, hasHeader⟩
      · simp only [thrown]
        refine iff_of_true (fun before => ?_) fun ntargets header =>
          absurd header (noHeader ntargets)
        exact AllOrNothing.failed (by simp) before _
      · simp only [read, hasHeader]
        by_cases isList : header = "TE_TargetsList".toList
        · rw [if_neg (not_not_intro isList)]
          simp only [isList, true_and, forall_eq']
          by_cases zero : ntargets = 0
          · simp only [if_pos zero]
            rw [← TargetTable.empty_holds_iff]
            constructor
            · intro whole
              obtain ⟨code, same, holds, -⟩ := whole .empty
              cases same
              exact holds rfl
            · intro holds before
              exact ⟨.ok, rfl, fun _ => holds, fun notOk => absurd rfl notOk⟩
          · simp only [if_neg zero, listElements]
            cases (root.member? "targets").bind Json.elements? with
            | none =>
                refine iff_of_true (fun before => ?_) (by simp)
                exact AllOrNothing.failed (by simp) before _
            | some elements =>
                simp only [Option.some.injEq, forall_eq', Option.getD_some]
                by_cases sized : UInt32.ofNat elements.length = ntargets
                · simp only [sized, forall_const]
                  exact addTargets_allOrNothing_iff elements
                · simp only [if_neg sized]
                  refine iff_of_true (fun before => ?_) fun same =>
                    absurd same sized
                  exact AllOrNothing.failed (by simp) before _
        · rw [if_pos isList]
          refine iff_of_true (fun before => ?_) fun other both =>
            absurd both.1 isList
          exact AllOrNothing.failed (by simp) before _

/-- The targets of what the server sends, if it sends anything. -/
def exchangeTargets (parse : List Char → Option Json) : Exchange → List Target
  | .replied res => replyTargets parse res
  | .writeFails _ | .readFails _ => []

/--
A request for targets is all or nothing, whatever the table was before, exactly
if the reply of the server is read as a whole.
-/
theorem getTargets_allOrNothing_iff
    (parse : List Char → Option Json)
    (exchange : Exchange)
    (sa : SearchArea)
    (radarLoc : GCSPoint)
    (dur : UInt64)
    (client : Client) :
    (∀ tbl,
        AllOrNothing
          (client.getTargets parse exchange sa radarLoc dur tbl).code tbl
          (client.getTargets parse exchange sa radarLoc dur tbl).tbl
          (exchangeTargets parse exchange)) ↔
      (client.connected = true →
        ∀ res, exchange = .replied res → WholeReply parse res) := by
  unfold getTargets
  cases connected : client.connected with
  | false =>
      refine iff_of_true (fun tbl => ?_) (by simp)
      exact ⟨.requestFail, rfl, by simp, fun _ => Or.inl rfl⟩
  | true =>
      cases exchange with
      | writeFails faults =>
          refine iff_of_true (fun tbl => ?_) (by simp)
          exact ⟨.systemError, rfl, by simp, fun _ => Or.inl rfl⟩
      | readFails faults =>
          refine iff_of_true (fun tbl => ?_) (by simp)
          exact ⟨.systemError, rfl, by simp, fun _ => Or.inl rfl⟩
      | replied res =>
          simp only [Exchange.replied.injEq, forall_eq', forall_const,
            exchangeTargets, reduceCtorEq, if_false, WholeReply]
          by_cases fails : res = requestFailMsg
          · simp only [if_pos fails]
            refine iff_of_true (fun tbl => ?_) (Or.inl fails)
            exact ⟨.requestFail, rfl, by simp, fun _ => Or.inl rfl⟩
          · simp only [fails, if_false, false_or]
            by_cases empty : res = []
            · refine iff_of_true (fun tbl => ?_) (Or.inl empty)
              rw [deserialize, if_pos empty]
              exact AllOrNothing.failed (by simp) tbl _
            · simp only [empty, false_or, replyTargets]
              cases parsed : parse (cString res) with
              | none =>
                  refine iff_of_true (fun tbl => ?_) (by simp)
                  rw [deserialize, if_neg empty, parsed]
                  exact AllOrNothing.failed (by simp) tbl _
              | some root =>
                  simp only [Option.some.injEq, forall_eq']
                  exact deserialize_allOrNothing_iff empty parsed

/-- A reply with a target that has no coordinates. -/
def bareTarget : List Char :=
  ("\x7b\"message\":\"TE_TargetsList\",\"size\":1,\"targets\":" ++
    "[\x7b\"id\":1\x7d]\x7d\n").toList

/-- A target without coordinates ends the program of a connected client. -/
theorem bareTarget_not_allOrNothing :
    ¬ ∀ (parser : Json.Parser)
        (exchange : Exchange)
        (sa : SearchArea)
        (radarLoc : GCSPoint)
        (dur : UInt64)
        (client : Client)
        (tbl : TargetTable),
      AllOrNothing
        (client.getTargets parser.parse exchange sa radarLoc dur tbl).code tbl
        (client.getTargets parser.parse exchange sa radarLoc dur tbl).tbl
        (exchangeTargets parser.parse exchange) := by
  intro claim
  let client : Client :=
    { socket := .connected true, serverEndpoint := none, connected := true
      configLoaded := true }
  obtain ⟨code, returned, -⟩ :=
    claim Json.Parser.recursiveDescent (.replied bareTarget)
      ⟨0, 0, 0, 0, 0, 0, 0, 0⟩ ⟨0, 0, 0⟩ 0 client TargetTable.empty
  have ends :
      (deserialize Json.Parser.recursiveDescent.parse bareTarget
        TargetTable.empty).1.toOption = none := by
    decide +kernel
  have noFailure : bareTarget ≠ requestFailMsg := by decide
  have connected : client.connected ≠ false := by decide
  rw [getTargets, if_neg connected] at returned
  simp only [if_neg noFailure] at returned
  rw [returned] at ends
  cases ends

end Client

end Radar
