import Radar.ProcessRequest

namespace Radar.Server

/-!
# Lines that the server can read

The server reads eleven numbers of a request.  It looks each of them up before
it asks whether the member is there, so that a request without one of them ends
the program, unless an earlier number is there with another kind of value.  A
request that is complete is processed before the next read is started.
-/

open CatalogTle (Keo)
open Client (Failure cString string? getMember getValue getDouble)

/-! ## Numbers of a request -/

/-- The numbers of a request in the order in which they are read. -/
def numberKeys : List String :=
  ["latitude", "longitude", "altitude", "X", "Y", "Z", "range",
    "azimuth_angle", "azimuth_width", "elevation_angle", "elevation_width"]

/-- Has an object no number with a name? -/
def lacks (root : Json) (key : String) : Bool :=
  ((root.member? key).bind Json.number?).isNone

/-- The first number of a request that the object does not have is missing. -/
def FirstFaultMissing (root : Json) (keys : List String) : Prop :=
  ∃ key, keys.find? (lacks root) = some key ∧ root.member? key = none

/-- A number that is there is read. -/
theorem getNumber_of_member
    {root value : Json}
    {key : String}
    {number : Rat}
    (found : root.member? key = some value)
    (isNumber : value.number? = some number) :
    getNumber root key = .ok number := by
  rw [getNumber, getMember, found]
  simp only [bind, Except.bind, getDouble, isNumber]

/-- A member of another kind throws. -/
theorem getNumber_of_other
    {root value : Json}
    {key : String}
    (found : root.member? key = some value)
    (noNumber : value.number? = none) :
    getNumber root key = .error .thrown := by
  rw [getNumber, getMember, found]
  simp only [bind, Except.bind, getDouble, noNumber]

/-- A missing member ends the program. -/
theorem getNumber_of_missing
    {root : Json}
    {key : String}
    (missing : root.member? key = none) :
    getNumber root key = .error .aborted := by
  rw [getNumber, getMember, missing]
  rfl

/-- Reading one number and going on. -/
theorem getNumber_bind_aborted_iff
    {root : Json}
    {key : String}
    {later : List String}
    {next : Rat → Except Failure Request}
    (nextAborts :
      ∀ number,
        next number = .error .aborted ↔ FirstFaultMissing root later) :
    (getNumber root key >>= next) = .error .aborted ↔
      FirstFaultMissing root (key :: later) := by
  rw [FirstFaultMissing, List.find?_cons, lacks]
  cases found : root.member? key with
  | none =>
      rw [getNumber_of_missing found]
      exact iff_of_true rfl ⟨key, rfl, found⟩
  | some value =>
      cases isNumber : value.number? with
      | none =>
          rw [getNumber_of_other found isNumber, Option.bind_some, isNumber]
          refine iff_of_false (by simp [bind, Except.bind]) ?_
          rintro ⟨other, same, missing⟩
          rw [← Option.some.inj same, found] at missing
          cases missing
      | some number =>
          rw [getNumber_of_member found isNumber, Option.bind_some, isNumber]
          exact nextAborts number

/-- A member with a check of its kind never ends the program. -/
theorem getValue_ne_aborted
    {Value : Type}
    {read : Json → Option Value}
    {root : Json}
    (isObject : root.isObject = true)
    (key : String) :
    getValue read root key ≠ .error .aborted := by
  rw [getValue, if_pos isObject]
  cases (root.member? key).bind read <;> simp

/-- When reading the fields of a request ends the program. -/
theorem getFields_aborted_iff
    {root : Json}
    (isObject : root.isObject = true) :
    getFields root = .error .aborted ↔ FirstFaultMissing root numberKeys := by
  unfold getFields numberKeys
  iterate 11 refine getNumber_bind_aborted_iff fun _ => ?_
  refine iff_of_false (fun aborted => ?_) (by simp [FirstFaultMissing])
  have noAbort : getValue Json.uint64? root "time" ≠ .error .aborted :=
    getValue_ne_aborted isObject "time"
  cases time : getValue Json.uint64? root "time" with
  | error failure =>
      rw [time] at aborted noAbort
      have same : failure = .aborted := Except.error.inj aborted
      exact noAbort (congrArg Except.error same)
  | ok count =>
      rw [time] at aborted
      cases aborted

/-- Is the header of a message the one of a request? -/
def HasRequestHeader (root : Json) : Prop :=
  (root.member? "message").bind string? = some "TE_Request".toList

/-- When reading a request ends the program. -/
theorem getRequest_aborted_iff
    {root : Json}
    (isObject : root.isObject = true) :
    getRequest root = .error .aborted ↔
      HasRequestHeader root ∧ FirstFaultMissing root numberKeys := by
  rw [getRequest, getValue, if_pos isObject, HasRequestHeader]
  cases header : (root.member? "message").bind string? with
  | none => exact iff_of_false (by simp [bind, Except.bind]) (by simp)
  | some msgHeader =>
      rw [Option.some.injEq, ← getFields_aborted_iff isObject]
      simp only [bind, Except.bind]
      by_cases isRequest : msgHeader = "TE_Request".toList
      · rw [if_neg (not_not_intro isRequest)]
        cases getFields root with
        | error failure => simp [isRequest]
        | ok request => simp [pure, Except.pure]
      · rw [if_pos isRequest]
        refine iff_of_false (by simp [pure, Except.pure]) fun both => ?_
        exact isRequest both.1

/-! ## Lines -/

/--
What `on_read` does with a line: the message that it sends, the request that
it processes, and whether it starts the next read.
-/
structure LineResult where
  sent : List Char
  processed : Option Request
  startsRead : Bool
  deriving DecidableEq

/-- A line that is no request. -/
def LineResult.failed : LineResult where
  sent := requestFailMsg
  processed := none
  startsRead := true

/-- A request whose message has been made. -/
def LineResult.answered (request : Request) (text : List Char) :
    LineResult where
  sent := text
  processed := some request
  startsRead := true

section

variable {Elements : Type} (parse : List Char → Option Json)
variable (ephemeris : Ephemeris Elements) (satelliteList : List (Keo Elements))

/--
The results of `on_read` for a line; `none` is the end of the program or
undefined behaviour.
-/
inductive OnRead (res : List Char) : Option LineResult → Prop where
  | aborted
      {failure : Failure}
      (read : onLine parse res = .error failure) :
      OnRead res none
  | failed (read : onLine parse res = .ok .failed) :
      OnRead res (some .failed)
  | answered
      {request : Request}
      {text : List Char}
      (read : onLine parse res = .ok (.request request))
      (processed :
        ProcessRequest ephemeris satelliteList request (some text)) :
      OnRead res (some (.answered request text))
  | undefined
      {request : Request}
      (read : onLine parse res = .ok (.request request))
      (processed : ProcessRequest ephemeris satelliteList request none) :
      OnRead res none

/--
The line is answered with a failure or its request is processed, and in both
cases the next read is started.
-/
def Answers (res : List Char) : Prop :=
  ∀ result, OnRead parse ephemeris satelliteList res result →
    ∃ line : LineResult,
      result = some line ∧ line.startsRead = true ∧
        (line.processed.isSome ∨ line.sent = requestFailMsg)

/--
If the line is an object with the header of a request, then the first number
that it does not give is there with another kind of value.
-/
def NoNumberMissingFirst (res : List Char) : Prop :=
  ∀ root, parse (cString res) = some root → root.isObject = true →
    HasRequestHeader root → ¬ FirstFaultMissing root numberKeys

/--
If the line is a complete request, then there is a satellite in its area, and
the catalogue can be counted.
-/
def FindsSatellites (res : List Char) : Prop :=
  ∀ root request, parse (cString res) = some root → root.isObject = true →
    getRequest root = .ok (some request) →
      inSector ephemeris satelliteList request ≠ [] ∧
        satelliteList.length < 2147483648

end

/-- What a line is read as. -/
theorem onLine_cases (parse : List Char → Option Json) (res : List Char) :
    (∃ root,
        parse (cString res) = some root ∧ root.isObject = true ∧
          getRequest root = .error .aborted ∧
            onLine parse res = .error .aborted) ∨
      (∃ root request,
        parse (cString res) = some root ∧ root.isObject = true ∧
          getRequest root = .ok (some request) ∧
            onLine parse res = .ok (.request request)) ∨
      ((∀ root, parse (cString res) = some root → root.isObject = true →
          getRequest root = .error .thrown ∨ getRequest root = .ok none) ∧
        onLine parse res = .ok .failed) := by
  rw [onLine]
  cases parse (cString res) with
  | none => exact .inr (.inr ⟨by simp, rfl⟩)
  | some root =>
      dsimp only
      by_cases isObject : root.isObject = true
      · rw [if_pos isObject]
        cases read : getRequest root with
        | error failure =>
            cases failure with
            | thrown => exact .inr (.inr ⟨by simp [read], rfl⟩)
            | aborted => exact .inl ⟨root, rfl, isObject, read, rfl⟩
        | ok found =>
            cases found with
            | none => exact .inr (.inr ⟨by simp [read], rfl⟩)
            | some request =>
                exact
                  .inr (.inl ⟨root, request, rfl, isObject, read, rfl⟩)
      · rw [if_neg isObject]
        exact .inr (.inr ⟨by simp [isObject], rfl⟩)

section

variable {Elements : Type} {parse : List Char → Option Json}
variable {ephemeris : Ephemeris Elements} {satelliteList : List (Keo Elements)}

/-- A line that ends the program is not answered. -/
theorem not_answers_of_aborted
    {res : List Char}
    {failure : Failure}
    (read : onLine parse res = .error failure) :
    ¬ Answers parse ephemeris satelliteList res := by
  intro answers
  obtain ⟨_, same, -⟩ := answers none (.aborted read)
  cases same

/-- A line that is no request is answered. -/
theorem answers_of_failed
    {res : List Char}
    (read : onLine parse res = .ok .failed) :
    Answers parse ephemeris satelliteList res := by
  intro result onRead
  cases onRead with
  | failed => exact ⟨_, rfl, rfl, .inr rfl⟩
  | aborted other | answered other | undefined other =>
      rw [read] at other
      cases other

/-- A request is answered exactly if its message is defined. -/
theorem answers_iff_of_request
    {res : List Char}
    {request : Request}
    (read : onLine parse res = .ok (.request request)) :
    Answers parse ephemeris satelliteList res ↔
      inSector ephemeris satelliteList request ≠ [] ∧
        satelliteList.length < 2147483648 := by
  rw [← not_processRequest_none_iff]
  constructor
  · intro answers undefined
    obtain ⟨_, same, -⟩ := answers none (.undefined read undefined)
    cases same
  · intro defined result onRead
    cases onRead with
    | answered => exact ⟨_, rfl, rfl, .inl rfl⟩
    | undefined other processed =>
        rw [read] at other
        cases other
        exact absurd processed defined
    | aborted other | failed other =>
        rw [read] at other
        cases other

end

/--
A line is answered, and the next one read, unless it is a request in which the
first number that is not given is missing, or a complete request that finds no
satellite or cannot count the catalogue.
-/
theorem answers_iff
    {Elements : Type}
    (parse : List Char → Option Json)
    (ephemeris : Ephemeris Elements)
    (satelliteList : List (Keo Elements))
    (res : List Char) :
    Answers parse ephemeris satelliteList res ↔
      NoNumberMissingFirst parse res ∧
        FindsSatellites parse ephemeris satelliteList res := by
  rcases onLine_cases parse res with
    ⟨root, parsed, isObject, aborts, read⟩ |
      ⟨root, request, parsed, isObject, complete, read⟩ |
        ⟨incomplete, read⟩
  · refine iff_of_false (not_answers_of_aborted read) fun both => ?_
    obtain ⟨header, missing⟩ := (getRequest_aborted_iff isObject).mp aborts
    exact both.1 root parsed isObject header missing
  · rw [answers_iff_of_request read]
    have noneMissing : NoNumberMissingFirst parse res := by
      intro other same _ header missing
      obtain rfl : root = other := Option.some.inj (parsed.symm.trans same)
      have aborts :=
        (getRequest_aborted_iff isObject).mpr ⟨header, missing⟩
      rw [complete] at aborts
      cases aborts
    constructor
    · intro defined
      refine ⟨noneMissing, fun other otherRequest same _ read => ?_⟩
      obtain rfl : root = other := Option.some.inj (parsed.symm.trans same)
      rw [complete] at read
      cases read
      exact defined
    · intro both
      exact both.2 root request parsed isObject complete
  · refine iff_of_true (answers_of_failed read) ⟨?_, ?_⟩
    · intro root parsed isObject header missing
      have aborts :=
        (getRequest_aborted_iff isObject).mpr ⟨header, missing⟩
      rcases incomplete root parsed isObject with thrown | noRequest
      · rw [aborts] at thrown
        cases thrown
      · rw [aborts] at noRequest
        cases noRequest
    · intro root request parsed isObject complete
      rcases incomplete root parsed isObject with thrown | noRequest
      · rw [complete] at thrown
        cases thrown
      · rw [complete] at noRequest
        cases noRequest

/-- A request that names nothing but its kind. -/
def bareRequest : List Char :=
  "\x7b\"message\":\"TE_Request\"\x7d\n".toList

/-- The request without its latitude is neither processed nor answered. -/
theorem bareRequest_not_answers :
    ¬ ∀ (parser : Json.Parser)
        (ephemeris : Ephemeris Unit)
        (satelliteList : List (Keo Unit))
        (res : List Char),
      Answers parser.parse ephemeris satelliteList res := by
  intro claim
  have ends :
      (onLine Json.Parser.recursiveDescent.parse bareRequest).toOption =
        none := by
    decide +kernel
  cases read : onLine Json.Parser.recursiveDescent.parse bareRequest with
  | error failure =>
      exact
        not_answers_of_aborted read
          (claim Json.Parser.recursiveDescent emptySky [] bareRequest)
  | ok line =>
      rw [read] at ends
      cases ends

end Radar.Server
