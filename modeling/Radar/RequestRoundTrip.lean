import Radar.RequestHandling
import Radar.TargetsRoundTrip

namespace Radar

/-!
# Reading a request back

The text of a request is one line and a JSON document.  The server finds in it
the rounded fields of the search area and of the location of the radar, each
under its own name, and the count of ticks.
-/

open DecimalText (HasPlaces rounded)

namespace GCSPoint

/-- The point with the coordinates that are printed. -/
def printed (point : GCSPoint) : GCSPoint where
  latitude := rounded 8 point.latitude
  longitude := rounded 8 point.longitude
  altitude := rounded 8 point.altitude

/-- All coordinates are written with at most eight decimal places. -/
structure HasEightPlaces (point : GCSPoint) : Prop where
  latitude : HasPlaces 8 point.latitude
  longitude : HasPlaces 8 point.longitude
  altitude : HasPlaces 8 point.altitude

/-- Such points are printed as they are. -/
theorem printed_of_hasEightPlaces
    {point : GCSPoint}
    (places : point.HasEightPlaces) :
    point.printed = point := by
  simp only [printed, DecimalText.rounded_of_hasPlaces places.latitude,
    DecimalText.rounded_of_hasPlaces places.longitude,
    DecimalText.rounded_of_hasPlaces places.altitude]

end GCSPoint

namespace SearchArea

/-- The area with the fields that are printed. -/
def printed (area : SearchArea) : SearchArea where
  x := rounded 8 area.x
  y := rounded 8 area.y
  z := rounded 8 area.z
  range := rounded 8 area.range
  elevationAngle := rounded 8 area.elevationAngle
  elevationWidth := rounded 8 area.elevationWidth
  azimuthAngle := rounded 8 area.azimuthAngle
  azimuthWidth := rounded 8 area.azimuthWidth

/-- All fields are written with at most eight decimal places. -/
structure HasEightPlaces (area : SearchArea) : Prop where
  x : HasPlaces 8 area.x
  y : HasPlaces 8 area.y
  z : HasPlaces 8 area.z
  range : HasPlaces 8 area.range
  elevationAngle : HasPlaces 8 area.elevationAngle
  elevationWidth : HasPlaces 8 area.elevationWidth
  azimuthAngle : HasPlaces 8 area.azimuthAngle
  azimuthWidth : HasPlaces 8 area.azimuthWidth

/-- Such areas are printed as they are. -/
theorem printed_of_hasEightPlaces
    {area : SearchArea}
    (places : area.HasEightPlaces) :
    area.printed = area := by
  simp only [printed, DecimalText.rounded_of_hasPlaces places.x,
    DecimalText.rounded_of_hasPlaces places.y,
    DecimalText.rounded_of_hasPlaces places.z,
    DecimalText.rounded_of_hasPlaces places.range,
    DecimalText.rounded_of_hasPlaces places.elevationAngle,
    DecimalText.rounded_of_hasPlaces places.elevationWidth,
    DecimalText.rounded_of_hasPlaces places.azimuthAngle,
    DecimalText.rounded_of_hasPlaces places.azimuthWidth]

end SearchArea

/-! ## The text as a document -/

namespace RequestMsg

open Json (Spells SpellsString Blank Document)

/-- A request as a JSON value. -/
def toJson
    (searchArea : SearchArea)
    (radarLocation : GCSPoint)
    (time : Int64) :
    Json :=
  .object
    [("message", .string "TE_Request"),
      ("latitude", .decimal radarLocation.printed.latitude),
      ("longitude", .decimal radarLocation.printed.longitude),
      ("altitude", .decimal radarLocation.printed.altitude),
      ("type", .string "spherical_sector"),
      ("X", .decimal searchArea.printed.x),
      ("Y", .decimal searchArea.printed.y),
      ("Z", .decimal searchArea.printed.z),
      ("range", .decimal searchArea.printed.range),
      ("elevation_angle", .decimal searchArea.printed.elevationAngle),
      ("elevation_width", .decimal searchArea.printed.elevationWidth),
      ("azimuth_angle", .decimal searchArea.printed.azimuthAngle),
      ("azimuth_width", .decimal searchArea.printed.azimuthWidth),
      ("time", .integer time.toUInt64.toNat)]

/-- Can a name be written between quotes as it is? -/
def Printable (name : String) : Prop :=
  ∀ character ∈ name.toList,
    32 ≤ character.toNat ∧ character ≠ '"' ∧ character ≠ '\\'

instance (name : String) : Decidable (Printable name) :=
  decidable_of_iff
    (name.toList.all fun character =>
      32 ≤ character.toNat ∧ character ≠ '"' ∧ character ≠ '\\')
    (by simp [Printable])

/-- A member with a printed value, and what is behind its comma. -/
def memberText
    (before : List Char)
    (name : String)
    (value after : List Char) :
    List Char :=
  before ++ ('"' :: (name.toList ++ ['"']) ++ ([' '] ++ ':' ::
    ([' '] ++ (value ++ after))))

/-- A member is spelled in front of others. -/
theorem spells_member
    {before text after texts : List Char}
    {name : String}
    {value : Json}
    {members : List (String × Json)}
    (blankBefore : Blank before)
    (printable : Printable name)
    (spelled : Spells text (.value value))
    (blankAfter : Blank after)
    (later : Spells texts (.members members)) :
    Spells (memberText before name text (after ++ ',' :: texts))
      (.members ((name, value) :: members)) :=
  Spells.member blankBefore (SpellsString.plain name printable) Blank.space
    Blank.space spelled blankAfter later

/-- The last member is spelled in front of the closing brace. -/
theorem spells_lastMember
    {before text : List Char}
    {name : String}
    {value : Json}
    (blankBefore : Blank before)
    (printable : Printable name)
    (spelled : Spells text (.value value)) :
    Spells (memberText before name text ['}']) (.members [(name, value)]) :=
  Spells.lastMember blankBefore (SpellsString.plain name printable)
    Blank.space Blank.space spelled Blank.nil

/-- A string is spelled between quotes. -/
theorem spells_string
    {content : String}
    (printable : Printable content) :
    Spells ('"' :: (content.toList ++ ['"'])) (.value (.string content)) :=
  Spells.string (SpellsString.plain content printable)

/-- A printed number is spelled. -/
theorem spells_fixed (value : Rat) :
    Spells (fixed value) (.value (.decimal (rounded 8 value))) :=
  Spells.fixed (by decide) value

set_option maxRecDepth 4000 in
/-- The text of a request is a JSON document. -/
theorem document_msg
    (searchArea : SearchArea)
    (radarLocation : GCSPoint)
    (time : Int64) :
    Document (msg searchArea radarLocation time)
      (toJson searchArea radarLocation time) := by
  have twoSpaces : Blank [' ', ' '] := by decide
  have newline : Blank ['\n'] := by decide
  have last :=
    spells_lastMember Blank.space (by decide : Printable "time")
      (Spells.unsigned time.toUInt64.toNat)
  have angles :=
    spells_member Blank.nil (by decide : Printable "elevation_angle")
        (spells_fixed searchArea.elevationAngle) Blank.nil <|
      spells_member Blank.space (by decide : Printable "elevation_width")
        (spells_fixed searchArea.elevationWidth) Blank.nil <|
      spells_member Blank.nil (by decide : Printable "azimuth_angle")
        (spells_fixed searchArea.azimuthAngle) Blank.nil <|
      spells_member Blank.space (by decide : Printable "azimuth_width")
        (spells_fixed searchArea.azimuthWidth) Blank.nil last
  have area :=
    spells_member Blank.nil (by decide : Printable "type")
        (spells_string (by decide : Printable "spherical_sector"))
        Blank.nil <|
      spells_member Blank.space (by decide : Printable "X")
        (spells_fixed searchArea.x) Blank.space <|
      spells_member Blank.space (by decide : Printable "Y")
        (spells_fixed searchArea.y) Blank.nil <|
      spells_member Blank.space (by decide : Printable "Z")
        (spells_fixed searchArea.z) Blank.nil <|
      spells_member twoSpaces (by decide : Printable "range")
        (spells_fixed searchArea.range) Blank.nil angles
  have members :=
    spells_member Blank.space (by decide : Printable "message")
        (spells_string (by decide : Printable "TE_Request")) Blank.nil <|
      spells_member Blank.space (by decide : Printable "latitude")
        (spells_fixed radarLocation.latitude) Blank.nil <|
      spells_member Blank.space (by decide : Printable "longitude")
        (spells_fixed radarLocation.longitude) Blank.nil <|
      spells_member Blank.space (by decide : Printable "altitude")
        (spells_fixed radarLocation.altitude) Blank.nil area
  have document :=
    Document.document Blank.nil (Spells.object members) newline
  unfold msg toJson
  simpa [memberText, GCSPoint.printed, SearchArea.printed] using document

/-! ## The text as a line -/

/-- Digits are no line breaks. -/
theorem not_newline_of_isDigit
    {character : Char}
    (digit : character.isDigit = true) :
    character ≠ '\n' := by
  rintro rfl
  exact absurd digit (by decide)

/-- A printed number contains no line break. -/
theorem newline_notMem_fixed (value : Rat) : '\n' ∉ fixed value := by
  have whole (number : Nat) : '\n' ∉ Nat.toDigits 10 number := fun member =>
    not_newline_of_isDigit ((Digits.ofNat number).areDigits _ member) rfl
  have places (number : Nat) : '\n' ∉ (Digits.padded 8 number).chars :=
    fun member =>
      not_newline_of_isDigit ((Digits.padded 8 number).areDigits _ member) rfl
  rw [fixed, DecimalText.printFixed]
  split <;> simpa [whole, Digits.ofNat] using places _

/-- The text of a request has exactly one line break. -/
theorem count_newline_msg
    (searchArea : SearchArea)
    (radarLocation : GCSPoint)
    (time : Int64) :
    (msg searchArea radarLocation time).count '\n' = 1 := by
  have noneInCount :
      (Nat.toDigits 10 time.toUInt64.toNat).count '\n' = 0 :=
    List.count_eq_zero.mpr fun member =>
      not_newline_of_isDigit ((Digits.ofNat _).areDigits _ member) rfl
  have noneInFixed (value : Rat) : (fixed value).count '\n' = 0 :=
    List.count_eq_zero.mpr (newline_notMem_fixed value)
  unfold msg
  simp only [List.count_append, noneInCount, noneInFixed]
  rfl

/-- The line break is the last character. -/
theorem getLast?_msg
    (searchArea : SearchArea)
    (radarLocation : GCSPoint)
    (time : Int64) :
    (msg searchArea radarLocation time).getLast? = some '\n' := by
  unfold msg
  rw [List.getLast?_append]
  rfl

end RequestMsg

/-! ## The server reads the text -/

namespace Server

open Client (cString string? getValue)

/-- The count of ticks is read back. -/
theorem uint64?_toNat (count : UInt64) :
    Json.uint64? (.integer count.toNat) = some count := by
  have below : count.toNat < 18446744073709551616 := count.toNat_lt
  simp only [Json.uint64?, Int.natCast_nonneg, true_and]
  rw [if_pos (by exact_mod_cast below), Int.toNat_natCast,
    UInt64.ofNat_toNat]

/-- The fields of an object that has all of them. -/
theorem getFields_of_members
    {root : Json}
    {sa : SearchArea}
    {radarLoc : GCSPoint}
    {count : UInt64}
    (isObject : root.isObject = true)
    (latitude :
      root.member? "latitude" = some (.decimal radarLoc.latitude))
    (longitude :
      root.member? "longitude" = some (.decimal radarLoc.longitude))
    (altitude :
      root.member? "altitude" = some (.decimal radarLoc.altitude))
    (x : root.member? "X" = some (.decimal sa.x))
    (y : root.member? "Y" = some (.decimal sa.y))
    (z : root.member? "Z" = some (.decimal sa.z))
    (range : root.member? "range" = some (.decimal sa.range))
    (azimuthAngle :
      root.member? "azimuth_angle" = some (.decimal sa.azimuthAngle))
    (azimuthWidth :
      root.member? "azimuth_width" = some (.decimal sa.azimuthWidth))
    (elevationAngle :
      root.member? "elevation_angle" = some (.decimal sa.elevationAngle))
    (elevationWidth :
      root.member? "elevation_width" = some (.decimal sa.elevationWidth))
    (time : root.member? "time" = some (.integer count.toNat)) :
    getFields root = .ok { sa, radarLoc, time := count } := by
  have ticks : getValue Json.uint64? root "time" = .ok count := by
    rw [getValue, if_pos isObject, time, Option.bind_some, uint64?_toNat]
  unfold getFields
  rw [getNumber_of_member latitude rfl, getNumber_of_member longitude rfl,
    getNumber_of_member altitude rfl, getNumber_of_member x rfl,
    getNumber_of_member y rfl, getNumber_of_member z rfl,
    getNumber_of_member range rfl, getNumber_of_member azimuthAngle rfl,
    getNumber_of_member azimuthWidth rfl,
    getNumber_of_member elevationAngle rfl,
    getNumber_of_member elevationWidth rfl, ticks]
  rfl

/-- What the server does with a message that is a request. -/
theorem onLine_of_parsed
    {parse : List Char → Option Json}
    {res : List Char}
    {root : Json}
    {request : Request}
    (nulFree : Json.NulFree res)
    (parsed : parse res = some root)
    (isObject : root.isObject = true)
    (header : root.member? "message" = some (.string "TE_Request"))
    (fields : getFields root = .ok request) :
    onLine parse res = .ok (.request request) := by
  have headerFree : Json.NulFree "TE_Request".toList := by simp
  have isRequest : getRequest root = .ok (some request) := by
    rw [getRequest, getValue, if_pos isObject, header, Option.bind_some,
      string?, Json.string?, Option.map_some,
      Client.cString_of_nulFree headerFree]
    simp only [bind, Except.bind, fields]
    exact if_neg (not_not_intro rfl)
  rw [onLine, Client.cString_of_nulFree nulFree, parsed]
  simp only [isObject, isRequest, if_true]

/-- The server processes the request with the numbers that are printed. -/
theorem onLine_msg
    (parser : Json.Parser)
    (sa : SearchArea)
    (radarLoc : GCSPoint)
    (time : Int64) :
    onLine parser.parse (RequestMsg.msg sa radarLoc time) =
      .ok
        (.request
          { sa := sa.printed
            radarLoc := radarLoc.printed
            time := time.toUInt64 }) := by
  have document := RequestMsg.document_msg sa radarLoc time
  have isObject : (RequestMsg.toJson sa radarLoc time).isObject = true := rfl
  exact
    onLine_of_parsed document.nulFree (parser.complete document) isObject rfl
      (getFields_of_members isObject rfl rfl rfl rfl rfl rfl rfl rfl rfl rfl
        rfl rfl)

/-! ## Decoding undoes encoding -/

/--
The server processes exactly the request that the text was made from, and the
text is one line.
-/
def ReadsBack
    (parser : Json.Parser)
    (sa : SearchArea)
    (radarLoc : GCSPoint)
    (time : Int64) :
    Prop :=
  (∃ count : UInt64,
      (count.toNat : Int) = time.toInt ∧
        onLine parser.parse (RequestMsg.msg sa radarLoc time) =
          .ok (.request { sa, radarLoc, time := count })) ∧
    (RequestMsg.msg sa radarLoc time).count '\n' = 1 ∧
      (RequestMsg.msg sa radarLoc time).getLast? = some '\n'

/--
Requests are read back if their numbers have at most eight decimal places and
the count of ticks is not negative.
-/
theorem readsBack_of_hasEightPlaces
    (parser : Json.Parser)
    {sa : SearchArea}
    {radarLoc : GCSPoint}
    {time : Int64}
    (areaPlaces : sa.HasEightPlaces)
    (pointPlaces : radarLoc.HasEightPlaces)
    (notNegative : 0 ≤ time) :
    ReadsBack parser sa radarLoc time := by
  have count : (time.toUInt64.toNat : Int) = time.toInt := by
    rw [Int64.toNat_toUInt64_of_le notNegative,
      Int64.toInt_eq_toNatClampNeg notNegative]
  have read := onLine_msg parser sa radarLoc time
  rw [SearchArea.printed_of_hasEightPlaces areaPlaces,
    GCSPoint.printed_of_hasEightPlaces pointPlaces] at read
  exact
    ⟨⟨_, count, read⟩, RequestMsg.count_newline_msg sa radarLoc time,
      RequestMsg.getLast?_msg sa radarLoc time⟩

/-- An area and a place with fractions of a hundred-millionth. -/
theorem readsBack_tickCount :
    ReadsBack Json.Parser.recursiveDescent
      { x := 1 / 4, y := -3, z := 1 / 100000000, range := 500000
        elevationAngle := 45, elevationWidth := 90, azimuthAngle := 180
        azimuthWidth := 359 / 2 }
      { latitude := 55, longitude := -37 / 8, altitude := 150 }
      14611968000000000 :=
  readsBack_of_hasEightPlaces Json.Parser.recursiveDescent
    ⟨by decide +kernel, by decide +kernel, by decide +kernel,
      by decide +kernel, by decide +kernel, by decide +kernel,
      by decide +kernel, by decide +kernel⟩
    ⟨by decide +kernel, by decide +kernel, by decide +kernel⟩
    (by decide)

end Server

end Radar
