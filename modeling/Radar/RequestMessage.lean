import Radar.TargetsMessage

namespace Radar

/-!
# Requests between client and server

The text in which a client asks for targets and the part of the server's
function `on_read` that reads a line, with any parser of JSON.  Formatting
returns the whole text, and the numbers are exact fractions.
-/

/-! ## Requests -/

/-- A point in the geodetic coordinate system. -/
structure GCSPoint where
  latitude : Rat
  longitude : Rat
  altitude : Rat
  deriving DecidableEq

/-- Description of a search area. -/
structure SearchArea where
  x : Rat
  y : Rat
  z : Rat
  range : Rat
  elevationAngle : Rat
  elevationWidth : Rat
  azimuthAngle : Rat
  azimuthWidth : Rat
  deriving DecidableEq

/-- What a request asks for; the time is a count of ticks. -/
structure Request where
  sa : SearchArea
  radarLoc : GCSPoint
  time : UInt64
  deriving DecidableEq

/-! ## The messages -/

namespace RequestMsg

/-- `%.8f` -/
def fixed (value : Rat) : List Char :=
  DecimalText.printFixed 8 value

/-- The text of a request.  The signed count is printed without a sign. -/
def msg
    (searchArea : SearchArea)
    (radarLocation : GCSPoint)
    (time : Int64) :
    List Char :=
  "\x7b \"message\" : \"TE_Request\", \"latitude\" : ".toList ++
    fixed radarLocation.latitude ++ ", \"longitude\" : ".toList ++
    fixed radarLocation.longitude ++ ", \"altitude\" : ".toList ++
    fixed radarLocation.altitude ++
    ",\"type\" : \"spherical_sector\", \"X\" : ".toList ++
    fixed searchArea.x ++ " , \"Y\" : ".toList ++
    fixed searchArea.y ++ ", \"Z\" : ".toList ++
    fixed searchArea.z ++ ",  \"range\" : ".toList ++
    fixed searchArea.range ++ ",\"elevation_angle\" : ".toList ++
    fixed searchArea.elevationAngle ++ ", \"elevation_width\" : ".toList ++
    fixed searchArea.elevationWidth ++ ",\"azimuth_angle\" : ".toList ++
    fixed searchArea.azimuthAngle ++ ", \"azimuth_width\" : ".toList ++
    fixed searchArea.azimuthWidth ++ ", \"time\" : ".toList ++
    Nat.toDigits 10 time.toUInt64.toNat ++ "\x7d\n".toList

end RequestMsg

/-- The answer to a request that cannot be processed. -/
def requestFailMsg : List Char :=
  "\x7b \"message\" : \"TE_RequestFail\" \x7d\n".toList

/-! ## The server -/

namespace Server

open Client (Failure cString string? getMember getValue getDouble)

/--
A number member of an object.  The member is looked up before the function
asks whether it is there.
-/
def getNumber (root : Json) (key : String) : Except Failure Rat := do
  getDouble (← getMember root key)

/-- The fields of a request, in the order in which they are read. -/
def getFields (root : Json) : Except Failure Request := do
  let latitude ← getNumber root "latitude"
  let longitude ← getNumber root "longitude"
  let altitude ← getNumber root "altitude"
  let x ← getNumber root "X"
  let y ← getNumber root "Y"
  let z ← getNumber root "Z"
  let range ← getNumber root "range"
  let azimuthAngle ← getNumber root "azimuth_angle"
  let azimuthWidth ← getNumber root "azimuth_width"
  let elevationAngle ← getNumber root "elevation_angle"
  let elevationWidth ← getNumber root "elevation_width"
  let time ← getValue Json.uint64? root "time"
  return {
    sa := {
      x, y, z, range, elevationAngle, elevationWidth, azimuthAngle,
      azimuthWidth }
    radarLoc := { latitude, longitude, altitude }
    time }

/-- The request of a message; no request for another kind of message. -/
def getRequest (root : Json) : Except Failure (Option Request) := do
  let msgHeader ← getValue string? root "message"
  if msgHeader ≠ "TE_Request".toList then
    return none
  else
    return some (← getFields root)

/-- What `on_read` makes of a line: a failure, or a request to process. -/
inductive Line where
  | failed
  | request (request : Request)
  deriving DecidableEq

/-- Read a line.  Exceptions of the accesses to the document are caught. -/
def onLine
    (parse : List Char → Option Json)
    (res : List Char) :
    Except Failure Line :=
  match parse (cString res) with
  | none => .ok .failed
  | some root =>
      if root.isObject then
        match getRequest root with
        | .ok (some request) => .ok (.request request)
        | .ok none => .ok .failed
        | .error .thrown => .ok .failed
        | .error .aborted => .error .aborted
      else
        .ok .failed

end Server

end Radar
