import FleetTracking.Calendar.Iso
import FleetTracking.Decimal.Text
import FleetTracking.Fleet.Rejection
import FleetTracking.Json.Body
import FleetTracking.Json.Literal

/-!
# What can go wrong

Every operation of the library that can fail ends in one of these causes. `Failure.message` is
the text of those that tell their caller something.
-/

namespace FleetTracking

/-- Why an operation failed. -/
inductive Failure
  /-- A latitude or longitude is outside its range, or no number. -/
  | invalidCoordinates (latitude longitude : Float)
  /-- The store already holds a position of the vehicle at the instant. -/
  | duplicatePosition (vehicle : Json) (recordedAt : Option Timestamp)
  /-- Business rules refused the input. -/
  | rejected (rejection : Rejection)
  /-- Nothing is stored under the identifier. -/
  | notFound (entity : String) (id : Json) (message : Option String)
  /-- An input that is required was null. -/
  | nullInput (argument : String)
  | blankVehicleName
  | emptyBox
  | unknownPolicy (value : Json)
  /-- An object lacks a field. -/
  | missingField (name : String)
  /-- A value of another kind was needed. -/
  | wrongType
  /-- A value lacks what was asked of it. -/
  | missingMember
  /-- A value of the right kind that is not allowed. -/
  | badValue
  /-- A moment outside the calendar, or a number outside the range of a column. -/
  | outOfRange
  | malformedJson
  /-- JSON text with more arrays and objects inside each other than are read. -/
  | tooDeep
  /-- Text with a lone surrogate, where bytes are needed. -/
  | unwritableText
  /-- An address that cannot be one. -/
  | badAddress
  | connectionLost
  /-- The tables refused a row. -/
  | constraintViolated
  /-- A table is missing. -/
  | tableMissing
  /-- A position in a list that does not exist. -/
  | indexOutOfBounds
  /-- A table without a free identifier for one more row. -/
  | tableFull
  /-- A staged row that its session has given up. -/
  | rowLost
  /-- A session in which a commit failed and that has not been rolled back since. -/
  | rollbackPending

namespace Failure

/-- The text of refused coordinates. -/
def invalidCoordinatesMessage (latitude longitude : Float) : String :=
  "Invalid coordinates: Latitude=" ++ Decimal.text latitude ++ ", Longitude=" ++
    Decimal.text longitude ++ ". Latitude must be between -90 and 90, " ++
    "Longitude must be between -180 and 180."

/-- The text of a repeated position. -/
def duplicatePositionMessage (vehicle : Json) : Option Timestamp → String
  | some recordedAt =>
    "Position for vehicle " ++ vehicle.display ++ " at " ++ recordedAt.iso ++ " already exists."
  | none =>
    "A position for vehicle " ++ vehicle.display ++ " at the same timestamp already exists."

/-- The text of a failure; none for those that say nothing beyond their kind. -/
def message? : Failure → Option String
  | invalidCoordinates latitude longitude => invalidCoordinatesMessage latitude longitude
  | duplicatePosition vehicle recordedAt => duplicatePositionMessage vehicle recordedAt
  | rejected rejection => rejection.message
  | notFound entity id message =>
    match message with
    | some text => if text.isEmpty then some (absent entity id) else some text
    | none => some (absent entity id)
  | nullInput argument => "'" ++ argument ++ "' cannot be None."
  | blankVehicleName => "Invalid vehicle"
  | emptyBox => "Bounding box cannot be empty"
  | unknownPolicy value => value.literal ++ " is not a valid BatchPolicy"
  | missingField name => (Json.string name).literal
  | _ => none
where
  /-- The text of an entity that is not there. -/
  absent (entity : String) (id : Json) : String :=
    entity ++ " with ID '" ++ id.display ++ "' was not found."

/-- The text of a failure, empty where there is none. -/
def message (f : Failure) : String := f.message?.getD ""

end Failure

/-- The instant that a timestamp means. -/
def Timestamp.instant (t : Timestamp) : Except Failure Instant :=
  match t.instant? with
  | some instant => .ok instant
  | none => .error .outOfRange

/-- An instant so many microseconds later. -/
def Instant.add (t : Instant) (delta : Int) : Except Failure Instant :=
  match t.add? delta with
  | some instant => .ok instant
  | none => .error .outOfRange

/-- The failure to read JSON text. -/
def Failure.ofJson : Json.Trouble → Failure
  | .malformed => malformedJson
  | .longInteger => badValue
  | .tooDeep => tooDeep

/-- The failure to read a body. -/
def Failure.ofBody : Json.BodyTrouble → Failure
  | .notText => badValue
  | .notJson t => ofJson t

/-- Reads a timestamp. -/
def Timestamp.parse (s : String) : Except Failure Timestamp :=
  match Timestamp.parse? s with
  | some t => .ok t
  | none => .error .badValue

/-- Reads a timestamp from a JSON value, which must be a string. -/
def Timestamp.ofJson : Json → Except Failure Timestamp
  | .string s => Timestamp.parse s
  | _ => .error .wrongType

end FleetTracking
