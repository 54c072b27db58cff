import FleetTracking.Fleet.Position

/-!
# Records

Vehicles and positions as they are handed out and kept in the cache: timestamps are decoded, all
other fields stay the JSON they were. `ofJson` reads a record and `toJson` writes it.

## What is checked in which order

A field is looked up before the next one is, and the timestamp is read last. A value that is no
object fails in the first thing that is asked of it: `missingMember` where that is a field that
may be absent, `wrongType` where the field is required.
-/

namespace FleetTracking

namespace Json

/-- A field that an object must have. -/
def require (v : Json) (name : String) : Except Failure Json :=
  match v with
  | object fields =>
    match lookup name fields with
    | some value => .ok value
    | none => .error (.missingField name)
  | _ => .error .wrongType

/-- A field that an object may lack. -/
def optional (v : Json) (name : String) : Except Failure (Option Json) :=
  match v with
  | object fields => .ok (lookup name fields)
  | _ => .error .missingMember

/-- What a loop over a value visits: the items of an array, the names of an object, the characters
of a string. -/
def members : Json → Except Failure (List Json)
  | array items => .ok items
  | object fields => .ok (fields.map fun field => string field.1)
  | string s => .ok (s.toList.map fun c => string c.toString)
  | _ => .error .wrongType

/-- Reads a list of records. -/
def listOf (decode : Json → Except Failure α) (v : Json) : Except Failure (List α) := do
  (← v.members).mapM decode

/-- Writes a list of records. -/
def ofList (encode : α → Except Failure Json) (records : List α) : Except Failure Json := do
  return array (← records.mapM encode)

end Json

/-! ## Positions -/

/-- A position for readers. -/
structure PositionRecord where
  id : Json
  vehicle : Json
  latitude : Json
  longitude : Json
  recordedAt : Timestamp

namespace PositionRecord

/-- The record of a position. -/
def ofPosition (p : Position) : PositionRecord where
  id := Json.ofOption .int p.id
  vehicle := VehicleRef.toJson p.vehicle
  latitude := .float p.coordinates.latitude
  longitude := .float p.coordinates.longitude
  recordedAt := p.recordedAt.timestamp

/-- Reads a record. -/
def ofJson (v : Json) : Except Failure PositionRecord := do
  let id ← v.optional "id"
  let vehicle ← v.require "vehicle_id"
  let latitude ← v.require "latitude"
  let longitude ← v.require "longitude"
  let recordedAt ← Timestamp.ofJson (← v.require "recorded_at")
  return { id := id.getD .null, vehicle, latitude, longitude, recordedAt }

/-- Writes a record. -/
def toJson (r : PositionRecord) : Json := .object
  [("id", r.id), ("vehicle_id", r.vehicle), ("latitude", r.latitude),
    ("longitude", r.longitude), ("recorded_at", .string r.recordedAt.iso)]

end PositionRecord

/-! ## Vehicles -/

/-- A vehicle for readers. -/
structure VehicleRecord where
  id : Json
  name : Json
  isActive : Json
  createdDate : Option Timestamp

namespace VehicleRecord

/-- The record of a vehicle. -/
def ofVehicle (v : Vehicle) : VehicleRecord where
  id := .int v.id
  name := .string v.name
  isActive := .bool v.isActive
  createdDate := v.createdDate

/-- Reads a record. -/
def ofJson (v : Json) : Except Failure VehicleRecord := do
  let id ← v.require "id"
  let name ← v.require "name"
  let isActive ← v.require "is_active"
  let createdDate ← Timestamp.ofJson (← v.require "created_date")
  return { id, name, isActive, createdDate := some createdDate }

/-- Writes a record, which must have its date. -/
def toJson (r : VehicleRecord) : Except Failure Json :=
  match r.createdDate with
  | some createdDate => .ok <| .object
      [("id", r.id), ("name", r.name), ("is_active", r.isActive),
        ("created_date", .string createdDate.iso)]
  | none => .error .missingMember

end VehicleRecord

/-! ## Vehicles with their last position -/

/-- A vehicle with the last position it reported. -/
structure TrackedVehicle where
  vehicle : VehicleRecord
  lastPosition : Option PositionRecord

namespace TrackedVehicle

/-- Reads a record; a last position that is vacant counts as none. -/
def ofJson (v : Json) : Except Failure TrackedVehicle := do
  let last := (← v.optional "last_position").getD .null
  let vehicle ← VehicleRecord.ofJson (← v.require "vehicle")
  if last.isVacant then return ⟨vehicle, none⟩
  else return ⟨vehicle, some (← PositionRecord.ofJson last)⟩

/-- Writes a record. -/
def toJson (r : TrackedVehicle) : Except Failure Json := do
  let vehicle ← r.vehicle.toJson
  return .object
    [("vehicle", vehicle), ("last_position", Json.ofOption PositionRecord.toJson r.lastPosition)]

end TrackedVehicle

end FleetTracking
