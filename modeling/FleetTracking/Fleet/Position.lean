import FleetTracking.Fleet.Vehicle
import FleetTracking.Geo.Coordinates

/-!
# Positions

A position says where a vehicle was at an instant. Vehicle and instant identify it; a store adds
a number of its own.
-/

namespace FleetTracking

/-- Where a vehicle was at an instant. -/
structure Position where
  vehicle : VehicleRef
  coordinates : Coordinates
  recordedAt : Instant
  /-- The number under which it is stored. -/
  id : Option Int

namespace Position

/-- A reported position. The place is checked first, then the time is brought to universal
time. -/
def report (vehicle : VehicleRef) (place : Point) (recordedAt : Timestamp) (id : Option Int) :
    Except Failure Position := do
  let coordinates ← Coordinates.ofPoint place
  let recordedAt ← recordedAt.instant
  return { vehicle, coordinates, recordedAt, id }

/-- The copy of a position that carries a number. -/
def withId (id : Option Int) (p : Position) : Position := { p with id }

/-- What identifies a position: its vehicle and its instant. -/
def key (p : Position) : VehicleRef × Instant := (p.vehicle, p.recordedAt)

/-- Equality of all parts, coordinates as numbers. -/
def agrees (a b : Position) : Bool :=
  a.vehicle == b.vehicle && a.coordinates.agrees b.coordinates &&
    decide (a.recordedAt = b.recordedAt) && a.id == b.id

end Position

/-- The identifier of a vehicle as a value. -/
def VehicleRef.toJson (vehicle : VehicleRef) : Json := Json.ofOption .int vehicle

/-- The identifier of a vehicle in messages. -/
def VehicleRef.text (vehicle : VehicleRef) : String := (VehicleRef.toJson vehicle).display

end FleetTracking
