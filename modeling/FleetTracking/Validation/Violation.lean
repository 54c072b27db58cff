import FleetTracking.Fleet.Position

/-!
# Violations

The reasons for which business rules refuse a position or a batch, and their texts.
-/

namespace FleetTracking

/-- Why a rule refuses its input. -/
inductive Violation
  | vehicleMissing (vehicle : VehicleRef)
  | vehicleInactive (name : String)
  | outsideBox (place : Point)
  | alreadyRecorded (vehicle : VehicleRef) (recordedAt : Instant)
  | emptyBatch
  | mixedVehicles
  /-- A window of time that ends before it begins. -/
  | reversedWindow

namespace Violation

/-- The text of a violation. -/
def message : Violation → String
  | vehicleMissing vehicle => "Vehicle with ID " ++ VehicleRef.text vehicle ++ " does not exist."
  | vehicleInactive name => "Vehicle " ++ name ++ " is inactive and cannot accept new positions."
  | outsideBox place =>
    "Coordinates (" ++ Decimal.text place.latitude ++ ", " ++ Decimal.text place.longitude ++
      ") are outside the allowed area."
  | alreadyRecorded vehicle recordedAt =>
    "Position for vehicle " ++ VehicleRef.text vehicle ++ " at " ++ recordedAt.iso ++
      " already exists."
  | emptyBatch => "Positions collection cannot be null or empty."
  | mixedVehicles => "All positions must belong to the same vehicle."
  | reversedWindow => "'from' must be earlier than or equal to 'to'."

/-- The violation of a position that repeats another one. -/
def repeated (p : Position) : Violation := alreadyRecorded p.vehicle p.recordedAt

end Violation

/-- The failure of input that was refused. -/
def Failure.ofViolations (violations : List Violation) : Failure :=
  .rejected (.ofErrors (violations.map Violation.message))

end FleetTracking
