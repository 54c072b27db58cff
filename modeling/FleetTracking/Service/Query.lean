import FleetTracking.Route
import FleetTracking.Store.Basic
import FleetTracking.Validation.Violation

/-!
# Questions about vehicles and routes

The vehicle is looked up before the window of time is, and the window is checked before any
position is read.
-/

namespace FleetTracking.Service

variable {σ : Type} [FleetStore σ]

/-- The vehicle with an identifier, which must be there. -/
def requireVehicle (s : σ) (vehicle : VehicleRef) : Except Failure Vehicle := do
  match ← FleetStore.vehicle? s vehicle with
  | some v => return v
  | none => .error (.notFound "Vehicle" (VehicleRef.toJson vehicle) none)

/-- The instants of a window, which must not end before it begins. -/
def checkWindow (start stop : Timestamp) : Except Failure (Instant × Instant) := do
  let start ← start.instant
  let stop ← stop.instant
  if stop < start then
    .error (.rejected (.ofMessage Violation.reversedWindow.message none))
  else return (start, stop)

/-! ## Positions and routes -/

/-- A vehicle and its positions in a window of time, oldest first. -/
def visit (s : σ) (vehicle : VehicleRef) (start stop : Timestamp) :
    Except Failure (Vehicle × List Position) := do
  let v ← requireVehicle s vehicle
  let (start, stop) ← checkWindow start stop
  return (v, ← FleetStore.between s vehicle start stop)

/-- The positions of a vehicle in a window of time, oldest first. -/
def positions (s : σ) (vehicle : VehicleRef) (start stop : Timestamp) :
    Except Failure (List Position) := do
  return (← visit s vehicle start stop).2

/-- The route of a vehicle in a window of time. -/
def route (s : σ) (vehicle : VehicleRef) (start stop : Timestamp) :
    Except Failure RouteRecord := do
  let (v, positions) ← visit s vehicle start stop
  let totalDistance ← Route.totalDistance (greatCircle earthRadius) positions
  return {
    vehicle
    vehicleName := v.name
    positions := positions.map PositionRecord.ofPosition
    totalDistance
    positionCount := positions.length }

/-- The statistics of the route of a vehicle in a window of time. -/
def statistics (s : σ) (vehicle : VehicleRef) (start stop : Timestamp) :
    Except Failure Route.Statistics := do
  Route.statistics (greatCircle earthRadius) (← positions s vehicle start stop)

/-- The latest position of a vehicle, if it has reported yet. -/
def lastPosition (s : σ) (vehicle : VehicleRef) : Except Failure (Option PositionRecord) := do
  let _ ← requireVehicle s vehicle
  return (← FleetStore.last? s vehicle).map PositionRecord.ofPosition

/-! ## Vehicles -/

/-- All vehicles by name. -/
def allVehicles (s : σ) : Except Failure (List VehicleRecord) := do
  return (← FleetStore.vehicles s).map VehicleRecord.ofVehicle

/-- The vehicle with an identifier. -/
def vehicle (s : σ) (id : VehicleRef) : Except Failure VehicleRecord := do
  return .ofVehicle (← requireVehicle s id)

/-- A vehicle with its latest position. -/
def track (s : σ) (v : Vehicle) : Except Failure TrackedVehicle := do
  let last ← FleetStore.last? s (some v.id)
  return ⟨.ofVehicle v, last.map PositionRecord.ofPosition⟩

/-- All vehicles by name with their latest positions. -/
def trackedVehicles (s : σ) : Except Failure (List TrackedVehicle) := do
  (← FleetStore.vehicles s).mapM (track s)

/-- The vehicle with an identifier and its latest position. -/
def trackedVehicle (s : σ) (id : VehicleRef) : Except Failure TrackedVehicle := do
  track s (← requireVehicle s id)

end FleetTracking.Service
