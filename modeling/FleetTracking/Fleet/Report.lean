import FleetTracking.Fleet.Position

/-!
# Reports

What a vehicle hands in of a position: where it was and when. Nothing has been checked yet.
-/

namespace FleetTracking

/-- A place and a time as they were handed in. -/
structure Report where
  place : Point
  recordedAt : Timestamp

namespace Report

/-- Writes a report. -/
def toJson (r : Report) : Json := .object
  [("latitude", .float r.place.latitude), ("longitude", .float r.place.longitude),
    ("recorded_at", .string r.recordedAt.iso)]

/-- The position that a vehicle reports. -/
def position (vehicle : VehicleRef) (r : Report) : Except Failure Position :=
  Position.report vehicle r.place r.recordedAt none

end Report

end FleetTracking
