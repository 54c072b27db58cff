import FleetTracking.Fleet.Record

/-!
# Routes

The length of a path through positions in the order given, and what follows from it: how long it
took and how fast the vehicle was. Callers supply the positions in the order of their instants.
-/

namespace FleetTracking

namespace Route

/-- Goes on with a sum over the legs from one position to the next. -/
def addLegs (distance : Coordinates → Coordinates → Except Failure Float) :
    Float → List Position → Except Failure Float
  | sum, p :: q :: rest => do
    let leg ← distance p.coordinates q.coordinates
    addLegs distance (sum + leg) (q :: rest)
  | sum, _ => .ok sum

/-- The sum of all legs, from the first to the last; zero for fewer than two positions. -/
def totalDistance (distance : Coordinates → Coordinates → Except Failure Float)
    (positions : List Position) : Except Failure Float :=
  addLegs distance 0.0 positions

/-- The microseconds from the first position to the last, negative if they are out of order. -/
def duration : List Position → Int
  | [] => 0
  | p :: rest => (((p :: rest).getLast (by simp)).recordedAt.micros : Int) - p.recordedAt.micros

/-- Length, size, time and speed of a route, in meters and seconds. -/
structure Statistics where
  totalDistance : Float
  positionCount : Nat
  duration : Float
  averageSpeed : Float

/-- Microseconds in seconds. -/
def seconds (micros : Int) : Float := Decimal.ofScaled (micros < 0) micros.natAbs (-6)

/-- The statistics of a route; a route that takes no time has no speed. -/
def statistics (distance : Coordinates → Coordinates → Except Failure Float)
    (positions : List Position) : Except Failure Statistics :=
  match positions with
  | [] => .ok ⟨0.0, 0, 0.0, 0.0⟩
  | positions => do
    let total ← totalDistance distance positions
    let time := seconds (duration positions)
    return ⟨total, positions.length, time, if time > 0.0 then total / time else 0.0⟩

/-- Refuses a list that is null. -/
def requirePositions (positions : Option (List α)) : Except Failure (List α) :=
  match positions with
  | some positions => .ok positions
  | none => .error (.nullInput "positions")

end Route

/-- The route of a vehicle, for readers. -/
structure RouteRecord where
  vehicle : VehicleRef
  vehicleName : String
  positions : List PositionRecord
  totalDistance : Float
  positionCount : Nat

end FleetTracking
