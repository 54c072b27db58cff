import FleetTracking.Failure
import FleetTracking.Geo.Box

/-!
# Coordinates and distances

A place on Earth in degrees, and the length of the great circle between two of them by the
haversine formula.
-/

namespace FleetTracking

/-! ## Coordinates -/

/-- Whether latitude and longitude are within the ranges of the globe. -/
def Point.isOnEarth (p : Point) : Bool :=
  -90.0 ≤ p.latitude && p.latitude ≤ 90.0 && (-180.0 ≤ p.longitude && p.longitude ≤ 180.0)

/-- A point that is a place on Earth. -/
structure Coordinates extends Point where
  onEarth : toPoint.isOnEarth = true

namespace Coordinates

/-- The coordinates of a point, if it is a place on Earth. -/
def ofPoint (p : Point) : Except Failure Coordinates :=
  if h : p.isOnEarth = true then .ok ⟨p, h⟩
  else .error (.invalidCoordinates p.latitude p.longitude)

/-- Equality of both numbers, for which the two zeros are equal. -/
def agrees (a b : Coordinates) : Bool := a.latitude == b.latitude && a.longitude == b.longitude

/-- Coordinates in messages, with six places. -/
def text (c : Coordinates) : String :=
  "(" ++ Decimal.fixedPlaces 6 c.latitude ++ ", " ++ Decimal.fixedPlaces 6 c.longitude ++ ")"

end Coordinates

/-! ## Angles -/

/-- The nearest double to the ratio of a circle to its diameter. -/
def pi : Float := 3.141592653589793

/-- Degrees in radians. -/
def radians (x : Float) : Float := x * (pi / 180.0)

/-- Radians in degrees. -/
def degrees (x : Float) : Float := x * (180.0 / pi)

/-- The power of a number. -/
@[noinline] def power (exponent base : Float) : Float := Float.pow base exponent

/-- The square root of a number that is not negative. -/
def squareRoot (x : Float) : Except Failure Float :=
  if x < 0.0 then .error .badValue else .ok x.sqrt

/-! ## Distances -/

/-- The mean radius of the Earth in meters. -/
def earthRadius : Float := 6371000.0

/-- The square of half the chord between two places on a sphere of radius one. -/
def haversine (start stop : Coordinates) : Float :=
  let dLat := radians (stop.latitude - start.latitude)
  let dLon := radians (stop.longitude - start.longitude)
  power 2.0 (dLat / 2.0).sin +
    (radians start.latitude).cos * (radians stop.latitude).cos * power 2.0 (dLon / 2.0).sin

/-- The length of the great circle between two places on a sphere. It fails only where rounding
carries the haversine of opposite places beyond one. -/
def greatCircle (radius : Float) (start stop : Coordinates) : Except Failure Float := do
  let a := haversine start stop
  let near ← squareRoot a
  let far ← squareRoot (1.0 - a)
  return radius * (2.0 * Float.atan2 near far)

end FleetTracking
