import FleetTracking.Decimal.Text

/-!
# Bounding boxes

An area between two latitudes and two longitudes. No range is asked of the bounds, so a box may
hold no point at all.
-/

namespace FleetTracking

/-- The points between two latitudes and two longitudes, the bounds included. -/
structure Box where
  minLatitude : Float
  maxLatitude : Float
  minLongitude : Float
  maxLongitude : Float
  deriving Inhabited

/-- A point as two numbers in degrees, which need not be a place on Earth. -/
structure Point where
  latitude : Float
  longitude : Float
  deriving Inhabited

namespace Box

/-- The area of Athens. -/
def athens : Box := ⟨37.9, 38.1, 23.6, 23.8⟩

/-- Whether a point lies between the bounds on both axes. -/
def contains (box : Box) (p : Point) : Bool :=
  box.minLatitude ≤ p.latitude && p.latitude ≤ box.maxLatitude &&
    (box.minLongitude ≤ p.longitude && p.longitude ≤ box.maxLongitude)

/-- The point halfway between the bounds. -/
def center (box : Box) : Point :=
  ⟨(box.minLatitude + box.maxLatitude) / 2, (box.minLongitude + box.maxLongitude) / 2⟩

/-- All four bounds are zero: the box was never set. -/
def isEmpty (box : Box) : Bool :=
  box.minLatitude == box.maxLatitude && box.maxLatitude == box.minLongitude &&
    box.minLongitude == box.maxLongitude && box.maxLongitude == 0

/-- The box in messages, with two places. -/
def text (box : Box) : String :=
  let bound := Decimal.fixedPlaces 2
  "BoundingBox [Lat: " ++ bound box.minLatitude ++ "-" ++ bound box.maxLatitude ++
    ", Lon: " ++ bound box.minLongitude ++ "-" ++ bound box.maxLongitude ++ "]"

end Box

end FleetTracking
