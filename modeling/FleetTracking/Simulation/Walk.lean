import FleetTracking.Fleet.Position
import FleetTracking.Simulation.Random

/-!
# Random walks in a box

A simulated vehicle moves in steps of random length and direction, each a few seconds after the
one before. Every step is clamped to the box, whatever the random numbers are.

## One step

Three numbers are drawn: the seconds, the distance and the bearing. The distance is the square
root of a number times the radius, so that the points are spread evenly over the disc; the
destination is that of the great circle.
-/

namespace FleetTracking

/-- A box in which vehicles can be simulated: one that was set. -/
structure Simulator where
  box : Box
  nonEmpty : box.isEmpty = false

/-- A place with a time, which need not be on Earth. -/
structure Waypoint where
  place : Point
  recordedAt : Instant

/-- Where a walk begins. The place may be one that could not be read; the first step reports
that. -/
structure Start where
  place : Except Failure Point
  recordedAt : Timestamp

namespace Waypoint

/-- A walk that begins here. -/
def toStart (w : Waypoint) : Start := ⟨.ok w.place, w.recordedAt.timestamp⟩

/-- A waypoint as a value. -/
def toJson (w : Waypoint) : Json := .object
  [("latitude", .float w.place.latitude), ("longitude", .float w.place.longitude),
    ("recorded_at", .string w.recordedAt.iso)]

end Waypoint

namespace Simulator

/-- A simulator for a box. -/
def ofBox (box : Box) : Except Failure Simulator :=
  if h : box.isEmpty = false then .ok ⟨box, h⟩ else .error .emptyBox

variable {ρ : Type} [RandomSource ρ]

/-! ## Places -/

/-- A point anywhere in the box. -/
def randomPlace (sim : Simulator) (rng : ρ) : Except Failure Coordinates × ρ :=
  let (latitude, rng) := RandomSource.uniform rng sim.box.minLatitude sim.box.maxLatitude
  let (longitude, rng) := RandomSource.uniform rng sim.box.minLongitude sim.box.maxLongitude
  (Coordinates.ofPoint ⟨latitude, longitude⟩, rng)

/-- The sine of an angle that is not infinite. -/
def sine (x : Float) : Except Failure Float := if x.isInf then .error .badValue else .ok x.sin

/-- The cosine of an angle that is not infinite. -/
def cosine (x : Float) : Except Failure Float := if x.isInf then .error .badValue else .ok x.cos

/-- The angle of a sine, which is at most one in size. -/
def arcSine (x : Float) : Except Failure Float :=
  if x.abs > 1.0 then .error .badValue else .ok x.asin

/-- The end of a great circle from a point, in degrees, by an angle and a bearing. -/
def destination (p : Point) (angle bearing : Float) : Except Failure Point := do
  let lat := radians p.latitude
  let lon := radians p.longitude
  let sinLat ← sine lat
  let cosLat ← cosine lat
  let sinAngle ← sine angle
  let cosAngle ← cosine angle
  let sinBearing ← sine bearing
  let cosBearing ← cosine bearing
  let lat' ← arcSine (sinLat * cosAngle + cosLat * sinAngle * cosBearing)
  let sinLat' ← sine lat'
  let lon' := lon + Float.atan2 (sinBearing * sinAngle * cosLat) (cosAngle - sinLat * sinLat')
  return ⟨degrees lat', degrees lon'⟩

/-- The bound or number in the middle; a number that cannot be compared becomes the upper
bound. -/
def clamp (x low high : Float) : Float :=
  let least := if x < high then x else high
  if low < least then least else low

/-- The nearest point of the box. -/
def clampToBox (box : Box) (p : Point) : Point :=
  ⟨clamp p.latitude box.minLatitude box.maxLatitude,
    clamp p.longitude box.minLongitude box.maxLongitude⟩

/-- A point within a radius, in meters, of a place, clamped to the box. -/
def nearby (sim : Simulator) (rng : ρ) (place : Except Failure Point) (radius : Float) :
    Except Failure Coordinates × ρ :=
  let (u, rng) := RandomSource.unit rng
  match squareRoot u with
  | .error e => (.error e, rng)
  | .ok root =>
    let (v, rng) := RandomSource.unit rng
    (do
      let target ← destination (← place) (root * radius / earthRadius) (v * 2.0 * pi)
      Coordinates.ofPoint (clampToBox sim.box target), rng)

/-! ## Paths -/

/-- A vehicle that reported within this time continues its own timeline. -/
def recentWindow : Int := 5 * minuteMicros

/-- How long ago a vehicle without reports is supposed to have been at the center of the box. -/
def defaultStartAge : Int := 10 * minuteMicros

/-- The least and the greatest number of seconds between two steps. -/
def stepSeconds : Int × Int := (2, 10)

/-- The center of the box, ten minutes ago. -/
def defaultStart (sim : Simulator) (now : Instant) : Except Failure Waypoint := do
  let recordedAt ← now.add (-defaultStartAge)
  return ⟨sim.box.center, recordedAt⟩

/-- The time from which a walk counts: that of its start if it is recent, else the present. -/
def baseTime (now : Instant) (start : Timestamp) : Except Failure Instant := do
  let start ← start.instant
  let horizon ← now.add (-recentWindow)
  return if horizon < start then start else now

/-- The next step of a walk. -/
def step (sim : Simulator) (radius : Float) (rng : ρ) (place : Except Failure Point)
    (time : Instant) : Except Failure Waypoint × ρ :=
  let (seconds, rng) := RandomSource.integer rng stepSeconds.1 stepSeconds.2
  match (do time.add ((← seconds) * secondMicros) : Except Failure Instant) with
  | .error e => (.error e, rng)
  | .ok time =>
    let (target, rng) := sim.nearby rng place radius
    (target.map fun c => ⟨c.toPoint, time⟩, rng)

/-- The first `count` steps of a walk. -/
def walk (sim : Simulator) (radius : Float) (rng : ρ) (place : Except Failure Point)
    (time : Instant) : Nat → Except Failure (List Waypoint) × ρ
  | 0 => (.ok [], rng)
  | count + 1 =>
    match sim.step radius rng place time with
    | (.error e, rng) => (.error e, rng)
    | (.ok w, rng) =>
      let (rest, rng) := walk sim radius rng (.ok w.place) w.recordedAt count
      (rest.map (w :: ·), rng)

/-- A path of `count` steps, none for a negative number. -/
def path (sim : Simulator) (rng : ρ) (now : Instant) (start : Start) (count : Int)
    (radius : Float) : Except Failure (List Waypoint) × ρ :=
  match baseTime now start.recordedAt with
  | .error e => (.error e, rng)
  | .ok time => sim.walk radius rng start.place time count.toNat

end Simulator

end FleetTracking
