import FleetTracking.Api.Target

/-!
# Endpoints

What can be asked of the service, by the path of a request. A path of several that fit is the
first one: `vehicles/with-last-positions` is no identifier. One line end behind a path that ends in
a word of its own does no harm; behind an identifier it belongs to that.
-/

namespace FleetTracking.Api

/-- What a request is about. Identifiers are the text of the path. -/
inductive Endpoint
  | submit
  | submitBatch
  | positions (vehicle : String)
  | route (vehicle : String)
  | statistics (vehicle : String)
  | lastPosition (vehicle : String)
  | vehicles
  | trackedVehicles
  | vehicle (id : String)
  | trackedVehicle (id : String)
  | liveness
  | health
  /-- A page about the service itself. -/
  | manual

namespace Endpoint

/-- The methods that an endpoint answers to. -/
def methods : Endpoint → List String
  | submit | submitBatch => ["POST"]
  | manual => ["GET", "HEAD"]
  | _ => ["GET"]

/-- Whether an endpoint looks at the body of a request. -/
def hasBody : Endpoint → Bool
  | submit | submitBatch => true
  | _ => false

/-- Whether an endpoint is about positions, which is where the batch policy is needed. -/
def isAboutPositions : Endpoint → Bool
  | submit | submitBatch | positions _ | route _ | statistics _ | lastPosition _ => true
  | _ => false

/-- An identifier, which is not empty. -/
def withId (id : String) (endpoint : String → Endpoint) : Option Endpoint :=
  if id.isEmpty then none else some (endpoint id)

/-- Endpoints about positions, by the rest of the path. -/
def ofPositions? : List String → Option Endpoint
  | ["position"] => some submit
  | ["positions", "batch"] => some submitBatch
  | ["vehicle", id, "positions"] => withId id positions
  | ["vehicle", id, "route"] => withId id route
  | ["vehicle", id, "route", "statistics"] => withId id statistics
  | ["vehicle", id, "last-position"] => withId id lastPosition
  | _ => none

/-- Endpoints about vehicles, by the rest of the path and by its last segment as it was written. -/
def ofVehicles? (last : String) : List String → Option Endpoint
  | [] => some vehicles
  | ["with-last-positions"] => some trackedVehicles
  | [_] => withId last vehicle
  | [id, "with-last-position"] => withId id trackedVehicle
  | _ => none

/-- Drops one line end. -/
def dropLineEnd (s : String) : String := if s.endsWith "\n" then (s.dropEnd 1).toString else s

/-- The endpoint of a path. -/
def of? (segments : List String) : Option Endpoint :=
  let last := segments.getLast?.getD ""
  match segments.dropLast ++ [dropLineEnd last] with
  | "api" :: "v1" :: "gps" :: rest => ofPositions? rest
  | "api" :: "v1" :: "vehicles" :: rest => ofVehicles? last rest
  | ["api", "v1", "health"] => some liveness
  | ["api", "v1", "health", "detailed"] => some health
  | ["openapi.json"] | ["docs"] | ["docs", "oauth2-redirect"] | ["redoc"] => some manual
  | _ => none

/-- Whether a path leads to an endpoint without the slashes at its end, of which there is one at
least. -/
def isMoved (segments : List String) : Bool :=
  segments.getLast? == some "" && (of? (segments.reverse.dropWhile (· == "")).reverse).isSome

end Endpoint

end FleetTracking.Api
