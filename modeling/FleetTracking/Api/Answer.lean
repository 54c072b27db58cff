import FleetTracking.Api.Input
import FleetTracking.Health
import FleetTracking.Route

/-!
# Answers

Every answer has a status and a body. All but a few bodies are envelopes: whether the request was
successful, its data, a message, and the errors. Input that was refused and coordinates that are
none have status 400, what is not there 404, a position that is there already 409; any other
failure is the business of nobody outside, and has status 500 with a body that says nothing.
-/

namespace FleetTracking.Api

/-! ## Data -/

/-- What a successful request is answered with. -/
inductive Data
  | saved (p : Position)
  | positions (ps : List Position)
  | route (r : RouteRecord)
  | statistics (s : Route.Statistics)
  | lastPosition (p : Option PositionRecord)
  | vehicles (vs : List VehicleRecord)
  | vehicle (v : VehicleRecord)
  | trackedVehicles (vs : List TrackedVehicle)
  | trackedVehicle (v : TrackedVehicle)

namespace Data

/-- Writes a position. -/
def ofPosition (r : PositionRecord) : Json := .object
  [("id", r.id), ("vehicle_id", r.vehicle), ("latitude", r.latitude),
    ("longitude", r.longitude), ("recorded_at", .string (Moment.render r.recordedAt))]

/-- Writes positions. -/
def ofPositions (rs : List PositionRecord) : Json := .array (rs.map ofPosition)

/-- Writes a vehicle, which must have its date. -/
def ofVehicle (r : VehicleRecord) : Option Json :=
  r.createdDate.map fun createdDate => .object
    [("id", r.id), ("name", r.name), ("is_active", r.isActive),
      ("created_date", .string (Moment.render createdDate))]

/-- Writes a vehicle with its last position. -/
def ofTracked (t : TrackedVehicle) : Option Json :=
  (ofVehicle t.vehicle).map fun vehicle => .object
    [("vehicle", vehicle), ("last_position", Json.ofOption ofPosition t.lastPosition)]

/-- Writes a route. -/
def ofRoute (r : RouteRecord) : Json := .object
  [("vehicle_id", VehicleRef.toJson r.vehicle), ("vehicle_name", .string r.vehicleName),
    ("positions", ofPositions r.positions), ("total_distance_meters", .float r.totalDistance),
    ("position_count", .int r.positionCount)]

/-- Writes the statistics of a route. -/
def ofStatistics (s : Route.Statistics) : Json := .object
  [("total_distance_meters", .float s.totalDistance), ("position_count", .int s.positionCount),
    ("duration_seconds", .float s.duration),
    ("average_speed_meters_per_second", .float s.averageSpeed)]

/-- Writes data; a vehicle without a date cannot be written. -/
def toJson? : Data → Option Json
  | saved p => some (ofPosition (.ofPosition p))
  | positions ps => some (ofPositions (ps.map .ofPosition))
  | route r => some (ofRoute r)
  | statistics s => some (ofStatistics s)
  | lastPosition p => some (Json.ofOption ofPosition p)
  | vehicles vs => (vs.mapM ofVehicle).map .array
  | vehicle v => ofVehicle v
  | trackedVehicles vs => (vs.mapM ofTracked).map .array
  | trackedVehicle v => ofTracked v

end Data

/-! ## Answers -/

/-- The answer to a request. -/
inductive Answer
  | success (data : Data) (message : Option String)
  /-- A failure that the caller is told about. -/
  | refused (status : Nat) (message : String) (errors : List String)
  /-- A request that cannot be read. -/
  | unreadable (problems : List Problem)
  /-- A body that is JSON perhaps, but cannot be taken in. -/
  | badBody
  | noSuchPath
  | wrongMethod
  /-- The path leads somewhere without the slashes at its end. -/
  | moved
  /-- A page about the service itself, whose text is not kept here. -/
  | manual
  | alive
  | health (report : Health.Report)
  /-- A failure that the caller is not told about. -/
  | broken

/-- The body of an answer. -/
inductive Body
  | json (v : Json)
  | text (s : String)

namespace Answer

/-- A success, if its data can be written. -/
def ofData (data : Data) (message : Option String) : Answer :=
  if data.toJson?.any fun v => !v.hasHalf then success data message else broken

/-- The problems of a request. They are listed with what was found, which must be writable. -/
def ofProblems (problems : List Problem) : Answer :=
  if problems.any fun p => p.found.hasSpecial || p.found.hasHalf then broken
  else unreadable problems

/-- The trouble with a body. -/
def ofBodyTrouble : Json.BodyTrouble → Answer
  | .notJson .malformed => unreadable [Input.malformedBody]
  | _ => badBody

/-- What the caller is told of a failure. -/
def ofFailure (f : Failure) : Answer :=
  match f with
  | .rejected r => refused 400 r.message (if r.errors.isEmpty then [r.message] else r.errors)
  | .invalidCoordinates _ _ | .nullInput _ => refused 400 f.message [f.message]
  | .notFound _ _ _ => refused 404 f.message [f.message]
  | .duplicatePosition _ _ => refused 409 f.message [f.message]
  | _ => broken

/-- The status of an answer. -/
def status : Answer → Nat
  | success _ _ | alive | manual => 200
  | moved => 307
  | refused status _ _ => status
  | unreadable _ => 422
  | badBody => 400
  | noSuchPath => 404
  | wrongMethod => 405
  | health report => if report.status = .unhealthy then 503 else 200
  | broken => 500

/-- The envelope of data, a message and errors. -/
def envelope (success : Bool) (data : Json) (message : Option String) (errors : List String) :
    Json := .object
  [("success", .bool success), ("data", data), ("message", Json.ofOption .string message),
    ("errors", .array (errors.map .string))]

/-- The body of an answer. -/
def body : Answer → Body
  | success data message => .json (envelope true (data.toJson?.getD .null) message [])
  | refused _ message errors => .json (envelope false .null (some message) errors)
  | unreadable problems =>
    .json (.object [("errors", .array ((problems.mergeSort Problem.isLE).map Problem.toJson))])
  | badBody => .json (.object [("detail", .string "There was an error parsing the body")])
  | noSuchPath => .json (.object [("detail", .string "Not Found")])
  | wrongMethod => .json (.object [("detail", .string "Method Not Allowed")])
  | moved | manual => .text ""
  | alive => .json (.object [("status", .string "ok")])
  | health report => .json report.toJson
  | broken => .text "Internal Server Error"

end Answer

end FleetTracking.Api
