import FleetTracking.Api.Answer
import FleetTracking.Api.Endpoint
import FleetTracking.Cache.Service
import FleetTracking.Settings

/-!
# Responding to requests

A request is matched with an endpoint, its parts are read, and the call that it makes is carried
out. The order of these steps shows in what is answered to a request with several faults: the
path, the method, the syntax of the body, the settings, and then all other parts at once.
-/

namespace FleetTracking.Api

/-- A request to the service. -/
structure Request where
  method : String
  target : Target
  body : Option String

/-! ## Settings -/

/-- The batch policy of the settings, in any case. -/
def policyOf (settings : Settings) : Except Failure BatchPolicy :=
  BatchPolicy.ofJson (.string settings.batchPolicy.toLower)

/-- How long the settings let each view stay in the cache. -/
def timesOf (settings : Settings) : CacheTimes :=
  ⟨settings.lastPositionTtl, settings.vehiclesTtl, settings.trackedTtl⟩

/-! ## Calls -/

/-- The ends of a window of time, either of which may be left to the service. -/
structure Window where
  start : Option Timestamp
  stop : Option Timestamp

/-- A window whose ends are settled: by default it ends now and begins some hours before. -/
def Window.settle (w : Window) (settings : Settings) (now : Instant) :
    Except Failure (Timestamp × Timestamp) :=
  let stop := w.stop.getD now.timestamp
  match w.start with
  | some start => .ok (start, stop)
  | none =>
    match stop.shift? (-(settings.routeHoursBack * hourMicros)) with
    | some start => .ok (start, stop)
    | none => .error .outOfRange

/-- A question about the store, which leaves it as it is. -/
inductive Question
  | positions (vehicle : Int) (window : Window)
  | route (vehicle : Int) (window : Window)
  | statistics (vehicle : Int) (window : Window)
  | lastPosition (vehicle : Int)
  | vehicles
  | trackedVehicles
  | vehicle (id : Int)
  | trackedVehicle (id : Int)

/-- What a request asks the service to do. -/
inductive Call
  | submit (vehicle : Int) (report : Report)
  | submitBatch (vehicle : Int) (reports : List Report)
  | ask (question : Question)
  | liveness
  | health
  | manual

/-! ## Reading calls -/

/-- An identifier of the path. -/
def pathId (text : String) : Checked Int :=
  Checked.reading ["path", "vehicle_id"] Input.integer (.string text)

/-- A moment of the query, if it is there. -/
def queryMoment (target : Target) (name : String) : Checked (Option Timestamp) :=
  match target.value? name with
  | none => .ok none
  | some text => (Checked.reading ["query", name] Input.moment (.string text)).map some

/-- A vehicle and a window of time. -/
def windowed (target : Target) (id : String) (question : Int → Window → Question) : Checked Call :=
  (Checked.both (pathId id)
    (Checked.both (queryMoment target "from") (queryMoment target "to"))).map
    fun (vehicle, start, stop) => .ask (question vehicle ⟨start, stop⟩)

/-- The call of a request to an endpoint. -/
def readCall (endpoint : Endpoint) (target : Target) (body : Option Json) : Checked Call :=
  match endpoint with
  | .submit => (Input.required Input.submission body).map fun (v, r) => .submit v r
  | .submitBatch => (Input.required Input.batch body).map fun (v, rs) => .submitBatch v rs
  | .positions id => windowed target id .positions
  | .route id => windowed target id .route
  | .statistics id => windowed target id .statistics
  | .lastPosition id => (pathId id).map fun v => .ask (.lastPosition v)
  | .vehicles => .ok (.ask .vehicles)
  | .trackedVehicles => .ok (.ask .trackedVehicles)
  | .vehicle id => (pathId id).map fun v => .ask (.vehicle v)
  | .trackedVehicle id => (pathId id).map fun v => .ask (.trackedVehicle v)
  | .liveness => .ok .liveness
  | .health => .ok .health
  | .manual => .ok .manual

/-! ## Carrying out calls -/

variable {σ : Type} [FleetStore σ]

/-- The answer of data, or of the failure to get it. -/
def answerOf (encode : α → Data) : Except Failure α → Answer
  | .ok a => .ofData (encode a) none
  | .error f => .ofFailure f

/-- The message of a last position. -/
def lastPositionMessage : Option PositionRecord → Option String
  | some _ => none
  | none => "No positions found for this vehicle"

/-- Answers a question. -/
def answerQuestion (settings : Settings) (now : Instant) (s : σ) (cache : Cache) :
    Question → Answer × Cache
  | .positions v w =>
    (answerOf .positions do
      let (start, stop) ← w.settle settings now
      Service.positions s (some v) start stop, cache)
  | .route v w =>
    (answerOf .route do
      let (start, stop) ← w.settle settings now
      Service.route s (some v) start stop, cache)
  | .statistics v w =>
    (answerOf .statistics do
      let (start, stop) ← w.settle settings now
      Service.statistics s (some v) start stop, cache)
  | .lastPosition v =>
    match Cached.lastPosition (timesOf settings) s cache (some v) with
    | (.ok p, cache) => (.ofData (.lastPosition p) (lastPositionMessage p), cache)
    | (.error f, cache) => (.ofFailure f, cache)
  | .vehicles => (Cached.allVehicles (timesOf settings) s cache).map (answerOf .vehicles) id
  | .trackedVehicles =>
    (Cached.trackedVehicles (timesOf settings) s cache).map (answerOf .trackedVehicles) id
  | .vehicle v =>
    (Cached.vehicle (timesOf settings) s cache (some v)).map (answerOf .vehicle) id
  | .trackedVehicle v => (answerOf .trackedVehicle (Service.trackedVehicle s (some v)), cache)

/-- The validator of the settings. -/
def validatorOf (settings : Settings) : Validator := .canonical settings.box

/-- Submits one position. -/
def submit (settings : Settings) (s : σ) (cache : Cache) (vehicle : Int) (report : Report) :
    Answer × σ × Cache :=
  match report.position (some vehicle) with
  | .error f => (.ofFailure f, s, cache)
  | .ok p =>
    match Cached.submit (validatorOf settings) s cache (some p) with
    | (.error f, s, cache) => (.ofFailure f, s, cache)
    | (.ok saved, s, cache) =>
      (.ofData (.saved saved) "Position submitted successfully", s, cache)

/-- Submits a batch. -/
def submitBatch (settings : Settings) (policy : BatchPolicy) (s : σ) (cache : Cache)
    (vehicle : Int) (reports : List Report) : Answer × σ × Cache :=
  match reports.mapM (Report.position (some vehicle)) with
  | .error f => (.ofFailure f, s, cache)
  | .ok ps =>
    match Cached.submitBatch (validatorOf settings) policy s cache (some ps) with
    | (.error f, s, cache) => (.ofFailure f, s, cache)
    | (.ok saved, s, cache) =>
      (.ofData (.positions saved)
        (toString saved.length ++ " positions submitted successfully"), s, cache)

/-- Carries out a call. -/
def perform (settings : Settings) (policy : BatchPolicy) (now : Instant)
    (database : Health.DatabaseState) (s : σ) (cache : Cache) : Call → Answer × σ × Cache
  | .submit vehicle report => submit settings s cache vehicle report
  | .submitBatch vehicle reports => submitBatch settings policy s cache vehicle reports
  | .ask question =>
    let (answer, cache) := answerQuestion settings now s cache question
    (answer, s, cache)
  | .liveness => (.alive, s, cache)
  | .manual => (.manual, s, cache)
  | .health =>
    let (report, cache) := Health.check database cache now
    (.health report, s, cache)

/-! ## Requests -/

/-- The policy that an endpoint works with; only those about positions need one that is set. -/
def policyFor (settings : Settings) (endpoint : Endpoint) : Except Failure BatchPolicy :=
  if endpoint.isAboutPositions then policyOf settings else .ok .strict

/-- The body of a request, which only some endpoints look at. -/
def bodyFor (endpoint : Endpoint) (request : Request) :
    Except Json.BodyTrouble (Option Json) :=
  if endpoint.hasBody then Input.body request.body else .ok none

/-- Responds to a request for an endpoint. -/
def respondAt (settings : Settings) (now : Instant) (database : Health.DatabaseState) (s : σ)
    (cache : Cache) (endpoint : Endpoint) (request : Request) : Answer × σ × Cache :=
  match bodyFor endpoint request with
  | .error trouble => (.ofBodyTrouble trouble, s, cache)
  | .ok body =>
    match policyFor settings endpoint with
    | .error f => (.ofFailure f, s, cache)
    | .ok policy =>
      match readCall endpoint request.target body with
      | .error problems => (.ofProblems problems, s, cache)
      | .ok call => perform settings policy now database s cache call

/-- Responds to a request. -/
def respond (settings : Settings) (now : Instant) (database : Health.DatabaseState) (s : σ)
    (cache : Cache) (request : Request) : Answer × σ × Cache :=
  match Endpoint.of? request.target.segments with
  | none =>
    (if Endpoint.isMoved request.target.segments then .moved else .noSuchPath, s, cache)
  | some endpoint =>
    if endpoint.methods.contains request.method then
      respondAt settings now database s cache endpoint request
    else (.wrongMethod, s, cache)

/-- The body that an answer is sent with; an answer about the head of one has none. -/
def bodySent (request : Request) (answer : Answer) : Body :=
  if request.method = "HEAD" then .text "" else answer.body

end FleetTracking.Api
