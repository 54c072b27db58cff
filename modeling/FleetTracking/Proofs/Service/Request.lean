import FleetTracking.Service.Query
import FleetTracking.Service.Submission

/-!
# Requests

Everything that can be asked of the services, as one type, so that runs of them can be spoken
about.
-/

namespace FleetTracking

/-- A call of one of the services. -/
inductive Request
  | submit (position : Option Position)
  | submitBatch (policy : BatchPolicy) (positions : Option (List Position))
  | positions (vehicle : VehicleRef) (start stop : Timestamp)
  | route (vehicle : VehicleRef) (start stop : Timestamp)
  | statistics (vehicle : VehicleRef) (start stop : Timestamp)
  | lastPosition (vehicle : VehicleRef)
  | allVehicles
  | vehicle (id : VehicleRef)
  | trackedVehicles
  | trackedVehicle (id : VehicleRef)

/-- What a service answers. -/
inductive Answer
  | position (p : Position)
  | positions (ps : List Position)
  | route (r : RouteRecord)
  | statistics (s : Route.Statistics)
  | lastPosition (last : Option PositionRecord)
  | vehicles (vs : List VehicleRecord)
  | vehicle (v : VehicleRecord)
  | trackedVehicles (vs : List TrackedVehicle)
  | trackedVehicle (v : TrackedVehicle)

/-- The positions that a submission answers. -/
def Answer.saved : Answer → List Position
  | position p => [p]
  | positions ps => ps
  | _ => []

namespace Request

variable {σ : Type} [FleetStore σ]

/-- What a service answers to a request, and the store afterwards. -/
def run (v : Validator) (s : σ) : Request → Except Failure Answer × σ
  | submit p => (Service.submit v s p).map (Except.map .position) id
  | submitBatch policy ps => (Service.submitBatch v policy s ps).map (Except.map .positions) id
  | positions u start stop => ((Service.positions s u start stop).map .positions, s)
  | route u start stop => ((Service.route s u start stop).map .route, s)
  | statistics u start stop => ((Service.statistics s u start stop).map .statistics, s)
  | lastPosition u => ((Service.lastPosition s u).map .lastPosition, s)
  | allVehicles => ((Service.allVehicles s).map .vehicles, s)
  | vehicle u => ((Service.vehicle s u).map .vehicle, s)
  | trackedVehicles => ((Service.trackedVehicles s).map .trackedVehicles, s)
  | trackedVehicle u => ((Service.trackedVehicle s u).map .trackedVehicle, s)

/-- Whether a request may store positions. -/
def isSubmission : Request → Bool
  | submit _ | submitBatch _ _ => true
  | _ => false

/-- The positions that a request submits. -/
def submitted : Request → List Position
  | submit p? => p?.toList
  | submitBatch _ ps? => ps?.getD []
  | _ => []

/-- Answers to requests one after another. -/
def runAll (v : Validator) (s : σ) : List Request → List (Except Failure Answer) × σ
  | [] => ([], s)
  | r :: rest =>
    let (answer, s) := r.run v s
    let (answers, s) := runAll v s rest
    (answer :: answers, s)

/-- Questions leave the store as it is. -/
theorem run_eq_of_not_isSubmission {v : Validator} {s : σ} {r : Request}
    (h : r.isSubmission = false) : (r.run v s).2 = s := by
  cases r with
  | submit _ => nomatch h
  | submitBatch _ _ => nomatch h
  | _ => rfl

end Request

end FleetTracking
