import FleetTracking.Feed.Exchange
import FleetTracking.Fleet.Record
import FleetTracking.Fleet.Report
import FleetTracking.Json.Parser
import FleetTracking.Json.Printer
import FleetTracking.Settings
import FleetTracking.Simulation.Walk
import FleetTracking.Url.Basic

/-!
# The client of the service

The client asks the service for its vehicles and hands in positions of them. Trouble with the
service or with what it says counts as no vehicles, and as positions that were not taken.

What the client does not expect still fails: an address that is none, a listing that is not made of
objects, and a network that breaks down in another way than by not answering. An address without
scheme or host is only a path, and no reply that comes to it can be used.
-/

namespace FleetTracking.Feed

/-- A client that knows where the service is. -/
structure Client where
  /-- The address of the service, without a slash at its end. -/
  baseUrl : String

/-- The report of a simulated position. -/
def reportOf (w : Waypoint) : Report := ⟨w.place, w.recordedAt.timestamp⟩

namespace Client

/-- Drops the slashes at the end of an address. -/
def dropSlashes (url : String) : String :=
  String.ofList (url.toList.reverse.dropWhile (· == '/')).reverse

/-- A client of the service at an address, or at the one of the settings. -/
def ofAddress (settings : Settings) (url : Option String) : Client :=
  let url := url.getD ""
  ⟨dropSlashes (if url.isEmpty then settings.apiUrl else url)⟩

/-- Where a request for a path of the service goes. -/
def destination (c : Client) (path : String) : Except Failure Url :=
  match Url.parse? (c.baseUrl ++ path) with
  | some u => .ok (if u.isAbsolute then u else Url.nowhere.placedAt u)
  | none => .error .badAddress

variable {ν : Type} [Network ν]

/-! ## Vehicles -/

/-- Where vehicles are asked for. -/
def listingPath : String := "/api/v1/vehicles/with-last-positions"

/-- Reads a listing. One that reports no success or has no data is empty. -/
def readListing (body : String) : Except Failure (List TrackedVehicle) := do
  let v ← (Json.parseBody body).mapError Failure.ofBody
  let success := (← v.optional "success").getD .null
  if success.isVacant then return []
  else
    match (← v.optional "data").getD .null with
    | .null => return []
    | data => Json.listOf TrackedVehicle.ofJson data

/-- What may be wrong with a listing: bad values and fields that are missing. -/
def isExpected : Failure → Bool
  | .badValue | .malformedJson | .missingField _ => true
  | _ => false

/-- The vehicles of a reply, none for what may go wrong. -/
def vehiclesOf (source : Url) : Reply → Except Failure (List TrackedVehicle)
  | .unanswered => .ok []
  | .broken => .error .connectionLost
  | .response status body =>
    if status ≠ 200 || !source.isAbsolute then .ok []
    else
      match readListing body with
      | .ok vehicles => .ok vehicles
      | .error e => if isExpected e then .ok [] else .error e

/-- All vehicles of the service with their last positions. -/
def vehicles (c : Client) (net : ν) : Except Failure (List TrackedVehicle) × ν :=
  match c.destination listingPath with
  | .error e => (.error e, net)
  | .ok url => (Network.send net ⟨.get, url.render, none⟩).map (vehiclesOf url) id

/-! ## Positions -/

/-- A batch of positions of one vehicle. -/
def batch (vehicle : Json) (reports : List Report) : Json :=
  .object [("vehicle_id", vehicle), ("positions", .array (reports.map Report.toJson))]

/-- Where batches are handed in. -/
def batchPath : String := "/api/v1/gps/positions/batch"

/-- Whether a batch was taken. -/
def isTaken (source : Url) : Reply → Except Failure Bool
  | .unanswered => .ok false
  | .broken => .error .connectionLost
  | .response status _ => if source.isAbsolute then .ok (status < 400) else .error .badValue

/-- Hands in positions of a vehicle, and answers whether they were taken. A batch that JSON cannot
write is not sent. -/
def submit (c : Client) (net : ν) (vehicle : Json) (reports : List Report) :
    Except Failure Bool × ν :=
  match c.destination batchPath with
  | .error e => (.error e, net)
  | .ok url =>
    let batch := batch vehicle reports
    if batch.hasSpecial then (.error .badValue, net)
    else if batch.hasHalf then (.error .unwritableText, net)
    else (Network.send net ⟨.post, url.render, some batch⟩).map (isTaken url) id

end Client

end FleetTracking.Feed
