import FleetTracking.Cache.Basic
import FleetTracking.Service.Query
import FleetTracking.Service.Submission

/-!
# Cached services

Readers first look into the cache, then ask the store and leave the answer in the cache. Three
views are kept there: the last position of a vehicle, vehicles, and all vehicles with their last
positions. Whoever stores a position removes the first and the third.

A vehicle without a position is no answer to keep. Single vehicles with their positions and all
that depends on a window of time are not kept either.
-/

namespace FleetTracking

/-- How many seconds each view may stay in the cache. -/
structure CacheTimes where
  lastPosition : Int
  vehicles : Int
  tracked : Int

namespace Cached

variable {σ : Type} [FleetStore σ]

/-! ## Keys -/

/-- The key of the last position of a vehicle. -/
def lastPositionKey (vehicle : VehicleRef) : String :=
  Cache.key "last_position" [VehicleRef.toJson vehicle]

/-- The key of a vehicle. -/
def vehicleKey (vehicle : VehicleRef) : String := Cache.key "vehicle" [VehicleRef.toJson vehicle]

/-- The key of all vehicles. -/
def vehiclesKey : String := Cache.key "vehicles" []

/-- The key of all vehicles with their last positions. -/
def trackedKey : String := Cache.key "vehicles_with_positions" []

/-! ## Reading -/

/-- The answer in the cache, or else the one of the store, which is then left in the cache. -/
def throughCache (cache : Cache) (key : String) (ttl : Int) (decode : Json → Except Failure α)
    (encode : α → Except Failure Json) (answer : Except Failure α) : Except Failure α × Cache :=
  match cache.get key with
  | (.error e, cache) => (.error e, cache)
  | (.ok (some v), cache) => (decode v, cache)
  | (.ok none, cache) =>
    match answer with
    | .error e => (.error e, cache)
    | .ok a =>
      match encode a with
      | .error e => (.error e, cache)
      | .ok v => (.ok a, cache.set key v ttl)

/-- The last position of a vehicle. -/
def lastPosition (times : CacheTimes) (s : σ) (cache : Cache) (vehicle : VehicleRef) :
    Except Failure (Option PositionRecord) × Cache :=
  match cache.get (lastPositionKey vehicle) with
  | (.error e, cache) => (.error e, cache)
  | (.ok (some v), cache) => ((PositionRecord.ofJson v).map some, cache)
  | (.ok none, cache) =>
    match Service.lastPosition s vehicle with
    | .error e => (.error e, cache)
    | .ok none => (.ok none, cache)
    | .ok (some r) =>
      (.ok (some r), cache.set (lastPositionKey vehicle) r.toJson times.lastPosition)

/-- All vehicles by name. -/
def allVehicles (times : CacheTimes) (s : σ) (cache : Cache) :
    Except Failure (List VehicleRecord) × Cache :=
  throughCache cache vehiclesKey times.vehicles (Json.listOf VehicleRecord.ofJson)
    (Json.ofList VehicleRecord.toJson) (Service.allVehicles s)

/-- The vehicle with an identifier. -/
def vehicle (times : CacheTimes) (s : σ) (cache : Cache) (id : VehicleRef) :
    Except Failure VehicleRecord × Cache :=
  throughCache cache (vehicleKey id) times.vehicles VehicleRecord.ofJson VehicleRecord.toJson
    (Service.vehicle s id)

/-- All vehicles by name with their last positions. -/
def trackedVehicles (times : CacheTimes) (s : σ) (cache : Cache) :
    Except Failure (List TrackedVehicle) × Cache :=
  throughCache cache trackedKey times.tracked (Json.listOf TrackedVehicle.ofJson)
    (Json.ofList TrackedVehicle.toJson) (Service.trackedVehicles s)

/-! ## Writing -/

/-- Whether identifiers can be put in order: one that was left out stands alone. -/
def areOrdered (vehicles : List VehicleRef) : Bool :=
  vehicles.all Option.isSome || vehicles.length ≤ 1

/-- Removes what the new positions of some vehicles make obsolete. -/
def invalidate (cache : Cache) (vehicles : List VehicleRef) : Except Failure Unit × Cache :=
  let vehicles := vehicles.eraseDups
  (if areOrdered vehicles then .ok () else .error .wrongType,
    cache.delete (vehicles.map lastPositionKey ++ [trackedKey]))

/-- Submits one position. -/
def submit (v : Validator) (s : σ) (cache : Cache) (position : Option Position) :
    Except Failure Position × σ × Cache :=
  match Service.submit v s position with
  | (.error e, s) => (.error e, s, cache)
  | (.ok saved, s) =>
    let (result, cache) := invalidate cache (position.toList.map Position.vehicle)
    (result.map fun _ => saved, s, cache)

/-- Submits a batch. -/
def submitBatch (v : Validator) (policy : BatchPolicy) (s : σ) (cache : Cache)
    (positions : Option (List Position)) : Except Failure (List Position) × σ × Cache :=
  match Service.submitBatch v policy s positions with
  | (.error e, s) => (.error e, s, cache)
  | (.ok [], s) => (.ok [], s, cache)
  | (.ok saved, s) =>
    let (result, cache) := invalidate cache (saved.map Position.vehicle)
    (result.map fun _ => saved, s, cache)

end Cached

end FleetTracking
