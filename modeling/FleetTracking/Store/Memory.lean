import FleetTracking.Store.Basic

/-!
# The store in memory

Vehicles and positions in the order in which they were first stored, with counters for the next
identifiers and a list of the keys of all stored positions, which no two of them may share.

Vehicles are staged by value, so each of them becomes a vehicle of its own. One object that is staged
twice before a save is not modelled: the second time it would be stored under the identifier that it
was given the first time.
-/

namespace FleetTracking

/-- What a vehicle is apart from its identifier. -/
structure VehicleData where
  name : String
  isActive : Bool
  createdDate : Option Timestamp

/-- The vehicle with this identifier. -/
def VehicleData.withId (id : Int) (v : VehicleData) : Vehicle :=
  ⟨id, v.name, v.isActive, v.createdDate⟩

/-- Vehicles and positions in memory. -/
structure Memory where
  vehicles : List Vehicle
  /-- Staged vehicles, with the identifiers they asked for. -/
  stagedVehicles : List (Option Int × VehicleData)
  nextVehicle : Int
  positions : List Position
  /-- The keys of the stored positions. -/
  keys : List (VehicleRef × Instant)
  stagedPositions : List Position
  nextPosition : Int

namespace Memory

/-- A store with nothing in it. -/
def empty : Memory := ⟨[], [], 1, [], [], [], 1⟩

/-! ## Vehicles -/

/-- The vehicle with an identifier. -/
def vehicle? (m : Memory) (vehicle : VehicleRef) : Option Vehicle :=
  vehicle.bind fun id => m.vehicles.find? fun v => v.id == id

/-- Stores a vehicle in the place of the one with its identifier, or behind all others. -/
def putVehicle (v : Vehicle) : List Vehicle → List Vehicle
  | [] => [v]
  | w :: rest => if w.id == v.id then v :: rest else w :: putVehicle v rest

/-- All vehicles by name; equal names keep their order. A half of a pair in a name counts as the
character that stands for it (`Text.loneHalf`). -/
def vehiclesByName (m : Memory) : List Vehicle := m.vehicles.mergeSort fun a b => a.name ≤ b.name

/-- Stages a vehicle that has a name. -/
def addVehicle (m : Memory) (v : VehicleDraft) : Except Failure Unit × Memory :=
  match v.name with
  | some name =>
    if v.isValid then
      (.ok (), { m with
        stagedVehicles := m.stagedVehicles ++ [(v.id, ⟨name, v.isActive, v.createdDate⟩)] })
    else (.error .blankVehicleName, m)
  | none => (.error .blankVehicleName, m)

/-- Stores one vehicle. The counter passes its identifier, asked for or given. -/
def storeVehicle (m : Memory) (wanted : Option Int) (data : VehicleData) : Vehicle × Memory :=
  let v := data.withId (wanted.getD m.nextVehicle)
  (v, { m with vehicles := putVehicle v m.vehicles, nextVehicle := max m.nextVehicle v.id + 1 })

/-- Stores vehicles one after another. -/
def storeVehicles : Memory → List (Option Int × VehicleData) → List Vehicle × Memory
  | m, [] => ([], m)
  | m, (wanted, data) :: rest =>
    let (v, m) := m.storeVehicle wanted data
    let (vs, m) := storeVehicles m rest
    (v :: vs, m)

/-- Stores the staged vehicles. -/
def saveVehicles (m : Memory) : List Vehicle × Memory :=
  let (saved, m) := m.storeVehicles m.stagedVehicles
  (saved, { m with stagedVehicles := [] })

/-- Switches a stored vehicle on or off, for all who ask for it from now on. -/
def setActive (m : Memory) (vehicle : VehicleRef) (active : Bool) :
    Except Failure Vehicle × Memory :=
  match m.vehicle? vehicle with
  | none => (.error .missingMember, m)
  | some v =>
    (.ok (v.setActive active), { m with vehicles := putVehicle (v.setActive active) m.vehicles })

/-! ## Positions -/

/-- Whether a position of the vehicle at the instant is stored. -/
def isRecorded (m : Memory) (vehicle : VehicleRef) (t : Instant) : Bool :=
  m.keys.contains (vehicle, t)

/-- The positions of one vehicle. -/
def positionsOf (m : Memory) (vehicle : VehicleRef) : List Position :=
  m.positions.filter fun p => p.vehicle == vehicle

/-- The positions of a vehicle from one instant to another, oldest first. -/
def between (m : Memory) (vehicle : VehicleRef) (start stop : Instant) : List Position :=
  ((m.positionsOf vehicle).filter fun p => start ≤ p.recordedAt && p.recordedAt ≤ stop).mergeSort
    fun a b => a.recordedAt ≤ b.recordedAt

/-- The later of two positions, the first one if they are equally late. -/
def later (p q : Position) : Position := if p.recordedAt < q.recordedAt then q else p

/-- The latest position of a vehicle. -/
def last? (m : Memory) (vehicle : VehicleRef) : Option Position :=
  match m.positionsOf vehicle with
  | [] => none
  | p :: rest => some (rest.foldl later p)

/-- The first position whose key is taken, by a stored position or an earlier one of the list. -/
def firstRepeated (taken : List (VehicleRef × Instant)) : List Position → Option Position
  | [] => none
  | p :: rest => if taken.contains p.key then some p else firstRepeated (p.key :: taken) rest

/-- Gives positions the numbers from `n` on. -/
def numbered (n : Int) : List Position → List Position
  | [] => []
  | p :: rest => p.withId (some n) :: numbered (n + 1) rest

/-- Stores the staged positions, unless one of them repeats a key. They leave the stage in any
case. -/
def savePositions (m : Memory) : Except Failure (List Position) × Memory :=
  let staged := m.stagedPositions
  let m := { m with stagedPositions := [] }
  match firstRepeated m.keys staged with
  | some p =>
    (.error (.duplicatePosition (VehicleRef.toJson p.vehicle) (some p.recordedAt.timestamp)), m)
  | none =>
    let saved := numbered m.nextPosition staged
    (.ok saved, { m with
      positions := m.positions ++ saved
      keys := m.keys ++ saved.map Position.key
      nextPosition := m.nextPosition + staged.length })

end Memory

instance : FleetStore Memory where
  vehicle? m vehicle := .ok (m.vehicle? vehicle)
  vehicles m := .ok m.vehiclesByName
  isRecorded m vehicle t := .ok (m.isRecorded vehicle t)
  between m vehicle start stop := .ok (m.between vehicle start stop)
  last? m vehicle := .ok (m.last? vehicle)
  stage m positions := { m with stagedPositions := m.stagedPositions ++ positions }
  savePositions := Memory.savePositions
  addVehicle := Memory.addVehicle
  saveVehicles m := m.saveVehicles.map .ok id
  setActive := Memory.setActive
  -- memory has no sessions, so the stage stays
  reopen m := m

end FleetTracking
