import FleetTracking.Store.Basic

/-!
# The tables

Two tables of rows, either of which may be missing. A row of vehicles has an identifier of its
own, a name and a date; no two rows of positions share vehicle and time. Times are date and time
fields in universal time, and are compared field by field.

## What an insertion checks

The table first, then row by row that every value can be written to its column, and what the table
demands. Rows are sent one at a time, so the fault that is reported is that of the first row with
one: a repeated row counts before a later one whose number does not fit. All rows of one insertion
go in, or none does.
-/

namespace FleetTracking

/-- A row of the table of vehicles. -/
structure VehicleRow where
  id : Int
  name : String
  isActive : Bool
  createdDate : Civil

/-- A row of the table of positions. -/
structure PositionRow where
  id : Int
  vehicle : Int
  place : Point
  recordedAt : Civil

/-- A vehicle that is to become a row. -/
structure NewVehicle where
  id : Option Int
  name : Option String
  isActive : Bool
  createdDate : Option Civil

/-- A position that is to become a row. -/
structure NewPosition where
  vehicle : VehicleRef
  place : Point
  recordedAt : Civil

/-- The tables of a database. -/
structure Tables where
  vehicles : Option (List VehicleRow)
  positions : Option (List PositionRow)

/-! ## Rows as entities -/

/-- The vehicle of a row; its date is in universal time. -/
def VehicleRow.toVehicle (r : VehicleRow) : Vehicle where
  id := r.id
  name := r.name
  isActive := r.isActive
  createdDate := some r.createdDate.instant.timestamp

/-- The position of a row, whose place is checked again. -/
def PositionRow.toPosition (r : PositionRow) : Except Failure Position := do
  let coordinates ← Coordinates.ofPoint r.place
  return { vehicle := some r.vehicle, coordinates, recordedAt := r.recordedAt.instant,
           id := some r.id }

/-- The row of a vehicle that is offered; its date is brought to universal time. -/
def NewVehicle.ofDraft (v : VehicleDraft) : Except Failure NewVehicle :=
  match v.createdDate with
  | none => .ok ⟨v.id, v.name, v.isActive, none⟩
  | some createdDate => do
    let instant ← createdDate.instant
    return ⟨v.id, v.name, v.isActive, some instant.civil⟩

/-- The row of a position. -/
def NewPosition.ofPosition (p : Position) : NewPosition :=
  ⟨p.vehicle, p.coordinates.toPoint, p.recordedAt.civil⟩

/-! ## Columns -/

/-- Whether a number fits a column of sixty-four bits. -/
def fitsColumn (n : Int) : Bool := -0x8000000000000000 ≤ n && n < 0x8000000000000000

/-- Whether an identifier fits its column; one that was left out does. -/
def VehicleRef.fits (vehicle : VehicleRef) : Bool := (vehicle.map fitsColumn).getD true

/-- A number as a column keeps it: zero has no sign there. -/
def storedNumber (x : Float) : Float := if x == 0.0 then 0.0 else x

/-- One more than the largest identifier, or one if there is none. -/
def nextId : List Int → Int
  | [] => 1
  | id :: ids => ids.foldl max id + 1

/-- The identifier of a row that asks for none: the next one if that fits its column. Otherwise any
free one may be taken, here the least positive one. A column that is full has none. -/
def freeId? (ids : List Int) : Option Int :=
  if fitsColumn (nextId ids) then some (nextId ids)
  else
    let free? := (List.range' 1 (ids.length + 1)).find? fun (n : Nat) => !ids.contains (n : Int)
    (free?.map Int.ofNat).filter fitsColumn

namespace Tables

/-- Both tables, without rows. -/
def empty : Tables := ⟨some [], some []⟩

/-- The names of the tables that are missing. -/
def missing (t : Tables) : List String :=
  (if t.vehicles.isNone then ["vehicles"] else []) ++
    (if t.positions.isNone then ["gps_positions"] else [])

/-- Creates the tables that are missing. -/
def create (t : Tables) : Tables := ⟨some (t.vehicles.getD []), some (t.positions.getD [])⟩

/-- Removes a table, which must be there. -/
def drop (t : Tables) (name : String) : Except Failure Tables :=
  if (name == "vehicles" || name == "gps_positions") && !t.missing.contains name then
    .ok (if name = "vehicles" then { t with vehicles := none } else { t with positions := none })
  else .error .tableMissing

/-- The rows of a table, which must be there. -/
def rows (table : Option (List α)) : Except Failure (List α) :=
  match table with
  | some rows => .ok rows
  | none => .error .tableMissing

/-! ## Insertion -/

/-- Adds a row of a vehicle. -/
def insertVehicle (rows : List VehicleRow) (v : NewVehicle) : Except Failure (List VehicleRow) :=
  if !(v.id.map fitsColumn).getD true then .error .outOfRange
  else if v.name.any Text.hasHalf then .error .unwritableText
  else
    match v.name, v.createdDate with
    | some name, some createdDate =>
      match v.id <|> freeId? (rows.map VehicleRow.id) with
      | some id =>
        if rows.any fun r => r.id == id then .error .constraintViolated
        else .ok (rows ++ [⟨id, name, v.isActive, createdDate⟩])
      | none => .error .tableFull
    | _, _ => .error .constraintViolated

/-- Adds a row of a position. Positions never ask for an identifier: they are numbered as they come,
and no table has so many rows that the numbers of its column run out. -/
def insertPosition (rows : List PositionRow) (p : NewPosition) :
    Except Failure (List PositionRow) :=
  match p.vehicle with
  | none => .error .constraintViolated
  | some vehicle =>
    if !fitsColumn vehicle then .error .outOfRange
    else if p.place.latitude.isNaN || p.place.longitude.isNaN ||
        rows.any fun r => r.vehicle == vehicle && decide (r.recordedAt = p.recordedAt) then
      .error .constraintViolated
    else
      .ok (rows ++ [{
        id := nextId (rows.map PositionRow.id)
        vehicle
        place := ⟨storedNumber p.place.latitude, storedNumber p.place.longitude⟩
        recordedAt := p.recordedAt }])

/-- Adds rows of vehicles, one after another. -/
def insertVehicles (table : Option (List VehicleRow)) (new : List NewVehicle) :
    Except Failure (Option (List VehicleRow)) :=
  if new.isEmpty then .ok table
  else do
    return some (← new.foldlM insertVehicle (← rows table))

/-- Adds rows of positions, one after another. -/
def insertPositions (table : Option (List PositionRow)) (new : List NewPosition) :
    Except Failure (Option (List PositionRow)) :=
  if new.isEmpty then .ok table
  else do
    return some (← new.foldlM insertPosition (← rows table))

/-- Inserts vehicles and then positions, all or none. -/
def insert (t : Tables) (vehicles : List NewVehicle) (positions : List NewPosition) :
    Except Failure Tables := do
  let vehicles ← insertVehicles t.vehicles vehicles
  let positions ← insertPositions t.positions positions
  return ⟨vehicles, positions⟩

/-! ## Questions -/

/-- The rows of one vehicle, if its identifier fits the column. -/
def positionsOf (t : Tables) (vehicle : VehicleRef) : Except Failure (List PositionRow) := do
  let rows ← rows t.positions
  if VehicleRef.fits vehicle then
    return rows.filter fun r => some r.vehicle == vehicle
  else .error .outOfRange

/-- The vehicle with an identifier. No row has one that was left out. -/
def vehicle? (t : Tables) (vehicle : VehicleRef) : Except Failure (Option Vehicle) := do
  let rows ← rows t.vehicles
  if VehicleRef.fits vehicle then
    return (rows.find? fun r => some r.id == vehicle).map VehicleRow.toVehicle
  else .error .outOfRange

/-- The order of names; equal names are ordered by identifier. No name in the table holds a half of a
pair, so it does not matter here where the stand-ins of halves are put in order. -/
def namedBefore (a b : VehicleRow) : Bool :=
  decide (a.name < b.name) || (a.name == b.name && decide (a.id ≤ b.id))

/-- All vehicles by name. -/
def vehiclesByName (t : Tables) : Except Failure (List Vehicle) := do
  return ((← rows t.vehicles).mergeSort namedBefore).map VehicleRow.toVehicle

/-- Whether a row of the vehicle at the instant is there. -/
def isRecorded (t : Tables) (vehicle : VehicleRef) (time : Instant) : Except Failure Bool := do
  return (← t.positionsOf vehicle).any fun r => decide (r.recordedAt = time.civil)

/-- The positions of a vehicle from one instant to another, oldest first. -/
def between (t : Tables) (vehicle : VehicleRef) (start stop : Instant) :
    Except Failure (List Position) := do
  let rows := (← t.positionsOf vehicle).filter fun r =>
    start.civil.isLE r.recordedAt && r.recordedAt.isLE stop.civil
  (rows.mergeSort fun a b => a.recordedAt.isLE b.recordedAt).mapM PositionRow.toPosition

/-- The latest position of a vehicle. -/
def last? (t : Tables) (vehicle : VehicleRef) : Except Failure (Option Position) := do
  match (← t.positionsOf vehicle).mergeSort fun a b => b.recordedAt.isLE a.recordedAt with
  | [] => return none
  | r :: _ => return some (← r.toPosition)

end Tables

end FleetTracking
