import FleetTracking.Fleet.Position

/-!
# Fleet stores

A store keeps vehicles and positions. Writing has two steps: rows are staged, and saving stores
all staged rows or none. Questions leave the store as it is; whatever writes returns the next
store beside its outcome, also when it fails.
-/

namespace FleetTracking

/-- What services ask of a store. -/
class FleetStore (σ : Type) where
  /-- The vehicle with an identifier. -/
  vehicle? : σ → VehicleRef → Except Failure (Option Vehicle)
  /-- All vehicles in the order of their names. -/
  vehicles : σ → Except Failure (List Vehicle)
  /-- Whether a position of the vehicle at the instant is stored. -/
  isRecorded : σ → VehicleRef → Instant → Except Failure Bool
  /-- The stored positions of a vehicle from one instant to another, oldest first. -/
  between : σ → VehicleRef → Instant → Instant → Except Failure (List Position)
  /-- The latest stored position of a vehicle. -/
  last? : σ → VehicleRef → Except Failure (Option Position)
  /-- Stages positions. -/
  stage : σ → List Position → σ
  /-- Stores the staged positions, and answers them with their numbers. -/
  savePositions : σ → Except Failure (List Position) × σ
  /-- Stages a vehicle. -/
  addVehicle : σ → VehicleDraft → Except Failure Unit × σ
  /-- Stores the staged vehicles, and answers them with their identifiers. -/
  saveVehicles : σ → Except Failure (List Vehicle) × σ
  /-- Switches a vehicle on or off, and answers it. -/
  setActive : σ → VehicleRef → Bool → Except Failure Vehicle × σ
  /-- Ends the session in which rows were staged. -/
  reopen : σ → σ

namespace FleetStore

variable {σ : Type} [FleetStore σ]

/-- Whether a position of the vehicle at the time is stored, however the time is written. -/
def isRecordedAt (s : σ) (vehicle : VehicleRef) (time : Timestamp) : Except Failure Bool := do
  isRecorded s vehicle (← time.instant)

/-- The stored positions of a vehicle in a window of time, however its ends are written. -/
def window (s : σ) (vehicle : VehicleRef) (start stop : Timestamp) :
    Except Failure (List Position) := do
  between s vehicle (← start.instant) (← stop.instant)

end FleetStore

/-! ## Losing a race -/

/-- A store in which another writer always stores between the look for a repeated position and
the save: the look finds nothing. -/
structure Outrun (σ : Type) where
  store : σ

instance [FleetStore σ] : FleetStore (Outrun σ) where
  vehicle? s := FleetStore.vehicle? s.store
  vehicles s := FleetStore.vehicles s.store
  isRecorded _ _ _ := .ok false
  between s := FleetStore.between s.store
  last? s := FleetStore.last? s.store
  stage s positions := ⟨FleetStore.stage s.store positions⟩
  savePositions s := (FleetStore.savePositions s.store).map id Outrun.mk
  addVehicle s v := (FleetStore.addVehicle s.store v).map id Outrun.mk
  saveVehicles s := (FleetStore.saveVehicles s.store).map id Outrun.mk
  setActive s vehicle active := (FleetStore.setActive s.store vehicle active).map id Outrun.mk
  reopen s := ⟨FleetStore.reopen s.store⟩

end FleetTracking
