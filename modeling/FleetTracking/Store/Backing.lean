import FleetTracking.Store.Memory
import FleetTracking.Store.Session

/-!
# The backing of a running service

A service has both a memory and a connection to tables, and works with one of them.
-/

namespace FleetTracking

/-- Both stores of a service, and which of them it works with. -/
structure Backing where
  usesTables : Bool
  memory : Memory
  connection : Connection

namespace Backing

/-- Two stores with nothing in them. -/
def empty (usesTables : Bool) : Backing := ⟨usesTables, .empty, .empty⟩

/-- Puts the outcome of a write back in its place. -/
def write (b : Backing) (onMemory : Memory → α × Memory)
    (onConnection : Connection → α × Connection) : α × Backing :=
  if b.usesTables then (onConnection b.connection).map id fun c => { b with connection := c }
  else (onMemory b.memory).map id fun m => { b with memory := m }

/-- Asks the store that is at work. -/
def ask (b : Backing) (ofMemory : Memory → α) (ofConnection : Connection → α) : α :=
  if b.usesTables then ofConnection b.connection else ofMemory b.memory

/-- Replaces the tables. -/
def withTables (b : Backing) (tables : Tables) : Backing :=
  { b with connection := { b.connection with tables } }

end Backing

open FleetStore in
instance : FleetStore Backing where
  vehicle? b vehicle := b.ask (vehicle? · vehicle) (vehicle? · vehicle)
  vehicles b := b.ask vehicles vehicles
  isRecorded b vehicle t := b.ask (isRecorded · vehicle t) (isRecorded · vehicle t)
  between b vehicle start stop :=
    b.ask (between · vehicle start stop) (between · vehicle start stop)
  last? b vehicle := b.ask (last? · vehicle) (last? · vehicle)
  stage b positions :=
    if b.usesTables then { b with connection := stage b.connection positions }
    else { b with memory := stage b.memory positions }
  savePositions b := b.write savePositions savePositions
  addVehicle b v := b.write (addVehicle · v) (addVehicle · v)
  saveVehicles b := b.write saveVehicles saveVehicles
  setActive b vehicle active :=
    b.write (setActive · vehicle active) (setActive · vehicle active)
  reopen b :=
    if b.usesTables then { b with connection := reopen b.connection }
    else { b with memory := reopen b.memory }

end FleetTracking
