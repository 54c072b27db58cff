import FleetTracking.Feed.Client

/-!
# Generated traffic

A run of the generator asks the service for its vehicles, lets each of them walk on from its last
position, and hands in every walk as one batch. A vehicle for which that does not work counts as a
failure, and the run goes on with the next one.
-/

namespace FleetTracking.Feed

/-- What a generator works with. -/
structure Generator where
  client : Client
  simulator : Simulator
  /-- How many positions each vehicle gets in a run; a negative number counts as zero. -/
  count : Int
  /-- The greatest length of a step in meters. -/
  radius : Float

/-- The account of a run. -/
structure Totals where
  processed : Nat
  submitted : Nat
  failed : Nat
  deriving DecidableEq, Repr

namespace Totals

/-- The account before the first vehicle. -/
def zero : Totals := ⟨0, 0, 0⟩

/-- Adds a vehicle: the positions that were taken, or nothing for a failure. -/
def add (t : Totals) : Option Nat → Totals
  | some count => { t with processed := t.processed + 1, submitted := t.submitted + count }
  | none => { t with failed := t.failed + 1 }

end Totals

namespace Generator

variable {ρ ν : Type} [RandomSource ρ] [Network ν]

/-- A coordinate of a record, which must be a number. -/
def coordinate : Json → Except Failure Float
  | .int n => .ok (Decimal.ofInt n)
  | .float x => .ok x
  | .bool b => .ok (if b then 1.0 else 0.0)
  | _ => .error .wrongType

/-- Where a vehicle walks on: at its last position, or at the center of the box. -/
def startOf (g : Generator) (now : Instant) (v : TrackedVehicle) : Except Failure Start :=
  match v.lastPosition with
  | none => do return (← g.simulator.defaultStart now).toStart
  | some last =>
    let place := do return ⟨← coordinate last.latitude, ← coordinate last.longitude⟩
    .ok ⟨place, last.recordedAt⟩

/-- The walk of a vehicle. -/
def walkOf (g : Generator) (rng : ρ) (now : Instant) (v : TrackedVehicle) :
    Except Failure (List Report) × ρ :=
  match g.startOf now v with
  | .error e => (.error e, rng)
  | .ok start =>
    (g.simulator.path rng now start g.count g.radius).map (·.map (·.map reportOf)) id

/-- How many positions of a batch were taken: all of them, or nothing if that failed. -/
def taken (reports : List Report) : Except Failure Bool → Option Nat
  | .ok true => some reports.length
  | _ => none

/-- Serves one vehicle. -/
def serve (g : Generator) (rng : ρ) (net : ν) (now : Instant) (v : TrackedVehicle) :
    Option Nat × ρ × ν :=
  match g.walkOf rng now v with
  | (.error _, rng) => (none, rng, net)
  | (.ok reports, rng) =>
    let (result, net) := g.client.submit net v.vehicle.id reports
    (taken reports result, rng, net)

/-- Serves vehicles one after another. -/
def serveAll (g : Generator) (now : Instant) (totals : Totals) (rng : ρ) (net : ν) :
    List TrackedVehicle → Totals × ρ × ν
  | [] => (totals, rng, net)
  | v :: rest =>
    let (outcome, rng, net) := g.serve rng net now v
    g.serveAll now (totals.add outcome) rng net rest

/-- One run. It fails only if the vehicles cannot be asked for. -/
def run (g : Generator) (rng : ρ) (net : ν) (now : Instant) : Except Failure Totals × ρ × ν :=
  match g.client.vehicles net with
  | (.error e, net) => (.error e, rng, net)
  | (.ok vehicles, net) =>
    let (totals, rng, net) := g.serveAll now .zero rng net vehicles
    (.ok totals, rng, net)

end Generator

end FleetTracking.Feed
