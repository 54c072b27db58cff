import FleetTracking.Store.Basic
import FleetTracking.Validation.Violation

/-!
# Rules and the validator

A rule checks one thing about a position and reports only its own violation. The validator runs
its rules in order, all of them, so that a caller learns everything that is wrong at once.
-/

namespace FleetTracking

/-- What a position is checked for. -/
inductive Rule
  /-- The vehicle is known. -/
  | exists
  /-- The vehicle, if it is known, takes reports. -/
  | active
  /-- The place is in the box. -/
  | bounds
  /-- No stored position has the same vehicle and instant. -/
  | duplicate
  deriving DecidableEq, Repr

/-- An ordered list of rules, and the box of the third one. -/
structure Validator where
  rules : List Rule
  box : Box

namespace Validator

/-- All rules in reporting order. -/
def canonical (box : Box) : Validator := ⟨[.exists, .active, .bounds, .duplicate], box⟩

variable {σ : Type} [FleetStore σ]

/-- Checks one rule. -/
def check (box : Box) (s : σ) (p : Position) : Rule → Except Failure (Verdict Violation)
  | .exists => do
    match ← FleetStore.vehicle? s p.vehicle with
    | none => return .refused [.vehicleMissing p.vehicle]
    | some _ => return .accepted
  | .active => do
    match ← FleetStore.vehicle? s p.vehicle with
    | none => return .accepted
    | some v => return if v.isActive then .accepted else .refused [.vehicleInactive v.name]
  | .bounds =>
    .ok <| if box.contains p.coordinates.toPoint then .accepted
      else .refused [.outsideBox p.coordinates.toPoint]
  | .duplicate => do
    return if ← FleetStore.isRecorded s p.vehicle p.recordedAt then .refused [.repeated p]
      else .accepted

/-- The violations of all rules of a list, in its order. -/
def violations (box : Box) (s : σ) (p : Position) : List Rule → Except Failure (List Violation)
  | [] => .ok []
  | rule :: rules => do
    let verdict ← check box s p rule
    let others ← violations box s p rules
    return verdict.reasons ++ others

/-- Checks a position against all rules. -/
def validate (v : Validator) (s : σ) (p : Position) : Except Failure (Verdict Violation) := do
  return .ofReasons (← violations v.box s p v.rules)

/-- Checks what the positions of a batch must have in common: they belong to one vehicle, which
is known and takes reports. -/
def validateBatch (s : σ) : List Position → Except Failure (Verdict Violation)
  | [] => .ok (.refused [.emptyBatch])
  | p :: rest =>
    if rest.any fun q => q.vehicle != p.vehicle then .ok (.refused [.mixedVehicles])
    else do
      match ← FleetStore.vehicle? s p.vehicle with
      | none => return .refused [.vehicleMissing p.vehicle]
      | some v => return if v.isActive then .accepted else .refused [.vehicleInactive v.name]

end Validator

end FleetTracking
