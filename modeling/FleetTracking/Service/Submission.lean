import FleetTracking.Validation.Rule

/-!
# Submitting positions

Positions are validated and then stored, one alone or many as a batch. What a batch must have in
common rejects it as a whole; what is wrong with single items is left to the `BatchPolicy`.

An item of a batch that repeats the instant of an item accepted before it is refused as well, as
if that one were stored already.
-/

namespace FleetTracking

/-! ## Policies -/

/-- What becomes of a batch with items that fail. -/
inductive BatchPolicy
  /-- The whole batch is rejected, with every error. -/
  | strict
  /-- The failing items are passed over. -/
  | lenient
  deriving DecidableEq, Repr

namespace BatchPolicy

/-- The name of a policy. -/
def name : BatchPolicy → String
  | strict => "strict"
  | lenient => "lenient"

/-- The policy of a name. -/
def ofJson (v : Json) : Except Failure BatchPolicy :=
  match v with
  | .string "strict" => .ok strict
  | .string "lenient" => .ok lenient
  | v => .error (.unknownPolicy v)

end BatchPolicy

/-! ## Items of a batch -/

/-- The items of a batch that passed, and what was wrong with the others. -/
structure Screening where
  accepted : List Position
  violations : List Violation

namespace Service

variable {σ : Type} [FleetStore σ]

/-- What is wrong with an item, given the instants of the items accepted before it. -/
def itemViolations (v : Validator) (s : σ) (seen : List Instant) (p : Position) :
    Except Failure (List Violation) := do
  let verdict ← v.validate s p
  return verdict.reasons ++ (if seen.contains p.recordedAt then [.repeated p] else [])

/-- Checks the items of a batch one after another. -/
def screen (v : Validator) (s : σ) (seen : List Instant) :
    List Position → Except Failure Screening
  | [] => .ok ⟨[], []⟩
  | p :: rest => do
    let found ← itemViolations v s seen p
    if found.isEmpty then
      let others ← screen v s (p.recordedAt :: seen) rest
      return ⟨p :: others.accepted, others.violations⟩
    else
      let others ← screen v s seen rest
      return ⟨others.accepted, found ++ others.violations⟩

/-- The items that are to be stored. -/
def select (v : Validator) (policy : BatchPolicy) (s : σ) (positions : List Position) :
    Except Failure (List Position) := do
  match ← Validator.validateBatch s positions with
  | .refused reasons => .error (.ofViolations reasons)
  | .accepted =>
    let screening ← screen v s [] positions
    if policy = .strict ∧ screening.violations ≠ [] then
      .error (.ofViolations screening.violations)
    else return screening.accepted

/-! ## Writing -/

/-- Stages positions and saves them. -/
def store (s : σ) (positions : List Position) : Except Failure (List Position) × σ :=
  FleetStore.savePositions (FleetStore.stage s positions)

/-- The first of the positions that a save answered. -/
def firstSaved : Except Failure (List Position) → Except Failure Position
  | .ok (p :: _) => .ok p
  | .ok [] => .error .indexOutOfBounds
  | .error e => .error e

/-- Validates and stores one position, and answers what the save answered first. -/
def submit (v : Validator) (s : σ) (position : Option Position) : Except Failure Position × σ :=
  match position with
  | none => (.error (.nullInput "position"), s)
  | some p =>
    match v.validate s p with
    | .error e => (.error e, s)
    | .ok (.refused reasons) => (.error (.ofViolations reasons), s)
    | .ok .accepted =>
      let (saved, s) := store s [p]
      (firstSaved saved, s)

/-- Validates and stores a batch, and answers the stored positions. -/
def submitBatch (v : Validator) (policy : BatchPolicy) (s : σ)
    (positions : Option (List Position)) : Except Failure (List Position) × σ :=
  match positions with
  | none => (.error (.nullInput "positions"), s)
  | some positions =>
    match select v policy s positions with
    | .error e => (.error e, s)
    | .ok [] => (.ok [], s)
    | .ok accepted => store s accepted

end Service

end FleetTracking
