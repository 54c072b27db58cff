import FleetTracking.Proofs.Validation.Report
import Mathlib.Data.List.Induction

/-!
# Batches and the rules for their items

What the positions of a batch must have in common is checked once, before any of them is looked at
alone. Two of the rules for single positions ask for the same, and they say the same: where
positions of one vehicle are refused as a batch, those rules refuse each of them, for the same
reason (`Validator.validateBatch_eq_checkVehicle`).

So nothing about the vehicle is left to be told of the items of a batch that is accepted. An item
may be outside the box, and it may be repeated. It is told only once that it is repeated, since an
instant that is recorded is never seen in the batch (`Service.exists_screen`). The items of a
batch are followed by cutting it behind each of them (`Service.screen_concat`).
-/

namespace FleetTracking

/-! ## The rules about the vehicle -/

namespace Validator

variable {σ : Type} [FleetStore σ]

/-- What the rules about the vehicle of a position say, the first one alone if it refuses it. -/
def checkVehicle (box : Box) (s : σ) (p : Position) : Except Failure (Verdict Violation) := do
  match ← check box s p .exists with
  | .refused reasons => return .refused reasons
  | .accepted => check box s p .active

variable {box : Box} {s : σ} {p : Position} {ps : List Position}

/-- Positions of one vehicle are checked as a batch like any of them alone. -/
theorem validateBatch_eq_checkVehicle (hp : p ∈ ps) (hone : ∀ q ∈ ps, q.vehicle = p.vehicle) :
    validateBatch s ps = checkVehicle box s p := by
  cases ps with
  | nil => nomatch hp
  | cons first rest =>
    obtain ⟨hfirst, hrest⟩ := List.forall_mem_cons.mp hone
    have hmixed : (rest.any fun q => q.vehicle != first.vehicle) = false := by
      rw [List.any_eq_false]
      intro q hq
      simp [hrest q hq, hfirst]
    unfold validateBatch checkVehicle check
    dsimp only
    rw [hmixed, hfirst]
    cases hvehicle : FleetStore.vehicle? s p.vehicle with
    | error e => rfl
    | ok found => cases found <;> rfl

theorem checkVehicle_eq_accepted : checkVehicle box s p = .ok .accepted ↔
    check box s p .exists = .ok .accepted ∧ check box s p .active = .ok .accepted := by
  unfold checkVehicle
  cases check box s p .exists with
  | error e => simp [bind, Except.bind]
  | ok verdict => cases verdict <;> simp [bind, Except.bind, pure, Except.pure]

/-- What refuses a position for its vehicle has one reason. -/
theorem checkVehicle_eq_refused {reasons : List Violation}
    (h : checkVehicle box s p = .ok (.refused reasons)) :
    ∃ x, reasons = [x] ∧ (check box s p .exists = .ok (.refused [x]) ∨
      check box s p .exists = .ok .accepted ∧ check box s p .active = .ok (.refused [x])) := by
  unfold checkVehicle check at h
  unfold check
  cases hvehicle : FleetStore.vehicle? s p.vehicle with
  | error e =>
    rw [hvehicle] at h
    nomatch h
  | ok found =>
    rw [hvehicle] at h
    cases found with
    | none =>
      cases h
      exact ⟨_, rfl, .inl rfl⟩
    | some w =>
      change Except.ok (if w.isActive then _ else _) = _ at h
      refine ⟨.vehicleInactive w.name, ?_, .inr ⟨rfl, ?_⟩⟩
      · split at h <;> cases h
        rfl
      · show Except.ok (if w.isActive then _ else _) = _
        split at h <;> cases h
        rename_i hactive
        rw [if_neg hactive]

/-- The check of a batch comes to a verdict where the store can be asked about its vehicles. -/
theorem exists_validateBatch
    (h : ∀ q ∈ ps, ∃ found, FleetStore.vehicle? s q.vehicle = .ok found) :
    ∃ verdict, validateBatch s ps = .ok verdict := by
  cases ps with
  | nil => exact ⟨_, rfl⟩
  | cons first rest =>
    obtain ⟨found, hfound⟩ := h first List.mem_cons_self
    unfold validateBatch
    dsimp only
    split
    · exact ⟨_, rfl⟩
    · rw [hfound]
      cases found <;> exact ⟨_, rfl⟩

end Validator

/-! ## The items of a batch -/

/-- The texts about the vehicle are not those about the place or the instant. -/
theorem Violation.message_ne_of_vehicle (place : Point) (p : Position) (u : VehicleRef)
    (name : String) :
    (outsideBox place).message ≠ (vehicleMissing u).message ∧
      (outsideBox place).message ≠ (vehicleInactive name).message ∧
      (repeated p).message ≠ (vehicleMissing u).message ∧
      (repeated p).message ≠ (vehicleInactive name).message := by
  obtain ⟨hmissing, hinactive, -⟩ := Service.message_ne_repeated u name place p
  refine ⟨fun h => ?_, fun h => ?_, hmissing.symm, hinactive.symm⟩ <;>
  · have hhead := congrArg (fun text => text.toList.head?) h
    unfold message at hhead
    simp [String.toList_append] at hhead

namespace Service

variable {σ : Type} [FleetStore σ] {s : σ}

/-- The last item of a batch is checked given the instants of the items that are accepted before
it. -/
theorem screen_concat {v : Validator} {seen : List Instant} {ps : List Position}
    {early : Screening} {p : Position} {found : List Violation}
    (hearly : screen v s seen ps = .ok early)
    (hfound : itemViolations v s ((early.accepted.map Position.recordedAt).reverse ++ seen) p =
      .ok found) :
    screen v s seen (ps ++ [p]) =
      .ok ⟨early.accepted ++ (if found.isEmpty then [p] else []), early.violations ++ found⟩ := by
  induction ps generalizing seen early with
  | nil =>
    cases hearly
    have hfound : itemViolations v s seen p = .ok found := hfound
    rw [List.nil_append]
    unfold screen
    rw [hfound]
    cases found with
    | nil => rfl
    | cons x more =>
      show Except.ok (Screening.mk [] (x :: more ++ [])) = _
      rw [List.append_nil]
      rfl
  | cons q rest ih =>
    obtain ⟨told, htold, hearly⟩ := bind_eq_ok.mp hearly
    rw [List.cons_append]
    unfold screen
    rw [htold]
    show (if told.isEmpty then _ else _) = _
    split at hearly
    · rename_i hnone
      obtain ⟨others, hothers, hearly⟩ := bind_eq_ok.mp hearly
      cases hearly
      have hrest := ih hothers (by simpa using hfound)
      rw [if_pos hnone, hrest]
      rfl
    · rename_i hsome
      obtain ⟨others, hothers, hearly⟩ := bind_eq_ok.mp hearly
      cases hearly
      rw [if_neg hsome, ih hothers hfound]
      show Except.ok (Screening.mk _ (told ++ (others.violations ++ found))) = _
      rw [← List.append_assoc]

theorem itemReasons_sublist (box : Box) (p : Position) (isTaken : Bool) :
    (itemReasons box p isTaken).Sublist [.outsideBox p.coordinates.toPoint, .repeated p] := by
  unfold itemReasons
  split <;> cases isTaken <;> simp

section Active

variable {box : Box} {u : VehicleRef} {w : Vehicle} {recorded : Instant → Bool}
  (hvehicle : FleetStore.vehicle? s u = .ok (some w)) (hactive : w.isActive = true)
  (hrecorded : ∀ t, FleetStore.isRecorded s u t = .ok (recorded t))

include hvehicle hactive hrecorded

/-- An item of an active vehicle adds to what is told of those before it that it is outside the box,
that it is repeated, both or nothing. If nothing, its instant was not recorded before the batch. -/
theorem screen_next {before : List Position} {early : Screening}
    (hearly : screen (.canonical box) s [] before = .ok early)
    (haccepted : ∀ q ∈ early.accepted, recorded q.recordedAt = false) {p : Position}
    (hp : p.vehicle = u) :
    ∃ found, screen (.canonical box) s [] (before ++ [p]) =
        .ok ⟨early.accepted ++ (if found.isEmpty then [p] else []), early.violations ++ found⟩ ∧
      found.Sublist [.outsideBox p.coordinates.toPoint, .repeated p] ∧
      (found = [] → recorded p.recordedAt = false) := by
  let seen := (early.accepted.map Position.recordedAt).reverse ++ []
  let isTaken := recorded p.recordedAt || seen.contains p.recordedAt
  have hseen : p.recordedAt ∈ seen → recorded p.recordedAt = false := by
    intro hmem
    obtain ⟨q, hq, hsame⟩ : ∃ q ∈ early.accepted, q.recordedAt = p.recordedAt := by
      simpa [seen] using hmem
    exact hsame ▸ haccepted q hq
  have hfound : itemViolations (.canonical box) s seen p = .ok (itemReasons box p isTaken) :=
    itemViolations_canonical box (hp ▸ hvehicle) hactive (hp ▸ hrecorded p.recordedAt) hseen
  refine ⟨_, screen_concat hearly hfound, itemReasons_sublist box p isTaken, ?_⟩
  intro hnone
  cases htaken : isTaken with
  | false => exact (Bool.or_eq_false_iff.mp htaken).1
  | true =>
    rw [htaken] at hnone
    exact absurd hnone (itemReasons_true_ne_nil box p)

/-- The items of a batch of an active vehicle come to a screening. What it accepts was not recorded
before, and what it tells is that items are outside the box or repeated. -/
theorem exists_screen {ps : List Position} (hps : ∀ p ∈ ps, p.vehicle = u) :
    ∃ screening, screen (.canonical box) s [] ps = .ok screening ∧
      (∀ q ∈ screening.accepted, recorded q.recordedAt = false) ∧
      ∀ x ∈ screening.violations, ∃ p ∈ ps, x = .outsideBox p.coordinates.toPoint ∨
        x = .repeated p := by
  -- on the last item: what is seen when it is checked are the instants of those accepted before
  induction ps using List.reverseRecOn with
  | nil => exact ⟨⟨[], []⟩, rfl, by simp, by simp⟩
  | append_singleton before p ih =>
    obtain ⟨hbefore, hp⟩ := List.forall_mem_append.mp hps
    obtain ⟨early, hearly, haccepted, htold⟩ := ih hbefore
    obtain ⟨found, hscreen, hsublist, hnew⟩ :=
      screen_next hvehicle hactive hrecorded hearly haccepted (hp p (List.mem_singleton_self p))
    refine ⟨_, hscreen, ?_, ?_⟩
    · intro q hq
      rcases List.mem_append.mp hq with hq | hq
      · exact haccepted q hq
      · by_cases hnone : found = []
        · obtain rfl : q = p := by simpa [hnone] using hq
          exact hnew hnone
        · simp [hnone] at hq
    · intro x hx
      rcases List.mem_append.mp hx with hx | hx
      · obtain ⟨q, hq, hxq⟩ := htold x hx
        exact ⟨q, List.mem_append_left _ hq, hxq⟩
      · have hxp := hsublist.subset hx
        exact ⟨p, by simp, by simpa using hxp⟩

end Active

end Service

/-! ## The verdicts on a batch and on its items -/

namespace Backing

open Validator Service

/-- A batch comes to a verdict that agrees with what is said of its items.

* `accepted` — a batch is accepted if it has positions, all of one vehicle, and every one of them
  passes the rules about its vehicle
* `refused` — positions of one vehicle are refused as a batch for the one reason for which each of
  them is refused by the first rule about its vehicle that it does not pass
* `items` — in a batch that is accepted, each item adds to what is told of those before it no more
  than that it is outside the box and that it is repeated, each at most once
* `told` — so what is told of all items has no text about their vehicle, and this is all that a
  strict batch is rejected with -/
structure AgreesOnBatch (b : Backing) (box : Box) (ps : List Position)
    (verdict : Verdict Violation) : Prop where
  accepted : verdict = .accepted ↔ ps ≠ [] ∧ (∀ p ∈ ps, ∀ q ∈ ps, q.vehicle = p.vehicle) ∧
    ∀ p ∈ ps, check box b p .exists = .ok .accepted ∧ check box b p .active = .ok .accepted
  refused : ps ≠ [] → (∀ p ∈ ps, ∀ q ∈ ps, q.vehicle = p.vehicle) → verdict ≠ .accepted →
    ∃ x, verdict = .refused [x] ∧ ∀ p ∈ ps, check box b p .exists = .ok (.refused [x]) ∨
      check box b p .exists = .ok .accepted ∧ check box b p .active = .ok (.refused [x])
  items : verdict = .accepted → ∀ before p after, ps = before ++ p :: after → ∃ early found,
    screen (.canonical box) b [] before = .ok early ∧
    screen (.canonical box) b [] (before ++ [p]) =
      .ok ⟨early.accepted ++ (if found.isEmpty then [p] else []), early.violations ++ found⟩ ∧
    found.Sublist [.outsideBox p.coordinates.toPoint, .repeated p]
  told : verdict = .accepted → ∃ screening, screen (.canonical box) b [] ps = .ok screening ∧
    (∀ x ∈ screening.violations, ∀ u name, x.message ≠ (Violation.vehicleMissing u).message ∧
      x.message ≠ (Violation.vehicleInactive name).message) ∧
    (screening.violations ≠ [] → submitBatch (.canonical box) .strict b (some ps) =
      (.error (.ofViolations screening.violations), b))

/-- Whatever has arisen, batches are checked as their items are. -/
theorem Arises.agreesOnBatch {b : Backing} (hb : b.Arises) (box : Box) {ps : List Position}
    (hfits : ∀ p ∈ ps, p.vehicle.fits = true) :
    ∃ verdict, validateBatch b ps = .ok verdict ∧ b.AgreesOnBatch box ps verdict := by
  obtain ⟨ws, hws, _⟩ := hb.isConsistent.exists_storedVehicles
  obtain ⟨stored, hstored, _⟩ := hb.isConsistent.exists_holds
  obtain ⟨verdict, hverdict⟩ := exists_validateBatch fun p hp =>
    ⟨_, vehicle?_eq_lookup hws (b.serves_of_fits (hfits p hp))⟩
  have hrecorded {u : VehicleRef} (hu : u.fits = true) (t : Instant) :
      FleetStore.isRecorded b u t = .ok (decide ((u, t) ∈ stored.map Position.key)) := by
    rw [isRecorded_of_holds hstored, if_pos (b.serves_of_fits hu)]
  refine ⟨verdict, hverdict, ?_⟩
  constructor
  case accepted =>
    constructor
    · rintro rfl
      obtain ⟨first, rest, _, rfl, hone, _⟩ := validateBatch_accepted hverdict
      have hone' : ∀ p ∈ first :: rest, ∀ q ∈ first :: rest, q.vehicle = p.vehicle :=
        fun p hp q hq => (hone q hq).trans (hone p hp).symm
      refine ⟨List.cons_ne_nil _ _, hone', ?_⟩
      intro p hp
      rw [← checkVehicle_eq_accepted, ← validateBatch_eq_checkVehicle hp (hone' p hp), hverdict]
    · rintro ⟨hne, hone, hpasses⟩
      obtain ⟨p, hp⟩ := List.exists_mem_of_ne_nil ps hne
      rw [validateBatch_eq_checkVehicle hp (hone p hp),
        checkVehicle_eq_accepted.mpr (hpasses p hp)] at hverdict
      exact (Except.ok.inj hverdict).symm
  case refused =>
    intro hne hone hrefused
    have hcheck (p : Position) (hp : p ∈ ps) : checkVehicle box b p = .ok verdict := by
      rw [← validateBatch_eq_checkVehicle hp (hone p hp), hverdict]
    cases verdict with
    | accepted => exact absurd rfl hrefused
    | refused reasons =>
      obtain ⟨p, hp⟩ := List.exists_mem_of_ne_nil ps hne
      obtain ⟨x, rfl, _⟩ := checkVehicle_eq_refused (hcheck p hp)
      refine ⟨x, rfl, ?_⟩
      intro q hq
      obtain ⟨y, hy, hrule⟩ := checkVehicle_eq_refused (hcheck q hq)
      cases hy
      exact hrule
  case items =>
    rintro rfl before p after rfl
    obtain ⟨first, rest, w, hps, hone, hvehicle, hactive⟩ := validateBatch_accepted hverdict
    have hrecorded := hrecorded (hfits first (hps ▸ List.mem_cons_self))
    obtain ⟨hbefore, hp⟩ := List.forall_mem_append.mp hone
    obtain ⟨early, hearly, haccepted, _⟩ := exists_screen hvehicle hactive hrecorded hbefore
    obtain ⟨found, hscreen, hsublist, _⟩ := screen_next hvehicle hactive hrecorded hearly haccepted
      (hp p List.mem_cons_self)
    exact ⟨early, found, hearly, hscreen, hsublist⟩
  case told =>
    rintro rfl
    obtain ⟨first, rest, w, hps, hone, hvehicle, hactive⟩ := validateBatch_accepted hverdict
    have hrecorded := hrecorded (hfits first (hps ▸ List.mem_cons_self))
    obtain ⟨screening, hscreen, _, htold⟩ := exists_screen hvehicle hactive hrecorded hone
    refine ⟨screening, hscreen, ?_, ?_⟩
    · intro x hx u name
      obtain ⟨p, _, rfl | rfl⟩ := htold x hx
      · obtain ⟨hmissing, hinactive, _⟩ := Violation.message_ne_of_vehicle _ p u name
        exact ⟨hmissing, hinactive⟩
      · obtain ⟨_, _, hmissing, hinactive⟩ := Violation.message_ne_of_vehicle default p u name
        exact ⟨hmissing, hinactive⟩
    · intro htold
      unfold submitBatch
      dsimp only
      rw [select_of_screen hverdict hscreen, if_pos ⟨rfl, htold⟩]

/-- A batch with a new position, a repeat of it, and one that is recorded and outside the box. -/
def busBatch : List Position :=
  [⟨some 2, athensCenter, ⟨3000000, by decide⟩, none⟩,
    ⟨some 2, athensCenter, ⟨3000000, by decide⟩, none⟩, ⟨some 2, nullIsland, default, none⟩]

/-- The batch is accepted as a whole, and three things are told of its items. -/
theorem agreesOnBatch_busBatch :
    (watched true).Arises ∧ (∀ p ∈ busBatch, p.vehicle.fits = true) ∧
    validateBatch (watched true) busBatch = .ok .accepted ∧
    (∃ screening, screen (.canonical .athens) (watched true) [] busBatch = .ok screening ∧
      screening.violations.length = 3) ∧
    (watched true).AgreesOnBatch .athens busBatch .accepted := by
  have hfits : ∀ p ∈ busBatch, p.vehicle.fits = true := by decide
  have haccepted : validateBatch (watched true) busBatch = .ok .accepted := by rfl
  obtain ⟨verdict, hverdict, hagrees⟩ := (arises_watched true).agreesOnBatch .athens hfits
  rw [haccepted] at hverdict
  cases hverdict
  exact ⟨arises_watched true, hfits, haccepted, ⟨_, rfl, rfl⟩, hagrees⟩

end Backing

end FleetTracking
