import FleetTracking.Proofs.Service.Verdict
import FleetTracking.Proofs.Store.Agreement

/-!
# What the validator reports

What a rule asks of a position can be said of the vehicles and positions that are stored, without
asking the store (`Rule.Passes`). A rule that is broken tells one thing (`Rule.complaint`), and so
does the store's answer to it (`Backing.check_eq`).

The validator accepts a position because no rule has told anything, and not because every rule has
accepted it. Since a broken rule is never silent, that is the same. All rules are run, so what is
reported are the complaints of exactly the broken ones, in the order of the rules
(`Backing.Arises.reports`).
-/

namespace FleetTracking

/-! ## What the rules ask -/

namespace Rule

/-- Whether a position passes a rule where these vehicles and positions are stored. -/
def Passes (box : Box) (ws : List Vehicle) (ps : List Position) (p : Position) : Rule → Prop
  | .exists => ∃ w ∈ ws, some w.id = p.vehicle
  -- a vehicle that is not there is left to the rule above
  | .active => ∀ w ∈ ws, some w.id = p.vehicle → w.isActive = true
  | .bounds =>
    (box.minLatitude ≤ p.coordinates.latitude ∧ p.coordinates.latitude ≤ box.maxLatitude) ∧
      (box.minLongitude ≤ p.coordinates.longitude ∧ p.coordinates.longitude ≤ box.maxLongitude)
  | .duplicate => ∀ q ∈ ps, ¬(q.vehicle = p.vehicle ∧ q.recordedAt = p.recordedAt)

instance (box : Box) (ws : List Vehicle) (ps : List Position) (p : Position) (rule : Rule) :
    Decidable (rule.Passes box ws ps p) :=
  match rule with
  | .exists => inferInstanceAs (Decidable (∃ w ∈ ws, _))
  | .active => inferInstanceAs (Decidable (∀ w ∈ ws, _ → _))
  | .bounds => inferInstanceAs (Decidable ((_ ∧ _) ∧ _ ∧ _))
  | .duplicate => inferInstanceAs (Decidable (∀ q ∈ ps, ¬_))

/-- What a broken rule tells of a position. -/
def complaint (ws : List Vehicle) (p : Position) : Rule → Violation
  | .exists => .vehicleMissing p.vehicle
  | .active => .vehicleInactive (((Vehicle.lookup ws p.vehicle).map Vehicle.name).getD "")
  | .bounds => .outsideBox p.coordinates.toPoint
  | .duplicate => .repeated p

/-- A vehicle that is not there cannot be inactive. -/
theorem passes_exists_or_active (box : Box) (ws : List Vehicle) (ps : List Position)
    (p : Position) : Rule.exists.Passes box ws ps p ∨ Rule.active.Passes box ws ps p := by
  by_cases h : ∃ w ∈ ws, some w.id = p.vehicle
  · exact .inl h
  · refine .inr ?_
    intro w hw hid
    exact absurd ⟨w, hw, hid⟩ h

/-- The rules that are run by default are never all broken. -/
theorem length_broken_le (box : Box) (ws : List Vehicle) (ps : List Position) (p : Position) :
    ((Validator.canonical box).rules.filter fun rule => ¬rule.Passes box ws ps p).length ≤ 3 := by
  refine Nat.le_of_lt_succ ?_
  refine List.length_filter_lt_length_iff_exists.mpr ?_
  rcases passes_exists_or_active box ws ps p with h | h
  · exact ⟨.exists, by simp [Validator.canonical], by simpa using h⟩
  · exact ⟨.active, by simp [Validator.canonical], by simpa using h⟩

end Rule

theorem Verdict.ofReasons_eq_accepted {reasons : List ε} :
    ofReasons reasons = accepted ↔ reasons = [] := by
  cases reasons <;> simp [ofReasons]

/-! ## What the store says to them -/

/-- What is reported of a position where these vehicles and positions are stored.

* `check` — a rule alone accepts what passes it, and tells its one complaint otherwise
* `validate` — the complaints of the broken rules, in the order of the rules and once for each time
  that a rule is listed
* `accepted` — a position is accepted if it passes every rule, and only then
* `reordered` — the order of the rules decides on the order of what is told, and on nothing else
* `canonical` — the rules that are run by default never tell more than three things
* `named` — it is the vehicle of the position that is told to be inactive -/
structure Validator.Reports (v : Validator) (b : Backing) (ws : List Vehicle) (ps : List Position)
    (p : Position) : Prop where
  check : ∀ rule, Validator.check v.box b p rule =
    .ok (if rule.Passes v.box ws ps p then .accepted else .refused [rule.complaint ws p])
  validate : v.validate b p = .ok (.ofReasons
    ((v.rules.filter fun rule => ¬rule.Passes v.box ws ps p).map fun rule => rule.complaint ws p))
  accepted : v.validate b p = .ok .accepted ↔ ∀ rule ∈ v.rules, rule.Passes v.box ws ps p
  reordered : ∀ rules, rules.Perm v.rules → ∃ verdict verdict', v.validate b p = .ok verdict ∧
    Validator.validate ⟨rules, v.box⟩ b p = .ok verdict' ∧ verdict'.reasons.Perm verdict.reasons ∧
    verdict'.isAccepted = verdict.isAccepted
  canonical : ∃ verdict, (Validator.canonical v.box).validate b p = .ok verdict ∧
    verdict.reasons.length ≤ 3
  named : ∀ w ∈ ws, some w.id = p.vehicle → Rule.active.complaint ws p = .vehicleInactive w.name

namespace Backing

section Stored

variable {b : Backing} {ws : List Vehicle} {ps : List Position} (hws : b.storedVehicles = .ok ws)
  (hdistinct : (ws.map Vehicle.id).Nodup) (hps : b.Holds ps) {p : Position}
  (hserved : b.serves p.vehicle = true)

include hws hdistinct hps hserved

/-- A rule accepts what passes it, and tells its complaint otherwise. -/
theorem check_eq (box : Box) (rule : Rule) :
    Validator.check box b p rule =
      .ok (if rule.Passes box ws ps p then .accepted else .refused [rule.complaint ws p]) := by
  have hvehicle := vehicle?_eq_lookup hws hserved
  unfold Validator.check
  cases rule with
  | «exists» =>
    dsimp only
    rw [hvehicle]
    cases hfound : Vehicle.lookup ws p.vehicle with
    | none =>
      have hnone : ¬Rule.exists.Passes box ws ps p := by
        rintro ⟨w, hw, hid⟩
        rw [← hid, Vehicle.lookup_eq hdistinct hw] at hfound
        nomatch hfound
      rw [if_neg hnone]
      rfl
    | some w =>
      obtain ⟨hw, hid⟩ := Vehicle.mem_of_lookup hfound
      rw [if_pos (show Rule.exists.Passes box ws ps p from ⟨w, hw, hid⟩)]
      rfl
  | active =>
    dsimp only
    rw [hvehicle]
    cases hfound : Vehicle.lookup ws p.vehicle with
    | none =>
      have hpasses : Rule.active.Passes box ws ps p := by
        intro w hw hid
        rw [← hid, Vehicle.lookup_eq hdistinct hw] at hfound
        nomatch hfound
      rw [if_pos hpasses]
      rfl
    | some w =>
      obtain ⟨hw, hid⟩ := Vehicle.mem_of_lookup hfound
      have hpasses : Rule.active.Passes box ws ps p ↔ w.isActive = true := by
        constructor
        · exact fun h => h w hw hid
        · intro hactive w' hw' hid'
          rwa [eq_of_nodup_map hdistinct hw' hw (Option.some.inj (hid'.trans hid.symm))]
      show Except.ok (if w.isActive then _ else _) = _
      simp only [hpasses, Rule.complaint, hfound]
      rfl
  | bounds =>
    have hpasses : Rule.bounds.Passes box ws ps p ↔ box.contains p.coordinates.toPoint = true := by
      simp [Rule.Passes, Box.contains]
    simp only [hpasses]
    rfl
  | duplicate =>
    have hpasses : Rule.duplicate.Passes box ws ps p ↔
        ¬(p.vehicle, p.recordedAt) ∈ ps.map Position.key := by
      simp [Rule.Passes, Position.key, eq_comm]
    dsimp only
    rw [isRecorded_of_holds hps, if_pos hserved]
    simp only [hpasses, Rule.complaint]
    show Except.ok (if decide _ = true then _ else _) = _
    simp only [decide_eq_true_eq, ite_not]

/-- The violations of all rules are the complaints of the broken ones. -/
theorem violations_eq (box : Box) (rules : List Rule) :
    Validator.violations box b p rules =
      .ok ((rules.filter fun rule => ¬rule.Passes box ws ps p).map fun rule =>
        rule.complaint ws p) := by
  induction rules with
  | nil => rfl
  | cons rule rest ih =>
    unfold Validator.violations
    rw [check_eq hws hdistinct hps hserved, ih]
    by_cases hpasses : rule.Passes box ws ps p
    · simp [hpasses, bind, Except.bind, pure, Except.pure, Verdict.reasons]
    · simp [hpasses, bind, Except.bind, pure, Except.pure, Verdict.reasons]

theorem validate_eq (v : Validator) :
    v.validate b p = .ok (.ofReasons
      ((v.rules.filter fun rule => ¬rule.Passes v.box ws ps p).map fun rule =>
        rule.complaint ws p)) := by
  unfold Validator.validate
  rw [violations_eq hws hdistinct hps hserved]
  rfl

end Stored

/-- In a store that has arisen, the validator reports of a position what can be said of it by the
vehicles and positions that are stored. -/
theorem Arises.reports {b : Backing} (hb : b.Arises) {p : Position}
    (hfits : p.vehicle.fits = true) (v : Validator) :
    ∃ ws ps, b.storedVehicles = .ok ws ∧ b.storedPositions = .ok ps ∧ v.Reports b ws ps p := by
  obtain ⟨ws, hws, hdistinct, _⟩ := hb.isConsistent.exists_storedVehicles
  obtain ⟨ps, hps, _⟩ := hb.isConsistent.exists_holds
  have hserved := b.serves_of_fits hfits
  have hvalidate := validate_eq hws hdistinct hps hserved
  refine ⟨ws, ps, hws, storedPositions_of_holds hps, ?_⟩
  constructor
  case check => exact check_eq hws hdistinct hps hserved v.box
  case validate => exact hvalidate v
  case accepted =>
    rw [hvalidate, Except.ok.injEq, Verdict.ofReasons_eq_accepted, List.map_eq_nil_iff,
      List.filter_eq_nil_iff]
    simp
  case reordered =>
    intro rules hperm
    have hreasons := (hperm.filter fun rule => ¬rule.Passes v.box ws ps p).map
      fun rule => rule.complaint ws p
    refine ⟨_, _, hvalidate v, hvalidate ⟨rules, v.box⟩, ?_, ?_⟩
    · simpa using hreasons
    · rw [Verdict.isAccepted_ofReasons, Verdict.isAccepted_ofReasons, Bool.eq_iff_iff,
        List.isEmpty_iff_length_eq_zero, List.isEmpty_iff_length_eq_zero, hreasons.length_eq]
  case canonical =>
    refine ⟨_, hvalidate _, ?_⟩
    rw [Verdict.reasons_ofReasons, List.length_map]
    exact Rule.length_broken_le v.box ws ps p
  case named =>
    intro w hw hid
    simp [Rule.complaint, ← hid, Vehicle.lookup_eq hdistinct hw]

/-- A box far from Athens. -/
def equatorialBox : Box := ⟨0.0, 1.0, 0.0, 1.0⟩

/-- What the second vehicle of a watched store has reported before. -/
def busReport : Position := ⟨some 2, athensCenter, default, none⟩

/-- A rule that is listed twice tells its complaint twice, and one that is passed tells nothing. -/
theorem reports_watched :
    (watched true).Arises ∧ busReport.vehicle.fits = true ∧
    Validator.validate ⟨[.duplicate, .active, .bounds, .duplicate], equatorialBox⟩ (watched true)
      busReport = .ok (.refused
        [.repeated busReport, .outsideBox athensCenter.toPoint, .repeated busReport]) ∧
    ∃ ws ps, (watched true).storedVehicles = .ok ws ∧ (watched true).storedPositions = .ok ps ∧
      Validator.Reports ⟨[.duplicate, .active, .bounds, .duplicate], equatorialBox⟩ (watched true)
        ws ps busReport := by
  have hfits : busReport.vehicle.fits = true := by decide
  exact ⟨arises_watched true, hfits, by rfl, (arises_watched true).reports hfits _⟩

end Backing

end FleetTracking
