import FleetTracking.Proofs.Service.Submission

/-!
# What a rejection tells

All rules are run, so a rejection lists what any of them found (`mem_violations_iff`). In particular
it tells of a repeated position just if its key is recorded, whatever else is wrong with it
(`repeated_message_mem_iff`).

Callers see the texts of violations. That of a repeated position begins like no other text of a
rule, so it can be told by its text.
-/

namespace FleetTracking.Service

variable {σ : Type} [FleetStore σ] {box : Box} {s : σ} {p : Position} {rules : List Rule}

/-! ## The violations of all rules -/

theorem mem_violations_iff {vs : List Violation}
    (h : Validator.violations box s p rules = .ok vs) {x : Violation} :
    x ∈ vs ↔ ∃ rule ∈ rules, ∃ verdict, Validator.check box s p rule = .ok verdict ∧
      x ∈ verdict.reasons := by
  induction rules generalizing vs with
  | nil =>
    cases h
    simp
  | cons rule rest ih =>
    obtain ⟨verdict, hverdict, h⟩ := bind_eq_ok.mp h
    obtain ⟨others, hothers, h⟩ := bind_eq_ok.mp h
    cases h
    rw [List.mem_append, ih hothers]
    constructor
    · rintro (hx | ⟨rule', hrule', hfound⟩)
      · exact ⟨rule, List.mem_cons_self, verdict, hverdict, hx⟩
      · exact ⟨rule', List.mem_cons_of_mem _ hrule', hfound⟩
    · rintro ⟨rule', hrule', verdict', hverdict', hx⟩
      rcases List.mem_cons.mp hrule' with rfl | hrule'
      · rw [hverdict] at hverdict'
        cases hverdict'
        exact .inl hx
      · exact .inr ⟨rule', hrule', verdict', hverdict', hx⟩

/-- All rules have come to a verdict, and what each of them found is among the violations. -/
theorem check_of_violations {vs : List Violation}
    (h : Validator.violations box s p rules = .ok vs) :
    ∀ rule ∈ rules, ∃ verdict, Validator.check box s p rule = .ok verdict ∧
      ∀ x ∈ verdict.reasons, x ∈ vs := by
  induction rules generalizing vs with
  | nil => exact List.forall_mem_nil _
  | cons rule rest ih =>
    obtain ⟨verdict, hverdict, h⟩ := bind_eq_ok.mp h
    obtain ⟨others, hothers, h⟩ := bind_eq_ok.mp h
    cases h
    refine List.forall_mem_cons.mpr ⟨⟨verdict, hverdict, ?_⟩, ?_⟩
    · exact fun x hx => List.mem_append_left _ hx
    · intro rule' hrule'
      obtain ⟨verdict', hverdict', hfound⟩ := ih hothers rule' hrule'
      exact ⟨verdict', hverdict', fun x hx => List.mem_append_right _ (hfound x hx)⟩

/-- Rules come to a verdict where the store can be asked about the vehicle. -/
theorem exists_check (box : Box) {found : Option Vehicle} {isTaken : Bool}
    (hvehicle : FleetStore.vehicle? s p.vehicle = .ok found)
    (hrecorded : FleetStore.isRecorded s p.vehicle p.recordedAt = .ok isTaken) (rule : Rule) :
    ∃ verdict, Validator.check box s p rule = .ok verdict := by
  unfold Validator.check
  rw [hvehicle, hrecorded]
  cases rule with
  | bounds | duplicate => exact ⟨_, rfl⟩
  | «exists» | active => cases found <;> exact ⟨_, rfl⟩

theorem exists_violations (box : Box) {found : Option Vehicle} {isTaken : Bool}
    (hvehicle : FleetStore.vehicle? s p.vehicle = .ok found)
    (hrecorded : FleetStore.isRecorded s p.vehicle p.recordedAt = .ok isTaken)
    (rules : List Rule) : ∃ vs, Validator.violations box s p rules = .ok vs := by
  induction rules with
  | nil => exact ⟨[], rfl⟩
  | cons rule rest ih =>
    obtain ⟨verdict, hverdict⟩ := exists_check box hvehicle hrecorded rule
    obtain ⟨others, hothers⟩ := ih
    exact ⟨_, bind_eq_ok.mpr ⟨verdict, hverdict, bind_eq_ok.mpr ⟨others, hothers, rfl⟩⟩⟩

/-! ## Repeated positions -/

/-- The texts of other violations are not that of a repeated position. -/
theorem message_ne_repeated (u : VehicleRef) (name : String) (place : Point) (p : Position) :
    (Violation.vehicleMissing u).message ≠ (Violation.repeated p).message ∧
      (Violation.vehicleInactive name).message ≠ (Violation.repeated p).message ∧
      (Violation.outsideBox place).message ≠ (Violation.repeated p).message := by
  -- their first letters differ
  refine ⟨fun h => ?_, fun h => ?_, fun h => ?_⟩ <;>
  · have hhead := congrArg (fun text => text.toList.head?) h
    unfold Violation.message Violation.repeated at hhead
    simp [String.toList_append] at hhead

/-- Only the look for repeats finds a repeated position, where its key is recorded. -/
theorem isRecorded_of_check {rule : Rule} {verdict : Verdict Violation}
    (h : Validator.check box s p rule = .ok verdict) {x : Violation} (hx : x ∈ verdict.reasons)
    (hmessage : x.message = (Violation.repeated p).message) :
    FleetStore.isRecorded s p.vehicle p.recordedAt = .ok true := by
  unfold Validator.check at h
  cases rule with
  | bounds =>
    dsimp only at h
    split at h
    · cases h
      nomatch hx
    · cases h
      rw [List.mem_singleton.mp hx] at hmessage
      exact absurd hmessage (message_ne_repeated none "" _ p).2.2
  | duplicate =>
    obtain ⟨isTaken, hrecorded, h⟩ := bind_eq_ok.mp h
    cases isTaken with
    | true => exact hrecorded
    | false =>
      cases h
      nomatch hx
  | «exists» =>
    obtain ⟨found, _, h⟩ := bind_eq_ok.mp h
    cases found with
    | some w =>
      cases h
      nomatch hx
    | none =>
      cases h
      rw [List.mem_singleton.mp hx] at hmessage
      exact absurd hmessage (message_ne_repeated _ "" default p).1
  | active =>
    obtain ⟨found, _, h⟩ := bind_eq_ok.mp h
    cases found with
    | none =>
      cases h
      nomatch hx
    | some w =>
      change Except.ok (if w.isActive then _ else _) = _ at h
      split at h
      · cases h
        nomatch hx
      · cases h
        rw [List.mem_singleton.mp hx] at hmessage
        exact absurd hmessage (message_ne_repeated none _ default p).2.1

/-- Callers are told that a position is repeated just if its key is recorded. -/
theorem repeated_message_mem_iff {vs : List Violation}
    (h : Validator.violations box s p rules = .ok vs) (hrule : Rule.duplicate ∈ rules) :
    (Violation.repeated p).message ∈ vs.map Violation.message ↔
      FleetStore.isRecorded s p.vehicle p.recordedAt = .ok true := by
  constructor
  · intro hmem
    obtain ⟨x, hx, hmessage⟩ := List.mem_map.mp hmem
    obtain ⟨rule, _, verdict, hverdict, hx⟩ := (mem_violations_iff h).mp hx
    exact isRecorded_of_check hverdict hx hmessage
  · intro hrecorded
    refine List.mem_map_of_mem ((mem_violations_iff h).mpr ⟨.duplicate, hrule, ?_⟩)
    refine ⟨.refused [.repeated p], ?_, List.mem_singleton_self _⟩
    unfold Validator.check
    rw [hrecorded]
    rfl

/-! ## Submissions -/

theorem submit_of_violations {v : Validator} {vs : List Violation}
    (h : Validator.violations v.box s p v.rules = .ok vs) :
    submit v s (some p) =
      if vs = [] then (store s [p]).map firstSaved id else (.error (.ofViolations vs), s) := by
  have hvalidate : v.validate s p = .ok (.ofReasons vs) := bind_eq_ok.mpr ⟨vs, h, rfl⟩
  unfold submit
  dsimp only
  rw [hvalidate]
  cases vs with
  | nil => rfl
  | cons x rest => rfl

/-- A position whose key is recorded is rejected, and told so, whatever else is wrong with it. -/
theorem submit_of_recorded {v : Validator} (hrule : Rule.duplicate ∈ v.rules)
    {found : Option Vehicle} (hvehicle : FleetStore.vehicle? s p.vehicle = .ok found)
    (hrecorded : FleetStore.isRecorded s p.vehicle p.recordedAt = .ok true) :
    ∃ r, submit v s (some p) = (.error (.rejected r), s) ∧
      (Violation.repeated p).message ∈ r.errors := by
  obtain ⟨vs, hvs⟩ := exists_violations v.box hvehicle hrecorded v.rules
  have hmem := (repeated_message_mem_iff hvs hrule).mpr hrecorded
  have hne : vs ≠ [] := by
    rintro rfl
    nomatch hmem
  refine ⟨.ofErrors (vs.map Violation.message), ?_, hmem⟩
  rw [submit_of_violations hvs, if_neg hne]
  rfl

/-- Where vehicles must be known, a position is rejected as repeated just if its key is recorded. -/
theorem rejected_as_repeated_iff [LawfulStore σ] (hs : LawfulStore.IsIdle s) {v : Validator}
    (hexists : Rule.exists ∈ v.rules) (hrule : Rule.duplicate ∈ v.rules) {found : Option Vehicle}
    (hvehicle : FleetStore.vehicle? s p.vehicle = .ok found) {isTaken : Bool}
    (hrecorded : FleetStore.isRecorded s p.vehicle p.recordedAt = .ok isTaken) :
    (∃ r, (submit v s (some p)).1 = .error (.rejected r) ∧
      (Violation.repeated p).message ∈ r.errors) ↔ isTaken = true := by
  constructor
  · rintro ⟨r, hrejected, hmem⟩
    obtain ⟨vs, hvs⟩ := exists_violations v.box hvehicle hrecorded v.rules
    rw [submit_of_violations hvs] at hrejected
    by_cases hvs' : vs = []
    · -- all rules passed, so the vehicle is known, the key is new, and the position is stored
      subst hvs'
      cases isTaken with
      | true => rfl
      | false =>
        cases found with
        | none =>
          have hmissing := (mem_violations_iff (x := .vehicleMissing p.vehicle) hvs).mpr
            ⟨.exists, hexists, .refused [.vehicleMissing p.vehicle], by
              unfold Validator.check
              rw [hvehicle]
              rfl, List.mem_singleton_self _⟩
          nomatch hmissing
        | some w =>
          obtain ⟨q, s', hstore⟩ := LawfulStore.store_one hs hvehicle hrecorded
          rw [if_pos rfl, hstore] at hrejected
          nomatch hrejected
    · rw [if_neg hvs'] at hrejected
      cases hrejected
      rw [(repeated_message_mem_iff hvs hrule).mp hmem] at hrecorded
      exact (Except.ok.inj hrecorded).symm
  · rintro rfl
    obtain ⟨r, hrejected, hmem⟩ := submit_of_recorded hrule hvehicle hrecorded
    exact ⟨r, by rw [hrejected], hmem⟩

end FleetTracking.Service
