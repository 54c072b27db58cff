import FleetTracking.Proofs.Service.Submission

/-!
# Batches and single submissions

A batch is checked against the store as it was before the batch, and repeats within the batch are
found by a list of instants. Single submissions need no such list, because each of them sees what
the ones before it have stored. Both come to the same (`submitBatch_eq_submitEach`).

What ties them together is that an instant is recorded after some single submissions just if it was
recorded before all of them or is in the list of the batch (`Tied`). The list never holds an instant
that was recorded before, so a repeat is reported once.
-/

namespace FleetTracking.Service

variable {σ : Type} [FleetStore σ]

/-! ## Items alone -/

/-- What became of positions that were submitted one after another. -/
structure Passage where
  accepted : List Position
  /-- What the accepted positions were stored as. -/
  saved : List Position
  /-- How the others were rejected. -/
  rejections : List Rejection

/-- The errors of all rejections. -/
def Passage.errors (each : Passage) : List String := each.rejections.flatMap Rejection.errors

/-- Submits positions one after another. Rejected ones are passed over; what else fails ends it. -/
def submitEach (v : Validator) (s : σ) : List Position → Except Failure Passage × σ
  | [] => (.ok ⟨[], [], []⟩, s)
  | p :: rest =>
    match submit v s (some p) with
    | (.ok q, s) =>
      (submitEach v s rest).map (Except.map fun others =>
        ⟨p :: others.accepted, q :: others.saved, others.rejections⟩) id
    | (.error (.rejected r), s) =>
      (submitEach v s rest).map (Except.map fun others =>
        ⟨others.accepted, others.saved, r :: others.rejections⟩) id
    | (.error e, s) => (.error e, s)

/-! ## What is wrong with a position of an active vehicle -/

/-- The violations of a position by its place, and by whether its key is taken. -/
def itemReasons (box : Box) (p : Position) (isTaken : Bool) : List Violation :=
  (if box.contains p.coordinates.toPoint then [] else [.outsideBox p.coordinates.toPoint]) ++
    (if isTaken then [.repeated p] else [])

theorem itemReasons_true_ne_nil (box : Box) (p : Position) : itemReasons box p true ≠ [] := by
  simp [itemReasons]

section Active

variable (box : Box) {s : σ} {p : Position} {w : Vehicle}
  (hvehicle : FleetStore.vehicle? s p.vehicle = .ok (some w)) (hactive : w.isActive = true)

include hvehicle hactive

theorem validate_canonical :
    (Validator.canonical box).validate s p =
      (FleetStore.isRecorded s p.vehicle p.recordedAt).map fun isTaken =>
        .ofReasons (itemReasons box p isTaken) := by
  have hexists : Validator.check box s p .exists = .ok .accepted := by
    unfold Validator.check
    rw [hvehicle]
    rfl
  have hactive' : Validator.check box s p .active = .ok .accepted := by
    unfold Validator.check
    rw [hvehicle]
    show Except.ok (if w.isActive then _ else _) = _
    rw [hactive]
    rfl
  have hduplicate : Validator.check box s p .duplicate =
      (FleetStore.isRecorded s p.vehicle p.recordedAt).map fun isTaken =>
        if isTaken then .refused [.repeated p] else .accepted := by
    unfold Validator.check
    cases FleetStore.isRecorded s p.vehicle p.recordedAt <;> rfl
  unfold Validator.validate Validator.canonical itemReasons
  simp only [Validator.violations, hexists, hactive', hduplicate]
  cases FleetStore.isRecorded s p.vehicle p.recordedAt with
  | error e => rfl
  | ok isTaken =>
    show Except.ok _ = Except.ok _
    cases box.contains p.coordinates.toPoint <;> cases isTaken <;> rfl

theorem itemViolations_canonical {isTaken : Bool} {seen : List Instant}
    (h : FleetStore.isRecorded s p.vehicle p.recordedAt = .ok isTaken)
    (hseen : p.recordedAt ∈ seen → isTaken = false) :
    itemViolations (.canonical box) s seen p =
      .ok (itemReasons box p (isTaken || seen.contains p.recordedAt)) := by
  unfold itemViolations
  rw [validate_canonical box hvehicle hactive, h]
  show Except.ok ((Verdict.ofReasons (itemReasons box p isTaken)).reasons ++ _) = _
  rw [Verdict.reasons_ofReasons]
  cases hcontains : seen.contains p.recordedAt with
  | false => simp
  | true =>
    rw [hseen (by simpa using hcontains)]
    simp [itemReasons]

theorem submit_canonical {isTaken : Bool}
    (h : FleetStore.isRecorded s p.vehicle p.recordedAt = .ok isTaken) :
    submit (.canonical box) s (some p) =
      if itemReasons box p isTaken = [] then (store s [p]).map firstSaved id
      else (.error (.ofViolations (itemReasons box p isTaken)), s) := by
  unfold submit
  dsimp only
  rw [validate_canonical box hvehicle hactive, h]
  cases hreasons : itemReasons box p isTaken with
  | nil => simp [Except.map, hreasons, Verdict.ofReasons]; rfl
  | cons reason rest => simp [Except.map, hreasons, Verdict.ofReasons]

end Active

/-! ## A batch and its items -/

/-- What ties the store of single submissions to the list of a batch: an instant is recorded in the
store just if it was recorded before the batch or is in the list. -/
structure Tied [LawfulStore σ] (u : VehicleRef) (w : Vehicle) (recorded : Instant → Bool)
    (seen : List Instant) (s : σ) : Prop where
  isIdle : LawfulStore.IsIdle s
  vehicle? : FleetStore.vehicle? s u = .ok (some w)
  isRecorded : ∀ t, FleetStore.isRecorded s u t = .ok (recorded t || seen.contains t)
  /-- The list holds no instant that was recorded before the batch. -/
  isNew : ∀ t ∈ seen, recorded t = false

/-- A position whose instant is new is stored, and its instant joins the list. -/
theorem Tied.store [LawfulStore σ] {s : σ} {u : VehicleRef} {w : Vehicle}
    {recorded : Instant → Bool} {seen : List Instant} (h : Tied u w recorded seen s) {p : Position}
    (hp : p.vehicle = u)
    (hnew : (recorded p.recordedAt || seen.contains p.recordedAt) = false) :
    ∃ q s', Service.store s [p] = (.ok [q], s') ∧ Tied u w recorded (p.recordedAt :: seen) s' := by
  obtain ⟨q, s', hstore⟩ := LawfulStore.store_one h.isIdle (hp ▸ h.vehicle?)
    (by rw [hp, h.isRecorded, hnew])
  have hstored := LawfulStore.stored h.isIdle hstore
  refine ⟨q, s', hstore, LawfulStore.isIdle_store h.isIdle hstore, ?_, ?_, ?_⟩
  · rw [hstored.vehicle?, h.vehicle?]
  · intro t
    have hkey : decide ((u, t) ∈ [p].map Position.key) = (t == p.recordedAt) := by
      rw [Bool.eq_iff_iff]
      simp [Position.key, hp]
    rw [hstored.isRecorded, h.isRecorded, hkey, List.contains_cons, Except.map, Bool.or_assoc,
      Bool.or_comm (seen.contains t)]
  · exact List.forall_mem_cons.mpr ⟨(Bool.or_eq_false_iff.mp hnew).1, h.isNew⟩

/-- The check of a batch accepts, and the save of the batch stores, what single submissions do in
the store that is tied to its list. -/
theorem screen_eq_submitEach [LawfulStore σ] {box : Box} {s s' : σ} {u : VehicleRef} {w : Vehicle}
    {recorded : Instant → Bool} {seen : List Instant} (hactive : w.isActive = true)
    (hvehicle : FleetStore.vehicle? s u = .ok (some w))
    (hrecorded : ∀ t, FleetStore.isRecorded s u t = .ok (recorded t))
    (htied : Tied u w recorded seen s') {ps : List Position} (hps : ∀ p ∈ ps, p.vehicle = u) :
    ∃ each found s'', submitEach (.canonical box) s' ps = (.ok each, s'') ∧
      screen (.canonical box) s seen ps = .ok ⟨each.accepted, found⟩ ∧
      found.map Violation.message = each.errors ∧ (found = [] ↔ each.rejections = []) ∧
      store s' each.accepted = (.ok each.saved, s'') := by
  -- along the batch, while the store of the single submissions and the list grow together
  induction ps generalizing s' seen with
  | nil =>
    exact ⟨⟨[], [], []⟩, [], s', rfl, rfl, rfl, by simp, LawfulStore.store_nil htied.isIdle⟩
  | cons p rest ih =>
    obtain ⟨hp, hrest⟩ := List.forall_mem_cons.mp hps
    have hfound : itemViolations (.canonical box) s seen p =
        .ok (itemReasons box p (recorded p.recordedAt || seen.contains p.recordedAt)) :=
      itemViolations_canonical box (hp ▸ hvehicle) hactive (hp ▸ hrecorded p.recordedAt)
        (htied.isNew p.recordedAt)
    have hsubmit := submit_canonical box (hp ▸ htied.vehicle?) hactive
      (hp ▸ htied.isRecorded p.recordedAt)
    by_cases hreasons : itemReasons box p (recorded p.recordedAt || seen.contains p.recordedAt) = []
    · -- the position is stored, and its instant joins the list
      have hnew : (recorded p.recordedAt || seen.contains p.recordedAt) = false := by
        cases htaken : recorded p.recordedAt || seen.contains p.recordedAt with
        | false => rfl
        | true =>
          rw [htaken] at hreasons
          exact absurd hreasons (itemReasons_true_ne_nil box p)
      obtain ⟨q, s₁, hstore, htied₁⟩ := htied.store hp hnew
      obtain ⟨each, found, s'', heach, hscreen, herrors, hnone, hsaved⟩ := ih htied₁ hrest
      refine ⟨⟨p :: each.accepted, q :: each.saved, each.rejections⟩, found, s'', ?_, ?_, herrors,
        hnone, LawfulStore.store_cons htied.isIdle hstore hsaved⟩
      · unfold submitEach
        rw [hsubmit, if_pos hreasons, hstore]
        show (submitEach _ s₁ rest).map _ id = _
        rw [heach]
        rfl
      · unfold screen
        rw [hfound, hreasons]
        show (do let others ← screen _ s (p.recordedAt :: seen) rest; _) = _
        rw [hscreen]
        rfl
    · -- the position is passed over
      obtain ⟨each, found, s'', heach, hscreen, herrors, hnone, hsaved⟩ := ih htied hrest
      let reasons := itemReasons box p (recorded p.recordedAt || seen.contains p.recordedAt)
      let rejection := Rejection.ofErrors (reasons.map Violation.message)
      refine ⟨⟨each.accepted, each.saved, rejection :: each.rejections⟩, reasons ++ found, s'', ?_,
        ?_, ?_, ?_, hsaved⟩
      · unfold submitEach
        rw [hsubmit, if_neg hreasons]
        show (submitEach _ s' rest).map _ id = _
        rw [heach]
        rfl
      · unfold screen
        rw [hfound]
        show (if List.isEmpty _ then _ else do let others ← screen _ s seen rest; _) = _
        rw [if_neg (by simpa using hreasons), hscreen]
        rfl
      · rw [List.map_append, herrors]
        rfl
      · have hreasons : reasons ≠ [] := hreasons
        simp [hreasons]

/-- Single submissions of the positions of a batch either all come to an end, and are what the
batch does, or fail at once like the batch. -/
theorem submitEach_cases [LawfulStore σ] (box : Box) {s : σ} (hs : LawfulStore.IsIdle s)
    {ps : List Position} (hps : Validator.validateBatch s ps = .ok .accepted) :
    (∃ each found s', submitEach (.canonical box) s ps = (.ok each, s') ∧
      screen (.canonical box) s [] ps = .ok ⟨each.accepted, found⟩ ∧
      found.map Violation.message = each.errors ∧ (found = [] ↔ each.rejections = []) ∧
      store s each.accepted = (.ok each.saved, s')) ∨
    ∃ e : Failure, e.IsUnanswered ∧ submitEach (.canonical box) s ps = (.error e, s) ∧
      screen (.canonical box) s [] ps = .error e := by
  obtain ⟨p, rest, w, rfl, hone, hvehicle, hactive⟩ := validateBatch_accepted hps
  cases hrecorded : FleetStore.isRecorded s p.vehicle p.recordedAt with
  | error e =>
    have hvalidate : (Validator.canonical box).validate s p = .error e := by
      rw [validate_canonical box hvehicle hactive, hrecorded, Except.map]
    have he := (LawfulStore.isRecorded_error hrecorded).1
    refine .inr ⟨e, he, ?_, ?_⟩
    · have hsubmit : submit (.canonical box) s (some p) = (.error e, s) := by
        unfold submit
        dsimp only
        rw [hvalidate]
      unfold submitEach
      rw [hsubmit]
      obtain rfl | rfl | rfl := he <;> rfl
    · unfold screen itemViolations
      rw [hvalidate]
      rfl
  | ok isTaken =>
    have htotal : ∀ t, ∃ b, FleetStore.isRecorded s p.vehicle t = .ok b := by
      intro t
      cases h : FleetStore.isRecorded s p.vehicle t with
      | ok b => exact ⟨b, rfl⟩
      | error e =>
        rw [(LawfulStore.isRecorded_error h).2] at hrecorded
        nomatch hrecorded
    obtain ⟨recorded, hrecorded⟩ := Classical.axiomOfChoice htotal
    have htied : Tied p.vehicle w recorded [] s := by
      refine ⟨hs, hvehicle, ?_, List.forall_mem_nil _⟩
      intro t
      rw [hrecorded, List.contains_nil, Bool.or_false]
    exact .inl (screen_eq_submitEach hactive hvehicle hrecorded htied hone)

theorem select_of_screen {v : Validator} {policy : BatchPolicy} {s : σ}
    {ps accepted : List Position} {found : List Violation}
    (hps : Validator.validateBatch s ps = .ok .accepted)
    (hscreen : screen v s [] ps = .ok ⟨accepted, found⟩) :
    select v policy s ps =
      if policy = .strict ∧ found ≠ [] then .error (.ofViolations found) else .ok accepted := by
  unfold select
  rw [hps, hscreen]
  rfl

theorem submitBatch_of_screen {v : Validator} {policy : BatchPolicy} {s s' : σ}
    {ps accepted saved : List Position} {found : List Violation}
    (hps : Validator.validateBatch s ps = .ok .accepted)
    (hscreen : screen v s [] ps = .ok ⟨accepted, found⟩)
    (hnil : store s [] = (.ok [], s)) (hstore : store s accepted = (.ok saved, s')) :
    submitBatch v policy s (some ps) =
      if policy = .strict ∧ found ≠ [] then (.error (.ofViolations found), s)
      else (.ok saved, s') := by
  unfold submitBatch
  dsimp only
  rw [select_of_screen hps hscreen]
  by_cases hstrict : policy = .strict ∧ found ≠ []
  · rw [if_pos hstrict, if_pos hstrict]
  · rw [if_neg hstrict, if_neg hstrict]
    cases accepted with
    | nil =>
      rw [hnil] at hstore
      exact hstore
    | cons p rest => exact hstore

/-- A store of one vehicle. -/
def oneVehicle : Backing :=
  ⟨false, { Memory.empty with vehicles := [⟨1, "Truck", true, none⟩], nextVehicle := 2 }, .empty⟩

/-- A place outside of Athens. -/
def nullIsland : Coordinates := ⟨⟨0.0, 0.0⟩, by decide⟩

/-- A position, a repeat of it, and one outside the box. -/
def repeatedBatch : List Position :=
  [⟨some 1, athensCenter, default, none⟩, ⟨some 1, athensCenter, default, none⟩,
    ⟨some 1, nullIsland, default, none⟩]

end FleetTracking.Service
