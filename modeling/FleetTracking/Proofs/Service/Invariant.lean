import FleetTracking.Proofs.Service.Batch
import FleetTracking.Proofs.Service.Request
import FleetTracking.Proofs.Service.Verdict
import FleetTracking.Proofs.Store.Contents

/-!
# What is true of all stored positions

Positions that entered a store through its services, with all rules and one box, have keys and
numbers of their own, belong to vehicles that are known, and lie in the box (`Sound`). A submission
keeps this up whatever becomes of it (`sound_submit`, `sound_submitBatch`), and so does everything
else that happens to a store between two submissions (`reachable_sound`).

No save of a submission finds a key taken. The rules have looked for it before, and nothing is
staged that they have not seen.
-/

namespace FleetTracking

namespace Service

variable {σ : Type} [FleetStore σ]

/-! ## What the rules accept -/

theorem check_of_violations_nil {box : Box} {s : σ} {p : Position} {rules : List Rule}
    (h : Validator.violations box s p rules = .ok []) :
    ∀ rule ∈ rules, ∃ verdict, Validator.check box s p rule = .ok verdict ∧ verdict.reasons = [] := by
  intro rule hrule
  obtain ⟨verdict, hverdict, hfound⟩ := check_of_violations h rule hrule
  exact ⟨verdict, hverdict, List.eq_nil_iff_forall_not_mem.mpr fun x hx => nomatch hfound x hx⟩

theorem check_of_violations_error {box : Box} {s : σ} {p : Position} {rules : List Rule}
    {e : Failure} (h : Validator.violations box s p rules = .error e) :
    ∃ rule ∈ rules, Validator.check box s p rule = .error e := by
  induction rules with
  | nil => nomatch h
  | cons rule rest ih =>
    obtain hcheck | ⟨verdict, _, h⟩ := bind_eq_error.mp h
    · exact ⟨rule, List.mem_cons_self, hcheck⟩
    · obtain hrest | ⟨others, _, h⟩ := bind_eq_error.mp h
      · obtain ⟨rule', hrule', hcheck⟩ := ih hrest
        exact ⟨rule', List.mem_cons_of_mem _ hrule', hcheck⟩
      · nomatch h

/-- A position that passed the look for repeats has a new key, whatever else it was checked for. -/
theorem isRecorded_of_validate {v : Validator} {s : σ} {p : Position}
    (hrule : Rule.duplicate ∈ v.rules) (h : v.validate s p = .ok .accepted) :
    FleetStore.isRecorded s p.vehicle p.recordedAt = .ok false := by
  obtain ⟨violations, hviolations, h⟩ := bind_eq_ok.mp h
  cases violations with
  | cons reason rest => nomatch h
  | nil =>
    obtain ⟨verdict, hverdict, hreasons⟩ := check_of_violations_nil hviolations _ hrule
    obtain ⟨isTaken, hrecorded, hverdict⟩ := bind_eq_ok.mp hverdict
    cases isTaken with
    | false => exact hrecorded
    | true =>
      cases hverdict
      nomatch hreasons

/-- A position that is accepted is one of a known vehicle, in the box, under a new key. -/
theorem validate_accepted {box : Box} {s : σ} {p : Position}
    (h : (Validator.canonical box).validate s p = .ok .accepted) :
    (∃ w, FleetStore.vehicle? s p.vehicle = .ok (some w)) ∧
      box.contains p.coordinates.toPoint = true ∧
      FleetStore.isRecorded s p.vehicle p.recordedAt = .ok false := by
  have hnew := isRecorded_of_validate (by simp [Validator.canonical]) h
  obtain ⟨violations, hviolations, h⟩ := bind_eq_ok.mp h
  cases violations with
  | cons reason rest => nomatch h
  | nil =>
    have hcheck := check_of_violations_nil hviolations
    refine ⟨?_, ?_, ?_⟩
    · obtain ⟨verdict, hverdict, hreasons⟩ := hcheck .exists (by simp [Validator.canonical])
      obtain ⟨found, hfound, hverdict⟩ := bind_eq_ok.mp hverdict
      cases found with
      | some w => exact ⟨w, hfound⟩
      | none =>
        cases hverdict
        nomatch hreasons
    · obtain ⟨verdict, hverdict, hreasons⟩ := hcheck .bounds (by simp [Validator.canonical])
      cases hbox : box.contains p.coordinates.toPoint with
      | true => rfl
      | false =>
        unfold Validator.check at hverdict
        change Except.ok (if box.contains p.coordinates.toPoint then _ else _) = _ at hverdict
        rw [hbox] at hverdict
        cases hverdict
        nomatch hreasons
    · exact hnew

/-- Rules fail only where the store cannot answer. -/
theorem validate_error [LawfulStore σ] {v : Validator} {s : σ} {p : Position} {e : Failure}
    (h : v.validate s p = .error e) : e.IsUnanswered := by
  obtain h | ⟨violations, _, h⟩ := bind_eq_error.mp h
  · obtain ⟨rule, _, hcheck⟩ := check_of_violations_error h
    cases rule with
    | bounds => nomatch hcheck
    | duplicate =>
      obtain hrecorded | ⟨isTaken, _, h⟩ := bind_eq_error.mp hcheck
      · exact (LawfulStore.isRecorded_error hrecorded).1
      · nomatch h
    | _ =>
      obtain hvehicle | ⟨found, _, h⟩ := bind_eq_error.mp hcheck
      · exact LawfulStore.vehicle?_error hvehicle
      · cases found <;> nomatch h
  · nomatch h

theorem validateBatch_error [LawfulStore σ] {s : σ} {new : List Position} {e : Failure}
    (h : Validator.validateBatch s new = .error e) : e.IsUnanswered := by
  cases new with
  | nil => nomatch h
  | cons p rest =>
    unfold Validator.validateBatch at h
    dsimp only at h
    split at h
    · nomatch h
    · obtain hvehicle | ⟨found, _, h⟩ := bind_eq_error.mp h
      · exact LawfulStore.vehicle?_error hvehicle
      · cases found <;> nomatch h

end Service

/-! ## The invariant -/

/-- The store holds these positions. Their keys and numbers are all different, their vehicles are
known, and they lie in the box. -/
structure Sound [FleetStore σ] [HoldingStore σ] (box : Box) (s : σ) (ps : List Position) :
    Prop where
  holds : HoldingStore.Holds s ps
  keys : (ps.map Position.key).Nodup
  numbers : (ps.map Position.id).Nodup
  known : ∀ p ∈ ps, ∃ w, FleetStore.vehicle? s p.vehicle = .ok (some w)
  inside : ∀ p ∈ ps, box.contains p.coordinates.toPoint = true

theorem nodup_map_concat {f : α → β} {l : List α} {a : α} (hl : (l.map f).Nodup)
    (ha : f a ∉ l.map f) : ((l ++ [a]).map f).Nodup := by
  rw [List.map_append, List.nodup_append]
  refine ⟨hl, by simp, ?_⟩
  intro b hb c hc hbc
  rw [List.mem_singleton.mp hc] at hbc
  exact ha (hbc ▸ hb)

section Submissions

variable {σ : Type} [FleetStore σ] [HoldingStore σ] {box : Box} {s : σ} {ps : List Position}
  (hs : LawfulStore.IsIdle s) (h : Sound box s ps)

include hs h

/-- A position in the box, of a known vehicle and under a new key, is stored as a copy of it, and
all is sound again. -/
theorem Sound.store {p q : Position} {w : Vehicle} {s' : σ}
    (hw : FleetStore.vehicle? s p.vehicle = .ok (some w))
    (hinside : box.contains p.coordinates.toPoint = true)
    (hnew : FleetStore.isRecorded s p.vehicle p.recordedAt = .ok false)
    (hstore : Service.store s [p] = (.ok [q], s')) :
    q.IsCopyOf p ∧ q.id ∉ ps.map Position.id ∧ Sound box s' (ps ++ [q]) := by
  obtain ⟨hholds, hcopy, hnumber⟩ := HoldingStore.holds_store hs h.holds hstore
  have hvehicle? := (LawfulStore.stored hs hstore).vehicle?
  have hkey : q.key ∉ ps.map Position.key := by
    rw [HoldingStore.isRecorded_eq _ h.holds hw] at hnew
    rw [hcopy.key]
    exact of_decide_eq_false (Except.ok.inj hnew)
  refine ⟨hcopy, hnumber, hholds, nodup_map_concat h.keys hkey, nodup_map_concat h.numbers hnumber,
    ?_, ?_⟩
  · intro r hr
    rw [hvehicle?]
    rcases List.mem_append.mp hr with hr | hr
    · exact h.known r hr
    · rw [List.mem_singleton.mp hr, hcopy.vehicle]
      exact ⟨w, hw⟩
  · intro r hr
    rcases List.mem_append.mp hr with hr | hr
    · exact h.inside r hr
    · -- a copy may differ in the sign of a zero, which no box sees
      obtain ⟨hlat, hlon⟩ := Coordinates.agrees_iff.mp hcopy.coordinates
      rw [List.mem_singleton.mp hr, box.contains_congr hlat hlon]
      exact hinside

namespace Service

/-- A submission fails and leaves everything as it was, though never at its save, or it stores a
copy of its position. -/
theorem sound_submit (p? : Option Position) :
    (∃ e, submit (.canonical box) s p? = (.error e, s) ∧ ∀ u t, e ≠ .duplicatePosition u t) ∨
    ∃ p q s', p? = some p ∧ submit (.canonical box) s p? = (.ok q, s') ∧ q.IsCopyOf p ∧
      q.id ∉ ps.map Position.id ∧ LawfulStore.IsIdle s' ∧ Sound box s' (ps ++ [q]) := by
  cases p? with
  | none => exact .inl ⟨_, rfl, fun _ _ h => nomatch h⟩
  | some p =>
    cases hvalidate : (Validator.canonical box).validate s p with
    | error e =>
      refine .inl ⟨e, ?_, (validate_error hvalidate).ne_duplicatePosition⟩
      unfold submit
      dsimp only
      rw [hvalidate]
    | ok verdict =>
      cases verdict with
      | refused reasons =>
        refine .inl ⟨.ofViolations reasons, ?_, fun _ _ h => nomatch h⟩
        unfold submit
        dsimp only
        rw [hvalidate]
      | accepted =>
        obtain ⟨⟨w, hw⟩, hinside, hnew⟩ := validate_accepted hvalidate
        obtain ⟨q, s', hstore⟩ := LawfulStore.store_one hs hw hnew
        obtain ⟨hcopy, hnumber, hsound⟩ := Sound.store hs h hw hinside hnew hstore
        refine .inr ⟨p, q, s', rfl, ?_, hcopy, hnumber, LawfulStore.isIdle_store hs hstore, hsound⟩
        unfold submit
        dsimp only
        rw [hvalidate]
        dsimp only
        rw [hstore]
        rfl

/-- Single submissions one after another keep up what each of them does. -/
theorem submitEach_sound {new : List Position} {each : Passage} {s' : σ}
    (heach : submitEach (.canonical box) s new = (.ok each, s')) :
    LawfulStore.IsIdle s' ∧ Sound box s' (ps ++ each.saved) := by
  -- what was stored so far is part of what is sound before the next position
  induction new generalizing s ps each with
  | nil =>
    cases heach
    rw [List.append_nil]
    exact ⟨hs, h⟩
  | cons p rest ih =>
    unfold submitEach at heach
    obtain ⟨e, he, _⟩ | ⟨_, q, s₁, _, hq, _, _, hs₁, h₁⟩ := sound_submit hs h (some p)
    · rw [he] at heach
      cases e with
      | rejected r =>
        obtain ⟨others, hothers, rfl⟩ := prod_map_eq_ok.mp heach
        have hrest := ih hs h hothers
        exact hrest
      | _ => cases heach
    · rw [hq] at heach
      obtain ⟨others, hothers, rfl⟩ := prod_map_eq_ok.mp heach
      obtain ⟨hs', h'⟩ := ih hs₁ h₁ hothers
      rw [List.append_assoc] at h'
      exact ⟨hs', h'⟩

/-- A batch fails and leaves everything as it was, though never at its save, or it stores what it
answers. -/
theorem sound_submitBatch (policy : BatchPolicy) (new : Option (List Position)) :
    (∃ e, submitBatch (.canonical box) policy s new = (.error e, s) ∧
      ∀ u t, e ≠ .duplicatePosition u t) ∨
    ∃ saved s', submitBatch (.canonical box) policy s new = (.ok saved, s') ∧
      LawfulStore.IsIdle s' ∧ Sound box s' (ps ++ saved) := by
  cases new with
  | none => exact .inl ⟨.nullInput "positions", rfl, fun _ _ h => nomatch h⟩
  | some new =>
    cases hbatch : Validator.validateBatch s new with
    | error e =>
      refine .inl ⟨e, ?_, (validateBatch_error hbatch).ne_duplicatePosition⟩
      unfold submitBatch select
      dsimp only
      rw [hbatch]
      rfl
    | ok verdict =>
      cases verdict with
      | refused reasons =>
        refine .inl ⟨.ofViolations reasons, ?_, fun _ _ h => nomatch h⟩
        unfold submitBatch select
        dsimp only
        rw [hbatch]
        rfl
      | accepted =>
        obtain ⟨each, found, s', heach, hscreen, _, _, hstore⟩ | ⟨e, he, _, hscreen⟩ :=
          submitEach_cases box hs hbatch
        · -- a batch stores what single submissions would, and these are sound
          rw [submitBatch_of_screen hbatch hscreen (LawfulStore.store_nil hs) hstore]
          split
          · exact .inl ⟨.ofViolations found, rfl, fun _ _ h => nomatch h⟩
          · obtain ⟨hs', h'⟩ := submitEach_sound hs h heach
            exact .inr ⟨each.saved, s', rfl, hs', h'⟩
        · refine .inl ⟨e, ?_, he.ne_duplicatePosition⟩
          unfold submitBatch select
          dsimp only
          rw [hbatch, hscreen]
          rfl

end Service

end Submissions

/-! ## Runs -/

/-- The stores that services and managers of a fleet can make of one. Where vehicles wait to be
saved, no positions are submitted until a save has been tried. -/
inductive Reachable (box : Box) (start : Backing) : (waiting : Bool) → Backing → Prop
  | start : Reachable box start false start
  | request {b} (r : Request) : Reachable box start false b →
    Reachable box start false (r.run (.canonical box) b).2
  | question {waiting b} (r : Request) : r.isSubmission = false → Reachable box start waiting b →
    Reachable box start waiting (r.run (.canonical box) b).2
  | addVehicle {waiting b} (v : VehicleDraft) : Reachable box start waiting b →
    Reachable box start (waiting || (FleetStore.addVehicle b v).1.isOk)
      (FleetStore.addVehicle b v).2
  | saveVehicles {waiting b} : Reachable box start waiting b →
    Reachable box start false (FleetStore.saveVehicles b).2
  | setActive {waiting b} (u : VehicleRef) (active : Bool) : Reachable box start waiting b →
    Reachable box start waiting (FleetStore.setActive b u active).2

/-- What requests to idle stores and changes of vehicles keep up is true all along a run that begins
with it, and nothing is staged but vehicles that wait. -/
theorem Reachable.invariant {box : Box} {start b : Backing} {waiting : Bool} {P : Backing → Prop}
    (hidle : start.IsIdle) (hstart : P start)
    (hrequest : ∀ {b : Backing} (r : Request), b.IsIdle → P b → P (r.run (.canonical box) b).2)
    (hvehicles : ∀ {b b' : Backing}, b.ChangesVehicles b' → P b → P b')
    (h : Reachable box start waiting b) :
    b.HasNoStagedPositions ∧ (waiting = false → b.HasNoStagedVehicles) ∧ P b := by
  -- only requests add positions, and only idle stores are asked for what may add them
  induction h with
  | start =>
    obtain ⟨hnovehicles, hnopositions⟩ := Backing.isIdle_iff.mp hidle
    exact ⟨hnopositions, fun _ => hnovehicles, hstart⟩
  | @request b r _ ih =>
    obtain ⟨hnopositions, hnovehicles, hb⟩ := ih
    have hbidle : b.IsIdle := Backing.isIdle_iff.mpr ⟨hnovehicles rfl, hnopositions⟩
    obtain ⟨hnovehicles', hnopositions'⟩ := Backing.isIdle_iff.mp
      (Service.stored_run (s := b) hbidle (.canonical box) r).2
    exact ⟨hnopositions', fun _ => hnovehicles', hrequest r hbidle hb⟩
  | question r hr _ ih =>
    rw [Request.run_eq_of_not_isSubmission hr]
    exact ih
  | addVehicle v _ ih =>
    obtain ⟨hnopositions, hnovehicles, hb⟩ := ih
    have hchanges := Backing.changesVehicles_addVehicle hnopositions v
    refine ⟨hchanges.hasNoStagedPositions, ?_, hvehicles hchanges hb⟩
    intro hwaiting
    obtain ⟨hwaiting, hadd⟩ := Bool.or_eq_false_iff.mp hwaiting
    rw [Backing.addVehicle_error hadd]
    exact hnovehicles hwaiting
  | saveVehicles _ ih =>
    obtain ⟨hnopositions, _, hb⟩ := ih
    have hchanges := Backing.changesVehicles_saveVehicles hnopositions
    exact ⟨hchanges.hasNoStagedPositions, fun _ => Backing.hasNoStagedVehicles_saveVehicles,
      hvehicles hchanges hb⟩
  | setActive u active _ ih =>
    obtain ⟨hnopositions, hnovehicles, hb⟩ := ih
    have hchanges := Backing.changesVehicles_setActive hnopositions u active
    exact ⟨hchanges.hasNoStagedPositions, fun hwaiting =>
      Backing.hasNoStagedVehicles_setActive (hnovehicles hwaiting) u active,
      hvehicles hchanges hb⟩

section Backing

variable {box : Box} {b b' : Backing} {ps : List Position}

/-- A request to an idle store keeps its positions sound. -/
theorem Sound.request (h : Sound box b ps) (hb : b.IsIdle) (r : Request) :
    ∃ ps', Sound box (r.run (.canonical box) b).2 ps' := by
  cases hr : r.isSubmission with
  | false =>
    rw [Request.run_eq_of_not_isSubmission hr]
    exact ⟨ps, h⟩
  | true =>
    cases r with
    | submit p? =>
      show ∃ ps', Sound box (Service.submit _ b p?).2 ps'
      obtain ⟨e, he, _⟩ | ⟨_, q, b', _, hq, _, _, _, h'⟩ := Service.sound_submit hb h p?
      · rw [he]
        exact ⟨ps, h⟩
      · rw [hq]
        exact ⟨ps ++ [q], h'⟩
    | submitBatch policy new =>
      show ∃ ps', Sound box (Service.submitBatch _ policy b new).2 ps'
      obtain ⟨e, he, _⟩ | ⟨saved, b', hsaved, _, h'⟩ :=
        Service.sound_submitBatch hb h policy new
      · rw [he]
        exact ⟨ps, h⟩
      · rw [hsaved]
        exact ⟨ps ++ saved, h'⟩
    | _ => nomatch hr

/-- Changes of vehicles disturb no position. -/
theorem Sound.changeVehicles (h : Sound box b ps) (hb : b.ChangesVehicles b') :
    Sound box b' ps where
  holds := hb.holds ps h.holds
  keys := h.keys
  numbers := h.numbers
  known p hp := by
    obtain ⟨w, hw⟩ := h.known p hp
    exact hb.keepsVehicles _ w hw
  inside := h.inside

end Backing

/-- What is true all along a run: nothing is staged but vehicles that wait, and the positions are
sound. -/
structure Kept (box : Box) (waiting : Bool) (b : Backing) (ps : List Position) : Prop where
  hasNoStagedPositions : b.HasNoStagedPositions
  hasNoStagedVehicles : waiting = false → b.HasNoStagedVehicles
  sound : Sound box b ps

namespace Kept

variable {box : Box} {waiting : Bool} {b : Backing} {ps : List Position}

theorem isIdle (h : Kept box false b ps) : b.IsIdle :=
  Backing.isIdle_iff.mpr ⟨h.hasNoStagedVehicles rfl, h.hasNoStagedPositions⟩

theorem of_reachable {start : Backing} (hidle : start.IsIdle) (hempty : start.Holds [])
    (h : Reachable box start waiting b) : ∃ ps, Kept box waiting b ps := by
  have hsound : Sound box start [] := ⟨hempty, List.nodup_nil, List.nodup_nil, by simp, by simp⟩
  obtain ⟨hnopositions, hnovehicles, ps, hps⟩ :=
    h.invariant (P := fun b => ∃ ps, Sound box b ps) hidle ⟨[], hsound⟩
      (fun r hb ⟨_, hps⟩ => hps.request hb r) fun hb ⟨ps, hps⟩ => ⟨ps, hps.changeVehicles hb⟩
  exact ⟨ps, hnopositions, hnovehicles, hps⟩

end Kept

/-- At every point of a run from an empty storage of positions, the stored positions are sound and
nothing is staged but vehicles that wait. A submission fails at no taken key, and answers the copy
that it stores of its position. -/
theorem reachable_sound {box : Box} {start b : Backing} {waiting : Bool} (hidle : start.IsIdle)
    (hempty : start.Holds []) (h : Reachable box start waiting b) :
    ∃ ps, b.storedPositions = .ok ps ∧ (ps.map Position.key).Nodup ∧
      (ps.map Position.id).Nodup ∧
      (∀ p ∈ ps, (∃ w, FleetStore.vehicle? b p.vehicle = .ok (some w)) ∧
        box.contains p.coordinates.toPoint = true) ∧
      b.HasNoStagedPositions ∧
      (waiting = false → b.IsIdle ∧
        (∀ p? u t, (Service.submit (.canonical box) b p?).1 ≠ .error (.duplicatePosition u t)) ∧
        (∀ policy new u t, (Service.submitBatch (.canonical box) policy b new).1 ≠
          .error (.duplicatePosition u t)) ∧
        ∀ p q b', Service.submit (.canonical box) b (some p) = (.ok q, b') →
          q.IsCopyOf p ∧ q.id ∉ ps.map Position.id ∧ b'.storedPositions = .ok (ps ++ [q])) := by
  obtain ⟨ps, hkept⟩ := Kept.of_reachable hidle hempty h
  refine ⟨ps, Backing.storedPositions_of_holds hkept.sound.holds, hkept.sound.keys,
    hkept.sound.numbers, fun p hp => ⟨hkept.sound.known p hp, hkept.sound.inside p hp⟩,
    hkept.hasNoStagedPositions, ?_⟩
  rintro rfl
  refine ⟨hkept.isIdle, ?_, ?_, ?_⟩
  · intro p? u t hfailed
    obtain ⟨e, he, hne⟩ | ⟨_, q, b', _, hq, _⟩ :=
      Service.sound_submit hkept.isIdle hkept.sound p?
    · rw [he] at hfailed
      exact hne u t (Except.error.inj hfailed)
    · rw [hq] at hfailed
      nomatch hfailed
  · intro policy new u t hfailed
    obtain ⟨e, he, hne⟩ | ⟨saved, b', hsaved, _⟩ :=
      Service.sound_submitBatch hkept.isIdle hkept.sound policy new
    · rw [he] at hfailed
      exact hne u t (Except.error.inj hfailed)
    · rw [hsaved] at hfailed
      nomatch hfailed
  · intro p q b' hq
    obtain ⟨e, he, _⟩ | ⟨p', q', b'', hp', hq', hcopy, hnumber, _, h'⟩ :=
      Service.sound_submit hkept.isIdle hkept.sound (some p)
    · rw [he] at hq
      nomatch hq
    · rw [hq'] at hq
      cases hq
      cases hp'
      exact ⟨hcopy, hnumber, Backing.storedPositions_of_holds h'.holds⟩

/-- A store of one vehicle after a batch with a repeat. -/
def afterRepeatedBatch : Backing :=
  ((Request.submitBatch .lenient (some Service.repeatedBatch)).run (.canonical .athens)
    Service.oneVehicle).2

/-- The hypotheses hold of a run that submits a batch. -/
theorem sound_afterRepeatedBatch :
    Service.oneVehicle.IsIdle ∧ Service.oneVehicle.Holds [] ∧
    Reachable .athens Service.oneVehicle false afterRepeatedBatch ∧
    ∃ ps, afterRepeatedBatch.storedPositions = .ok ps ∧ (ps.map Position.key).Nodup := by
  have hidle : Service.oneVehicle.IsIdle := ⟨rfl, rfl⟩
  have hempty : Service.oneVehicle.Holds [] := ⟨rfl, rfl, fun _ h => nomatch h⟩
  have hreachable : Reachable .athens Service.oneVehicle false afterRepeatedBatch :=
    .request _ .start
  obtain ⟨ps, hps, hkeys, _⟩ := reachable_sound hidle hempty hreachable
  exact ⟨hidle, hempty, hreachable, ps, hps, hkeys⟩

end FleetTracking
