import FleetTracking.Proofs.Service.Acceptance
import FleetTracking.Proofs.Store.Appended
import FleetTracking.Proofs.Store.Window

/-!
# Handing in again what is stored

What a submission has answered stays in the store, whatever happens to the store afterwards
(`Retains.of_reachable`). So a caller that missed the answer can hand in the same positions again,
at any time. They are rejected as repeated and nothing is stored twice (`retry_of_reachable`).

A retry is told by the keys of its positions. Places and numbers play no part, so that positions
can be handed in again as they were handed in at first or as they were answered.
-/

namespace FleetTracking

/-! ## What is recorded already -/

namespace Service

variable {σ : Type} [FleetStore σ] {box : Box} {s : σ} {u : VehicleRef} {ps : List Position}

/-- What is wrong with positions of an active vehicle whose keys are recorded. -/
def repeats (box : Box) (ps : List Position) : List Violation :=
  ps.flatMap fun p => itemReasons box p true

theorem length_le_repeats (box : Box) (ps : List Position) :
    ps.length ≤ (repeats box ps).length := by
  induction ps with
  | nil => exact Nat.le_refl _
  | cons p rest ih =>
    have hp := List.length_pos_of_ne_nil (itemReasons_true_ne_nil box p)
    unfold repeats at ih ⊢
    rw [List.flatMap_cons, List.length_append, List.length_cons]
    omega

theorem repeated_mem_repeats {p : Position} (hp : p ∈ ps) : .repeated p ∈ repeats box ps :=
  List.mem_flatMap.mpr ⟨p, hp, List.mem_append_right _ (List.mem_singleton_self _)⟩

section Recorded

variable {w : Vehicle} (hvehicle : FleetStore.vehicle? s u = .ok (some w))
  (hactive : w.isActive = true) (hps : ∀ p ∈ ps, p.vehicle = u)
  (hrecorded : ∀ p ∈ ps, FleetStore.isRecorded s p.vehicle p.recordedAt = .ok true)

include hvehicle hactive hps hrecorded

/-- Items whose keys are recorded are all refused. -/
theorem screen_of_recorded : screen (.canonical box) s [] ps = .ok ⟨[], repeats box ps⟩ := by
  -- no item is accepted, so none is ever seen
  induction ps with
  | nil => rfl
  | cons p rest ih =>
    obtain ⟨hp, hps⟩ := List.forall_mem_cons.mp hps
    obtain ⟨hprecorded, hrecorded⟩ := List.forall_mem_cons.mp hrecorded
    have hfound : itemViolations (.canonical box) s [] p = .ok (itemReasons box p true) :=
      itemViolations_canonical box (hp ▸ hvehicle) hactive hprecorded (nomatch ·)
    unfold screen
    rw [hfound]
    show (if List.isEmpty _ then _ else do let others ← screen _ s [] rest; _) = _
    rw [if_neg (by simpa using itemReasons_true_ne_nil box p), ih hps hrecorded]
    rfl

/-- A batch of positions whose keys are recorded is rejected by the strict policy, with an error
for each of them, and passed over by the lenient one. -/
theorem submitBatch_of_recorded (box : Box) (hne : ps ≠ []) :
    submitBatch (.canonical box) .strict s (some ps) =
      (.error (.ofViolations (repeats box ps)), s) ∧
    submitBatch (.canonical box) .lenient s (some ps) = (.ok [], s) := by
  have hselect policy : select (.canonical box) policy s ps =
      if policy = .strict ∧ repeats box ps ≠ [] then .error (.ofViolations (repeats box ps))
      else .ok [] :=
    select_of_screen (validateBatch_of_vehicle hvehicle hactive hne hps)
      (screen_of_recorded hvehicle hactive hps hrecorded)
  have hrepeats : repeats box ps ≠ [] := by
    have hlength := length_le_repeats box ps
    have hpos := List.length_pos_of_ne_nil hne
    exact List.ne_nil_of_length_pos (by omega)
  constructor
  · unfold submitBatch
    dsimp only
    rw [hselect, if_pos ⟨rfl, hrepeats⟩]
  · unfold submitBatch
    dsimp only
    rw [hselect, if_neg fun h => nomatch h.1]

end Recorded

/-- A submission that comes to an answer saves what it answers, and its positions belong to a
vehicle that is known. -/
theorem store_of_answer [LawfulStore σ] {s' : σ} (hs : LawfulStore.IsIdle s) {r : Request}
    (hr : r.isSubmission = true) {a : Answer} (h : r.run (.canonical box) s = (.ok a, s')) :
    ∃ new u w, store s new = (.ok a.saved, s') ∧ FleetStore.vehicle? s u = .ok (some w) ∧
      ∀ p ∈ new, p.vehicle = u := by
  cases r with
  | submit p? =>
    obtain ⟨q, hsubmit, rfl⟩ := prod_map_eq_ok.mp h
    obtain ⟨p, rest, _, haccepted, hstore⟩ := store_of_submit hsubmit
    obtain ⟨⟨w, hw⟩, _⟩ := validate_accepted haccepted
    have hkeys := (LawfulStore.stored hs hstore).keys
    obtain rfl : rest = [] := List.map_eq_nil_iff.mp (List.cons.inj hkeys).2
    refine ⟨[p], p.vehicle, w, hstore, hw, ?_⟩
    intro q hq
    rw [List.mem_singleton.mp hq]
  | submitBatch policy ps? =>
    obtain ⟨saved, hsubmit, rfl⟩ := prod_map_eq_ok.mp h
    obtain ⟨_, accepted, _, hselect, hstore⟩ := store_of_submitBatch hs hsubmit
    obtain ⟨u, w, hw, hu⟩ := vehicle_of_select hselect
    exact ⟨accepted, u, w, hstore, hw, hu⟩
  | _ => nomatch hr

end Service

/-! ## What a store retains -/

/-- The store holds these positions, perhaps more behind them, and knows the vehicle. -/
structure Retains (b : Backing) (ps : List Position) (u : VehicleRef) : Prop where
  holds : ∃ more, b.Holds (ps ++ more)
  known : ∃ w, FleetStore.vehicle? b u = .ok (some w)

namespace Retains

variable {box : Box} {b b' : Backing} {ps : List Position} {u : VehicleRef}

theorem store {new saved : List Position} (h : Retains b ps u) (hb : b.IsIdle)
    (hstore : Service.store b new = (.ok saved, b')) : Retains b' ps u := by
  obtain ⟨more, hholds⟩ := h.holds
  refine ⟨⟨more ++ saved, ?_⟩, ?_⟩
  · rw [← List.append_assoc]
    exact hholds.store hb hstore
  · rw [(LawfulStore.stored hb hstore).vehicle?]
    exact h.known

theorem request (h : Retains b ps u) (hb : b.IsIdle) (v : Validator) (r : Request) :
    Retains (r.run v b).2 ps u := by
  obtain ⟨_, _, hstore⟩ := Service.store_run (s := b) hb v r
  exact h.store hb hstore

theorem changeVehicles (h : Retains b ps u) (hb : b.ChangesVehicles b') : Retains b' ps u := by
  obtain ⟨more, hholds⟩ := h.holds
  obtain ⟨w, hw⟩ := h.known
  exact ⟨⟨more, hb.holds _ hholds⟩, hb.keepsVehicles u w hw⟩

theorem of_reachable {waiting : Bool} (h : Retains b ps u) (hb : b.IsIdle)
    (hreachable : Reachable box b waiting b') : Retains b' ps u :=
  (hreachable.invariant (P := fun b => Retains b ps u) hb h
    (fun r hb h => h.request hb _ r) fun hb h => h.changeVehicles hb).2.2

/-- The keys of the positions are recorded. -/
theorem isRecorded (h : Retains b ps u) {p : Position} (hp : p.vehicle = u)
    (hkey : p.key ∈ ps.map Position.key) :
    FleetStore.isRecorded b p.vehicle p.recordedAt = .ok true := by
  obtain ⟨more, hholds⟩ := h.holds
  obtain ⟨w, hw⟩ := h.known
  rw [Backing.isRecorded_of_holds hholds, if_pos (Backing.serves_of_vehicle? (hp ▸ hw)),
    List.map_append]
  exact congrArg Except.ok (decide_eq_true (List.mem_append_left _ hkey))

end Retains

/-- What a submission answers, the store retains behind what it held before. All of it belongs to
one vehicle. -/
theorem retains_of_answer {box : Box} {b b' : Backing} {ps : List Position} (hb : b.IsIdle)
    (hholds : b.Holds ps) {r : Request} (hr : r.isSubmission = true) {a : Answer}
    (h : r.run (.canonical box) b = (.ok a, b')) :
    ∃ u, b'.IsIdle ∧ Retains b' (ps ++ a.saved) u ∧ ∀ q ∈ a.saved, q.vehicle = u := by
  obtain ⟨new, u, w, hstore, hw, hu⟩ := Service.store_of_answer hb hr h
  have hstored := LawfulStore.stored hb hstore
  refine ⟨u, LawfulStore.isIdle_store hb hstore, ⟨⟨[], ?_⟩, ⟨w, ?_⟩⟩, ?_⟩
  · rw [List.append_nil]
    exact hholds.store hb hstore
  · rw [hstored.vehicle?, hw]
  · intro q hq
    have hmem := List.mem_map_of_mem (f := Position.vehicle) hq
    rw [hstored.map_vehicle] at hmem
    obtain ⟨p, hp, hpq⟩ := List.mem_map.mp hmem
    rw [← hpq, hu p hp]

/-- Whatever happens to a store after a submission, what was answered is stored as it was, and what
was stored before it. A position with the key of an answered one is rejected as repeated. If the
vehicle is active, a batch of such positions is rejected by the strict policy, with an error for
each of them, and passed over by the lenient one. None of this changes the store. -/
theorem retry_of_reachable {box : Box} {b b₁ b' : Backing} {ps : List Position} {waiting : Bool}
    (hb : b.IsIdle) (hholds : b.Holds ps) {r : Request} (hr : r.isSubmission = true) {a : Answer}
    (hrun : r.run (.canonical box) b = (.ok a, b₁)) (hreachable : Reachable box b₁ waiting b') :
    (∃ more, b'.storedPositions = .ok (ps ++ a.saved ++ more)) ∧
    (∀ p : Position, p.key ∈ a.saved.map Position.key →
      ∃ e, Service.submit (.canonical box) b' (some p) = (.error (.rejected e), b') ∧
        (Violation.repeated p).message ∈ e.errors) ∧
    ∀ again : List Position, again ≠ [] → (∀ p ∈ again, p.key ∈ a.saved.map Position.key) →
      (∀ p ∈ again, IsActive b' p.vehicle) →
      (∃ e, Service.submitBatch (.canonical box) .strict b' (some again) =
          (.error (.rejected e), b') ∧
        again.length ≤ e.errors.length ∧
        ∀ p ∈ again, (Violation.repeated p).message ∈ e.errors) ∧
      Service.submitBatch (.canonical box) .lenient b' (some again) = (.ok [], b') := by
  obtain ⟨u, hb₁, hretains₁, hu⟩ := retains_of_answer hb hholds hr hrun
  have hretains := hretains₁.of_reachable hb₁ hreachable
  have hvehicle {p : Position} (hp : p.key ∈ a.saved.map Position.key) : p.vehicle = u := by
    obtain ⟨q, hq, hkey⟩ := List.mem_map.mp hp
    exact (congrArg Prod.fst hkey).symm.trans (hu q hq)
  have hrecorded {p : Position} (hp : p.key ∈ a.saved.map Position.key) :
      FleetStore.isRecorded b' p.vehicle p.recordedAt = .ok true := by
    refine hretains.isRecorded (hvehicle hp) ?_
    rw [List.map_append]
    exact List.mem_append_right _ hp
  refine ⟨?_, ?_, ?_⟩
  · obtain ⟨more, hmore⟩ := hretains.holds
    exact ⟨more, Backing.storedPositions_of_holds hmore⟩
  · intro p hp
    obtain ⟨w, hw⟩ := hretains.known
    exact Service.submit_of_recorded (by simp [Validator.canonical]) (hvehicle hp ▸ hw)
      (hrecorded hp)
  · intro again hne hkeys hactive
    obtain ⟨first, hfirst⟩ := List.exists_mem_of_ne_nil again hne
    obtain ⟨w, hw, hwactive⟩ := hactive first hfirst
    rw [hvehicle (hkeys first hfirst)] at hw
    obtain ⟨hstrict, hlenient⟩ := Service.submitBatch_of_recorded hw hwactive
      (fun p hp => hvehicle (hkeys p hp)) (fun p hp => hrecorded (hkeys p hp)) box hne
    refine ⟨⟨.ofErrors ((Service.repeats box again).map Violation.message), hstrict, ?_, ?_⟩,
      hlenient⟩
    · show again.length ≤ (List.map _ _).length
      rw [List.length_map]
      exact Service.length_le_repeats box again
    · exact fun p hp => List.mem_map_of_mem (Service.repeated_mem_repeats hp)

/-- A position of the vehicle, handed in alone. -/
def centerSubmission : Request := .submit (some ⟨some 1, athensCenter, default, none⟩)

/-- The position as it is answered. -/
def centerSaved : Position := ⟨some 1, athensCenter, default, some 1⟩

/-- The store after the submission. -/
def afterCenter : Backing := (centerSubmission.run (.canonical .athens) Service.oneVehicle).2

/-- The store after the submission, the vehicle having been off duty in the meantime. -/
def afterBreak : Backing :=
  (FleetStore.setActive (FleetStore.setActive afterCenter (some 1) false).2 (some 1) true).2

theorem retry_afterBreak :
    Service.oneVehicle.IsIdle ∧ Service.oneVehicle.Holds [] ∧
    centerSubmission.run (.canonical .athens) Service.oneVehicle =
      (.ok (.position centerSaved), afterCenter) ∧
    Reachable .athens afterCenter false afterBreak ∧ IsActive afterBreak (some 1) ∧
    (∃ e, Service.submitBatch (.canonical .athens) .strict afterBreak (some [centerSaved]) =
      (.error (.rejected e), afterBreak)) ∧
    Service.submitBatch (.canonical .athens) .lenient afterBreak (some [centerSaved]) =
      (.ok [], afterBreak) := by
  have hidle : Service.oneVehicle.IsIdle := ⟨rfl, rfl⟩
  have hempty : Service.oneVehicle.Holds [] := ⟨rfl, rfl, fun _ h => nomatch h⟩
  have hrun : centerSubmission.run (.canonical .athens) Service.oneVehicle =
      (.ok (.position centerSaved), afterCenter) := rfl
  have hreachable : Reachable .athens afterCenter false afterBreak :=
    .setActive _ _ (.setActive _ _ .start)
  have hactive : IsActive afterBreak (some 1) := ⟨_, rfl, rfl⟩
  obtain ⟨_, _, hbatch⟩ := retry_of_reachable hidle hempty rfl hrun hreachable
  obtain ⟨⟨e, hstrict, _⟩, hlenient⟩ := hbatch [centerSaved] (List.cons_ne_nil _ _)
    (by simp [Answer.saved]) (by simpa [centerSaved] using hactive)
  exact ⟨hidle, hempty, hrun, hreachable, hactive, ⟨e, hstrict⟩, hlenient⟩

end FleetTracking
