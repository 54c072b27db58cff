import FleetTracking.Proofs.Service.Invariant
import Mathlib.Data.List.Nodup

/-!
# New positions of an active vehicle

Positions of an active vehicle that lie in the box, with keys that are not taken and all different,
pass every rule (`New`). Handed in alone or as a batch, and under either policy, all of them are
stored by one save (`submit_of_new`, `submitBatch_of_new`).

The items of a batch are checked against the store as it was before the batch and against the
instants of the items before them, so that their order makes no difference.
-/

namespace FleetTracking

/-- The vehicle is known and takes reports. -/
def IsActive [FleetStore σ] (s : σ) (u : VehicleRef) : Prop :=
  ∃ w, FleetStore.vehicle? s u = .ok (some w) ∧ w.isActive = true

/-- Positions of one vehicle that can be stored in addition to others. -/
structure New (box : Box) (u : VehicleRef) (stored ps : List Position) : Prop where
  vehicle : ∀ p ∈ ps, p.vehicle = u
  inside : ∀ p ∈ ps, box.contains p.coordinates.toPoint = true
  keys : (ps.map Position.key).Nodup
  untaken : ∀ p ∈ ps, p.key ∉ stored.map Position.key

namespace Service

variable {σ : Type} [FleetStore σ] {box : Box} {s : σ} {u : VehicleRef} {w : Vehicle}
  {stored ps : List Position} (hvehicle : FleetStore.vehicle? s u = .ok (some w))
  (hactive : w.isActive = true)

include hvehicle

theorem isRecorded_of_new [HoldingStore σ] (hs : HoldingStore.Holds s stored)
    (h : New box u stored ps) {p : Position} (hp : p ∈ ps) :
    FleetStore.isRecorded s p.vehicle p.recordedAt = .ok false := by
  rw [HoldingStore.isRecorded_eq _ hs (h.vehicle p hp ▸ hvehicle)]
  exact congrArg Except.ok (decide_eq_false (h.untaken p hp))

include hactive

/-! ## What the rules say -/

theorem validateBatch_of_vehicle (hne : ps ≠ []) (hps : ∀ p ∈ ps, p.vehicle = u) :
    Validator.validateBatch s ps = .ok .accepted := by
  cases ps with
  | nil => exact absurd rfl hne
  | cons p rest =>
    have hp : p.vehicle = u := hps p List.mem_cons_self
    have hmixed : (rest.any fun q => q.vehicle != p.vehicle) = false := by
      rw [List.any_eq_false]
      intro q hq
      simp [hps q (List.mem_cons_of_mem _ hq), hp]
    unfold Validator.validateBatch
    dsimp only
    rw [hmixed, hp, hvehicle]
    show Except.ok (if w.isActive then _ else _) = _
    rw [hactive]
    rfl

theorem validate_of_new {p : Position} (hp : p.vehicle = u)
    (hinside : box.contains p.coordinates.toPoint = true)
    (hnew : FleetStore.isRecorded s p.vehicle p.recordedAt = .ok false) :
    (Validator.canonical box).validate s p = .ok .accepted := by
  rw [validate_canonical box (hp ▸ hvehicle) hactive, hnew]
  simp [Except.map, itemReasons, hinside, Verdict.ofReasons]

/-- Items at instants that are neither recorded nor seen, and all different, are all accepted. -/
theorem screen_of_new {seen : List Instant} (hps : ∀ p ∈ ps, p.vehicle = u)
    (hinside : ∀ p ∈ ps, box.contains p.coordinates.toPoint = true)
    (hnew : ∀ p ∈ ps, FleetStore.isRecorded s p.vehicle p.recordedAt = .ok false)
    (htimes : (ps.map Position.recordedAt).Nodup) (hseen : ∀ p ∈ ps, p.recordedAt ∉ seen) :
    screen (.canonical box) s seen ps = .ok ⟨ps, []⟩ := by
  -- the instant of an accepted item joins what was seen, and differs from all that are left
  induction ps generalizing seen with
  | nil => rfl
  | cons p rest ih =>
    obtain ⟨hp, hps⟩ := List.forall_mem_cons.mp hps
    obtain ⟨hpinside, hinside⟩ := List.forall_mem_cons.mp hinside
    obtain ⟨hpnew, hnew⟩ := List.forall_mem_cons.mp hnew
    obtain ⟨hpseen, hseen⟩ := List.forall_mem_cons.mp hseen
    rw [List.map_cons, List.nodup_cons] at htimes
    have hfound : itemViolations (.canonical box) s seen p = .ok [] := by
      rw [itemViolations_canonical box (hp ▸ hvehicle) hactive hpnew fun _ => rfl]
      simp [itemReasons, hpinside, hpseen]
    have hseen' : ∀ q ∈ rest, q.recordedAt ∉ p.recordedAt :: seen := by
      intro q hq hmem
      rcases List.mem_cons.mp hmem with hsame | hmem
      · exact htimes.1 (hsame ▸ List.mem_map_of_mem hq)
      · exact hseen q hq hmem
    have hrest := ih hps hinside hnew htimes.2 hseen'
    unfold screen
    rw [hfound]
    show (do let others ← screen (.canonical box) s (p.recordedAt :: seen) rest; _) = _
    rw [hrest]
    rfl

/-! ## What becomes of them -/

variable [HoldingStore σ] (hs : LawfulStore.IsIdle s) (hsound : Sound box s stored)

include hs hsound

/-- A new position that is submitted alone is stored. -/
theorem submit_of_new {p : Position} (h : New box u stored [p]) :
    ∃ q s', submit (.canonical box) s (some p) = (.ok q, s') ∧ store s [p] = (.ok [q], s') ∧
      LawfulStore.IsIdle s' ∧ Sound box s' (stored ++ [q]) := by
  have hp := h.vehicle p (List.mem_singleton_self p)
  have hinside := h.inside p (List.mem_singleton_self p)
  have hnew := isRecorded_of_new hvehicle hsound.holds h (List.mem_singleton_self p)
  obtain ⟨q, s', hstore⟩ := LawfulStore.store_one hs (hp ▸ hvehicle) hnew
  obtain ⟨_, _, hsound'⟩ := Sound.store hs hsound (hp ▸ hvehicle) hinside hnew hstore
  refine ⟨q, s', ?_, hstore, LawfulStore.isIdle_store hs hstore, hsound'⟩
  unfold submit
  dsimp only
  rw [validate_of_new hvehicle hactive hp hinside hnew]
  dsimp only
  rw [hstore]
  rfl

/-- New positions that are submitted as a batch are all stored, under either policy. -/
theorem submitBatch_of_new (hne : ps ≠ []) (h : New box u stored ps) (policy : BatchPolicy) :
    ∃ saved s', submitBatch (.canonical box) policy s (some ps) = (.ok saved, s') ∧
      store s ps = (.ok saved, s') ∧ LawfulStore.IsIdle s' ∧ Sound box s' (stored ++ saved) := by
  have hbatch := validateBatch_of_vehicle hvehicle hactive hne h.vehicle
  have htimes : (ps.map Position.recordedAt).Nodup := by
    refine List.Nodup.of_map (Prod.mk u) ?_
    rw [List.map_map]
    have hkeys : ps.map Position.key = ps.map (Prod.mk u ∘ Position.recordedAt) :=
      List.map_congr_left fun p hp => Prod.ext (h.vehicle p hp) rfl
    exact hkeys ▸ h.keys
  have hscreen : screen (.canonical box) s [] ps = .ok ⟨ps, []⟩ :=
    screen_of_new hvehicle hactive h.vehicle h.inside
      (fun p hp => isRecorded_of_new hvehicle hsound.holds h hp) htimes (by simp)
  obtain ⟨each, found, s', heach, hscreen', _, _, hstore⟩ | ⟨e, _, _, hscreen'⟩ :=
    submitEach_cases box hs hbatch
  · rw [hscreen] at hscreen'
    obtain ⟨haccepted, rfl⟩ := Screening.mk.inj (Except.ok.inj hscreen')
    rw [← haccepted] at hstore
    have hsubmit : submitBatch (.canonical box) policy s (some ps) =
        if policy = .strict ∧ [] ≠ [] then (.error (.ofViolations []), s) else (.ok each.saved, s') :=
      submitBatch_of_screen hbatch hscreen (LawfulStore.store_nil hs) hstore
    rw [if_neg fun hrejected => hrejected.2 rfl] at hsubmit
    obtain ⟨hs', hsound'⟩ := submitEach_sound hs hsound heach
    exact ⟨each.saved, s', hsubmit, hstore, hs', hsound'⟩
  · rw [hscreen] at hscreen'
    nomatch hscreen'

end Service

end FleetTracking
