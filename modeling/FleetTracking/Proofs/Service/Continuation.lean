import FleetTracking.Proofs.Service.Acceptance
import FleetTracking.Proofs.Store.Appended
import FleetTracking.Proofs.Store.Window

/-!
# Batches that go on where a vehicle has come to

A batch whose positions lie in the box, one later than the other and all of them later than what is
stored of their vehicle, passes every rule and is stored as a whole, and its last position is the
last one of the vehicle from then on (`submitBatch_of_continues`).

Rising instants are what keeps such a batch free of repeats, against the store and within itself.
-/

namespace FleetTracking

/-- A batch of positions that goes on where a vehicle has come to in a store of other positions. -/
structure Continues (box : Box) (u : VehicleRef) (stored ps : List Position) : Prop where
  nonempty : ps ≠ []
  vehicle : ∀ p ∈ ps, p.vehicle = u
  inside : ∀ p ∈ ps, box.contains p.coordinates.toPoint = true
  rising : (ps.map Position.recordedAt).Pairwise (· < ·)
  later : ∀ q ∈ stored, q.vehicle = u → ∀ p ∈ ps, q.recordedAt < p.recordedAt

namespace Continues

variable {box : Box} {u : VehicleRef} {stored ps : List Position} (h : Continues box u stored ps)

include h

theorem not_mem_keys {p : Position} (hp : p ∈ ps) : p.key ∉ stored.map Position.key := by
  intro hmem
  obtain ⟨q, hq, hkey⟩ := List.mem_map.mp hmem
  have hvehicle : q.vehicle = u := (congrArg Prod.fst hkey).trans (h.vehicle p hp)
  have hlt := h.later q hq hvehicle p hp
  have htime : q.recordedAt = p.recordedAt := congrArg Prod.snd hkey
  rw [htime] at hlt
  exact Nat.lt_irrefl _ hlt

/-- Rising instants are all different, and later ones are not taken. -/
theorem new : New box u stored ps where
  vehicle := h.vehicle
  inside := h.inside
  keys := by
    refine List.Nodup.of_map Prod.snd ?_
    rw [List.map_map]
    exact h.rising.imp fun hlt hsame => Nat.ne_of_lt hlt (congrArg Instant.micros hsame)
  untaken _ hp := h.not_mem_keys hp

/-- The last of the copies that a save answers is later than all that is stored of the vehicle. -/
theorem isLatest_getLast? {saved : List Position} (hcopies : List.Forall₂ Position.IsCopyOf saved ps) :
    ∃ q ∈ saved, saved.getLast? = some q ∧ q.vehicle = u ∧
      ∀ r ∈ stored ++ saved, r.vehicle = u → r.recordedAt ≤ q.recordedAt := by
  have hkeys := Position.map_key_of_forall₂ hcopies
  have hne : saved ≠ [] := by
    rintro rfl
    cases hcopies
    exact h.nonempty rfl
  have htimes : saved.map Position.recordedAt = ps.map Position.recordedAt := by
    have hsnd := congrArg (List.map Prod.snd) hkeys
    rwa [List.map_map, List.map_map] at hsnd
  have hmem {q : Position} (hq : q ∈ saved) : ∃ p ∈ ps, p.key = q.key := by
    have hkey := List.mem_map_of_mem (f := Position.key) hq
    rw [hkeys] at hkey
    exact List.mem_map.mp hkey
  have hlast := List.getLast_mem hne
  obtain ⟨p, hp, hkey⟩ := hmem hlast
  refine ⟨saved.getLast hne, hlast, List.getLast?_eq_some_getLast hne, ?_, ?_⟩
  · exact (congrArg Prod.fst hkey).symm.trans (h.vehicle p hp)
  · intro r hr hru
    rcases List.mem_append.mp hr with hr | hr
    · have hlt := h.later r hr hru p hp
      rw [show p.recordedAt = (saved.getLast hne).recordedAt from congrArg Prod.snd hkey] at hlt
      exact Nat.le_of_lt hlt
    · -- the last of rising instants is the greatest
      have hrising := h.rising
      rw [← htimes, ← List.dropLast_append_getLast hne, List.map_append, List.pairwise_append]
        at hrising
      rw [← List.dropLast_append_getLast hne] at hr
      rcases List.mem_append.mp hr with hr | hr
      · exact Nat.le_of_lt (hrising.2.2 _ (List.mem_map_of_mem hr) _ List.mem_cons_self)
      · rw [List.mem_singleton.mp hr]
        exact Nat.le_refl _

end Continues

/-- A batch that goes on where an active vehicle has come to passes the check of the batch and, each
alone, all rules. Under the strict policy it is stored and answered as a whole and in its order, and
its last position is the last one of the vehicle from then on. -/
theorem submitBatch_of_continues {box : Box} {b : Backing} {stored ps : List Position}
    (hb : b.IsIdle) (hsound : Sound box b stored) {u : VehicleRef} {w : Vehicle}
    (hvehicle : FleetStore.vehicle? b u = .ok (some w)) (hactive : w.isActive = true)
    (h : Continues box u stored ps) :
    Validator.validateBatch b ps = .ok .accepted ∧
    (∀ p ∈ ps, (Validator.canonical box).validate b p = .ok .accepted) ∧
    ∃ saved b', Service.submitBatch (.canonical box) .strict b (some ps) = (.ok saved, b') ∧
      List.Forall₂ Position.IsCopyOf saved ps ∧ b.Appended saved b' ∧
      FleetStore.vehicle? b' u = .ok (some w) ∧ FleetStore.last? b' u = .ok saved.getLast? := by
  have hnew : ∀ p ∈ ps, FleetStore.isRecorded b p.vehicle p.recordedAt = .ok false :=
    fun p hp => Service.isRecorded_of_new hvehicle hsound.holds h.new hp
  refine ⟨Service.validateBatch_of_vehicle hvehicle hactive h.nonempty h.vehicle, fun p hp =>
    Service.validate_of_new hvehicle hactive (h.vehicle p hp) (h.inside p hp) (hnew p hp), ?_⟩
  obtain ⟨saved, b', hsubmit, hstore, _, hsound'⟩ :=
    Service.submitBatch_of_new hvehicle hactive hb hsound h.nonempty h.new .strict
  obtain ⟨happended, hcopies⟩ := Backing.appended_store hb hstore
  have hvehicle' : FleetStore.vehicle? b' u = .ok (some w) := by
    rw [(LawfulStore.stored hb hstore).vehicle?, hvehicle]
  obtain ⟨last, hlast, hlatest⟩ := Backing.isLatest_last? hsound'.holds hvehicle'
  obtain ⟨q, hq, hgetLast, hqu, hqlatest⟩ := h.isLatest_getLast? hcopies
  have hsame : last = some q :=
    hlatest.eq_some hsound'.keys (List.mem_append_right _ hq) hqu hqlatest
  exact ⟨saved, b', hsubmit, hcopies, happended, hvehicle', by rw [hlast, hsame, hgetLast]⟩

end FleetTracking
