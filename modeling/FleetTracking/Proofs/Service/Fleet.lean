import FleetTracking.Proofs.Service.Story
import Mathlib.Data.List.Forall2

/-!
# Views of the fleet

Vehicles can be listed, listed with their latest positions, and asked about one by one. The lists
hold every stored vehicle once, in the order of names, and what is said of one vehicle alone is what
the lists say of it (`Backing.Arises.showsFleet`).

Each of these services asks the store in a way of its own. They agree since no two vehicles of a
store that has arisen share an identifier: the one that is listed is the one that is found
(`Backing.vehicle?_stored`), and its position is looked up under this identifier.
-/

namespace FleetTracking

/-- What a walk comes to stands beside what it walks over. -/
theorem forall₂_of_mapM {f : α → Except ε β} {l : List α} {bs : List β} {R : α → β → Prop}
    (hR : ∀ a ∈ l, ∀ b, f a = .ok b → R a b) (h : l.mapM f = .ok bs) : List.Forall₂ R l bs := by
  induction l generalizing bs with
  | nil =>
    cases h
    exact .nil
  | cons a rest ih =>
    obtain ⟨b, others, hb, hothers, rfl⟩ := mapM_cons_eq_ok.mp h
    obtain ⟨ha, hrest⟩ := List.forall_mem_cons.mp hR
    exact .cons (ha b hb) (ih hrest hothers)

namespace Service

variable {σ : Type} [FleetStore σ]

/-- The entry is that of the vehicle: it has its record, and its latest position just as this is
answered alone, which is a position of the vehicle and of no other. -/
structure IsEntryOf (s : σ) (w : Vehicle) (entry : TrackedVehicle) : Prop where
  vehicle : entry.vehicle = .ofVehicle w
  lastPosition : Service.lastPosition s (some w.id) = .ok entry.lastPosition
  owner : ∀ p, entry.lastPosition = some p → p.vehicle = .int w.id

/-- The views of a fleet show these vehicles, in this order, with these entries.

* `found` — a vehicle that is listed is what is answered alone, without position and with it
* `missing` — where no vehicle is listed, there is none to be asked about -/
structure ShowsFleet (s : σ) (vs : List Vehicle) (entries : List TrackedVehicle) : Prop where
  distinct : (vs.map Vehicle.id).Nodup
  byName : vs.Pairwise fun v w => v.name ≤ w.name
  allVehicles : Service.allVehicles s = .ok (vs.map VehicleRecord.ofVehicle)
  trackedVehicles : Service.trackedVehicles s = .ok entries
  areEntries : List.Forall₂ (IsEntryOf s) vs entries
  found : ∀ w ∈ vs, ∃ entry ∈ entries, IsEntryOf s w entry ∧
    Service.vehicle s (some w.id) = .ok (.ofVehicle w) ∧
    Service.trackedVehicle s (some w.id) = .ok entry
  missing : ∀ id, VehicleRef.fits (some id) = true → (∀ w ∈ vs, w.id ≠ id) →
    Service.vehicle s (some id) = .error (.notFound "Vehicle" (.int id) none) ∧
    Service.trackedVehicle s (some id) = .error (.notFound "Vehicle" (.int id) none) ∧
    Service.lastPosition s (some id) = .error (.notFound "Vehicle" (.int id) none)

variable {s : σ} {u : VehicleRef} {w : Vehicle}

/-- Nothing is answered about a vehicle that is not there. -/
theorem unanswered_missing (h : FleetStore.vehicle? s u = .ok none) :
    vehicle s u = .error (.notFound "Vehicle" (VehicleRef.toJson u) none) ∧
    trackedVehicle s u = .error (.notFound "Vehicle" (VehicleRef.toJson u) none) ∧
    lastPosition s u = .error (.notFound "Vehicle" (VehicleRef.toJson u) none) := by
  have hrequire := requireVehicle_missing h
  refine ⟨?_, ?_, ?_⟩
  · unfold vehicle
    rw [hrequire]
    rfl
  · unfold trackedVehicle
    rw [hrequire]
    rfl
  · unfold lastPosition
    rw [hrequire]
    rfl

/-- A vehicle that is there is answered, and with its entry. -/
theorem answered_found (h : FleetStore.vehicle? s u = .ok (some w)) {entry : TrackedVehicle}
    (hentry : track s w = .ok entry) :
    vehicle s u = .ok (.ofVehicle w) ∧ trackedVehicle s u = .ok entry := by
  have hrequire := requireVehicle_found h
  constructor
  · unfold vehicle
    rw [hrequire]
    rfl
  · unfold trackedVehicle
    rw [hrequire]
    exact hentry

theorem track_eq {last : Option Position} (h : FleetStore.last? s (some w.id) = .ok last) :
    track s w = .ok ⟨.ofVehicle w, last.map PositionRecord.ofPosition⟩ := by
  unfold track
  rw [h]
  rfl

end Service

namespace Backing

open Service

variable {b : Backing} {ws : List Vehicle}

/-- A stored vehicle is the one that is found under its identifier. -/
theorem vehicle?_stored (hws : b.storedVehicles = .ok ws) (hdistinct : (ws.map Vehicle.id).Nodup)
    {w : Vehicle} (hw : w ∈ ws) (hserved : b.serves (some w.id) = true) :
    FleetStore.vehicle? b (some w.id) = .ok (some w) := by
  rw [vehicle?_eq_lookup hws hserved, Vehicle.lookup_eq hdistinct hw]

section Tracked

variable {ps : List Position} (hps : b.Holds ps) {w : Vehicle}
  (hw : FleetStore.vehicle? b (some w.id) = .ok (some w))

include hps hw

theorem exists_track : ∃ entry, track b w = .ok entry := by
  obtain ⟨last, hlast, _⟩ := isLatest_last? hps hw
  exact ⟨_, track_eq hlast⟩

theorem isEntryOf_track {entry : TrackedVehicle} (h : track b w = .ok entry) :
    IsEntryOf b w entry := by
  obtain ⟨last, hlast, hlatest⟩ := isLatest_last? hps hw
  rw [track_eq hlast] at h
  cases h
  constructor
  case vehicle => rfl
  case lastPosition =>
    unfold lastPosition
    rw [requireVehicle_found hw, hlast]
    rfl
  case owner =>
    intro r hr
    cases hlatest with
    | missing => cases hr
    | found p _ hu _ =>
      cases hr
      exact congrArg VehicleRef.toJson hu

end Tracked

/-- In a store that has arisen, the views of the fleet show all stored vehicles and agree with each
other. -/
theorem Arises.showsFleet (hb : b.Arises) :
    ∃ ws vs entries, b.storedVehicles = .ok ws ∧ vs.Perm ws ∧ ShowsFleet b vs entries := by
  -- tables give out no identifier that they cannot be asked for, and a memory can be asked for any
  obtain ⟨ws, hws, hdistinct, hserved⟩ := hb.isConsistent.exists_storedVehicles
  obtain ⟨ps, hps, _⟩ := hb.isConsistent.exists_holds
  obtain ⟨vs, hvs, hperm, hbyName⟩ := vehicles_of_storedVehicles hws
  have hvehicle (w : Vehicle) (hw : w ∈ vs) : FleetStore.vehicle? b (some w.id) = .ok (some w) :=
    have hw := hperm.mem_iff.mp hw
    vehicle?_stored hws hdistinct hw (hserved w hw)
  have hentry (w : Vehicle) (hw : w ∈ vs) (entry : TrackedVehicle) (h : track b w = .ok entry) :
      IsEntryOf b w entry := isEntryOf_track hps (hvehicle w hw) h
  obtain ⟨entries, hentries⟩ := exists_mapM fun w hw => exists_track hps (hvehicle w hw)
  refine ⟨ws, vs, entries, hws, hperm, ?_⟩
  constructor
  case distinct => exact (hperm.map Vehicle.id).nodup_iff.mpr hdistinct
  case byName => exact hbyName
  case allVehicles =>
    unfold Service.allVehicles
    rw [hvs]
    rfl
  case trackedVehicles =>
    unfold Service.trackedVehicles
    rw [hvs]
    exact hentries
  case areEntries => exact forall₂_of_mapM hentry hentries
  case found =>
    intro w hw
    obtain ⟨entry, hmem, htracked⟩ := exists_mem_of_mapM hentries hw
    exact ⟨entry, hmem, hentry w hw entry htracked, answered_found (hvehicle w hw) htracked⟩
  case missing =>
    intro id hid hnone
    refine unanswered_missing (u := some id) ?_
    rw [vehicle?_of_storedVehicles hws, if_pos (b.serves_of_fits hid), Option.bind_some,
      List.find?_eq_none.mpr]
    intro w hw hsame
    exact hnone w (hperm.mem_iff.mpr hw) (beq_iff_eq.mp hsame)

theorem showsFleet_watched :
    (watched true).Arises ∧ (watched true).storedVehicles.map (List.map Vehicle.id) = .ok [1, 2] ∧
    ∃ ws vs entries, (watched true).storedVehicles = .ok ws ∧ vs.Perm ws ∧
      ShowsFleet (watched true) vs entries :=
  ⟨arises_watched true, rfl, (arises_watched true).showsFleet⟩

end Backing

end FleetTracking
