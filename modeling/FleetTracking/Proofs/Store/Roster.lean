import FleetTracking.Proofs.Store.Window

/-!
# Questions about stored vehicles

What a store answers about vehicles depends on those that it keeps (`Backing.storedVehicles`): one
is found by its identifier (`Backing.vehicle?_of_storedVehicles`), which must be this one if all
identifiers are distinct (`Vehicle.lookup_eq`), and all are listed in the order of their names, none
left out and none repeated (`Backing.vehicles_of_storedVehicles`).
-/

namespace FleetTracking

/-! ## The order of names -/

namespace Vehicle

theorem name_le_trans (u v w : Vehicle) (huv : decide (u.name ≤ v.name) = true)
    (hvw : decide (v.name ≤ w.name) = true) : decide (u.name ≤ w.name) = true :=
  decide_eq_true (String.le_trans (of_decide_eq_true huv) (of_decide_eq_true hvw))

theorem name_le_total (v w : Vehicle) :
    (decide (v.name ≤ w.name) || decide (w.name ≤ v.name)) = true := by
  rw [Bool.or_eq_true, decide_eq_true_iff, decide_eq_true_iff]
  exact String.le_total _ _

end Vehicle

namespace Memory

variable (m : Memory)

theorem pairwise_vehiclesByName : m.vehiclesByName.Pairwise fun v w => v.name ≤ w.name :=
  (List.pairwise_mergeSort Vehicle.name_le_trans Vehicle.name_le_total m.vehicles).imp
    of_decide_eq_true

/-- Vehicles of one name stay in the order in which they are kept. -/
theorem filter_name_vehiclesByName (name : String) :
    (m.vehiclesByName.filter fun v => v.name == name) =
      m.vehicles.filter fun v => v.name == name := by
  have hsame : (m.vehicles.filter fun v => v.name == name).Pairwise
      fun v w => decide (v.name ≤ w.name) = true := by
    refine List.pairwise_of_forall_mem_list fun v hv w hw => ?_
    have hv : v.name = name := by simpa using (List.mem_filter.mp hv).2
    have hw : w.name = name := by simpa using (List.mem_filter.mp hw).2
    exact decide_eq_true (hv.trans hw.symm ▸ String.le_refl _)
  -- sorting leaves a part that is in order as it is, and has no other vehicles of the name
  have hsub := (List.sublist_mergeSort Vehicle.name_le_trans Vehicle.name_le_total hsame
    List.filter_sublist).filter fun v => v.name == name
  rw [List.filter_filter] at hsub
  simp only [Bool.and_self] at hsub
  exact (hsub.eq_of_length ((List.mergeSort_perm _ _).filter _).length_eq.symm).symm

end Memory

namespace Tables

/-- Rows are in order if the first one has the lesser name, or the same name and no greater
identifier. -/
theorem namedBefore_iff {a b : VehicleRow} :
    namedBefore a b = true ↔ a.name < b.name ∨ a.name = b.name ∧ a.id ≤ b.id := by
  simp [namedBefore]

theorem namedBefore_trans (a b c : VehicleRow) (hab : namedBefore a b = true)
    (hbc : namedBefore b c = true) : namedBefore a c = true := by
  rw [namedBefore_iff] at hab hbc ⊢
  rcases hab with hab | ⟨hab, hid⟩
  · rcases hbc with hbc | ⟨hbc, _⟩
    · exact .inl (String.lt_trans hab hbc)
    · exact .inl (hbc ▸ hab)
  · rcases hbc with hbc | ⟨hbc, hid'⟩
    · exact .inl (hab ▸ hbc)
    · exact .inr ⟨hab.trans hbc, Int.le_trans hid hid'⟩

theorem namedBefore_total (a b : VehicleRow) : (namedBefore a b || namedBefore b a) = true := by
  rw [Bool.or_eq_true, namedBefore_iff, namedBefore_iff]
  by_cases hab : a.name < b.name
  · exact .inl (.inl hab)
  · by_cases hba : b.name < a.name
    · exact .inr (.inl hba)
    · have hsame := String.le_antisymm (String.not_lt.mp hba) (String.not_lt.mp hab)
      rcases Int.le_total a.id b.id with hid | hid
      · exact .inl (.inr ⟨hsame, hid⟩)
      · exact .inr (.inr ⟨hsame.symm, hid⟩)

theorem name_le_of_namedBefore {a b : VehicleRow} (h : namedBefore a b = true) :
    a.name ≤ b.name := by
  rw [namedBefore_iff] at h
  intro hba
  rcases h with h | ⟨h, _⟩
  · exact String.lt_irrefl _ (String.lt_trans h hba)
  · exact String.lt_irrefl _ (h ▸ hba)

end Tables

/-! ## Vehicles by identifier -/

namespace Vehicle

/-- The vehicle that is named, among some. -/
def lookup (ws : List Vehicle) (u : VehicleRef) : Option Vehicle :=
  u.bind fun id => ws.find? fun w => w.id == id

theorem mem_of_lookup {ws : List Vehicle} {u : VehicleRef} {w : Vehicle}
    (h : lookup ws u = some w) : w ∈ ws ∧ some w.id = u := by
  obtain ⟨id, rfl, hfound⟩ := Option.bind_eq_some_iff.mp h
  have hid : w.id = id := by simpa using List.find?_some hfound
  exact ⟨List.mem_of_find?_eq_some hfound, congrArg some hid⟩

/-- Where identifiers are distinct, only the vehicle that is found has the one that was named. -/
theorem lookup_eq {ws : List Vehicle} (hdistinct : (ws.map Vehicle.id).Nodup) {w : Vehicle}
    (hw : w ∈ ws) : lookup ws (some w.id) = some w := by
  have hsome : (lookup ws (some w.id)).isSome = true :=
    List.find?_isSome.mpr ⟨w, hw, beq_self_eq_true _⟩
  obtain ⟨w', hfound⟩ := Option.isSome_iff_exists.mp hsome
  obtain ⟨hw', hid⟩ := mem_of_lookup hfound
  rw [hfound, eq_of_nodup_map hdistinct hw' hw (Option.some.inj hid)]

end Vehicle

namespace Tables

/-- The vehicles of all rows, in the order of the rows. -/
def storedVehicles (t : Tables) : Except Failure (List Vehicle) := do
  return (← rows t.vehicles).map VehicleRow.toVehicle

/-- A vehicle is looked up by its identifier, if this fits its column. -/
theorem vehicle?_eq {t : Tables} {ws : List Vehicle} (h : t.storedVehicles = .ok ws)
    (u : VehicleRef) :
    t.vehicle? u = if u.fits then .ok (Vehicle.lookup ws u) else .error .outOfRange := by
  obtain ⟨rows, hrows, hws⟩ := bind_eq_ok.mp h
  cases hws
  have hfind : (rows.find? fun r => some r.id == u).map VehicleRow.toVehicle =
      Vehicle.lookup (rows.map VehicleRow.toVehicle) u := by
    cases u with
    | none =>
      rw [List.find?_eq_none.mpr fun r _ => by simp]
      rfl
    | some id =>
      rw [Vehicle.lookup, Option.bind_some, List.find?_map]
      exact congrArg (fun p => (rows.find? p).map VehicleRow.toVehicle)
        (funext fun r => Option.some_beq_some)
  unfold vehicle?
  rw [hrows, ← hfind]
  rfl

/-- All vehicles are listed by name. -/
theorem vehiclesByName_eq {t : Tables} {ws : List Vehicle} (h : t.storedVehicles = .ok ws) :
    ∃ vs, t.vehiclesByName = .ok vs ∧ vs.Perm ws ∧ vs.Pairwise fun v w => v.name ≤ w.name := by
  obtain ⟨rows, hrows, hws⟩ := bind_eq_ok.mp h
  cases hws
  refine ⟨(rows.mergeSort namedBefore).map VehicleRow.toVehicle, ?_,
    (List.mergeSort_perm _ _).map _, ?_⟩
  · unfold vehiclesByName
    rw [hrows]
    rfl
  · rw [List.pairwise_map]
    exact (List.pairwise_mergeSort namedBefore_trans namedBefore_total rows).imp
      name_le_of_namedBefore

end Tables

/-! ## Either of both -/

namespace Backing

/-- All vehicles of the store at work, in the order in which they are kept. -/
def storedVehicles (b : Backing) : Except Failure (List Vehicle) :=
  b.ask (fun m => .ok m.vehicles) fun c => c.ask Tables.storedVehicles

variable {b : Backing} {ws : List Vehicle} (h : b.storedVehicles = .ok ws)

include h

/-- A vehicle is looked up by its identifier. Nothing is found where none is given. -/
theorem vehicle?_of_storedVehicles (u : VehicleRef) :
    FleetStore.vehicle? b u =
      if b.serves u then .ok (u.bind fun id => ws.find? fun w => w.id == id)
      else .error .outOfRange := by
  match b, h with
  | ⟨false, m, c⟩, h =>
    cases h
    rfl
  | ⟨true, m, c⟩, h =>
    obtain ⟨hstalled, hws⟩ := Connection.ask_eq_ok.mp (show c.ask Tables.storedVehicles = .ok ws from h)
    show c.ask (·.vehicle? u) = _
    rw [Connection.ask_of_not_isStalled hstalled]
    exact Tables.vehicle?_eq hws u

/-- Among vehicles that it serves, a store looks up the one that is named. -/
theorem vehicle?_eq_lookup {u : VehicleRef} (hserved : b.serves u = true) :
    FleetStore.vehicle? b u = .ok (Vehicle.lookup ws u) := by
  rw [vehicle?_of_storedVehicles h, if_pos hserved]
  rfl

/-- All vehicles are listed by name. -/
theorem vehicles_of_storedVehicles :
    ∃ vs, FleetStore.vehicles b = .ok vs ∧ vs.Perm ws ∧
      vs.Pairwise fun v w => v.name ≤ w.name := by
  match b, h with
  | ⟨false, m, c⟩, h =>
    cases h
    exact ⟨m.vehiclesByName, rfl, List.mergeSort_perm _ _, m.pairwise_vehiclesByName⟩
  | ⟨true, m, c⟩, h =>
    obtain ⟨hstalled, hws⟩ := Connection.ask_eq_ok.mp (show c.ask Tables.storedVehicles = .ok ws from h)
    obtain ⟨vs, hvs, hlisted⟩ := Tables.vehiclesByName_eq hws
    refine ⟨vs, ?_, hlisted⟩
    show c.ask Tables.vehiclesByName = _
    rw [Connection.ask_of_not_isStalled hstalled, hvs]

end Backing

end FleetTracking
