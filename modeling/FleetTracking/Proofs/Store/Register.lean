import FleetTracking.Proofs.Store.Arising
import FleetTracking.Proofs.Store.Enrollment
import Mathlib.Data.List.Forall2

/-!
# The register that a memory keeps of its vehicles

Vehicles are offered to a memory one by one and stored by saves, under identifiers that they ask
for or that the memory finds. What it keeps is told by the vehicles that saves have answered, in
their order (`Memory.IsRegister`): under each identifier the last one, in the place of the first.

The counter has passed every identifier that was ever used, which every single vehicle that is
stored makes so again (`Memory.IsRegister.store`), whether it brought an identifier or not, and
however small it was. That is why an identifier that the memory finds is a new one, also within a
save (`Memory.IsRegister.store_unnumbered`).

Main statement: `Memory.record_keepsRegister`.
-/

namespace FleetTracking

/-! ## One more at the end -/

theorem eraseDups_concat [BEq α] [LawfulBEq α] [DecidableEq α] (l : List α) (a : α) :
    (l ++ [a]).eraseDups = if a ∈ l then l.eraseDups else l.eraseDups ++ [a] := by
  rw [List.eraseDups_append]
  by_cases ha : a ∈ l
  · have hnone : [a].removeAll l = [] := by simp [List.removeAll, ha]
    rw [hnone, if_pos ha]
    exact List.append_nil _
  · have hall : [a].removeAll l = [a] := by simp [List.removeAll, ha]
    rw [hall, if_neg ha]
    rfl

theorem findRev?_concat (p : α → Bool) (l : List α) (a : α) :
    (l ++ [a]).findRev? p = if p a = true then some a else l.findRev? p := by
  simp only [List.findRev?_eq_find?_reverse, List.reverse_append, List.reverse_singleton,
    List.singleton_append, List.find?_cons]
  cases p a <;> rfl

namespace Memory

/-! ## What saves have answered -/

/-- What a memory keeps of the vehicles that saves have answered so far.

* `order` — identifiers stand in the order in which they were first used
* `found` — under each of them stands the vehicle that was answered last -/
structure IsRegister (m : Memory) (saved : List Vehicle) : Prop where
  named : ∀ v ∈ saved, Text.isAllBlank v.name = false
  passed : ∀ v ∈ saved, v.id < m.nextVehicle
  order : m.vehicles.map Vehicle.id = (saved.map Vehicle.id).eraseDups
  found : ∀ id, m.vehicle? (some id) = saved.findRev? fun v => v.id == id
  distinct : (m.vehicles.map Vehicle.id).Nodup
  offered : ∀ s ∈ m.stagedVehicles, Text.isAllBlank s.2.name = false

namespace IsRegister

variable {m : Memory} {saved : List Vehicle} (h : m.IsRegister saved)

theorem empty : Memory.empty.IsRegister [] where
  named _ hv := nomatch hv
  passed _ hv := nomatch hv
  order := rfl
  found _ := rfl
  distinct := List.nodup_nil
  offered _ hs := nomatch hs

include h

/-- A stored vehicle has been answered by a save, and is found under its identifier. -/
theorem of_mem {v : Vehicle} (hv : v ∈ m.vehicles) :
    v ∈ saved ∧ m.vehicle? (some v.id) = some v := by
  have hfound : m.vehicle? (some v.id) = some v := Vehicle.lookup_eq h.distinct hv
  refine ⟨?_, hfound⟩
  rw [h.found, List.findRev?_eq_find?_reverse] at hfound
  exact List.mem_reverse.mp (List.mem_of_find?_eq_some hfound)

/-! ## Storing -/

/-- One vehicle more, under whatever identifier: the counter passes it. -/
theorem store (wanted : Option Int) {data : VehicleData} (hdata : Text.isAllBlank data.name = false) :
    (m.storeVehicle wanted data).2.IsRegister (saved ++ [(m.storeVehicle wanted data).1]) where
  named := by
    intro v hv
    rcases List.mem_append.mp hv with hv | hv
    · exact h.named v hv
    · rw [List.mem_singleton.mp hv]
      exact hdata
  passed := by
    intro v hv
    show v.id < max m.nextVehicle (wanted.getD m.nextVehicle) + 1
    rcases List.mem_append.mp hv with hv | hv
    · have hpassed := h.passed v hv
      omega
    · rw [List.mem_singleton.mp hv]
      show wanted.getD m.nextVehicle < _
      omega
  order := by
    let v := data.withId (wanted.getD m.nextVehicle)
    show (putVehicle v m.vehicles).map Vehicle.id = ((saved ++ [v]).map Vehicle.id).eraseDups
    rw [map_id_putVehicle, h.order, List.map_append, List.map_singleton, eraseDups_concat]
    simp only [List.mem_eraseDups]
  found := by
    intro id
    let v := data.withId (wanted.getD m.nextVehicle)
    show (putVehicle v m.vehicles).find? _ = (saved ++ [v]).findRev? _
    have hfound : m.vehicles.find? (fun w => w.id == id) = saved.findRev? fun w => w.id == id :=
      h.found id
    rw [find?_putVehicle_eq, hfound, findRev?_concat]
    simp only [beq_iff_eq]
  distinct := nodup_putVehicle _ h.distinct
  offered := h.offered

/-- A vehicle without an identifier comes behind all others, under a greater identifier than any of
them, and than any other that was ever used. -/
theorem store_unnumbered (data : VehicleData) :
    m.storeVehicle none data = (data.withId m.nextVehicle, { m with
      vehicles := m.vehicles ++ [data.withId m.nextVehicle]
      nextVehicle := m.nextVehicle + 1 }) := by
  have hnew : ∀ w ∈ m.vehicles, w.id ≠ (data.withId m.nextVehicle).id := fun w hw =>
    Int.ne_of_lt (h.passed w (h.of_mem hw).1)
  have hcounter : max m.nextVehicle (data.withId m.nextVehicle).id + 1 = m.nextVehicle + 1 :=
    congrArg (· + 1) (Int.max_self _)
  unfold storeVehicle
  dsimp only [Option.getD_none]
  rw [putVehicle_new hnew, hcounter]

theorem storeVehicles {new : List (Option Int × VehicleData)}
    (hnew : ∀ s ∈ new, Text.isAllBlank s.2.name = false) :
    (m.storeVehicles new).2.IsRegister (saved ++ (m.storeVehicles new).1) := by
  induction new generalizing m saved with
  | nil =>
    show m.IsRegister (saved ++ [])
    rw [List.append_nil]
    exact h
  | cons s rest ih =>
    obtain ⟨hs, hrest⟩ := List.forall_mem_cons.mp hnew
    have hafter := ih (h.store s.1 hs) hrest
    rw [List.append_assoc] at hafter
    exact hafter

end IsRegister

/-! ## Saving -/

theorem storeVehicles_append (m : Memory) (first second : List (Option Int × VehicleData)) :
    m.storeVehicles (first ++ second) =
      ((m.storeVehicles first).1 ++ ((m.storeVehicles first).2.storeVehicles second).1,
        ((m.storeVehicles first).2.storeVehicles second).2) := by
  induction first generalizing m with
  | nil => rfl
  | cons s rest ih =>
    show ((m.storeVehicle s.1 s.2).1 :: ((m.storeVehicle s.1 s.2).2.storeVehicles (rest ++ second)).1,
      ((m.storeVehicle s.1 s.2).2.storeVehicles (rest ++ second)).2) = _
    rw [ih]
    rfl

/-- A vehicle is stored as it was staged, under the identifier that it asked for, if it did. -/
def IsStoredAs (s : Option Int × VehicleData) (v : Vehicle) : Prop :=
  v = s.2.withId v.id ∧ ∀ id, s.1 = some id → v.id = id

theorem forall₂_storeVehicles (m : Memory) (new : List (Option Int × VehicleData)) :
    List.Forall₂ IsStoredAs new (m.storeVehicles new).1 := by
  induction new generalizing m with
  | nil => exact .nil
  | cons s rest ih =>
    refine .cons ⟨rfl, ?_⟩ (ih _)
    intro id hid
    show s.1.getD m.nextVehicle = id
    rw [hid]
    rfl

/-! ## Runs -/

/-- What is done to the vehicles of a memory. -/
inductive VehicleWrite
  | add (v : VehicleDraft)
  | save

/-- What a write stores, and the memory after it. -/
def record (m : Memory) : VehicleWrite → List Vehicle × Memory
  | .add v => ([], (m.addVehicle v).2)
  | .save => m.saveVehicles

/-- What writes store one after another, and the memory after them. -/
def recordAll : Memory → List VehicleWrite → List Vehicle × Memory
  | m, [] => ([], m)
  | m, w :: rest =>
    let (saved, m) := m.record w
    let (more, m) := recordAll m rest
    (saved ++ more, m)

/-- The vehicles that wait for a save after a write. Those without a name do not. -/
def waitingAfter (waiting : List (Option Int × VehicleData)) :
    VehicleWrite → List (Option Int × VehicleData)
  | .add v => if v.isValid then waiting ++ [v.staged] else waiting
  | .save => []

/-- The vehicles that wait since the last save. -/
def waiting (ws : List VehicleWrite) : List (Option Int × VehicleData) := ws.foldl waitingAfter []

theorem addVehicle_refused (m : Memory) {v : VehicleDraft} (h : v.isValid = false) :
    m.addVehicle v = (.error .blankVehicleName, m) := by
  unfold addVehicle
  split
  · rw [h]
    rfl
  · rfl

theorem isAllBlank_staged {v : VehicleDraft} (h : v.isValid = true) :
    Text.isAllBlank v.staged.2.name = false := by
  obtain ⟨name, hname⟩ := VehicleDraft.name_of_isValid h
  unfold VehicleDraft.isValid at h
  unfold VehicleDraft.staged
  rw [hname] at h ⊢
  simpa using h

theorem stagedVehicles_record (m : Memory) (w : VehicleWrite) :
    (m.record w).2.stagedVehicles = waitingAfter m.stagedVehicles w := by
  cases w with
  | add v =>
    show (m.addVehicle v).2.stagedVehicles = if v.isValid then _ else _
    cases hv : v.isValid with
    | true =>
      rw [m.addVehicle_eq hv]
      rfl
    | false =>
      rw [m.addVehicle_refused hv]
      rfl
  | save => rfl

theorem stagedVehicles_recordAll (m : Memory) (ws : List VehicleWrite) :
    (m.recordAll ws).2.stagedVehicles = ws.foldl waitingAfter m.stagedVehicles := by
  induction ws generalizing m with
  | nil => rfl
  | cons w rest ih =>
    rw [List.foldl_cons, ← stagedVehicles_record]
    exact ih _

namespace IsRegister

variable {m : Memory} {saved : List Vehicle}

theorem record (h : m.IsRegister saved) (w : VehicleWrite) :
    (m.record w).2.IsRegister (saved ++ (m.record w).1) := by
  cases w with
  | add v =>
    show (m.addVehicle v).2.IsRegister (saved ++ [])
    rw [List.append_nil]
    cases hv : v.isValid with
    | true =>
      rw [m.addVehicle_eq hv]
      refine ⟨h.named, h.passed, h.order, h.found, h.distinct, ?_⟩
      intro s hs
      rcases List.mem_append.mp hs with hs | hs
      · exact h.offered s hs
      · rw [List.mem_singleton.mp hs]
        exact isAllBlank_staged hv
    | false =>
      rw [m.addVehicle_refused hv]
      exact h
  | save =>
    have hafter := h.storeVehicles h.offered
    exact ⟨hafter.named, hafter.passed, hafter.order, hafter.found, hafter.distinct,
      fun s hs => nomatch hs⟩

theorem recordAll (h : m.IsRegister saved) (ws : List VehicleWrite) :
    (m.recordAll ws).2.IsRegister (saved ++ (m.recordAll ws).1) := by
  induction ws generalizing m saved with
  | nil =>
    show m.IsRegister (saved ++ [])
    rw [List.append_nil]
    exact h
  | cons w rest ih =>
    have hafter := ih (h.record w)
    rw [List.append_assoc] at hafter
    exact hafter

end IsRegister

/-! ## Listing -/

theorem filter_id_eq {vs : List Vehicle} (h : (vs.map Vehicle.id).Nodup) (id : Int) :
    (vs.filter fun v => v.id == id) = (vs.find? fun v => v.id == id).toList := by
  induction vs with
  | nil => rfl
  | cons v rest ih =>
    rw [List.map_cons, List.nodup_cons] at h
    rw [List.filter_cons, List.find?_cons]
    cases hv : v.id == id with
    | true =>
      have hnone : (rest.filter fun w => w.id == id) = [] := by
        rw [List.filter_eq_nil_iff]
        intro w hw hid
        exact h.1 (List.mem_map.mpr ⟨w, hw, (eq_of_beq hid).trans (eq_of_beq hv).symm⟩)
      rw [if_pos rfl, hnone]
      rfl
    | false =>
      rw [if_neg Bool.false_ne_true, ih h.2]

/-- All vehicles are listed, each once and as it is found. -/
theorem IsRegister.filter_id_vehiclesByName {m : Memory} {saved : List Vehicle}
    (h : m.IsRegister saved) (id : Int) :
    (m.vehiclesByName.filter fun v => v.id == id) = (m.vehicle? (some id)).toList := by
  have hperm : (m.vehiclesByName.filter fun v => v.id == id).Perm
      (m.vehicles.filter fun v => v.id == id) := (List.mergeSort_perm _ _).filter _
  rw [filter_id_eq h.distinct] at hperm
  show _ = (m.vehicles.find? fun v => v.id == id).toList
  cases hfound : m.vehicles.find? fun v => v.id == id with
  | none =>
    rw [hfound] at hperm
    exact hperm.eq_nil
  | some v =>
    rw [hfound] at hperm
    exact List.perm_singleton.mp hperm

/-! ## The register -/

/-- What a memory is after writes of vehicles, by which it has answered those that are saved.

* `found` — a vehicle stands under its own identifier, and no other one does
* `latest`, `named` — it is the one that was answered last under the identifier, and has a name
* `passed` — the counter has passed every identifier
* `refused`, `accepted` — a vehicle without a name changes nothing, and any other one waits behind
  those that wait for a save
* `answers`, `emptied` — a save answers what waits, in order, and nothing waits after it
* `unnumbered` — what waits without an identifier gets one that is greater than all that were used
  until then, also earlier in the same save, and takes the place of nothing
* `order` — vehicles are kept in the order in which their identifiers were first used
* `sorted`, `stable`, `exact` — they are listed in the order of their names, those of one name in the
  order in which they are kept, and under each identifier just the vehicle that is found there -/
structure KeepsRegister (ws : List VehicleWrite) (saved : List Vehicle) (m : Memory) : Prop where
  found : ∀ id v, m.vehicle? (some id) = some v ↔ v ∈ m.vehicles ∧ v.id = id
  latest : ∀ id, m.vehicle? (some id) = saved.findRev? fun v => v.id == id
  named : ∀ v ∈ m.vehicles, Text.isAllBlank v.name = false
  passed : ∀ v ∈ m.vehicles, v.id < m.nextVehicle
  refused : ∀ v, v.isValid = false → m.addVehicle v = (.error .blankVehicleName, m)
  accepted : ∀ v, v.isValid = true → m.addVehicle v =
    (.ok (), { m with stagedVehicles := waiting ws ++ [v.staged] })
  answers : List.Forall₂ IsStoredAs (waiting ws) m.saveVehicles.1
  emptied : m.saveVehicles.2.stagedVehicles = []
  unnumbered : ∀ before data after, waiting ws = before ++ (none, data) :: after →
    ∃ v later, m.saveVehicles.1 = (m.storeVehicles before).1 ++ v :: later ∧
      v = data.withId v.id ∧
      (∀ w ∈ saved ++ (m.storeVehicles before).1, w.id < v.id) ∧
      (m.storeVehicles (before ++ [(none, data)])).2.vehicles =
        (m.storeVehicles before).2.vehicles ++ [v]
  order : m.vehicles.map Vehicle.id = (saved.map Vehicle.id).eraseDups
  sorted : m.vehiclesByName.Pairwise fun v w => v.name ≤ w.name
  stable : ∀ name, (m.vehiclesByName.filter fun v => v.name == name) =
    m.vehicles.filter fun v => v.name == name
  exact : ∀ id, (m.vehiclesByName.filter fun v => v.id == id) = (m.vehicle? (some id)).toList

/-- Whatever is added, and saved whenever, a memory keeps the register. -/
theorem record_keepsRegister (ws : List VehicleWrite) :
    KeepsRegister ws (empty.recordAll ws).1 (empty.recordAll ws).2 := by
  have h : (empty.recordAll ws).2.IsRegister (empty.recordAll ws).1 := IsRegister.empty.recordAll ws
  have hwaiting : (empty.recordAll ws).2.stagedVehicles = waiting ws :=
    stagedVehicles_recordAll empty ws
  generalize (empty.recordAll ws).1 = saved, (empty.recordAll ws).2 = m at h hwaiting
  have hsave : m.saveVehicles.1 = (m.storeVehicles (waiting ws)).1 := by
    rw [← hwaiting]
    rfl
  exact {
    found := by
      intro id v
      constructor
      · intro hfound
        have hfound : Vehicle.lookup m.vehicles (some id) = some v := hfound
        obtain ⟨hv, hid⟩ := Vehicle.mem_of_lookup hfound
        exact ⟨hv, Option.some.inj hid⟩
      · rintro ⟨hv, rfl⟩
        exact (h.of_mem hv).2
    latest := h.found
    named := fun v hv => h.named v (h.of_mem hv).1
    passed := fun v hv => h.passed v (h.of_mem hv).1
    refused := fun v hv => m.addVehicle_refused hv
    accepted := fun v hv => hwaiting ▸ m.addVehicle_eq hv
    answers := hsave ▸ forall₂_storeVehicles m (waiting ws)
    emptied := rfl
    unnumbered := by
      intro before data after hsplit
      have hoffered := h.offered
      rw [hwaiting, hsplit] at hoffered
      have hbefore := h.storeVehicles fun s hs => hoffered s (List.mem_append_left _ hs)
      have hstore := hbefore.store_unnumbered data
      refine ⟨data.withId (m.storeVehicles before).2.nextVehicle,
        ((m.storeVehicles before).2.storeVehicle none data).2.storeVehicles after |>.1,
        ?_, rfl, hbefore.passed, ?_⟩
      · rw [hsave, hsplit, storeVehicles_append]
        rfl
      · rw [storeVehicles_append]
        show ((m.storeVehicles before).2.storeVehicle none data).2.vehicles = _
        rw [hstore]
    order := h.order
    sorted := m.pairwise_vehiclesByName
    stable := m.filter_name_vehiclesByName
    exact := h.filter_id_vehiclesByName }

/-- The counter passes identifiers that are asked for, also those it was past already. -/
example : (empty.recordAll [.add ⟨none, "Van", true, none⟩, .add ⟨some 5, "Bus", true, none⟩,
    .add ⟨none, "Tram", true, none⟩, .save, .add ⟨some (-3), "Bus", true, none⟩,
    .add ⟨some 1, "Truck", true, none⟩, .add ⟨none, "Bus", true, none⟩, .save]).1.map Vehicle.id =
    [1, 5, 6, -3, 1, 9] := by decide

end Memory

end FleetTracking
