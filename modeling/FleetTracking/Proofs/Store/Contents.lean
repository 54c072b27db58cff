import FleetTracking.Proofs.Store.Lawful

/-!
# What a store holds

The positions that a store holds, in the order in which they were stored (`HoldingStore.Holds`).
An instant is recorded for a known vehicle just if one of them has it as its key, and a save of one
position puts its copy behind them, under a number that none of them has.

Vehicles that are added or switched change nothing about the positions, and no vehicle that is
known gets lost (`Backing.KeepsVehicles`).
-/

namespace FleetTracking

/-- `q` is what the position `p` was stored as: it has a number, and is the same otherwise. -/
structure Position.IsCopyOf (q p : Position) : Prop where
  vehicle : q.vehicle = p.vehicle
  recordedAt : q.recordedAt = p.recordedAt
  coordinates : q.coordinates.agrees p.coordinates = true
  number : q.id.isSome = true

theorem Position.IsCopyOf.key {q p : Position} (h : q.IsCopyOf p) : q.key = p.key :=
  Prod.ext h.vehicle h.recordedAt

/-- Stores of which it is known which positions they hold. -/
class HoldingStore (σ : Type) [FleetStore σ] extends LawfulStore σ where
  /-- The store holds these positions, in the order in which they were stored. -/
  Holds : σ → List Position → Prop
  isRecorded_eq : ∀ {s : σ} {ps u w} (t : Instant), Holds s ps →
    FleetStore.vehicle? s u = .ok (some w) →
    FleetStore.isRecorded s u t = .ok (decide ((u, t) ∈ ps.map Position.key))
  holds_store : ∀ {s s' : σ} {ps p q}, IsIdle s → Holds s ps →
    Service.store s [p] = (.ok [q], s') →
    Holds s' (ps ++ [q]) ∧ q.IsCopyOf p ∧ q.id ∉ ps.map Position.id

/-! ## In memory -/

/-- The memory holds these positions; their keys are listed and their numbers were given before. -/
structure Memory.Holds (m : Memory) (ps : List Position) : Prop where
  positions : m.positions = ps
  keys : m.keys = ps.map Position.key
  numbers : ∀ p ∈ ps, ∃ k < m.nextPosition, p.id = some k

instance : HoldingStore Memory where
  Holds := Memory.Holds
  isRecorded_eq {m ps u w} t h _ := by
    show Except.ok (m.keys.contains (u, t)) = _
    rw [h.keys, List.contains_eq_mem]
  holds_store {m m' ps p q} hm h hstore := by
    obtain ⟨_, hsaved, rfl⟩ := Memory.store_ok hm hstore
    obtain rfl : q = p.withId (some m.nextPosition) := (List.cons.inj hsaved).1
    refine ⟨⟨?_, ?_, ?_⟩, ⟨rfl, rfl, p.coordinates.agrees_refl, rfl⟩, ?_⟩
    · show m.positions ++ _ = _
      rw [h.positions]
      rfl
    · show m.keys ++ _ = _
      rw [h.keys, List.map_append]
      rfl
    · intro r hr
      show ∃ k < m.nextPosition + 1, r.id = some k
      rcases List.mem_append.mp hr with hr | hr
      · obtain ⟨k, hk, hid⟩ := h.numbers r hr
        exact ⟨k, by omega, hid⟩
      · rw [List.mem_singleton.mp hr]
        exact ⟨m.nextPosition, by omega, rfl⟩
    · intro hid
      obtain ⟨r, hr, hrid⟩ := List.mem_map.mp hid
      obtain ⟨k, hk, hkid⟩ := h.numbers r hr
      rw [hkid, Position.id_withId, Option.some.injEq] at hrid
      omega

/-! ## Through a session -/

/-- All positions of the table, oldest insertion first. -/
def Tables.storedPositions (t : Tables) : Except Failure (List Position) := do
  (← rows t.positions).mapM PositionRow.toPosition

namespace PositionRow

theorem toPosition_ok {r : PositionRow} {p : Position} (h : r.toPosition = .ok p) :
    p.key = r.key ∧ p.id = some r.id := by
  obtain ⟨coordinates, _, hp⟩ := bind_eq_ok.mp h
  cases hp
  exact ⟨rfl, rfl⟩

theorem mapM_toPosition_ok {rows : List PositionRow} {ps : List Position}
    (h : rows.mapM toPosition = .ok ps) :
    ps.map Position.key = rows.map key ∧ ps.map Position.id = rows.map fun r => some r.id := by
  induction rows generalizing ps with
  | nil =>
    cases h
    exact ⟨rfl, rfl⟩
  | cons r rest ih =>
    obtain ⟨p, others, hp, hrest, rfl⟩ := mapM_cons_eq_ok.mp h
    obtain ⟨hkey, hid⟩ := toPosition_ok hp
    obtain ⟨hkeys, hids⟩ := ih hrest
    exact ⟨by rw [List.map_cons, List.map_cons, hkey, hkeys],
      by rw [List.map_cons, List.map_cons, hid, hids]⟩

end PositionRow

namespace Connection

/-- The table of positions can be asked, and its rows are these positions. -/
def Holds (c : Connection) (ps : List Position) : Prop := c.ask Tables.storedPositions = .ok ps

theorem Holds.ask_eq {c : Connection} {ps : List Position} (h : c.Holds ps)
    (question : Tables → Except Failure α) : c.ask question = question c.tables :=
  ask_of_not_isStalled (ask_eq_ok.mp h).1 question

theorem Holds.rows {c : Connection} {ps : List Position} (h : c.Holds ps) :
    ∃ rows, c.tables.positions = some rows ∧ rows.mapM PositionRow.toPosition = .ok ps := by
  obtain ⟨rows, hrows, hps⟩ := bind_eq_ok.mp (ask_eq_ok.mp h).2
  cases htable : c.tables.positions with
  | none =>
    rw [htable] at hrows
    nomatch hrows
  | some rows' =>
    rw [htable] at hrows
    cases hrows
    exact ⟨rows, rfl, hps⟩

end Connection

instance : HoldingStore Connection where
  Holds := Connection.Holds
  isRecorded_eq {c ps u w} t h hvehicle := by
    obtain ⟨rows, hrows, hps⟩ := h.rows
    obtain ⟨id, rfl, hfits⟩ := Tables.fits_of_vehicle? (Connection.ask_eq_ok.mp hvehicle).2
    show c.ask (·.isRecorded (some id) t) = _
    rw [h.ask_eq, Tables.isRecorded_eq hrows, if_pos (show VehicleRef.fits (some id) = true from hfits),
      ← (PositionRow.mapM_toPosition_ok hps).1, List.contains_eq_mem]
  holds_store {c c' ps p q} hc h hstore := by
    obtain ⟨rows, hrows, hps⟩ := h.rows
    obtain ⟨rows', hrows', hfits, _, hsaved, rfl⟩ :=
      Connection.store_ok hc (List.cons_ne_nil p []) hstore
    rw [hrows] at hrows'
    cases hrows'
    obtain rfl : q = p.stored.withId (some (nextId (rows.map PositionRow.id))) :=
      (List.cons.inj hsaved).1
    refine ⟨?_, ⟨rfl, rfl, p.coordinates.agrees_stored, rfl⟩, ?_⟩
    · show (c.extend [p]).ask Tables.storedPositions = _
      rw [Connection.ask_of_isIdle (hc.extend [p])]
      unfold Tables.storedPositions
      rw [Connection.positions_extend hrows]
      show List.mapM _ (rows ++ _) = _
      rw [List.mapM_append, hps, PositionRow.mapM_toPosition_numbered hfits]
      rfl
    · intro hid
      rw [(PositionRow.mapM_toPosition_ok hps).2] at hid
      obtain ⟨r, hr, hrid⟩ := List.mem_map.mp hid
      have hlt := lt_nextId (List.mem_map_of_mem (f := PositionRow.id) hr)
      have heq : r.id = nextId (rows.map PositionRow.id) := Option.some.inj hrid
      omega

/-! ## Either of both -/

namespace Backing

/-- The store at work holds these positions. -/
def Holds (b : Backing) (ps : List Position) : Prop :=
  b.ask (Memory.Holds · ps) (Connection.Holds · ps)

/-- All positions of the store at work, in the order in which they were stored. -/
def storedPositions (b : Backing) : Except Failure (List Position) :=
  b.ask (fun m => .ok m.positions) (fun c => c.ask Tables.storedPositions)

theorem storedPositions_of_holds {b : Backing} {ps : List Position} (h : b.Holds ps) :
    b.storedPositions = .ok ps := by
  match b, h with
  | ⟨false, m, c⟩, h => exact congrArg Except.ok h.positions
  | ⟨true, m, c⟩, h => exact h

end Backing

open HoldingStore in
instance : HoldingStore Backing where
  Holds := Backing.Holds
  isRecorded_eq {b ps u w} t h hvehicle := by
    match b, h with
    | ⟨false, m, c⟩, h => exact isRecorded_eq (σ := Memory) t h hvehicle
    | ⟨true, m, c⟩, h => exact isRecorded_eq (σ := Connection) t h hvehicle
  holds_store {b b' ps p q} hb h hstore := by
    match b, hb with
    | ⟨false, m, c⟩, hm =>
      obtain ⟨m', rfl, hone⟩ := Backing.store_memory_eq hstore
      exact holds_store (σ := Memory) hm h hone
    | ⟨true, m, c⟩, hc =>
      obtain ⟨c', rfl, hone⟩ := Backing.store_connection_eq hstore
      exact holds_store (σ := Connection) hc h hone

/-! ## Vehicles that come and go on duty -/

/-- Every vehicle that is known in `s` is known in `s'`. -/
def KeepsVehicles [FleetStore σ] (s s' : σ) : Prop :=
  ∀ u w, FleetStore.vehicle? s u = .ok (some w) → ∃ w', FleetStore.vehicle? s' u = .ok (some w')

namespace Memory

/-- Under the identifier of a vehicle that is put in its place stands this vehicle, and under any
other what stood there before. -/
theorem find?_putVehicle_eq (v : Vehicle) (id : Int) (vs : List Vehicle) :
    (putVehicle v vs).find? (fun w => w.id == id) =
      if v.id = id then some v else vs.find? fun w => w.id == id := by
  induction vs with
  | nil =>
    by_cases hv : v.id = id
    · simp [putVehicle, hv]
    · simp [putVehicle, hv]
  | cons w rest ih =>
    unfold putVehicle
    by_cases hw : w.id = v.id
    · rw [if_pos (by simpa using hw)]
      by_cases hv : v.id = id
      · simp [hv]
      · simp [hv, hw]
    · rw [if_neg (by simpa using hw), List.find?_cons, ih]
      by_cases hv : v.id = id
      · have hid : (w.id == id) = false := by
          rw [← hv]
          simpa using hw
        rw [hid, if_pos hv, if_pos hv]
      · rw [if_neg hv, if_neg hv, List.find?_cons]

theorem find?_putVehicle (v : Vehicle) {id : Int} {vs : List Vehicle}
    (h : (vs.find? fun w => w.id == id).isSome = true) :
    ((putVehicle v vs).find? fun w => w.id == id).isSome = true := by
  rw [find?_putVehicle_eq]
  split
  · rfl
  · exact h

/-- The same but for vehicles, all of which are still there. -/
structure ChangesVehicles (m m' : Memory) : Prop where
  positions : m'.positions = m.positions
  keys : m'.keys = m.keys
  nextPosition : m'.nextPosition = m.nextPosition
  stagedPositions : m'.stagedPositions = m.stagedPositions
  vehicles : ∀ id, (m.vehicles.find? fun w => w.id == id).isSome = true →
    (m'.vehicles.find? fun w => w.id == id).isSome = true

theorem ChangesVehicles.refl (m : Memory) : ChangesVehicles m m :=
  ⟨rfl, rfl, rfl, rfl, fun _ h => h⟩

theorem ChangesVehicles.trans {m m' m'' : Memory} (h : ChangesVehicles m m')
    (h' : ChangesVehicles m' m'') : ChangesVehicles m m'' :=
  ⟨h'.positions.trans h.positions, h'.keys.trans h.keys, h'.nextPosition.trans h.nextPosition,
    h'.stagedPositions.trans h.stagedPositions, fun id hid => h'.vehicles id (h.vehicles id hid)⟩

theorem ChangesVehicles.holds {m m' : Memory} (h : ChangesVehicles m m') {ps : List Position}
    (hm : m.Holds ps) : m'.Holds ps :=
  ⟨h.positions.trans hm.positions, h.keys.trans hm.keys, h.nextPosition ▸ hm.numbers⟩

theorem ChangesVehicles.keepsVehicles {m m' : Memory} (h : ChangesVehicles m m') :
    KeepsVehicles m m' := by
  intro u w hw
  cases u with
  | none => nomatch hw
  | some id =>
    have hfound : m.vehicles.find? (fun w => w.id == id) = some w := Except.ok.inj hw
    obtain ⟨w', hw'⟩ := Option.isSome_iff_exists.mp (h.vehicles id (by rw [hfound]; rfl))
    exact ⟨w', congrArg Except.ok hw'⟩

theorem changesVehicles_addVehicle (m : Memory) (v : VehicleDraft) :
    ChangesVehicles m (m.addVehicle v).2 := by
  unfold addVehicle
  split
  · split
    · exact ⟨rfl, rfl, rfl, rfl, fun _ h => h⟩
    · exact .refl m
  · exact .refl m

theorem changesVehicles_storeVehicles (m : Memory) (new : List (Option Int × VehicleData)) :
    ChangesVehicles m (m.storeVehicles new).2 := by
  induction new generalizing m with
  | nil => exact .refl m
  | cons first rest ih =>
    obtain ⟨wanted, data⟩ := first
    have hfirst : ChangesVehicles m (m.storeVehicle wanted data).2 :=
      ⟨rfl, rfl, rfl, rfl, fun _ h => find?_putVehicle _ h⟩
    exact hfirst.trans (ih _)

theorem changesVehicles_saveVehicles (m : Memory) : ChangesVehicles m m.saveVehicles.2 := by
  have h := changesVehicles_storeVehicles m m.stagedVehicles
  exact ⟨h.positions, h.keys, h.nextPosition, h.stagedPositions, h.vehicles⟩

theorem changesVehicles_setActive (m : Memory) (u : VehicleRef) (active : Bool) :
    ChangesVehicles m (m.setActive u active).2 := by
  unfold setActive
  split
  · exact .refl m
  · exact ⟨rfl, rfl, rfl, rfl, fun _ h => find?_putVehicle _ h⟩

end Memory

namespace Tables

theorem foldlM_insertVehicle_ok {new : List NewVehicle} {rows rows' : List VehicleRow}
    (h : new.foldlM insertVehicle rows = .ok rows') : ∃ added, rows' = rows ++ added := by
  refine foldlM_invariant (fun after => ∃ added, after = rows ++ added) ?_
    ⟨[], (List.append_nil rows).symm⟩ h
  rintro _ v _ after ⟨added, rfl⟩ hinsert
  obtain ⟨r, rfl, _⟩ := insertVehicle_ok hinsert
  exact ⟨added ++ [r], List.append_assoc rows added [r]⟩

/-- The rows of vehicles of `t'` begin with those of `t`. -/
def AddsVehicles (t t' : Tables) : Prop :=
  t'.vehicles = t.vehicles ∨
    ∃ rows added, t.vehicles = some rows ∧ t'.vehicles = some (rows ++ added)

theorem addsVehicles_insert {t t' : Tables} {new : List NewVehicle} (h : t.insert new [] = .ok t') :
    t'.positions = t.positions ∧ AddsVehicles t t' := by
  obtain ⟨vehicles, hvehicles, h⟩ := bind_eq_ok.mp h
  obtain ⟨positions, hpositions, h⟩ := bind_eq_ok.mp h
  cases h
  cases hpositions
  refine ⟨rfl, ?_⟩
  unfold insertVehicles at hvehicles
  split at hvehicles
  · exact .inl (Except.ok.inj hvehicles).symm
  · obtain ⟨rows, hrows, h⟩ := bind_eq_ok.mp hvehicles
    obtain ⟨rows', hfold, h⟩ := bind_eq_ok.mp h
    cases h
    obtain ⟨added, rfl⟩ := foldlM_insertVehicle_ok hfold
    refine .inr ⟨rows, added, ?_, rfl⟩
    cases htable : t.vehicles with
    | none =>
      rw [htable] at hrows
      nomatch hrows
    | some rows' =>
      rw [htable] at hrows
      exact congrArg some (Except.ok.inj hrows)

theorem AddsVehicles.vehicle? {t t' : Tables} (h : AddsVehicles t t') {u : VehicleRef} {w : Vehicle}
    (hw : t.vehicle? u = .ok (some w)) : t'.vehicle? u = .ok (some w) := by
  obtain ⟨id, rfl, hfits⟩ := fits_of_vehicle? hw
  replace hfits : VehicleRef.fits (some id) = true := hfits
  unfold Tables.vehicle? at hw ⊢
  obtain hsame | ⟨rows, added, hrows, hrows'⟩ := h
  · rw [hsame]
    exact hw
  · rw [hrows] at hw
    rw [hrows']
    simp only [Tables.rows, bind, Except.bind, hfits, if_true] at hw ⊢
    have hfound := Except.ok.inj hw
    rw [Option.map_eq_some_iff] at hfound
    obtain ⟨r, hr, rfl⟩ := hfound
    rw [List.find?_append, hr]
    rfl

end Tables

namespace Connection

/-- No positions are staged, and no rollback is due. -/
structure HasNoStagedPositions (c : Connection) : Prop where
  positions : c.session.positions = []
  isStalled : c.session.isStalled = false

/-- The same but for vehicles, all of which are still there. -/
structure ChangesVehicles (c c' : Connection) : Prop where
  positions : c'.tables.positions = c.tables.positions
  hasNoStagedPositions : c'.HasNoStagedPositions
  vehicles : Tables.AddsVehicles c.tables c'.tables

theorem ChangesVehicles.holds {c c' : Connection} (h : ChangesVehicles c c') {ps : List Position}
    (hc : c.Holds ps) : c'.Holds ps := by
  refine ask_eq_ok.mpr ⟨h.hasNoStagedPositions.isStalled, ?_⟩
  unfold Tables.storedPositions
  rw [h.positions]
  exact (ask_eq_ok.mp hc).2

theorem ChangesVehicles.keepsVehicles {c c' : Connection} (h : ChangesVehicles c c') :
    KeepsVehicles c c' :=
  fun _ w hw => ⟨w, ask_eq_ok.mpr
    ⟨h.hasNoStagedPositions.isStalled, h.vehicles.vehicle? (ask_eq_ok.mp hw).2⟩⟩

theorem changesVehicles_addVehicle {c : Connection} (hc : c.HasNoStagedPositions)
    (v : VehicleDraft) : ChangesVehicles c (c.addVehicle v).2 := by
  unfold addVehicle
  cases hadd : c.session.addVehicle v with
  | error e => exact ⟨rfl, hc, .inl rfl⟩
  | ok session =>
    obtain ⟨row, _, h⟩ := bind_eq_ok.mp hadd
    cases h
    exact ⟨rfl, ⟨hc.positions, hc.isStalled⟩, .inl rfl⟩

theorem changesVehicles_saveVehicles {c : Connection} (hc : c.HasNoStagedPositions) :
    ChangesVehicles c c.saveVehicles.2 := by
  obtain ⟨tables, vehicles, positions, isStalled⟩ := c
  obtain ⟨hpositions, hstalled⟩ := hc
  dsimp only at hpositions hstalled
  subst hpositions hstalled
  unfold saveVehicles Session.saveVehicles Session.commit Session.commitWith
  simp only [Session.waiting_nil, List.append_nil, Bool.false_eq_true, if_false]
  cases hinsert : tables.insert (Session.waiting vehicles) [] with
  | error e => exact ⟨rfl, ⟨rfl, rfl⟩, .inl rfl⟩
  | ok tables' =>
    obtain ⟨hpositions, hvehicles⟩ := Tables.addsVehicles_insert hinsert
    exact ⟨hpositions, ⟨Session.inserted_nil _, rfl⟩, hvehicles⟩

theorem changesVehicles_setActive {c : Connection} (hc : c.HasNoStagedPositions)
    (u : VehicleRef) (active : Bool) : ChangesVehicles c (c.setActive u active).2 := by
  unfold setActive
  split <;> exact ⟨rfl, hc, .inl rfl⟩

end Connection

namespace Backing

/-- No positions are staged in the store that is at work, and no rollback is due. -/
def HasNoStagedPositions (b : Backing) : Prop :=
  b.ask (fun m => m.stagedPositions = []) Connection.HasNoStagedPositions

/-- No vehicles are staged in the store that is at work. -/
def HasNoStagedVehicles (b : Backing) : Prop :=
  b.ask (fun m => m.stagedVehicles = []) (fun c => c.session.vehicles = [])

theorem isIdle_iff {b : Backing} : b.IsIdle ↔ b.HasNoStagedVehicles ∧ b.HasNoStagedPositions := by
  match b with
  | ⟨false, m, c⟩ => exact Iff.rfl
  | ⟨true, m, ⟨tables, vehicles, positions, isStalled⟩⟩ =>
    show (⟨vehicles, positions, isStalled⟩ : Session) = ⟨[], [], false⟩ ↔
      vehicles = [] ∧ Connection.HasNoStagedPositions ⟨tables, vehicles, positions, isStalled⟩
    rw [Session.mk.injEq]
    exact and_congr_right fun _ => ⟨fun h => ⟨h.1, h.2⟩, fun h => ⟨h.positions, h.isStalled⟩⟩

/-- The same but for vehicles, all of which are still there. -/
structure ChangesVehicles (b b' : Backing) : Prop where
  holds : ∀ ps, b.Holds ps → b'.Holds ps
  hasNoStagedPositions : b'.HasNoStagedPositions
  keepsVehicles : KeepsVehicles b b'

theorem changesVehicles_memory {m m' : Memory} (c : Connection) (hm : m.stagedPositions = [])
    (h : m.ChangesVehicles m') : ChangesVehicles ⟨false, m, c⟩ ⟨false, m', c⟩ :=
  ⟨fun _ hps => h.holds hps, h.stagedPositions.trans hm, h.keepsVehicles⟩

theorem changesVehicles_connection (m : Memory) {c c' : Connection} (h : c.ChangesVehicles c') :
    ChangesVehicles ⟨true, m, c⟩ ⟨true, m, c'⟩ :=
  ⟨fun _ hps => h.holds hps, h.hasNoStagedPositions, h.keepsVehicles⟩

variable {b : Backing} (hb : b.HasNoStagedPositions)

include hb

theorem changesVehicles_addVehicle (v : VehicleDraft) :
    ChangesVehicles b (FleetStore.addVehicle b v).2 := by
  match b, hb with
  | ⟨false, m, c⟩, hm => exact changesVehicles_memory c hm (m.changesVehicles_addVehicle v)
  | ⟨true, m, c⟩, hc => exact changesVehicles_connection m (c.changesVehicles_addVehicle hc v)

theorem changesVehicles_saveVehicles : ChangesVehicles b (FleetStore.saveVehicles b).2 := by
  match b, hb with
  | ⟨false, m, c⟩, hm => exact changesVehicles_memory c hm m.changesVehicles_saveVehicles
  | ⟨true, m, c⟩, hc => exact changesVehicles_connection m (c.changesVehicles_saveVehicles hc)

theorem changesVehicles_setActive (u : VehicleRef) (active : Bool) :
    ChangesVehicles b (FleetStore.setActive b u active).2 := by
  match b, hb with
  | ⟨false, m, c⟩, hm => exact changesVehicles_memory c hm (m.changesVehicles_setActive u active)
  | ⟨true, m, c⟩, hc =>
    exact changesVehicles_connection m (c.changesVehicles_setActive hc u active)

omit hb in
/-- A vehicle that is refused leaves the store as it was. -/
theorem addVehicle_error {v : VehicleDraft} (h : (FleetStore.addVehicle b v).1.isOk = false) :
    (FleetStore.addVehicle b v).2 = b := by
  match b with
  | ⟨false, m, c⟩ =>
    show (⟨false, (m.addVehicle v).2, c⟩ : Backing) = _
    change (m.addVehicle v).1.isOk = false at h
    unfold Memory.addVehicle at h ⊢
    cases hname : v.name with
    | none => rfl
    | some name =>
      cases hvalid : v.isValid with
      | true =>
        rw [hname] at h
        simp only [hvalid] at h
        nomatch h
      | false => rfl
  | ⟨true, m, c⟩ =>
    show (⟨true, m, (c.addVehicle v).2⟩ : Backing) = _
    change (c.addVehicle v).1.isOk = false at h
    unfold Connection.addVehicle at h ⊢
    cases hadd : c.session.addVehicle v with
    | error e => rfl
    | ok session =>
      rw [hadd] at h
      nomatch h

omit hb in
/-- A save of vehicles leaves none of them staged, whatever comes of it. -/
theorem hasNoStagedVehicles_saveVehicles : (FleetStore.saveVehicles b).2.HasNoStagedVehicles := by
  match b with
  | ⟨false, m, c⟩ => rfl
  | ⟨true, m, c⟩ =>
    show (c.session.saveVehicles c.tables).2.1.vehicles = []
    unfold Session.saveVehicles
    obtain ⟨result, session, tables⟩ := c.session.commit c.tables
    cases result <;> rfl

omit hb in
theorem hasNoStagedVehicles_setActive (h : b.HasNoStagedVehicles) (u : VehicleRef)
    (active : Bool) : (FleetStore.setActive b u active).2.HasNoStagedVehicles := by
  match b, h with
  | ⟨false, m, c⟩, h =>
    show (m.setActive u active).2.stagedVehicles = []
    unfold Memory.setActive
    split <;> exact h
  | ⟨true, m, c⟩, h =>
    show (c.setActive u active).2.session.vehicles = []
    unfold Connection.setActive
    split <;> exact h

end Backing

end FleetTracking
