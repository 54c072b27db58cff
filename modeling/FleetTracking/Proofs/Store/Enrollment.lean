import FleetTracking.Proofs.Store.Contents
import FleetTracking.Proofs.Store.Mirror

/-!
# Fleets that are enrolled in memory and in tables

To enroll a fleet is to add its vehicles one after another and to save them. Memory and tables both
accept a fleet of vehicles that are fit for it (`VehicleDraft.IsEnrollable`), answer the same
vehicles, and the tables mirror the memory afterwards (`mirrors_enroll`).

Names differ, and either all vehicles ask for an identifier or none does: memory and tables count
on in different ways after an identifier that was asked for (`CountsAlike`).
-/

namespace FleetTracking

/-- Adds vehicles one after another and saves them. The first one that is refused ends it. -/
def enroll [FleetStore σ] (s : σ) : List VehicleDraft → Except Failure (List Vehicle) × σ
  | [] => FleetStore.saveVehicles s
  | v :: rest =>
    match FleetStore.addVehicle s v with
    | (.error e, s) => (.error e, s)
    | (.ok _, s) => enroll s rest

namespace VehicleDraft

/-- A vehicle has a name that can be written, an identifier that fits if it asks for one, and was
created at a time that is written in universal time. -/
structure IsEnrollable (v : VehicleDraft) : Prop where
  isValid : v.isValid = true
  isWritable : v.name.any Text.hasHalf = false
  fits : VehicleRef.fits v.id = true
  isUniversal : ∃ t, v.createdDate = some t ∧ t.offset = some .zero

/-- What a memory stages of a vehicle that has a name. -/
def staged (v : VehicleDraft) : Option Int × VehicleData :=
  (v.id, ⟨v.name.getD "", v.isActive, v.createdDate⟩)

/-- What a session stages of a vehicle whose date is in universal time. -/
def newRow (v : VehicleDraft) : NewVehicle :=
  ⟨v.id, v.name, v.isActive, v.createdDate.map Timestamp.civil⟩

theorem name_of_isValid {v : VehicleDraft} (h : v.isValid = true) : ∃ name, v.name = some name := by
  unfold isValid at h
  cases hname : v.name with
  | none =>
    rw [hname] at h
    nomatch h
  | some name => exact ⟨name, rfl⟩

end VehicleDraft

/-- What is written in universal time is the instant with these fields. -/
theorem Timestamp.eq_timestamp {t : Timestamp} (h : t.offset = some .zero) :
    t.civil.instant.timestamp = t := by
  obtain ⟨civil, offset⟩ := t
  cases h
  show (⟨civil.instant.civil, some .zero⟩ : Timestamp) = _
  rw [Civil.civil_instant]

theorem NewVehicle.ofDraft_eq {v : VehicleDraft} (h : v.IsEnrollable) :
    NewVehicle.ofDraft v = .ok v.newRow := by
  obtain ⟨t, ht, hoffset⟩ := h.isUniversal
  have hinstant := t.civil.instant.instant_timestamp
  rw [Timestamp.eq_timestamp hoffset] at hinstant
  unfold NewVehicle.ofDraft VehicleDraft.newRow
  rw [ht]
  show (do return (⟨v.id, v.name, v.isActive, some (← t.instant).civil⟩ : NewVehicle)) = _
  rw [hinstant]
  show Except.ok (⟨v.id, v.name, v.isActive, some t.civil.instant.civil⟩ : NewVehicle) = _
  rw [Civil.civil_instant]
  rfl

/-! ## Staging -/

namespace Memory

theorem addVehicle_eq (m : Memory) {v : VehicleDraft} (h : v.isValid = true) :
    m.addVehicle v = (.ok (), { m with stagedVehicles := m.stagedVehicles ++ [v.staged] }) := by
  obtain ⟨name, hname⟩ := VehicleDraft.name_of_isValid h
  unfold addVehicle VehicleDraft.staged
  rw [hname]
  dsimp only
  rw [if_pos h]
  rfl

theorem enroll_eq (m : Memory) {fleet : List VehicleDraft} (h : ∀ v ∈ fleet, v.isValid = true) :
    enroll m fleet = ({ m with
      stagedVehicles := m.stagedVehicles ++ fleet.map VehicleDraft.staged }.saveVehicles).map
        .ok id := by
  induction fleet generalizing m with
  | nil =>
    rw [List.map_nil, List.append_nil]
    rfl
  | cons v rest ih =>
    obtain ⟨hv, hrest⟩ := List.forall_mem_cons.mp h
    have hadd : FleetStore.addVehicle m v = _ := m.addVehicle_eq hv
    unfold enroll
    rw [hadd]
    dsimp only
    rw [ih _ hrest, List.map_cons]
    simp only [List.append_assoc, List.singleton_append]

end Memory

namespace Connection

theorem addVehicle_eq (c : Connection) {v : VehicleDraft} (h : v.IsEnrollable) :
    c.addVehicle v = (.ok (), { c with session := { c.session with
      vehicles := c.session.vehicles ++ Session.staged [v.newRow] } }) := by
  unfold addVehicle Session.addVehicle
  rw [NewVehicle.ofDraft_eq h]
  rfl

theorem enroll_eq (c : Connection) {fleet : List VehicleDraft} (h : ∀ v ∈ fleet, v.IsEnrollable) :
    enroll c fleet = { c with session := { c.session with
      vehicles :=
        c.session.vehicles ++ Session.staged (fleet.map VehicleDraft.newRow) } }.saveVehicles := by
  induction fleet generalizing c with
  | nil =>
    rw [List.map_nil, show Session.staged ([] : List NewVehicle) = [] from rfl, List.append_nil]
    rfl
  | cons v rest ih =>
    obtain ⟨hv, hrest⟩ := List.forall_mem_cons.mp h
    have hadd : FleetStore.addVehicle c v = _ := c.addVehicle_eq hv
    unfold enroll
    rw [hadd]
    dsimp only
    rw [ih _ hrest, List.map_cons]
    simp only [Session.staged, List.map_cons, List.map_nil, List.append_assoc,
      List.singleton_append]

end Connection

/-! ## Identifiers -/

/-- The vehicles of a fleet get the same identifiers in memory and in tables: those they ask for,
if they all do and these are new, or the next ones, if none does and there are enough of them. -/
def CountsAlike (m : Memory) (rows : List VehicleRow) (fleet : List VehicleDraft) : Prop :=
  (∀ v ∈ fleet, v.id.isSome = true) ∧
    (rows.map (fun r => some r.id) ++ fleet.map VehicleDraft.id).Nodup ∨
  (∀ v ∈ fleet, v.id = none) ∧ m.nextVehicle = nextId (rows.map VehicleRow.id) ∧
    0 ≤ m.nextVehicle ∧ fitsColumn (m.nextVehicle + fleet.length - 1) = true

namespace CountsAlike

variable {m : Memory} {rows : List VehicleRow} {v : VehicleDraft} {rest : List VehicleDraft}
  (h : CountsAlike m rows (v :: rest))

include h

theorem id_eq : v.id.getD m.nextVehicle = v.id.getD (nextId (rows.map VehicleRow.id)) := by
  rcases h with ⟨hsome, _⟩ | ⟨_, hnext, _⟩
  · obtain ⟨id, hid⟩ := Option.isSome_iff_exists.mp (hsome v List.mem_cons_self)
    rw [hid]
    rfl
  · rw [hnext]

theorem isNew : ∀ r ∈ rows, r.id ≠ v.id.getD (nextId (rows.map VehicleRow.id)) := by
  intro r hr
  rcases h with ⟨hsome, hnodup⟩ | ⟨hnone, _⟩
  · obtain ⟨id, hid⟩ := Option.isSome_iff_exists.mp (hsome v List.mem_cons_self)
    have hne := (List.nodup_append.mp hnodup).2.2 (some r.id) (List.mem_map.mpr ⟨r, hr, rfl⟩)
      v.id List.mem_cons_self
    rw [hid] at hne ⊢
    exact fun heq => hne (congrArg some heq)
  · have hlt := lt_nextId (List.mem_map_of_mem (f := VehicleRow.id) hr)
    rw [hnone v List.mem_cons_self]
    exact Int.ne_of_lt hlt

theorem fits (hv : VehicleRef.fits v.id = true) :
    fitsColumn (v.id.getD (nextId (rows.map VehicleRow.id))) = true := by
  rcases h with ⟨hsome, _⟩ | ⟨hnone, hnext, hpos, hroom⟩
  · obtain ⟨id, hid⟩ := Option.isSome_iff_exists.mp (hsome v List.mem_cons_self)
    rw [hid] at hv ⊢
    exact hv
  · rw [hnone v List.mem_cons_self, ← hnext]
    simp only [List.length_cons, Option.getD_none, fitsColumn, Bool.and_eq_true,
      decide_eq_true_eq] at hroom ⊢
    omega

/-- Once a vehicle is stored, the others still get the same identifiers. -/
theorem tail {r : VehicleRow} (hr : r.id = v.id.getD (nextId (rows.map VehicleRow.id)))
    (data : VehicleData) : CountsAlike (m.storeVehicle v.id data).2 (rows ++ [r]) rest := by
  rcases h with ⟨hsome, hnodup⟩ | ⟨hnone, hnext, hpos, hroom⟩
  · obtain ⟨hv, hrest⟩ := List.forall_mem_cons.mp hsome
    obtain ⟨id, hid⟩ := Option.isSome_iff_exists.mp hv
    rw [hid] at hr
    refine .inl ⟨hrest, ?_⟩
    rw [List.map_append, List.append_assoc]
    show (rows.map (fun r => some r.id) ++ some r.id :: rest.map VehicleDraft.id).Nodup
    rw [hr]
    rw [List.map_cons, hid] at hnodup
    exact hnodup
  · obtain ⟨hv, hrest⟩ := List.forall_mem_cons.mp hnone
    have hafter : (m.storeVehicle v.id data).2.nextVehicle = m.nextVehicle + 1 := by
      show max m.nextVehicle (v.id.getD m.nextVehicle) + 1 = _
      rw [hv, Option.getD_none, Int.max_self]
    rw [hv, Option.getD_none] at hr
    have hlast : m.nextVehicle + 1 + rest.length - 1 =
        m.nextVehicle + (v :: rest).length - 1 := by
      rw [List.length_cons]
      omega
    refine .inr ⟨hrest, ?_, by omega, ?_⟩
    · rw [hafter, List.map_append, List.map_singleton, hr, nextId_append, hnext]
    · rw [hafter, hlast]
      exact hroom

end CountsAlike

/-! ## Saving -/

namespace Tables

/-- The identifier that a row asks for, or the next one, is the one that it gets if it fits. -/
theorem id_of_fits {id? : Option Int} {ids : List Int}
    (h : fitsColumn (id?.getD (nextId ids)) = true) :
    VehicleRef.fits id? = true ∧ (id? <|> freeId? ids) = some (id?.getD (nextId ids)) := by
  cases id? with
  | none => exact ⟨rfl, freeId?_of_fits h⟩
  | some id => exact ⟨h, rfl⟩

/-- A row goes in that has a name and a date and whose identifier fits and is new. -/
theorem insertVehicle_new {rows : List VehicleRow} {v : NewVehicle} {name : String} {date : Civil}
    (hfits : fitsColumn (v.id.getD (nextId (rows.map VehicleRow.id))) = true)
    (hwritable : v.name.any Text.hasHalf = false) (hname : v.name = some name)
    (hdate : v.createdDate = some date)
    (hnew : ∀ r ∈ rows, r.id ≠ v.id.getD (nextId (rows.map VehicleRow.id))) :
    insertVehicle rows v =
      .ok (rows ++ [⟨v.id.getD (nextId (rows.map VehicleRow.id)), name, v.isActive, date⟩]) := by
  obtain ⟨hasked, hid⟩ := id_of_fits hfits
  have hunused : ¬(rows.any fun r => r.id == v.id.getD (nextId (rows.map VehicleRow.id))) = true := by
    simpa using hnew
  have hasked : (v.id.map fitsColumn).getD true = true := hasked
  unfold insertVehicle
  rw [hasked, hwritable, hname, hdate, hid]
  show (if _ then Except.error Failure.constraintViolated else _) = _
  rw [if_neg hunused]

theorem insertVehicles_some (rows : List VehicleRow) (new : List NewVehicle) :
    insertVehicles (some rows) new = (new.foldlM insertVehicle rows).map some := by
  cases new with
  | nil => rfl
  | cons v rest => rfl

end Tables

namespace Memory

theorem putVehicle_new {v : Vehicle} {vs : List Vehicle} (h : ∀ w ∈ vs, w.id ≠ v.id) :
    putVehicle v vs = vs ++ [v] := by
  induction vs with
  | nil => rfl
  | cons w rest ih =>
    obtain ⟨hw, hrest⟩ := List.forall_mem_cons.mp h
    unfold putVehicle
    rw [if_neg (by simpa using hw), ih hrest]
    rfl

end Memory

/-- A vehicle is stored in memory as its row is in tables. -/
theorem storeVehicle_mirrors {m : Memory} {rows : List VehicleRow} {v : VehicleDraft}
    {rest : List VehicleDraft} (hv : v.IsEnrollable) (hcounts : CountsAlike m rows (v :: rest))
    (hrows : rows.map VehicleRow.toVehicle = m.vehicles) :
    ∃ r, Tables.insertVehicle rows v.newRow = .ok (rows ++ [r]) ∧ v.name = some r.name ∧
      r.id = v.id.getD (nextId (rows.map VehicleRow.id)) ∧
      (m.storeVehicle v.id v.staged.2).1 = r.toVehicle ∧
      (rows ++ [r]).map VehicleRow.toVehicle = (m.storeVehicle v.id v.staged.2).2.vehicles := by
  obtain ⟨name, hname⟩ := VehicleDraft.name_of_isValid hv.isValid
  obtain ⟨t, ht, hoffset⟩ := hv.isUniversal
  let r : VehicleRow := ⟨v.id.getD (nextId (rows.map VehicleRow.id)), name, v.isActive, t.civil⟩
  have hdate : v.newRow.createdDate = some t.civil := congrArg (Option.map Timestamp.civil) ht
  have hvehicle : v.staged.2.withId (v.id.getD m.nextVehicle) = r.toVehicle := by
    show (⟨v.id.getD m.nextVehicle, v.name.getD "", v.isActive, v.createdDate⟩ : Vehicle) =
      ⟨v.id.getD (nextId (rows.map VehicleRow.id)), name, v.isActive,
        some t.civil.instant.timestamp⟩
    rw [hcounts.id_eq, hname, ht, Timestamp.eq_timestamp hoffset]
    rfl
  refine ⟨r, Tables.insertVehicle_new (hcounts.fits hv.fits) hv.isWritable hname hdate hcounts.isNew,
    hname, rfl, hvehicle, ?_⟩
  show _ = Memory.putVehicle (v.staged.2.withId (v.id.getD m.nextVehicle)) m.vehicles
  rw [hvehicle, ← hrows, List.map_append]
  refine (Memory.putVehicle_new ?_).symm
  intro w hw
  obtain ⟨r', hr', rfl⟩ := List.mem_map.mp hw
  exact hcounts.isNew r' hr'

/-- Rows of a fleet that stand in tables as its vehicles, stored one after another, stand in
memory. -/
structure Enrolled (m : Memory) (rows : List VehicleRow) (fleet : List VehicleDraft)
    (added : List VehicleRow) : Prop where
  inserted : (fleet.map VehicleDraft.newRow).foldlM Tables.insertVehicle rows = .ok (rows ++ added)
  names : fleet.map VehicleDraft.name = added.map (some ·.name)
  fits : ∀ r ∈ added, fitsColumn r.id = true
  nodup : (rows.map VehicleRow.id).Nodup → ((rows ++ added).map VehicleRow.id).Nodup
  saved : (m.storeVehicles (fleet.map VehicleDraft.staged)).1 = added.map VehicleRow.toVehicle
  vehicles : (rows ++ added).map VehicleRow.toVehicle =
    (m.storeVehicles (fleet.map VehicleDraft.staged)).2.vehicles

/-- Vehicles are stored in memory as their rows are in tables. -/
theorem exists_enrolled {m : Memory} {rows : List VehicleRow} {fleet : List VehicleDraft}
    (hfleet : ∀ v ∈ fleet, v.IsEnrollable) (hcounts : CountsAlike m rows fleet)
    (hrows : rows.map VehicleRow.toVehicle = m.vehicles) :
    ∃ added, Enrolled m rows fleet added := by
  -- the induction carries on in memory and in tables together, each with one vehicle more
  induction fleet generalizing m rows with
  | nil =>
    refine ⟨[], ?_, rfl, (fun _ hr => nomatch hr), ?_, rfl, ?_⟩
    · rw [List.append_nil]
      rfl
    · rw [List.append_nil]
      exact id
    · rw [List.append_nil]
      exact hrows
  | cons v rest ih =>
    obtain ⟨hv, hrest⟩ := List.forall_mem_cons.mp hfleet
    obtain ⟨r, hinsert, hname, hid, hsaved, hvehicles⟩ := storeVehicle_mirrors hv hcounts hrows
    obtain ⟨added, h⟩ := ih hrest (hcounts.tail hid v.staged.2) hvehicles
    have hassoc : rows ++ r :: added = rows ++ [r] ++ added := by
      rw [List.append_assoc, List.singleton_append]
    refine ⟨r :: added, ?_, ?_, ?_, ?_, ?_, ?_⟩
    · rw [List.map_cons, List.foldlM_cons, hinsert, hassoc]
      exact h.inserted
    · rw [List.map_cons, List.map_cons, hname, h.names]
    · refine List.forall_mem_cons.mpr ⟨?_, h.fits⟩
      rw [hid]
      exact hcounts.fits hv.fits
    · intro hnodup
      rw [hassoc]
      refine h.nodup ?_
      rw [List.map_append, List.map_singleton]
      refine List.nodup_append.mpr ⟨hnodup, by simp, ?_⟩
      rintro id hmem id' hmem' rfl
      obtain ⟨r', hr', hsame⟩ := List.mem_map.mp hmem
      exact hcounts.isNew r' hr' (hsame.trans ((List.mem_singleton.mp hmem').trans hid))
    · show (m.storeVehicle v.id v.staged.2).1 :: _ = _
      rw [hsaved, List.map_cons, ← h.saved]
      rfl
    · rw [hassoc]
      exact h.vehicles

/-- A save of new vehicles into a table without rows. -/
theorem Session.saveVehicles_empty {t : Tables} (ht : t.vehicles = some []) {new : List NewVehicle}
    {rows : List VehicleRow} (hinserted : new.foldlM Tables.insertVehicle [] = .ok rows)
    (hlength : rows.length = new.length) (hnodup : (rows.map VehicleRow.id).Nodup) :
    saveVehicles ⟨staged new, [], false⟩ t =
      (.ok (rows.map VehicleRow.toVehicle), .empty, ⟨some rows, t.positions⟩) := by
  have hinsert : t.insert new [] = .ok ⟨some rows, t.positions⟩ := by
    show (do return (⟨← Tables.insertVehicles t.vehicles new, t.positions⟩ : Tables)) = _
    rw [ht, Tables.insertVehicles_some, hinserted]
    rfl
  have hids : addedIds VehicleRow.id t.vehicles (some rows) = rows.map VehicleRow.id := by
    rw [ht]
    exact addedIds_append VehicleRow.id [] rows
  have hold : ∀ r ∈ ([] : List VehicleRow), ∀ r' ∈ rows, r.id ≠ r'.id := fun _ hr => nomatch hr
  have hrefresh := mapM_refresh_inserted hlength hold hnodup
  rw [List.nil_append] at hrefresh
  unfold saveVehicles commit commitWith
  rw [if_neg Bool.false_ne_true]
  simp only [waiting_staged, waiting_nil, List.append_nil]
  rw [hinsert]
  dsimp only
  rw [inserted_nil, hids, hrefresh]
  rfl

/-- A save of vehicles that are refused forgets them and changes no table. -/
theorem Session.saveVehicles_refused {t : Tables} {new : List NewVehicle} {e : Failure}
    (h : t.insert new [] = .error e) :
    saveVehicles ⟨staged new, [], false⟩ t = (.error e, .empty, t) := by
  unfold saveVehicles commit commitWith
  rw [if_neg Bool.false_ne_true]
  simp only [waiting_staged, waiting_nil, List.append_nil, h]
  rfl

/-! ## Enrolling -/

theorem Mirrors.of_rows {m : Memory} {rows : List VehicleRow} (hm : m.IsIdle)
    (hrows : rows.map VehicleRow.toVehicle = m.vehicles) (hnames : (rows.map VehicleRow.name).Nodup)
    (hfits : ∀ r ∈ rows, fitsColumn r.id = true) (hpositions : m.positions = [])
    (hkeys : m.keys = []) (hnext : m.nextPosition = 1) :
    Mirrors m ⟨⟨some rows, some []⟩, .empty⟩ where
  isIdle_memory := hm
  isIdle_connection := rfl
  vehicles := ⟨rows, rfl, hrows⟩
  names := by
    rw [← hrows, List.map_map]
    exact hnames
  identifiers := by
    rw [← hrows]
    intro w hw
    obtain ⟨r, hr, rfl⟩ := List.mem_map.mp hw
    exact hfits r hr
  positions := by
    rw [hpositions]
    rfl
  isStored := by
    rw [hpositions]
    exact fun _ hp => nomatch hp
  isKept := by
    rw [hpositions]
    exact fun _ hp => nomatch hp
  keys := by
    rw [hkeys, hpositions]
    rfl
  nodup_keys := by
    rw [hkeys]
    exact List.nodup_nil
  nextPosition := by
    rw [hnext, hpositions]
    rfl

/-- Memory and tables both accept a fleet, answer the same vehicles, and hold the same then. -/
theorem mirrors_enroll {fleet : List VehicleDraft} (hfleet : ∀ v ∈ fleet, v.IsEnrollable)
    (hcounts : CountsAlike .empty [] fleet) (hnames : (fleet.map VehicleDraft.name).Nodup) :
    ∃ vs m c, enroll Memory.empty fleet = (.ok vs, m) ∧
      enroll Connection.empty fleet = (.ok vs, c) ∧ Mirrors m c := by
  let staged : Memory := { Memory.empty with stagedVehicles := fleet.map VehicleDraft.staged }
  obtain ⟨rows, h⟩ : ∃ rows, Enrolled staged [] fleet rows := exists_enrolled hfleet hcounts rfl
  have hlength : rows.length = (fleet.map VehicleDraft.newRow).length := by
    have hnames := congrArg List.length h.names
    rw [List.length_map, List.length_map] at hnames
    rw [List.length_map, hnames]
  have hrowNames : (rows.map VehicleRow.name).Nodup := by
    rw [h.names] at hnames
    exact List.pairwise_map.mpr ((List.pairwise_map.mp hnames).imp fun hne heq =>
      hne (congrArg some heq))
  have hchanges := staged.changesVehicles_saveVehicles
  refine ⟨rows.map VehicleRow.toVehicle, staged.saveVehicles.2,
    ⟨⟨some rows, some []⟩, .empty⟩, ?_, ?_, ?_⟩
  · rw [Memory.enroll_eq _ fun v hv => (hfleet v hv).isValid]
    exact Prod.ext (congrArg Except.ok h.saved) rfl
  · rw [Connection.enroll_eq _ hfleet]
    show ((Session.saveVehicles ⟨Session.staged (fleet.map VehicleDraft.newRow), [], false⟩
      Tables.empty).map id fun after => (⟨after.2, after.1⟩ : Connection)) = _
    rw [Session.saveVehicles_empty rfl h.inserted hlength (h.nodup List.nodup_nil)]
    rfl
  · exact .of_rows ⟨rfl, hchanges.stagedPositions⟩ h.vehicles hrowNames h.fits hchanges.positions
      hchanges.keys hchanges.nextPosition

end FleetTracking
