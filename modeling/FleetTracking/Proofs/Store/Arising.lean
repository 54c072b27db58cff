import FleetTracking.Proofs.Service.Invariant
import FleetTracking.Proofs.Store.Roster
import FleetTracking.Proofs.Store.Tidy

/-!
# The stores that arise

A store arises from an empty one by stagings, saves, switches and commits of any kind and in any
order, also by those of other sessions (`Backing.Arises`). Requests to the services do nothing else
(`Backing.Arises.request`), so runs of them reach no other stores (`Backing.Arises.of_reachable`).

In a store that has arisen no two positions share a key, no two vehicles share an identifier, and
every row can be read (`Backing.Arises.isConsistent`). What has to be checked for that is one
insertion: tables refuse a row whose key or identifier is there already, and places are on Earth
when they are staged.
-/

namespace FleetTracking

/-! ## In memory -/

namespace Memory

/-- The books of positions are in step, and no two vehicles share an identifier. -/
structure IsConsistent (m : Memory) : Prop where
  tidy : m.IsTidy
  vehicles : (m.vehicles.map Vehicle.id).Nodup

theorem map_id_putVehicle (v : Vehicle) (vs : List Vehicle) :
    (putVehicle v vs).map Vehicle.id =
      if v.id ∈ vs.map Vehicle.id then vs.map Vehicle.id else vs.map Vehicle.id ++ [v.id] := by
  induction vs with
  | nil => rfl
  | cons w rest ih =>
    unfold putVehicle
    by_cases hw : w.id = v.id
    · simp [hw]
    · have hw' : ¬v.id = w.id := fun h => hw h.symm
      simp only [beq_iff_eq, hw, if_false, List.map_cons, ih, List.mem_cons, hw', false_or]
      split <;> rfl

theorem nodup_putVehicle (v : Vehicle) {vs : List Vehicle} (h : (vs.map Vehicle.id).Nodup) :
    ((putVehicle v vs).map Vehicle.id).Nodup := by
  rw [map_id_putVehicle]
  split
  · exact h
  · rename_i hv
    rw [List.nodup_append]
    refine ⟨h, by simp, ?_⟩
    intro id hid id' hid' hsame
    rw [List.mem_singleton] at hid'
    exact hv (hid' ▸ hsame ▸ hid)

namespace IsConsistent

variable {m : Memory} (h : m.IsConsistent)

include h

theorem stage (ps : List Position) : (FleetStore.stage m ps).IsConsistent :=
  ⟨h.tidy.stage ps, h.vehicles⟩

theorem savePositions : m.savePositions.2.IsConsistent := by
  refine ⟨h.tidy.save, ?_⟩
  obtain ⟨_, hsave⟩ | ⟨_, _, _, _, _, _, _, hsave⟩ := savePositions_cases h.tidy
  · rw [hsave]
    exact h.vehicles
  · rw [hsave]
    exact h.vehicles

theorem addVehicle (v : VehicleDraft) : (m.addVehicle v).2.IsConsistent := by
  refine ⟨h.tidy.changeVehicles (m.changesVehicles_addVehicle v), ?_⟩
  unfold Memory.addVehicle
  split
  · split
    · exact h.vehicles
    · exact h.vehicles
  · exact h.vehicles

theorem storeVehicles (new : List (Option Int × VehicleData)) :
    (m.storeVehicles new).2.IsConsistent := by
  refine ⟨h.tidy.changeVehicles (m.changesVehicles_storeVehicles new), ?_⟩
  have hvehicles := h.vehicles
  clear h
  induction new generalizing m with
  | nil => exact hvehicles
  | cons first rest ih => exact ih (nodup_putVehicle _ hvehicles)

theorem saveVehicles : m.saveVehicles.2.IsConsistent :=
  ⟨h.tidy.changeVehicles m.changesVehicles_saveVehicles, (h.storeVehicles m.stagedVehicles).vehicles⟩

theorem setActive (u : VehicleRef) (active : Bool) : (m.setActive u active).2.IsConsistent := by
  refine ⟨h.tidy.changeVehicles (m.changesVehicles_setActive u active), ?_⟩
  unfold Memory.setActive
  split
  · exact h.vehicles
  · exact nodup_putVehicle _ h.vehicles

end IsConsistent

end Memory

/-! ## Tables -/

namespace Tables

/-- A row of a position goes in behind the others, under a key that none of them has. -/
theorem insertPosition_new_key {rows rows' : List PositionRow} {p : NewPosition}
    (h : insertPosition rows p = .ok rows') :
    ∃ r, rows' = rows ++ [r] ∧ r.key ∉ rows.map PositionRow.key ∧ r.place = p.place.stored := by
  unfold insertPosition at h
  split at h
  · nomatch h
  · split at h
    · nomatch h
    · split at h
      · nomatch h
      · rename_i hfree
        refine ⟨_, (Except.ok.inj h).symm, ?_, rfl⟩
        intro hkey
        obtain ⟨r, hr, hsame⟩ := List.mem_map.mp hkey
        have hvehicle := Option.some.inj (congrArg Prod.fst hsame)
        have htime := congrArg (Instant.civil ∘ Prod.snd) hsame
        simp only [Function.comp_apply, PositionRow.key, Civil.civil_instant] at hvehicle htime
        apply hfree
        rw [Bool.or_eq_true, List.any_eq_true]
        exact .inr ⟨r, hr, by simp [hvehicle, htime]⟩

/-- Columns keep places on Earth. -/
theorem isOnEarth_stored {p : Point} (h : p.isOnEarth = true) : p.stored.isOnEarth = true :=
  (⟨p, h⟩ : Coordinates).stored.onEarth

/-- Rows of vehicles whose identifiers are all different and fit their column. -/
structure AreVehicles (rows : List VehicleRow) : Prop where
  distinct : (rows.map VehicleRow.id).Nodup
  fits : ∀ r ∈ rows, fitsColumn r.id = true

/-- Rows of positions whose keys are all different and which can all be read. -/
structure ArePositions (rows : List PositionRow) : Prop where
  distinct : (rows.map PositionRow.key).Nodup
  onEarth : ∀ r ∈ rows, r.place.isOnEarth = true

/-- Both tables are there, and their rows are in order. -/
structure IsConsistent (t : Tables) : Prop where
  vehicles : ∃ rows, t.vehicles = some rows ∧ AreVehicles rows
  positions : ∃ rows, t.positions = some rows ∧ ArePositions rows

theorem AreVehicles.insert {rows rows' : List VehicleRow} (h : AreVehicles rows)
    {new : List NewVehicle} (hnew : new.foldlM insertVehicle rows = .ok rows') :
    AreVehicles rows' := by
  refine foldlM_invariant AreVehicles (fun rows v _ rows₁ h hfirst => ?_) h hnew
  obtain ⟨r, rfl, hfits, hid⟩ := insertVehicle_ok hfirst
  constructor
  · rw [List.map_append, List.nodup_append]
    refine ⟨h.distinct, by simp, ?_⟩
    rintro id hmem id' hmem' rfl
    rw [List.map_singleton, List.mem_singleton] at hmem'
    exact hid (hmem' ▸ hmem)
  · intro w hw
    rcases List.mem_append.mp hw with hw | hw
    · exact h.fits w hw
    · exact List.mem_singleton.mp hw ▸ hfits

theorem ArePositions.insert {rows rows' : List PositionRow} (h : ArePositions rows)
    {new : List NewPosition} (honEarth : ∀ p ∈ new, p.place.isOnEarth = true)
    (hnew : new.foldlM insertPosition rows = .ok rows') : ArePositions rows' := by
  refine foldlM_invariant ArePositions (fun rows p hp rows₁ h hfirst => ?_) h hnew
  obtain ⟨r, rfl, hkey, hplace⟩ := insertPosition_new_key hfirst
  constructor
  · rw [List.map_append, List.nodup_append]
    refine ⟨h.distinct, by simp, ?_⟩
    rintro k hmem k' hmem' rfl
    rw [List.map_singleton, List.mem_singleton] at hmem'
    exact hkey (hmem' ▸ hmem)
  · intro q hq
    rcases List.mem_append.mp hq with hq | hq
    · exact h.onEarth q hq
    · rw [List.mem_singleton.mp hq, hplace]
      exact isOnEarth_stored (honEarth p hp)

/-- An insertion keeps rows in order, whatever it inserts, as long as places are on Earth. -/
theorem IsConsistent.insert {t t' : Tables} (h : t.IsConsistent) {vs : List NewVehicle}
    {ps : List NewPosition} (honEarth : ∀ p ∈ ps, p.place.isOnEarth = true)
    (hinsert : t.insert vs ps = .ok t') : t'.IsConsistent := by
  obtain ⟨vrows, hvrows, hvehicles⟩ := h.vehicles
  obtain ⟨prows, hprows, hpositions⟩ := h.positions
  obtain ⟨vehicles, hvs, hinsert⟩ := bind_eq_ok.mp hinsert
  obtain ⟨positions, hps, hinsert⟩ := bind_eq_ok.mp hinsert
  cases hinsert
  constructor
  · show ∃ rows, vehicles = some rows ∧ AreVehicles rows
    unfold insertVehicles at hvs
    split at hvs
    · cases hvs
      exact ⟨vrows, hvrows, hvehicles⟩
    · rw [hvrows] at hvs
      obtain ⟨_, hrows, hvs⟩ := bind_eq_ok.mp hvs
      cases hrows
      obtain ⟨rows', hfold, hvs⟩ := bind_eq_ok.mp hvs
      cases hvs
      exact ⟨rows', rfl, hvehicles.insert hfold⟩
  · show ∃ rows, positions = some rows ∧ ArePositions rows
    unfold insertPositions at hps
    split at hps
    · cases hps
      exact ⟨prows, hprows, hpositions⟩
    · rw [hprows] at hps
      obtain ⟨_, hrows, hps⟩ := bind_eq_ok.mp hps
      cases hrows
      obtain ⟨rows', hfold, hps⟩ := bind_eq_ok.mp hps
      cases hps
      exact ⟨rows', rfl, hpositions.insert honEarth hfold⟩

/-- Rows whose places are on Earth can be read. -/
theorem ArePositions.mapM_toPosition {rows : List PositionRow} (h : ArePositions rows) :
    ∃ ps, rows.mapM PositionRow.toPosition = .ok ps ∧ (ps.map Position.key).Nodup := by
  have hread : ∀ r ∈ rows, ∃ p, r.toPosition = .ok p := by
    intro r hr
    have hplace : Coordinates.ofPoint r.place = .ok ⟨r.place, h.onEarth r hr⟩ := dif_pos _
    unfold PositionRow.toPosition
    rw [hplace]
    exact ⟨_, rfl⟩
  obtain ⟨ps, hps⟩ := exists_mapM hread
  exact ⟨ps, hps, by rw [(PositionRow.mapM_toPosition_ok hps).1]; exact h.distinct⟩

end Tables

/-! ## Sessions -/

namespace Session

theorem map_row_settle (ids : List Int) (staged : List (Staged α)) :
    (settle ids staged).map Staged.row = staged.map Staged.row := by
  fun_induction settle ids staged with
  | case1 id ids row rest ih => simp [ih]
  | case2 ids s rest _ ih => simp [ih]
  | case3 => rfl

theorem map_row_giveUp (staged : List (Staged α)) :
    (giveUp staged).map Staged.row = staged.map Staged.row := by
  unfold giveUp
  rw [List.map_map]
  apply List.map_congr_left
  intro s _
  rw [Function.comp_apply]
  split <;> rfl

theorem map_row_inserted (ids : List Int) (staged : List (Staged α)) :
    (inserted ids staged).map Staged.row = staged.map Staged.row := by
  unfold inserted displace
  rw [map_row_settle, List.map_map]
  apply List.map_congr_left
  intro s _
  simp only [Function.comp_apply]
  split
  · split <;> rfl
  · rfl

/-- The places of the staged positions are on Earth, whatever has become of them. -/
def IsOnEarth (s : Session) : Prop :=
  ∀ row ∈ s.positions.map Staged.row, row.place.isOnEarth = true

theorem IsOnEarth.waiting {s : Session} (h : s.IsOnEarth) :
    ∀ row ∈ waiting s.positions, row.place.isOnEarth = true := by
  intro row hrow
  obtain ⟨staged, hstaged, rfl⟩ := List.mem_map.mp hrow
  exact h _ (List.mem_map_of_mem (List.mem_filter.mp hstaged).1)

/-- What is given to a session leads to others: to tables with all that waited, and what was given
besides, or to the same tables. The staged positions are the same ones or forgotten, and no rollback
is due. -/
structure LeadsTo (s : Session) (t : Tables) (vs : List NewVehicle) (ps : List NewPosition)
    (s' : Session) (t' : Tables) : Prop where
  tables : t' = t ∨ t.insert (waiting s.vehicles ++ vs) (waiting s.positions ++ ps) = .ok t'
  positions : s'.positions.map Staged.row = s.positions.map Staged.row ∨ s'.positions = []
  isStalled : s'.isStalled = false

variable (s : Session) (t : Tables)

/-- A commit that succeeds inserts what waits and what is given. One that fails changes nothing, but
a rollback is due then. -/
theorem commitWith_cases (vs : List NewVehicle) (ps : List NewPosition) :
    (∃ s' t', s.commitWith t vs ps = (.ok (), s', t') ∧ s.LeadsTo t vs ps s' t') ∨
      ∃ e, s.commitWith t vs ps = (.error e, { s with isStalled := true }, t) := by
  unfold commitWith
  cases hstalled : s.isStalled with
  | true =>
    refine .inr ⟨.rollbackPending, ?_⟩
    rw [if_pos rfl, ← hstalled]
  | false =>
    rw [if_neg Bool.false_ne_true]
    cases hinsert : t.insert (waiting s.vehicles ++ vs) (waiting s.positions ++ ps) with
    | ok t' =>
      exact .inl ⟨_, t', rfl, .inr hinsert, .inl (map_row_inserted _ _), rfl⟩
    | error e => exact .inr ⟨e, rfl⟩

theorem leadsTo_rollback : s.LeadsTo t [] [] s.rollback t :=
  ⟨.inl rfl, .inl (map_row_giveUp _), rfl⟩

theorem leadsTo_savePositions :
    s.LeadsTo t [] [] (s.savePositions t).2.1 (s.savePositions t).2.2 := by
  unfold savePositions commit
  obtain ⟨s', t', hcommit, h⟩ | ⟨e, hcommit⟩ := s.commitWith_cases t [] []
  · rw [hcommit]
    exact ⟨h.tables, .inr rfl, h.isStalled⟩
  · rw [hcommit]
    exact ⟨.inl rfl, .inr rfl, rfl⟩

theorem leadsTo_saveVehicles :
    s.LeadsTo t [] [] (s.saveVehicles t).2.1 (s.saveVehicles t).2.2 := by
  unfold saveVehicles commit
  obtain ⟨s', t', hcommit, h⟩ | ⟨e, hcommit⟩ := s.commitWith_cases t [] []
  · rw [hcommit]
    exact ⟨h.tables, h.positions, h.isStalled⟩
  · rw [hcommit]
    exact ⟨.inl rfl, .inl (map_row_giveUp _), rfl⟩

end Session

namespace Connection

/-- The tables are in order and answer, and what is staged for them can be read once it is
stored. -/
structure IsConsistent (c : Connection) : Prop where
  tables : c.tables.IsConsistent
  session : c.session.IsOnEarth
  isStalled : c.session.isStalled = false

namespace IsConsistent

variable {c : Connection} (h : c.IsConsistent)

include h

theorem leadsTo {vs : List NewVehicle} {ps : List NewPosition}
    (hps : ∀ p ∈ ps, p.place.isOnEarth = true) {s' : Session} {t' : Tables}
    (h' : c.session.LeadsTo c.tables vs ps s' t') : IsConsistent ⟨t', s'⟩ where
  tables := by
    rcases h'.tables with htables | hinsert
    · exact htables ▸ h.tables
    · refine h.tables.insert ?_ hinsert
      intro p hp
      rcases List.mem_append.mp hp with hp | hp
      · exact h.session.waiting p hp
      · exact hps p hp
  session := by
    unfold Session.IsOnEarth
    rcases h'.positions with hsame | hforgotten
    · exact hsame ▸ h.session
    · rw [hforgotten]
      exact List.forall_mem_nil _
  isStalled := h'.isStalled

theorem commitWith {vs : List NewVehicle} {ps : List NewPosition}
    (hps : ∀ p ∈ ps, p.place.isOnEarth = true) (hok : (c.commitWith vs ps).1 = .ok ()) :
    (c.commitWith vs ps).2.IsConsistent := by
  unfold Connection.commitWith at hok ⊢
  obtain ⟨s', t', hcommit, h'⟩ | ⟨e, hcommit⟩ := c.session.commitWith_cases c.tables vs ps
  · rw [hcommit]
    exact h.leadsTo hps h'
  · rw [hcommit] at hok
    nomatch hok

theorem rollback : IsConsistent { c with session := c.session.rollback } :=
  h.leadsTo (List.forall_mem_nil _) (c.session.leadsTo_rollback c.tables)

theorem savePositions : c.savePositions.2.IsConsistent :=
  h.leadsTo (List.forall_mem_nil _) (c.session.leadsTo_savePositions c.tables)

theorem saveVehicles : c.saveVehicles.2.IsConsistent :=
  h.leadsTo (List.forall_mem_nil _) (c.session.leadsTo_saveVehicles c.tables)

theorem stage (ps : List Position) : (FleetStore.stage c ps).IsConsistent := by
  refine ⟨h.tables, ?_, h.isStalled⟩
  intro row hrow
  obtain ⟨s, hs, rfl⟩ := List.mem_map.mp hrow
  rcases List.mem_append.mp hs with hs | hs
  · exact h.session _ (List.mem_map_of_mem hs)
  · obtain ⟨p, _, rfl⟩ := List.mem_map.mp hs
    exact p.coordinates.onEarth

theorem addVehicle (v : VehicleDraft) : (c.addVehicle v).2.IsConsistent := by
  unfold Connection.addVehicle
  cases hadd : c.session.addVehicle v with
  | error e => exact h
  | ok session =>
    obtain ⟨row, _, hadd⟩ := bind_eq_ok.mp hadd
    cases hadd
    exact ⟨h.tables, h.session, h.isStalled⟩

theorem setActive (u : VehicleRef) (active : Bool) : (c.setActive u active).2.IsConsistent := by
  unfold Connection.setActive
  split <;> exact h

end IsConsistent

end Connection

/-! ## Either of both -/

namespace Backing

/-- The stores that arise from empty ones, whatever is done to them. -/
inductive Arises : Backing → Prop
  | empty (usesTables : Bool) : Arises (.empty usesTables)
  | stage {b} (ps : List Position) : Arises b → Arises (FleetStore.stage b ps)
  | savePositions {b} : Arises b → Arises (FleetStore.savePositions b).2
  | addVehicle {b} (v : VehicleDraft) : Arises b → Arises (FleetStore.addVehicle b v).2
  | saveVehicles {b} : Arises b → Arises (FleetStore.saveVehicles b).2
  | setActive {b} (u : VehicleRef) (active : Bool) : Arises b →
    Arises (FleetStore.setActive b u active).2
  | reopen {b} : Arises b → Arises (FleetStore.reopen b)
  /-- A session commits what is staged, and rows that are in none of its lists. -/
  | commitWith {m c} (vs : List NewVehicle) (ps : List NewPosition)
    (onEarth : ∀ p ∈ ps, p.place.isOnEarth = true) (committed : (c.commitWith vs ps).1 = .ok ()) :
    Arises ⟨true, m, c⟩ → Arises ⟨true, m, (c.commitWith vs ps).2⟩
  /-- A session is rolled back. A commit that fails leads to nothing else, once it has been. -/
  | rollback {m c} : Arises ⟨true, m, c⟩ →
    Arises ⟨true, m, { c with session := c.session.rollback }⟩
  /-- Another session commits its rows, which may have asked for any identifiers. -/
  | elsewhere {m c t} (vs : List NewVehicle) (ps : List NewPosition)
    (onEarth : ∀ p ∈ ps, p.place.isOnEarth = true) (inserted : c.tables.insert vs ps = .ok t) :
    Arises ⟨true, m, c⟩ → Arises ⟨true, m, { c with tables := t }⟩

/-- The store at work is in order. -/
def IsConsistent (b : Backing) : Prop := b.ask Memory.IsConsistent Connection.IsConsistent

theorem isConsistent_empty (usesTables : Bool) : (empty usesTables).IsConsistent := by
  cases usesTables with
  | false => exact ⟨.empty, List.nodup_nil⟩
  | true =>
    exact ⟨⟨⟨[], rfl, List.nodup_nil, List.forall_mem_nil _⟩,
      ⟨[], rfl, List.nodup_nil, List.forall_mem_nil _⟩⟩, List.forall_mem_nil _, rfl⟩

/-- What is done to a store is done to the one at work. -/
theorem IsConsistent.write {b : Backing} (h : b.IsConsistent) {onMemory : Memory → α × Memory}
    {onConnection : Connection → α × Connection}
    (hmemory : ∀ m : Memory, m.IsConsistent → (onMemory m).2.IsConsistent)
    (hconnection : ∀ c : Connection, c.IsConsistent → (onConnection c).2.IsConsistent) :
    (b.write onMemory onConnection).2.IsConsistent := by
  match b, h with
  | ⟨false, m, c⟩, h => exact hmemory m h
  | ⟨true, m, c⟩, h => exact hconnection c h

namespace Arises

theorem isConsistent {b : Backing} (h : b.Arises) : b.IsConsistent := by
  induction h with
  | empty usesTables => exact isConsistent_empty usesTables
  | @stage b ps _ ih =>
    match b, ih with
    | ⟨false, m, c⟩, ih => exact Memory.IsConsistent.stage ih ps
    | ⟨true, m, c⟩, ih => exact Connection.IsConsistent.stage ih ps
  | savePositions _ ih =>
    exact ih.write (fun _ hm => hm.savePositions) fun _ hc => hc.savePositions
  | addVehicle v _ ih => exact ih.write (fun _ hm => hm.addVehicle v) fun _ hc => hc.addVehicle v
  | saveVehicles _ ih =>
    exact ih.write (fun _ hm => hm.saveVehicles) fun _ hc => hc.saveVehicles
  | setActive u active _ ih =>
    exact ih.write (fun _ hm => hm.setActive u active) fun _ hc => hc.setActive u active
  | @reopen b _ ih =>
    match b, ih with
    | ⟨false, m, c⟩, ih => exact ih
    | ⟨true, m, c⟩, ih => exact ⟨ih.tables, List.forall_mem_nil _, rfl⟩
  | commitWith vs ps honEarth hok _ ih => exact Connection.IsConsistent.commitWith ih honEarth hok
  | rollback _ ih => exact Connection.IsConsistent.rollback ih
  | elsewhere vs ps honEarth hinsert _ ih =>
    exact ⟨ih.tables.insert honEarth hinsert, ih.session, ih.isStalled⟩

/-- Services only stage and save positions. -/
theorem request {b : Backing} (h : b.Arises) (v : Validator) (r : Request) :
    (r.run v b).2.Arises := by
  have hstore (ps : List Position) : (Service.store b ps).2.Arises := (h.stage ps).savePositions
  cases r with
  | submit p? =>
    show (Service.submit v b p?).2.Arises
    unfold Service.submit
    split
    · exact h
    · split
      · exact h
      · exact h
      · exact hstore _
  | submitBatch policy ps? =>
    show (Service.submitBatch v policy b ps?).2.Arises
    unfold Service.submitBatch
    split
    · exact h
    · split
      · exact h
      · exact h
      · exact hstore _
  | _ => exact h

end Arises

/-- Runs of requests lead from a store that has arisen to such stores only. -/
theorem Arises.of_reachable {box : Box} {start b : Backing} {waiting : Bool} (hstart : start.Arises)
    (h : Reachable box start waiting b) : b.Arises := by
  induction h with
  | start => exact hstart
  | request r _ ih => exact ih.request _ r
  | question r _ _ ih => exact ih.request _ r
  | addVehicle v _ ih => exact .addVehicle v ih
  | saveVehicles _ ih => exact .saveVehicles ih
  | setActive u active _ ih => exact .setActive u active ih

/-- A store of two vehicles, the first of which was at the centre of Athens twice, a second apart. -/
def watched (usesTables : Bool) : Backing :=
  let enlist (b : Backing) (name : String) : Backing :=
    (FleetStore.addVehicle b ⟨none, some name, true, some (default : Instant).timestamp⟩).2
  let fleet := (FleetStore.saveVehicles (enlist (enlist (.empty usesTables) "Van") "Bus")).2
  (FleetStore.savePositions (FleetStore.stage fleet
    [⟨some 1, athensCenter, default, none⟩, ⟨some 1, athensCenter, ⟨1000000, by decide⟩, none⟩,
      ⟨some 2, athensCenter, default, none⟩])).2

theorem arises_watched (usesTables : Bool) : (watched usesTables).Arises :=
  .savePositions (.stage _ (.saveVehicles (.addVehicle _ (.addVehicle _ (.empty usesTables)))))

namespace IsConsistent

variable {b : Backing} (h : b.IsConsistent)

include h

/-- The store holds positions whose keys are all different. -/
theorem exists_holds : ∃ ps, b.Holds ps ∧ (ps.map Position.key).Nodup := by
  match b, h with
  | ⟨false, m, c⟩, h => exact ⟨m.positions, h.tidy.holds, h.tidy.distinct⟩
  | ⟨true, m, c⟩, h =>
    obtain ⟨rows, hrows, hpositions⟩ := Connection.IsConsistent.tables h |>.positions
    obtain ⟨ps, hps, hdistinct⟩ := hpositions.mapM_toPosition
    refine ⟨ps, ?_, hdistinct⟩
    show c.ask Tables.storedPositions = .ok ps
    rw [Connection.ask_of_not_isStalled (Connection.IsConsistent.isStalled h)]
    unfold Tables.storedPositions
    rw [show c.tables.positions = some rows from hrows]
    exact hps

/-- The store keeps vehicles whose identifiers are all different, and all of which it serves. -/
theorem exists_storedVehicles :
    ∃ ws, b.storedVehicles = .ok ws ∧ (ws.map Vehicle.id).Nodup ∧
      ∀ w ∈ ws, b.serves (some w.id) = true := by
  match b, h with
  | ⟨false, m, c⟩, h => exact ⟨m.vehicles, rfl, h.vehicles, fun _ _ => rfl⟩
  | ⟨true, m, c⟩, h =>
    obtain ⟨rows, hrows, hvehicles⟩ := Connection.IsConsistent.tables h |>.vehicles
    refine ⟨rows.map VehicleRow.toVehicle, ?_, ?_, ?_⟩
    · show c.ask Tables.storedVehicles = _
      rw [Connection.ask_of_not_isStalled (Connection.IsConsistent.isStalled h)]
      unfold Tables.storedVehicles
      rw [show c.tables.vehicles = some rows from hrows]
      rfl
    · rw [List.map_map]
      exact hvehicles.distinct
    · rw [List.forall_mem_map]
      exact hvehicles.fits

end IsConsistent

end Backing

end FleetTracking
