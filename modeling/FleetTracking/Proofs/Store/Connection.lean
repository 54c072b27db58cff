import FleetTracking.Proofs.Calendar
import FleetTracking.Proofs.Geo
import FleetTracking.Proofs.Outcome
import FleetTracking.Proofs.Store.Memory
import FleetTracking.Store.Session
import Mathlib.Data.List.Nodup
import Mathlib.Data.List.Perm.Subperm

/-!
# Saving positions through a session

A save of a session with nothing else staged does to the tables what a save in memory does to its
lists: it inserts all positions under the next identifiers, or, where a key is repeated, nothing
(`Connection.store_eq`).

What the save answers is read back from the tables. The rows just inserted are found there under
their identifiers because these are greater than all others (`lt_nextId`).
-/

namespace FleetTracking

/-! ## Identifiers -/

theorem foldl_max_le {n : Int} {ids : List Int} {m : Int} :
    ids.foldl max m ≤ n ↔ m ≤ n ∧ ∀ id ∈ ids, id ≤ n := by
  induction ids generalizing m with
  | nil => simp
  | cons id ids ih =>
    rw [List.foldl_cons, ih, List.forall_mem_cons, Int.max_le, and_assoc]

theorem lt_nextId {ids : List Int} {id : Int} (h : id ∈ ids) : id < nextId ids := by
  match ids, h with
  | first :: rest, h =>
    have hle := foldl_max_le.mp (Int.le_refl (rest.foldl max first))
    show id < rest.foldl max first + 1
    rcases List.mem_cons.mp h with rfl | h
    · omega
    · have := hle.2 id h
      omega

theorem nextId_append (ids : List Int) : nextId (ids ++ [nextId ids]) = nextId ids + 1 := by
  match ids with
  | [] => rfl
  | first :: rest =>
    simp only [nextId, List.cons_append, List.foldl_append, List.foldl_cons, List.foldl_nil]
    omega

/-- The next identifier is given as long as it fits. -/
theorem freeId?_of_fits {ids : List Int} (h : fitsColumn (nextId ids) = true) :
    freeId? ids = some (nextId ids) := if_pos h

/-- An identifier that is given fits, and is new. -/
theorem fits_of_freeId? {ids : List Int} {id : Int} (h : freeId? ids = some id) :
    fitsColumn id = true ∧ id ∉ ids := by
  unfold freeId? at h
  by_cases hnext : fitsColumn (nextId ids) = true
  · rw [if_pos hnext] at h
    cases h
    exact ⟨hnext, fun hmem => Int.lt_irrefl _ (lt_nextId hmem)⟩
  · rw [if_neg hnext, Option.filter_eq_some_iff, Option.map_eq_some_iff] at h
    obtain ⟨⟨n, hfree, rfl⟩, hfits⟩ := h
    exact ⟨hfits, by simpa using List.find?_some hfree⟩

/-- Among more numbers than there are identifiers, one is free. -/
theorem exists_find?_free (ids : List Int) :
    ∃ n, (List.range' 1 (ids.length + 1)).find? (fun (n : Nat) => !ids.contains (n : Int)) =
      some n := by
  refine Option.ne_none_iff_exists'.mp fun hnone => ?_
  have htaken : (List.range' 1 (ids.length + 1)).map Int.ofNat ⊆ ids := by
    intro id hid
    obtain ⟨n, hn, rfl⟩ := List.mem_map.mp hid
    simpa using List.find?_eq_none.mp hnone n hn
  have hdistinct : ((List.range' 1 (ids.length + 1)).map Int.ofNat).Nodup :=
    (List.nodup_range' 1).map fun _ _ => Int.ofNat.inj
  have hle := (List.subperm_of_subset hdistinct htaken).length_le
  rw [List.length_map, List.length_range'] at hle
  omega

/-- No identifier is given just where the column is full: all positive ones that fit are taken. -/
theorem freeId?_eq_none_iff {ids : List Int} :
    freeId? ids = none ↔ ∀ id, 0 < id → fitsColumn id = true → id ∈ ids := by
  unfold freeId?
  by_cases hnext : fitsColumn (nextId ids) = true
  · rw [if_pos hnext]
    refine iff_of_false (fun h => nomatch h) fun hfull => ?_
    have hone := lt_nextId (hfull 1 (by decide) (by decide))
    exact Int.lt_irrefl _ (lt_nextId (hfull (nextId ids) (by omega) hnext))
  · obtain ⟨n, hfind⟩ := exists_find?_free ids
    obtain ⟨hfree, hrange, hleast⟩ := List.find?_range'_eq_some.mp hfind
    have hfree : (n : Int) ∉ ids := by simpa using hfree
    have hone := List.left_le_of_mem_range' hrange
    rw [if_neg hnext, hfind, Option.filter_eq_none_iff]
    constructor
    · intro hunfit id hid hfits
      by_contra hnot
      have hle : (n : Int) ≤ id := by
        by_contra hlt
        have := hleast id.toNat (by omega) (by omega)
        rw [Int.toNat_of_nonneg (Int.le_of_lt hid)] at this
        exact hnot (by simpa using this)
      refine hunfit n rfl ?_
      simp only [fitsColumn, Bool.and_eq_true, decide_eq_true_eq] at hfits ⊢
      omega
    · rintro hfull _ ⟨⟩ hfits
      exact hfree (hfull n (by omega) hfits)

/-! ## Rows -/

/-- A position as the tables give it back. -/
def Position.stored (p : Position) : Position := { p with coordinates := p.coordinates.stored }

/-- A position has a vehicle whose identifier fits its column. -/
def Position.Fits (p : Position) : Prop := ∃ id, p.vehicle = some id ∧ fitsColumn id = true

namespace PositionRow

/-- What identifies the position of a row. -/
def key (r : PositionRow) : VehicleRef × Instant := (some r.vehicle, r.recordedAt.instant)

/-- The row of a position under an identifier. -/
def ofPosition (id : Int) (p : Position) : PositionRow where
  id
  vehicle := p.vehicle.getD 0
  place := p.coordinates.toPoint.stored
  recordedAt := p.recordedAt.civil

/-- Rows of positions under the next identifiers. -/
def numbered (n : Int) : List Position → List PositionRow
  | [] => []
  | p :: rest => ofPosition n p :: numbered (n + 1) rest

theorem key_ofPosition {p : Position} (h : p.Fits) (id : Int) : (ofPosition id p).key = p.key := by
  obtain ⟨vehicle, hv, _⟩ := h
  simp [ofPosition, key, Position.key, hv]

theorem toPosition_ofPosition {p : Position} (h : p.Fits) (id : Int) :
    (ofPosition id p).toPosition = .ok (p.stored.withId (some id)) := by
  obtain ⟨vehicle, hv, _⟩ := h
  unfold toPosition ofPosition
  rw [Coordinates.ofPoint_stored]
  show Except.ok _ = Except.ok _
  simp [Position.withId, Position.stored, hv]

theorem length_numbered (n : Int) (ps : List Position) : (numbered n ps).length = ps.length := by
  induction ps generalizing n with
  | nil => rfl
  | cons p rest ih => simp [numbered, ih]

theorem map_key_numbered {ps : List Position} (h : ∀ p ∈ ps, p.Fits) (n : Int) :
    (numbered n ps).map key = ps.map Position.key := by
  induction ps generalizing n with
  | nil => rfl
  | cons p rest ih =>
    obtain ⟨hp, hrest⟩ := List.forall_mem_cons.mp h
    rw [numbered, List.map_cons, List.map_cons, key_ofPosition hp, ih hrest]

/-- The identifiers given are the next ones, in order. -/
theorem id_of_mem_numbered {n : Int} {ps : List Position} {r : PositionRow}
    (h : r ∈ numbered n ps) : n ≤ r.id := by
  induction ps generalizing n with
  | nil => simp [numbered] at h
  | cons p rest ih =>
    rcases List.mem_cons.mp h with rfl | h
    · exact Int.le_refl _
    · have := ih h
      omega

theorem nodup_id_numbered (n : Int) (ps : List Position) : ((numbered n ps).map id).Nodup := by
  induction ps generalizing n with
  | nil => exact List.nodup_nil
  | cons p rest ih =>
    rw [numbered, List.map_cons, List.nodup_cons]
    refine ⟨fun h => ?_, ih (n + 1)⟩
    obtain ⟨r, hr, hid⟩ := List.mem_map.mp h
    have hlo : n + 1 ≤ r.id := id_of_mem_numbered hr
    have hn : r.id = n := hid
    omega

/-- The rows inserted are the positions stored. -/
theorem mapM_toPosition_numbered {ps : List Position} (h : ∀ p ∈ ps, p.Fits) (n : Int) :
    (numbered n ps).mapM toPosition = .ok (Memory.numbered n (ps.map Position.stored)) := by
  induction ps generalizing n with
  | nil => rfl
  | cons p rest ih =>
    obtain ⟨hp, hrest⟩ := List.forall_mem_cons.mp h
    rw [numbered, List.mapM_cons, toPosition_ofPosition hp, ih hrest]
    rfl

end PositionRow

/-! ## Insertion -/

namespace Tables

/-- Rows are compared by vehicle and date fields, which is by their keys. -/
theorem any_eq_contains_key (rows : List PositionRow) (vehicle : Int) (t : Instant) :
    (rows.any fun r => r.vehicle == vehicle && decide (r.recordedAt = t.civil)) =
      (rows.map PositionRow.key).contains (some vehicle, t) := by
  rw [Bool.eq_iff_iff]
  simp only [List.any_eq_true, Bool.and_eq_true, beq_iff_eq, decide_eq_true_eq,
    List.contains_eq_mem, List.mem_map, PositionRow.key, Prod.mk.injEq, Option.some.injEq]
  constructor
  · rintro ⟨r, hr, rfl, htime⟩
    exact ⟨r, hr, rfl, by rw [htime, Instant.instant_civil]⟩
  · rintro ⟨r, hr, rfl, htime⟩
    exact ⟨r, hr, rfl, by rw [← htime, Civil.civil_instant]⟩

/-- A row is refused just where its key is taken. -/
theorem insertPosition_ofPosition {p : Position} (h : p.Fits) (rows : List PositionRow) :
    insertPosition rows (.ofPosition p) =
      if (rows.map PositionRow.key).contains p.key then .error .constraintViolated
      else .ok (rows ++ [.ofPosition (nextId (rows.map PositionRow.id)) p]) := by
  obtain ⟨vehicle, hv, hfits⟩ := h
  obtain ⟨hlat, hlon⟩ := p.coordinates.isNaN_eq_false
  unfold insertPosition NewPosition.ofPosition
  simp only [hv, hfits, hlat, hlon, Bool.not_true, Bool.false_or, any_eq_contains_key]
  simp [PositionRow.ofPosition, Point.stored, Position.key, hv]

/-- Rows go in one after another just where no key is repeated. -/
theorem foldlM_insertPosition {ps : List Position} (h : ∀ p ∈ ps, p.Fits)
    (rows : List PositionRow) :
    (ps.map NewPosition.ofPosition).foldlM insertPosition rows =
      match Memory.firstRepeated (rows.map PositionRow.key) ps with
      | some _ => .error .constraintViolated
      | none => .ok (rows ++ PositionRow.numbered (nextId (rows.map PositionRow.id)) ps) := by
  induction ps generalizing rows with
  | nil => simp [Memory.firstRepeated, PositionRow.numbered]; rfl
  | cons p rest ih =>
    obtain ⟨hp, hrest⟩ := List.forall_mem_cons.mp h
    rw [List.map_cons, List.foldlM_cons, insertPosition_ofPosition hp]
    unfold Memory.firstRepeated
    by_cases hkey : (rows.map PositionRow.key).contains p.key = true
    · rw [if_pos hkey, if_pos hkey]
      rfl
    · rw [if_neg hkey, if_neg hkey]
      show List.foldlM insertPosition _ _ = _
      -- the new key stands behind the old rows here, and in front of the taken keys in memory
      rw [ih hrest, List.map_append, List.map_append, List.map_singleton, List.map_singleton,
        PositionRow.key_ofPosition hp]
      have htaken : ∀ k, k ∈ rows.map PositionRow.key ++ [p.key] ↔
          k ∈ p.key :: rows.map PositionRow.key := by simp [or_comm]
      rw [Memory.firstRepeated_congr htaken]
      cases Memory.firstRepeated (p.key :: rows.map PositionRow.key) rest with
      | some q => rfl
      | none =>
        have hid : (PositionRow.ofPosition (nextId (rows.map PositionRow.id)) p).id =
          nextId (rows.map PositionRow.id) := rfl
        simp only [hid, nextId_append, PositionRow.numbered, List.append_assoc,
          List.singleton_append]

/-- A row whose vehicle is missing or does not fit its column is always refused. -/
theorem insertPosition_unfit {p : Position} (h : ¬p.Fits) (rows : List PositionRow) :
    ∃ e, insertPosition rows (.ofPosition p) = .error e := by
  unfold insertPosition NewPosition.ofPosition
  cases hv : p.vehicle with
  | none => exact ⟨_, rfl⟩
  | some vehicle =>
    have hfits : fitsColumn vehicle = false := by
      rw [← Bool.not_eq_true]
      exact fun hfits => h ⟨vehicle, hv, hfits⟩
    exact ⟨.outOfRange, by simp [hfits]⟩

theorem fits_of_foldlM_insertPosition {ps : List Position} {rows rows' : List PositionRow}
    (h : (ps.map NewPosition.ofPosition).foldlM insertPosition rows = .ok rows') :
    ∀ p ∈ ps, p.Fits := by
  induction ps generalizing rows with
  | nil => simp
  | cons p rest ih =>
    rw [List.map_cons, List.foldlM_cons] at h
    by_cases hp : p.Fits
    · cases hinsert : insertPosition rows (.ofPosition p) with
      | error e =>
        rw [hinsert] at h
        nomatch h
      | ok rows₁ =>
        rw [hinsert] at h
        exact List.forall_mem_cons.mpr ⟨hp, ih h⟩
    · obtain ⟨e, he⟩ := insertPosition_unfit hp rows
      rw [he] at h
      nomatch h

/-- A row of a vehicle goes in behind the others, under an identifier that fits its column and that
none of them has. -/
theorem insertVehicle_ok {rows rows' : List VehicleRow} {v : NewVehicle}
    (h : insertVehicle rows v = .ok rows') :
    ∃ r, rows' = rows ++ [r] ∧ fitsColumn r.id = true ∧ r.id ∉ rows.map VehicleRow.id := by
  unfold insertVehicle at h
  split at h
  · nomatch h
  · rename_i hfits
    split at h
    · nomatch h
    · split at h
      · split at h
        · rename_i id hid
          split at h
          · nomatch h
          · rename_i hfree
            refine ⟨_, (Except.ok.inj h).symm, ?_, ?_⟩
            · -- the identifier was asked for, or was given
              cases hv : v.id with
              | some n =>
                rw [hv] at hid hfits
                cases hid
                simpa using hfits
              | none =>
                rw [hv] at hid
                exact (fits_of_freeId? hid).1
            · intro hmem
              obtain ⟨r, hr, hsame⟩ := List.mem_map.mp hmem
              exact hfree (List.any_eq_true.mpr ⟨r, hr, beq_iff_eq.mpr hsame⟩)
        · nomatch h
      · nomatch h

/-- The vehicle of an answer was asked for by an identifier that fits. -/
theorem fits_of_vehicle? {t : Tables} {vehicle : VehicleRef} {v : Vehicle}
    (h : t.vehicle? vehicle = .ok (some v)) : ∃ id, vehicle = some id ∧ fitsColumn id = true := by
  obtain ⟨rows, _, h⟩ := bind_eq_ok.mp h
  split at h
  · rename_i hfits
    obtain ⟨r, hfound, _⟩ := Option.map_eq_some_iff.mp (Except.ok.inj h)
    cases vehicle with
    | none => nomatch List.find?_some hfound
    | some id => exact ⟨id, rfl, hfits⟩
  · nomatch h

end Tables

/-! ## Sessions -/

namespace Session

/-- The list of rows that have just been staged. -/
def staged (rows : List α) : List (Staged α) := rows.map fun row => ⟨row, .waiting⟩

theorem waiting_staged (rows : List α) : waiting (staged rows) = rows := by
  induction rows with
  | nil => rfl
  | cons row rest ih =>
    show row :: waiting (staged rest) = row :: rest
    rw [ih]

@[simp] theorem inserted_nil (ids : List Int) : inserted ids ([] : List (Staged α)) = [] := by
  cases ids <;> rfl

/-- Rows that wait are put under the identifiers of the rows inserted, in order. -/
theorem map_fate_inserted {ids : List Int} {rows : List α} (h : ids.length = rows.length) :
    (inserted ids (staged rows)).map Staged.fate = ids.map Fate.stored := by
  have hdisplace : displace ids (staged rows) = staged rows := by
    rw [displace, staged, List.map_map]
    rfl
  rw [inserted, hdisplace]
  clear hdisplace
  induction rows generalizing ids with
  | nil =>
    rw [List.length_eq_zero_iff.mp h]
    rfl
  | cons row rest ih =>
    match ids, h with
    | id :: ids, h =>
      show Fate.stored id :: (settle ids (staged rest)).map Staged.fate = _
      rw [ih (Nat.succ.inj h), List.map_cons]

theorem addedIds_append (id : α → Int) (old new : List α) :
    addedIds id (some old) (some (old ++ new)) = new.map id := by
  simp [addedIds]

/-- Rows behind all others are found again under their identifiers. -/
theorem mapM_refresh_append {id : α → Int} {old new : List α}
    (hold : ∀ r ∈ old, ∀ r' ∈ new, id r ≠ id r') (hnew : (new.map id).Nodup) :
    (new.map fun r => Fate.stored (id r)).mapM (refresh id (some (old ++ new))) = .ok new := by
  have hfind : ∀ r ∈ new, refresh id (some (old ++ new)) (.stored (id r)) = .ok r := by
    intro r hr
    -- the search passes the old rows and stops at the row itself, as no other has its identifier
    have hold' : old.find? (fun r' => id r' == id r) = none :=
      List.find?_eq_none.mpr fun r' hr' => by simpa using hold r' hr' r hr
    have hnew' : new.find? (fun r' => id r' == id r) = some r := by
      clear hold hold'
      induction new with
      | nil => simp at hr
      | cons first rest ih =>
        rw [List.map_cons, List.nodup_cons] at hnew
        rcases List.mem_cons.mp hr with rfl | hr
        · simp
        · have hne : id first ≠ id r := fun h => hnew.1 (h ▸ List.mem_map_of_mem hr)
          rw [List.find?_cons_of_neg (by simpa using hne)]
          exact ih hnew.2 hr
    unfold refresh Tables.rows
    dsimp only [bind, Except.bind]
    rw [List.find?_append, hold', hnew']
    rfl
  rw [List.mapM_map]
  exact (mapM_eq_ok hfind).trans (by rw [List.map_id'])

/-- Rows that were just inserted behind all others are found again, in order. -/
theorem mapM_refresh_inserted {id : β → Int} {old new : List β} {rows : List α}
    (hlength : new.length = rows.length) (hold : ∀ r ∈ old, ∀ r' ∈ new, id r ≠ id r')
    (hnew : (new.map id).Nodup) :
    ((inserted (new.map id) (staged rows)).mapM fun s => refresh id (some (old ++ new)) s.fate) =
      .ok new := by
  have hfates : (inserted (new.map id) (staged rows)).map Staged.fate =
      (new.map id).map Fate.stored :=
    map_fate_inserted (by rw [List.length_map, hlength])
  show (inserted (new.map id) (staged rows)).mapM (refresh id (some (old ++ new)) ∘ Staged.fate) = _
  rw [← List.mapM_map, hfates, List.map_map]
  exact mapM_refresh_append hold hnew

theorem waiting_nil : waiting ([] : List (Staged α)) = [] := rfl

/-- A commit whose rows are refused leaves the tables as they were. -/
theorem commit_refused {t : Tables} {rows : List NewPosition} {e : Failure}
    (h : t.insert [] rows = .error e) :
    commit ⟨[], staged rows, false⟩ t = (.error e, ⟨[], staged rows, true⟩, t) := by
  unfold commit commitWith
  rw [if_neg Bool.false_ne_true]
  simp only [waiting_staged, waiting_nil, List.append_nil, h]

/-- A commit whose rows go in puts them under the identifiers of the rows behind the old ones. -/
theorem commit_inserted {t t' : Tables} {old new : List PositionRow} {rows : List NewPosition}
    (h : t.insert [] rows = .ok t') (ht : t.positions = some old)
    (ht' : t'.positions = some (old ++ new)) :
    commit ⟨[], staged rows, false⟩ t =
      (.ok (), ⟨[], inserted (new.map PositionRow.id) (staged rows), false⟩, t') := by
  unfold commit commitWith
  rw [if_neg Bool.false_ne_true]
  simp only [waiting_staged, waiting_nil, List.append_nil, h, ht, ht', addedIds_append,
    inserted_nil]

/-- A save whose rows go in answers the positions of these rows. -/
theorem savePositions_inserted {t t' : Tables} {old new : List PositionRow}
    {rows : List NewPosition} (h : t.insert [] rows = .ok t') (ht : t.positions = some old)
    (ht' : t'.positions = some (old ++ new)) (hlength : new.length = rows.length)
    (hold : ∀ r ∈ old, ∀ r' ∈ new, r.id ≠ r'.id) (hnew : (new.map PositionRow.id).Nodup) :
    savePositions ⟨[], staged rows, false⟩ t =
      (new.mapM PositionRow.toPosition, .empty, t') := by
  have hrefresh := mapM_refresh_inserted hlength hold hnew
  unfold savePositions
  rw [commit_inserted h ht ht']
  show (((inserted (new.map PositionRow.id) (staged rows)).mapM
      (fun s => refresh PositionRow.id t'.positions s.fate) >>= List.mapM PositionRow.toPosition :
      Except Failure (List Position)), (⟨[], [], false⟩ : Session), t') = _
  rw [ht', hrefresh]
  rfl

end Session

/-! ## Saving -/

namespace Connection

/-- Nothing waits to be saved, and no rollback is due. -/
def IsIdle (c : Connection) : Prop := c.session = .empty

theorem IsIdle.empty (t : Tables) : IsIdle ⟨t, .empty⟩ := rfl

/-- The tables answer where no rollback is due. -/
theorem ask_of_not_isStalled {c : Connection} (h : c.session.isStalled = false)
    (question : Tables → Except Failure α) : c.ask question = question c.tables := by
  unfold ask
  rw [h]
  rfl

theorem ask_of_isIdle {c : Connection} (hc : c.IsIdle) (question : Tables → Except Failure α) :
    c.ask question = question c.tables :=
  ask_of_not_isStalled (congrArg Session.isStalled hc) question

@[simp] theorem ask_empty (t : Tables) (question : Tables → Except Failure α) :
    ask ⟨t, .empty⟩ question = question t := rfl

/-- What is answered was asked of the tables, and no rollback was due. -/
theorem ask_eq_ok {c : Connection} {question : Tables → Except Failure α} {a : α} :
    c.ask question = .ok a ↔ c.session.isStalled = false ∧ question c.tables = .ok a := by
  unfold ask
  cases c.session.isStalled with
  | false => exact (and_iff_right rfl).symm
  | true => exact ⟨fun h => (nomatch h), fun h => nomatch h.1⟩

/-- A question fails because a rollback is due, or as the tables say. -/
theorem ask_eq_error {c : Connection} {question : Tables → Except Failure α} {e : Failure}
    (h : c.ask question = .error e) :
    c.session.isStalled = true ∧ e = .rollbackPending ∨
      c.session.isStalled = false ∧ question c.tables = .error e := by
  unfold ask at h
  cases hstalled : c.session.isStalled with
  | false =>
    rw [hstalled] at h
    exact .inr ⟨rfl, h⟩
  | true =>
    rw [hstalled] at h
    exact .inl ⟨rfl, (Except.error.inj h).symm⟩

/-- The tables with rows of further positions under the next identifiers. -/
def extend (c : Connection) (ps : List Position) : Connection :=
  let positions := c.tables.positions.map fun rows =>
    rows ++ PositionRow.numbered (nextId (rows.map PositionRow.id)) ps
  { c with tables := { c.tables with positions } }

theorem insert_positions (t : Tables) {rows : List PositionRow} (hrows : t.positions = some rows)
    {ps : List Position} (h : ∀ p ∈ ps, p.Fits) :
    t.insert [] (ps.map NewPosition.ofPosition) =
      match Memory.firstRepeated (rows.map PositionRow.key) ps with
      | some _ => .error .constraintViolated
      | none =>
        .ok ⟨t.vehicles,
          some (rows ++ PositionRow.numbered (nextId (rows.map PositionRow.id)) ps)⟩ := by
  have hpositions : Tables.insertPositions t.positions (ps.map NewPosition.ofPosition) =
      (Memory.firstRepeated (rows.map PositionRow.key) ps).elim
        (.ok (some (rows ++ PositionRow.numbered (nextId (rows.map PositionRow.id)) ps)))
        fun _ => .error .constraintViolated := by
    unfold Tables.insertPositions
    cases ps with
    | nil => simp [hrows, PositionRow.numbered, Memory.firstRepeated]
    | cons p rest =>
      rw [hrows]
      show (do return some (← List.foldlM Tables.insertPosition rows _)) = _
      rw [Tables.foldlM_insertPosition h]
      cases Memory.firstRepeated (rows.map PositionRow.key) (p :: rest) <;> rfl
  show (do return (⟨t.vehicles, ← Tables.insertPositions t.positions _⟩ : Tables)) = _
  rw [hpositions]
  cases Memory.firstRepeated (rows.map PositionRow.key) ps <;> rfl

/-- A save is one of a session in which just the new rows wait. -/
theorem store_eq_savePositions {c : Connection} (hc : c.IsIdle) (ps : List Position) :
    Service.store c ps =
      ((Session.savePositions ⟨[], Session.staged (ps.map NewPosition.ofPosition), false⟩
        c.tables).map id fun after => ⟨after.2, after.1⟩) := by
  obtain ⟨tables, session⟩ := c
  change session = .empty at hc
  subst hc
  have hstaged : Session.empty.stage ps =
      ⟨[], Session.staged (ps.map NewPosition.ofPosition), false⟩ := by
    simp [Session.stage, Session.staged, Session.empty]
  rw [← hstaged]
  rfl

/-- A save whose rows are refused leaves the tables as they were. -/
theorem store_refused {c : Connection} (hc : c.IsIdle) {ps : List Position} {e : Failure}
    (h : c.tables.insert [] (ps.map NewPosition.ofPosition) = .error e) :
    Service.store c ps = (.error (Session.positionFailure
      (Session.staged (ps.map NewPosition.ofPosition)) e), c) := by
  rw [store_eq_savePositions hc]
  unfold Session.savePositions
  rw [Session.commit_refused h]
  show (_, (⟨c.tables, .empty⟩ : Connection)) = (_, c)
  rw [← (show c.session = .empty from hc)]
  rfl

/-- A save stores everything, or nothing where a key is repeated. -/
theorem store_eq {c : Connection} (hc : c.IsIdle) {rows : List PositionRow}
    (hrows : c.tables.positions = some rows) {ps : List Position} (h : ∀ p ∈ ps, p.Fits) :
    Service.store c ps =
      match Memory.firstRepeated (rows.map PositionRow.key) ps with
      | some _ =>
        (.error (Session.positionFailure (Session.staged (ps.map NewPosition.ofPosition))
          .constraintViolated), c)
      | none =>
        (.ok (Memory.numbered (nextId (rows.map PositionRow.id)) (ps.map Position.stored)),
          c.extend ps) := by
  have hinsert := insert_positions c.tables hrows h
  cases hrepeated : Memory.firstRepeated (rows.map PositionRow.key) ps with
  | some p =>
    rw [hrepeated] at hinsert
    exact store_refused hc hinsert
  | none =>
    rw [hrepeated] at hinsert
    -- rows are read again by their identifiers, so the new ones must not be among the old
    have hfresh : ∀ r ∈ rows, ∀ r' ∈ PositionRow.numbered (nextId (rows.map PositionRow.id)) ps,
        r.id ≠ r'.id := by
      intro r hr r' hr'
      have hlt := lt_nextId (List.mem_map_of_mem (f := PositionRow.id) hr)
      have hle := PositionRow.id_of_mem_numbered hr'
      omega
    rw [store_eq_savePositions hc, Session.savePositions_inserted hinsert hrows rfl
      (by rw [PositionRow.length_numbered, List.length_map]) hfresh
      (PositionRow.nodup_id_numbered _ _), PositionRow.mapM_toPosition_numbered h]
    show (_, (⟨_, .empty⟩ : Connection)) = (_, _)
    rw [← (show c.session = .empty from hc), extend, hrows]
    rfl

theorem IsIdle.extend {c : Connection} (h : c.IsIdle) (ps : List Position) :
    (c.extend ps).IsIdle := h

theorem store_nil {c : Connection} (hc : c.IsIdle) : Service.store c [] = (.ok [], c) := by
  obtain ⟨tables, session⟩ := c
  change session = .empty at hc
  subst hc
  have hcommit : Session.commit ⟨[], [], false⟩ tables = (.ok (), .empty, tables) := by
    unfold Session.commit Session.commitWith
    rw [if_neg Bool.false_ne_true]
    rw [show tables.insert _ _ = .ok tables from rfl]
    simp only [Session.inserted_nil]
    rfl
  rw [store_eq_savePositions (c := ⟨tables, .empty⟩) rfl]
  unfold Session.savePositions
  rw [show Session.staged (([] : List Position).map NewPosition.ofPosition) = [] from rfl, hcommit]
  rfl

/-- Rows can only go into a table that is there, and under identifiers that fit. -/
theorem insert_positions_ok {t t' : Tables} {ps : List Position} (hps : ps ≠ [])
    (h : t.insert [] (ps.map NewPosition.ofPosition) = .ok t') :
    (∃ rows, t.positions = some rows) ∧ ∀ p ∈ ps, p.Fits := by
  have hnonempty : (ps.map NewPosition.ofPosition).isEmpty = false := by
    cases ps with
    | nil => exact absurd rfl hps
    | cons p rest => rfl
  unfold Tables.insert at h
  rw [show Tables.insertVehicles t.vehicles [] = .ok t.vehicles from rfl] at h
  unfold Tables.insertPositions at h
  rw [hnonempty] at h
  cases hrows : t.positions with
  | none =>
    rw [hrows] at h
    nomatch h
  | some rows =>
    refine ⟨⟨rows, rfl⟩, ?_⟩
    rw [hrows] at h
    cases hfold : (ps.map NewPosition.ofPosition).foldlM Tables.insertPosition rows with
    | ok rows' => exact Tables.fits_of_foldlM_insertPosition hfold
    | error e =>
      simp only [Tables.rows, bind, Except.bind, hfold] at h
      nomatch h

/-- What a save can do: fail and leave everything as it was, or store everything. -/
theorem store_cases {c : Connection} (hc : c.IsIdle) {ps : List Position} (hps : ps ≠ []) :
    (∃ e, Service.store c ps = (.error e, c)) ∨
      ∃ rows, c.tables.positions = some rows ∧ (∀ p ∈ ps, p.Fits) ∧
        Memory.firstRepeated (rows.map PositionRow.key) ps = none ∧
        Service.store c ps =
          (.ok (Memory.numbered (nextId (rows.map PositionRow.id)) (ps.map Position.stored)),
            c.extend ps) := by
  cases hinsert : c.tables.insert [] (ps.map NewPosition.ofPosition) with
  | error e => exact .inl ⟨_, store_refused hc hinsert⟩
  | ok t' =>
    obtain ⟨⟨rows, hrows⟩, hfits⟩ := insert_positions_ok hps hinsert
    have hstore := store_eq hc hrows hfits
    cases hrepeated : Memory.firstRepeated (rows.map PositionRow.key) ps with
    | some p =>
      rw [hrepeated] at hstore
      exact .inl ⟨_, hstore⟩
    | none =>
      rw [hrepeated] at hstore
      exact .inr ⟨rows, hrows, hfits, hrepeated, hstore⟩

/-- A save whose rows go in answers what was stored. -/
theorem store_accepted {c : Connection} (hc : c.IsIdle) {ps : List Position} {t' : Tables}
    (h : c.tables.insert [] (ps.map NewPosition.ofPosition) = .ok t') :
    ∃ saved c', Service.store c ps = (.ok saved, c') := by
  by_cases hps : ps = []
  · rw [hps]
    exact ⟨[], c, store_nil hc⟩
  · obtain ⟨⟨rows, hrows⟩, hfits⟩ := insert_positions_ok hps h
    have hinsert := insert_positions c.tables hrows hfits
    have hstore := store_eq hc hrows hfits
    cases hrepeated : Memory.firstRepeated (rows.map PositionRow.key) ps with
    | some p =>
      rw [hrepeated] at hinsert
      nomatch h.symm.trans hinsert
    | none =>
      rw [hrepeated] at hstore
      exact ⟨_, _, hstore⟩

end Connection

end FleetTracking
