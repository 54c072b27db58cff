import FleetTracking.Proofs.Seeding.Sample
import FleetTracking.Proofs.Store.Enrollment

/-!
# What seeding does to tables

Into tables without vehicles, the vehicles of a sample go under the numbers from one on. All that can
keep them out is that these do not all fit their column (`HasNumbers`, `insert_vehicles`). Their
positions go in after them, in a commit of their own, and are refused together if one of them is.
There is no other way for seeding to end once a sample has been drawn (`exists_seedsTables`).

A session whose rows were refused is stalled, and its connection answers no question until somebody
rolls it back (`SeedsTables.isIdle_or_stalled`).
-/

namespace FleetTracking.Seeding

open Text

/-- A session with nothing in its lists that waits for a rollback. -/
def stalled : Session := ⟨[], [], true⟩

/-- A commit of a session in which nothing waits inserts what it is given. If it fails it changes no
table, and the session has to be rolled back. -/
theorem commitWith_idle (t : Tables) (vs : List NewVehicle) (ps : List NewPosition) :
    Connection.commitWith ⟨t, .empty⟩ vs ps =
      match t.insert vs ps with
      | .ok t' => (.ok (), ⟨t', .empty⟩)
      | .error e => (.error e, ⟨t, stalled⟩) := by
  have hnone : Session.waiting Session.empty.vehicles ++ vs = vs ∧
      Session.waiting Session.empty.positions ++ ps = ps := ⟨List.nil_append vs, List.nil_append ps⟩
  unfold Connection.commitWith Session.commitWith
  dsimp only
  rw [show Session.empty.isStalled = false from rfl, if_neg Bool.false_ne_true, hnone.1, hnone.2]
  cases t.insert vs ps with
  | error e => rfl
  | ok t' =>
    show (_, (⟨t', ⟨Session.inserted _ [], Session.inserted _ [], false⟩⟩ : Connection)) = _
    rw [Session.inserted_nil, Session.inserted_nil]
    rfl

/-! ## Rows -/

/-- The rows of sample vehicles that get the numbers from `n` on. -/
def rowsFrom (n : Int) : List SampleVehicle → List VehicleRow
  | [] => []
  | v :: rest => ⟨n, v.name, true, v.createdDate.civil⟩ :: rowsFrom (n + 1) rest

theorem length_rowsFrom (n : Int) (vs : List SampleVehicle) :
    (rowsFrom n vs).length = vs.length := by
  induction vs generalizing n with
  | nil => rfl
  | cons v rest ih => rw [rowsFrom, List.length_cons, ih, List.length_cons]

theorem rowsFrom_ne_nil {n : Int} {vehicles : List SampleVehicle} (h : vehicles ≠ []) :
    rowsFrom n vehicles ≠ [] := by
  rw [← List.length_pos_iff, length_rowsFrom]
  exact List.length_pos_iff.mpr h

/-- The numbers from `n` on, for so many vehicles. -/
def idsFrom (n : Int) : Nat → List Int
  | 0 => []
  | count + 1 => n :: idsFrom (n + 1) count

theorem mem_idsFrom {n id : Int} {count : Nat} :
    id ∈ idsFrom n count ↔ n ≤ id ∧ id < n + count := by
  induction count generalizing n with
  | zero =>
    refine ⟨fun h => (nomatch h), fun h => ?_⟩
    omega
  | succ count ih =>
    rw [idsFrom, List.mem_cons, ih]
    omega

theorem nodup_idsFrom (n : Int) (count : Nat) : (idsFrom n count).Nodup := by
  induction count generalizing n with
  | zero => exact List.nodup_nil
  | succ count ih =>
    refine List.nodup_cons.mpr ⟨fun h => ?_, ih (n + 1)⟩
    have := mem_idsFrom.mp h
    omega

theorem idsFrom_succ (n : Int) (count : Nat) :
    idsFrom n (count + 1) = idsFrom n count ++ [n + count] := by
  induction count generalizing n with
  | zero => simp [idsFrom]
  | succ count ih =>
    rw [idsFrom, ih (n + 1), idsFrom, List.cons_append]
    congr 3
    omega

/-- After the numbers from one on comes the next one. -/
theorem nextId_idsFrom (count : Nat) : nextId (idsFrom 1 count) = (count + 1 : Nat) := by
  induction count with
  | zero => rfl
  | succ count ih =>
    have hsnoc : idsFrom 1 (count + 1) = idsFrom 1 count ++ [nextId (idsFrom 1 count)] := by
      rw [ih, idsFrom_succ, Int.add_comm]
      rfl
    rw [hsnoc, nextId_append, ih]
    rfl

/-- Where the numbers from one on are taken, the next one is given if it fits, and else none. -/
theorem freeId?_idsFrom (count : Nat) : freeId? (idsFrom 1 count) =
    if fitsColumn (count + 1 : Nat) then some ((count + 1 : Nat) : Int) else none := by
  by_cases hnext : fitsColumn (count + 1 : Nat) = true
  · rw [if_pos hnext, freeId?_of_fits (by rwa [nextId_idsFrom]), nextId_idsFrom]
  · rw [if_neg hnext, freeId?_eq_none_iff]
    intro id hid hfits
    refine mem_idsFrom.mpr ⟨hid, ?_⟩
    simp only [fitsColumn, Bool.and_eq_true, decide_eq_true_eq] at hnext hfits
    omega

theorem map_id_rowsFrom (n : Int) (vs : List SampleVehicle) :
    (rowsFrom n vs).map VehicleRow.id = idsFrom n vs.length := by
  induction vs generalizing n with
  | nil => rfl
  | cons v rest ih => rw [rowsFrom, List.map_cons, ih, List.length_cons, idsFrom]

/-- The rows of the positions of tracks, for vehicles with these identifiers. -/
def newPositions (ids : List Int) (tracks : List (List SamplePosition)) : List NewPosition :=
  (placed ids tracks).map fun (id, p) => ⟨some id, p.place, p.recordedAt.civil⟩

/-- The numbers of all vehicles, from one on, fit their column. -/
def HasNumbers (counts : SeedCounts) : Prop := fitsColumn counts.vehicles.toNat = true

instance (counts : SeedCounts) : Decidable (HasNumbers counts) :=
  inferInstanceAs (Decidable (_ = true))

/-- A sample vehicle does not go into a table that has no number left. -/
theorem insertVehicle_full {number : Nat} {v : SampleVehicle} (hname : IsSampleName number v.name)
    {rows : List VehicleRow} (hfull : freeId? (rows.map VehicleRow.id) = none) :
    Tables.insertVehicle rows (SampleVehicle.row v) = .error .tableFull := by
  unfold Tables.insertVehicle SampleVehicle.row
  dsimp only
  rw [hfull, Option.any_some, hname.hasHalf_eq]
  rfl

/-- Behind rows that have the numbers from one on, sample vehicles go under the numbers after these.
They go in just if all these numbers fit. -/
theorem foldlM_insertVehicle {number : Nat} {vs : List SampleVehicle} (h : AreNamed number vs)
    {rows : List VehicleRow} {count : Nat} (hrows : rows.map VehicleRow.id = idsFrom 1 count)
    (hcount : fitsColumn count = true) :
    (vs.map SampleVehicle.row).foldlM Tables.insertVehicle rows =
      if fitsColumn (count + vs.length : Nat) then .ok (rows ++ rowsFrom (count + 1 : Nat) vs)
      else .error .tableFull := by
  induction vs generalizing number rows count with
  | nil =>
    rw [rowsFrom, List.append_nil, List.length_nil, Nat.add_zero, if_pos hcount]
    rfl
  | cons v rest ih =>
    obtain ⟨hname, hrest⟩ := h
    rw [List.map_cons, List.foldlM_cons,
      show count + (v :: rest).length = count + 1 + rest.length by rw [List.length_cons]; omega]
    by_cases hnext : fitsColumn (count + 1 : Nat) = true
    · let r : VehicleRow := ⟨(count + 1 : Nat), v.name, true, v.createdDate.civil⟩
      have hid : nextId (rows.map VehicleRow.id) = (count + 1 : Nat) := by
        rw [hrows, nextId_idsFrom]
      have hfresh : ∀ r ∈ rows, r.id ≠ nextId (rows.map VehicleRow.id) := fun r hr =>
        Int.ne_of_lt (lt_nextId (List.mem_map_of_mem (f := VehicleRow.id) hr))
      have hinsert : Tables.insertVehicle rows (SampleVehicle.row v) =
          .ok (rows ++ [{ r with id := nextId (rows.map VehicleRow.id) }]) :=
        Tables.insertVehicle_new (hid ▸ hnext) hname.hasHalf_eq rfl rfl hfresh
      have hrows' : (rows ++ [r]).map VehicleRow.id = idsFrom 1 (count + 1) := by
        rw [List.map_append, hrows, idsFrom_succ, Int.add_comm]
        rfl
      rw [hinsert, hid]
      show List.foldlM Tables.insertVehicle (rows ++ [r]) _ = _
      rw [ih hrest hrows' hnext, rowsFrom, List.append_assoc, List.singleton_append]
      rfl
    · have hunfit : ¬fitsColumn (count + 1 + rest.length : Nat) = true := by
        simp only [fitsColumn, Bool.and_eq_true, decide_eq_true_eq] at hnext hcount ⊢
        omega
      rw [if_neg hunfit, insertVehicle_full hname (by rw [hrows, freeId?_idsFrom, if_neg hnext])]
      rfl

variable {t : Tables} (ht : t.vehicles = some [])

include ht

omit ht in
/-- Into no rows, sample vehicles go under the numbers from one on, if these fit. -/
theorem foldlM_insertVehicle_nil {vs : List SampleVehicle} (h : AreNamed 1 vs) :
    (vs.map SampleVehicle.row).foldlM Tables.insertVehicle [] =
      if fitsColumn vs.length then .ok (rowsFrom 1 vs) else .error .tableFull := by
  have hfold := foldlM_insertVehicle h (show [].map VehicleRow.id = idsFrom 1 0 from rfl) rfl
  rwa [Nat.zero_add] at hfold

/-- Into a table without rows, sample vehicles go likewise. -/
theorem insert_vehicles {vs : List SampleVehicle} (h : AreNamed 1 vs) :
    t.insert (vs.map SampleVehicle.row) [] =
      if fitsColumn vs.length then .ok ⟨some (rowsFrom 1 vs), t.positions⟩
      else .error .tableFull := by
  show (do return (⟨← Tables.insertVehicles t.vehicles _, t.positions⟩ : Tables)) = _
  rw [ht, Tables.insertVehicles_some, foldlM_insertVehicle_nil h]
  split <;> rfl

omit ht in
theorem insert_positions (vehicles : Option (List VehicleRow)) (table : Option (List PositionRow))
    (ps : List NewPosition) :
    (⟨vehicles, table⟩ : Tables).insert [] ps =
      (Tables.insertPositions table ps).map fun positions => ⟨vehicles, positions⟩ := by
  show (do return (⟨_, ← Tables.insertPositions table ps⟩ : Tables)) = _
  cases Tables.insertPositions table ps <;> rfl

/-! ## The two commits -/

/-- A sample whose vehicles go in gets its positions stored, or none of them. -/
theorem commitSample_eq {vehicles : List SampleVehicle} (h : AreNamed 1 vehicles)
    (hfits : fitsColumn vehicles.length = true) (tracks : List (List SamplePosition)) :
    commitSample ⟨t, .empty⟩ vehicles tracks =
      match Tables.insertPositions t.positions
          (newPositions (idsFrom 1 vehicles.length) tracks) with
      | .error e => (.error e, ⟨⟨some (rowsFrom 1 vehicles), t.positions⟩, stalled⟩)
      | .ok positions =>
        (.ok vehicles.length, ⟨⟨some (rowsFrom 1 vehicles), positions⟩, .empty⟩) := by
  have hvehicles := insert_vehicles ht h
  rw [if_pos hfits] at hvehicles
  unfold commitSample
  rw [commitWith_idle, hvehicles]
  dsimp only
  have hids : (((some (rowsFrom 1 vehicles)).getD []).drop ((t.vehicles.getD []).length +
      (Session.waiting Session.empty.vehicles).length)).map VehicleRow.id =
        idsFrom 1 vehicles.length := by
    rw [ht]
    exact map_id_rowsFrom 1 vehicles
  rw [commitWith_idle, insert_positions, hids]
  unfold newPositions
  generalize Tables.insertPositions t.positions _ = result
  cases result <;> rfl

/-- A sample that has more vehicles than there are numbers changes no table. -/
theorem commitSample_crowded {vehicles : List SampleVehicle} (h : AreNamed 1 vehicles)
    (hfits : ¬fitsColumn vehicles.length = true) (tracks : List (List SamplePosition)) :
    commitSample ⟨t, .empty⟩ vehicles tracks = (.error .tableFull, ⟨t, stalled⟩) := by
  have hvehicles := insert_vehicles ht h
  rw [if_neg hfits] at hvehicles
  unfold commitSample
  rw [commitWith_idle, hvehicles]

omit ht

/-- How seeding can end: with which answer, at which connection, and with which source. -/
inductive SeedsTables {ρ : Type} [RandomSource ρ] (t : Tables) (rng : ρ) (now : Instant)
    (counts : SeedCounts) : Except Failure Nat → Connection → ρ → Prop
  /-- There is no table of vehicles. -/
  | missing (h : t.vehicles = none) :
    SeedsTables t rng now counts (.error .tableMissing) ⟨t, .empty⟩ rng
  /-- There are vehicles already. -/
  | inhabited {v rest} (h : t.vehicles = some (v :: rest)) :
    SeedsTables t rng now counts (.ok 0) ⟨t, .empty⟩ rng
  /-- No sample could be drawn. -/
  | undrawn {e rng'} (h : t.vehicles = some [])
    (hsample : sample rng now counts = (.error e, rng')) :
    SeedsTables t rng now counts (.error e) ⟨t, .empty⟩ rng'
  /-- The vehicles of a sample were refused, since there are not enough numbers for them. -/
  | crowded {parts rng'} (h : t.vehicles = some [])
    (hsample : sample rng now counts = (.ok parts, rng')) (hnumbers : ¬HasNumbers counts) :
    SeedsTables t rng now counts (.error .tableFull) ⟨t, stalled⟩ rng'
  /-- The vehicles of a sample were stored, and its positions refused. -/
  | torn {vehicles tracks e rng'} (h : t.vehicles = some [])
    (hsample : sample rng now counts = (.ok (vehicles, tracks), rng'))
    (hnumbers : HasNumbers counts)
    (hrefused : Tables.insertPositions t.positions
      (newPositions (idsFrom 1 vehicles.length) tracks) = .error e) :
    SeedsTables t rng now counts (.error e)
      ⟨⟨some (rowsFrom 1 vehicles), t.positions⟩, stalled⟩ rng'
  /-- A sample was stored. -/
  | stored {vehicles tracks positions rng'} (h : t.vehicles = some [])
    (hsample : sample rng now counts = (.ok (vehicles, tracks), rng'))
    (hnumbers : HasNumbers counts)
    (hinserted : Tables.insertPositions t.positions
      (newPositions (idsFrom 1 vehicles.length) tracks) = .ok positions) :
    SeedsTables t rng now counts (.ok vehicles.length)
      ⟨⟨some (rowsFrom 1 vehicles), positions⟩, .empty⟩ rng'

section

variable {ρ : Type} [RandomSource ρ]

/-- Seeding leaves a session at work with nothing staged, or it failed and the session waits for a
rollback. -/
theorem SeedsTables.isIdle_or_stalled {rng rng' : ρ} {now : Instant} {counts : SeedCounts}
    {result : Except Failure Nat} {c : Connection} (h : SeedsTables t rng now counts result c rng') :
    c.IsIdle ∨ result.isOk = false ∧ c.session = stalled := by
  cases h with
  | crowded => exact .inr ⟨rfl, rfl⟩
  | torn => exact .inr ⟨rfl, rfl⟩
  | _ => exact .inl rfl

/-- Seeding ends in one of these ways. -/
theorem exists_seedsTables (t : Tables) (rng : ρ) (now : Instant) (counts : SeedCounts) :
    ∃ result c rng', SeedsTables t rng now counts result c rng' ∧
      seedTables ⟨t, .empty⟩ rng now counts = (result, c, rng') := by
  unfold seedTables
  rw [Connection.ask_empty]
  cases ht : t.vehicles with
  | none => exact ⟨_, _, _, .missing ht, rfl⟩
  | some rows =>
    cases rows with
    | cons v rest => exact ⟨_, _, _, .inhabited ht, rfl⟩
    | nil =>
      dsimp only [Tables.rows]
      cases hsample : sample rng now counts with
      | mk drawn rng' =>
        cases drawn with
        | error e => exact ⟨_, _, _, .undrawn ht hsample, rfl⟩
        | ok parts =>
          obtain ⟨vehicles, tracks⟩ := parts
          have hdrawn := isSample_of_sample hsample
          have hnumbers : HasNumbers counts ↔ fitsColumn vehicles.length = true := by
            rw [HasNumbers, hdrawn.length]
          dsimp only
          by_cases hfits : fitsColumn vehicles.length = true
          · rw [commitSample_eq ht hdrawn.named hfits]
            cases hpositions : Tables.insertPositions t.positions
                (newPositions (idsFrom 1 vehicles.length) tracks) with
            | error e => exact ⟨_, _, _, .torn ht hsample (hnumbers.mpr hfits) hpositions, rfl⟩
            | ok positions => exact ⟨_, _, _, .stored ht hsample (hnumbers.mpr hfits) hpositions, rfl⟩
          · rw [commitSample_crowded ht hdrawn.named hfits]
            exact ⟨_, _, _, .crowded ht hsample fun h => hfits (hnumbers.mp h), rfl⟩

end

end FleetTracking.Seeding
