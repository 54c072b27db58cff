import FleetTracking.Proofs.Seeding.Stores
import FleetTracking.Proofs.Startup

/-!
# Seeding that fails half-way

The vehicles of a sample are stored before its positions are. So seeding stores everything or
nothing, except where a sample is drawn, its vehicles go in and one of its positions is refused
(`Tears`, `TearsTables`): then the vehicles stay behind without any position
(`seeding_atomicUnless`). The next start takes them for a fleet that was seeded, and reports that all
went well.

What refuses a position differs: a table does so for a key that is taken, for numbers that do not
fit, and if it is missing, and a store for a place that is not on Earth as well (`RefusedBy`).

What counts is what is stored. The session of a seeding that failed may have to be rolled back before
the tables can be looked at, so a run is told by what it leaves in them (`onTables`).
-/

namespace FleetTracking.Seeding

/-! ## Positions that are refused -/

/-- What identifies a position of a sample. -/
def keyOf (part : Int × SamplePosition) : VehicleRef × Instant := (some part.1, part.2.recordedAt)

/-- The row of a position of a sample. -/
def newPosition (part : Int × SamplePosition) : NewPosition :=
  ⟨some part.1, part.2.place, part.2.recordedAt.civil⟩

/-- A position of a sample is refused by a table. One that is missing refuses each. -/
def RefusedBy (table : Option (List PositionRow)) (part : Int × SamplePosition) : Prop :=
  ∀ rows, table = some rows → fitsColumn part.1 = false ∨
    (part.2.place.latitude.isNaN || part.2.place.longitude.isNaN) = true ∨
      keyOf part ∈ rows.map PositionRow.key

theorem refusedBy_some {rows : List PositionRow} {part : Int × SamplePosition} :
    RefusedBy (some rows) part ↔ fitsColumn part.1 = false ∨
      (part.2.place.latitude.isNaN || part.2.place.longitude.isNaN) = true ∨
        keyOf part ∈ rows.map PositionRow.key :=
  ⟨fun h => h rows rfl, fun h _ hrows => Option.some.inj hrows ▸ h⟩

theorem insertPosition_cases (rows : List PositionRow) (part : Int × SamplePosition) :
    RefusedBy (some rows) part ∧ (∃ e, Tables.insertPosition rows (newPosition part) = .error e) ∨
      ¬RefusedBy (some rows) part ∧ ∃ r : PositionRow, r.key = keyOf part ∧
        Tables.insertPosition rows (newPosition part) = .ok (rows ++ [r]) := by
  rw [refusedBy_some]
  unfold Tables.insertPosition newPosition
  dsimp only
  rw [Tables.any_eq_contains_key]
  by_cases hfits : fitsColumn part.1 = true
  · by_cases htaken : (part.2.place.latitude.isNaN || part.2.place.longitude.isNaN ||
        (rows.map PositionRow.key).contains (keyOf part)) = true
    · refine .inl ⟨.inr ?_, .constraintViolated, ?_⟩
      · simpa [or_assoc] using htaken
      · rw [hfits]
        exact if_pos htaken
    · refine .inr ⟨?_, ?_⟩
      · simpa [hfits, or_assoc] using htaken
      · rw [hfits]
        refine ⟨_, ?_, if_neg htaken⟩
        exact Prod.ext rfl part.2.recordedAt.instant_civil
  · rw [Bool.not_eq_true] at hfits
    rw [hfits]
    exact .inl ⟨.inl rfl, .outOfRange, rfl⟩

/-- Positions with different keys go in together just if none of them is refused. -/
theorem exists_foldlM_insertPosition_iff {parts : List (Int × SamplePosition)}
    (hkeys : (parts.map keyOf).Nodup) {rows : List PositionRow} :
    (∃ rows', (parts.map newPosition).foldlM Tables.insertPosition rows = .ok rows') ↔
      ∀ part ∈ parts, ¬RefusedBy (some rows) part := by
  induction parts generalizing rows with
  | nil => exact ⟨fun _ _ hpart => (nomatch hpart), fun _ => ⟨rows, rfl⟩⟩
  | cons part rest ih =>
    rw [List.map_cons, List.nodup_cons] at hkeys
    rw [List.map_cons, List.foldlM_cons, List.forall_mem_cons]
    obtain ⟨hrefused, e, hinsert⟩ | ⟨haccepted, r, hkey, hinsert⟩ := insertPosition_cases rows part
    · rw [hinsert]
      exact ⟨fun ⟨_, h⟩ => (nomatch h), fun h => absurd hrefused h.1⟩
    · -- the row that went in has a key that none of the others has
      have hsame : ∀ other ∈ rest,
          (RefusedBy (some (rows ++ [r])) other ↔ RefusedBy (some rows) other) := by
        intro other hother
        have hne : keyOf other ≠ r.key := fun h =>
          hkeys.1 (List.mem_map.mpr ⟨other, hother, h.trans hkey⟩)
        rw [refusedBy_some, refusedBy_some, List.map_append, List.mem_append, List.map_singleton,
          List.mem_singleton, or_iff_left hne]
      rw [hinsert]
      refine (ih hkeys.2).trans ?_
      rw [and_iff_right haccepted]
      exact forall₂_congr fun other hother => not_congr (hsame other hother)

theorem exists_insertPositions_iff {ids : List Int} {tracks : List (List SamplePosition)}
    (hkeys : (keysOf ids tracks).Nodup) {table : Option (List PositionRow)} :
    (∃ table', Tables.insertPositions table (newPositions ids tracks) = .ok table') ↔
      ∀ part ∈ placed ids tracks, ¬RefusedBy table part := by
  change ((placed ids tracks).map keyOf).Nodup at hkeys
  change (∃ table',
    Tables.insertPositions table ((placed ids tracks).map newPosition) = .ok table') ↔ _
  generalize placed ids tracks = parts at hkeys ⊢
  cases parts with
  | nil => exact ⟨fun _ _ hpart => (nomatch hpart), fun _ => ⟨table, rfl⟩⟩
  | cons part rest =>
    cases table with
    | none =>
      refine ⟨fun ⟨_, h⟩ => (nomatch h), fun h => ?_⟩
      exact absurd (fun _ hrows => nomatch hrows) (h part List.mem_cons_self)
    | some rows =>
      rw [← exists_foldlM_insertPosition_iff hkeys]
      constructor
      · rintro ⟨table', h⟩
        obtain ⟨_, hrows, hfold⟩ := bind_eq_ok.mp h
        cases hrows
        obtain ⟨rows', hrows', _⟩ := bind_eq_ok.mp hfold
        exact ⟨rows', hrows'⟩
      · rintro ⟨rows', h⟩
        exact ⟨some rows', bind_eq_ok.mpr ⟨rows, rfl, bind_eq_ok.mpr ⟨rows', h, rfl⟩⟩⟩

/-- If positions do not go in, then one of them is refused. -/
theorem exists_refusedBy {ids : List Int} {tracks : List (List SamplePosition)}
    (hkeys : (keysOf ids tracks).Nodup) {table : Option (List PositionRow)} {e : Failure}
    (h : Tables.insertPositions table (newPositions ids tracks) = .error e) :
    ∃ part ∈ placed ids tracks, RefusedBy table part := by
  by_contra hnone
  push Not at hnone
  obtain ⟨table', haccepted⟩ := (exists_insertPositions_iff hkeys).mpr hnone
  nomatch h.symm.trans haccepted

/-- If positions cannot be offered, then one of them has a place that is not on Earth. -/
theorem exists_offEarth {ids : List Int} {tracks : List (List SamplePosition)} {e : Failure}
    (h : reports ids tracks = .error e) :
    ∃ part ∈ placed ids tracks, part.2.place.isOnEarth = false := by
  by_contra hnone
  push Not at hnone
  obtain ⟨ps, hps⟩ := exists_reports_iff.mpr fun part hpart =>
    (Bool.not_eq_false _).mp (hnone part hpart)
  nomatch h.symm.trans hps

/-! ## How seeding ends -/

section Ends

variable {ρ σ : Type} [RandomSource ρ]

/-- A sample is drawn, and one of its positions is refused. Its vehicles are numbered from `first`
on. -/
def Tears (rng : ρ) (now : Instant) (counts : SeedCounts) (first : Int)
    (refused : Int × SamplePosition → Prop) : Prop :=
  ∃ vehicles tracks rng', sample rng now counts = (.ok (vehicles, tracks), rng') ∧
    ∃ part ∈ placed (idsFrom first vehicles.length) tracks, refused part

/-- How seeding can end where there are no vehicles: no sample is drawn, or `half` of it is left
behind, or all of it is stored. -/
inductive Ends (rng : ρ) (now : Instant) (counts : SeedCounts) (first : Int)
    (refused : Int × SamplePosition → Prop) (s : σ) (half : List SampleVehicle → σ) :
    Except Failure Nat × σ × ρ → Prop
  | undrawn {e rng'} (hsample : sample rng now counts = (.error e, rng')) :
    Ends rng now counts first refused s half (.error e, s, rng')
  | torn {vehicles tracks e rng' part}
    (hsample : sample rng now counts = (.ok (vehicles, tracks), rng'))
    (hpart : part ∈ placed (idsFrom first vehicles.length) tracks) (hrefused : refused part) :
    Ends rng now counts first refused s half (.error e, half vehicles, rng')
  | stored {vehicles tracks s' rng'}
    (hsample : sample rng now counts = (.ok (vehicles, tracks), rng'))
    (haccepted : ∀ part ∈ placed (idsFrom first vehicles.length) tracks, ¬refused part) :
    Ends rng now counts first refused s half (.ok vehicles.length, s', rng')

/-- A run of seeding that fails leaves the store as it was. -/
def AllOrNothing (s : σ) (run : Except Failure Nat × σ × ρ) : Prop :=
  run.1.isOk = false → run.2.1 = s

variable {rng rng' : ρ} {now : Instant} {counts : SeedCounts} {first : Int}
  {refused : Int × SamplePosition → Prop} {s : σ} {half : List SampleVehicle → σ}
  {run : Except Failure Nat × σ × ρ}

theorem ne_nil_of_mem_placed {vehicles : List SampleVehicle} {tracks : List (List SamplePosition)}
    {part : Int × SamplePosition} (h : part ∈ placed (idsFrom first vehicles.length) tracks) :
    vehicles ≠ [] := by
  rintro rfl
  nomatch h

/-- Seeding stores everything or nothing, unless it tears: then it fails, and the vehicles of the
sample stay behind. -/
structure AtomicUnless (tears : Prop) (s : σ) (half : List SampleVehicle → σ)
    (run : Except Failure Nat × σ × ρ) : Prop where
  allOrNothing_iff : AllOrNothing s run ↔ ¬tears
  torn : tears → run.1.isOk = false ∧ ∃ vehicles, vehicles ≠ [] ∧ run.2.1 = half vehicles

theorem Ends.atomicUnless (h : Ends rng now counts first refused s half run)
    (hhalf : ∀ vehicles, vehicles ≠ [] → half vehicles ≠ s) :
    AtomicUnless (Tears rng now counts first refused) s half run := by
  have htorn : Tears rng now counts first refused →
      run.1.isOk = false ∧ ∃ vehicles, vehicles ≠ [] ∧ run.2.1 = half vehicles := by
    rintro ⟨vehicles, tracks, rng', hdrawn, part, hpart, hrefused⟩
    cases h with
    | undrawn hsample => nomatch hdrawn.symm.trans hsample
    | torn hsample =>
      cases hdrawn.symm.trans hsample
      exact ⟨rfl, vehicles, ne_nil_of_mem_placed hpart, rfl⟩
    | stored hsample haccepted =>
      cases hdrawn.symm.trans hsample
      exact absurd hrefused (haccepted part hpart)
  refine ⟨⟨fun hnothing htears => ?_, fun htears hfails => ?_⟩, htorn⟩
  · obtain ⟨hfails, vehicles, hvehicles, hleft⟩ := htorn htears
    exact hhalf vehicles hvehicles (hleft.symm.trans (hnothing hfails))
  · cases h with
    | undrawn hsample => rfl
    | torn hsample hpart hrefused => exact absurd ⟨_, _, _, hsample, _, hpart, hrefused⟩ htears
    | stored hsample => nomatch hfails

omit [RandomSource ρ] in
/-- A run that fails before anything is stored leaves the store as it was. -/
theorem atomicUnless_unchanged {tears : Prop} (htears : ¬tears) (e : Failure) :
    AtomicUnless tears s half (.error e, s, rng') :=
  ⟨iff_of_true (fun _ => rfl) htears, fun h => absurd h htears⟩

/-- A run as it is seen in the tables. -/
def onTables (run : Except Failure Nat × Connection × ρ) : Except Failure Nat × Tables × ρ :=
  (run.1, run.2.1.tables, run.2.2)

/-- Seeding ends in the tables as it ends at their connection. -/
theorem Ends.onTables {c : Connection} {half : List SampleVehicle → Connection}
    {run : Except Failure Nat × Connection × ρ} (h : Ends rng now counts first refused c half run) :
    Ends rng now counts first refused c.tables (fun vehicles => (half vehicles).tables)
      (onTables run) := by
  cases h with
  | undrawn hsample => exact .undrawn hsample
  | torn hsample hpart hrefused => exact .torn hsample hpart hrefused
  | stored hsample haccepted => exact .stored hsample haccepted

end Ends

section Stores

variable {ρ : Type} [RandomSource ρ] {rng : ρ} {now : Instant} {counts : SeedCounts}

/-- Tables that are left with the vehicles of a sample. -/
def halfOf (t : Tables) (vehicles : List SampleVehicle) : Tables :=
  ⟨some (rowsFrom 1 vehicles), t.positions⟩

theorem halfOf_ne {t : Tables} (ht : t.vehicles = some []) (vehicles : List SampleVehicle)
    (h : vehicles ≠ []) : halfOf t vehicles ≠ t := by
  intro hsame
  have hrows := congrArg Tables.vehicles hsame
  exact rowsFrom_ne_nil h (Option.some.inj (hrows.trans ht))

/-- Tables without vehicles take the vehicles of a sample, and one of its positions is refused. -/
def TearsTables (t : Tables) (rng : ρ) (now : Instant) (counts : SeedCounts)
    (refused : Int × SamplePosition → Prop) : Prop :=
  t.vehicles = some [] ∧ HasNumbers counts ∧ Tears rng now counts 1 refused

/-- Into tables. -/
theorem ends_seedTables {t : Tables} (ht : t.vehicles = some []) (hnumbers : HasNumbers counts) :
    Ends rng now counts 1 (RefusedBy t.positions) t (halfOf t)
      (onTables (seedTables ⟨t, .empty⟩ rng now counts)) := by
  obtain ⟨result, c, rng', hseeds, heq⟩ := exists_seedsTables t rng now counts
  rw [heq]
  cases hseeds with
  | missing h => nomatch ht.symm.trans h
  | inhabited h => nomatch ht.symm.trans h
  | undrawn _ hsample => exact .undrawn hsample
  | crowded _ _ hcrowded => exact absurd hnumbers hcrowded
  | @torn vehicles tracks _ _ _ hsample _ hrefused =>
    have hkeys := nodup_keysOf_sample (isSample_of_sample hsample) 1
    obtain ⟨part, hpart, hnot⟩ := exists_refusedBy hkeys hrefused
    exact .torn hsample hpart hnot
  | stored _ hsample _ hinserted =>
    have hkeys := nodup_keysOf_sample (isSample_of_sample hsample) 1
    exact .stored hsample ((exists_insertPositions_iff hkeys).mp ⟨_, hinserted⟩)

/-- Tables that are missing, or have not enough numbers, are not changed. -/
theorem seedTables_unchanged {t : Tables} (ht : t.vehicles.getD [] = [])
    (h : t.vehicles = none ∨ ¬HasNumbers counts) :
    ∃ e rng', onTables (seedTables ⟨t, .empty⟩ rng now counts) = (.error e, t, rng') := by
  obtain ⟨result, c, rng', hseeds, heq⟩ := exists_seedsTables t rng now counts
  rw [heq]
  cases hseeds with
  | inhabited hrows =>
    rw [hrows] at ht
    nomatch ht
  | torn hrows _ hnumbers => exact h.elim (fun h => nomatch hrows.symm.trans h) (absurd hnumbers)
  | stored hrows _ hnumbers => exact h.elim (fun h => nomatch hrows.symm.trans h) (absurd hnumbers)
  | _ => exact ⟨_, _, rfl⟩

/-- Through a store that stores positions or refuses one of them. -/
theorem ends_seedStore {σ : Type} [FleetStore σ] {s : σ} {half : List SampleVehicle → σ}
    {first : Int} {taken : Int × SamplePosition → Prop} (hnone : FleetStore.vehicles s = .ok [])
    (henroll : ∀ vehicles tracks, IsSample now counts vehicles tracks →
      enroll s (vehicles.map SampleVehicle.draft) =
        (.ok (vehiclesFrom first vehicles), half vehicles))
    (hstore : ∀ vehicles ids tracks ps, reports ids tracks = .ok ps → (keysOf ids tracks).Nodup →
      (∃ e, Service.store (half vehicles) ps = (.error e, half vehicles) ∧
        ∃ part ∈ placed ids tracks, taken part) ∨
      ∃ qs s', Service.store (half vehicles) ps = (.ok qs, s') ∧
        ∀ part ∈ placed ids tracks, ¬taken part) :
    Ends rng now counts first (fun part => part.2.place.isOnEarth = false ∨ taken part) s half
      (seedStore s rng now counts) := by
  unfold seedStore
  rw [hnone]
  dsimp only
  cases hsample : sample rng now counts with
  | mk drawn rng' =>
    cases drawn with
    | error e => exact .undrawn hsample
    | ok parts =>
      obtain ⟨vehicles, tracks⟩ := parts
      have hdrawn := isSample_of_sample hsample
      dsimp only
      rw [storeSample_eq (henroll vehicles tracks hdrawn), map_id_vehiclesFrom,
        length_vehiclesFrom]
      cases hreports : reports (idsFrom first vehicles.length) tracks with
      | error e =>
        obtain ⟨part, hpart, hplace⟩ := exists_offEarth hreports
        exact .torn hsample hpart (.inl hplace)
      | ok ps =>
        dsimp only
        obtain ⟨e, herror, part, hpart, htaken⟩ | ⟨qs, s', hok, hfree⟩ :=
          hstore vehicles _ tracks ps hreports (nodup_keysOf_sample hdrawn first)
        · rw [herror]
          exact .torn hsample hpart (.inr htaken)
        · rw [hok]
          refine .stored hsample fun part hpart => ?_
          rw [exists_reports_iff.mp ⟨ps, hreports⟩ part hpart]
          exact fun h => h.elim (fun h => nomatch h) (hfree part hpart)

/-- Into a memory. -/
theorem ends_memory {m : Memory} (hidle : m.IsIdle) (hm : m.vehicles = []) :
    Ends rng now counts m.nextVehicle
      (fun part => part.2.place.isOnEarth = false ∨ keyOf part ∈ m.keys) m (withSample m)
      (seedStore m rng now counts) := by
  refine ends_seedStore ?_ (fun vehicles _ h => enroll_memory hidle hm h.named) ?_
  · show Except.ok (m.vehicles.mergeSort _) = _
    rw [hm, List.mergeSort_nil]
  · intro vehicles ids tracks ps hreports hkeys
    obtain ⟨_, hsame⟩ := reports_ok hreports
    change _ = (placed ids tracks).map keyOf at hsame
    have hfree : (∀ part ∈ placed ids tracks, keyOf part ∉ m.keys) ↔
        Memory.firstRepeated (withSample m vehicles).keys ps = none := by
      have hnodup : (ps.map Position.key).Nodup := hsame ▸ hkeys
      have hforall := List.forall_mem_map (f := keyOf) (l := placed ids tracks) (P := (· ∉ m.keys))
      rw [Memory.firstRepeated_eq_none_iff, and_iff_left hnodup, ← hforall, ← hsame,
        List.forall_mem_map]
      rfl
    have hstore := Memory.store_eq (m := withSample m vehicles) hidle.2 ps
    cases hrepeated : Memory.firstRepeated (withSample m vehicles).keys ps with
    | none =>
      rw [hrepeated] at hstore
      exact .inr ⟨_, _, hstore, hfree.mpr hrepeated⟩
    | some p =>
      rw [hrepeated] at hstore
      refine .inl ⟨_, hstore, ?_⟩
      by_contra hnone
      push Not at hnone
      nomatch hrepeated.symm.trans (hfree.mp hnone)

/-- A connection that is asked for all vehicles of tables without any. -/
theorem vehicles_connection {t : Tables} (ht : t.vehicles = some []) :
    FleetStore.vehicles (⟨t, .empty⟩ : Connection) = .ok [] := by
  show Connection.ask ⟨t, .empty⟩ Tables.vehiclesByName = _
  rw [Connection.ask_empty]
  unfold Tables.vehiclesByName
  rw [ht]
  show Except.ok (List.map _ (List.mergeSort [] _)) = _
  rw [List.mergeSort_nil]
  rfl

/-- Into a connection. -/
theorem ends_connection {t : Tables} (ht : t.vehicles = some []) (hnumbers : HasNumbers counts) :
    Ends rng now counts 1
      (fun part => part.2.place.isOnEarth = false ∨ RefusedBy t.positions part) t
      (halfOf t) (onTables (seedStore (⟨t, .empty⟩ : Connection) rng now counts)) := by
  let half (vehicles : List SampleVehicle) : Connection := ⟨halfOf t vehicles, .empty⟩
  suffices h : Ends rng now counts 1
      (fun part => part.2.place.isOnEarth = false ∨ RefusedBy t.positions part)
      (⟨t, .empty⟩ : Connection) half (seedStore ⟨t, .empty⟩ rng now counts) from h.onTables
  refine ends_seedStore (vehicles_connection ht) (fun vehicles _ h => ?_) ?_
  · exact enroll_connection ht h.named (h.length ▸ hnumbers)
  · intro vehicles ids tracks ps hreports hkeys
    obtain ⟨hrows, _⟩ := reports_ok hreports
    have hinsert : (half vehicles).tables.insert [] (ps.map NewPosition.ofPosition) =
        (Tables.insertPositions t.positions (newPositions ids tracks)).map fun positions =>
          ⟨some (rowsFrom 1 vehicles), positions⟩ := by
      rw [hrows]
      exact insert_positions _ _ _
    cases hpositions : Tables.insertPositions t.positions (newPositions ids tracks) with
    | error e =>
      rw [hpositions] at hinsert
      exact .inl ⟨_, Connection.store_refused (c := half vehicles) rfl hinsert,
        exists_refusedBy hkeys hpositions⟩
    | ok table' =>
      rw [hpositions] at hinsert
      obtain ⟨qs, s', hstore⟩ := Connection.store_accepted (c := half vehicles) rfl hinsert
      exact .inr ⟨qs, s', hstore, (exists_insertPositions_iff hkeys).mp ⟨table', hpositions⟩⟩

/-- Tables that are missing, or have not enough numbers, are not changed. -/
theorem connection_unchanged {t : Tables} (ht : t.vehicles.getD [] = [])
    (h : t.vehicles = none ∨ ¬HasNumbers counts) :
    ∃ e rng', onTables (seedStore (⟨t, .empty⟩ : Connection) rng now counts) =
      (.error e, t, rng') := by
  cases hvehicles : t.vehicles with
  | none =>
    have hmissing : FleetStore.vehicles (⟨t, .empty⟩ : Connection) = .error .tableMissing := by
      show Connection.ask ⟨t, .empty⟩ Tables.vehiclesByName = _
      rw [Connection.ask_empty]
      unfold Tables.vehiclesByName
      rw [hvehicles]
      rfl
    unfold seedStore
    rw [hmissing]
    exact ⟨_, _, rfl⟩
  | some rows =>
    rw [hvehicles] at ht
    cases (show rows = [] from ht)
    have hnumbers : ¬HasNumbers counts := h.resolve_left (hvehicles ▸ nofun)
    unfold seedStore
    rw [vehicles_connection hvehicles]
    dsimp only
    cases hsample : sample rng now counts with
    | mk drawn rng' =>
      cases drawn with
      | error e => exact ⟨_, _, rfl⟩
      | ok parts =>
        obtain ⟨vehicles, tracks⟩ := parts
        have hdrawn := isSample_of_sample hsample
        have hcrowded := enroll_crowded hvehicles hdrawn.named (hdrawn.length ▸ hnumbers)
        dsimp only
        rw [storeSample_refused hcrowded]
        exact ⟨_, _, rfl⟩

/-- Where vehicles cannot go in, seeding changes nothing. Where they can, it ends as it can end
there. -/
theorem atomicUnless_tables {t : Tables} (ht : t.vehicles.getD [] = [])
    {refused : Int × SamplePosition → Prop} {run : Except Failure Nat × Tables × ρ}
    (hunchanged : t.vehicles = none ∨ ¬HasNumbers counts → ∃ e rng', run = (.error e, t, rng'))
    (hends : t.vehicles = some [] → HasNumbers counts →
      Ends rng now counts 1 refused t (halfOf t) run) :
    AtomicUnless (TearsTables t rng now counts refused) t (halfOf t) run := by
  by_cases h : t.vehicles = none ∨ ¬HasNumbers counts
  · obtain ⟨e, rng', rfl⟩ := hunchanged h
    refine atomicUnless_unchanged (fun htears => ?_) e
    exact h.elim (fun h => nomatch htears.1.symm.trans h) fun h => h htears.2.1
  · obtain ⟨hthere, hnumbers⟩ := not_or.mp h
    have hvehicles : t.vehicles = some [] := by
      obtain ⟨rows, hrows⟩ := Option.ne_none_iff_exists'.mp hthere
      rw [hrows] at ht
      rw [hrows, show rows = [] from ht]
    have hnumbers := not_not.mp hnumbers
    unfold TearsTables
    rw [and_iff_right hvehicles, and_iff_right hnumbers]
    exact (hends hvehicles hnumbers).atomicUnless (halfOf_ne hvehicles)

theorem withSample_ne {m : Memory} (hm : m.vehicles = []) (vehicles : List SampleVehicle)
    (h : vehicles ≠ []) : withSample m vehicles ≠ m := by
  intro hsame
  have hrows := (congrArg Memory.vehicles hsame).trans hm
  exact rowsFrom_ne_nil h (List.map_eq_nil_iff.mp hrows)

end Stores

/-! ## The next start -/

open Startup

variable {ρ ρ' : Type} [RandomSource ρ] [RandomSource ρ']

/-- Seeding stores everything or nothing, unless a sample is drawn and one of its positions is
refused. Then its vehicles stay behind, and every later start takes them for all there is. -/
theorem seeding_atomicUnless (rng : ρ) (now : Instant) (counts : SeedCounts) :
    (∀ t : Tables, t.vehicles.getD [] = [] →
      AtomicUnless (TearsTables t rng now counts (RefusedBy t.positions))
        t (halfOf t) (onTables (seedTables ⟨t, .empty⟩ rng now counts))) ∧
    (∀ t : Tables, t.vehicles.getD [] = [] →
      AtomicUnless (TearsTables t rng now counts
          fun part => part.2.place.isOnEarth = false ∨ RefusedBy t.positions part)
        t (halfOf t) (onTables (seedStore (⟨t, .empty⟩ : Connection) rng now counts))) ∧
    (∀ m : Memory, m.IsIdle → m.vehicles = [] →
      AtomicUnless (Tears rng now counts m.nextVehicle
          fun part => part.2.place.isOnEarth = false ∨ keyOf part ∈ m.keys)
        m (withSample m) (seedStore m rng now counts)) ∧
    ∀ t t' : Tables, ∀ ok rng', t.vehicles.getD [] = [] →
      prepare t rng now counts true = (ok, t', rng') →
        ((ok = false → t' = t.create) ↔
          ¬TearsTables t.create rng now counts (RefusedBy t.create.positions)) ∧
        (TearsTables t.create rng now counts (RefusedBy t.create.positions) →
          ok = false ∧ t'.vehicles.getD [] ≠ [] ∧ t'.positions = t.create.positions ∧
          ∀ (rng : ρ') now counts, prepare t' rng now counts true = (true, t', rng)) := by
  refine ⟨fun t ht => atomicUnless_tables ht (seedTables_unchanged ht) ends_seedTables,
    fun t ht => atomicUnless_tables ht (connection_unchanged ht) ends_connection,
    fun m hidle hm => (ends_memory hidle hm).atomicUnless (withSample_ne hm), ?_⟩
  intro t t' ok rng' hnone h
  have hcreate : t.create.vehicles.getD [] = [] := hnone
  have hatomic : AtomicUnless _ t.create (halfOf t.create)
      (onTables (seedTables ⟨t.create, .empty⟩ rng now counts)) :=
    atomicUnless_tables hcreate (seedTables_unchanged hcreate) ends_seedTables
  -- a start reports whether the run of seeding went well, and keeps what it left in the tables
  have hrun : onTables (seedTables ⟨t.create, .empty⟩ rng now counts) =
      ((seedTables ⟨t.create, .empty⟩ rng now counts).1, t', rng') ∧
        ok = (seedTables ⟨t.create, .empty⟩ rng now counts).1.isOk := by
    unfold prepare at h
    simp only [if_true] at h
    cases h
    exact ⟨rfl, rfl⟩
  obtain ⟨hrun, rfl⟩ := hrun
  rw [hrun] at hatomic
  refine ⟨hatomic.allOrNothing_iff, fun htears => ?_⟩
  obtain ⟨hfails, vehicles, hvehicles, hleft⟩ := hatomic.torn htears
  cases hleft
  obtain ⟨r, rest, hrows⟩ := List.exists_cons_of_ne_nil (rowsFrom_ne_nil (n := 1) hvehicles)
  refine ⟨hfails, rowsFrom_ne_nil hvehicles, rfl, fun rng now counts => ?_⟩
  exact prepare_of_isSettled (.inl ⟨r, rest, congrArg some hrows⟩) rfl
    (Nat.le_refl now.micros) rng

/-- Tables with a position of the first vehicle, at the time at which its track would begin. -/
def overlapping : Tables :=
  ⟨some [], some [⟨1, 1, ⟨37.98, 23.72⟩,
    Civil.ofMicros (738000 * dayMicros - 7200000000) (by decide)⟩]⟩

/-- There is a sample that tears on them, so their seeding fails and leaves a vehicle behind. -/
theorem seeding_atomicUnless_overlapping :
    let now : Instant := ⟨738000 * dayMicros, by decide⟩
    let counts : SeedCounts := ⟨1, 1, 2⟩
    TearsTables overlapping (Draws.ofList []) now counts (RefusedBy overlapping.positions) ∧
      ¬AllOrNothing overlapping
        (onTables (seedTables ⟨overlapping, .empty⟩ (Draws.ofList []) now counts)) := by
  intro now counts
  have hatomic :=
    (@seeding_atomicUnless Draws Draws _ _ (Draws.ofList []) now counts).1 overlapping rfl
  have htorn : ¬AllOrNothing overlapping
      (onTables (seedTables ⟨overlapping, .empty⟩ (Draws.ofList []) now counts)) := by
    intro hnothing
    have hsame := congrArg (fun t => (t.vehicles.getD []).length)
      (hnothing (by decide +kernel))
    exact absurd hsame (by decide +kernel)
  exact ⟨not_not.mp fun h => htorn (hatomic.allOrNothing_iff.mpr h), htorn⟩

/-- One start fails, the next one does not, and the vehicle never gets its track. -/
theorem prepare_tears :
    let now : Instant := ⟨738000 * dayMicros, by decide⟩
    let first := prepare overlapping (Draws.ofList []) now ⟨1, 1, 2⟩ true
    let second := prepare first.2.1 first.2.2 now ⟨1, 1, 2⟩ true
    first.1 = false ∧ (first.2.1.vehicles.getD []).length = 1 ∧
      (first.2.1.positions.getD []).length = 1 ∧ second.1 = true ∧
      (second.2.1.vehicles.getD []).length = 1 ∧ (second.2.1.positions.getD []).length = 1 := by
  decide +kernel

end FleetTracking.Seeding
