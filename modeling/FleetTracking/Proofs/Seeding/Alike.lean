import FleetTracking.Proofs.Seeding.Torn
import FleetTracking.Proofs.Store.Contents
import Mathlib.Data.List.DropRight

/-!
# The same fleet in either store

A memory and tables that are seeded from the same numbers, at the same time and with the same
counts, come to hold the same fleet (`seeds_alike`): its vehicles are numbered from one on, and the
first of them have a track each, whose positions are numbered in the same order (`IsSampleFleet`).

There are two limits to this. The last time of a track must lie in the calendar (`HasRoom`), or else
neither is seeded (`hasRoom_of_seedStore`). The numbers of the vehicles must fit their column
(`HasNumbers`), or else tables are not seeded, although a memory is (`limits_of_seedTables`,
`exists_seedStore`).
-/

namespace FleetTracking.Seeding

/-! ## Slices -/

/-- The first `k` items of a list. A negative number leaves out that many at the end. -/
def leading (k : Int) (l : List α) : List α := if k < 0 then l.rdrop k.natAbs else l.take k.toNat

theorem leading_eq_take (k : Int) (l : List α) :
    leading k l = l.take (positionedCount l.length k) := by
  unfold leading positionedCount
  by_cases hk : k < 0
  · rw [if_pos hk, if_pos hk, List.rdrop]
    congr 1
    omega
  · rw [if_neg hk, if_neg hk, Nat.min_comm, ← List.take_eq_take_min]

theorem take_idsFrom (n : Int) {j count : Nat} (h : j ≤ count) :
    (idsFrom n count).take j = idsFrom n j := by
  induction j generalizing n count with
  | zero => rw [List.take_zero, idsFrom]
  | succ j ih =>
    obtain ⟨count, rfl⟩ := Nat.exists_eq_add_of_le' (Nat.le_of_add_left_le h)
    rw [idsFrom, List.take_succ_cons, ih (n + 1) (Nat.le_of_succ_le_succ h), idsFrom]

/-! ## The fleet of a sample -/

/-- The vehicle of a position, and its time in microseconds. -/
def visit (p : Position) : VehicleRef × Int := (p.vehicle, p.recordedAt.micros)

theorem map_visit (ps : List Position) :
    ps.map visit = (ps.map Position.key).map fun key => (key.1, (key.2.micros : Int)) := by
  rw [List.map_map]
  rfl

/-- The fleet that a sample leaves: vehicles and their positions, in the order of their numbers. -/
structure IsSampleFleet (now : Instant) (counts : SeedCounts) (vehicles : List Vehicle)
    (positions : List Position) : Prop where
  numbers : vehicles.map Vehicle.id = idsFrom 1 counts.vehicles.toNat
  names : (vehicles.map Vehicle.name).Nodup
  active : ∀ v ∈ vehicles, v.isActive = true
  tracks : positions.map visit = (leading counts.positioned vehicles).flatMap fun v =>
    (schedule (now.micros - trackAge) counts.perVehicle.toNat).map fun t => (some v.id, t)
  positionNumbers : positions.map Position.id = (idsFrom 1 positions.length).map some

theorem map_name_vehiclesFrom (n : Int) (vs : List SampleVehicle) :
    (vehiclesFrom n vs).map Vehicle.name = vs.map SampleVehicle.name := by
  induction vs generalizing n with
  | nil => rfl
  | cons v rest ih => rw [vehiclesFrom_cons, List.map_cons, ih, List.map_cons]

theorem isActive_of_mem_vehiclesFrom {n : Int} {vs : List SampleVehicle} {v : Vehicle}
    (h : v ∈ vehiclesFrom n vs) : v.isActive = true := by
  induction vs generalizing n with
  | nil => nomatch h
  | cons first rest ih =>
    rw [vehiclesFrom_cons] at h
    rcases List.mem_cons.mp h with rfl | h
    · rfl
    · exact ih h

theorem map_id_numbered (n : Int) (ps : List Position) :
    (Memory.numbered n ps).map Position.id = (idsFrom n ps.length).map some := by
  induction ps generalizing n with
  | nil => rfl
  | cons p rest ih =>
    rw [Memory.numbered, List.map_cons, ih, List.length_cons, idsFrom, List.map_cons]
    rfl

variable {now : Instant} {counts : SeedCounts} {vehicles : List SampleVehicle}
  {tracks : List (List SamplePosition)} {ps : List Position}

/-- The first vehicles of a sample are each at the times of a track, one after another. -/
theorem map_keysOf_sample (hsample : IsSample now counts vehicles tracks) :
    (keysOf (idsFrom 1 vehicles.length) tracks).map (fun key => (key.1, (key.2.micros : Int))) =
      (idsFrom 1 (positionedCount counts.vehicles.toNat counts.positioned)).flatMap fun id =>
        (schedule (now.micros - trackAge) counts.perVehicle.toNat).map fun t => (some id, t) := by
  have hcount : tracks.length ≤ vehicles.length := by
    rw [hsample.positioned, hsample.length]
    exact positionedCount_le _ _
  rw [map_keysOf hsample.times hcount, hsample.positioned]

theorem isSampleFleet (hsample : IsSample now counts vehicles tracks)
    (h : reports (idsFrom 1 vehicles.length) tracks = .ok ps) :
    IsSampleFleet now counts (vehiclesFrom 1 vehicles) (Memory.numbered 1 ps) where
  numbers := by rw [map_id_vehiclesFrom, hsample.length]
  names := by
    rw [map_name_vehiclesFrom]
    exact hsample.named.nodup
  active _ := isActive_of_mem_vehiclesFrom
  tracks := by
    have hids : (leading counts.positioned (vehiclesFrom 1 vehicles)).map Vehicle.id =
        idsFrom 1 (positionedCount counts.vehicles.toNat counts.positioned) := by
      rw [leading_eq_take, List.map_take, map_id_vehiclesFrom, length_vehiclesFrom, hsample.length,
        take_idsFrom _ (positionedCount_le _ _)]
    rw [Memory.map_numbered (fun _ _ => rfl), map_visit, (reports_ok h).2,
      map_keysOf_sample hsample, ← hids, List.flatMap_map]
  positionNumbers := by rw [map_id_numbered, Memory.length_numbered]

/-! ## Numbers that fit -/

theorem fits_of_hasNumbers (hnumbers : HasNumbers counts)
    (hsample : IsSample now counts vehicles tracks)
    (h : reports (idsFrom 1 vehicles.length) tracks = .ok ps) : ∀ p ∈ ps, p.Fits := by
  intro p hp
  obtain ⟨part, hpart, hreport⟩ := exists_of_mem_mapM h hp
  obtain ⟨_, rfl⟩ := Position.report_eq_ok.mp hreport
  refine ⟨part.1, rfl, ?_⟩
  have hid := mem_idsFrom.mp (mem_of_mem_placed hpart).1
  rw [hsample.length] at hid
  simp only [HasNumbers, fitsColumn, Bool.and_eq_true, decide_eq_true_eq] at hnumbers ⊢
  omega

/-! ## Seeding storage that is empty -/

/-- Positions at moderate places are the same once they have been stored. -/
theorem map_stored_reports {ids : List Int} (h : reports ids tracks = .ok ps)
    (hplaces : ∀ track ∈ tracks, ∀ p ∈ track, p.place.IsModerate) :
    ps.map Position.stored = ps := by
  refine (List.map_congr_left fun q hq => ?_).trans (List.map_id ps)
  obtain ⟨⟨id, p⟩, hpart, hq⟩ := exists_of_mem_mapM h hq
  obtain ⟨_, track, htrack, hp⟩ := mem_of_mem_placed hpart
  obtain ⟨hplace, rfl⟩ := Position.report_eq_ok.mp hq
  have hstored : p.place.stored = p.place := (hplaces track htrack p hp).stored_eq
  simp only [Position.stored, Coordinates.stored, hstored, id_eq]

/-- Nothing that is offered repeats a key where none is taken. -/
theorem firstRepeated_reports {ids : List Int} (h : reports ids tracks = .ok ps)
    (hkeys : (keysOf ids tracks).Nodup) : Memory.firstRepeated [] ps = none :=
  Memory.firstRepeated_eq_none_iff.mpr ⟨fun _ _ => List.not_mem_nil, (reports_ok h).2 ▸ hkeys⟩

/-- Positions that fit go into a table without rows. -/
theorem insertPositions_of_fits {ids : List Int} (h : reports ids tracks = .ok ps)
    (hkeys : (keysOf ids tracks).Nodup) (hfits : ∀ p ∈ ps, p.Fits) :
    Tables.insertPositions (some []) (newPositions ids tracks) =
      .ok (some (PositionRow.numbered 1 ps)) := by
  have hinsert := Connection.insert_positions .empty rfl hfits
  rw [(reports_ok h).1, show Tables.empty = ⟨some [], some []⟩ from rfl, insert_positions,
    List.map_nil, firstRepeated_reports h hkeys] at hinsert
  obtain ⟨table, htable, hsame⟩ := map_eq_ok.mp hinsert
  cases hsame
  exact htable

/-- Tables are seeded whenever their columns can take the numbers of the vehicles. -/
theorem seedTables_of_hasNumbers {ρ : Type} [RandomSource ρ] {rng rng' : ρ}
    (hnumbers : HasNumbers counts) (hdrawn : sample rng now counts = (.ok (vehicles, tracks), rng'))
    (h : reports (idsFrom 1 vehicles.length) tracks = .ok ps) :
    seedTables .empty rng now counts = (.ok vehicles.length,
      ⟨⟨some (rowsFrom 1 vehicles), some (PositionRow.numbered 1 ps)⟩, .empty⟩, rng') := by
  have hsample := isSample_of_sample hdrawn
  have hinsert := insertPositions_of_fits h (nodup_keysOf_sample hsample 1)
    (fits_of_hasNumbers hnumbers hsample h)
  unfold seedTables
  rw [show Connection.empty = ⟨.empty, .empty⟩ from rfl, Connection.ask_empty,
    show Tables.rows Tables.empty.vehicles = .ok [] from rfl, hdrawn]
  dsimp only
  rw [commitSample_eq rfl hsample.named (hsample.length ▸ hnumbers),
    show Tables.empty.positions = some [] from rfl, hinsert]

/-! ## Limits -/

theorem Ends.exists_sample {ρ σ : Type} [RandomSource ρ] {rng : ρ} {first : Int}
    {refused : Int × SamplePosition → Prop} {s : σ} {half : List SampleVehicle → σ}
    {run : Except Failure Nat × σ × ρ} (h : Ends rng now counts first refused s half run)
    (hok : run.1.isOk = true) :
    ∃ vehicles tracks, IsSample now counts vehicles tracks ∧
      ∀ part ∈ placed (idsFrom first vehicles.length) tracks, ¬refused part := by
  cases h with
  | undrawn => nomatch hok
  | torn => nomatch hok
  | stored hsample haccepted => exact ⟨_, _, isSample_of_sample hsample, haccepted⟩

/-- A memory is seeded only if there is room in the calendar. -/
theorem hasRoom_of_seedStore {ρ : Type} [RandomSource ρ] {rng : ρ}
    (h : (seedStore Memory.empty rng now counts).1.isOk = true) : HasRoom now counts := by
  obtain ⟨_, _, hsample, _⟩ := (ends_memory ⟨rfl, rfl⟩ rfl).exists_sample h
  exact hasRoom_of_isSample hsample

/-- Tables are seeded only if there is room in the calendar and the numbers fit. -/
theorem limits_of_seedTables {ρ : Type} [RandomSource ρ] {rng : ρ}
    (h : (seedTables .empty rng now counts).1.isOk = true) :
    HasRoom now counts ∧ HasNumbers counts := by
  obtain ⟨result, c, rng', hseeds, heq⟩ := exists_seedsTables Tables.empty rng now counts
  rw [show Connection.empty = ⟨.empty, .empty⟩ from rfl, heq] at h
  cases hseeds with
  | stored _ hsample hnumbers => exact ⟨hasRoom_of_isSample (isSample_of_sample hsample), hnumbers⟩
  | inhabited hrows => nomatch hrows
  | _ => nomatch h

/-! ## Seeding again -/

theorem seedStore_of_ne_nil {ρ : Type} [RandomSource ρ] {m : Memory} (h : m.vehicles ≠ []) (rng : ρ)
    (now : Instant) (counts : SeedCounts) : seedStore m rng now counts = (.ok 0, m, rng) := by
  have hvehicles : m.vehiclesByName ≠ [] := by
    rw [← List.length_pos_iff, Memory.vehiclesByName, List.length_mergeSort]
    exact List.length_pos_iff.mpr h
  obtain ⟨v, rest, hcons⟩ := List.exists_cons_of_ne_nil hvehicles
  unfold seedStore
  rw [show FleetStore.vehicles m = .ok (v :: rest) from congrArg Except.ok hcons]

theorem seedTables_of_ne_nil {ρ : Type} [RandomSource ρ] {c : Connection} {rows : List VehicleRow}
    (hc : c.IsIdle) (hrows : c.tables.vehicles = some rows) (h : rows ≠ []) (rng : ρ)
    (now : Instant) (counts : SeedCounts) : seedTables c rng now counts = (.ok 0, c, rng) := by
  obtain ⟨r, rest, rfl⟩ := List.exists_cons_of_ne_nil h
  unfold seedTables
  rw [Connection.ask_of_isIdle hc, hrows]
  rfl

/-! ## The same fleet -/

/-- A memory and tables hold the same vehicles and the same positions, and nothing is staged. -/
structure HoldSameFleet (m : Memory) (c : Connection) : Prop where
  vehicles : ∃ rows, c.tables.vehicles = some rows ∧ rows.map VehicleRow.toVehicle = m.vehicles
  positions : c.tables.storedPositions = .ok m.positions
  isIdle : m.IsIdle ∧ c.IsIdle

section Draws

variable {d : Draws} (hd : d.AreUnit) (hyear : 364 * dayLength ≤ now.micros)
  (hroom : HasRoom now counts)

include hd hyear hroom

/-- A memory is seeded whenever there is room in the calendar. -/
theorem exists_seedStore :
    ∃ vehicles tracks ps d', sample d now counts = (.ok (vehicles, tracks), d') ∧
      reports (idsFrom 1 vehicles.length) tracks = .ok ps ∧ ps.map Position.stored = ps ∧
      seedStore Memory.empty d now counts =
        (.ok vehicles.length, (withSample .empty vehicles).extend ps, d') := by
  obtain ⟨vehicles, tracks, d', hdrawn, _, hplaces⟩ := exists_sample hd hyear hroom
  have hsample := isSample_of_sample hdrawn
  obtain ⟨ps, hps⟩ : ∃ ps, reports (idsFrom 1 vehicles.length) tracks = .ok ps := by
    refine exists_reports_iff.mpr fun part hpart => ?_
    obtain ⟨_, track, htrack, hp⟩ := mem_of_mem_placed hpart
    exact (hplaces track htrack part.2 hp).isOnEarth
  have hfree := firstRepeated_reports hps (nodup_keysOf_sample hsample 1)
  have hstore : Service.store (withSample .empty vehicles) ps =
      (.ok (Memory.numbered 1 ps), (withSample .empty vehicles).extend ps) := by
    rw [Memory.store_eq rfl, show (withSample .empty vehicles).keys = [] from rfl, hfree]
    rfl
  refine ⟨vehicles, tracks, ps, d', hdrawn, hps, map_stored_reports hps hplaces, ?_⟩
  have hnone : FleetStore.vehicles Memory.empty = .ok [] :=
    congrArg Except.ok (List.mergeSort_nil ..)
  unfold seedStore
  rw [hnone, hdrawn]
  dsimp only
  rw [storeSample_eq (enroll_memory ⟨rfl, rfl⟩ rfl hsample.named), map_id_vehiclesFrom]
  rw [show Memory.empty.nextVehicle = 1 from rfl, hps]
  dsimp only
  rw [hstore, length_vehiclesFrom]
  rfl

/-- Seeding from the same numbers leaves the same fleet in a memory and in tables, if there is room
for it in the calendar and its numbers fit. Seeding either of them again does nothing then, if there
are vehicles. -/
theorem seeds_alike (hnumbers : HasNumbers counts) :
    ∃ m c d', seedStore Memory.empty d now counts = (.ok counts.vehicles.toNat, m, d') ∧
      seedTables Connection.empty d now counts = (.ok counts.vehicles.toNat, c, d') ∧
      HoldSameFleet m c ∧ IsSampleFleet now counts m.vehicles m.positions ∧
      (0 < counts.vehicles → ∀ {ρ : Type} [RandomSource ρ] (rng : ρ) now counts,
        seedStore m rng now counts = (.ok 0, m, rng) ∧
        seedTables c rng now counts = (.ok 0, c, rng)) := by
  obtain ⟨vehicles, tracks, ps, d', hdrawn, hps, hstored, hstore⟩ := exists_seedStore hd hyear hroom
  have hsample := isSample_of_sample hdrawn
  have htables := seedTables_of_hasNumbers hnumbers hdrawn hps
  have hfleet := isSampleFleet hsample hps
  have hfits := fits_of_hasNumbers hnumbers hsample hps
  have hpositions := PositionRow.mapM_toPosition_numbered hfits 1
  rw [hstored] at hpositions
  rw [hsample.length] at hstore htables
  refine ⟨_, _, d', hstore, htables, ⟨⟨_, rfl, rfl⟩, hpositions, ⟨rfl, rfl⟩, rfl⟩, hfleet, ?_⟩
  intro hcount ρ _ rng now counts'
  have hne : rowsFrom 1 vehicles ≠ [] := by
    rw [← List.length_pos_iff, length_rowsFrom, hsample.length]
    omega
  exact ⟨seedStore_of_ne_nil (fun h => hne (List.map_eq_nil_iff.mp h)) rng now counts',
    seedTables_of_ne_nil (.empty _) rfl hne rng now counts'⟩

end Draws

theorem areUnit_half : (Draws.ofList []).AreUnit := fun _ hx =>
  List.mem_singleton.mp hx ▸ ⟨by decide, by decide⟩

/-- Three vehicles, of which all but the last one have a track of two positions. -/
theorem seeds_alike_but_last :
    let now : Instant := ⟨738000 * dayMicros, by decide⟩
    let counts : SeedCounts := ⟨3, -1, 2⟩
    ∃ m c d', seedStore Memory.empty (Draws.ofList []) now counts = (.ok 3, m, d') ∧
      seedTables Connection.empty (Draws.ofList []) now counts = (.ok 3, c, d') ∧
      HoldSameFleet m c ∧ IsSampleFleet now counts m.vehicles m.positions ∧
      m.vehicles.map Vehicle.id = [1, 2, 3] ∧
      seedTables c (mkStdGen 0) now ⟨100, 100, 100⟩ = (.ok 0, c, mkStdGen 0) := by
  intro now counts
  have hroom : HasRoom now counts := fun _ _ => by decide
  have hnumbers : HasNumbers counts := by decide
  obtain ⟨m, c, d', hstore, htables, hsame, hfleet, hagain⟩ :=
    seeds_alike areUnit_half (by decide) hroom hnumbers
  exact ⟨m, c, d', hstore, htables, hsame, hfleet, hfleet.numbers,
    (hagain (by decide) (mkStdGen 0) now ⟨100, 100, 100⟩).2⟩

/-- The clock is two years from either end of the calendar. A track that is longer than that is
not laid down in either store, and tables have no numbers for so many vehicles. -/
theorem seeds_apart :
    let now : Instant := ⟨calendarMicros - 731 * dayMicros, by decide⟩
    let endless : SeedCounts := ⟨1, 1, 211000⟩
    let countless : SeedCounts := ⟨0x8000000000000000, 0x8000000000000000, 1⟩
    (730 * dayMicros ≤ now.micros ∧ now.micros + 731 * dayMicros ≤ calendarMicros) ∧
      (Draws.ofList []).AreUnit ∧
      (seedStore Memory.empty (Draws.ofList []) now endless).1.isOk = false ∧
      (seedTables .empty (Draws.ofList []) now endless).1.isOk = false ∧
      (seedStore Memory.empty (Draws.ofList []) now countless).1.isOk = true ∧
      (seedTables .empty (Draws.ofList []) now countless).1.isOk = false := by
  intro now endless countless
  have hendless : ¬HasRoom now endless := fun h => absurd (h (by decide) (by decide)) (by decide)
  have hcountless : ¬HasNumbers countless := by decide
  have hroom : HasRoom now countless := fun _ _ => by decide
  refine ⟨by decide, areUnit_half, ?_, ?_, ?_, ?_⟩
  · exact Bool.eq_false_of_not_eq_true fun h => hendless (hasRoom_of_seedStore h)
  · exact Bool.eq_false_of_not_eq_true fun h => hendless (limits_of_seedTables h).1
  · obtain ⟨_, _, _, _, _, _, _, hstore⟩ := exists_seedStore areUnit_half (by decide) hroom
    rw [hstore]
    rfl
  · exact Bool.eq_false_of_not_eq_true fun h => hcountless (limits_of_seedTables h).2

end FleetTracking.Seeding
