import FleetTracking.Proofs.Seeding.Tables

/-!
# What seeding does to a store

A sample that goes through a store is enrolled first: its vehicles get numbers, and nothing about
them can be refused (`enroll_memory`, `enroll_connection`), unless tables have not enough numbers
(`enroll_crowded`). Its positions are then offered under these numbers (`storeSample_eq`), each for
the vehicle in the place of its track (`reports_ok`).

The keys of what is offered are known beforehand: the numbers of the vehicles with tracks, each at
the times of the schedule (`map_keysOf`). So no two positions of a sample are in each other's way
(`nodup_keysOf`).
-/

namespace FleetTracking.Seeding

/-! ## Vehicles -/

/-- Staging sample vehicles and saving them is enrolling them. -/
theorem enroll_sample [FleetStore σ] (s : σ) (vs : List SampleVehicle) :
    enroll s (vs.map SampleVehicle.draft) =
      match stageVehicles s vs with
      | (.error e, s) => (.error e, s)
      | (.ok (), s) => FleetStore.saveVehicles s := by
  induction vs generalizing s with
  | nil => rfl
  | cons v rest ih =>
    rw [List.map_cons]
    unfold enroll stageVehicles
    cases hadd : FleetStore.addVehicle s (SampleVehicle.draft v) with
    | mk result s' =>
      cases result with
      | error e => rfl
      | ok _ => exact ih s'

theorem IsSampleName.isEnrollable {number : Nat} {v : SampleVehicle}
    (h : IsSampleName number v.name) : (SampleVehicle.draft v).IsEnrollable where
  isValid := congrArg (! ·) h.isAllBlank_eq
  isWritable := h.hasHalf_eq
  fits := rfl
  isUniversal := ⟨_, rfl, rfl⟩

theorem AreNamed.isEnrollable {number : Nat} {vs : List SampleVehicle} (h : AreNamed number vs) :
    ∀ d ∈ vs.map SampleVehicle.draft, d.IsEnrollable := by
  intro d hd
  obtain ⟨v, hv, rfl⟩ := List.mem_map.mp hd
  obtain ⟨n, hname⟩ := h.exists_number hv
  exact hname.isEnrollable

/-- The vehicles of a sample, under the numbers from `n` on. -/
def vehiclesFrom (n : Int) (vs : List SampleVehicle) : List Vehicle :=
  (rowsFrom n vs).map VehicleRow.toVehicle

theorem vehiclesFrom_cons (n : Int) (v : SampleVehicle) (rest : List SampleVehicle) :
    vehiclesFrom n (v :: rest) =
      ⟨n, v.name, true, some v.createdDate.timestamp⟩ :: vehiclesFrom (n + 1) rest := by
  show (⟨n, v.name, true, some v.createdDate.civil.instant.timestamp⟩ : Vehicle) :: _ = _
  rw [Instant.instant_civil]
  rfl

theorem length_vehiclesFrom (n : Int) (vs : List SampleVehicle) :
    (vehiclesFrom n vs).length = vs.length := by
  rw [vehiclesFrom, List.length_map, length_rowsFrom]

theorem map_id_vehiclesFrom (n : Int) (vs : List SampleVehicle) :
    (vehiclesFrom n vs).map Vehicle.id = idsFrom n vs.length := by
  rw [vehiclesFrom, List.map_map, ← map_id_rowsFrom]
  rfl

/-- Vehicles without identifiers are stored behind those with lesser ones. -/
theorem storeVehicles_sample {m : Memory} (hm : ∀ w ∈ m.vehicles, w.id < m.nextVehicle)
    (vs : List SampleVehicle) :
    m.storeVehicles ((vs.map SampleVehicle.draft).map VehicleDraft.staged) =
      (vehiclesFrom m.nextVehicle vs, { m with
        vehicles := m.vehicles ++ vehiclesFrom m.nextVehicle vs
        nextVehicle := m.nextVehicle + vs.length }) := by
  induction vs generalizing m with
  | nil =>
    show ([], m) = ([], { m with vehicles := m.vehicles ++ [], nextVehicle := m.nextVehicle + 0 })
    rw [List.append_nil, Int.add_zero]
  | cons v rest ih =>
    let data : VehicleData := ⟨v.name, true, some v.createdDate.timestamp⟩
    let w : Vehicle := data.withId m.nextVehicle
    let m' : Memory :=
      { m with vehicles := m.vehicles ++ [w], nextVehicle := m.nextVehicle + 1 }
    have hput : Memory.putVehicle w m.vehicles = m.vehicles ++ [w] :=
      Memory.putVehicle_new fun w' hw' => Int.ne_of_lt (hm w' hw')
    have hstore : m.storeVehicle none data = (w, m') := by
      show (w, { m with
        vehicles := Memory.putVehicle w m.vehicles
        nextVehicle := max m.nextVehicle m.nextVehicle + 1 }) = _
      rw [hput, Int.max_self]
    have hrest := ih (m := m') fun w' hw' => by
      show w'.id < m.nextVehicle + 1
      rcases List.mem_append.mp hw' with hw' | hw'
      · have := hm w' hw'
        omega
      · rw [List.mem_singleton.mp hw']
        exact Int.lt_succ _
    show ((m.storeVehicle none data).1 :: ((m.storeVehicle none data).2.storeVehicles _).1,
      ((m.storeVehicle none data).2.storeVehicles _).2) = _
    rw [hstore, hrest, vehiclesFrom_cons]
    show (w :: _, { m with
      vehicles := m.vehicles ++ [w] ++ vehiclesFrom (m.nextVehicle + 1) rest
      nextVehicle := m.nextVehicle + 1 + rest.length }) = _
    rw [List.append_assoc, List.singleton_append, List.length_cons, Nat.cast_succ, Int.add_assoc,
      Int.add_comm 1]
    rfl

/-- A memory without vehicles once a sample has been stored in it. -/
def withSample (m : Memory) (vs : List SampleVehicle) : Memory :=
  { m with
    vehicles := vehiclesFrom m.nextVehicle vs
    nextVehicle := m.nextVehicle + vs.length }

theorem enroll_memory {m : Memory} (hidle : m.IsIdle) (hm : m.vehicles = [])
    {vs : List SampleVehicle} (h : AreNamed 1 vs) :
    enroll m (vs.map SampleVehicle.draft) =
      (.ok (vehiclesFrom m.nextVehicle vs), withSample m vs) := by
  rw [Memory.enroll_eq m fun d hd => (h.isEnrollable d hd).isValid, hidle.1, List.nil_append]
  obtain ⟨vehicles, staged, next, positions, keys, stagedPositions, nextPosition⟩ := m
  change vehicles = [] at hm
  change staged = [] ∧ _ at hidle
  obtain ⟨rfl, _⟩ := hidle
  subst hm
  unfold Memory.saveVehicles
  rw [storeVehicles_sample fun w (hw : w ∈ []) => nomatch hw]
  rfl

section Tables

variable {t : Tables} (ht : t.vehicles = some []) {vs : List SampleVehicle} (h : AreNamed 1 vs)

include h

omit ht in
/-- Sample vehicles are enrolled in tables by one save of their rows. -/
theorem enroll_eq_saveVehicles :
    enroll (⟨t, .empty⟩ : Connection) (vs.map SampleVehicle.draft) =
      (Session.saveVehicles ⟨Session.staged (vs.map SampleVehicle.row), [], false⟩ t).map id
        fun after => (⟨after.2, after.1⟩ : Connection) := by
  have hrows : (vs.map SampleVehicle.draft).map VehicleDraft.newRow = vs.map SampleVehicle.row := by
    rw [List.map_map]
    rfl
  rw [Connection.enroll_eq _ h.isEnrollable, hrows]
  rfl

include ht

/-- Tables without vehicles once a sample has been stored in them. -/
theorem enroll_connection (hfits : fitsColumn vs.length = true) :
    enroll (⟨t, .empty⟩ : Connection) (vs.map SampleVehicle.draft) =
      (.ok (vehiclesFrom 1 vs), ⟨⟨some (rowsFrom 1 vs), t.positions⟩, .empty⟩) := by
  have hnodup : ((rowsFrom 1 vs).map VehicleRow.id).Nodup := by
    rw [map_id_rowsFrom]
    exact nodup_idsFrom 1 vs.length
  have hinserted : (vs.map SampleVehicle.row).foldlM Tables.insertVehicle [] =
      .ok (rowsFrom 1 vs) := by
    rw [foldlM_insertVehicle_nil h, if_pos hfits]
  rw [enroll_eq_saveVehicles h, Session.saveVehicles_empty ht hinserted
    (by rw [length_rowsFrom, List.length_map]) hnodup]
  rfl

/-- Tables take no sample that has more vehicles than there are numbers. -/
theorem enroll_crowded (hfits : ¬fitsColumn vs.length = true) :
    enroll (⟨t, .empty⟩ : Connection) (vs.map SampleVehicle.draft) =
      (.error .tableFull, ⟨t, .empty⟩) := by
  have hinsert := insert_vehicles ht h
  rw [if_neg hfits] at hinsert
  rw [enroll_eq_saveVehicles h, Session.saveVehicles_refused hinsert]
  rfl

end Tables

/-! ## Positions -/

/-- The positions of a sample that are offered to a store. -/
def reports (ids : List Int) (tracks : List (List SamplePosition)) :
    Except Failure (List Position) :=
  (placed ids tracks).mapM fun (id, p) =>
    Position.report (some id) p.place p.recordedAt.timestamp none

/-- What identifies the positions of a sample. -/
def keysOf (ids : List Int) (tracks : List (List SamplePosition)) : List (VehicleRef × Instant) :=
  (placed ids tracks).map fun (id, p) => (some id, p.recordedAt)

theorem placed_cons (id : Int) (ids : List Int) (track : List SamplePosition)
    (tracks : List (List SamplePosition)) :
    placed (id :: ids) (track :: tracks) = track.map (id, ·) ++ placed ids tracks := rfl

/-- What is offered to a store are the rows that would be inserted. -/
theorem reports_ok {ids : List Int} {tracks : List (List SamplePosition)} {ps : List Position}
    (h : reports ids tracks = .ok ps) :
    ps.map NewPosition.ofPosition = newPositions ids tracks ∧
      ps.map Position.key = keysOf ids tracks := by
  unfold reports at h
  unfold newPositions keysOf
  generalize placed ids tracks = parts at h ⊢
  induction parts generalizing ps with
  | nil =>
    cases h
    exact ⟨rfl, rfl⟩
  | cons part rest ih =>
    obtain ⟨id, p⟩ := part
    obtain ⟨q, others, hq, hothers, rfl⟩ := mapM_cons_eq_ok.mp h
    obtain ⟨hplace, rfl⟩ := Position.report_eq_ok.mp hq
    obtain ⟨hrows, hkeys⟩ := ih hothers
    exact ⟨congrArg (_ :: ·) hrows, congrArg (_ :: ·) hkeys⟩

/-- Positions can be offered just if their places are on Earth. -/
theorem exists_reports_iff {ids : List Int} {tracks : List (List SamplePosition)} :
    (∃ ps, reports ids tracks = .ok ps) ↔
      ∀ part ∈ placed ids tracks, part.2.place.isOnEarth = true := by
  constructor
  · rintro ⟨ps, hps⟩ part hpart
    obtain ⟨q, _, hq⟩ := exists_mem_of_mapM hps hpart
    exact (Position.report_eq_ok.mp hq).1
  · intro h
    exact exists_mapM fun part hpart => ⟨_, Position.report_eq_ok.mpr ⟨h part hpart, rfl⟩⟩

theorem mem_of_mem_placed {ids : List Int} {tracks : List (List SamplePosition)}
    {part : Int × SamplePosition} (h : part ∈ placed ids tracks) :
    part.1 ∈ ids ∧ ∃ track ∈ tracks, part.2 ∈ track := by
  obtain ⟨⟨id, track⟩, hzip, hmem⟩ := List.mem_flatMap.mp h
  obtain ⟨p, hp, rfl⟩ := List.mem_map.mp hmem
  obtain ⟨hid, htrack⟩ := List.of_mem_zip hzip
  exact ⟨hid, track, htrack, hp⟩

/-- The vehicles of a sample, one after another, are each at the times of their tracks. -/
theorem map_keysOf {ts : List Int} {tracks : List (List SamplePosition)}
    (htimes : ∀ track ∈ tracks, times track = ts) {n : Int} {count : Nat}
    (hcount : tracks.length ≤ count) :
    (keysOf (idsFrom n count) tracks).map (fun key => (key.1, (key.2.micros : Int))) =
      (idsFrom n tracks.length).flatMap fun id => ts.map fun t => (some id, t) := by
  induction tracks generalizing n count with
  | nil =>
    unfold keysOf placed
    rw [List.zip_nil_right]
    rfl
  | cons track rest ih =>
    obtain ⟨htrack, hrest⟩ := List.forall_mem_cons.mp htimes
    obtain ⟨count, rfl⟩ := Nat.exists_eq_add_of_le' (Nat.le_of_add_left_le hcount)
    unfold keysOf at ih ⊢
    rw [show idsFrom n (count + 1) = n :: idsFrom (n + 1) count from rfl, placed_cons,
      List.map_append, List.map_append, ih hrest (Nat.le_of_succ_le_succ hcount), List.length_cons,
      idsFrom, List.flatMap_cons, List.map_map, List.map_map, ← htrack, times, List.map_map]
    rfl

theorem nodup_schedule (base : Int) (length : Nat) : (schedule base length).Nodup := by
  refine List.Nodup.map (fun i j hij => ?_) List.nodup_range
  have hinterval : trackInterval = 300000000 := rfl
  simp only [hinterval] at hij
  omega

/-- No two positions of a sample are of one vehicle at one time. -/
theorem nodup_keysOf {base : Int} {length : Nat} {tracks : List (List SamplePosition)}
    (htimes : ∀ track ∈ tracks, times track = schedule base length) {n : Int} {count : Nat}
    (hcount : tracks.length ≤ count) : (keysOf (idsFrom n count) tracks).Nodup := by
  refine List.Nodup.of_map (fun key : VehicleRef × Instant => (key.1, (key.2.micros : Int))) ?_
  rw [map_keysOf htimes hcount]
  refine List.nodup_flatMap.mpr ⟨fun id _ => ?_, ?_⟩
  · exact (nodup_schedule base length).map fun t t' h => (Prod.mk.inj h).2
  · refine (nodup_idsFrom n tracks.length).imp fun hne key hkey hkey' => hne ?_
    obtain ⟨t, _, rfl⟩ := List.mem_map.mp hkey
    obtain ⟨t', _, hsame⟩ := List.mem_map.mp hkey'
    exact (Option.some.inj (congrArg Prod.fst hsame)).symm

theorem positionedCount_le (n : Nat) (positioned : Int) : positionedCount n positioned ≤ n := by
  unfold positionedCount
  split
  · omega
  · exact Nat.min_le_left _ _

theorem nodup_keysOf_sample {now : Instant} {counts : SeedCounts} {vehicles : List SampleVehicle}
    {tracks : List (List SamplePosition)} (h : IsSample now counts vehicles tracks) (first : Int) :
    (keysOf (idsFrom first vehicles.length) tracks).Nodup := by
  refine nodup_keysOf h.times ?_
  rw [h.positioned, h.length]
  exact positionedCount_le _ _

/-- A sample is stored by enrolling its vehicles, and storing its positions then. -/
theorem storeSample_eq [FleetStore σ] {s s₁ : σ} {vehicles : List SampleVehicle}
    {saved : List Vehicle} (h : enroll s (vehicles.map SampleVehicle.draft) = (.ok saved, s₁))
    (tracks : List (List SamplePosition)) :
    storeSample s vehicles tracks =
      match reports (saved.map Vehicle.id) tracks with
      | .error e => (.error e, s₁)
      | .ok ps => (Service.store s₁ ps).map (Except.map fun _ => saved.length) id := by
  rw [enroll_sample] at h
  unfold storeSample
  cases hstage : stageVehicles s vehicles with
  | mk result s' =>
    rw [hstage] at h
    cases result with
    | error e => nomatch h
    | ok _ =>
      dsimp only at h ⊢
      rw [h]
      rfl

/-- A sample whose vehicles are not enrolled is not stored. -/
theorem storeSample_refused [FleetStore σ] {s s₁ : σ} {vehicles : List SampleVehicle} {e : Failure}
    (h : enroll s (vehicles.map SampleVehicle.draft) = (.error e, s₁))
    (tracks : List (List SamplePosition)) : storeSample s vehicles tracks = (.error e, s₁) := by
  rw [enroll_sample] at h
  unfold storeSample
  cases hstage : stageVehicles s vehicles with
  | mk result s' =>
    rw [hstage] at h
    cases result with
    | error e' =>
      cases h
      rfl
    | ok _ =>
      dsimp only at h ⊢
      rw [h]

end FleetTracking.Seeding
