import FleetTracking.Proofs.Distance
import FleetTracking.Proofs.Store.Roster

/-!
# Tables that hold what a memory holds

A connection mirrors a memory if its tables have a row for each vehicle and each position in
memory, in the same order and under the same numbers, and nothing is staged in either
(`Mirrors`). Then both answer every question alike, and saves keep it so (`Mirrors.store_cases`).

Only the sign of zeros tells them apart: tables give back `Position.stored` of what was stored.

The latest position is found by a walk in memory and by sorting rows in tables. That both come to
the same rests on the keys, which no two positions share.
-/

namespace FleetTracking

/-! ## Rows of stored positions -/

namespace Position

/-- A position that is stored, under a number. -/
structure IsStored (p : Position) : Prop where
  fits : p.Fits
  number : p.id.isSome = true

/-- The row of a stored position. -/
def row (p : Position) : PositionRow := .ofPosition (p.id.getD 0) p

theorem key_row {p : Position} (h : p.Fits) : p.row.key = p.key := PositionRow.key_ofPosition h _

theorem toPosition_row {p : Position} (h : p.IsStored) : p.row.toPosition = .ok p.stored := by
  obtain ⟨n, hn⟩ := Option.isSome_iff_exists.mp h.number
  unfold row
  rw [PositionRow.toPosition_ofPosition h.fits, hn]
  show Except.ok { p.stored with id := some n } = Except.ok p.stored
  rw [← hn]
  rfl

end Position

/-- Positions that get their numbers have the rows that get the same numbers. -/
theorem Memory.map_row_numbered (n : Int) (ps : List Position) :
    (numbered n ps).map Position.row = PositionRow.numbered n ps := by
  induction ps generalizing n with
  | nil => rfl
  | cons p rest ih =>
    rw [numbered, PositionRow.numbered, List.map_cons, ih]
    rfl

theorem Memory.numbered_map_stored (n : Int) (ps : List Position) :
    numbered n (ps.map Position.stored) = (numbered n ps).map Position.stored := by
  induction ps generalizing n with
  | nil => rfl
  | cons p rest ih =>
    rw [List.map_cons, numbered, numbered, List.map_cons, ih]
    rfl

theorem Memory.isStored_of_mem_numbered {n : Int} {ps : List Position} (h : ∀ p ∈ ps, p.Fits)
    {q : Position} (hq : q ∈ numbered n ps) : q.IsStored := by
  obtain ⟨k, hk, _⟩ := id_of_mem_numbered hq
  have hvehicle : q.vehicle ∈ (numbered n ps).map Position.vehicle := List.mem_map_of_mem hq
  rw [map_numbered Position.vehicle_withId] at hvehicle
  obtain ⟨p, hp, hpq⟩ := List.mem_map.mp hvehicle
  obtain ⟨id, hid, hfits⟩ := h p hp
  exact ⟨⟨id, hpq ▸ hid, hfits⟩, by rw [hk]; rfl⟩

/-- The next number after some numbers have been given. -/
theorem nextId_append_numbered (ids : List Int) (ps : List Position) :
    nextId (ids ++ (PositionRow.numbered (nextId ids) ps).map PositionRow.id) =
      nextId ids + ps.length := by
  induction ps generalizing ids with
  | nil => simp [PositionRow.numbered]
  | cons p rest ih =>
    have hfirst := ih (ids ++ [nextId ids])
    rw [nextId_append, List.append_assoc] at hfirst
    rw [PositionRow.numbered, List.map_cons, List.length_cons]
    show nextId (ids ++ ([nextId ids] ++ _)) = _
    rw [hfirst]
    omega

/-! ## The relation -/

/-- The tables of a connection hold what a memory holds. -/
structure Mirrors (m : Memory) (c : Connection) : Prop where
  isIdle_memory : m.IsIdle
  isIdle_connection : c.IsIdle
  vehicles : ∃ rows, c.tables.vehicles = some rows ∧ rows.map VehicleRow.toVehicle = m.vehicles
  names : (m.vehicles.map Vehicle.name).Nodup
  identifiers : ∀ w ∈ m.vehicles, fitsColumn w.id = true
  positions : c.tables.positions = some (m.positions.map Position.row)
  isStored : ∀ p ∈ m.positions, p.IsStored
  isKept : ∀ p ∈ m.positions, p.coordinates.IsKept
  keys : m.keys = m.positions.map Position.key
  nodup_keys : m.keys.Nodup
  nextPosition : m.nextPosition = nextId ((m.positions.map Position.row).map PositionRow.id)

namespace Mirrors

variable {m : Memory} {c : Connection} (h : Mirrors m c)

include h

/-! ## Questions about vehicles -/

theorem vehicle?_eq {u : VehicleRef} (hu : u.fits = true) :
    FleetStore.vehicle? c u = FleetStore.vehicle? m u := by
  obtain ⟨rows, hrows, hvehicles⟩ := h.vehicles
  have hstored : c.tables.storedVehicles = .ok m.vehicles := by
    unfold Tables.storedVehicles
    rw [hrows, ← hvehicles]
    rfl
  show c.ask (·.vehicle? u) = .ok (Vehicle.lookup m.vehicles u)
  rw [Connection.ask_of_isIdle h.isIdle_connection, Tables.vehicle?_eq hstored, if_pos hu]

theorem vehicles_eq : FleetStore.vehicles c = FleetStore.vehicles m := by
  obtain ⟨rows, hrows, hvehicles⟩ := h.vehicles
  have horder : ∀ a ∈ rows, ∀ b ∈ rows,
      Tables.namedBefore a b = decide (a.toVehicle.name ≤ b.toVehicle.name) := by
    intro a ha b hb
    show (decide (a.name < b.name) || (a.name == b.name && decide (a.id ≤ b.id))) =
      decide (a.name ≤ b.name)
    by_cases hab : a.name = b.name
    · -- names are not repeated, so this is one vehicle
      have hnames := h.names
      rw [← hvehicles, List.map_map] at hnames
      obtain rfl := eq_of_nodup_map hnames ha hb hab
      simp
    · rw [beq_eq_false_iff_ne.mpr hab, Bool.false_and, Bool.or_false, decide_eq_decide]
      constructor
      · intro hlt
        exact String.not_lt.mp fun hgt => String.lt_irrefl _ (String.lt_trans hlt hgt)
      · intro hle
        exact String.not_le.mp fun hge => hab (String.le_antisymm hle hge)
  show c.ask Tables.vehiclesByName = .ok m.vehiclesByName
  rw [Connection.ask_of_isIdle h.isIdle_connection]
  unfold Tables.vehiclesByName Memory.vehiclesByName
  rw [hrows, ← hvehicles, ← List.map_mergeSort horder]
  rfl

/-! ## Questions about positions -/

theorem map_key_row : (m.positions.map Position.row).map PositionRow.key = m.keys := by
  rw [List.map_map, h.keys]
  exact List.map_congr_left fun p hp => Position.key_row (h.isStored p hp).fits

theorem isRecorded_eq {u : VehicleRef} (hu : u.fits = true) (t : Instant) :
    FleetStore.isRecorded c u t = FleetStore.isRecorded m u t := by
  show c.ask (·.isRecorded u t) = .ok (m.keys.contains (u, t))
  rw [Connection.ask_of_isIdle h.isIdle_connection, Tables.isRecorded_eq h.positions, if_pos hu, h.map_key_row]

theorem mapM_toPosition_row : (m.positions.map Position.row).mapM PositionRow.toPosition =
    .ok (m.positions.map Position.stored) := by
  rw [List.mapM_map]
  exact mapM_eq_ok fun p hp => Position.toPosition_row (h.isStored p hp)

theorem between_eq {u : VehicleRef} (hu : u.fits = true) (start stop : Instant) :
    FleetStore.between c u start stop =
      (FleetStore.between m u start stop).map (List.map Position.stored) := by
  show c.ask (·.between u start stop) =
    .ok ((Position.window m.positions u start stop).map Position.stored)
  rw [Connection.ask_of_isIdle h.isIdle_connection, Tables.between_eq h.positions h.mapM_toPosition_row, if_pos hu,
    Position.window_map (f := Position.stored) (fun _ => rfl) fun _ => rfl]

theorem last?_eq {u : VehicleRef} (hu : u.fits = true) :
    FleetStore.last? c u = (FleetStore.last? m u).map (Option.map Position.stored) := by
  obtain ⟨last, hlast, hlatest⟩ :=
    Tables.isLatest_last? h.positions h.mapM_toPosition_row hu
  have hkeys : ((m.positions.map Position.stored).map Position.key).Nodup := by
    rw [List.map_map]
    exact h.keys ▸ h.nodup_keys
  have hmemory : IsLatest (m.positions.map Position.stored) u ((m.last? u).map Position.stored) :=
    (m.isLatest_last? u).map (fun _ => rfl) fun _ => rfl
  -- there is only one latest position
  show c.ask (·.last? u) = .ok ((m.last? u).map Position.stored)
  rw [Connection.ask_of_isIdle h.isIdle_connection, hlast, hlatest.eq_of_perm hkeys (.refl _) hmemory]

/-! ## Saving -/

theorem firstRepeated_eq (ps : List Position) :
    Memory.firstRepeated ((m.positions.map Position.row).map PositionRow.key) ps =
      Memory.firstRepeated m.keys ps := by
  rw [h.map_key_row]

/-- Positions that are stored in both are mirrored. -/
theorem extend {ps : List Position} (hfits : ∀ p ∈ ps, p.Fits)
    (hkept : ∀ p ∈ ps, p.coordinates.IsKept)
    (hnew : Memory.firstRepeated m.keys ps = none) : Mirrors (m.extend ps) (c.extend ps) where
  isIdle_memory := h.isIdle_memory.extend ps
  isIdle_connection := h.isIdle_connection.extend ps
  vehicles := h.vehicles
  names := h.names
  identifiers := h.identifiers
  positions := by
    rw [Connection.positions_extend h.positions, ← h.nextPosition, ← Memory.map_row_numbered,
      ← List.map_append]
    rfl
  isStored p hp := by
    rcases List.mem_append.mp hp with hp | hp
    · exact h.isStored p hp
    · exact Memory.isStored_of_mem_numbered hfits hp
  isKept p hp := by
    rcases List.mem_append.mp hp with hp | hp
    · exact h.isKept p hp
    · have hplace := List.mem_map_of_mem (f := Position.coordinates) hp
      rw [Memory.map_numbered Position.coordinates_withId] at hplace
      obtain ⟨q, hq, hqp⟩ := List.mem_map.mp hplace
      exact hqp ▸ hkept q hq
  keys := by
    show m.keys ++ _ = (m.positions ++ _).map Position.key
    rw [List.map_append, h.keys, Memory.map_numbered Position.key_withId]
  nodup_keys := by
    obtain ⟨htaken, hnodup⟩ := Memory.firstRepeated_eq_none_iff.mp hnew
    refine List.nodup_append.mpr ⟨h.nodup_keys, hnodup, ?_⟩
    rintro k hk k' hk' rfl
    obtain ⟨p, hp, hpk⟩ := List.mem_map.mp hk'
    exact htaken p hp (hpk ▸ hk)
  nextPosition := by
    show m.nextPosition + ps.length =
      nextId (((m.positions ++ Memory.numbered m.nextPosition ps).map Position.row).map _)
    rw [List.map_append, List.map_append, Memory.map_row_numbered, h.nextPosition,
      nextId_append_numbered]

/-- A save fails in both because of a repeated key, or stores the positions in both. -/
theorem store_cases {ps : List Position} (hfits : ∀ p ∈ ps, p.Fits)
    (hkept : ∀ p ∈ ps, p.coordinates.IsKept) :
    (∃ u t u' t', Service.store m ps = (.error (.duplicatePosition u t), m) ∧
      Service.store c ps = (.error (.duplicatePosition u' t'), c)) ∨
    ∃ saved m' c', Service.store m ps = (.ok saved, m') ∧
      Service.store c ps = (.ok (saved.map Position.stored), c') ∧ Mirrors m' c' := by
  have hm := Memory.store_eq h.isIdle_memory.2 ps
  have hc := Connection.store_eq h.isIdle_connection h.positions hfits
  rw [h.firstRepeated_eq] at hc
  cases hrepeated : Memory.firstRepeated m.keys ps with
  | some p =>
    rw [hrepeated] at hm hc
    obtain ⟨u, t, hfailure⟩ : ∃ u t, Session.positionFailure
        (Session.staged (ps.map NewPosition.ofPosition)) .constraintViolated =
          .duplicatePosition u t := by
      match ps with
      | [] => exact ⟨_, _, rfl⟩
      | [p] => exact ⟨_, _, rfl⟩
      | p :: q :: rest => exact ⟨_, _, rfl⟩
    dsimp only at hc
    rw [hfailure] at hc
    exact .inl ⟨_, _, u, t, hm, hc⟩
  | none =>
    rw [hrepeated] at hm hc
    dsimp only at hc
    -- both give the same numbers, since they count from the same one
    rw [← h.nextPosition, Memory.numbered_map_stored] at hc
    exact .inr ⟨_, _, _, hm, hc, h.extend hfits hkept hrepeated⟩

end Mirrors

end FleetTracking
