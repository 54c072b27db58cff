import FleetTracking.Proofs.Store.Connection
import FleetTracking.Store.Backing

/-!
# What every store does on a save

A save of a store in which nothing is staged either fails and leaves the store as it was, or stores
the positions it was given and leaves all else as it was. The store in memory, a session at work on
its tables and a `Backing` of both do this alike, and what services do with a store is derived from
it (`LawfulStore`).

Several positions are stored as if they were stored one after another (`LawfulStore.store_cons`):
what is said about batches rests on this law.
-/

namespace FleetTracking

/-- `s'` is the store `s` with some positions in addition, which a save answered as `saved`. -/
structure Stored [FleetStore σ] (s : σ) (ps saved : List Position) (s' : σ) : Prop where
  vehicle? : FleetStore.vehicle? s' = FleetStore.vehicle? s
  vehicles : FleetStore.vehicles s' = FleetStore.vehicles s
  keys : saved.map Position.key = ps.map Position.key
  /-- The keys of the positions are recorded from now on, and no others. -/
  isRecorded : ∀ u t, FleetStore.isRecorded s' u t =
    (FleetStore.isRecorded s u t).map fun b => b || decide ((u, t) ∈ ps.map Position.key)
  /-- Vehicles without a position among them have the latest position they had. -/
  last? : ∀ u, u ∉ ps.map Position.vehicle → FleetStore.last? s' u = FleetStore.last? s u

theorem Stored.refl [FleetStore σ] (s : σ) : Stored s [] [] s where
  vehicle? := rfl
  vehicles := rfl
  keys := rfl
  isRecorded u t := by cases FleetStore.isRecorded s u t <;> simp [Except.map]
  last? _ _ := rfl

theorem Stored.map_vehicle [FleetStore σ] {s s' : σ} {ps saved : List Position}
    (h : Stored s ps saved s') : saved.map Position.vehicle = ps.map Position.vehicle := by
  have hkeys := congrArg (List.map Prod.fst) h.keys
  rw [List.map_map, List.map_map] at hkeys
  exact hkeys

/-- Why a question cannot be answered. -/
def Failure.IsUnanswered (e : Failure) : Prop :=
  e = .tableMissing ∨ e = .outOfRange ∨ e = .rollbackPending

theorem Failure.IsUnanswered.ne_duplicatePosition {e : Failure} (h : e.IsUnanswered) (u : Json)
    (t : Option Timestamp) : e ≠ .duplicatePosition u t := by
  rintro rfl
  obtain h | h | h := h <;> cases h

/-- Stores whose saves store everything or nothing. -/
class LawfulStore (σ : Type) [FleetStore σ] where
  /-- Nothing is staged. -/
  IsIdle : σ → Prop
  store_nil : ∀ {s : σ}, IsIdle s → Service.store s [] = (.ok [], s)
  store_error : ∀ {s s' : σ} {ps e}, IsIdle s → Service.store s ps = (.error e, s') → s' = s
  isIdle_store : ∀ {s s' : σ} {ps saved}, IsIdle s → Service.store s ps = (.ok saved, s') →
    IsIdle s'
  stored : ∀ {s s' : σ} {ps saved}, IsIdle s → Service.store s ps = (.ok saved, s') →
    Stored s ps saved s'
  /-- A position of a known vehicle can be stored if its key is not recorded. -/
  store_one : ∀ {s : σ} {p v}, IsIdle s → FleetStore.vehicle? s p.vehicle = .ok (some v) →
    FleetStore.isRecorded s p.vehicle p.recordedAt = .ok false →
    ∃ q s', Service.store s [p] = (.ok [q], s')
  store_cons : ∀ {s s₁ s₂ : σ} {p ps qs rs}, IsIdle s → Service.store s [p] = (.ok qs, s₁) →
    Service.store s₁ ps = (.ok rs, s₂) → Service.store s (p :: ps) = (.ok (qs ++ rs), s₂)
  vehicle?_error : ∀ {s : σ} {u e}, FleetStore.vehicle? s u = .error e → e.IsUnanswered
  /-- Whether a vehicle can be asked about does not depend on the instant. -/
  isRecorded_error : ∀ {s : σ} {u t e}, FleetStore.isRecorded s u t = .error e →
    e.IsUnanswered ∧ ∀ t', FleetStore.isRecorded s u t' = .error e

/-! ## In memory -/

namespace Memory

/-- What a save can do: fail and leave everything as it was, or store everything. -/
theorem store_cases {m : Memory} (hm : m.IsIdle) (ps : List Position) :
    (∃ e, Service.store m ps = (.error e, m)) ∨
      firstRepeated m.keys ps = none ∧
        Service.store m ps = (.ok (numbered m.nextPosition ps), m.extend ps) := by
  have hstore := store_eq hm.2 ps
  cases hrepeated : firstRepeated m.keys ps with
  | some p =>
    rw [hrepeated] at hstore
    exact .inl ⟨_, hstore⟩
  | none =>
    rw [hrepeated] at hstore
    exact .inr ⟨rfl, hstore⟩

theorem store_ok {m m' : Memory} (hm : m.IsIdle) {ps saved : List Position}
    (h : Service.store m ps = (.ok saved, m')) :
    firstRepeated m.keys ps = none ∧ saved = numbered m.nextPosition ps ∧ m' = m.extend ps := by
  obtain ⟨e, he⟩ | ⟨hrepeated, hstore⟩ := store_cases hm ps
  · rw [he] at h
    nomatch h
  · rw [hstore] at h
    cases h
    exact ⟨hrepeated, rfl, rfl⟩

theorem positionsOf_extend {m : Memory} {ps : List Position} {u : VehicleRef}
    (h : u ∉ ps.map Position.vehicle) : (m.extend ps).positionsOf u = m.positionsOf u := by
  have hnone : (numbered m.nextPosition ps).filter (fun p => p.vehicle == u) = [] := by
    rw [List.filter_eq_nil_iff]
    intro q hq hu
    have hvehicle : q.vehicle ∈ (numbered m.nextPosition ps).map Position.vehicle :=
      List.mem_map_of_mem hq
    rw [map_numbered Position.vehicle_withId] at hvehicle
    exact h ((by simpa using hu : q.vehicle = u) ▸ hvehicle)
  show (m.positions ++ numbered m.nextPosition ps).filter _ = _
  rw [List.filter_append, hnone, List.append_nil]
  rfl

theorem stored_extend (m : Memory) (ps : List Position) :
    Stored m ps (numbered m.nextPosition ps) (m.extend ps) where
  vehicle? := rfl
  vehicles := rfl
  keys := map_numbered Position.key_withId _ _
  isRecorded u t := by
    show Except.ok ((m.keys ++ ps.map Position.key).contains (u, t)) = .ok _
    rw [List.contains_append, Memory.isRecorded, List.contains_eq_mem (u, t) (ps.map Position.key)]
  last? u hu := by
    show Except.ok ((m.extend ps).last? u) = .ok (m.last? u)
    rw [Memory.last?, Memory.last?, positionsOf_extend hu]

end Memory

instance : LawfulStore Memory where
  IsIdle := Memory.IsIdle
  store_nil {m} hm := by
    rw [Memory.store_eq hm.2]
    simp [Memory.firstRepeated, Memory.numbered]
  store_error {m m' ps e} hm h := by
    obtain ⟨e', he⟩ | ⟨_, hstore⟩ := Memory.store_cases hm ps
    · rw [he] at h
      exact (Prod.mk.inj h).2.symm
    · rw [hstore] at h
      nomatch h
  isIdle_store hm h := by
    obtain ⟨_, _, rfl⟩ := Memory.store_ok hm h
    exact hm.extend _
  stored hm h := by
    obtain ⟨_, rfl, rfl⟩ := Memory.store_ok hm h
    exact Memory.stored_extend _ _
  store_one {m p v} hm _ hnew := by
    have hkey : m.keys.contains p.key = false := Except.ok.inj hnew
    have hrepeated : Memory.firstRepeated m.keys [p] = none := by
      unfold Memory.firstRepeated
      rw [hkey]
      rfl
    rw [Memory.store_eq hm.2, hrepeated]
    exact ⟨_, _, rfl⟩
  store_cons {m m₁ m₂ p ps qs rs} hm h₁ h₂ := by
    obtain ⟨hp, rfl, rfl⟩ := Memory.store_ok hm h₁
    obtain ⟨hps, rfl, rfl⟩ := Memory.store_ok (hm.extend [p]) h₂
    have hkey : m.keys.contains p.key = false := by
      have := (Memory.firstRepeated_eq_none_iff.mp hp).1 p List.mem_cons_self
      simpa using this
    have hrepeated : Memory.firstRepeated m.keys (p :: ps) = none := by
      unfold Memory.firstRepeated
      rw [hkey, ← hps]
      exact Memory.firstRepeated_congr (fun k => by simp [Memory.extend, or_comm]) ps
    rw [Memory.store_eq hm.2, hrepeated, Memory.extend_cons]
    rfl
  vehicle?_error h := nomatch h
  isRecorded_error h := nomatch h

/-! ## Through a session -/

namespace Tables

/-- The rows of a vehicle, where the table is there. -/
theorem positionsOf_eq {t : Tables} {rows : List PositionRow} (hrows : t.positions = some rows)
    (u : VehicleRef) :
    t.positionsOf u =
      if VehicleRef.fits u then .ok (rows.filter fun r => some r.vehicle == u)
      else .error .outOfRange := by
  unfold positionsOf
  rw [hrows]
  rfl

/-- An instant is recorded for a vehicle if a row has both as its key. -/
theorem isRecorded_eq {t : Tables} {rows : List PositionRow} (hrows : t.positions = some rows)
    (u : VehicleRef) (time : Instant) :
    t.isRecorded u time =
      if VehicleRef.fits u then .ok ((rows.map PositionRow.key).contains (u, time))
      else .error .outOfRange := by
  have hany : ((rows.filter fun r => some r.vehicle == u).any fun r =>
      decide (r.recordedAt = time.civil)) = (rows.map PositionRow.key).contains (u, time) := by
    rw [Bool.eq_iff_iff]
    simp only [List.any_eq_true, List.mem_filter, beq_iff_eq, decide_eq_true_eq,
      List.contains_eq_mem, List.mem_map, PositionRow.key, Prod.mk.injEq]
    constructor
    · rintro ⟨r, ⟨hr, hu⟩, htime⟩
      exact ⟨r, hr, hu, by rw [htime, Instant.instant_civil]⟩
    · rintro ⟨r, hr, hu, htime⟩
      exact ⟨r, ⟨hr, hu⟩, by rw [← htime, Civil.civil_instant]⟩
  unfold isRecorded
  rw [positionsOf_eq hrows]
  cases VehicleRef.fits u with
  | false => rfl
  | true =>
    show Except.ok _ = Except.ok _
    rw [hany]

theorem vehicle?_error {t : Tables} {u : VehicleRef} {e : Failure}
    (h : t.vehicle? u = .error e) : e.IsUnanswered := by
  unfold vehicle? at h
  cases hrows : t.vehicles with
  | none =>
    rw [hrows] at h
    exact .inl (Except.error.inj h).symm
  | some rows =>
    rw [hrows] at h
    cases hfits : VehicleRef.fits u with
    | true =>
      rw [hfits] at h
      nomatch h
    | false =>
      rw [hfits] at h
      exact .inr (.inl (Except.error.inj h).symm)

theorem isRecorded_error {t : Tables} {u : VehicleRef} {time : Instant} {e : Failure}
    (h : t.isRecorded u time = .error e) :
    e.IsUnanswered ∧ ∀ time', t.isRecorded u time' = .error e := by
  cases hrows : t.positions with
  | none =>
    have hmissing time' : t.isRecorded u time' = .error .tableMissing := by
      unfold isRecorded positionsOf rows
      rw [hrows]
      rfl
    rw [hmissing] at h
    cases h
    exact ⟨.inl rfl, hmissing⟩
  | some rows =>
    rw [isRecorded_eq hrows] at h
    split at h
    · nomatch h
    · rename_i hfits
      cases h
      exact ⟨.inr (.inl rfl), fun time' => by rw [isRecorded_eq hrows, if_neg hfits]⟩

theorem positions_of_isRecorded {t : Tables} {u : VehicleRef} {time : Instant} {b : Bool}
    (h : t.isRecorded u time = .ok b) : ∃ rows, t.positions = some rows := by
  cases hrows : t.positions with
  | some rows => exact ⟨rows, rfl⟩
  | none =>
    unfold isRecorded positionsOf at h
    rw [hrows] at h
    nomatch h

end Tables

namespace Connection

variable {c : Connection} {rows : List PositionRow} {ps : List Position}

theorem positions_extend (hrows : c.tables.positions = some rows) (ps : List Position) :
    (c.extend ps).tables.positions =
      some (rows ++ PositionRow.numbered (nextId (rows.map PositionRow.id)) ps) := by
  show c.tables.positions.map _ = _
  rw [hrows]
  rfl

theorem extend_cons (c : Connection) (p : Position) (ps : List Position) :
    (c.extend [p]).extend ps = c.extend (p :: ps) := by
  obtain ⟨⟨vehicles, positions⟩, session⟩ := c
  cases positions with
  | none => rfl
  | some rows =>
    have hid (n : Int) : (PositionRow.ofPosition n p).id = n := rfl
    simp [Connection.extend, PositionRow.numbered, hid, nextId_append]

theorem store_ok {c' : Connection} (hc : c.IsIdle) {saved : List Position} (hps : ps ≠ [])
    (h : Service.store c ps = (.ok saved, c')) :
    ∃ rows, c.tables.positions = some rows ∧ (∀ p ∈ ps, p.Fits) ∧
      Memory.firstRepeated (rows.map PositionRow.key) ps = none ∧
      saved = Memory.numbered (nextId (rows.map PositionRow.id)) (ps.map Position.stored) ∧
      c' = c.extend ps := by
  obtain ⟨e, he⟩ | ⟨rows, hrows, hfits, hrepeated, hstore⟩ := store_cases hc hps
  · rw [he] at h
    nomatch h
  · rw [hstore] at h
    cases h
    exact ⟨rows, hrows, hfits, hrepeated, rfl, rfl⟩

theorem last?_extend (hrows : c.tables.positions = some rows) (hfits : ∀ p ∈ ps, p.Fits)
    {u : VehicleRef} (hu : u ∉ ps.map Position.vehicle) :
    (c.extend ps).tables.last? u = c.tables.last? u := by
  have hnone : (PositionRow.numbered (nextId (rows.map PositionRow.id)) ps).filter
      (fun r => some r.vehicle == u) = [] := by
    rw [List.filter_eq_nil_iff]
    intro r hr hvehicle
    have hkey := List.mem_map_of_mem (f := PositionRow.key) hr
    rw [PositionRow.map_key_numbered hfits] at hkey
    obtain ⟨p, hp, hpkey⟩ := List.mem_map.mp hkey
    have hru : some r.vehicle = u := by simpa using hvehicle
    have hpu : p.vehicle = u := (congrArg Prod.fst hpkey).trans hru
    exact hu (hpu ▸ List.mem_map_of_mem hp)
  have hpositions : (c.extend ps).tables.positionsOf u = c.tables.positionsOf u := by
    unfold Tables.positionsOf
    rw [positions_extend hrows, hrows]
    cases VehicleRef.fits u with
    | false => rfl
    | true =>
      show Except.ok (List.filter _ (rows ++ _)) = Except.ok _
      rw [List.filter_append, hnone, List.append_nil]
  unfold Tables.last?
  rw [hpositions]

theorem stored_extend (hc : c.IsIdle) (hrows : c.tables.positions = some rows)
    (hfits : ∀ p ∈ ps, p.Fits) :
    Stored c ps (Memory.numbered (nextId (rows.map PositionRow.id)) (ps.map Position.stored))
      (c.extend ps) where
  vehicle? := rfl
  vehicles := rfl
  keys := by
    rw [Memory.map_numbered Position.key_withId, List.map_map]
    rfl
  isRecorded u t := by
    show (c.extend ps).ask (·.isRecorded u t) = (c.ask (·.isRecorded u t)).map _
    rw [ask_of_isIdle (hc.extend ps), ask_of_isIdle hc,
      Tables.isRecorded_eq (positions_extend hrows ps), Tables.isRecorded_eq hrows,
      List.map_append, PositionRow.map_key_numbered hfits, List.contains_append]
    cases VehicleRef.fits u with
    | false => rfl
    | true =>
      show Except.ok _ = Except.ok _
      rw [List.contains_eq_mem (u, t) (ps.map Position.key)]
  last? u hu := by
    show (c.extend ps).ask (·.last? u) = c.ask (·.last? u)
    rw [ask_of_isIdle (hc.extend ps), ask_of_isIdle hc, last?_extend hrows hfits hu]

end Connection

instance : LawfulStore Connection where
  IsIdle := Connection.IsIdle
  store_nil hc := Connection.store_nil hc
  store_error {c c' ps e} hc h := by
    by_cases hps : ps = []
    · rw [hps, Connection.store_nil hc] at h
      nomatch h
    · obtain ⟨e', he⟩ | ⟨_, _, _, _, hstore⟩ := Connection.store_cases hc hps
      · rw [he] at h
        exact (Prod.mk.inj h).2.symm
      · rw [hstore] at h
        nomatch h
  isIdle_store {c c' ps saved} hc h := by
    by_cases hps : ps = []
    · rw [hps, Connection.store_nil hc] at h
      cases h
      exact hc
    · obtain ⟨_, _, _, _, _, rfl⟩ := Connection.store_ok hc hps h
      exact hc.extend _
  stored {c c' ps saved} hc h := by
    by_cases hps : ps = []
    · rw [hps, Connection.store_nil hc] at h
      cases h
      exact hps ▸ Stored.refl c
    · obtain ⟨rows, hrows, hfits, _, rfl, rfl⟩ := Connection.store_ok hc hps h
      exact Connection.stored_extend hc hrows hfits
  store_one {c p v} hc hvehicle hnew := by
    replace hvehicle := (Connection.ask_eq_ok.mp hvehicle).2
    replace hnew := (Connection.ask_eq_ok.mp hnew).2
    obtain ⟨rows, hrows⟩ := Tables.positions_of_isRecorded hnew
    have hfits : ∀ q ∈ [p], q.Fits := by
      intro q hq
      rw [List.mem_singleton.mp hq]
      exact Tables.fits_of_vehicle? hvehicle
    have hkey : (rows.map PositionRow.key).contains p.key = false := by
      rw [Tables.isRecorded_eq hrows] at hnew
      split at hnew
      · exact Except.ok.inj hnew
      · nomatch hnew
    have hrepeated : Memory.firstRepeated (rows.map PositionRow.key) [p] = none := by
      unfold Memory.firstRepeated
      rw [hkey]
      rfl
    rw [Connection.store_eq hc hrows hfits, hrepeated]
    exact ⟨_, _, rfl⟩
  store_cons {c c₁ c₂ p ps qs rs} hc h₁ h₂ := by
    obtain ⟨rows, hrows, hp, hpkey, rfl, rfl⟩ := Connection.store_ok hc (List.cons_ne_nil _ _) h₁
    -- a save of nothing needs no table, so it is none of the general case
    by_cases hps : ps = []
    · subst hps
      rw [Connection.store_nil (hc.extend [p])] at h₂
      cases h₂
      rw [List.append_nil]
      exact h₁
    · obtain ⟨rows₁, hrows₁, hpsfit, hpskey, rfl, rfl⟩ :=
        Connection.store_ok (hc.extend [p]) hps h₂
      rw [Connection.positions_extend hrows] at hrows₁
      cases hrows₁
      have hkey : (rows.map PositionRow.key).contains p.key = false := by
        have := (Memory.firstRepeated_eq_none_iff.mp hpkey).1 p List.mem_cons_self
        simpa using this
      have hkeys : (rows ++ PositionRow.numbered (nextId (rows.map PositionRow.id)) [p]).map
          PositionRow.key = rows.map PositionRow.key ++ [p.key] := by
        rw [List.map_append, PositionRow.map_key_numbered hp, List.map_singleton]
      have hids : nextId ((rows ++ PositionRow.numbered (nextId (rows.map PositionRow.id)) [p]).map
          PositionRow.id) = nextId (rows.map PositionRow.id) + 1 := by
        rw [List.map_append]
        exact nextId_append _
      have hrepeated : Memory.firstRepeated (rows.map PositionRow.key) (p :: ps) = none := by
        unfold Memory.firstRepeated
        rw [hkey, ← hpskey, hkeys]
        exact Memory.firstRepeated_congr (fun k => by simp [or_comm]) ps
      have hfits : ∀ q ∈ p :: ps, q.Fits :=
        List.forall_mem_cons.mpr ⟨hp p List.mem_cons_self, hpsfit⟩
      rw [Connection.store_eq hc hrows hfits, hrepeated, hids, Connection.extend_cons]
      rfl
  vehicle?_error h := by
    obtain ⟨_, rfl⟩ | ⟨_, h⟩ := Connection.ask_eq_error h
    · exact .inr (.inr rfl)
    · exact Tables.vehicle?_error h
  isRecorded_error {c u t e} h := by
    obtain ⟨hstalled, rfl⟩ | ⟨hstalled, h⟩ := Connection.ask_eq_error h
    · exact ⟨.inr (.inr rfl), fun t' => if_pos hstalled⟩
    · obtain ⟨he, hsame⟩ := Tables.isRecorded_error h
      exact ⟨he, fun t' => (Connection.ask_of_not_isStalled hstalled _).trans (hsame t')⟩

/-! ## Either of both -/

namespace Backing

/-- Nothing is staged in the store that is at work. -/
def IsIdle (b : Backing) : Prop := b.ask Memory.IsIdle Connection.IsIdle

/-- A session in which nothing is staged is like a new one. -/
theorem reopen_eq {b : Backing} (hb : b.IsIdle) : FleetStore.reopen b = b := by
  match b, hb with
  | ⟨false, m, c⟩, _ => rfl
  | ⟨true, m, ⟨tables, session⟩⟩, hc =>
    cases hc
    rfl

theorem store_memory (m : Memory) (c : Connection) (ps : List Position) :
    Service.store (⟨false, m, c⟩ : Backing) ps =
      ((Service.store m ps).1, ⟨false, (Service.store m ps).2, c⟩) := rfl

theorem store_connection (m : Memory) (c : Connection) (ps : List Position) :
    Service.store (⟨true, m, c⟩ : Backing) ps =
      ((Service.store c ps).1, ⟨true, m, (Service.store c ps).2⟩) := rfl

theorem store_memory_eq {m : Memory} {c : Connection} {ps : List Position}
    {r : Except Failure (List Position)} {b : Backing}
    (h : Service.store (⟨false, m, c⟩ : Backing) ps = (r, b)) :
    ∃ m', b = ⟨false, m', c⟩ ∧ Service.store m ps = (r, m') := by
  rw [store_memory] at h
  cases h
  exact ⟨_, rfl, rfl⟩

theorem store_connection_eq {m : Memory} {c : Connection} {ps : List Position}
    {r : Except Failure (List Position)} {b : Backing}
    (h : Service.store (⟨true, m, c⟩ : Backing) ps = (r, b)) :
    ∃ c', b = ⟨true, m, c'⟩ ∧ Service.store c ps = (r, c') := by
  rw [store_connection] at h
  cases h
  exact ⟨_, rfl, rfl⟩

theorem stored_memory {m m' : Memory} {ps saved : List Position} (h : Stored m ps saved m')
    (c : Connection) : Stored (⟨false, m, c⟩ : Backing) ps saved ⟨false, m', c⟩ :=
  ⟨h.vehicle?, h.vehicles, h.keys, h.isRecorded, h.last?⟩

theorem stored_connection {c c' : Connection} {ps saved : List Position} (h : Stored c ps saved c')
    (m : Memory) : Stored (⟨true, m, c⟩ : Backing) ps saved ⟨true, m, c'⟩ :=
  ⟨h.vehicle?, h.vehicles, h.keys, h.isRecorded, h.last?⟩

end Backing

open LawfulStore in
instance : LawfulStore Backing where
  IsIdle := Backing.IsIdle
  store_nil {b} hb := by
    match b, hb with
    | ⟨false, m, c⟩, hm =>
      rw [Backing.store_memory, store_nil (σ := Memory) hm]
    | ⟨true, m, c⟩, hc =>
      rw [Backing.store_connection, store_nil (σ := Connection) hc]
  store_error {b b' ps e} hb h := by
    match b, hb with
    | ⟨false, m, c⟩, hm =>
      obtain ⟨m', rfl, hstore⟩ := Backing.store_memory_eq h
      rw [store_error (σ := Memory) hm hstore]
    | ⟨true, m, c⟩, hc =>
      obtain ⟨c', rfl, hstore⟩ := Backing.store_connection_eq h
      rw [store_error (σ := Connection) hc hstore]
  isIdle_store {b b' ps saved} hb h := by
    match b, hb with
    | ⟨false, m, c⟩, hm =>
      obtain ⟨m', rfl, hstore⟩ := Backing.store_memory_eq h
      exact isIdle_store (σ := Memory) hm hstore
    | ⟨true, m, c⟩, hc =>
      obtain ⟨c', rfl, hstore⟩ := Backing.store_connection_eq h
      exact isIdle_store (σ := Connection) hc hstore
  stored {b b' ps saved} hb h := by
    match b, hb with
    | ⟨false, m, c⟩, hm =>
      obtain ⟨m', rfl, hstore⟩ := Backing.store_memory_eq h
      exact Backing.stored_memory (stored hm hstore) c
    | ⟨true, m, c⟩, hc =>
      obtain ⟨c', rfl, hstore⟩ := Backing.store_connection_eq h
      exact Backing.stored_connection (stored hc hstore) m
  store_one {b p v} hb hvehicle hnew := by
    match b, hb with
    | ⟨false, m, c⟩, hm =>
      obtain ⟨q, m', h⟩ := store_one (σ := Memory) hm hvehicle hnew
      exact ⟨q, ⟨false, m', c⟩, by rw [Backing.store_memory, h]⟩
    | ⟨true, m, c⟩, hc =>
      obtain ⟨q, c', h⟩ := store_one (σ := Connection) hc hvehicle hnew
      exact ⟨q, ⟨true, m, c'⟩, by rw [Backing.store_connection, h]⟩
  store_cons {b b₁ b₂ p ps qs rs} hb h₁ h₂ := by
    match b, hb with
    | ⟨false, m, c⟩, hm =>
      obtain ⟨m₁, rfl, hp⟩ := Backing.store_memory_eq h₁
      obtain ⟨m₂, rfl, hps⟩ := Backing.store_memory_eq h₂
      rw [Backing.store_memory, store_cons (σ := Memory) hm hp hps]
    | ⟨true, m, c⟩, hc =>
      obtain ⟨c₁, rfl, hp⟩ := Backing.store_connection_eq h₁
      obtain ⟨c₂, rfl, hps⟩ := Backing.store_connection_eq h₂
      rw [Backing.store_connection, store_cons (σ := Connection) hc hp hps]
  vehicle?_error {b u e} h := by
    match b, h with
    | ⟨false, m, c⟩, h => exact vehicle?_error (σ := Memory) (s := m) h
    | ⟨true, m, c⟩, h => exact vehicle?_error (σ := Connection) (s := c) h
  isRecorded_error {b u t e} h := by
    match b, h with
    | ⟨false, m, c⟩, h => exact isRecorded_error (σ := Memory) (t := t) h
    | ⟨true, m, c⟩, h => exact isRecorded_error (σ := Connection) (t := t) h

end FleetTracking
