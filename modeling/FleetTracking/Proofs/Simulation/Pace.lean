import FleetTracking.Proofs.Simulation.Walk
import Mathlib.Data.List.Chain

/-!
# The pace of a walk

How far apart the steps of a walk are in time, and how many numbers a walk takes.

* `Simulator.walk_paced` — each step is two to ten whole seconds after the one before
* `Simulator.walk_counted` — each step takes three numbers
* `Simulator.path_wellFormed` — everything that is known of a path

## How numbers are counted

A source cannot be asked how often it was used. So a walk is run a second time, with a source that
gives the same numbers and counts them (`Counted`). Both runs come to the same steps, because a
walk makes nothing of its source but to ask it for numbers.
-/

namespace FleetTracking

/-! ## Counted numbers -/

/-- A source, and how many numbers it has given. -/
structure Counted (ρ : Type) where
  source : ρ
  drawn : Nat

namespace Counted

variable {ρ : Type} [RandomSource ρ]

/-- A source that has given one more number. -/
def next (c : Counted ρ) (source : ρ) : Counted ρ := ⟨source, c.drawn + 1⟩

instance : RandomSource (Counted ρ) where
  unit c := (RandomSource.unit c.source).map id c.next
  integer c low high := (RandomSource.integer c.source low high).map id c.next
  place c length := (RandomSource.place c.source length).map id c.next

theorem unit_eq {rng rng' : ρ} {u : Float} (h : RandomSource.unit rng = (u, rng')) (n : Nat) :
    RandomSource.unit (⟨rng, n⟩ : Counted ρ) = (u, ⟨rng', n + 1⟩) := by
  show (RandomSource.unit rng).map id _ = _
  rw [h]
  rfl

theorem integer_eq {rng rng' : ρ} {low high : Int} {result : Except Failure Int}
    (h : RandomSource.integer rng low high = (result, rng')) (n : Nat) :
    RandomSource.integer (⟨rng, n⟩ : Counted ρ) low high = (result, ⟨rng', n + 1⟩) := by
  show (RandomSource.integer rng low high).map id _ = _
  rw [h]
  rfl

end Counted

namespace Simulator

variable {ρ : Type} [RandomSource ρ] {sim : Simulator} {rng rng' : ρ} {radius : Float}

/-! ## Steps -/

/-- A step takes a number for its seconds, and two for its place. -/
theorem step_counted {place : Except Failure Point} {time : Instant} {w : Waypoint}
    (h : sim.step radius rng place time = (.ok w, rng')) (n : Nat) :
    sim.step radius (⟨rng, n⟩ : Counted ρ) place time = (.ok w, ⟨rng', n + 3⟩) := by
  obtain ⟨seconds, rng₁, time', c, hinteger, htime, hnearby, hw⟩ := step_eq_ok.mp h
  obtain ⟨u, v, rng₂, root, origin, target, hu, hroot, hv, hrest⟩ := nearby_eq_ok.mp hnearby
  have hnearby' : sim.nearby (⟨rng₁, n + 1⟩ : Counted ρ) place radius = (.ok c, ⟨rng', n + 3⟩) :=
    nearby_eq_ok.mpr ⟨u, v, _, root, origin, target, Counted.unit_eq hu _, hroot,
      Counted.unit_eq hv _, hrest⟩
  exact step_eq_ok.mpr ⟨seconds, _, time', c, Counted.integer_eq hinteger n, htime, hnearby', hw⟩

/-! ## Walks -/

theorem walk_paced (hrng : RandomSource.KeepsBounds ρ) {place : Except Failure Point}
    {time : Instant} {count : Nat} {ws : List Waypoint}
    (h : sim.walk radius rng place time count = (.ok ws, rng')) :
    (time :: ws.map Waypoint.recordedAt).IsChain Instant.Paces := by
  induction count generalizing rng place time ws with
  | zero =>
    cases h
    exact .singleton time
  | succ count ih =>
    obtain ⟨w, rng₁, ws', hstep, hwalk, rfl⟩ := walk_succ_eq_ok.mp h
    exact .cons_cons (step_paced hrng hstep) (ih hwalk)

theorem walk_counted {place : Except Failure Point} {time : Instant} {count : Nat}
    {ws : List Waypoint} (h : sim.walk radius rng place time count = (.ok ws, rng')) (n : Nat) :
    sim.walk radius (⟨rng, n⟩ : Counted ρ) place time count = (.ok ws, ⟨rng', n + 3 * count⟩) := by
  induction count generalizing rng place time ws n with
  | zero =>
    cases h
    rfl
  | succ count ih =>
    obtain ⟨w, rng₁, ws', hstep, hwalk, hws⟩ := walk_succ_eq_ok.mp h
    have hdrawn : n + 3 * (count + 1) = n + 3 + 3 * count := by omega
    rw [hdrawn]
    exact walk_succ_eq_ok.mpr ⟨w, _, ws', step_counted hstep n, ih hwalk (n + 3), hws⟩

/-! ## Paths -/

/-- A path that is come to has as many points as were asked for, none for a negative number, and
took three numbers for each of them. The steps are two to ten whole seconds apart, the first one
counted from the start if that is later than five minutes ago and from the present if not. So the
times rise, and are later than the start and than five minutes ago. All points are in the box,
for everything that a step can compute is clamped to it, nan and infinity as well. -/
theorem path_wellFormed (hbox : sim.box.IsOrdered) (hrng : RandomSource.KeepsBounds ρ)
    {now : Instant} {start : Start} {count : Int} {ws : List Waypoint}
    (h : sim.path rng now start count radius = (.ok ws, rng')) :
    (ws.length : Int) = max count 0 ∧
    sim.path (⟨rng, 0⟩ : Counted ρ) now start count radius = (.ok ws, ⟨rng', 3 * ws.length⟩) ∧
    (∃ time, start.recordedAt.instant = .ok time ∧
      ((if (now.micros : Int) - 300000000 < time.micros then time else now) ::
        ws.map Waypoint.recordedAt).IsChain Instant.Paces ∧
      IsWalk sim.box time ws) ∧
    (∀ w ∈ ws, (now.micros : Int) - 300000000 < w.recordedAt.micros) ∧
    ∀ p, sim.box.contains (clampToBox sim.box p) = true := by
  obtain ⟨base, hbase, hwalk⟩ := path_eq_ok.mp h
  obtain ⟨time, htime, hfrom⟩ := baseTime_eq_ok hbase
  have hlength := length_walk hwalk
  refine ⟨length_path h, ?_, ⟨time, htime, hfrom ▸ walk_paced hrng hwalk,
    path_ok hbox hrng htime h⟩, fun w hw => ?_, contains_clampToBox hbox⟩
  · have hdrawn : 0 + 3 * count.toNat = 3 * ws.length := by omega
    exact path_eq_ok.mpr ⟨base, hbase, hdrawn ▸ walk_counted hwalk 0⟩
  · have hlater : base.micros < w.recordedAt.micros := (walk_ok hbox hrng hwalk).later w hw
    have hrecent : (now.micros : Int) - 300000000 < base.micros := by
      subst hfrom
      split <;> omega
    omega

/-- A simulator of Athens. -/
def athenian : Simulator := ⟨.athens, Box.isEmpty_athens⟩

/-- Noon of the first day. -/
def noon : Instant := ⟨43200000000, by decide⟩

/-- The center of Athens a minute before noon, on a clock that is three hours ahead. -/
def beforeNoon : Start :=
  ⟨.ok Box.athens.center, (⟨53940000000, by decide⟩ : Instant).civil, some ⟨10800000000, by decide⟩⟩

/-- The hypotheses hold in Athens: of a path of no points, and of one of three points if it is
come to at all. -/
theorem path_wellFormed_athens :
    Box.athens.IsOrdered ∧ RandomSource.KeepsBounds StdGen ∧
    (athenian.path (mkStdGen 1) noon beforeNoon (-1) 200.0 = (.ok [], mkStdGen 1) ∧
      athenian.path (⟨mkStdGen 1, 0⟩ : Counted StdGen) noon beforeNoon (-1) 200.0 =
        (.ok [], ⟨mkStdGen 1, 0⟩)) ∧
    ((∃ e rng, athenian.path (mkStdGen 1) noon beforeNoon 3 200.0 = (.error e, rng)) ∨
      ∃ ws rng, athenian.path (mkStdGen 1) noon beforeNoon 3 200.0 = (.ok ws, rng) ∧
        ws.length = 3 ∧
        athenian.path (⟨mkStdGen 1, 0⟩ : Counted StdGen) noon beforeNoon 3 200.0 =
          (.ok ws, ⟨rng, 9⟩) ∧
        ((⟨43140000000, by decide⟩ : Instant) :: ws.map Waypoint.recordedAt).IsChain
          Instant.Paces ∧
        ∀ w ∈ ws, Box.athens.contains w.place = true) := by
  have hnone : athenian.path (mkStdGen 1) noon beforeNoon (-1) 200.0 = (.ok [], mkStdGen 1) := rfl
  refine ⟨Box.isOrdered_athens, keepsBounds_stdGen, ⟨hnone, ?_⟩, ?_⟩
  · exact (path_wellFormed Box.isOrdered_athens keepsBounds_stdGen hnone).2.1
  · cases hpath : athenian.path (mkStdGen 1) noon beforeNoon 3 200.0 with
    | mk result rng =>
      cases result with
      | error e => exact .inl ⟨e, rng, rfl⟩
      | ok ws =>
        obtain ⟨hlength, hcounted, ⟨time, htime, hchain, hwalk⟩, _⟩ :=
          path_wellFormed Box.isOrdered_athens keepsBounds_stdGen hpath
        have hthree : ws.length = 3 := by omega
        have hstart : beforeNoon.recordedAt.instant = .ok ⟨43140000000, by decide⟩ := rfl
        rw [hstart] at htime
        cases htime
        rw [hthree] at hcounted
        exact .inr ⟨ws, rng, rfl, hthree, hcounted, hchain, hwalk.inside⟩

end Simulator

end FleetTracking
