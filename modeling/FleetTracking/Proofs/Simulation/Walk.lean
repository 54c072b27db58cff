import FleetTracking.Proofs.Calendar
import FleetTracking.Proofs.Geo
import FleetTracking.Proofs.Outcome
import FleetTracking.Simulation.Walk

/-!
# Where a walk leads, and when

Each step of a walk is a place on Earth in the box of its simulator, whatever the trigonometry of
its step came to, for even nan is clamped to a bound (`clamp_mem`). Its time is later than that of
the step before, and the first one is later than the start (`walk_ok`, `path_ok`).

Of doubles, only how they are compared matters here.
-/

namespace FleetTracking

/-! ## What a walk depends on -/

/-- The bounds of both axes are in order, so none of them is nan. -/
structure Box.IsOrdered (box : Box) : Prop where
  latitude : box.minLatitude ≤ box.maxLatitude
  longitude : box.minLongitude ≤ box.maxLongitude

theorem Instant.micros_add {t t' : Instant} {delta : Int} (h : t.add delta = .ok t') :
    (t'.micros : Int) = t.micros + delta := by
  unfold Instant.add Instant.add? Instant.ofMicros? at h
  by_cases hin : 0 ≤ t.micros + delta ∧ t.micros + delta < calendarMicros
  · rw [dif_pos hin] at h
    cases h
    exact Int.toNat_of_nonneg hin.1
  · rw [dif_neg hin] at h
    nomatch h

/-- An instant that is two to ten whole seconds after another. -/
def Instant.Paces (t t' : Instant) : Prop :=
  ∃ seconds : Int, 2 ≤ seconds ∧ seconds ≤ 10 ∧ (t'.micros : Int) = t.micros + seconds * 1000000

theorem Instant.Paces.lt {t t' : Instant} (h : t.Paces t') : t < t' := by
  obtain ⟨seconds, hlow, _, hmicros⟩ := h
  show t.micros < t'.micros
  omega

/-- Integers that are drawn lie between the bounds that were asked for. -/
def RandomSource.KeepsBounds (ρ : Type) [RandomSource ρ] : Prop :=
  ∀ (rng rng' : ρ) (low high n : Int), low ≤ high →
    RandomSource.integer rng low high = (.ok n, rng') → low ≤ n ∧ n ≤ high

/-- The generator of the core library keeps its bounds. -/
theorem keepsBounds_stdGen : RandomSource.KeepsBounds StdGen := by
  intro rng rng' low high n hle h
  change (randNat rng 0 (high - low).toNat).map
    (fun k : Nat => (.ok (low + k) : Except Failure Int)) id = _ at h
  have hn : low + ((randNat rng 0 (high - low).toNat).1 : Int) = n :=
    Except.ok.inj (Prod.mk.inj h).1
  have hk : (randNat rng 0 (high - low).toNat).1 ≤ (high - low).toNat := by
    simp only [randNat, gt_iff_lt, Nat.not_lt_zero, if_false, Nat.sub_zero, Nat.zero_add]
    exact Nat.le_of_lt_succ (Nat.mod_lt _ (Nat.succ_pos _))
  omega

theorem Box.isOrdered_athens : Box.athens.IsOrdered := ⟨by decide, by decide⟩

theorem Box.isEmpty_athens : Box.athens.isEmpty = false := by decide

namespace Simulator

/-! ## Places -/

/-- What is clamped lies between the bounds, whether or not it can be compared. -/
theorem clamp_mem {low high : Float} (h : low ≤ high) (x : Float) :
    low ≤ clamp x low high ∧ clamp x low high ≤ high := by
  obtain ⟨hlow, hhigh⟩ := Double.isNaN_of_le h
  have hleast : (if x < high then x else high) ≤ high := by
    by_cases hx : x < high
    · rw [if_pos hx]
      exact Double.le_of_lt hx
    · rw [if_neg hx]
      exact Double.le_self hhigh
  unfold clamp
  dsimp only
  by_cases hlt : low < (if x < high then x else high)
  · rw [if_pos hlt]
    exact ⟨Double.le_of_lt hlt, hleast⟩
  · rw [if_neg hlt]
    exact ⟨Double.le_self hlow, h⟩

theorem contains_clampToBox {box : Box} (h : box.IsOrdered) (p : Point) :
    box.contains (clampToBox box p) = true := by
  obtain ⟨hminLat, hmaxLat⟩ := clamp_mem h.latitude p.latitude
  obtain ⟨hminLon, hmaxLon⟩ := clamp_mem h.longitude p.longitude
  simp [Box.contains, clampToBox, hminLat, hmaxLat, hminLon, hmaxLon]

variable {ρ : Type} [RandomSource ρ] {sim : Simulator} {rng rng' : ρ} {radius : Float}

/-- A place takes two numbers: the first for its distance, the second for its bearing. -/
theorem nearby_eq_ok {place : Except Failure Point} {c : Coordinates} :
    sim.nearby rng place radius = (.ok c, rng') ↔
      ∃ u v rng₁ root origin target, RandomSource.unit rng = (u, rng₁) ∧
        squareRoot u = .ok root ∧ RandomSource.unit rng₁ = (v, rng') ∧ place = .ok origin ∧
        destination origin (root * radius / earthRadius) (v * 2.0 * pi) = .ok target ∧
        Coordinates.ofPoint (clampToBox sim.box target) = .ok c := by
  unfold nearby
  constructor
  · intro h
    dsimp only at h
    split at h
    · nomatch h
    · rename_i root hroot
      obtain ⟨hplace, rfl⟩ := Prod.mk.inj h
      obtain ⟨origin, horigin, hplace⟩ := bind_eq_ok.mp hplace
      obtain ⟨target, htarget, hc⟩ := bind_eq_ok.mp hplace
      exact ⟨_, _, _, root, origin, target, rfl, hroot, rfl, horigin, htarget, hc⟩
  · rintro ⟨u, v, rng₁, root, origin, target, hu, hroot, hv, rfl, htarget, hc⟩
    rw [hu]
    dsimp only
    rw [hroot]
    dsimp only
    rw [hv]
    refine Prod.ext (bind_eq_ok.mpr ⟨origin, rfl, ?_⟩) rfl
    exact bind_eq_ok.mpr ⟨target, htarget, hc⟩

/-- A step that comes to a place comes to one in the box. -/
theorem nearby_ok (hbox : sim.box.IsOrdered) {place : Except Failure Point} {c : Coordinates}
    (h : sim.nearby rng place radius = (.ok c, rng')) : sim.box.contains c.toPoint = true := by
  obtain ⟨_, _, _, _, _, target, _, _, _, _, _, hc⟩ := nearby_eq_ok.mp h
  rw [Coordinates.toPoint_of_ofPoint hc]
  exact contains_clampToBox hbox target

/-! ## Times -/

/-- A walk counts from its start if that is later than five minutes ago, and from the present if
not. -/
theorem baseTime_eq_ok {now base : Instant} {start : Timestamp} (h : baseTime now start = .ok base) :
    ∃ time, start.instant = .ok time ∧
      base = if (now.micros : Int) - 300000000 < time.micros then time else now := by
  obtain ⟨time, htime, h⟩ := bind_eq_ok.mp h
  obtain ⟨horizon, hhorizon, h⟩ := bind_eq_ok.mp h
  cases h
  have hrecent : horizon < time ↔ (now.micros : Int) - 300000000 < time.micros := by
    have hmicros := Instant.micros_add hhorizon
    simp only [recentWindow, minuteMicros, secondMicros] at hmicros
    show horizon.micros < time.micros ↔ _
    omega
  exact ⟨time, htime, by simp only [hrecent]⟩

/-- A walk counts from its start or a later time. -/
theorem le_baseTime {now time base : Instant} {start : Timestamp} (hstart : start.instant = .ok time)
    (h : baseTime now start = .ok base) : time ≤ base := by
  obtain ⟨time', htime, rfl⟩ := baseTime_eq_ok h
  rw [hstart] at htime
  cases htime
  show time.micros ≤ Instant.micros _
  split <;> omega

/-- A step takes its seconds, and then its place. -/
theorem step_eq_ok {place : Except Failure Point} {time : Instant} {w : Waypoint} :
    sim.step radius rng place time = (.ok w, rng') ↔
      ∃ seconds rng₁ time' c,
        RandomSource.integer rng stepSeconds.1 stepSeconds.2 = (.ok seconds, rng₁) ∧
        time.add (seconds * secondMicros) = .ok time' ∧
        sim.nearby rng₁ place radius = (.ok c, rng') ∧ w = ⟨c.toPoint, time'⟩ := by
  unfold step
  constructor
  · intro h
    cases hinteger : RandomSource.integer rng stepSeconds.1 stepSeconds.2 with
    | mk result rng₁ =>
      rw [hinteger] at h
      dsimp only at h
      split at h
      · nomatch h
      · rename_i time' htime
        obtain ⟨seconds, rfl, htime⟩ := bind_eq_ok.mp htime
        cases hnearby : sim.nearby rng₁ place radius with
        | mk target rng₂ =>
          rw [hnearby] at h
          obtain ⟨hmap, rfl⟩ := Prod.mk.inj h
          obtain ⟨c, rfl, rfl⟩ := map_eq_ok.mp hmap
          exact ⟨seconds, rng₁, time', c, rfl, htime, hnearby, rfl⟩
  · rintro ⟨seconds, rng₁, time', c, hinteger, htime, hnearby, rfl⟩
    rw [hinteger]
    dsimp only
    have htime : (do time.add ((← .ok seconds) * secondMicros) : Except Failure Instant) =
        .ok time' := htime
    rw [htime]
    dsimp only
    rw [hnearby]
    rfl

/-- A step takes two to ten seconds. -/
theorem step_paced (hrng : RandomSource.KeepsBounds ρ) {place : Except Failure Point}
    {time : Instant} {w : Waypoint} (h : sim.step radius rng place time = (.ok w, rng')) :
    time.Paces w.recordedAt := by
  obtain ⟨seconds, _, time', c, hinteger, htime, _, rfl⟩ := step_eq_ok.mp h
  obtain ⟨hlow, hhigh⟩ := hrng _ _ _ _ _ (by decide) hinteger
  exact ⟨seconds, hlow, hhigh, Instant.micros_add htime⟩

/-- A step leads to a place in the box at a later time. -/
theorem step_ok (hbox : sim.box.IsOrdered) (hrng : RandomSource.KeepsBounds ρ)
    {place : Except Failure Point} {time : Instant} {w : Waypoint}
    (h : sim.step radius rng place time = (.ok w, rng')) :
    (∃ c : Coordinates, w.place = c.toPoint) ∧ sim.box.contains w.place = true ∧
      time < w.recordedAt := by
  obtain ⟨_, _, time', c, _, _, hnearby, hw⟩ := step_eq_ok.mp h
  refine ⟨⟨c, hw ▸ rfl⟩, ?_, (step_paced hrng h).lt⟩
  rw [hw]
  exact nearby_ok hbox hnearby

/-! ## Walks -/

/-- What a walk from a time leads through: places on Earth in the box, each later than the one
before. -/
structure IsWalk (box : Box) (time : Instant) (ws : List Waypoint) : Prop where
  onEarth : ∀ w ∈ ws, ∃ c : Coordinates, w.place = c.toPoint
  inside : ∀ w ∈ ws, box.contains w.place = true
  later : ∀ w ∈ ws, time < w.recordedAt
  rising : (ws.map Waypoint.recordedAt).Pairwise (· < ·)

theorem IsWalk.cons {box : Box} {time : Instant} {w : Waypoint} {ws : List Waypoint}
    (hplace : ∃ c : Coordinates, w.place = c.toPoint) (hinside : box.contains w.place = true)
    (hlater : time < w.recordedAt) (h : IsWalk box w.recordedAt ws) : IsWalk box time (w :: ws) where
  onEarth := List.forall_mem_cons.mpr ⟨hplace, h.onEarth⟩
  inside := List.forall_mem_cons.mpr ⟨hinside, h.inside⟩
  later := List.forall_mem_cons.mpr ⟨hlater, fun w' hw' => Nat.lt_trans hlater (h.later w' hw')⟩
  rising := by
    rw [List.map_cons, List.pairwise_cons]
    refine ⟨fun t ht => ?_, h.rising⟩
    obtain ⟨w', hw', rfl⟩ := List.mem_map.mp ht
    exact h.later w' hw'

theorem IsWalk.from_earlier {box : Box} {time time' : Instant} {ws : List Waypoint}
    (h : IsWalk box time' ws) (hle : time ≤ time') : IsWalk box time ws :=
  { h with later := fun w hw => Nat.lt_of_le_of_lt hle (h.later w hw) }

/-- A walk is its first step, and a walk from there. -/
theorem walk_succ_eq_ok {place : Except Failure Point} {time : Instant} {count : Nat}
    {ws : List Waypoint} :
    sim.walk radius rng place time (count + 1) = (.ok ws, rng') ↔
      ∃ w rng₁ ws', sim.step radius rng place time = (.ok w, rng₁) ∧
        sim.walk radius rng₁ (.ok w.place) w.recordedAt count = (.ok ws', rng') ∧ ws = w :: ws' := by
  conv => lhs; unfold walk
  constructor
  · intro h
    cases hstep : sim.step radius rng place time with
    | mk result rng₁ =>
      rw [hstep] at h
      cases result with
      | error e => nomatch h
      | ok w =>
        dsimp only at h
        cases hwalk : sim.walk radius rng₁ (.ok w.place) w.recordedAt count with
        | mk rest rng₂ =>
          rw [hwalk] at h
          obtain ⟨hmap, rfl⟩ := Prod.mk.inj h
          obtain ⟨ws', rfl, rfl⟩ := map_eq_ok.mp hmap
          exact ⟨w, rng₁, ws', rfl, hwalk, rfl⟩
  · rintro ⟨w, rng₁, ws', hstep, hwalk, rfl⟩
    rw [hstep]
    dsimp only
    rw [hwalk]
    rfl

/-- A path is a walk from the time at which it counts. -/
theorem path_eq_ok {now : Instant} {start : Start} {count : Int} {ws : List Waypoint} :
    sim.path rng now start count radius = (.ok ws, rng') ↔
      ∃ base, baseTime now start.recordedAt = .ok base ∧
        sim.walk radius rng start.place base count.toNat = (.ok ws, rng') := by
  unfold path
  cases baseTime now start.recordedAt with
  | error e => simp
  | ok base => simp

/-- A walk has as many steps as were asked for. -/
theorem length_walk {place : Except Failure Point} {time : Instant} {count : Nat}
    {ws : List Waypoint} (h : sim.walk radius rng place time count = (.ok ws, rng')) :
    ws.length = count := by
  induction count generalizing rng place time ws with
  | zero =>
    cases h
    rfl
  | succ count ih =>
    obtain ⟨w, rng₁, ws', _, hwalk, rfl⟩ := walk_succ_eq_ok.mp h
    rw [List.length_cons, ih hwalk]

/-- What a walk comes to is a walk in the box, later than its beginning. -/
theorem walk_ok (hbox : sim.box.IsOrdered) (hrng : RandomSource.KeepsBounds ρ)
    {place : Except Failure Point} {time : Instant} {count : Nat} {ws : List Waypoint}
    (h : sim.walk radius rng place time count = (.ok ws, rng')) : IsWalk sim.box time ws := by
  -- each step is the start of the steps that are left
  induction count generalizing rng place time ws with
  | zero =>
    cases h
    exact ⟨by simp, by simp, by simp, .nil⟩
  | succ count ih =>
    obtain ⟨w, rng₁, ws', hstep, hwalk, rfl⟩ := walk_succ_eq_ok.mp h
    obtain ⟨hplace, hinside, hlater⟩ := step_ok hbox hrng hstep
    exact .cons hplace hinside hlater (ih hwalk)

/-- A path has as many steps as were asked for, none for a negative number. -/
theorem length_path {now : Instant} {start : Start} {count : Int} {ws : List Waypoint}
    (h : sim.path rng now start count radius = (.ok ws, rng')) :
    (ws.length : Int) = max count 0 := by
  obtain ⟨base, _, hwalk⟩ := path_eq_ok.mp h
  rw [length_walk hwalk]
  omega

/-- A path is a walk from its start, however old that is. -/
theorem path_ok (hbox : sim.box.IsOrdered) (hrng : RandomSource.KeepsBounds ρ) {now time : Instant}
    {start : Start} (hstart : start.recordedAt.instant = .ok time) {count : Int}
    {ws : List Waypoint} (h : sim.path rng now start count radius = (.ok ws, rng')) :
    IsWalk sim.box time ws := by
  obtain ⟨base, hbase, hwalk⟩ := path_eq_ok.mp h
  exact (walk_ok hbox hrng hwalk).from_earlier (le_baseTime hstart hbase)

end Simulator

end FleetTracking
