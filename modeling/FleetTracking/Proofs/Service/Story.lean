import FleetTracking.Proofs.Feed.Traffic
import FleetTracking.Proofs.Seconds
import FleetTracking.Proofs.Store.Agreement

/-!
# Positions, route and statistics of one window

Three services are asked about a vehicle in a window of time. All look up the vehicle first, check
the window next, and go on with the same positions, so they fail together and for the same reason
(`Service.together_of_visit_error`). If they do not, the route and the statistics are those of the
positions that are given (`Service.together_of_visit`).

What is said of time rests on the store. Statistics take the first and the last position as they
come. In a store that has arisen they are the earliest and the latest one, and no two have the same
instant, so two positions take some time (`Route.isSummaryOf_statistics`) and have a speed.
-/

namespace FleetTracking

/-! ## Statistics of rising positions -/

namespace Route

variable {distance : Coordinates → Coordinates → Except Failure Float} {ps : List Position}

/-- There is a sum of legs if no leg fails, and legs lead from earlier positions to later ones. -/
theorem exists_addLegs (hrising : Position.AreRising ps)
    (hlegs : ∀ p ∈ ps, ∀ q ∈ ps, p.recordedAt < q.recordedAt →
      ∃ d, distance p.coordinates q.coordinates = .ok d) (sum : Float) :
    ∃ total, addLegs distance sum ps = .ok total := by
  induction ps generalizing sum with
  | nil => exact ⟨sum, rfl⟩
  | cons p rest ih =>
    cases rest with
    | nil => exact ⟨sum, rfl⟩
    | cons q rest =>
      obtain ⟨hfirst, hrest⟩ := List.pairwise_cons.mp hrising
      obtain ⟨leg, hleg⟩ := hlegs p List.mem_cons_self q (List.mem_cons_of_mem _ List.mem_cons_self)
        (hfirst q List.mem_cons_self)
      have hlater := ih hrest fun a ha b hb =>
        hlegs a (List.mem_cons_of_mem _ ha) b (List.mem_cons_of_mem _ hb)
      unfold addLegs
      rw [hleg]
      exact hlater (sum + leg)

/-- Two rising positions or more have an earliest and a latest one, between which they take place. -/
theorem exists_ends {p q : Position} {rest : List Position}
    (hrising : Position.AreRising (p :: q :: rest)) :
    ∃ last ∈ p :: q :: rest,
      (∀ r ∈ p :: q :: rest, p.recordedAt ≤ r.recordedAt ∧ r.recordedAt ≤ last.recordedAt) ∧
      p.recordedAt < last.recordedAt ∧
      duration (p :: q :: rest) = (last.recordedAt.micros : Int) - p.recordedAt.micros := by
  have hne : p :: q :: rest ≠ [] := List.cons_ne_nil _ _
  have hfirst := (List.pairwise_cons.mp hrising).1
  have hmem : (p :: q :: rest).getLast hne ∈ q :: rest := by
    rw [List.getLast_cons_cons]
    exact List.getLast_mem _
  refine ⟨_, List.mem_cons_of_mem _ hmem, ?_, hfirst _ hmem, rfl⟩
  intro r hr
  refine ⟨?_, hrising.le_getLast hne r hr⟩
  rcases List.mem_cons.mp hr with rfl | hr
  · exact Nat.le_refl _
  · exact Nat.le_of_lt (hfirst r hr)

/-- What statistics say of positions.

* `still` — they take no time if there are fewer than two
* `moving` — if there are more, they take the time from the earliest to the latest one, which is
  positive, and their speed is the distance over this time -/
structure IsSummaryOf (stats : Statistics) (ps : List Position) (total : Float) : Prop where
  distance : stats.totalDistance = total
  count : stats.positionCount = ps.length
  still : stats.duration = 0.0 ↔ ps.length < 2
  moving : 2 ≤ ps.length → ∃ first ∈ ps, ∃ last ∈ ps,
    (∀ p ∈ ps, first.recordedAt ≤ p.recordedAt ∧ p.recordedAt ≤ last.recordedAt) ∧
    first.recordedAt < last.recordedAt ∧
    stats.duration = seconds (last.recordedAt.micros - first.recordedAt.micros) ∧
    0.0 < stats.duration ∧ stats.averageSpeed = stats.totalDistance / stats.duration

theorem isSummaryOf_statistics (hrising : Position.AreRising ps) {total : Float}
    (htotal : totalDistance distance ps = .ok total) :
    ∃ stats, statistics distance ps = .ok stats ∧ IsSummaryOf stats ps total := by
  match ps with
  | [] =>
    cases htotal
    exact ⟨_, rfl, rfl, rfl, by simp, by simp⟩
  | [p] =>
    have hstill : seconds (duration [p]) = 0.0 := by
      rw [show duration [p] = 0 from Int.sub_self _]
      exact seconds_zero
    unfold statistics
    dsimp only
    rw [htotal, hstill]
    exact ⟨_, rfl, rfl, rfl, by simp, by simp⟩
  | p :: q :: rest =>
    obtain ⟨last, hlast, hends, hlt, hduration⟩ := exists_ends hrising
    have hpositive : 0.0 < seconds (duration (p :: q :: rest)) := by
      have hmicros : p.recordedAt.micros < last.recordedAt.micros := hlt
      rw [hduration]
      exact seconds_pos (by omega)
    unfold statistics
    dsimp only
    rw [htotal]
    refine ⟨_, rfl, rfl, rfl, ?_, ?_⟩
    · have hnonzero : seconds (duration (p :: q :: rest)) ≠ 0.0 := by
        intro hzero
        rw [hzero] at hpositive
        exact absurd hpositive (by decide)
      simp [hnonzero]
    · intro _
      exact ⟨p, List.mem_cons_self, last, hlast, hends, hlt, congrArg seconds hduration, hpositive,
        if_pos hpositive⟩

end Route

/-! ## Three services -/

namespace Service

variable {σ : Type} [FleetStore σ] {s : σ} {u : VehicleRef} {w : Vehicle} {start stop : Timestamp}
  {t t' : Instant}

/-- All three services end in this error. -/
def FailTogether (s : σ) (u : VehicleRef) (start stop : Timestamp) (e : Failure) : Prop :=
  positions s u start stop = .error e ∧ route s u start stop = .error e ∧
    statistics s u start stop = .error e

/-- All three services answer, and tell of the same positions and the same distance. -/
def TellTogether (s : σ) (u : VehicleRef) (start stop : Timestamp) (w : Vehicle) : Prop :=
  ∃ ps r stats, positions s u start stop = .ok ps ∧ route s u start stop = .ok r ∧
    statistics s u start stop = .ok stats ∧ r.vehicle = u ∧ r.vehicleName = w.name ∧
    r.positions = ps.map PositionRecord.ofPosition ∧ r.positionCount = ps.length ∧
    Route.IsSummaryOf stats ps r.totalDistance

theorem together_of_visit_error {e : Failure} (h : visit s u start stop = .error e) :
    FailTogether s u start stop e := by
  have hpositions : positions s u start stop = .error e := by
    unfold positions
    rw [h]
    rfl
  refine ⟨hpositions, ?_, ?_⟩
  · unfold route
    rw [h]
    rfl
  · unfold statistics
    rw [hpositions]
    rfl

theorem together_of_visit {ps : List Position} (h : visit s u start stop = .ok (w, ps))
    (hrising : Position.AreRising ps) {total : Float}
    (htotal : Route.totalDistance (greatCircle earthRadius) ps = .ok total) :
    TellTogether s u start stop w := by
  have hpositions : positions s u start stop = .ok ps := by
    unfold positions
    rw [h]
    rfl
  obtain ⟨stats, hstats, hsummary⟩ := Route.isSummaryOf_statistics hrising htotal
  refine ⟨ps, ⟨u, w.name, ps.map PositionRecord.ofPosition, total, ps.length⟩, stats, hpositions,
    ?_, ?_, rfl, rfl, rfl, rfl, hsummary⟩
  · unfold route
    rw [h]
    dsimp only [bind, Except.bind]
    rw [htotal]
    rfl
  · unfold statistics
    rw [hpositions]
    exact hstats

theorem requireVehicle_missing (h : FleetStore.vehicle? s u = .ok none) :
    requireVehicle s u = .error (.notFound "Vehicle" (VehicleRef.toJson u) none) := by
  unfold requireVehicle
  rw [h]
  rfl

theorem requireVehicle_found (h : FleetStore.vehicle? s u = .ok (some w)) :
    requireVehicle s u = .ok w := by
  unfold requireVehicle
  rw [h]
  rfl

theorem visit_missing (hw : FleetStore.vehicle? s u = .ok none) :
    visit s u start stop = .error (.notFound "Vehicle" (VehicleRef.toJson u) none) := by
  unfold visit
  rw [requireVehicle_missing hw]
  rfl

section Found

variable (hw : FleetStore.vehicle? s u = .ok (some w)) (hstart : start.instant? = some t)
  (hstop : stop.instant? = some t')

include hw hstart hstop

theorem visit_reversed (h : t' < t) :
    visit s u start stop = .error (.rejected (.ofMessage Violation.reversedWindow.message none)) := by
  unfold visit checkWindow
  rw [requireVehicle_found hw, Timestamp.instant_of_instant? hstart,
    Timestamp.instant_of_instant? hstop]
  simp [bind, Except.bind, h]

theorem visit_found (h : ¬t' < t) {ps : List Position}
    (hps : FleetStore.between s u t t' = .ok ps) : visit s u start stop = .ok (w, ps) := by
  unfold visit checkWindow
  rw [requireVehicle_found hw, Timestamp.instant_of_instant? hstart,
    Timestamp.instant_of_instant? hstop]
  simp [bind, Except.bind, pure, Except.pure, h, hps]

end Found

end Service

open Service in
/-- In a store that has arisen, three services tell the same of a vehicle in a window of time. They
fail together if there is no such vehicle, and then, if the window ends before it begins. If neither
is the case they all answer, as long as no distance between places of the vehicle fails. -/
theorem Backing.Arises.together {b : Backing} (hb : b.Arises) {u : VehicleRef}
    (hu : u.fits = true) {start stop : Timestamp} {t t' : Instant}
    (hstart : start.instant? = some t) (hstop : stop.instant? = some t') {ps : List Position}
    (hps : b.storedPositions = .ok ps)
    (hdistances : ∀ p ∈ ps, ∀ q ∈ ps, p.vehicle = u → q.vehicle = u → p.recordedAt < q.recordedAt →
      ∃ d, greatCircle earthRadius p.coordinates q.coordinates = .ok d) :
    (FleetStore.vehicle? b u = .ok none ∧
      FailTogether b u start stop (.notFound "Vehicle" (VehicleRef.toJson u) none)) ∨
    ∃ w, FleetStore.vehicle? b u = .ok (some w) ∧
      if t' < t then
        FailTogether b u start stop (.rejected (.ofMessage Violation.reversedWindow.message none))
      else TellTogether b u start stop w := by
  have hserves := b.serves_of_fits hu
  obtain ⟨ws, hws, -⟩ := hb.isConsistent.exists_storedVehicles
  obtain ⟨ps', hholds, hkeys⟩ := hb.isConsistent.exists_holds
  rw [storedPositions_of_holds hholds] at hps
  cases hps
  have hvehicle := vehicle?_of_storedVehicles hws u
  rw [if_pos hserves] at hvehicle
  cases hfound : u.bind fun id => ws.find? fun w => w.id == id with
  | none =>
    rw [hfound] at hvehicle
    exact .inl ⟨hvehicle, together_of_visit_error (visit_missing hvehicle)⟩
  | some w =>
    rw [hfound] at hvehicle
    refine .inr ⟨w, hvehicle, ?_⟩
    split
    · rename_i hreversed
      exact together_of_visit_error (visit_reversed hvehicle hstart hstop hreversed)
    · rename_i hordered
      have hbetween := between_of_holds hholds u t t'
      rw [if_pos hserves] at hbetween
      have hrising : Position.AreRising (Position.window ps u t t') := Position.rising_window hkeys
      have hlegs : ∀ p ∈ Position.window ps u t t', ∀ q ∈ Position.window ps u t t',
          p.recordedAt < q.recordedAt →
          ∃ d, greatCircle earthRadius p.coordinates q.coordinates = .ok d := by
        intro p hp q hq
        obtain ⟨hp, hpu, _⟩ := Position.mem_window.mp hp
        obtain ⟨hq, hqu, _⟩ := Position.mem_window.mp hq
        exact hdistances p hp q hq hpu hqu
      obtain ⟨total, htotal⟩ := Route.exists_addLegs hrising hlegs 0.0
      exact together_of_visit (visit_found hvehicle hstart hstop hordered hbetween) hrising htotal

open Service in
theorem Backing.together_watched :
    (watched true).Arises ∧ VehicleRef.fits (some 2) = true ∧
    (∃ ps, (watched true).storedPositions = .ok ps ∧ ps.length = 3 ∧
      ∀ p ∈ ps, ∀ q ∈ ps, p.vehicle = some 2 → q.vehicle = some 2 → p.recordedAt < q.recordedAt →
        ∃ d, greatCircle earthRadius p.coordinates q.coordinates = .ok d) ∧
    ∃ w, TellTogether (watched true) (some 2) (default : Instant).timestamp
      (default : Instant).timestamp w := by
  have hfits : VehicleRef.fits (some 2) = true := by decide
  have htime : (default : Instant).timestamp.instant? = some default :=
    (default : Instant).timestamp_instant?
  let ps : List Position :=
    [⟨some 1, athensCenter, default, some 1⟩, ⟨some 1, athensCenter, ⟨1000000, by decide⟩, some 2⟩,
      ⟨some 2, athensCenter, default, some 3⟩]
  have hps : (watched true).storedPositions = .ok ps := by rfl
  have honly : ∀ p ∈ ps, p.vehicle = some 2 → p.recordedAt = default := by simp [ps]
  have hdistances : ∀ p ∈ ps, ∀ q ∈ ps, p.vehicle = some 2 → q.vehicle = some 2 →
      p.recordedAt < q.recordedAt →
      ∃ d, greatCircle earthRadius p.coordinates q.coordinates = .ok d := by
    intro p hp q hq hpu hqu hlt
    rw [honly p hp hpu, honly q hq hqu] at hlt
    exact absurd hlt (Nat.lt_irrefl _)
  refine ⟨arises_watched true, hfits, ⟨_, hps, rfl, hdistances⟩, ?_⟩
  obtain ⟨hnone, _⟩ | ⟨w, _, htold⟩ :=
    (arises_watched true).together hfits htime htime hps hdistances
  · cases hnone
  · rw [if_neg (show ¬(default : Instant) < default from Nat.lt_irrefl _)] at htold
    exact ⟨w, htold⟩

end FleetTracking
