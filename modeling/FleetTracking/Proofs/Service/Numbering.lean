import FleetTracking.Proofs.Route
import FleetTracking.Proofs.Service.Request
import FleetTracking.Proofs.Store.Window

/-!
# Stores that number their positions differently

Positions that were stored in another order are the same but for their numbers. Where no two of them
share a key, services in front of both stores answer every question alike, again but for the numbers
(`SameButNumbers.run_eq`).

Two stores are related by what they answer (`SameButNumbers`), and every service is taken through
the questions that it asks. Stores come into it only in `Backing.sameButNumbers`.
-/

namespace FleetTracking

/-! ## Leaving numbers off -/

/-- A position without its number. -/
def Position.unnumbered (p : Position) : Position := p.withId none

/-- The record of a position without its number. -/
def PositionRecord.unnumbered (r : PositionRecord) : PositionRecord := { r with id := .null }

/-- The record of a route whose positions have no numbers. -/
def RouteRecord.unnumbered (r : RouteRecord) : RouteRecord :=
  { r with positions := r.positions.map PositionRecord.unnumbered }

/-- The record of a vehicle whose last position has no number. -/
def TrackedVehicle.unnumbered (r : TrackedVehicle) : TrackedVehicle :=
  { r with lastPosition := r.lastPosition.map PositionRecord.unnumbered }

/-- An answer in which positions have no numbers. -/
def Answer.unnumbered : Answer → Answer
  | position p => position p.unnumbered
  | positions ps => positions (ps.map Position.unnumbered)
  | route r => route r.unnumbered
  | statistics s => statistics s
  | lastPosition last => lastPosition (last.map PositionRecord.unnumbered)
  | vehicles vs => vehicles vs
  | vehicle v => vehicle v
  | trackedVehicles vs => trackedVehicles (vs.map TrackedVehicle.unnumbered)
  | trackedVehicle v => trackedVehicle v.unnumbered

/-- Outcomes that are the same but for what `k` leaves off give answers that are the same but for
numbers, if `k` leaves off the numbers of these answers. -/
theorem Answer.map_unnumbered_eq {k : α → α} {f : α → Answer} {x y : Except Failure α}
    (h : x.map k = y.map k) (hf : ∀ a, (f a).unnumbered = f (k a)) :
    (x.map f).map unnumbered = (y.map f).map unnumbered := by
  have hmap (z : Except Failure α) : (z.map f).map unnumbered = (z.map k).map f := by
    cases z with
    | error e => rfl
    | ok a => exact congrArg Except.ok (hf a)
  rw [hmap, hmap, h]

/-! ## The relation -/

/-- Both stores answer alike what they are asked, but for the numbers of positions. -/
structure SameButNumbers [FleetStore σ] (s s' : σ) : Prop where
  vehicle? : FleetStore.vehicle? s' = FleetStore.vehicle? s
  vehicles : FleetStore.vehicles s' = FleetStore.vehicles s
  between : ∀ u start stop,
    (FleetStore.between s' u start stop).map (List.map Position.unnumbered) =
      (FleetStore.between s u start stop).map (List.map Position.unnumbered)
  last? : ∀ u, (FleetStore.last? s' u).map (Option.map Position.unnumbered) =
    (FleetStore.last? s u).map (Option.map Position.unnumbered)

namespace SameButNumbers

variable {σ : Type} [FleetStore σ] {s s' : σ} (h : SameButNumbers s s')

include h

/-! ## Positions and routes -/

theorem requireVehicle_eq (u : VehicleRef) :
    Service.requireVehicle s' u = Service.requireVehicle s u := by
  unfold Service.requireVehicle
  rw [h.vehicle?]

theorem visit_eq (u : VehicleRef) (start stop : Timestamp) :
    (Service.visit s' u start stop).map (Prod.map id (List.map Position.unnumbered)) =
      (Service.visit s u start stop).map (Prod.map id (List.map Position.unnumbered)) := by
  unfold Service.visit
  rw [h.requireVehicle_eq]
  cases Service.requireVehicle s u with
  | error e => rfl
  | ok w =>
    cases Service.checkWindow start stop with
    | error e => rfl
    | ok window =>
      show Except.map _ (do return (w, ← FleetStore.between s' u window.1 window.2)) =
        Except.map _ (do return (w, ← FleetStore.between s u window.1 window.2))
      obtain ⟨e, hs', hs⟩ | ⟨qs, ps, hs', hs, hsame⟩ :=
        map_eq_map (h.between u window.1 window.2)
      · rw [hs, hs']
      · rw [hs, hs']
        exact congrArg (fun l => Except.ok (w, l)) hsame

/-- What services make of a visit, they make of the other one too. -/
theorem visit_cases (u : VehicleRef) (start stop : Timestamp) :
    (∃ e, Service.visit s' u start stop = .error e ∧ Service.visit s u start stop = .error e) ∨
    ∃ w qs ps, Service.visit s' u start stop = .ok (w, qs) ∧
      Service.visit s u start stop = .ok (w, ps) ∧
      qs.map Position.unnumbered = ps.map Position.unnumbered := by
  obtain hfailed | ⟨⟨w, qs⟩, ⟨w', ps⟩, hs', hs, hsame⟩ := map_eq_map (h.visit_eq u start stop)
  · exact .inl hfailed
  · obtain ⟨hw, hps⟩ := Prod.mk.inj hsame
    exact .inr ⟨w, qs, ps, hs', by rw [hs, show w = w' from hw], hps⟩

theorem positions_eq (u : VehicleRef) (start stop : Timestamp) :
    (Service.positions s' u start stop).map (List.map Position.unnumbered) =
      (Service.positions s u start stop).map (List.map Position.unnumbered) := by
  unfold Service.positions
  obtain ⟨e, hs', hs⟩ | ⟨w, qs, ps, hs', hs, hsame⟩ := h.visit_cases u start stop
  · rw [hs, hs']
  · rw [hs, hs']
    exact congrArg Except.ok hsame

omit [FleetStore σ] h in
theorem totalDistance_eq {distance : Coordinates → Coordinates → Except Failure Float}
    {ps qs : List Position} (h : qs.map Position.unnumbered = ps.map Position.unnumbered) :
    Route.totalDistance distance qs = Route.totalDistance distance ps := by
  have hunnumbered (l : List Position) :
      Route.totalDistance distance (l.map Position.unnumbered) = Route.totalDistance distance l :=
    Route.addLegs_map (f := Position.unnumbered) (fun _ _ _ _ => rfl) 0.0
  rw [← hunnumbered, h, hunnumbered]

theorem route_eq (u : VehicleRef) (start stop : Timestamp) :
    (Service.route s' u start stop).map RouteRecord.unnumbered =
      (Service.route s u start stop).map RouteRecord.unnumbered := by
  unfold Service.route
  obtain ⟨e, hs', hs⟩ | ⟨w, qs, ps, hs', hs, hsame⟩ := h.visit_cases u start stop
  · rw [hs, hs']
  · have hrecords (l : List Position) :
        (l.map PositionRecord.ofPosition).map PositionRecord.unnumbered =
          (l.map Position.unnumbered).map PositionRecord.ofPosition := by
      rw [List.map_map, List.map_map]
      rfl
    have hlength : qs.length = ps.length := by
      rw [← List.length_map (f := Position.unnumbered), hsame, List.length_map]
    rw [hs, hs']
    dsimp only [bind, Except.bind]
    rw [totalDistance_eq hsame]
    cases Route.totalDistance (greatCircle earthRadius) ps with
    | error e => rfl
    | ok total =>
      show Except.ok (RouteRecord.unnumbered _) = Except.ok (RouteRecord.unnumbered _)
      simp only [RouteRecord.unnumbered, hrecords, hsame, hlength]

theorem statistics_eq (u : VehicleRef) (start stop : Timestamp) :
    Service.statistics s' u start stop = Service.statistics s u start stop := by
  have hunnumbered (l : List Position) :
      Route.statistics (greatCircle earthRadius) (l.map Position.unnumbered) =
        Route.statistics (greatCircle earthRadius) l :=
    Route.statistics_map (f := Position.unnumbered) (fun _ => rfl) fun _ _ _ _ => rfl
  unfold Service.statistics
  obtain ⟨e, hs', hs⟩ | ⟨qs, ps, hs', hs, hsame⟩ := map_eq_map (h.positions_eq u start stop)
  · rw [hs, hs']
  · rw [hs, hs']
    show Route.statistics _ qs = Route.statistics _ ps
    rw [← hunnumbered, hsame, hunnumbered]

/-! ## Vehicles and their last positions -/

theorem records_eq (u : VehicleRef) :
    ((FleetStore.last? s' u).map (Option.map PositionRecord.ofPosition)).map
        (Option.map PositionRecord.unnumbered) =
      ((FleetStore.last? s u).map (Option.map PositionRecord.ofPosition)).map
        (Option.map PositionRecord.unnumbered) := by
  have hrecord (last : Option Position) :
      (last.map PositionRecord.ofPosition).map PositionRecord.unnumbered =
        (last.map Position.unnumbered).map PositionRecord.ofPosition := by
    cases last <;> rfl
  obtain ⟨e, hs', hs⟩ | ⟨last', last, hs', hs, hsame⟩ := map_eq_map (h.last? u)
  · rw [hs, hs']
  · rw [hs, hs']
    show Except.ok _ = Except.ok _
    rw [hrecord, hrecord, hsame]

theorem lastPosition_eq (u : VehicleRef) :
    (Service.lastPosition s' u).map (Option.map PositionRecord.unnumbered) =
      (Service.lastPosition s u).map (Option.map PositionRecord.unnumbered) := by
  unfold Service.lastPosition
  rw [h.requireVehicle_eq]
  cases Service.requireVehicle s u with
  | error e => rfl
  | ok w =>
    have hrecords := h.records_eq u
    exact hrecords

theorem allVehicles_eq : Service.allVehicles s' = Service.allVehicles s := by
  unfold Service.allVehicles
  rw [h.vehicles]

theorem vehicle_eq (u : VehicleRef) : Service.vehicle s' u = Service.vehicle s u := by
  unfold Service.vehicle
  rw [h.requireVehicle_eq]

theorem track_eq (w : Vehicle) :
    (Service.track s' w).map TrackedVehicle.unnumbered =
      (Service.track s w).map TrackedVehicle.unnumbered := by
  unfold Service.track
  obtain ⟨e, hs', hs⟩ | ⟨last', last, hs', hs, hsame⟩ := map_eq_map (h.records_eq (some w.id))
  · rw [map_eq_error.mp hs', map_eq_error.mp hs]
  · obtain ⟨q?, hq, rfl⟩ := map_eq_ok.mp hs'
    obtain ⟨p?, hp, rfl⟩ := map_eq_ok.mp hs
    rw [hq, hp]
    exact congrArg (fun last => Except.ok (TrackedVehicle.mk (.ofVehicle w) last)) hsame

theorem trackedVehicles_eq :
    (Service.trackedVehicles s').map (List.map TrackedVehicle.unnumbered) =
      (Service.trackedVehicles s).map (List.map TrackedVehicle.unnumbered) := by
  unfold Service.trackedVehicles
  rw [h.vehicles]
  cases FleetStore.vehicles s with
  | error e => rfl
  | ok ws =>
    show (ws.mapM (Service.track s')).map _ = (ws.mapM (Service.track s)).map _
    rw [← mapM_eq_map fun w _ => h.track_eq w, mapM_eq_map fun w _ => rfl]

theorem trackedVehicle_eq (u : VehicleRef) :
    (Service.trackedVehicle s' u).map TrackedVehicle.unnumbered =
      (Service.trackedVehicle s u).map TrackedVehicle.unnumbered := by
  unfold Service.trackedVehicle
  rw [h.requireVehicle_eq]
  cases Service.requireVehicle s u with
  | error e => rfl
  | ok w => exact h.track_eq w

/-- Services answer every question alike, but for the numbers of positions. -/
theorem run_eq (v : Validator) {r : Request} (hr : r.isSubmission = false) :
    (r.run v s').1.map Answer.unnumbered = (r.run v s).1.map Answer.unnumbered := by
  cases r with
  | submit _ | submitBatch _ _ => nomatch hr
  | positions u start stop =>
    exact Answer.map_unnumbered_eq (h.positions_eq u start stop) fun _ => rfl
  | route u start stop => exact Answer.map_unnumbered_eq (h.route_eq u start stop) fun _ => rfl
  | statistics u start stop =>
    exact congrArg (fun x => (x.map Answer.statistics).map Answer.unnumbered)
      (h.statistics_eq u start stop)
  | lastPosition u => exact Answer.map_unnumbered_eq (h.lastPosition_eq u) fun _ => rfl
  | allVehicles =>
    exact congrArg (fun x => (x.map Answer.vehicles).map Answer.unnumbered) h.allVehicles_eq
  | vehicle u =>
    exact congrArg (fun x => (x.map Answer.vehicle).map Answer.unnumbered) (h.vehicle_eq u)
  | trackedVehicles => exact Answer.map_unnumbered_eq h.trackedVehicles_eq fun _ => rfl
  | trackedVehicle u => exact Answer.map_unnumbered_eq (h.trackedVehicle_eq u) fun _ => rfl

end SameButNumbers

/-! ## Stores of the same positions -/

namespace Backing

/-- The same of both stores is at work, and it knows the same vehicles. -/
structure SameFleet (b b' : Backing) : Prop where
  usesTables : b'.usesTables = b.usesTables
  vehicle? : FleetStore.vehicle? b' = FleetStore.vehicle? b
  vehicles : FleetStore.vehicles b' = FleetStore.vehicles b

theorem SameFleet.refl (b : Backing) : b.SameFleet b := ⟨rfl, rfl, rfl⟩

theorem SameFleet.symm {b b' : Backing} (h : b.SameFleet b') : b'.SameFleet b :=
  ⟨h.usesTables.symm, h.vehicle?.symm, h.vehicles.symm⟩

theorem SameFleet.trans {b b' b'' : Backing} (h : b.SameFleet b') (h' : b'.SameFleet b'') :
    b.SameFleet b'' :=
  ⟨h'.usesTables.trans h.usesTables, h'.vehicle?.trans h.vehicle?, h'.vehicles.trans h.vehicles⟩

theorem SameFleet.serves_eq {b b' : Backing} (h : b.SameFleet b') (u : VehicleRef) :
    b'.serves u = b.serves u := by
  unfold serves ask
  rw [h.usesTables]

/-- Two stores of the same vehicles, and of positions that are the same but for their order and
numbers, are told apart by nothing but the numbers if no two positions share a key. -/
theorem sameButNumbers {b b' : Backing} {ps qs : List Position} (hb : b.Holds ps)
    (hb' : b'.Holds qs) (hfleet : b.SameFleet b') (hkeys : (ps.map Position.key).Nodup)
    (hperm : (ps.map Position.unnumbered).Perm (qs.map Position.unnumbered)) :
    SameButNumbers b b' := by
  have hkeys' : ((ps.map Position.unnumbered).map Position.key).Nodup := by
    rw [List.map_map]
    exact hkeys
  refine ⟨hfleet.vehicle?, hfleet.vehicles, ?_, ?_⟩
  · intro u start stop
    have hwindow : (Position.window qs u start stop).map Position.unnumbered =
        (Position.window ps u start stop).map Position.unnumbered := by
      rw [← Position.window_map (f := Position.unnumbered) (fun _ => rfl) fun _ => rfl,
        ← Position.window_map (f := Position.unnumbered) (fun _ => rfl) fun _ => rfl,
        Position.window_perm hkeys' hperm]
    rw [between_of_holds hb, between_of_holds hb', hfleet.serves_eq]
    split
    · exact congrArg Except.ok hwindow
    · rfl
  · intro u
    have hlast := isLatest_of_holds hb u
    have hlast' := isLatest_of_holds hb' u
    rw [hfleet.serves_eq] at hlast'
    by_cases hserves : b.serves u = true
    · rw [if_pos hserves] at hlast hlast'
      obtain ⟨last, hlast, hlatest⟩ := hlast
      obtain ⟨last', hlast', hlatest'⟩ := hlast'
      have hmap : IsLatest (ps.map Position.unnumbered) u (last.map Position.unnumbered) :=
        hlatest.map (fun _ => rfl) fun _ => rfl
      have hmap' : IsLatest (qs.map Position.unnumbered) u (last'.map Position.unnumbered) :=
        hlatest'.map (fun _ => rfl) fun _ => rfl
      rw [hlast, hlast']
      exact congrArg Except.ok (hmap.eq_of_perm hkeys' hperm hmap').symm
    · rw [if_neg hserves] at hlast hlast'
      rw [hlast, hlast']

end Backing

end FleetTracking
