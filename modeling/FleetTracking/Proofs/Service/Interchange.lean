import FleetTracking.Proofs.Route
import FleetTracking.Proofs.Service.Submission
import FleetTracking.Proofs.Store.Enrollment

/-!
# Memory and tables are interchangeable

Services in front of a memory and of tables that mirror it answer alike, whatever is asked
(`Mirrors.run_eq`), because the stores answer every question of theirs alike. So a fleet that was
enrolled in both can be followed through either (`runAll_interchangeable`).

To answer alike is to answer the same but for the sign of zeros, or to fail for the same reason; of
a repeated position only this is the same, not what is told about it (`settled`).
-/

namespace FleetTracking

/-! ## What answers have in common -/

/-- A value as columns keep it. -/
def Json.stored : Json → Json
  | .float x => .float (storedNumber x)
  | v => v

/-- The record of a position as the tables give it back. -/
def PositionRecord.stored (r : PositionRecord) : PositionRecord :=
  { r with latitude := r.latitude.stored, longitude := r.longitude.stored }

/-- The record of a route as it is with positions that the tables give back. -/
def RouteRecord.stored (r : RouteRecord) : RouteRecord :=
  { r with positions := r.positions.map PositionRecord.stored }

/-- The record of a vehicle with its last position as the tables give it back. -/
def TrackedVehicle.stored (r : TrackedVehicle) : TrackedVehicle :=
  { r with lastPosition := r.lastPosition.map PositionRecord.stored }

/-- An answer in which zeros have no sign. -/
def Answer.stored : Answer → Answer
  | position p => position p.stored
  | positions ps => positions (ps.map Position.stored)
  | route r => route r.stored
  | statistics s => statistics s
  | lastPosition last => lastPosition (last.map PositionRecord.stored)
  | vehicles vs => vehicles vs
  | vehicle v => vehicle v
  | trackedVehicles vs => trackedVehicles (vs.map TrackedVehicle.stored)
  | trackedVehicle v => trackedVehicle v.stored

/-- What is promised of an outcome: zeros have no sign, and of a repeated position no more is said
than that it is one. -/
def settled : Except Failure Answer → Except Failure Answer
  | .ok a => .ok a.stored
  | .error (.duplicatePosition _ _) => .error (.duplicatePosition .null none)
  | .error e => .error e

@[simp] theorem storedNumber_storedNumber (x : Float) :
    storedNumber (storedNumber x) = storedNumber x := by
  unfold storedNumber
  by_cases hx : (x == 0.0) = true
  · rw [if_pos hx]
    rfl
  · rw [if_neg hx, if_neg hx]

@[simp] theorem Json.stored_stored (v : Json) : v.stored.stored = v.stored := by
  cases v with
  | float x => exact congrArg Json.float (storedNumber_storedNumber x)
  | _ => rfl

@[simp] theorem Position.stored_stored (p : Position) : p.stored.stored = p.stored := by
  have hplace : p.coordinates.stored.stored = p.coordinates.stored := by
    unfold Coordinates.stored Point.stored
    simp
  unfold Position.stored
  rw [hplace]

@[simp] theorem PositionRecord.stored_stored (r : PositionRecord) : r.stored.stored = r.stored := by
  simp [PositionRecord.stored]

theorem Answer.stored_stored (a : Answer) : a.stored.stored = a.stored := by
  cases a <;> simp [Answer.stored, RouteRecord.stored, TrackedVehicle.stored, Function.comp_def]

/-- What the tables give back is the same when its signs are forgotten. -/
theorem settled_ok {stored : α → α} {f : α → Answer} (hf : ∀ a, f (stored a) = (f a).stored)
    (a : α) : settled (.ok (f (stored a))) = settled (.ok (f a)) := by
  show Except.ok (f (stored a)).stored = Except.ok (f a).stored
  rw [hf, Answer.stored_stored]

theorem settled_map_eq {stored : α → α} {x y : Except Failure α} (h : y = x.map stored)
    {f : α → Answer} (hf : ∀ a, f (stored a) = (f a).stored) :
    settled (y.map f) = settled (x.map f) := by
  rw [h]
  cases x with
  | error e => rfl
  | ok a => exact settled_ok hf a

theorem PositionRecord.ofPosition_stored (p : Position) :
    ofPosition p.stored = (ofPosition p).stored := rfl

theorem Position.Fits.vehicle_fits {p : Position} (h : p.Fits) : p.vehicle.fits = true := by
  obtain ⟨id, hid, hfits⟩ := h
  rw [hid]
  exact hfits

namespace Mirrors

variable {m : Memory} {c : Connection} (h : Mirrors m c)

include h

/-! ## Rules -/

theorem check_eq (box : Box) {p : Position} (hp : p.Fits) (rule : Rule) :
    Validator.check box c p rule = Validator.check box m p rule := by
  unfold Validator.check
  cases rule with
  | bounds => rfl
  | «exists» | active => rw [h.vehicle?_eq hp.vehicle_fits]
  | duplicate => rw [h.isRecorded_eq hp.vehicle_fits]

theorem validate_eq (v : Validator) {p : Position} (hp : p.Fits) :
    v.validate c p = v.validate m p := by
  have hviolations (rules : List Rule) :
      Validator.violations v.box c p rules = Validator.violations v.box m p rules := by
    induction rules with
    | nil => rfl
    | cons rule rules ih =>
      unfold Validator.violations
      rw [h.check_eq v.box hp, ih]
  unfold Validator.validate
  rw [hviolations]

theorem validateBatch_eq {ps : List Position} (hps : ∀ p ∈ ps, p.Fits) :
    Validator.validateBatch c ps = Validator.validateBatch m ps := by
  cases ps with
  | nil => rfl
  | cons p rest =>
    unfold Validator.validateBatch
    dsimp only
    rw [h.vehicle?_eq (hps p List.mem_cons_self).vehicle_fits]

theorem screen_eq (v : Validator) (seen : List Instant) {ps : List Position}
    (hps : ∀ p ∈ ps, p.Fits) : Service.screen v c seen ps = Service.screen v m seen ps := by
  induction ps generalizing seen with
  | nil => rfl
  | cons p rest ih =>
    obtain ⟨hp, hrest⟩ := List.forall_mem_cons.mp hps
    unfold Service.screen Service.itemViolations
    rw [h.validate_eq v hp]
    simp only [ih _ hrest]

theorem select_eq (v : Validator) (policy : BatchPolicy) {ps : List Position}
    (hps : ∀ p ∈ ps, p.Fits) : Service.select v policy c ps = Service.select v policy m ps := by
  unfold Service.select
  rw [h.validateBatch_eq hps, h.screen_eq v [] hps]

/-! ## Questions -/

theorem requireVehicle_eq {u : VehicleRef} (hu : u.fits = true) :
    Service.requireVehicle c u = Service.requireVehicle m u := by
  unfold Service.requireVehicle
  rw [h.vehicle?_eq hu]

theorem visit_eq {u : VehicleRef} (hu : u.fits = true) (start stop : Timestamp) :
    Service.visit c u start stop =
      (Service.visit m u start stop).map (Prod.map id (List.map Position.stored)) := by
  unfold Service.visit
  rw [h.requireVehicle_eq hu]
  cases Service.requireVehicle m u with
  | error e => rfl
  | ok w =>
    cases Service.checkWindow start stop with
    | error e => rfl
    | ok window =>
      show (do return (w, ← FleetStore.between c u window.1 window.2)) = _
      rw [h.between_eq hu]
      rfl

/-- Distances between places of a visit do not depend on the store. -/
theorem distance_eq {u : VehicleRef} {start stop : Timestamp} {w : Vehicle} {ps : List Position}
    (hps : Service.visit m u start stop = .ok (w, ps)) (radius : Float) :
    ∀ p ∈ ps, ∀ q ∈ ps, greatCircle radius p.coordinates.stored q.coordinates.stored =
      greatCircle radius p.coordinates q.coordinates := by
  obtain ⟨_, _, hps⟩ := bind_eq_ok.mp hps
  obtain ⟨window, _, hps⟩ := bind_eq_ok.mp hps
  obtain ⟨found, hfound, hps⟩ := bind_eq_ok.mp hps
  cases hfound
  cases hps
  have hkept {p : Position} (hp : p ∈ m.between u window.1 window.2) : p.coordinates.IsKept :=
    h.isKept p (List.mem_filter.mp (List.mem_filter.mp (List.mem_mergeSort.mp hp)).1).1
  exact fun p hp q hq => greatCircle_stored radius (hkept hp) (hkept hq)

theorem positions_eq {u : VehicleRef} (hu : u.fits = true) (start stop : Timestamp) :
    Service.positions c u start stop =
      (Service.positions m u start stop).map (List.map Position.stored) := by
  unfold Service.positions
  rw [h.visit_eq hu]
  cases Service.visit m u start stop <;> rfl

theorem route_eq {u : VehicleRef} (hu : u.fits = true) (start stop : Timestamp) :
    Service.route c u start stop = (Service.route m u start stop).map RouteRecord.stored := by
  unfold Service.route
  rw [h.visit_eq hu]
  cases hvisit : Service.visit m u start stop with
  | error e => rfl
  | ok visited =>
    obtain ⟨w, ps⟩ := visited
    have htotal : Route.totalDistance (greatCircle earthRadius) (ps.map Position.stored) =
        Route.totalDistance (greatCircle earthRadius) ps :=
      Route.addLegs_map (h.distance_eq hvisit earthRadius) 0.0
    dsimp only [Except.map, Prod.map, bind, Except.bind]
    rw [htotal]
    cases Route.totalDistance (greatCircle earthRadius) ps with
    | error e => rfl
    | ok total =>
      refine congrArg Except.ok ?_
      simp [RouteRecord.stored, Function.comp_def, PositionRecord.ofPosition_stored]

theorem statistics_eq {u : VehicleRef} (hu : u.fits = true) (start stop : Timestamp) :
    Service.statistics c u start stop = Service.statistics m u start stop := by
  unfold Service.statistics Service.positions
  rw [h.visit_eq hu]
  cases hvisit : Service.visit m u start stop with
  | error e => rfl
  | ok visited =>
    obtain ⟨w, ps⟩ := visited
    exact Route.statistics_map (fun _ => rfl) (h.distance_eq hvisit earthRadius)

theorem lastPosition_eq {u : VehicleRef} (hu : u.fits = true) :
    Service.lastPosition c u =
      (Service.lastPosition m u).map (Option.map PositionRecord.stored) := by
  unfold Service.lastPosition
  rw [h.requireVehicle_eq hu, h.last?_eq hu]
  cases Service.requireVehicle m u with
  | error e => rfl
  | ok w =>
    cases hlast : FleetStore.last? m u with
    | error e => rfl
    | ok last => cases last <;> rfl

theorem allVehicles_eq : Service.allVehicles c = Service.allVehicles m := by
  unfold Service.allVehicles
  rw [h.vehicles_eq]

theorem vehicle_eq {u : VehicleRef} (hu : u.fits = true) :
    Service.vehicle c u = Service.vehicle m u := by
  unfold Service.vehicle
  rw [h.requireVehicle_eq hu]

theorem track_eq {w : Vehicle} (hw : fitsColumn w.id = true) :
    Service.track c w = (Service.track m w).map TrackedVehicle.stored := by
  unfold Service.track
  rw [h.last?_eq (u := some w.id) hw]
  cases hlast : FleetStore.last? m (some w.id) with
  | error e => rfl
  | ok last => cases last <;> rfl

theorem trackedVehicles_eq : Service.trackedVehicles c =
    (Service.trackedVehicles m).map (List.map TrackedVehicle.stored) := by
  unfold Service.trackedVehicles
  rw [h.vehicles_eq]
  refine mapM_eq_map (l := m.vehiclesByName) ?_
  intro w hw
  exact h.track_eq (h.identifiers w (List.mem_mergeSort.mp hw))

theorem trackedVehicle_eq {u : VehicleRef} (hu : u.fits = true) :
    Service.trackedVehicle c u = (Service.trackedVehicle m u).map TrackedVehicle.stored := by
  unfold Service.trackedVehicle
  rw [h.requireVehicle_eq hu]
  cases hw : Service.requireVehicle m u with
  | error e => rfl
  | ok w =>
    obtain ⟨found, hfound, hw⟩ := bind_eq_ok.mp hw
    cases found with
    | none => nomatch hw
    | some w' =>
      cases hw
      obtain ⟨id, _, hfind⟩ := Option.bind_eq_some_iff.mp (Except.ok.inj hfound)
      exact h.track_eq (h.identifiers w (List.mem_of_find?_eq_some hfind))

end Mirrors

/-! ## Submissions -/

/-- Outcomes in a memory and in tables that are alike, and leave the one mirrored by the other. -/
structure Agree (stored : α → α) (x : Except Failure α × Memory)
    (y : Except Failure α × Connection) : Prop where
  answer : (∃ a, x.1 = .ok a ∧ y.1 = .ok (stored a)) ∨
    ∃ e e', x.1 = .error e ∧ y.1 = .error e' ∧ settled (.error e') = settled (.error e)
  mirrors : Mirrors x.2 y.2

namespace Mirrors

variable {m : Memory} {c : Connection} (h : Mirrors m c)

include h

theorem agree_ok {stored : α → α} (a : α) : Agree stored (.ok a, m) (.ok (stored a), c) :=
  ⟨.inl ⟨a, rfl, rfl⟩, h⟩

theorem agree_error {stored : α → α} (e : Failure) : Agree stored (.error e, m) (.error e, c) :=
  ⟨.inr ⟨e, e, rfl, rfl, rfl⟩, h⟩

theorem agree_store {ps : List Position} (hfits : ∀ p ∈ ps, p.Fits)
    (hkept : ∀ p ∈ ps, p.coordinates.IsKept) :
    Agree (List.map Position.stored) (Service.store m ps) (Service.store c ps) := by
  obtain ⟨u, t, u', t', hm, hc⟩ | ⟨saved, m', c', hm, hc, h'⟩ := h.store_cases hfits hkept
  · rw [hm, hc]
    exact ⟨.inr ⟨_, _, rfl, rfl, rfl⟩, h⟩
  · rw [hm, hc]
    exact h'.agree_ok saved

theorem agree_submit (v : Validator) {p? : Option Position} (hfits : ∀ p ∈ p?, p.Fits)
    (hkept : ∀ p ∈ p?, p.coordinates.IsKept) :
    Agree Position.stored (Service.submit v m p?) (Service.submit v c p?) := by
  cases p? with
  | none => exact h.agree_error _
  | some p =>
    unfold Service.submit
    dsimp only
    rw [h.validate_eq v (hfits p rfl)]
    cases v.validate m p with
    | error e => exact h.agree_error e
    | ok verdict =>
      cases verdict with
      | refused reasons => exact h.agree_error _
      | accepted =>
        -- what is stored under the position is the head of what the save answers
        have hstore : Agree _ (Service.store m [p]) (Service.store c [p]) :=
          h.agree_store (by simpa using hfits p rfl) (by simpa using hkept p rfl)
        dsimp only
        refine ⟨?_, hstore.mirrors⟩
        dsimp only
        obtain ⟨saved, hm, hc⟩ | ⟨e, e', hm, hc, hsettled⟩ := hstore.answer
        · rw [hm, hc]
          cases saved with
          | nil => exact .inr ⟨_, _, rfl, rfl, rfl⟩
          | cons q others => exact .inl ⟨q, rfl, rfl⟩
        · rw [hm, hc]
          exact .inr ⟨e, e', rfl, rfl, hsettled⟩

theorem agree_submitBatch (v : Validator) (policy : BatchPolicy) {ps? : Option (List Position)}
    (hfits : ∀ ps ∈ ps?, ∀ p ∈ ps, p.Fits) (hkept : ∀ ps ∈ ps?, ∀ p ∈ ps, p.coordinates.IsKept) :
    Agree (List.map Position.stored) (Service.submitBatch v policy m ps?)
      (Service.submitBatch v policy c ps?) := by
  cases ps? with
  | none => exact h.agree_error _
  | some ps =>
    unfold Service.submitBatch
    dsimp only
    rw [h.select_eq v policy (hfits ps rfl)]
    cases hselect : Service.select v policy m ps with
    | error e => exact h.agree_error e
    | ok accepted =>
      have hsubset := Service.accepted_subset_of_select hselect
      cases accepted with
      | nil => exact h.agree_ok []
      | cons p rest =>
        exact h.agree_store (fun q hq => hfits ps rfl q (hsubset q hq))
          fun q hq => hkept ps rfl q (hsubset q hq)

end Mirrors

/-! ## Requests -/

namespace Request

/-- The vehicles that a request asks about. -/
def asked : Request → List VehicleRef
  | positions u _ _ | route u _ _ | statistics u _ _ => [u]
  | lastPosition u | vehicle u | trackedVehicle u => [u]
  | _ => []

/-- The identifiers of a request fit their columns. -/
structure Fits (r : Request) : Prop where
  submitted : ∀ p ∈ r.submitted, p.Fits
  asked : ∀ u ∈ r.asked, u.fits = true

end Request

theorem Agree.settled_eq {stored : α → α} {x : Except Failure α × Memory}
    {y : Except Failure α × Connection} (h : Agree stored x y) {f : α → Answer}
    (hf : ∀ a, f (stored a) = (f a).stored) :
    settled (y.1.map f) = settled (x.1.map f) := by
  obtain ⟨a, hx, hy⟩ | ⟨e, e', hx, hy, hsettled⟩ := h.answer
  · rw [hx, hy]
    exact settled_ok hf a
  · rw [hx, hy]
    exact hsettled

namespace Mirrors

variable {m : Memory} {c : Connection} (h : Mirrors m c)

include h

/-- Services answer a request alike, and what they stored is mirrored. -/
theorem run_eq (v : Validator) {r : Request} (hfits : r.Fits)
    (hkept : ∀ p ∈ r.submitted, p.coordinates.IsKept) :
    settled (r.run v c).1 = settled (r.run v m).1 ∧ Mirrors (r.run v m).2 (r.run v c).2 := by
  have hu {u : VehicleRef} (hasked : u ∈ r.asked) : u.fits = true := hfits.asked u hasked
  -- submissions change both stores, and questions leave both as they are
  cases r with
  | submit p? =>
    have hagree : Agree _ (Service.submit v m p?) (Service.submit v c p?) :=
      h.agree_submit v (fun p hp => hfits.submitted p (Option.mem_toList.mpr hp))
        fun p hp => hkept p (Option.mem_toList.mpr hp)
    exact ⟨hagree.settled_eq fun _ => rfl, hagree.mirrors⟩
  | submitBatch policy ps? =>
    have hagree : Agree (List.map Position.stored) (Service.submitBatch v policy m ps?)
        (Service.submitBatch v policy c ps?) := by
      refine h.agree_submitBatch v policy ?_ ?_
      · rintro ps rfl
        exact hfits.submitted
      · rintro ps rfl
        exact hkept
    exact ⟨hagree.settled_eq fun _ => rfl, hagree.mirrors⟩
  | positions u start stop =>
    exact ⟨settled_map_eq (h.positions_eq (hu (List.mem_singleton_self _)) start stop)
      fun _ => rfl, h⟩
  | route u start stop =>
    exact ⟨settled_map_eq (h.route_eq (hu (List.mem_singleton_self _)) start stop) fun _ => rfl, h⟩
  | statistics u start stop =>
    have hsame := h.statistics_eq (hu (List.mem_singleton_self _)) start stop
    exact ⟨congrArg (fun x => settled (x.map Answer.statistics)) hsame, h⟩
  | lastPosition u =>
    exact ⟨settled_map_eq (h.lastPosition_eq (hu (List.mem_singleton_self _))) fun _ => rfl, h⟩
  | allVehicles => exact ⟨congrArg (fun x => settled (x.map Answer.vehicles)) h.allVehicles_eq, h⟩
  | vehicle u =>
    have hsame := h.vehicle_eq (hu (List.mem_singleton_self _))
    exact ⟨congrArg (fun x => settled (x.map Answer.vehicle)) hsame, h⟩
  | trackedVehicles => exact ⟨settled_map_eq h.trackedVehicles_eq fun _ => rfl, h⟩
  | trackedVehicle u =>
    exact ⟨settled_map_eq (h.trackedVehicle_eq (hu (List.mem_singleton_self _))) fun _ => rfl, h⟩

/-- Services answer all requests of a run alike. -/
theorem runAll_eq (v : Validator) {rs : List Request} (hfits : ∀ r ∈ rs, r.Fits)
    (hkept : ∀ r ∈ rs, ∀ p ∈ r.submitted, p.coordinates.IsKept) :
    (Request.runAll v c rs).1.map settled = (Request.runAll v m rs).1.map settled := by
  -- every request hands on stores that mirror each other
  induction rs generalizing m c with
  | nil => rfl
  | cons r rest ih =>
    obtain ⟨hr, hrest⟩ := List.forall_mem_cons.mp hfits
    obtain ⟨hrkept, hrestkept⟩ := List.forall_mem_cons.mp hkept
    obtain ⟨hanswer, hmirrors⟩ := h.run_eq v hr hrkept
    show settled (r.run v c).1 :: (Request.runAll v (r.run v c).2 rest).1.map settled = _
    rw [hanswer, ih hmirrors hrest hrestkept]
    rfl

end Mirrors

/-- A fleet that is enrolled in memory and in tables is followed alike through both: every run of
requests gets the same answers. Where a position has a negative zero, this rests on what sine,
cosine and power do with it. -/
theorem runAll_interchangeable {fleet : List VehicleDraft} (hfleet : ∀ v ∈ fleet, v.IsEnrollable)
    (hids : (∀ v ∈ fleet, v.id = none) ∧ fitsColumn fleet.length = true ∨
      (∀ v ∈ fleet, v.id.isSome = true) ∧ (fleet.map VehicleDraft.id).Nodup)
    (hnames : (fleet.map VehicleDraft.name).Nodup) (v : Validator) {rs : List Request}
    (hfits : ∀ r ∈ rs, r.Fits)
    (hzeros : (∀ r ∈ rs, ∀ p ∈ r.submitted, p.coordinates.stored = p.coordinates) ∨
      Double.SignedZeros) :
    ∃ vs m c, enroll Memory.empty fleet = (.ok vs, m) ∧
      enroll Connection.empty fleet = (.ok vs, c) ∧
      (Request.runAll v c rs).1.map settled = (Request.runAll v m rs).1.map settled := by
  have hcounts : CountsAlike .empty [] fleet := by
    rcases hids with ⟨hnone, hlength⟩ | ⟨hsome, hnodup⟩
    · refine .inr ⟨hnone, rfl, by decide, ?_⟩
      have hlast : (1 : Int) + fleet.length - 1 = fleet.length := by omega
      show fitsColumn (1 + fleet.length - 1) = true
      rw [hlast]
      exact hlength
    · exact .inl ⟨hsome, hnodup⟩
  obtain ⟨vs, m, c, hm, hc, hmirrors⟩ := mirrors_enroll hfleet hcounts hnames
  have hkept : ∀ r ∈ rs, ∀ p ∈ r.submitted, p.coordinates.IsKept := fun r hr p hp =>
    hzeros.imp (fun h => h r hr p hp) id
  exact ⟨vs, m, c, hm, hc, hmirrors.runAll_eq v hfits hkept⟩

/-- Two vehicles without identifiers. -/
def twoVehicles : List VehicleDraft :=
  [⟨none, some "Bus", true, some (default : Instant).timestamp⟩,
    ⟨none, some "Ambulance", true, some (default : Instant).timestamp⟩]

/-- A position of the second vehicle. -/
def secondPosition : Position := ⟨some 2, athensCenter, default, none⟩

/-- A run in which a position is stored, and repeated without effect. -/
def repeatingRun : List Request :=
  [.submit (some secondPosition), .submitBatch .lenient (some [secondPosition]),
    .lastPosition (some 2), .trackedVehicles]

theorem runAll_repeatingRun :
    ∃ vs m c, enroll Memory.empty twoVehicles = (.ok vs, m) ∧
      enroll Connection.empty twoVehicles = (.ok vs, c) ∧
      (Request.runAll (.canonical .athens) c repeatingRun).1.map settled =
        (Request.runAll (.canonical .athens) m repeatingRun).1.map settled := by
  have hfleet : ∀ v ∈ twoVehicles, v.IsEnrollable := by
    intro v hv
    simp only [twoVehicles, List.mem_cons, List.not_mem_nil, or_false] at hv
    rcases hv with rfl | rfl
    · exact ⟨by decide, by decide, rfl, _, rfl, rfl⟩
    · exact ⟨by decide, by decide, rfl, _, rfl, rfl⟩
  have hids : ∀ v ∈ twoVehicles, v.id = none := by simp [twoVehicles]
  have hposition : secondPosition.Fits := ⟨2, rfl, by decide⟩
  have hplace : secondPosition.coordinates.stored = secondPosition.coordinates := by rfl
  have hfits : ∀ r ∈ repeatingRun, r.Fits := by
    have hvehicle : VehicleRef.fits (some 2) = true := by decide
    intro r hr
    simp only [repeatingRun, List.mem_cons, List.not_mem_nil, or_false] at hr
    rcases hr with rfl | rfl | rfl | rfl <;> constructor <;>
      simp [Request.submitted, Request.asked, hposition, hvehicle]
  have hplaces : ∀ r ∈ repeatingRun, ∀ p ∈ r.submitted, p.coordinates.stored = p.coordinates := by
    simp [repeatingRun, Request.submitted, hplace]
  exact runAll_interchangeable hfleet (.inl ⟨hids, by decide⟩) (by decide) (.canonical .athens)
    hfits (.inl hplaces)

end FleetTracking
