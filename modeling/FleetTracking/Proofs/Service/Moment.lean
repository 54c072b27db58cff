import FleetTracking.Fleet.Report
import FleetTracking.Proofs.Calendar
import FleetTracking.Proofs.Service.Invariant
import FleetTracking.Proofs.Store.Window
import FleetTracking.Proofs.Store.Appended

/-!
# Only the moment counts, not how it is written

A timestamp is brought to universal time before anything is done with it. So a run of calls stays
the same when its timestamps are replaced by others that mean the same moments: each call gets the
same reply and leaves the same store (`Call.history_eq_of_rewritten`). A position is rejected as
repeated just if a stored position of its vehicle means the same moment
(`Ready.rejected_as_repeated_iff_moment`).

Moments are compared by arithmetic alone, as civil time less offset (`Timestamp.moment`). Those
outside the calendar are no exception: none of the timestamps that mean one of them has an instant.
-/

namespace FleetTracking

/-! ## Calls with written times -/

/-- A position as it is handed in, before anything is checked. -/
structure Sighting extends Report where
  vehicle : VehicleRef
  id : Option Int

/-- The position that is handed in. -/
def Sighting.position (d : Sighting) : Except Failure Position :=
  Position.report d.vehicle d.place d.recordedAt d.id

/-- The same sighting, its time written in another way. -/
structure Sighting.Rewritten (d d' : Sighting) : Prop where
  vehicle : d'.vehicle = d.vehicle
  place : d'.place = d.place
  id : d'.id = d.id
  moment : d'.recordedAt.moment = d.recordedAt.moment

theorem Sighting.position_ok {d : Sighting} {p : Position} (h : d.position = .ok p) :
    p.vehicle = d.vehicle ∧ (p.recordedAt.micros : Int) = d.recordedAt.moment := by
  obtain ⟨coordinates, _, h⟩ := bind_eq_ok.mp h
  obtain ⟨instant, hinstant, h⟩ := bind_eq_ok.mp h
  cases h
  exact ⟨rfl, Timestamp.micros_of_instant hinstant⟩

theorem Sighting.Rewritten.position_eq {d d' : Sighting} (h : d.Rewritten d') :
    d'.position = d.position := by
  unfold position Position.report
  rw [h.vehicle, h.place, h.id, Timestamp.instant_congr h.moment]

theorem Sighting.mapM_position_eq {ds ds' : List Sighting}
    (h : List.Forall₂ Sighting.Rewritten ds ds') :
    ds'.mapM Sighting.position = ds.mapM Sighting.position := by
  induction h with
  | nil => rfl
  | cons hfirst _ ih => rw [List.mapM_cons, List.mapM_cons, hfirst.position_eq, ih]

/-- What is asked of a service, or of its store, with times as they were written. -/
inductive Call
  | submit (d : Sighting)
  | submitBatch (policy : BatchPolicy) (ds : List Sighting)
  | isRecorded (vehicle : VehicleRef) (time : Timestamp)
  | between (vehicle : VehicleRef) (start stop : Timestamp)
  | positions (vehicle : VehicleRef) (start stop : Timestamp)
  | route (vehicle : VehicleRef) (start stop : Timestamp)
  | statistics (vehicle : VehicleRef) (start stop : Timestamp)

/-- What a call is replied. -/
inductive Reply
  | answer (a : Answer)
  | recorded (b : Bool)

namespace Call

section

variable {σ : Type} [FleetStore σ]

/-- The reply to a request, and the store afterwards. -/
def ask (v : Validator) (s : σ) (r : Request) : Except Failure Reply × σ :=
  (r.run v s).map (Except.map .answer) id

/-- The reply to a submission, which needs what is handed in. -/
def handIn (v : Validator) (s : σ) (handed : Except Failure α) (r : α → Request) :
    Except Failure Reply × σ :=
  match handed with
  | .ok a => ask v s (r a)
  | .error e => (.error e, s)

/-- The reply to a call, and the store afterwards. -/
def run (v : Validator) (s : σ) : Call → Except Failure Reply × σ
  | submit d => handIn v s d.position fun p => .submit (some p)
  | submitBatch policy ds =>
    handIn v s (ds.mapM Sighting.position) fun ps => .submitBatch policy (some ps)
  | isRecorded u t => ((FleetStore.isRecordedAt s u t).map .recorded, s)
  | between u start stop =>
    ((FleetStore.window s u start stop).map fun ps => .answer (.positions ps), s)
  | positions u start stop => ask v s (.positions u start stop)
  | route u start stop => ask v s (.route u start stop)
  | statistics u start stop => ask v s (.statistics u start stop)

/-- The replies to calls one after another, each with the store it left. -/
def history (v : Validator) (s : σ) : List Call → List (Except Failure Reply × σ)
  | [] => []
  | c :: rest => c.run v s :: history v (c.run v s).2 rest

end

/-- The same call, its times written in another way. -/
inductive Rewritten : Call → Call → Prop
  | submit {d d' : Sighting} (h : d.Rewritten d') : Rewritten (.submit d) (.submit d')
  | submitBatch (policy : BatchPolicy) {ds ds' : List Sighting}
    (h : List.Forall₂ Sighting.Rewritten ds ds') :
    Rewritten (.submitBatch policy ds) (.submitBatch policy ds')
  | isRecorded (u : VehicleRef) {t t' : Timestamp} (h : t'.moment = t.moment) :
    Rewritten (.isRecorded u t) (.isRecorded u t')
  | between (u : VehicleRef) {start start' stop stop' : Timestamp}
    (hstart : start'.moment = start.moment) (hstop : stop'.moment = stop.moment) :
    Rewritten (.between u start stop) (.between u start' stop')
  | positions (u : VehicleRef) {start start' stop stop' : Timestamp}
    (hstart : start'.moment = start.moment) (hstop : stop'.moment = stop.moment) :
    Rewritten (.positions u start stop) (.positions u start' stop')
  | route (u : VehicleRef) {start start' stop stop' : Timestamp}
    (hstart : start'.moment = start.moment) (hstop : stop'.moment = stop.moment) :
    Rewritten (.route u start stop) (.route u start' stop')
  | statistics (u : VehicleRef) {start start' stop stop' : Timestamp}
    (hstart : start'.moment = start.moment) (hstop : stop'.moment = stop.moment) :
    Rewritten (.statistics u start stop) (.statistics u start' stop')

variable {σ : Type} [FleetStore σ] {s : σ}

theorem visit_congr {start start' stop stop' : Timestamp} (u : VehicleRef)
    (hstart : start'.moment = start.moment) (hstop : stop'.moment = stop.moment) :
    Service.visit s u start' stop' = Service.visit s u start stop := by
  unfold Service.visit Service.checkWindow
  rw [Timestamp.instant_congr hstart, Timestamp.instant_congr hstop]

theorem positions_congr {start start' stop stop' : Timestamp} (u : VehicleRef)
    (hstart : start'.moment = start.moment) (hstop : stop'.moment = stop.moment) :
    Service.positions s u start' stop' = Service.positions s u start stop := by
  unfold Service.positions
  rw [visit_congr u hstart hstop]

/-- A call whose times are written in another way gets the same reply and leaves the same store. -/
theorem run_eq_of_rewritten (v : Validator) {c c' : Call} (h : c.Rewritten c') :
    c'.run v s = c.run v s := by
  cases h with
  | submit h => rw [run, run, h.position_eq]
  | submitBatch policy h => rw [run, run, Sighting.mapM_position_eq h]
  | isRecorded u h =>
    rw [run, run, FleetStore.isRecordedAt, FleetStore.isRecordedAt, Timestamp.instant_congr h]
  | between u hstart hstop =>
    rw [run, run, FleetStore.window, FleetStore.window, Timestamp.instant_congr hstart,
      Timestamp.instant_congr hstop]
  | positions u hstart hstop =>
    rw [run, run, ask, ask, Request.run, Request.run, positions_congr u hstart hstop]
  | route u hstart hstop =>
    rw [run, run, ask, ask, Request.run, Request.run, Service.route, Service.route,
      visit_congr u hstart hstop]
  | statistics u hstart hstop =>
    rw [run, run, ask, ask, Request.run, Request.run, Service.statistics, Service.statistics,
      positions_congr u hstart hstop]

theorem history_eq (v : Validator) {calls calls' : List Call}
    (h : List.Forall₂ Rewritten calls calls') : history v s calls' = history v s calls := by
  -- every call hands the same store on
  induction h generalizing s with
  | nil => rfl
  | cons hfirst _ ih => rw [history, history, run_eq_of_rewritten v hfirst, ih]

end Call

/-! ## Repeated positions -/

/-- A store at rest that holds these positions, with its tables there, and rows of positions only for
vehicles that can be asked about. -/
structure Ready (b : Backing) (ps : List Position) : Prop where
  isIdle : b.IsIdle
  holds : b.Holds ps
  vehicles : ∃ ws, FleetStore.vehicles b = .ok ws
  serves : ∀ q ∈ ps, b.serves q.vehicle = true

namespace Backing

theorem exists_vehicle? {b : Backing} {ws : List Vehicle} (h : FleetStore.vehicles b = .ok ws)
    {u : VehicleRef} (hu : b.serves u = true) : ∃ found, FleetStore.vehicle? b u = .ok found := by
  match b with
  | ⟨false, m, c⟩ => exact ⟨_, rfl⟩
  | ⟨true, m, c⟩ =>
    obtain ⟨hstalled, hws⟩ :=
      Connection.ask_eq_ok.mp (show c.ask Tables.vehiclesByName = .ok ws from h)
    obtain ⟨rows, hrows, _⟩ := bind_eq_ok.mp hws
    have hfound : c.tables.vehicle? u = .ok _ := bind_eq_ok.mpr ⟨rows, hrows, if_pos hu⟩
    exact ⟨_, (Connection.ask_of_not_isStalled hstalled (·.vehicle? u)).trans hfound⟩

theorem serves_of_store {b b' : Backing} (hb : b.IsIdle) {new saved : List Position}
    (h : Service.store b new = (.ok saved, b')) (u : VehicleRef) :
    b'.serves u = b.serves u ∧ ∀ q ∈ saved, b.serves q.vehicle = true := by
  have hsame := (LawfulStore.stored hb h).map_vehicle
  obtain ⟨usesTables, m, c⟩ := b
  cases usesTables with
  | false =>
    obtain ⟨m', rfl, _⟩ := store_memory_eq h
    exact ⟨rfl, fun _ _ => rfl⟩
  | true =>
    obtain ⟨c', rfl, hstore⟩ := store_connection_eq h
    refine ⟨rfl, fun q hq => ?_⟩
    have hmem := List.mem_map_of_mem (f := Position.vehicle) hq
    rw [hsame] at hmem
    obtain ⟨p, hp, hpq⟩ := List.mem_map.mp hmem
    obtain ⟨_, _, hfits, _⟩ := Connection.store_ok hb (List.ne_nil_of_mem hp) hstore
    obtain ⟨id, hid, hfit⟩ := hfits p hp
    rw [← hpq, hid]
    exact hfit

end Backing

namespace Ready

variable {b : Backing} {ps : List Position} (h : Ready b ps)

include h

theorem store {b' : Backing} {new saved : List Position}
    (hstore : Service.store b new = (.ok saved, b')) : Ready b' (ps ++ saved) where
  isIdle := LawfulStore.isIdle_store h.isIdle hstore
  holds := Backing.Holds.store h.holds h.isIdle hstore
  vehicles := by
    rw [(LawfulStore.stored h.isIdle hstore).vehicles]
    exact h.vehicles
  serves q hq := by
    obtain ⟨hsame, hsaved⟩ := Backing.serves_of_store h.isIdle hstore q.vehicle
    rw [hsame]
    rcases List.mem_append.mp hq with hq | hq
    · exact h.serves q hq
    · exact hsaved q hq

theorem ask (v : Validator) (r : Request) : ∃ ps', Ready (Call.ask v b r).2 ps' := by
  obtain ⟨new, saved, hstore⟩ := Service.store_run (s := b) h.isIdle v r
  exact ⟨ps ++ saved, h.store hstore⟩

theorem handIn (v : Validator) (handed : Except Failure α) (r : α → Request) :
    ∃ ps', Ready (Call.handIn v b handed r).2 ps' := by
  cases handed with
  | error e => exact ⟨ps, h⟩
  | ok a => exact h.ask v (r a)

theorem run (v : Validator) (c : Call) : ∃ ps', Ready (c.run v b).2 ps' := by
  cases c with
  | submit d => exact h.handIn v _ _
  | submitBatch policy ds => exact h.handIn v _ _
  | isRecorded u t => exact ⟨ps, h⟩
  | between u start stop => exact ⟨ps, h⟩
  | positions u start stop | route u start stop | statistics u start stop => exact h.ask v _

theorem history (v : Validator) (calls : List Call) :
    ∀ outcome ∈ Call.history v b calls, ∃ ps', Ready outcome.2 ps' := by
  induction calls generalizing b ps with
  | nil => exact List.forall_mem_nil _
  | cons c rest ih =>
    obtain ⟨ps', h'⟩ := h.run v c
    exact List.forall_mem_cons.mpr ⟨⟨ps', h'⟩, ih h'⟩

/-- A position is rejected as repeated just if a stored position of its vehicle means the same
moment, however the times of both were written. -/
theorem rejected_as_repeated_iff_moment {v : Validator} (hexists : Rule.exists ∈ v.rules)
    (hrule : Rule.duplicate ∈ v.rules) {d : Sighting} {p : Position} (hp : d.position = .ok p) :
    (∃ r, ((Call.submit d).run v b).1 = .error (.rejected r) ∧
      (Violation.repeated p).message ∈ r.errors) ↔
    ∃ q ∈ ps, q.vehicle = d.vehicle ∧ (q.recordedAt.micros : Int) = d.recordedAt.moment := by
  obtain ⟨hvehicle, hmoment⟩ := Sighting.position_ok hp
  have hkey : (∃ q ∈ ps, q.vehicle = d.vehicle ∧
      (q.recordedAt.micros : Int) = d.recordedAt.moment) ↔
        (p.vehicle, p.recordedAt) ∈ ps.map Position.key := by
    simp only [List.mem_map, Position.key, Prod.mk.injEq, hvehicle, ← hmoment, Int.natCast_inj,
      Instant.micros_inj]
  have hrun (e : Failure) : ((Call.submit d).run v b).1 = .error e ↔
      (Service.submit v b (some p)).1 = .error e := by
    rw [Call.run, hp]
    exact map_eq_error.trans map_eq_error
  simp only [hrun, hkey]
  have hrecorded := Backing.isRecorded_of_holds h.holds p.vehicle p.recordedAt
  cases hserves : b.serves p.vehicle with
  | true =>
    obtain ⟨ws, hws⟩ := h.vehicles
    obtain ⟨found, hfound⟩ := Backing.exists_vehicle? hws hserves
    rw [if_pos hserves] at hrecorded
    rw [Service.rejected_as_repeated_iff (s := b) h.isIdle hexists hrule hfound hrecorded,
      decide_eq_true_iff]
  | false =>
    -- nothing is stored of the vehicle, and the rules come to no verdict
    constructor
    · rintro ⟨r, hrejected, _⟩
      cases hvalidate : v.validate b p with
      | error e =>
        have he := Service.validate_error hvalidate
        unfold Service.submit at hrejected
        dsimp only at hrejected
        rw [hvalidate] at hrejected
        cases hrejected
        obtain he | he | he := he <;> cases he
      | ok verdict =>
        obtain ⟨vs, hvs, _⟩ := bind_eq_ok.mp hvalidate
        obtain ⟨_, hcheck, _⟩ := Service.check_of_violations hvs _ hexists
        obtain ⟨found, hfound, _⟩ := bind_eq_ok.mp hcheck
        rw [Backing.serves_of_vehicle? hfound] at hserves
        cases hserves
    · intro hmem
      obtain ⟨q, hq, hkey⟩ := List.mem_map.mp hmem
      have hqserves := h.serves q hq
      rw [show q.vehicle = p.vehicle from congrArg Prod.fst hkey, hserves] at hqserves
      cases hqserves

end Ready

/-! ## Runs -/

/-- A run of calls whose times are written in another way gets the same replies and goes through the
same stores. Where it began at rest and its rules look for vehicles and for repeats, a position is
rejected as repeated, at any point of the run, just if a stored position of its vehicle means the
same moment. -/
theorem Call.history_eq_of_rewritten (v : Validator) (b : Backing) {calls calls' : List Call}
    (h : List.Forall₂ Call.Rewritten calls calls') :
    Call.history v b calls' = Call.history v b calls ∧
    ∀ ps, Ready b ps → Rule.exists ∈ v.rules → Rule.duplicate ∈ v.rules →
      ∀ b' ∈ b :: (Call.history v b calls).map Prod.snd, ∃ ps', b'.storedPositions = .ok ps' ∧
        ∀ (d : Sighting) (p : Position), d.position = .ok p →
          ((∃ r, ((Call.submit d).run v b').1 = .error (.rejected r) ∧
            (Violation.repeated p).message ∈ r.errors) ↔
          ∃ q ∈ ps', q.vehicle = d.vehicle ∧
            (q.recordedAt.micros : Int) = d.recordedAt.moment) := by
  refine ⟨Call.history_eq v h, ?_⟩
  intro ps hready hexists hrule b' hb'
  have hready' : ∃ ps', Ready b' ps' := by
    rcases List.mem_cons.mp hb' with rfl | hb'
    · exact ⟨ps, hready⟩
    · obtain ⟨outcome, houtcome, rfl⟩ := List.mem_map.mp hb'
      exact hready.history v calls outcome houtcome
  obtain ⟨ps', hready'⟩ := hready'
  exact ⟨ps', Backing.storedPositions_of_holds hready'.holds,
    fun d p hp => hready'.rejected_as_repeated_iff_moment hexists hrule hp⟩

/-- One o'clock on the first day of the calendar, where clocks are an hour ahead. -/
def hourAhead : Timestamp :=
  ⟨(⟨3600000000, by decide⟩ : Instant).civil, some ⟨3600000000, by decide⟩⟩

/-- The beginning of the calendar, without an offset. -/
def midnight : Timestamp := ⟨(default : Instant).civil, none⟩

/-- A sighting of the first vehicle in the center of Athens. -/
def sightingAt (t : Timestamp) : Sighting := ⟨⟨athensCenter.toPoint, t⟩, some 1, none⟩

/-- A run in which a position is repeated, with a time that looks different. -/
def repeatedAhead : List Call :=
  [.submit (sightingAt hourAhead), .submit (sightingAt midnight), .isRecorded (some 1) midnight]

/-- The same run, all of its times written in one way. -/
def repeatedAtMidnight : List Call :=
  [.submit (sightingAt midnight), .submit (sightingAt midnight), .isRecorded (some 1) midnight]

theorem Call.history_repeatedAhead :
    List.Forall₂ Call.Rewritten repeatedAhead repeatedAtMidnight ∧
    Call.history (.canonical .athens) Service.oneVehicle repeatedAtMidnight =
      Call.history (.canonical .athens) Service.oneVehicle repeatedAhead ∧
    ∀ b' ∈ Service.oneVehicle ::
        (Call.history (.canonical .athens) Service.oneVehicle repeatedAhead).map Prod.snd,
      ∃ ps', b'.storedPositions = .ok ps' ∧
        ∀ (d : Sighting) (p : Position), d.position = .ok p →
          ((∃ r, ((Call.submit d).run (.canonical .athens) b').1 = .error (.rejected r) ∧
            (Violation.repeated p).message ∈ r.errors) ↔
          ∃ q ∈ ps', q.vehicle = d.vehicle ∧
            (q.recordedAt.micros : Int) = d.recordedAt.moment) := by
  have hmoment : midnight.moment = hourAhead.moment := by decide
  have hrewritten : List.Forall₂ Call.Rewritten repeatedAhead repeatedAtMidnight :=
    .cons (.submit ⟨rfl, rfl, rfl, hmoment⟩)
      (.cons (.submit ⟨rfl, rfl, rfl, rfl⟩) (.cons (.isRecorded _ rfl) .nil))
  have hready : Ready Service.oneVehicle [] :=
    ⟨⟨rfl, rfl⟩, ⟨rfl, rfl, fun _ h => nomatch h⟩, ⟨_, rfl⟩, fun _ h => nomatch h⟩
  obtain ⟨hsame, hrepeated⟩ :=
    Call.history_eq_of_rewritten (.canonical .athens) Service.oneVehicle hrewritten
  exact ⟨hrewritten, hsame, hrepeated [] hready (by simp [Validator.canonical])
    (by simp [Validator.canonical])⟩

end FleetTracking
