import FleetTracking.Proofs.Cache.Coherence
import FleetTracking.Proofs.Geo
import FleetTracking.Proofs.Json
import FleetTracking.Proofs.Recoding
import FleetTracking.Proofs.Store.Latest

/-!
# Runs of cached services

A cache that is empty at the start does not show in a run, but for dates that are not read back: every
answer is the one that the store alone would give (`runAll_sameOrReadBack`). Looks and writes may
fail at any time. Where a removal fails, the cache may say something else than the store from then
on, so nothing may be read from it any more (`HeedsLoss`).

It is assumed that JSON is read back from its text (`ReadsBack`), which is shown for plain values
(`readsBack_of_isPlain`). In JSON dates are strings, so their offsets do not count there.

## When the cache shows

Where every date is legible, the answers are the same. So it is in tables, and with dates that were
ever read (`Timestamp.isLegible_of_parse?`). Otherwise it is enough to ask for all vehicles twice
(`answers_twice_ne`).
-/

namespace FleetTracking

/-- The vehicles of the store at work have creation dates. In tables they always have. -/
def Backing.HasDatedVehicles (b : Backing) : Prop :=
  b.ask (fun m => ∀ w ∈ m.vehicles, w.HasDate) (fun _ => True)

/-- The creation dates in the store at work are legible. Tables give them in universal time. -/
def Backing.HasLegibleDates (b : Backing) : Prop :=
  b.ask (fun m => ∀ w ∈ m.vehicles, w.HasLegibleDate) (fun _ => True)

namespace Cached

variable {σ : Type} [FleetStore σ]

/-- A request, and the commands that fail while it is worked on. -/
structure Event where
  request : Request
  failing : List CacheVerb

/-- Answers of cached services to requests one after another. -/
def runAll (times : CacheTimes) (v : Validator) (s : σ) (cache : Cache) :
    List Event → List (Except Failure Answer) × σ × Cache
  | [] => ([], s, cache)
  | e :: rest =>
    let (answer, s, cache) := run times v s (cache.breakdown e.failing) e.request
    let (answers, s, cache) := runAll times v s cache rest
    (answer :: answers, s, cache)

/-- From the first removal that fails on, every look into the cache fails as well. -/
def HeedsLoss (times : CacheTimes) (v : Validator) (isLost : Bool) (s : σ) (cache : Cache) :
    List Event → Prop
  | [] => True
  | e :: rest =>
    (isLost = true → .get ∈ e.failing) ∧
      let before := cache.breakdown e.failing
      let after := (run times v s before e.request).2
      HeedsLoss times v (isLost || removalFailed before after.2) after.1 after.2 rest

/-- A run whose losses are heeded, and in which JSON is read back in every state of the store on the
way. -/
structure IsSound (times : CacheTimes) (v : Validator) (s : σ) (cache : Cache)
    (events : List Event) : Prop where
  heedsLoss : HeedsLoss times v false s cache events
  readsBack : ∀ k, ReadsBack (Request.runAll v s ((events.take k).map Event.request)).2

section Runs

variable [LawfulStore σ]

/-- A cache that was coherent at the start does not show in a run but for dates that are not read
back, as long as its losses are heeded. -/
theorem runAll_of_coherent (times : CacheTimes) (v : Validator) {events : List Event}
    {isLost : Bool} {s : σ} (hs : LawfulStore.IsIdle s) (hdates : ForVehicles Vehicle.HasDate s)
    {cache : Cache} (hcache : isLost = false → cache.isEnabled = true → Coherent s cache)
    (hloss : HeedsLoss times v isLost s cache events)
    (hreads : ∀ k, ReadsBack (Request.runAll v s ((events.take k).map Event.request)).2) :
    List.Forall₂ SameOrReadBack (runAll times v s cache events).1
        (Request.runAll v s (events.map Event.request)).1 ∧
      (runAll times v s cache events).2.1 = (Request.runAll v s (events.map Event.request)).2 := by
  -- the invariant is that the cache is coherent as long as no removal has failed
  induction events generalizing isLost s cache with
  | nil => exact ⟨.nil, rfl⟩
  | cons e rest ih =>
    obtain ⟨hheeded, hrest⟩ := hloss
    let before := cache.breakdown e.failing
    have htrusted : before.isEnabled = true → before.fails .get = false → Coherent s before := by
      intro henabled hget
      refine hcache ?_ henabled
      cases hlost : isLost with
      | false => rfl
      | true =>
        have hfails : before.fails .get = true := List.elem_eq_true_of_mem (hheeded hlost)
        rw [hfails] at hget
        nomatch hget
    have hstep := isFaithful_run hs hdates (hreads 0) times v htrusted e.request
    obtain ⟨⟨ps, saved, hstored⟩, hidle⟩ := Service.stored_run hs v e.request
    -- what is coherent after the call is the cache of the rest of the run
    have hafter : (isLost || removalFailed before (run times v s before e.request).2.2) = false →
        (run times v s before e.request).2.2.isEnabled = true →
        Coherent (run times v s before e.request).2.1 (run times v s before e.request).2.2 := by
      intro hlost henabled
      obtain ⟨hlost, hremoved⟩ := Bool.or_eq_false_iff.mp hlost
      rw [hstep.isEnabled] at henabled
      exact hstep.coherent henabled (hcache hlost henabled) hremoved
    have hcons : runAll times v s cache (e :: rest) =
        let (answer, s', cache') := run times v s before e.request
        let (answers, s', cache') := runAll times v s' cache' rest
        (answer :: answers, s', cache') := rfl
    rw [hcons]
    change HeedsLoss times v (isLost || removalFailed before (run times v s before e.request).2.2)
      (run times v s before e.request).2.1 (run times v s before e.request).2.2 rest at hrest
    generalize run times v s before e.request = outcome at hstep hafter hrest ⊢
    obtain ⟨answer, s', cache'⟩ := outcome
    obtain ⟨hanswer, rfl, _, _⟩ := hstep
    obtain ⟨hanswers, hstore⟩ :=
      ih hidle (hdates.stored hstored) hafter hrest fun k => hreads (k + 1)
    exact ⟨.cons hanswer hanswers, hstore⟩

/-- Where all dates are legible, nothing is lost in a run. -/
theorem readBack_runAll {v : Validator} {rs : List Request} {s : σ} (hs : LawfulStore.IsIdle s)
    (hdates : ForVehicles Vehicle.HasLegibleDate s) :
    ∀ answer ∈ (Request.runAll v s rs).1, answer.map Answer.readBack = answer := by
  induction rs generalizing s with
  | nil => exact List.forall_mem_nil _
  | cons r rest ih =>
    obtain ⟨⟨ps, saved, hstored⟩, hidle⟩ := Service.stored_run hs v r
    exact List.forall_mem_cons.mpr ⟨readBack_run hdates v r, ih hidle (hdates.stored hstored)⟩

end Runs

theorem eq_of_sameOrReadBack {answers stored : List (Except Failure Answer)}
    (h : List.Forall₂ SameOrReadBack answers stored)
    (hstored : ∀ answer ∈ stored, answer.map Answer.readBack = answer) : answers = stored := by
  induction h with
  | nil => rfl
  | cons hanswer _ ih =>
    obtain ⟨hsame, hrest⟩ := List.forall_mem_cons.mp hstored
    rw [ih hrest, hanswer.elim id fun h => h.trans hsame]

/-! ## Vehicles -/

theorem forVehicles_memory {P : Vehicle → Prop} {m : Memory} (h : ∀ w ∈ m.vehicles, P w) :
    ForVehicles P m where
  vehicle? u w hw := by
    obtain ⟨id, _, hfound⟩ := Option.bind_eq_some_iff.mp (Except.ok.inj hw)
    exact h w (List.mem_of_find?_eq_some hfound)
  vehicles ws hws := by
    cases hws
    intro w hw
    exact h w (List.mem_mergeSort.mp hw)

theorem forVehicles_connection {P : Vehicle → Prop} (hrow : ∀ r : VehicleRow, P r.toVehicle)
    (c : Connection) : ForVehicles P c where
  vehicle? u w hw := by
    obtain ⟨rows, _, hw⟩ := bind_eq_ok.mp (Connection.ask_eq_ok.mp hw).2
    split at hw
    · obtain ⟨r, _, rfl⟩ := Option.map_eq_some_iff.mp (Except.ok.inj hw)
      exact hrow r
    · nomatch hw
  vehicles ws hws := by
    obtain ⟨rows, _, hws⟩ := bind_eq_ok.mp (Connection.ask_eq_ok.mp hws).2
    cases hws
    intro w hw
    obtain ⟨r, _, rfl⟩ := List.mem_map.mp hw
    exact hrow r

theorem forVehicles_inMemory {P : Vehicle → Prop} {m : Memory} (c : Connection)
    (h : ∀ w ∈ m.vehicles, P w) : ForVehicles P (Backing.mk false m c) :=
  ⟨(forVehicles_memory h).vehicle?, (forVehicles_memory h).vehicles⟩

/-- What is true of the vehicles in memory and of every row in tables is true of all vehicles. -/
theorem forVehicles_backing {P : Vehicle → Prop} (hrow : ∀ r : VehicleRow, P r.toVehicle)
    {b : Backing} (h : b.ask (fun m => ∀ w ∈ m.vehicles, P w) (fun _ => True)) :
    ForVehicles P b := by
  match b, h with
  | ⟨false, m, c⟩, h => exact forVehicles_inMemory c h
  | ⟨true, m, c⟩, _ =>
    exact ⟨(forVehicles_connection hrow c).vehicle?, (forVehicles_connection hrow c).vehicles⟩

theorem hasDate_toVehicle (r : VehicleRow) : r.toVehicle.HasDate := ⟨_, rfl⟩

theorem hasLegibleDate_toVehicle (r : VehicleRow) : r.toVehicle.HasLegibleDate := by
  intro t ht
  cases ht
  exact r.createdDate.instant.isLegible_timestamp

/-! ## Plain stores -/

theorem isPlain_ofList {encode : α → Except Failure Json} {l : List α} {v : Json} {n : Nat}
    (h : Json.ofList encode l = .ok v)
    (hplain : ∀ a ∈ l, ∀ w, encode a = .ok w → Json.IsPlain n w) : Json.IsPlain (n + 1) v := by
  obtain ⟨items, hitems, h⟩ := bind_eq_ok.mp h
  cases h
  refine .array fun w hw => ?_
  obtain ⟨a, ha, haw⟩ := exists_of_mem_mapM hitems hw
  exact hplain a ha w haw

/-- A vehicle with its last position is written as a plain value if both are. -/
theorem isPlain_tracked {r : TrackedVehicle}
    (hvehicle : ∀ v, r.vehicle.toJson = .ok v → Json.IsPlain 1 v)
    (hlast : ∀ p ∈ r.lastPosition, Json.IsPlain 1 p.toJson) {v : Json} (h : r.toJson = .ok v) :
    Json.IsPlain 2 v := by
  obtain ⟨vehicle, hrecord, h⟩ := bind_eq_ok.mp h
  cases h
  have hposition : Json.IsPlain 1 (Json.ofOption PositionRecord.toJson r.lastPosition) := by
    cases hp : r.lastPosition with
    | none => exact .word .null
    | some p => exact hlast p hp
  refine .object (by simp) ?_ ?_
  · simp only [List.forall_mem_cons]
    exact ⟨by decide, by decide, List.forall_mem_nil _⟩
  · simp only [List.forall_mem_cons]
    exact ⟨hvehicle vehicle hrecord, hposition, List.forall_mem_nil _⟩

/-- What is kept of a store is read back if its vehicles and positions are written as plain
values. -/
theorem readsBack_of_isPlain {s : σ}
    (hvehicles : ForVehicles
      (fun w => ∀ v, (VehicleRecord.ofVehicle w).toJson = .ok v → Json.IsPlain 1 v) s)
    (hpositions : ∀ u p, FleetStore.last? s u = .ok (some p) →
      Json.IsPlain 1 (PositionRecord.ofPosition p).toJson) : ReadsBack s := by
  intro view j hj
  cases view with
  | lastPosition u =>
    obtain ⟨last, hlast, h⟩ := map_eq_ok.mp hj
    obtain ⟨w, _, hlast⟩ := bind_eq_ok.mp hlast
    obtain ⟨p?, hp, hlast⟩ := bind_eq_ok.mp hlast
    cases hlast
    obtain ⟨r, hr, rfl⟩ := Option.map_eq_some_iff.mp h
    obtain ⟨p, rfl, rfl⟩ := Option.map_eq_some_iff.mp hr
    exact Json.parse_render (by decide) (hpositions u p hp)
  | vehicles =>
    obtain ⟨v, h, hv⟩ := map_eq_ok.mp hj
    obtain ⟨rs, hrs, hlist⟩ := bind_eq_ok.mp h
    cases hv
    refine Json.parse_render (n := 2) (by decide) (isPlain_ofList hlist fun r hr => ?_)
    obtain ⟨w, hw, rfl⟩ := hvehicles.allVehicles hrs r hr
    exact hw
  | vehicle id =>
    obtain ⟨v, h, hv⟩ := map_eq_ok.mp hj
    obtain ⟨r, hr, hrv⟩ := bind_eq_ok.mp h
    cases hv
    obtain ⟨w, hw, rfl⟩ := hvehicles.vehicle hr
    exact Json.parse_render (by decide) (hw _ hrv)
  | tracked =>
    obtain ⟨v, h, hv⟩ := map_eq_ok.mp hj
    obtain ⟨rs, hrs, hlist⟩ := bind_eq_ok.mp h
    cases hv
    refine Json.parse_render (n := 3) (by decide) (isPlain_ofList hlist fun r hr => ?_)
    obtain ⟨⟨w, hw, hvehicle⟩, hlast⟩ := hvehicles.trackedVehicles hrs r hr
    refine fun v => isPlain_tracked (by rw [hvehicle]; exact hw) fun p hp => ?_
    obtain ⟨u, q, hq, rfl⟩ := hlast p hp
    exact hpositions u q hq

/-! ## Where the cache shows -/

theorem throughCache_miss {cache cache' : Cache} {key : String} {ttl : Int}
    {decode : Json → Except Failure α} {encode : α → Except Failure Json} {a : α} {j : Json}
    (h : cache.get key = (.ok none, cache')) (hencode : encode a = .ok j) :
    throughCache cache key ttl decode encode (.ok a) = (.ok a, cache'.set key j ttl) := by
  unfold throughCache
  rw [h]
  dsimp only
  rw [hencode]

theorem throughCache_hit {cache : Cache} {key : String} {ttl : Int}
    {decode : Json → Except Failure α} {encode : α → Except Failure Json}
    {answer : Except Failure α} {j : Json} (h : (cache.get key).1 = .ok (some j)) :
    (throughCache cache key ttl decode encode answer).1 = decode j := by
  unfold throughCache
  generalize cache.get key = look at h ⊢
  obtain ⟨found, cache'⟩ := look
  cases h
  rfl

/-- What has been left in the cache is found there. -/
theorem get_set (cache : Cache) (henabled : cache.isEnabled = true)
    (hfails : cache.fails .setex = false) (key : String) (ttl : Int) {j : Json}
    (hj : Cache.decode j.render = .ok (some j)) :
    (((cache.set key j ttl).breakdown []).get key).1 = .ok (some j) := by
  have hset : cache.set key j ttl = (cache.issue (.setex key ttl j.render)).put key j.render := by
    unfold Cache.set
    rw [henabled]
    exact if_neg (Bool.not_eq_true _ ▸ hfails)
  have htext : (((cache.set key j ttl).breakdown []).text? key) = some j.render := by
    rw [hset]
    exact (text?_put _ _ _ _).trans (if_pos rfl)
  unfold Cache.get
  rw [htext, if_neg (by rw [hset]; simp [Cache.breakdown, Cache.put, Cache.issue, henabled]),
    if_neg (by simp [Cache.breakdown, Cache.fails])]
  exact hj

/-- To ask for all vehicles twice. -/
def twice : List Event := [⟨.allVehicles, []⟩, ⟨.allVehicles, []⟩]

/-- In a cache that is empty nothing is found, so the answer of the store is left there. The second
time it is read from the cache. -/
theorem answers_twice (times : CacheTimes) (v : Validator) {s : σ} (hreads : ReadsBack s)
    {cache : Cache} (henabled : cache.isEnabled = true) (hempty : cache.entries = [])
    (hdates : ForVehicles Vehicle.HasDate s) {rs : List VehicleRecord}
    (hrs : Service.allVehicles s = .ok rs) :
    (runAll times v s cache twice).1 =
      [.ok (.vehicles rs), .ok (.vehicles (rs.map (VehicleRecord.mapTimes .readBack)))] := by
  obtain ⟨j, hencode, hdecode⟩ := Json.listOf_ofList (l := rs) fun r hr =>
    VehicleRecord.exists_toJson (r := r) (by
      obtain ⟨w, hw, rfl⟩ := hdates.allVehicles hrs r hr
      exact hw)
  have hview : View.vehicles.value? s = .ok (some j) := by
    unfold View.value?
    rw [hrs]
    exact congrArg (Except.map some) hencode
  let asked := (cache.breakdown []).issue (.get vehiclesKey)
  have hmiss : (cache.breakdown []).get vehiclesKey = (.ok none, asked) := by
    simp [asked, Cache.get, Cache.breakdown, Cache.fails, Cache.text?, henabled, hempty]
  let left := asked.set vehiclesKey j times.vehicles
  have hfirst : allVehicles times s (cache.breakdown []) = (.ok rs, left) := by
    unfold allVehicles
    rw [hrs]
    exact throughCache_miss hmiss hencode
  have hfound : ((left.breakdown []).get vehiclesKey).1 = .ok (some j) :=
    get_set asked henabled rfl vehiclesKey times.vehicles (decode_render hreads hview)
  have hsecond : (allVehicles times s (left.breakdown [])).1 =
      .ok (rs.map (VehicleRecord.mapTimes .readBack)) := (throughCache_hit hfound).trans hdecode
  have hrun (cache : Cache) : run times v s cache .allVehicles =
      (allVehicles times s cache).map (Except.map .vehicles) (s, ·) := rfl
  simp only [twice, runAll, hrun, hfirst, Prod.map, hsecond]
  rfl

/-- Where a date is not legible, the second answer is not the one of the store. -/
theorem answers_twice_ne (times : CacheTimes) (v : Validator) {s : σ} (hreads : ReadsBack s)
    {cache : Cache} (henabled : cache.isEnabled = true) (hempty : cache.entries = [])
    (hdates : ForVehicles Vehicle.HasDate s) {ws : List Vehicle}
    (hws : FleetStore.vehicles s = .ok ws) (hillegible : ¬ ∀ w ∈ ws, w.HasLegibleDate) :
    (runAll times v s cache twice).1 ≠
      (Request.runAll v s (twice.map Event.request)).1 := by
  have hrs : Service.allVehicles s = .ok (ws.map .ofVehicle) := by
    unfold Service.allVehicles
    rw [hws]
    rfl
  have hstored : (Request.runAll v s (twice.map Event.request)).1 =
      [(Service.allVehicles s).map .vehicles, (Service.allVehicles s).map .vehicles] := rfl
  rw [answers_twice times v hreads henabled hempty hdates hrs, hstored, hrs]
  intro h
  have hsame := Answer.vehicles.inj (Except.ok.inj (List.cons.inj (List.cons.inj h).2).1)
  rw [List.map_map] at hsame
  refine hillegible fun w hw t ht => Timestamp.readBack_eq_iff.mp ?_
  exact VehicleRecord.mapTimes_eq_iff.mp (List.map_inj_left.mp hsame w hw) t ht

theorem isSound_twice (times : CacheTimes) (v : Validator) {s : σ} (hreads : ReadsBack s)
    {cache : Cache} (hempty : cache.entries = []) (hdates : ForVehicles Vehicle.HasDate s) :
    IsSound times v s cache twice where
  heedsLoss := by
    -- nothing fails, so no removal does
    have hcoherent : Coherent s (cache.breakdown []) := coherent_empty s hempty
    have hread : ReadStep s (cache.breakdown []) (allVehicles times s (cache.breakdown [])).2 :=
      (allVehicles_of_coherent hreads hdates fun _ _ => hcoherent).step
    have hremoved : removalFailed (cache.breakdown [])
        (run times v s (cache.breakdown []) .allVehicles).2.2 = false := by
      show ((allVehicles times s (cache.breakdown [])).2.failing.contains .delete && _) = false
      rw [hread.failing]
      rfl
    simp [twice, HeedsLoss, hremoved]
  readsBack k := by
    match k with
    | 0 => exact hreads
    | 1 => exact hreads
    | k + 2 =>
      rw [List.take_of_length_le (by simp [twice])]
      exact hreads

/-- Cached services in front of a cache that was empty answer every request of a run as the services
behind them would, at first hand or as it is read back, and store the same. The answers are the same
where all creation dates are legible, and only there. -/
theorem runAll_sameOrReadBack (times : CacheTimes) (v : Validator) {b : Backing} (hb : b.IsIdle)
    (hdates : b.HasDatedVehicles) {cache : Cache} (hempty : cache.entries = []) :
    (∀ events, IsSound times v b cache events →
      List.Forall₂ SameOrReadBack (runAll times v b cache events).1
        (Request.runAll v b (events.map Event.request)).1 ∧
      (runAll times v b cache events).2.1 = (Request.runAll v b (events.map Event.request)).2 ∧
      (b.HasLegibleDates → (runAll times v b cache events).1 =
        (Request.runAll v b (events.map Event.request)).1)) ∧
    (cache.isEnabled = true → ReadsBack b → ¬ b.HasLegibleDates →
      ∃ events, IsSound times v b cache events ∧ (runAll times v b cache events).1 ≠
        (Request.runAll v b (events.map Event.request)).1) := by
  have hdated := forVehicles_backing hasDate_toVehicle hdates
  refine ⟨fun events hsound => ?_, fun henabled hreads hillegible => ?_⟩
  · obtain ⟨hanswers, hstore⟩ := runAll_of_coherent times v hb hdated
      (fun _ _ => coherent_empty b hempty) hsound.heedsLoss hsound.readsBack
    refine ⟨hanswers, hstore, fun hlegible => eq_of_sameOrReadBack hanswers ?_⟩
    exact readBack_runAll hb (forVehicles_backing hasLegibleDate_toVehicle hlegible)
  · refine ⟨twice, isSound_twice times v hreads hempty hdated, ?_⟩
    match b, hillegible with
    | ⟨true, m, c⟩, hillegible => exact absurd trivial hillegible
    | ⟨false, m, c⟩, hillegible =>
      refine answers_twice_ne times v hreads henabled hempty hdated rfl fun hlegible => ?_
      exact hillegible fun w hw => hlegible w (List.mem_mergeSort.mpr hw)

/-! ### Stores with one vehicle -/

/-- Services with one vehicle of this date in memory, and these positions. -/
def storeSince (created : Timestamp) (positions : List Position) : Backing where
  usesTables := false
  memory := { Memory.empty with
    vehicles := [⟨1, "A", true, some created⟩]
    nextVehicle := 2
    positions
    keys := positions.map Position.key
    nextPosition := positions.length + 1 }
  connection := .empty

theorem readsBack_storeSince {created : Timestamp} (hcreated : Json.IsPlainString created.iso)
    {positions : List Position}
    (hpositions : ∀ p ∈ positions, Json.IsPlain 1 (PositionRecord.ofPosition p).toJson) :
    ReadsBack (storeSince created positions) := by
  refine readsBack_of_isPlain (forVehicles_inMemory _ fun w hw => ?_) fun u p hp => ?_
  · have hrecord : (VehicleRecord.ofVehicle ⟨1, "A", true, some created⟩).toJson =
        .ok (.object [("id", .int 1), ("name", .string "A"), ("is_active", .bool true),
          ("created_date", .string created.iso)]) := rfl
    rw [List.mem_singleton.mp hw, hrecord]
    rintro v ⟨⟩
    refine .object (by simp) ?_ ?_
    · simp only [List.forall_mem_cons]
      exact ⟨by decide, by decide, by decide, by decide, List.forall_mem_nil _⟩
    · simp only [List.forall_mem_cons]
      exact ⟨.word ⟨by decide, by decide, rfl⟩, .string (by decide), .word (.bool true),
        .string hcreated, List.forall_mem_nil _⟩
  · have hlatest := Memory.isLatest_last? (storeSince created positions).memory u
    rw [Except.ok.inj hp] at hlatest
    cases hlatest with
    | found _ hmem _ _ => exact hpositions p hmem

/-! ### A date that is not read back -/

/-- A date whose clock is a microsecond ahead of universal time. -/
def aheadDate : Timestamp := PositionRecord.ahead.recordedAt

/-- Nothing fails, and the second answer is not the one of the store. -/
theorem runAll_aheadDate :
    (storeSince aheadDate []).IsIdle ∧ (storeSince aheadDate []).HasDatedVehicles ∧
      IsSound ⟨30, 300, 30⟩ (.canonical .athens) (storeSince aheadDate []) (.empty true) twice ∧
      (runAll ⟨30, 300, 30⟩ (.canonical .athens) (storeSince aheadDate []) (.empty true) twice).1 ≠
        (Request.runAll (.canonical .athens) (storeSince aheadDate [])
          (twice.map Event.request)).1 := by
  have hdates : (storeSince aheadDate []).HasDatedVehicles := by
    intro w hw
    rw [List.mem_singleton.mp hw]
    exact ⟨_, rfl⟩
  have hdated := forVehicles_backing hasDate_toVehicle hdates
  have hreads : ReadsBack (storeSince aheadDate []) :=
    readsBack_storeSince (by decide) (List.forall_mem_nil _)
  refine ⟨⟨rfl, rfl⟩, hdates, isSound_twice _ _ hreads rfl hdated, ?_⟩
  refine answers_twice_ne _ _ hreads rfl rfl hdated rfl fun hlegible => ?_
  have hone := hlegible ⟨1, "A", true, some aheadDate⟩ (List.mem_mergeSort.mpr List.mem_cons_self)
    aheadDate rfl ⟨1, by decide⟩ rfl
  exact absurd hone (by unfold Offset.IsLegible; decide)

/-! ### A run with failures -/

/-- A position of the vehicle in the middle of Athens. -/
def centerAt (t : Instant) : Position := ⟨some 1, athensCenter, t, none⟩

/-- The first minutes of the calendar. -/
def minute (n : Fin 3) : Instant := ⟨60000000 * n, by decide +revert⟩

/-- A run in which a write, a removal and looks fail. The views of the vehicle are kept before its
second position is stored, and removed with it. -/
def failingRun : List Event :=
  [⟨.allVehicles, [.setex]⟩,
    ⟨.submit (some (centerAt (minute 0))), []⟩,
    ⟨.lastPosition (some 1), []⟩,
    ⟨.trackedVehicles, []⟩,
    ⟨.submit (some (centerAt (minute 1))), []⟩,
    ⟨.lastPosition (some 1), []⟩,
    ⟨.trackedVehicles, []⟩,
    ⟨.submitBatch .strict (some [centerAt (minute 2)]), [.delete]⟩,
    ⟨.lastPosition (some 1), [.get]⟩,
    ⟨.trackedVehicles, [.get, .setex]⟩]

/-- The positions of the run, in the order in which they are stored. -/
def runPositions : List Position :=
  Memory.numbered 1 [centerAt (minute 0), centerAt (minute 1), centerAt (minute 2)]

/-- The store of the run with the first so many positions. -/
def runStore (n : Nat) : Backing :=
  storeSince ⟨(default : Instant).civil, none⟩ (runPositions.take n)

theorem isPlain_centerAt {id : Int} (hid : Json.IsWord (.int id)) {t : Instant}
    (ht : Json.IsPlainString t.timestamp.iso) :
    Json.IsPlain 1 (PositionRecord.ofPosition ((centerAt t).withId (some id))).toJson := by
  have hvehicle : Json.IsWord (.int 1) := ⟨by decide, by decide, rfl⟩
  have hlatitude : Json.IsWord (.float 38.0) := Json.isWord_tenths (n := 380) rfl "38.0".toList
    (by decide +kernel) (by decide) (by decide) rfl (by decide) (by decide +kernel)
  have hlongitude : Json.IsWord (.float 23.7) := Json.isWord_tenths (n := 237) rfl "23.7".toList
    (by decide +kernel) (by decide) (by decide) rfl (by decide) (by decide +kernel)
  refine .object (by simp) ?_ ?_
  · simp only [List.forall_mem_cons]
    exact ⟨by decide, by decide, by decide, by decide, by decide, List.forall_mem_nil _⟩
  · simp only [List.forall_mem_cons]
    exact ⟨.word hid, .word hvehicle, .word hlatitude, .word hlongitude,
      .string ht, List.forall_mem_nil _⟩

theorem readsBack_runStore (n : Nat) : ReadsBack (runStore n) := by
  have hplain : ∀ p ∈ runPositions, Json.IsPlain 1 (PositionRecord.ofPosition p).toJson := by
    simp only [runPositions, Memory.numbered, List.forall_mem_cons]
    exact ⟨isPlain_centerAt ⟨by decide, by decide, rfl⟩ (by decide +kernel),
      isPlain_centerAt ⟨by decide, by decide, rfl⟩ (by decide +kernel),
      isPlain_centerAt ⟨by decide, by decide, rfl⟩ (by decide +kernel), List.forall_mem_nil _⟩
  exact readsBack_storeSince (by decide) fun p hp => hplain p (List.mem_of_mem_take hp)

/-- All three submissions remove something, the last one in vain. -/
theorem runAll_failingRun :
    IsSound ⟨30, 300, 30⟩ (.canonical .athens) (runStore 0) (.empty true) failingRun ∧
      ((runAll ⟨30, 300, 30⟩ (.canonical .athens) (runStore 0) (.empty true)
        failingRun).2.2.issued.filter fun command => command.verb == .delete).length = 3 ∧
      (runAll ⟨30, 300, 30⟩ (.canonical .athens) (runStore 0) (.empty true) failingRun).2.1 =
        runStore 3 ∧
      (runAll ⟨30, 300, 30⟩ (.canonical .athens) (runStore 0) (.empty true) failingRun).1 =
        (Request.runAll (.canonical .athens) (runStore 0) (failingRun.map Event.request)).1 := by
  have hloss :
      HeedsLoss ⟨30, 300, 30⟩ (.canonical .athens) false (runStore 0) (.empty true) failingRun := by
    unfold failingRun
    simp only [HeedsLoss]
    exact ⟨by decide, by decide +kernel, by decide +kernel, by decide +kernel, by decide +kernel,
      by decide +kernel, by decide +kernel, by decide +kernel, by decide +kernel, by decide +kernel,
      trivial⟩
  have hreads (k : Nat) : ReadsBack (Request.runAll (.canonical .athens) (runStore 0)
      ((failingRun.take k).map Event.request)).2 := by
    match k with
    | 0 | 1 => exact readsBack_runStore 0
    | 2 | 3 | 4 => exact readsBack_runStore 1
    | 5 | 6 | 7 => exact readsBack_runStore 2
    | 8 | 9 => exact readsBack_runStore 3
    | k + 10 =>
      rw [List.take_of_length_le (by simp [failingRun])]
      exact readsBack_runStore 3
  have hdates : (runStore 0).HasDatedVehicles := by
    intro w hw
    rw [List.mem_singleton.mp hw]
    exact ⟨_, rfl⟩
  have hlegible : (runStore 0).HasLegibleDates := by
    intro w hw
    rw [List.mem_singleton.mp hw]
    rintro t ⟨⟩ o ho
    nomatch ho
  have hidle : (runStore 0).IsIdle := ⟨rfl, rfl⟩
  obtain ⟨_, hstore, hanswers⟩ :=
    (runAll_sameOrReadBack _ _ hidle hdates rfl).1 failingRun ⟨hloss, hreads⟩
  exact ⟨⟨hloss, hreads⟩, by decide +kernel, hstore, hanswers hlegible⟩

end Cached

end FleetTracking
