import FleetTracking.Proofs.Cache.View
import FleetTracking.Proofs.Service.Request
import FleetTracking.Proofs.Service.Submission

/-!
# Cached services answer like the store

A cache is coherent with a store if every text under the key of a view is what a reader would leave
there now (`Coherent`). Then whoever finds a text reads from it what the store would answer, as far
as that can be read back. All readers do this alike (`through`), so it is shown once
(`through_of_coherent`). A save of positions leaves a cache coherent, because the views that it
changes are removed (`coherent_invalidate`).

Together: a call of a cached service comes to what the store alone comes to, and leaves the cache
coherent unless a removal failed (`isFaithful_run`).

## What is not read back

The date of a vehicle may have an offset of less than a second, which is lost in the cache
(`Answer.readBack`). Positions are dated in universal time, and so is what comes from tables. Where
no date has such an offset, nothing is lost (`readBack_run`).
-/

namespace FleetTracking

/-- An answer as it is read back from the cache, if it is kept there. -/
def Answer.readBack : Answer → Answer
  | vehicles rs => vehicles (rs.map (VehicleRecord.mapTimes .readBack))
  | vehicle r => vehicle (r.mapTimes .readBack)
  | trackedVehicles rs => trackedVehicles (rs.map (TrackedVehicle.mapTimes .readBack))
  | answer => answer

namespace Cached

variable {σ : Type} [FleetStore σ]

/-! ## Calls -/

/-- What a cached service answers to a request, with store and cache afterwards. -/
def run (times : CacheTimes) (v : Validator) (s : σ) (cache : Cache) :
    Request → Except Failure Answer × σ × Cache
  | .submit p? => (submit v s cache p?).map (Except.map .position) id
  | .submitBatch policy ps => (submitBatch v policy s cache ps).map (Except.map .positions) id
  | .lastPosition u => (lastPosition times s cache u).map (Except.map .lastPosition) (s, ·)
  | .allVehicles => (allVehicles times s cache).map (Except.map .vehicles) (s, ·)
  | .vehicle id => (vehicle times s cache id).map (Except.map .vehicle) (s, ·)
  | .trackedVehicles =>
    (trackedVehicles times s cache).map (Except.map .trackedVehicles) (s, ·)
  -- these are not kept, so the store is asked
  | .positions u start stop => ((Service.positions s u start stop).map .positions, s, cache)
  | .route u start stop => ((Service.route s u start stop).map .route, s, cache)
  | .statistics u start stop => ((Service.statistics s u start stop).map .statistics, s, cache)
  | .trackedVehicle id => ((Service.trackedVehicle s id).map .trackedVehicle, s, cache)

/-- Whether a removal was issued from one state of the cache to the other, and failed. -/
def removalFailed (before after : Cache) : Bool :=
  after.fails .delete &&
    (after.issued.drop before.issued.length).any fun command => command.verb == .delete

/-! ## Coherence -/

/-- Every text under the key of a view is what a reader would leave there now. -/
def Coherent (s : σ) (cache : Cache) : Prop :=
  ∀ (view : View) (text : String), cache.text? view.key = some text →
    ∃ j, view.value? s = .ok (some j) ∧ text = j.render

/-- What readers leave in the cache is read back from its text. -/
def ReadsBack (s : σ) : Prop :=
  ∀ (view : View) (j : Json), view.value? s = .ok (some j) → Json.parse j.render = .ok j

/-- What every vehicle of a store is, asked for alone or among all. -/
structure ForVehicles (P : Vehicle → Prop) (s : σ) : Prop where
  vehicle? : ∀ u w, FleetStore.vehicle? s u = .ok (some w) → P w
  vehicles : ∀ ws, FleetStore.vehicles s = .ok ws → ∀ w ∈ ws, P w

theorem coherent_empty (s : σ) {cache : Cache} (h : cache.entries = []) : Coherent s cache := by
  intro view text htext
  unfold Cache.text? at htext
  rw [h] at htext
  nomatch htext

/-- Behind a filter of keys those entries are found whose keys pass it. -/
theorem find?_filter_key (entries : List (String × String)) (p : String → Bool) (key : String) :
    (entries.filter fun entry => p entry.1).find? (fun entry => entry.1 == key) =
      if p key then entries.find? (fun entry => entry.1 == key) else none := by
  rw [List.find?_filter]
  cases hp : p key with
  | true =>
    rw [if_pos rfl]
    congr 1
    funext entry
    by_cases h : entry.1 = key
    · simp [h, hp]
    · simp [h]
  | false =>
    rw [if_neg (by decide), List.find?_eq_none]
    intro entry _ h
    obtain ⟨hentry, hkey⟩ := of_decide_eq_true h
    rw [beq_iff_eq.mp hkey, hp] at hentry
    nomatch hentry

theorem text?_put (cache : Cache) (key text key' : String) :
    (cache.put key text).text? key' = if key = key' then some text else cache.text? key' := by
  unfold Cache.text? Cache.put
  dsimp only
  rw [List.find?_append, find?_filter_key cache.entries (· != key)]
  by_cases h : key = key'
  · subst h
    simp
  · have hne : key' ≠ key := fun hkey => h hkey.symm
    simp [h, hne]

theorem text?_drop (cache : Cache) (keys : List String) (key : String) :
    (cache.drop keys).text? key = if key ∈ keys then none else cache.text? key := by
  unfold Cache.text? Cache.drop
  dsimp only
  rw [find?_filter_key cache.entries (!keys.contains ·)]
  by_cases h : key ∈ keys <;> simp [h]

/-- A text that a reader leaves now keeps the cache coherent. -/
theorem Coherent.put {s : σ} {cache : Cache} (h : Coherent s cache) {view : View} {j : Json}
    (hj : view.value? s = .ok (some j)) : Coherent s (cache.put view.key j.render) := by
  intro view' text htext
  rw [text?_put] at htext
  split at htext
  · rename_i hkey
    rw [← View.key_injective hkey]
    exact ⟨j, hj, (Option.some.inj htext).symm⟩
  · exact h view' text htext

/-! ## Reading -/

theorem value?_ne_null {s : σ} {view : View} : view.value? s ≠ .ok (some .null) := by
  intro h
  cases view with
  | lastPosition u =>
    obtain ⟨last, _, h⟩ := map_eq_ok.mp h
    cases last <;> nomatch h
  | vehicle id =>
    obtain ⟨j, h, hj⟩ := map_eq_ok.mp h
    obtain ⟨r, _, h⟩ := bind_eq_ok.mp h
    cases hj
    unfold VehicleRecord.toJson at h
    split at h <;> nomatch h
  | _ =>
    obtain ⟨j, h, hj⟩ := map_eq_ok.mp h
    obtain ⟨rs, _, h⟩ := bind_eq_ok.mp h
    obtain ⟨items, _, h⟩ := bind_eq_ok.mp h
    cases hj
    nomatch h

/-- A text that a reader left is no miss. -/
theorem decode_render {s : σ} (hs : ReadsBack s) {view : View} {j : Json}
    (hj : view.value? s = .ok (some j)) : Cache.decode j.render = .ok (some j) := by
  have hparse := hs view j hj
  have hnonempty : j.render.isEmpty = false := by
    cases hempty : j.render.isEmpty with
    | false => rfl
    | true =>
      have hmalformed : Json.parse "" = .error .malformed := by
        simp [Json.parse, Json.ofChars, Json.tokens, Json.build]
      rw [String.isEmpty_iff.mp hempty, hmalformed] at hparse
      cases hparse
  unfold Cache.decode
  rw [hnonempty, hparse]
  cases j with
  | null => exact absurd hj value?_ne_null
  | _ => rfl

/-- What a look into a cache finds: nothing, or what the store would answer. -/
theorem get_cases {s : σ} (hs : ReadsBack s) {cache : Cache}
    (hcache : cache.isEnabled = true → cache.fails .get = false → Coherent s cache) (view : View) :
    (cache.get view.key).1 = .ok none ∨
      ∃ j, view.value? s = .ok (some j) ∧ (cache.get view.key).1 = .ok (some j) := by
  unfold Cache.get
  cases henabled : cache.isEnabled with
  | false => exact .inl rfl
  | true =>
    cases hfails : cache.fails .get with
    | true => exact .inl rfl
    | false =>
      cases htext : cache.text? view.key with
      | none => exact .inl (by simp)
      | some text =>
        obtain ⟨j, hj, rfl⟩ := hcache henabled hfails view text htext
        exact .inr ⟨j, hj, by simp [decode_render hs hj]⟩

/-- A reader leaves entries that are coherent, and removes nothing. -/
structure ReadStep (s : σ) (before after : Cache) : Prop where
  isEnabled : after.isEnabled = before.isEnabled
  failing : after.failing = before.failing
  coherent : Coherent s before → Coherent s after

theorem ReadStep.get (s : σ) (cache : Cache) (key : String) :
    ReadStep s cache (cache.get key).2 := by
  unfold Cache.get
  split
  · exact ⟨rfl, rfl, id⟩
  · exact ⟨rfl, rfl, id⟩

theorem ReadStep.set {s : σ} (cache : Cache) {view : View} {j : Json}
    (hj : view.value? s = .ok (some j)) (ttl : Int) :
    ReadStep s cache (cache.set view.key j ttl) := by
  unfold Cache.set
  split
  · exact ⟨rfl, rfl, id⟩
  · dsimp only
    split
    · exact ⟨rfl, rfl, id⟩
    · exact ⟨rfl, rfl, fun h => Coherent.put h hj⟩

theorem ReadStep.trans {s : σ} {a b c : Cache} (h : ReadStep s a b) (h' : ReadStep s b c) :
    ReadStep s a c :=
  ⟨h'.isEnabled.trans h.isEnabled, h'.failing.trans h.failing,
    fun ha => h'.coherent (h.coherent ha)⟩

/-- A reader relays the answer of the store, at first hand or as it is read back from the cache. -/
structure Relays (s : σ) (cache : Cache) (answer : Except Failure α) (back : α → α)
    (outcome : Except Failure α × Cache) : Prop where
  answer : outcome.1 = answer ∨ outcome.1 = answer.map back
  step : ReadStep s cache outcome.2

/-- What every reader does: it takes the answer from the cache, or else the one of the store, and
leaves there what `leave` makes of that one. -/
def through (cache : Cache) (key : String) (ttl : Int) (decode : Json → Except Failure α)
    (leave : α → Except Failure (Option Json)) (answer : Except Failure α) :
    Except Failure α × Cache :=
  match cache.get key with
  | (.error e, cache) => (.error e, cache)
  | (.ok (some v), cache) => (decode v, cache)
  | (.ok none, cache) =>
    match answer with
    | .error e => (.error e, cache)
    | .ok a =>
      match leave a with
      | .error e => (.error e, cache)
      | .ok none => (.ok a, cache)
      | .ok (some v) => (.ok a, cache.set key v ttl)

theorem throughCache_eq (cache : Cache) (key : String) (ttl : Int)
    (decode : Json → Except Failure α) (encode : α → Except Failure Json)
    (answer : Except Failure α) :
    throughCache cache key ttl decode encode answer =
      through cache key ttl decode (fun a => (encode a).map some) answer := by
  unfold throughCache through
  generalize cache.get key = look
  obtain ⟨found, cache'⟩ := look
  cases found with
  | error e => rfl
  | ok found =>
    cases found with
    | some v => rfl
    | none =>
      cases answer with
      | error e => rfl
      | ok a =>
        dsimp only
        cases encode a <;> rfl

theorem lastPosition_eq (times : CacheTimes) (s : σ) (cache : Cache) (u : VehicleRef) :
    lastPosition times s cache u =
      through cache (lastPositionKey u) times.lastPosition
        (fun v => (PositionRecord.ofJson v).map some)
        (fun last => .ok (last.map PositionRecord.toJson)) (Service.lastPosition s u) := by
  unfold lastPosition through
  generalize cache.get (lastPositionKey u) = look
  obtain ⟨found, cache'⟩ := look
  cases found with
  | error e => rfl
  | ok found =>
    cases found with
    | some v => rfl
    | none =>
      cases Service.lastPosition s u with
      | error e => rfl
      | ok last => cases last <;> rfl

/-- Whoever reads through a coherent cache relays the answer of the store. -/
theorem through_of_coherent {s : σ} (hs : ReadsBack s) {cache : Cache}
    (hcache : cache.isEnabled = true → cache.fails .get = false → Coherent s cache) (view : View)
    {ttl : Int} {decode : Json → Except Failure α} {leave : α → Except Failure (Option Json)}
    {answer : Except Failure α} {back : α → α} (hview : view.value? s = answer >>= leave)
    (hround : ∀ a, answer = .ok a →
      ∃ left, leave a = .ok left ∧ ∀ v ∈ left, decode v = .ok (back a)) :
    Relays s cache answer back (through cache view.key ttl decode leave answer) := by
  unfold through
  have hget := ReadStep.get s cache view.key
  have hcases := get_cases hs hcache view
  generalize cache.get view.key = look at hget hcases ⊢
  obtain ⟨found, cache'⟩ := look
  dsimp only at hcases
  obtain rfl | ⟨j, hj, rfl⟩ := hcases
  · cases answer with
    | error e => exact ⟨.inl rfl, hget⟩
    | ok a =>
      obtain ⟨left, hleave, _⟩ := hround a rfl
      dsimp only
      rw [hleave]
      cases left with
      | none => exact ⟨.inl rfl, hget⟩
      | some j => exact ⟨.inl rfl, hget.trans (.set cache' (hview.trans hleave) ttl)⟩
  · rw [hview] at hj
    obtain ⟨a, rfl, hleave⟩ := bind_eq_ok.mp hj
    obtain ⟨left, hleave', hdecode⟩ := hround a rfl
    rw [hleave] at hleave'
    cases hleave'
    exact ⟨.inr (hdecode j rfl), hget⟩

/-- Whoever reads what is always left in a coherent cache relays the answer of the store. -/
theorem throughCache_of_coherent {s : σ} (hs : ReadsBack s) {cache : Cache}
    (hcache : cache.isEnabled = true → cache.fails .get = false → Coherent s cache) (view : View)
    {ttl : Int} {decode : Json → Except Failure α} {encode : α → Except Failure Json}
    {answer : Except Failure α} {back : α → α}
    (hview : view.value? s = (answer >>= encode).map some)
    (hround : ∀ a, answer = .ok a → ∃ j, encode a = .ok j ∧ decode j = .ok (back a)) :
    Relays s cache answer back (throughCache cache view.key ttl decode encode answer) := by
  rw [throughCache_eq]
  refine through_of_coherent hs hcache view ?_ ?_
  · rw [hview]
    cases answer <;> rfl
  · intro a ha
    obtain ⟨j, hencode, hdecode⟩ := hround a ha
    refine ⟨some j, by rw [hencode]; rfl, ?_⟩
    intro v hv
    rw [← Option.some.inj hv]
    exact hdecode

/-- Last positions are dated in universal time. -/
theorem isLegible_lastPosition {s : σ} {u : VehicleRef} {r : PositionRecord}
    (h : Service.lastPosition s u = .ok (some r)) : r.recordedAt.IsLegible := by
  obtain ⟨w, _, h⟩ := bind_eq_ok.mp h
  obtain ⟨last, _, h⟩ := bind_eq_ok.mp h
  obtain ⟨p, _, rfl⟩ := Option.map_eq_some_iff.mp (Except.ok.inj h)
  exact PositionRecord.isLegible_ofPosition p

theorem lastPosition_of_coherent {times : CacheTimes} {s : σ} (hs : ReadsBack s) {cache : Cache}
    (hcache : cache.isEnabled = true → cache.fails .get = false → Coherent s cache)
    (u : VehicleRef) :
    Relays s cache (Service.lastPosition s u) id (lastPosition times s cache u) := by
  rw [lastPosition_eq]
  refine through_of_coherent hs hcache (.lastPosition u) ?_ ?_
  · show (Service.lastPosition s u).map _ = _
    cases Service.lastPosition s u <;> rfl
  · intro last hlast
    refine ⟨_, rfl, ?_⟩
    intro v hv
    obtain ⟨r, rfl, rfl⟩ := Option.map_eq_some_iff.mp hv
    rw [PositionRecord.ofJson_toJson (isLegible_lastPosition hlast)]
    rfl

namespace ForVehicles

variable {P : Vehicle → Prop} {s : σ}

/-- What vehicles are is seen in every answer. -/
theorem vehicle (hs : ForVehicles P s) {id : VehicleRef} {r : VehicleRecord}
    (h : Service.vehicle s id = .ok r) : ∃ w, P w ∧ r = .ofVehicle w := by
  obtain ⟨w, hw, h⟩ := bind_eq_ok.mp h
  cases h
  obtain ⟨found, hfound, hw⟩ := bind_eq_ok.mp hw
  cases found with
  | none => nomatch hw
  | some w' =>
    cases hw
    exact ⟨w, hs.vehicle? id w hfound, rfl⟩

theorem allVehicles (hs : ForVehicles P s) {rs : List VehicleRecord}
    (h : Service.allVehicles s = .ok rs) : ∀ r ∈ rs, ∃ w, P w ∧ r = .ofVehicle w := by
  obtain ⟨ws, hws, h⟩ := bind_eq_ok.mp h
  cases h
  intro r hr
  obtain ⟨w, hw, rfl⟩ := List.mem_map.mp hr
  exact ⟨w, hs.vehicles ws hws w hw, rfl⟩

theorem track {w : Vehicle} (hw : P w) {r : TrackedVehicle} (h : Service.track s w = .ok r) :
    (∃ w, P w ∧ r.vehicle = .ofVehicle w) ∧
      ∀ p ∈ r.lastPosition, ∃ q, FleetStore.last? s (some w.id) = .ok (some q) ∧
        p = .ofPosition q := by
  obtain ⟨last, hlast, h⟩ := bind_eq_ok.mp h
  cases h
  refine ⟨⟨w, hw, rfl⟩, ?_⟩
  intro p hp
  obtain ⟨q, rfl, rfl⟩ := Option.map_eq_some_iff.mp hp
  exact ⟨q, hlast, rfl⟩

theorem trackedVehicles (hs : ForVehicles P s) {rs : List TrackedVehicle}
    (h : Service.trackedVehicles s = .ok rs) : ∀ r ∈ rs, (∃ w, P w ∧ r.vehicle = .ofVehicle w) ∧
      ∀ p ∈ r.lastPosition, ∃ u q, FleetStore.last? s u = .ok (some q) ∧ p = .ofPosition q := by
  obtain ⟨ws, hws, hrs⟩ := bind_eq_ok.mp h
  have hdated := hs.vehicles ws hws
  clear hws h
  induction ws generalizing rs with
  | nil =>
    cases hrs
    simp
  | cons w rest ih =>
    obtain ⟨hw, hrest⟩ := List.forall_mem_cons.mp hdated
    obtain ⟨r, others, hr, hothers, rfl⟩ := mapM_cons_eq_ok.mp hrs
    obtain ⟨hvehicle, hlast⟩ := track hw hr
    exact List.forall_mem_cons.mpr ⟨⟨hvehicle, fun p hp => ⟨_, hlast p hp⟩⟩, ih hothers hrest⟩

theorem stored {s' : σ} (hs : ForVehicles P s) {ps saved : List Position}
    (h : Stored s ps saved s') : ForVehicles P s' where
  vehicle? u w hw := hs.vehicle? u w (by rw [← h.vehicle?]; exact hw)
  vehicles ws hws := hs.vehicles ws (by rw [← h.vehicles]; exact hws)

end ForVehicles

section Readers

variable {times : CacheTimes} {s : σ} (hs : ReadsBack s) (hdates : ForVehicles Vehicle.HasDate s)
  {cache : Cache} (hcache : cache.isEnabled = true → cache.fails .get = false → Coherent s cache)

include hs hdates hcache

theorem allVehicles_of_coherent :
    Relays s cache (Service.allVehicles s) (List.map (VehicleRecord.mapTimes .readBack))
      (allVehicles times s cache) := by
  refine throughCache_of_coherent hs hcache .vehicles rfl ?_
  intro rs hrs
  refine Json.listOf_ofList fun r hr => VehicleRecord.exists_toJson ?_
  obtain ⟨w, hw, rfl⟩ := hdates.allVehicles hrs r hr
  exact hw

theorem vehicle_of_coherent (id : VehicleRef) :
    Relays s cache (Service.vehicle s id) (VehicleRecord.mapTimes .readBack)
      (vehicle times s cache id) := by
  refine throughCache_of_coherent hs hcache (.vehicle id) rfl ?_
  intro r hr
  obtain ⟨w, hw, rfl⟩ := hdates.vehicle hr
  exact VehicleRecord.exists_toJson hw

theorem trackedVehicles_of_coherent :
    Relays s cache (Service.trackedVehicles s) (List.map (TrackedVehicle.mapTimes .readBack))
      (trackedVehicles times s cache) := by
  refine throughCache_of_coherent hs hcache .tracked rfl ?_
  intro rs hrs
  refine Json.listOf_ofList fun r hr => TrackedVehicle.exists_toJson ?_
  obtain ⟨⟨w, hw, hvehicle⟩, _⟩ := hdates.trackedVehicles hrs r hr
  rw [hvehicle]
  exact hw

end Readers

/-! ## Writing -/

theorem areOrdered_eraseDups {vehicles : List VehicleRef} {u : VehicleRef}
    (h : ∀ v ∈ vehicles, v = u) : areOrdered vehicles.eraseDups = true := by
  have hlength : vehicles.eraseDups.length ≤ 1 := by
    cases vehicles with
    | nil => simp
    | cons v rest =>
      obtain ⟨hv, hrest⟩ := List.forall_mem_cons.mp h
      have hnone : rest.filter (fun w => !w == v) = [] := by
        rw [List.filter_eq_nil_iff]
        intro w hw
        rw [hrest w hw, hv]
        simp
      rw [List.eraseDups_cons, hnone]
      simp
  unfold areOrdered
  rw [decide_eq_true hlength, Bool.or_true]

/-- A removal that did not fail leaves the texts under all other keys. -/
theorem text?_delete {cache : Cache} (henabled : cache.isEnabled = true) {keys : List String}
    (hkeys : keys.isEmpty = false) (hremoved : removalFailed cache (cache.delete keys) = false)
    (key : String) :
    (cache.delete keys).text? key = if key ∈ keys then none else cache.text? key := by
  let issued := cache.issue (.delete (keys.mergeSort fun a b => a ≤ b))
  have hdelete : cache.delete keys = if issued.fails .delete then issued else issued.drop keys := by
    unfold Cache.delete
    rw [henabled, hkeys]
    rfl
  rw [hdelete] at hremoved ⊢
  by_cases hfails : issued.fails .delete = true
  · -- the command was issued, so its failure is a removal that failed
    rw [if_pos hfails] at hremoved
    unfold removalFailed at hremoved
    rw [hfails] at hremoved
    simp [issued, Cache.issue, CacheCommand.verb] at hremoved
  · rw [if_neg hfails]
    exact text?_drop issued keys key

/-- What is left after a removal that did not fail says what the store would say after the save. -/
theorem coherent_invalidate {s s' : σ} {ps saved : List Position} (h : Stored s ps saved s')
    {cache : Cache} (henabled : cache.isEnabled = true) (hcoherent : Coherent s cache)
    {vehicles : List VehicleRef} (hvehicles : ∀ u ∈ ps.map Position.vehicle, u ∈ vehicles)
    (hremoved : removalFailed cache (invalidate cache vehicles).2 = false) :
    Coherent s' (invalidate cache vehicles).2 := by
  let keys := vehicles.eraseDups.map lastPositionKey ++ [trackedKey]
  have hkeys : keys.isEmpty = false := by simp [keys]
  intro view text htext
  have htext : (cache.delete keys).text? view.key = some text := htext
  rw [text?_delete henabled hkeys hremoved] at htext
  split at htext
  · nomatch htext
  · -- a view whose key is left is none that the save changes
    rename_i hkey
    have hview : view.value? s' = view.value? s := by
      refine View.value?_stored h ?_ ?_
      · rintro rfl
        exact absurd (List.mem_append_right _ (List.mem_singleton_self _)) hkey
      · rintro u hu rfl
        exact hkey (List.mem_append_left _
          (List.mem_map_of_mem (List.mem_eraseDups.mpr (hvehicles u hu))))
    rw [hview]
    exact hcoherent view text htext

theorem Coherent.stored_nil {s s' : σ} {cache : Cache} (hcoherent : Coherent s cache)
    {saved : List Position} (h : Stored s [] saved s') : Coherent s' cache := by
  intro view text htext
  rw [View.value?_stored h (fun _ => rfl) (fun u hu => nomatch hu)]
  exact hcoherent view text htext

theorem isEnabled_invalidate (cache : Cache) (vehicles : List VehicleRef) :
    (invalidate cache vehicles).2.isEnabled = cache.isEnabled := by
  show (cache.delete _).isEnabled = _
  unfold Cache.delete
  split
  · rfl
  · dsimp only
    split <;> rfl

/-- The views of one vehicle are removed without complaint. -/
theorem invalidate_eq (cache : Cache) {vehicles : List VehicleRef} {u : VehicleRef}
    (h : ∀ v ∈ vehicles, v = u) :
    invalidate cache vehicles = (.ok (), (invalidate cache vehicles).2) :=
  Prod.ext (if_pos (areOrdered_eraseDups h)) rfl

/-- The answer of the store, at first hand or as it is read back. -/
def SameOrReadBack (answer stored : Except Failure Answer) : Prop :=
  answer = stored ∨ answer = stored.map Answer.readBack

/-- To read back an answer is to read back what it is made of. -/
theorem map_back {f : α → Answer} {back : α → α} (hback : ∀ a, f (back a) = (f a).readBack)
    (answer : Except Failure α) :
    (answer.map back).map f = (answer.map f).map Answer.readBack := by
  cases answer with
  | error e => rfl
  | ok a => exact congrArg Except.ok (hback a)

/-- What is read back as it was makes no other answer. -/
theorem readBack_kept {f : α → Answer} {answer : Except Failure α} {back : α → α}
    (hback : ∀ a, f (back a) = (f a).readBack) (hsame : ∀ a, answer = .ok a → back a = a) :
    (answer.map f).map Answer.readBack = answer.map f := by
  rw [← map_back hback]
  cases answer with
  | error e => rfl
  | ok a => exact congrArg (fun a => Except.ok (f a)) (hsame a rfl)

/-! ## Single calls -/

/-- A call of a cached service that comes to what the store alone comes to, and whose cache is
coherent afterwards unless a removal failed. -/
structure IsFaithful (v : Validator) (s : σ) (cache : Cache) (r : Request)
    (outcome : Except Failure Answer × σ × Cache) : Prop where
  answer : SameOrReadBack outcome.1 (r.run v s).1
  store : outcome.2.1 = (r.run v s).2
  isEnabled : outcome.2.2.isEnabled = cache.isEnabled
  coherent : cache.isEnabled = true → Coherent s cache →
    removalFailed cache outcome.2.2 = false → Coherent outcome.2.1 outcome.2.2

/-- A question is answered faithfully if the answer of the store is relayed. -/
theorem isFaithful_read {v : Validator} {s : σ} {cache : Cache} {r : Request} {f : α → Answer}
    {answer : Except Failure α} {outcome : Except Failure α × Cache} {back : α → α}
    (hr : r.run v s = (answer.map f, s)) (hback : ∀ a, f (back a) = (f a).readBack)
    (h : Relays s cache answer back outcome) :
    IsFaithful v s cache r (outcome.map (Except.map f) (s, ·)) where
  answer := by
    show SameOrReadBack (outcome.1.map f) _
    rw [hr]
    obtain h | h := h.answer
    · exact .inl (by rw [h])
    · exact .inr (by rw [h, map_back hback])
  store := by
    rw [hr]
    rfl
  isEnabled := h.step.isEnabled
  coherent _ hcoherent _ := h.step.coherent hcoherent

/-- Where nothing was stored, the cache may stay as it is. -/
theorem isFaithful_unchanged {v : Validator} {s : σ} (cache : Cache) {r : Request}
    {answer : Except Failure Answer} (hr : r.run v s = (answer, s)) :
    IsFaithful v s cache r (answer, s, cache) where
  answer := .inl (by rw [hr])
  store := by rw [hr]
  isEnabled := rfl
  coherent _ hcoherent _ := hcoherent

/-- A save is answered faithfully if the views of its vehicles are removed. -/
theorem isFaithful_write {v : Validator} {s s' : σ} (cache : Cache) {r : Request}
    {answer : Except Failure Answer} {ps saved : List Position} (hr : r.run v s = (answer, s'))
    (h : Stored s ps saved s') {vehicles : List VehicleRef}
    (hvehicles : ∀ u ∈ ps.map Position.vehicle, u ∈ vehicles) :
    IsFaithful v s cache r (answer, s', (invalidate cache vehicles).2) where
  answer := .inl (by rw [hr])
  store := by rw [hr]
  isEnabled := isEnabled_invalidate cache vehicles
  coherent henabled hcoherent hremoved :=
    coherent_invalidate h henabled hcoherent hvehicles hremoved

variable [LawfulStore σ] {s : σ}

theorem isFaithful_submit (hs : LawfulStore.IsIdle s) (times : CacheTimes) (v : Validator)
    (cache : Cache) (p? : Option Position) :
    IsFaithful v s cache (.submit p?) (run times v s cache (.submit p?)) := by
  show IsFaithful v s cache (.submit p?) ((submit v s cache p?).map (Except.map .position) id)
  unfold submit
  obtain ⟨e, h⟩ | ⟨p, q, s', rfl, h, hstored, _⟩ := Service.submit_cases hs v p?
  · have hr : (Request.submit p?).run v s = (.error e, s) :=
      congrArg (Prod.map (Except.map Answer.position) id) h
    rw [h]
    exact isFaithful_unchanged cache hr
  · have hr : (Request.submit (some p)).run v s = (.ok (.position q), s') :=
      congrArg (Prod.map (Except.map Answer.position) id) h
    have hone : ∀ w ∈ [p].map Position.vehicle, w = p.vehicle :=
      fun _ hw => List.mem_singleton.mp hw
    rw [h]
    dsimp only [Option.toList]
    rw [invalidate_eq cache hone]
    exact isFaithful_write cache hr hstored fun _ hu => hu

theorem isFaithful_submitBatch (hs : LawfulStore.IsIdle s) (times : CacheTimes) (v : Validator)
    (cache : Cache) (policy : BatchPolicy) (ps? : Option (List Position)) :
    IsFaithful v s cache (.submitBatch policy ps?)
      (run times v s cache (.submitBatch policy ps?)) := by
  show IsFaithful v s cache (.submitBatch policy ps?)
    ((submitBatch v policy s cache ps?).map (Except.map .positions) id)
  unfold submitBatch
  obtain ⟨e, h⟩ | ⟨accepted, saved, s', u, h, hstored, _, hu⟩ :=
    Service.submitBatch_cases hs v policy ps?
  · have hr : (Request.submitBatch policy ps?).run v s = (.error e, s) :=
      congrArg (Prod.map (Except.map Answer.positions) id) h
    rw [h]
    exact isFaithful_unchanged cache hr
  · have hr : (Request.submitBatch policy ps?).run v s = (.ok (.positions saved), s') :=
      congrArg (Prod.map (Except.map Answer.positions) id) h
    have hvehicles := hstored.map_vehicle
    rw [h]
    cases saved with
    | nil =>
      -- a batch of which nothing was accepted leaves the views as they are
      have hnone : accepted = [] := List.map_eq_nil_iff.mp hvehicles.symm
      subst hnone
      exact ⟨.inl (by rw [hr]; rfl), by rw [hr]; rfl, rfl,
        fun _ hcoherent _ => hcoherent.stored_nil hstored⟩
    | cons q others =>
      have hone : ∀ w ∈ (q :: others).map Position.vehicle, w = u := by
        rw [hvehicles]
        intro w hw
        obtain ⟨p, hp, rfl⟩ := List.mem_map.mp hw
        exact hu p hp
      dsimp only
      rw [invalidate_eq cache hone, hvehicles]
      exact isFaithful_write cache hr hstored fun _ hw => hw

/-- A coherent cache, or one that is not asked, does not show in what a cached service does. -/
theorem isFaithful_run (hs : LawfulStore.IsIdle s) (hdates : ForVehicles Vehicle.HasDate s)
    (hreads : ReadsBack s) (times : CacheTimes) (v : Validator) {cache : Cache}
    (hcache : cache.isEnabled = true → cache.fails .get = false → Coherent s cache) (r : Request) :
    IsFaithful v s cache r (run times v s cache r) := by
  cases r with
  | submit p? => exact isFaithful_submit hs times v cache p?
  | submitBatch policy ps? => exact isFaithful_submitBatch hs times v cache policy ps?
  | lastPosition u =>
    exact isFaithful_read rfl (fun _ => rfl) (lastPosition_of_coherent hreads hcache u)
  | allVehicles =>
    exact isFaithful_read rfl (fun _ => rfl) (allVehicles_of_coherent hreads hdates hcache)
  | vehicle id =>
    exact isFaithful_read rfl (fun _ => rfl) (vehicle_of_coherent hreads hdates hcache id)
  | trackedVehicles =>
    exact isFaithful_read rfl (fun _ => rfl) (trackedVehicles_of_coherent hreads hdates hcache)
  | positions u start stop => exact isFaithful_unchanged cache rfl
  | route u start stop => exact isFaithful_unchanged cache rfl
  | statistics u start stop => exact isFaithful_unchanged cache rfl
  | trackedVehicle id => exact isFaithful_unchanged cache rfl

/-! ## Legible dates -/

omit [LawfulStore σ]

theorem mapTimes_ofVehicle {w : Vehicle} (hw : w.HasLegibleDate) :
    (VehicleRecord.ofVehicle w).mapTimes .readBack = .ofVehicle w :=
  VehicleRecord.mapTimes_eq_iff.mpr fun t ht => Timestamp.readBack_eq_iff.mpr (hw t ht)

/-- Where all dates are legible, nothing is lost. -/
theorem readBack_run (hs : ForVehicles Vehicle.HasLegibleDate s) (v : Validator) (r : Request) :
    (r.run v s).1.map Answer.readBack = (r.run v s).1 := by
  have hlist {α : Type} {back : α → α} {l : List α} (h : ∀ a ∈ l, back a = a) : l.map back = l := by
    rw [List.map_congr_left h, List.map_id']
  cases r with
  | allVehicles =>
    refine readBack_kept (fun _ => rfl) fun rs hrs => hlist fun r hr => ?_
    obtain ⟨w, hw, rfl⟩ := hs.allVehicles hrs r hr
    exact mapTimes_ofVehicle hw
  | vehicle id =>
    refine readBack_kept (fun _ => rfl) fun r hr => ?_
    obtain ⟨w, hw, rfl⟩ := hs.vehicle hr
    exact mapTimes_ofVehicle hw
  | trackedVehicles =>
    refine readBack_kept (fun _ => rfl) fun rs hrs => hlist fun r hr => ?_
    obtain ⟨⟨w, hw, hvehicle⟩, hlast⟩ := hs.trackedVehicles hrs r hr
    refine TrackedVehicle.mapTimes_eq_iff.mpr
      ⟨by rw [hvehicle]; exact mapTimes_ofVehicle hw, fun p hp => ?_⟩
    obtain ⟨u, q, _, rfl⟩ := hlast p hp
    exact PositionRecord.mapTimes_eq_iff.mpr
      (Timestamp.readBack_eq_iff.mpr (PositionRecord.isLegible_ofPosition q))
  | _ => exact readBack_kept (fun _ => rfl) fun _ _ => id_eq _

end Cached

end FleetTracking
