import FleetTracking.Proofs.Feed.Account
import FleetTracking.Proofs.Record

/-!
# Listings of the wrong shape

A client passes over bad values and missing fields: a listing with one of them counts as empty. It
does not pass over a value of the wrong kind. Where an object is expected and something else is
there, or a time and no text, the failure comes out of the client, and the run of the generator that
asked for the listing ends with it.

What the client cannot cope with is said here without the reader, kind by kind
(`Reply.IsMisshapen`), from the records (`RecordForm`) up to the reply. A run fails on just those
replies (`Generator.run_fails_iff`), and it does so on an empty array in place of the object around
the listing (`Generator.run_bareListing`).

Records are read in order and the first one that cannot be read decides, so one of the wrong shape
does no harm behind one that lacks a field.
-/

namespace FleetTracking

/-! ## Failures that come out -/

/-- The operation fails for a cause that is not expected of a listing. -/
def Escapes (x : Except Failure α) : Prop :=
  ∃ e, x = .error e ∧ Feed.Client.isExpected e = false

theorem not_escapes_ok (a : α) : ¬Escapes (.ok a : Except Failure α) := by
  rintro ⟨e, he, _⟩
  nomatch he

theorem escapes_error {e : Failure} :
    Escapes (.error e : Except Failure α) ↔ Feed.Client.isExpected e = false := by
  constructor
  · rintro ⟨e', he', h⟩
    cases he'
    exact h
  · exact fun h => ⟨e, rfl, h⟩

/-- Of two operations, the second one is come to if the first has an answer. -/
theorem escapes_bind {x : Except Failure α} {f : α → Except Failure β} :
    Escapes (x >>= f) ↔ Escapes x ∨ ∃ a, x = .ok a ∧ Escapes (f a) := by
  cases x with
  | error e => simp [Escapes, bind, Except.bind]
  | ok a => simp [Escapes, bind, Except.bind]

theorem not_exists_of_escapes {x : Except Failure α} (h : Escapes x) : ¬∃ a, x = .ok a := by
  rintro ⟨a, rfl⟩
  exact not_escapes_ok a h

theorem exists_bind {x : Except ε α} {f : α → Except ε β} :
    (∃ b, (x >>= f) = .ok b) ↔ ∃ a, x = .ok a ∧ ∃ b, f a = .ok b := by
  cases x <;> simp [bind, Except.bind]

/-- Of a list, the first member without an answer decides. -/
theorem escapes_mapM {f : α → Except Failure β} {l : List α} :
    Escapes (l.mapM f) ↔ ∃ before a after, l = before ++ a :: after ∧
      (∀ b ∈ before, ∃ r, f b = .ok r) ∧ Escapes (f a) := by
  induction l with
  | nil =>
    constructor
    · exact fun h => absurd h (not_escapes_ok [])
    · rintro ⟨before, a, after, h, _⟩
      simp at h
  | cons first rest ih =>
    rw [List.mapM_cons, escapes_bind]
    constructor
    · rintro (h | ⟨r, hr, h⟩)
      · exact ⟨[], first, rest, rfl, List.forall_mem_nil _, h⟩
      · have hrest : Escapes (rest.mapM f) :=
          (escapes_bind.mp h).resolve_right fun ⟨bs, _, h⟩ => not_escapes_ok (r :: bs) h
        obtain ⟨before, a, after, rfl, hbefore, ha⟩ := ih.mp hrest
        exact ⟨first :: before, a, after, rfl, List.forall_mem_cons.mpr ⟨⟨r, hr⟩, hbefore⟩, ha⟩
    · rintro ⟨before, a, after, hsplit, hbefore, ha⟩
      cases before with
      | nil =>
        cases hsplit
        exact .inl ha
      | cons b before =>
        cases hsplit
        obtain ⟨⟨r, hr⟩, hbefore⟩ := List.forall_mem_cons.mp hbefore
        exact .inr ⟨r, hr, escapes_bind.mpr (.inl (ih.mpr ⟨before, a, after, rfl, hbefore, ha⟩))⟩

/-! ## Fields -/

namespace Json

def IsText : Json → Prop
  | string _ => True
  | _ => False

/-- A text with a time that is read. -/
def IsTime (v : Json) : Prop := ∃ s t, v = .string s ∧ Timestamp.parse? s = some t

theorem escapes_require {v : Json} {name : String} : Escapes (v.require name) ↔ ¬v.IsObject := by
  cases v with
  | object fields =>
    cases h : lookup name fields with
    | none => simp [require, h, IsObject, escapes_error, Feed.Client.isExpected]
    | some value => simp [require, h, IsObject, not_escapes_ok]
  | _ => simp [require, escapes_error, Feed.Client.isExpected, IsObject]

theorem escapes_optional {v : Json} {name : String} :
    Escapes (v.optional name) ↔ ¬v.IsObject := by
  cases v <;> simp [optional, IsObject, escapes_error, not_escapes_ok, Feed.Client.isExpected]

theorem isVacant_getD {found : Option Json} : (found.getD .null).isVacant = false ↔
    ∃ v, found = some v ∧ v.isVacant = false := by
  cases found <;> simp [isVacant]

end Json

namespace Timestamp

theorem exists_ofJson {v : Json} : (∃ t, ofJson v = .ok t) ↔ v.IsTime := by
  simp only [ofJson_eq_ok]
  exact exists_comm

theorem escapes_ofJson {v : Json} : Escapes (ofJson v) ↔ ¬v.IsText := by
  cases v with
  | string s =>
    show Escapes (parse s) ↔ ¬True
    unfold parse
    cases parse? s with
    | none => simp [escapes_error, Feed.Client.isExpected]
    | some t => simp [not_escapes_ok]
  | _ => simp [ofJson, escapes_error, Feed.Client.isExpected, Json.IsText]

end Timestamp

/-! ## Records -/

namespace RecordForm

variable (form : RecordForm) (v : Json)

def HasFields : Prop := ∀ name ∈ form.fields, ∃ w, v.field? name = some w

/-- Everything that is asked for is there. -/
def IsFilled : Prop := form.HasFields v ∧ ∃ w, v.field? form.time = some w ∧ w.IsTime

/-- The record is no object, or it has all fields and its time is no text. -/
def IsMisshapen : Prop :=
  ¬v.IsObject ∨ form.HasFields v ∧ ∃ w, v.field? form.time = some w ∧ ¬w.IsText

end RecordForm

theorem VehicleRecord.exists_ofJson {v : Json} :
    (∃ r, ofJson v = .ok r) ↔ RecordForm.vehicle.IsFilled v := by
  unfold ofJson
  simp only [exists_bind, Json.require_eq_ok]
  simp [RecordForm.IsFilled, RecordForm.HasFields, RecordForm.vehicle, Timestamp.exists_ofJson,
    pure, Except.pure, and_assoc]

theorem VehicleRecord.escapes_ofJson {v : Json} :
    Escapes (ofJson v) ↔ RecordForm.vehicle.IsMisshapen v := by
  unfold ofJson RecordForm.IsMisshapen
  simp only [escapes_bind, Json.escapes_require, Json.require_eq_ok, Timestamp.escapes_ofJson]
  by_cases hobject : v.IsObject
  · simp [hobject, RecordForm.HasFields, RecordForm.vehicle, pure, Except.pure, not_escapes_ok,
      and_assoc]
  · simp [hobject]

namespace PositionRecord

variable {v : Json}

theorem escapes_of_not_isObject (h : ¬v.IsObject) : Escapes (ofJson v) :=
  escapes_bind.mpr (.inl (Json.escapes_optional.mpr h))

theorem exists_ofJson : (∃ r, ofJson v = .ok r) ↔ RecordForm.position.IsFilled v := by
  by_cases hobject : v.IsObject
  · unfold ofJson
    simp only [exists_bind, Json.require_eq_ok, Json.optional_eq hobject]
    simp [RecordForm.IsFilled, RecordForm.HasFields, RecordForm.position, Timestamp.exists_ofJson,
      pure, Except.pure, and_assoc]
  · constructor
    · intro h
      exact absurd h (not_exists_of_escapes (escapes_of_not_isObject hobject))
    · rintro ⟨_, _, hdate, _⟩
      exact absurd (Json.isObject_of_field? hdate) hobject

theorem escapes_ofJson : Escapes (ofJson v) ↔ RecordForm.position.IsMisshapen v := by
  by_cases hobject : v.IsObject
  · unfold ofJson RecordForm.IsMisshapen
    simp only [escapes_bind, Json.escapes_require, Json.require_eq_ok, Json.optional_eq hobject,
      Timestamp.escapes_ofJson]
    simp [hobject, RecordForm.HasFields, RecordForm.position, pure, Except.pure, not_escapes_ok,
      and_assoc]
  · exact iff_of_true (escapes_of_not_isObject hobject) (.inl hobject)

end PositionRecord

namespace TrackedVehicle

variable (v : Json)

/-- The last position that a value names, if it counts as given. -/
def lastOf? : Option Json := (v.field? "last_position").filter (!·.isVacant)

/-- A vehicle is there, and its last position if there is one. -/
def IsFilled : Prop :=
  ∃ w, v.field? "vehicle" = some w ∧ RecordForm.vehicle.IsFilled w ∧
    ∀ last, lastOf? v = some last → RecordForm.position.IsFilled last

/-- The value is no object, or its vehicle is of the wrong shape, or there is nothing wrong with the
vehicle and its last position is of the wrong shape. -/
def IsMisshapen : Prop :=
  ¬v.IsObject ∨ ∃ w, v.field? "vehicle" = some w ∧ (RecordForm.vehicle.IsMisshapen w ∨
    RecordForm.vehicle.IsFilled w ∧
      ∃ last, lastOf? v = some last ∧ RecordForm.position.IsMisshapen last)

variable {v}

/-- An object is read vehicle first, and then its last position if it counts as given. -/
theorem ofJson_cases (hobject : v.IsObject) :
    (lastOf? v = none ∧ ofJson v = (do
      let vehicle ← VehicleRecord.ofJson (← v.require "vehicle")
      return ⟨vehicle, none⟩)) ∨
    ∃ last, lastOf? v = some last ∧ ofJson v = (do
      let vehicle ← VehicleRecord.ofJson (← v.require "vehicle")
      return ⟨vehicle, some (← PositionRecord.ofJson last)⟩) := by
  unfold ofJson lastOf?
  rw [Json.optional_eq hobject]
  cases v.field? "last_position" with
  | none => exact .inl ⟨rfl, rfl⟩
  | some last =>
    cases hvacant : last.isVacant with
    | true => exact .inl ⟨by simp [Option.filter, hvacant], by simp [bind, Except.bind, hvacant]⟩
    | false =>
      exact .inr ⟨last, by simp [Option.filter, hvacant], by simp [bind, Except.bind, hvacant]⟩

theorem escapes_of_not_isObject (h : ¬v.IsObject) : Escapes (ofJson v) :=
  escapes_bind.mpr (.inl (Json.escapes_optional.mpr h))

theorem exists_ofJson : (∃ r, ofJson v = .ok r) ↔ IsFilled v := by
  unfold IsFilled
  by_cases hobject : v.IsObject
  · obtain ⟨hlast, hread⟩ | ⟨last, hlast, hread⟩ := ofJson_cases hobject
    · rw [hlast, hread]
      simp [exists_bind, Json.require_eq_ok, VehicleRecord.exists_ofJson, pure, Except.pure]
    · rw [hlast, hread]
      simp [exists_bind, Json.require_eq_ok, VehicleRecord.exists_ofJson,
        PositionRecord.exists_ofJson, pure, Except.pure]
  · constructor
    · intro h
      exact absurd h (not_exists_of_escapes (escapes_of_not_isObject hobject))
    · rintro ⟨_, hvehicle, _⟩
      exact absurd (Json.isObject_of_field? hvehicle) hobject

theorem escapes_ofJson : Escapes (ofJson v) ↔ IsMisshapen v := by
  unfold IsMisshapen
  by_cases hobject : v.IsObject
  · obtain ⟨hlast, hread⟩ | ⟨last, hlast, hread⟩ := ofJson_cases hobject
    · rw [hlast, hread]
      simp [escapes_bind, hobject, Json.escapes_require, Json.require_eq_ok,
        VehicleRecord.escapes_ofJson, pure, Except.pure, not_escapes_ok]
    · rw [hlast, hread]
      simp [escapes_bind, hobject, Json.escapes_require, Json.require_eq_ok,
        VehicleRecord.escapes_ofJson, VehicleRecord.exists_ofJson, PositionRecord.escapes_ofJson,
        pure, Except.pure, not_escapes_ok]
  · exact iff_of_true (escapes_of_not_isObject hobject) (.inl hobject)

end TrackedVehicle

/-! ## Listings -/

namespace Feed

/-- The data of a listing cannot be gone through, or the first of its items that is not filled is of
the wrong shape. -/
def IsMisshapenData (data : Json) : Prop :=
  (∀ items, data.members ≠ .ok items) ∨ ∃ before item after,
    data.members = .ok (before ++ item :: after) ∧ (∀ v ∈ before, TrackedVehicle.IsFilled v) ∧
      TrackedVehicle.IsMisshapen item

/-- The body reports success and has data. -/
def HasData (body data : Json) : Prop :=
  (∃ success, body.field? "success" = some success ∧ success.isVacant = false) ∧
    body.field? "data" = some data ∧ data ≠ .null

theorem HasData.unique {body data data' : Json} (h : HasData body data) (h' : HasData body data') :
    data' = data :=
  Option.some.inj (h'.2.1.symm.trans h.2.1)

namespace Reply

/-- The body of a success is nested too deep, is no object, or has data of the wrong shape. -/
def IsMisshapen : Reply → Prop
  | .response status body => status = 200 ∧
    (Json.parseBody body = .error (.notJson .tooDeep) ∨ ∃ v, Json.parseBody body = .ok v ∧
      (¬v.IsObject ∨ ∃ data, HasData v data ∧ IsMisshapenData data))
  | .unanswered | .broken => False

/-- The data of a success are the records of these vehicles, one by one. -/
def Lists (vehicles : List TrackedVehicle) : Reply → Prop
  | .response status body => status = 200 ∧ ∃ v data, Json.parseBody body = .ok v ∧
    HasData v data ∧ Json.listOf TrackedVehicle.ofJson data = .ok vehicles
  | .unanswered | .broken => False

end Reply

theorem escapes_listOf {data : Json} :
    Escapes (Json.listOf TrackedVehicle.ofJson data) ↔ IsMisshapenData data := by
  unfold Json.listOf IsMisshapenData
  simp only [escapes_bind, escapes_mapM, TrackedVehicle.exists_ofJson,
    TrackedVehicle.escapes_ofJson]
  constructor
  · rintro (⟨e, he, _⟩ | ⟨items, hitems, before, item, after, rfl, hbefore, hitem⟩)
    · exact .inl fun items hitems => by simp [he] at hitems
    · exact .inr ⟨before, item, after, hitems, hbefore, hitem⟩
  · rintro (hnone | ⟨before, item, after, hitems, hbefore, hitem⟩)
    · left
      cases data with
      | array items => exact absurd rfl (hnone items)
      | object fields => exact absurd rfl (hnone _)
      | string s => exact absurd rfl (hnone _)
      | _ => exact escapes_error.mpr rfl
    · exact .inr ⟨_, hitems, before, item, after, rfl, hbefore, hitem⟩

namespace Client

/-- A body is no text, or no object, or without data, or its data are gone through. -/
theorem readListing_cases (body : String) :
    (∃ t, Json.parseBody body = .error t ∧ readListing body = .error (.ofBody t)) ∨
    ∃ v, Json.parseBody body = .ok v ∧
      (¬v.IsObject ∧ readListing body = .error .missingMember ∨
      v.IsObject ∧ (∀ data, ¬HasData v data) ∧ readListing body = .ok [] ∨
      ∃ data, HasData v data ∧ readListing body = Json.listOf TrackedVehicle.ofJson data) := by
  unfold readListing
  cases hparse : Json.parseBody body with
  | error t => exact .inl ⟨t, rfl, rfl⟩
  | ok v =>
    refine .inr ⟨v, rfl, ?_⟩
    by_cases hobject : v.IsObject
    · right
      simp only [Except.mapError, bind, Except.bind, Json.optional_eq hobject]
      unfold HasData
      rw [← Json.isVacant_getD]
      cases ((v.field? "success").getD .null).isVacant with
      | true => exact .inl ⟨hobject, by simp, rfl⟩
      | false =>
        cases v.field? "data" with
        | none => exact .inl ⟨hobject, by simp, rfl⟩
        | some data =>
          cases data with
          | null => exact .inl ⟨hobject, by simp, rfl⟩
          | _ => exact .inr ⟨_, ⟨rfl, rfl, nofun⟩, rfl⟩
    · left
      refine ⟨hobject, ?_⟩
      cases v with
      | object fields => exact absurd trivial hobject
      | _ => rfl

theorem escapes_readListing {body : String} : Escapes (readListing body) ↔
    Json.parseBody body = .error (.notJson .tooDeep) ∨ ∃ v, Json.parseBody body = .ok v ∧
      (¬v.IsObject ∨ ∃ data, HasData v data ∧ IsMisshapenData data) := by
  obtain ⟨t, hparse, hread⟩ | ⟨v, hparse, ⟨hobject, hread⟩ | ⟨hobject, hnone, hread⟩ |
    ⟨data, hdata, hread⟩⟩ := readListing_cases body
  · rw [hread, hparse, escapes_error]
    cases t with
    | notText => simp [Failure.ofBody, isExpected]
    | notJson t => cases t <;> simp [Failure.ofBody, Failure.ofJson, isExpected]
  · rw [hread, hparse, escapes_error]
    simp [isExpected, hobject]
  · rw [hread, hparse]
    simp [not_escapes_ok, hobject, hnone]
  · rw [hread, hparse, escapes_listOf]
    simp only [reduceCtorEq, Except.ok.injEq, false_or, exists_eq_left']
    constructor
    · exact fun h => .inr ⟨data, hdata, h⟩
    · rintro (hobject | ⟨data', hdata', h⟩)
      · exact absurd (Json.isObject_of_field? hdata.2.1) hobject
      · rw [hdata'.unique hdata]
        exact h

/-- A listing is read as the vehicles whose records it has. -/
theorem readListing_of_lists {vehicles : List TrackedVehicle} {status : Int} {body : String}
    (h : Reply.Lists vehicles (.response status body)) : readListing body = .ok vehicles := by
  obtain ⟨_, v, data, hv, hdata, hitems⟩ := h
  obtain ⟨t, hparse, _⟩ | ⟨v', hparse, ⟨hobject, _⟩ | ⟨_, hnone, _⟩ | ⟨data', hdata', hread⟩⟩ :=
    readListing_cases body
  · rw [hv] at hparse
    nomatch hparse
  all_goals
    rw [hv] at hparse
    cases hparse
  · exact absurd (Json.isObject_of_field? hdata.2.1) hobject
  · exact absurd hdata (hnone data)
  · rw [hread, hdata.unique hdata']
    exact hitems

/-- What is read are the vehicles of a listing, or none. -/
theorem lists_of_readListing {vehicles : List TrackedVehicle} {body : String}
    (h : readListing body = .ok vehicles) :
    Reply.Lists vehicles (.response 200 body) ∨ vehicles = [] := by
  obtain ⟨t, _, hread⟩ | ⟨v, hparse, ⟨_, hread⟩ | ⟨_, _, hread⟩ | ⟨data, hdata, hread⟩⟩ :=
    readListing_cases body
  all_goals rw [hread] at h
  · nomatch h
  · nomatch h
  · exact .inr (Except.ok.inj h).symm
  · exact .inl ⟨rfl, v, data, hparse, hdata, h⟩

variable {url : Url} (habsolute : url.isAbsolute = true)

include habsolute

/-- Of a success, the client has what it reads, or nothing where that fails as it may. -/
theorem vehiclesOf_success (body : String) :
    (Escapes (readListing body) ∧ ∃ e, vehiclesOf url (.response 200 body) = .error e) ∨
    ¬Escapes (readListing body) ∧
      vehiclesOf url (.response 200 body) = .ok ((readListing body).toOption.getD []) := by
  unfold vehiclesOf
  simp only [habsolute]
  cases readListing body with
  | ok vehicles => exact .inr ⟨not_escapes_ok _, rfl⟩
  | error e =>
    cases h : isExpected e with
    | true => exact .inr ⟨by simp [escapes_error, h], by simp [h]; rfl⟩
    | false => exact .inl ⟨escapes_error.mpr h, e, by simp [h]⟩

/-- The client fails on misshapen replies, and where the network broke down. On every other reply
it has the vehicles that the reply lists, none if it lists none. -/
theorem vehiclesOf_cases (reply : Reply) :
    ((∃ e, vehiclesOf url reply = .error e) ∧ (reply = .broken ∨ reply.IsMisshapen)) ∨
    ∃ vehicles, vehiclesOf url reply = .ok vehicles ∧ ¬(reply = .broken ∨ reply.IsMisshapen) ∧
      (reply.Lists vehicles ∨ vehicles = [] ∧ ∀ others, ¬reply.Lists others) := by
  cases reply with
  | unanswered => exact .inr ⟨[], rfl, by simp [Reply.IsMisshapen], .inr ⟨rfl, fun _ => id⟩⟩
  | broken => exact .inl ⟨⟨_, rfl⟩, .inl rfl⟩
  | response status body =>
    by_cases hstatus : status = 200
    · subst hstatus
      obtain ⟨hescapes, hfails⟩ | ⟨hescapes, hread⟩ := vehiclesOf_success habsolute body
      · exact .inl ⟨hfails, .inr ⟨rfl, escapes_readListing.mp hescapes⟩⟩
      · refine .inr ⟨_, hread, ?_, ?_⟩
        · rintro (hbroken | ⟨_, h⟩)
          · cases hbroken
          · exact hescapes (escapes_readListing.mpr h)
        · by_cases hlists : ∃ vehicles, Reply.Lists vehicles (.response 200 body)
          · obtain ⟨vehicles, hlists⟩ := hlists
            rw [readListing_of_lists hlists]
            exact .inl hlists
          · right
            refine ⟨?_, fun others h => hlists ⟨others, h⟩⟩
            cases h : readListing body with
            | error e => rfl
            | ok vehicles => exact (lists_of_readListing h).resolve_left fun h => hlists ⟨_, h⟩
    · refine .inr ⟨[], by simp [vehiclesOf, hstatus], ?_, .inr ⟨rfl, fun _ h => hstatus h.1⟩⟩
      rintro (hbroken | ⟨h, _⟩)
      · cases hbroken
      · exact hstatus h

end Client

/-! ## Runs -/

namespace Client

variable {ν : Type} [Network ν] {c : Client} {url : Url}

/-- Vehicles are what the reply to one request says. -/
theorem vehicles_eq (hurl : c.destination listingPath = .ok url) (net : ν) :
    c.vehicles net = (Network.send net ⟨.get, url.render, none⟩).map (vehiclesOf url) id := by
  unfold vehicles
  rw [hurl]

end Client

namespace Generator

variable {ρ ν : Type} [RandomSource ρ] [Network ν] {g : Generator}

/-- A run fails as asking for the vehicles does. -/
theorem run_eq_error {rng : ρ} {net : ν} {now : Instant} {e : Failure} :
    (g.run rng net now).1 = .error e ↔ (g.client.vehicles net).1 = .error e := by
  unfold run
  obtain ⟨result, net'⟩ := g.client.vehicles net
  cases result with
  | error e' => simp
  | ok vehicles => simp

/-- What a service with an absolute address replies decides alone whether its vehicles can be asked
for, and whether a run comes to its end: they cannot if the reply is misshapen, and if the network
breaks down in another way than by not answering. Every other reply is taken for the vehicles that
it lists, or for none. -/
theorem run_fails_iff {url : Url} (hurl : g.client.destination Client.listingPath = .ok url)
    (habsolute : url.isAbsolute = true) (rng : ρ) (net : ν) (now : Instant) {reply : Reply}
    (hreply : (Network.send net ⟨.get, url.render, none⟩).1 = reply) :
    ((∃ e, (g.client.vehicles net).1 = .error e) ↔ reply = .broken ∨ reply.IsMisshapen) ∧
    ((∃ e, (g.run rng net now).1 = .error e) ↔ reply = .broken ∨ reply.IsMisshapen) ∧
    ∀ vehicles, (g.client.vehicles net).1 = .ok vehicles →
      reply.Lists vehicles ∨ vehicles = [] ∧ ∀ others, ¬reply.Lists others := by
  have hread : (g.client.vehicles net).1 = Client.vehiclesOf url reply := by
    rw [Client.vehicles_eq hurl, ← hreply]
    rfl
  simp only [run_eq_error, hread]
  obtain ⟨hfails, hreply⟩ | ⟨vehicles, hvehicles, hreply, hlists⟩ :=
    Client.vehiclesOf_cases habsolute reply
  · refine ⟨iff_of_true hfails hreply, iff_of_true hfails hreply, fun vehicles h => ?_⟩
    obtain ⟨e, he⟩ := hfails
    rw [he] at h
    nomatch h
  · have hends : ¬∃ e, Client.vehiclesOf url reply = .error e := by simp [hvehicles]
    refine ⟨iff_of_false hends hreply, iff_of_false hends hreply, fun others h => ?_⟩
    rw [hvehicles] at h
    cases h
    exact hlists

theorem parseBody_brackets : Json.parseBody "[]" = .ok (.array []) :=
  have hchars : Json.bodyChars? "[]" = some "[]".toList :=
    Json.bodyChars?_eq (by decide +kernel) (by decide +kernel)
  have htokens : Json.tokens "[]".toList = [.openArray, .closeArray] := by
    simp [Json.tokens, Json.isSpace, Json.punctuation?]
  Json.parseBody_eq hchars (congrArg (Json.build [] .value) htokens)

/-- An empty array in place of the object around the listing is misshapen, and the run ends with
it. -/
theorem run_bareListing : (busGenerator.client.vehicles
      (Script.ofReplies [.response 200 "[]"])).1 = .error .missingMember ∧
    (busGenerator.run (mkStdGen 1) (Script.ofReplies [.response 200 "[]"]) busTime).1 =
      .error .missingMember := by
  obtain ⟨url, hurl, habsolute⟩ := exists_destination_busGenerator
  have hread : Client.readListing "[]" = .error .missingMember := by
    unfold Client.readListing
    rw [parseBody_brackets]
    rfl
  have hvehicles : (busGenerator.client.vehicles (Script.ofReplies [.response 200 "[]"])).1 =
      .error .missingMember := by
    rw [Client.vehicles_eq hurl]
    show Client.vehiclesOf url (.response 200 "[]") = _
    simp only [Client.vehiclesOf, habsolute, hread]
    rfl
  exact ⟨hvehicles, run_eq_error.mpr hvehicles⟩

/-- The hypotheses hold of an empty array, on which the run fails, and of a server that is out of
order, on which it does not. -/
theorem run_fails_iff_buses :
    (∃ e, (busGenerator.run (mkStdGen 1) (Script.ofReplies [.response 200 "[]"]) busTime).1 =
      .error e) ∧
    ¬∃ e, (busGenerator.run (mkStdGen 1) (Script.ofReplies [.response 500 "[]"]) busTime).1 =
      .error e := by
  obtain ⟨url, hurl, habsolute⟩ := exists_destination_busGenerator
  constructor
  · exact (run_fails_iff hurl habsolute (mkStdGen 1) (Script.ofReplies [.response 200 "[]"]) busTime
      rfl).2.1.mpr (.inr ⟨rfl, .inr ⟨_, parseBody_brackets, .inl id⟩⟩)
  · rw [(run_fails_iff hurl habsolute (mkStdGen 1) (Script.ofReplies [.response 500 "[]"]) busTime
      rfl).2.1]
    rintro (hbroken | ⟨hstatus, _⟩)
    · nomatch hbroken
    · exact absurd hstatus (by decide)

end Generator

end Feed

end FleetTracking
