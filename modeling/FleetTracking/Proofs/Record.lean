import FleetTracking.Fleet.Record
import FleetTracking.Proofs.Iso
import FleetTracking.Proofs.Outcome

/-!
# Records are read back from what they are written as

Timestamps are read back as `Timestamp.readBack` says, and everything else as it was. So it is with
each kind of record, and with lists of them (`Json.listOf_ofList`). Reading undoes writing where all
timestamps are legible.
-/

namespace FleetTracking

theorem Timestamp.ofJson_iso (t : Timestamp) : Timestamp.ofJson (.string t.iso) = .ok t.readBack := by
  show Timestamp.parse t.iso = .ok t.readBack
  unfold Timestamp.parse
  rw [parse?_iso_eq]

theorem Timestamp.ofJson_eq_ok {v : Json} {t : Timestamp} :
    ofJson v = .ok t ↔ ∃ s, v = .string s ∧ parse? s = some t := by
  cases v with
  | string s =>
    show parse s = .ok t ↔ _
    unfold parse
    cases hs : parse? s <;> simp [hs]
  | _ => simp [ofJson]

/-! ## Fields -/

namespace Json

theorem lookup_cons (name : String) (field : String × Json) (fields : List (String × Json)) :
    lookup name (field :: fields) = if field.1 = name then some field.2 else lookup name fields := by
  unfold lookup
  by_cases h : field.1 = name
  · simp [h]
  · simp [h]

theorem optional_object (name : String) (fields : List (String × Json)) :
    (object fields).optional name = .ok (lookup name fields) := rfl

def IsObject : Json → Prop
  | object _ => True
  | _ => False

theorem require_eq_ok {v w : Json} {name : String} :
    v.require name = .ok w ↔ v.field? name = some w := by
  cases v with
  | object fields =>
    cases h : lookup name fields <;> simp [require, field?, h]
  | _ => simp [require, field?]

theorem optional_eq {v : Json} (h : v.IsObject) (name : String) :
    v.optional name = .ok (v.field? name) := by
  cases v with
  | object fields => rfl
  | _ => exact h.elim

theorem optional_eq_ok {v : Json} {name : String} {found : Option Json}
    (h : v.optional name = .ok found) : v.field? name = found := by
  cases v with
  | object fields =>
    cases h
    rfl
  | _ => nomatch h

theorem isObject_of_field? {v w : Json} {name : String} (h : v.field? name = some w) :
    v.IsObject := by
  cases v with
  | object fields => trivial
  | _ => nomatch h

end Json

/-! ## Forms -/

/-- What is asked of a record: fields of any value, and one that is a time. -/
structure RecordForm where
  fields : List String
  time : String

namespace RecordForm

/-- The form of a vehicle. -/
def vehicle : RecordForm := ⟨["id", "name", "is_active"], "created_date"⟩

/-- The form of a position. -/
def position : RecordForm := ⟨["vehicle_id", "latitude", "longitude"], "recorded_at"⟩

end RecordForm

/-! ## Positions -/

namespace PositionRecord

/-- The record with another timestamp. -/
def mapTimes (f : Timestamp → Timestamp) (r : PositionRecord) : PositionRecord :=
  { r with recordedAt := f r.recordedAt }

theorem mapTimes_eq_iff {f : Timestamp → Timestamp} {r : PositionRecord} :
    r.mapTimes f = r ↔ f r.recordedAt = r.recordedAt := by
  cases r
  simp [mapTimes]

theorem ofJson_toJson_eq (r : PositionRecord) : ofJson r.toJson = .ok (r.mapTimes .readBack) := by
  unfold ofJson toJson
  simp [Json.optional_object, Json.require, Json.lookup_cons, Timestamp.ofJson_iso, mapTimes, bind,
    Except.bind, pure, Except.pure]

theorem ofJson_toJson {r : PositionRecord} (h : r.recordedAt.IsLegible) :
    ofJson r.toJson = .ok r := by
  rw [ofJson_toJson_eq, mapTimes_eq_iff.mpr (Timestamp.readBack_eq_iff.mpr h)]

theorem isLegible_ofPosition (p : Position) : (ofPosition p).recordedAt.IsLegible :=
  p.recordedAt.isLegible_timestamp

end PositionRecord

/-! ## Vehicles -/

/-- A vehicle whose creation is dated. -/
def Vehicle.HasDate (v : Vehicle) : Prop := ∃ t, v.createdDate = some t

/-- A vehicle whose date, if it has one, is read back from its text, as is every time that was read
itself (`Timestamp.isLegible_of_parse?`). -/
def Vehicle.HasLegibleDate (v : Vehicle) : Prop := ∀ t, v.createdDate = some t → t.IsLegible

namespace VehicleRecord

/-- The record of a vehicle whose creation is dated. -/
def IsDated (r : VehicleRecord) : Prop := ∃ t, r.createdDate = some t ∧ t.IsLegible

/-- The record has its date, legible or not. -/
def HasDate (r : VehicleRecord) : Prop := ∃ t, r.createdDate = some t

/-- The record with another date. -/
def mapTimes (f : Timestamp → Timestamp) (r : VehicleRecord) : VehicleRecord :=
  { r with createdDate := r.createdDate.map f }

theorem mapTimes_eq_iff {f : Timestamp → Timestamp} {r : VehicleRecord} :
    r.mapTimes f = r ↔ ∀ t, r.createdDate = some t → f t = t := by
  obtain ⟨id, name, isActive, createdDate⟩ := r
  cases createdDate <;> simp [mapTimes]

theorem exists_toJson {r : VehicleRecord} (h : r.HasDate) :
    ∃ v, r.toJson = .ok v ∧ ofJson v = .ok (r.mapTimes .readBack) := by
  obtain ⟨id, name, isActive, createdDate⟩ := r
  obtain ⟨t, rfl⟩ := h
  refine ⟨_, rfl, ?_⟩
  unfold ofJson
  simp [Json.require, Json.lookup_cons, Timestamp.ofJson_iso, mapTimes, bind, Except.bind, pure,
    Except.pure]

theorem isDated_iff {r : VehicleRecord} :
    r.IsDated ↔ r.HasDate ∧ r.mapTimes .readBack = r := by
  rw [mapTimes_eq_iff]
  constructor
  · rintro ⟨t, ht, hlegible⟩
    refine ⟨⟨t, ht⟩, fun t' ht' => ?_⟩
    cases ht.symm.trans ht'
    exact Timestamp.readBack_eq_iff.mpr hlegible
  · rintro ⟨⟨t, ht⟩, hsame⟩
    exact ⟨t, ht, Timestamp.readBack_eq_iff.mp (hsame t ht)⟩

end VehicleRecord

namespace TrackedVehicle

/-- The record of a vehicle whose creation is dated, with the last position of a store. -/
def IsDated (r : TrackedVehicle) : Prop :=
  r.vehicle.IsDated ∧ ∀ p, r.lastPosition = some p → p.recordedAt.IsLegible

/-- The record with other timestamps. -/
def mapTimes (f : Timestamp → Timestamp) (r : TrackedVehicle) : TrackedVehicle :=
  ⟨r.vehicle.mapTimes f, r.lastPosition.map (PositionRecord.mapTimes f)⟩

theorem mapTimes_eq_iff {f : Timestamp → Timestamp} {r : TrackedVehicle} :
    r.mapTimes f = r ↔ r.vehicle.mapTimes f = r.vehicle ∧
      ∀ p, r.lastPosition = some p → p.mapTimes f = p := by
  obtain ⟨vehicle, lastPosition⟩ := r
  cases lastPosition <;> simp [mapTimes]

theorem exists_toJson {r : TrackedVehicle} (h : r.vehicle.HasDate) :
    ∃ v, r.toJson = .ok v ∧ ofJson v = .ok (r.mapTimes .readBack) := by
  obtain ⟨vehicle, lastPosition⟩ := r
  obtain ⟨v, hv, hread⟩ := VehicleRecord.exists_toJson h
  refine ⟨.object [("vehicle", v), ("last_position",
    Json.ofOption PositionRecord.toJson lastPosition)], ?_, ?_⟩
  · unfold toJson
    rw [hv]
    rfl
  · unfold ofJson
    cases lastPosition with
    | none =>
      simp [Json.optional_object, Json.require, Json.lookup_cons, Json.ofOption, Json.isVacant,
        hread, mapTimes, bind, Except.bind, pure, Except.pure]
    | some p =>
      have hvacant : p.toJson.isVacant = false := rfl
      simp [Json.optional_object, Json.require, Json.lookup_cons, Json.ofOption, hvacant, hread,
        PositionRecord.ofJson_toJson_eq, mapTimes, bind, Except.bind, pure, Except.pure]

theorem isDated_iff {r : TrackedVehicle} :
    r.IsDated ↔ r.vehicle.HasDate ∧ r.mapTimes .readBack = r := by
  unfold IsDated
  rw [VehicleRecord.isDated_iff, mapTimes_eq_iff, and_assoc]
  simp only [PositionRecord.mapTimes_eq_iff, Timestamp.readBack_eq_iff]

end TrackedVehicle

/-! ## Lists -/

theorem mapM_roundTrip {encode : α → Except ε β} {decode : β → Except ε α} {f : α → α} {l : List α}
    (h : ∀ a ∈ l, ∃ b, encode a = .ok b ∧ decode b = .ok (f a)) :
    ∃ bs, l.mapM encode = .ok bs ∧ bs.mapM decode = .ok (l.map f) := by
  induction l with
  | nil => exact ⟨[], rfl, rfl⟩
  | cons a rest ih =>
    obtain ⟨ha, hrest⟩ := List.forall_mem_cons.mp h
    obtain ⟨b, hencode, hdecode⟩ := ha
    obtain ⟨bs, hencodes, hdecodes⟩ := ih hrest
    exact ⟨b :: bs, mapM_cons_eq_ok.mpr ⟨b, bs, hencode, hencodes, rfl⟩,
      mapM_cons_eq_ok.mpr ⟨f a, rest.map f, hdecode, hdecodes, rfl⟩⟩

/-- A list of records is read back as each of them is. -/
theorem Json.listOf_ofList {encode : α → Except Failure Json} {decode : Json → Except Failure α}
    {f : α → α} {l : List α} (h : ∀ a ∈ l, ∃ v, encode a = .ok v ∧ decode v = .ok (f a)) :
    ∃ v, Json.ofList encode l = .ok v ∧ Json.listOf decode v = .ok (l.map f) := by
  obtain ⟨items, hencode, hdecode⟩ := mapM_roundTrip h
  exact ⟨.array items, bind_eq_ok.mpr ⟨items, hencode, rfl⟩, hdecode⟩

end FleetTracking
