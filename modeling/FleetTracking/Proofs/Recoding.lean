import FleetTracking.Proofs.Record

/-!
# Records written and read again

Writing a record and reading it back keeps everything but an offset of less than a second, which
becomes that of universal time. Reading any value and writing it anew keeps all fields of the record
as they were but for the spelling of its timestamps, and from then on nothing changes any more. Both
hold of positions, of vehicles and of vehicles with their last position (`recoding_isFaithful`).

## How the second half follows from the first

Every timestamp that has been read is legible, so a record that has been read is read back as it is
when it is written (`Codec.isFaithful_of`).
-/

namespace FleetTracking

/-! ## Kinds of records -/

/-- How a kind of records is read and written. -/
structure Codec (α : Type) where
  read : Json → Except Failure α
  write : α → Except Failure Json
  /-- The record has all that is needed to write it. -/
  IsComplete : α → Prop
  /-- The record with other timestamps. -/
  mapTimes : (Timestamp → Timestamp) → α → α
  /-- The record is complete, and all its timestamps are legible. -/
  IsLegible : α → Prop
  /-- What is written, the second value, keeps what was read from the first one. -/
  Keeps : Json → Json → Prop

/-- Writing and reading a kind of records. -/
structure Codec.IsFaithful (codec : Codec α) : Prop where
  /-- A record is read back from what it is written as, but for offsets of less than a second. -/
  read_write : ∀ r, codec.IsComplete r →
    ∃ v, codec.write r = .ok v ∧ codec.read v = .ok (codec.mapTimes .readBack r)
  /-- That changes nothing just if there are none. -/
  unchanged_iff : ∀ r, codec.IsComplete r → (codec.mapTimes .readBack r = r ↔ codec.IsLegible r)
  /-- What has been read is written, and from then on it stays as it is. -/
  write_read : ∀ v r, codec.read v = .ok r →
    ∃ w, codec.write r = .ok w ∧ codec.read w = .ok r ∧ codec.Keeps v w

namespace Codec

variable {codec : Codec α}

theorem isFaithful_of
    (hwrite : ∀ r, codec.IsComplete r →
      ∃ v, codec.write r = .ok v ∧ codec.read v = .ok (codec.mapTimes .readBack r))
    (hlegible : ∀ r, codec.IsLegible r ↔ codec.IsComplete r ∧ codec.mapTimes .readBack r = r)
    (hread : ∀ v r, codec.read v = .ok r → codec.IsLegible r)
    (hkeeps : ∀ v w r, codec.read v = .ok r → codec.write r = .ok w → codec.Keeps v w) :
    codec.IsFaithful where
  read_write := hwrite
  unchanged_iff r hcomplete := by
    rw [hlegible]
    exact (and_iff_right hcomplete).symm
  write_read v r h := by
    obtain ⟨hcomplete, hsame⟩ := (hlegible r).mp (hread v r h)
    obtain ⟨w, hw, hback⟩ := hwrite r hcomplete
    rw [hsame] at hback
    exact ⟨w, hw, hback, hkeeps v w r h hw⟩

end Codec

namespace Json

/-- An object with fields of these names, in this order. -/
def HasNames (v : Json) (names : List String) : Prop :=
  ∃ fields, v = .object fields ∧ fields.map Prod.fst = names

end Json

/-- The fields of the form are the same in both values, but for the spelling of the time. -/
structure RecordForm.Keeps (form : RecordForm) (v w : Json) : Prop where
  fields : ∀ name ∈ form.fields, ∃ x, v.field? name = some x ∧ w.field? name = some x
  time : ∃ s t, v.field? form.time = some (.string s) ∧ Timestamp.parse? s = some t ∧
    w.field? form.time = some (.string t.iso)

/-! ## Positions -/

namespace PositionRecord

/-- A number that is not there becomes null. -/
structure Keeps (v w : Json) : Prop extends RecordForm.position.Keeps v w where
  id : w.field? "id" = some ((v.field? "id").getD .null)
  names : w.HasNames ["id", "vehicle_id", "latitude", "longitude", "recorded_at"]

def codec : Codec PositionRecord where
  read := ofJson
  write r := .ok r.toJson
  IsComplete _ := True
  mapTimes := mapTimes
  IsLegible r := r.recordedAt.IsLegible
  Keeps := Keeps

theorem ofJson_eq_ok {v : Json} {r : PositionRecord} (h : ofJson v = .ok r) :
    r.id = (v.field? "id").getD .null ∧ v.field? "vehicle_id" = some r.vehicle ∧
      v.field? "latitude" = some r.latitude ∧ v.field? "longitude" = some r.longitude ∧
      ∃ s, v.field? "recorded_at" = some (.string s) ∧ Timestamp.parse? s = some r.recordedAt := by
  obtain ⟨id, hid, h⟩ := bind_eq_ok.mp h
  obtain ⟨vehicle, hvehicle, h⟩ := bind_eq_ok.mp h
  obtain ⟨latitude, hlatitude, h⟩ := bind_eq_ok.mp h
  obtain ⟨longitude, hlongitude, h⟩ := bind_eq_ok.mp h
  obtain ⟨time, htime, h⟩ := bind_eq_ok.mp h
  obtain ⟨recordedAt, hread, h⟩ := bind_eq_ok.mp h
  cases h
  obtain ⟨s, rfl, hs⟩ := Timestamp.ofJson_eq_ok.mp hread
  exact ⟨by rw [Json.optional_eq_ok hid], Json.require_eq_ok.mp hvehicle,
    Json.require_eq_ok.mp hlatitude, Json.require_eq_ok.mp hlongitude, s,
    Json.require_eq_ok.mp htime, hs⟩

theorem keeps_toJson {v : Json} {r : PositionRecord} (h : ofJson v = .ok r) : Keeps v r.toJson := by
  obtain ⟨hid, hvehicle, hlatitude, hlongitude, s, htime, hs⟩ := ofJson_eq_ok h
  refine { fields := ?_, time := ⟨s, r.recordedAt, htime, hs, rfl⟩, id := ?_, names := ⟨_, rfl, rfl⟩ }
  · simp only [RecordForm.position, List.forall_mem_cons]
    exact ⟨⟨_, hvehicle, rfl⟩, ⟨_, hlatitude, rfl⟩, ⟨_, hlongitude, rfl⟩, List.forall_mem_nil _⟩
  · rw [← hid]
    rfl

theorem isLegible_of_ofJson {v : Json} {r : PositionRecord} (h : ofJson v = .ok r) :
    r.recordedAt.IsLegible := by
  obtain ⟨_, _, _, _, _, _, hs⟩ := ofJson_eq_ok h
  exact Timestamp.isLegible_of_parse? hs

theorem isFaithful_codec : codec.IsFaithful := by
  refine Codec.isFaithful_of (fun r _ => ⟨r.toJson, rfl, ofJson_toJson_eq r⟩) (fun r => ?_)
    (fun v r h => isLegible_of_ofJson h) fun v w r h hw => ?_
  · show r.recordedAt.IsLegible ↔ True ∧ r.mapTimes .readBack = r
    rw [true_and, mapTimes_eq_iff, Timestamp.readBack_eq_iff]
  · cases hw
    exact keeps_toJson h

end PositionRecord

/-! ## Vehicles -/

namespace VehicleRecord

structure Keeps (v w : Json) : Prop extends RecordForm.vehicle.Keeps v w where
  names : w.HasNames ["id", "name", "is_active", "created_date"]

def codec : Codec VehicleRecord where
  read := ofJson
  write := toJson
  IsComplete := HasDate
  mapTimes := mapTimes
  IsLegible := IsDated
  Keeps := Keeps

theorem ofJson_eq_ok {v : Json} {r : VehicleRecord} (h : ofJson v = .ok r) :
    v.field? "id" = some r.id ∧ v.field? "name" = some r.name ∧
      v.field? "is_active" = some r.isActive ∧
      ∃ s t, v.field? "created_date" = some (.string s) ∧ Timestamp.parse? s = some t ∧
        r.createdDate = some t := by
  obtain ⟨id, hid, h⟩ := bind_eq_ok.mp h
  obtain ⟨name, hname, h⟩ := bind_eq_ok.mp h
  obtain ⟨isActive, hactive, h⟩ := bind_eq_ok.mp h
  obtain ⟨time, htime, h⟩ := bind_eq_ok.mp h
  obtain ⟨createdDate, hread, h⟩ := bind_eq_ok.mp h
  cases h
  obtain ⟨s, rfl, hs⟩ := Timestamp.ofJson_eq_ok.mp hread
  exact ⟨Json.require_eq_ok.mp hid, Json.require_eq_ok.mp hname, Json.require_eq_ok.mp hactive, s,
    createdDate, Json.require_eq_ok.mp htime, hs, rfl⟩

theorem isDated_of_ofJson {v : Json} {r : VehicleRecord} (h : ofJson v = .ok r) : r.IsDated := by
  obtain ⟨_, _, _, _, t, _, hs, ht⟩ := ofJson_eq_ok h
  exact ⟨t, ht, Timestamp.isLegible_of_parse? hs⟩

theorem keeps_toJson {v w : Json} {r : VehicleRecord} (h : ofJson v = .ok r)
    (hw : r.toJson = .ok w) : Keeps v w := by
  obtain ⟨hid, hname, hactive, s, t, htime, hs, ht⟩ := ofJson_eq_ok h
  unfold toJson at hw
  rw [ht] at hw
  cases hw
  refine { fields := ?_, time := ⟨s, t, htime, hs, rfl⟩, names := ⟨_, rfl, rfl⟩ }
  simp only [RecordForm.vehicle, List.forall_mem_cons]
  exact ⟨⟨_, hid, rfl⟩, ⟨_, hname, rfl⟩, ⟨_, hactive, rfl⟩, List.forall_mem_nil _⟩

theorem isFaithful_codec : codec.IsFaithful :=
  Codec.isFaithful_of (fun _ h => exists_toJson h) (fun _ => isDated_iff)
    (fun _ _ h => isDated_of_ofJson h) fun _ _ _ h hw => keeps_toJson h hw

end VehicleRecord

/-! ## Vehicles with their last position -/

namespace TrackedVehicle

/-- A last position that is vacant becomes null. -/
structure Keeps (v w : Json) : Prop where
  vehicle : ∃ x y, v.field? "vehicle" = some x ∧ w.field? "vehicle" = some y ∧
    VehicleRecord.Keeps x y
  lastPosition :
    (((v.field? "last_position").getD .null).isVacant = true ∧
      w.field? "last_position" = some .null) ∨
    ∃ x y, v.field? "last_position" = some x ∧ w.field? "last_position" = some y ∧
      PositionRecord.Keeps x y
  names : w.HasNames ["vehicle", "last_position"]

def codec : Codec TrackedVehicle where
  read := ofJson
  write := toJson
  IsComplete r := r.vehicle.HasDate
  mapTimes := mapTimes
  IsLegible := IsDated
  Keeps := Keeps

theorem ofJson_eq_ok {v : Json} {r : TrackedVehicle} (h : ofJson v = .ok r) :
    (∃ x, v.field? "vehicle" = some x ∧ VehicleRecord.ofJson x = .ok r.vehicle) ∧
      ((((v.field? "last_position").getD .null).isVacant = true ∧ r.lastPosition = none) ∨
        ∃ x p, v.field? "last_position" = some x ∧ PositionRecord.ofJson x = .ok p ∧
          r.lastPosition = some p) := by
  obtain ⟨last, hlast, h⟩ := bind_eq_ok.mp h
  obtain ⟨x, hx, h⟩ := bind_eq_ok.mp h
  obtain ⟨vehicle, hvehicle, h⟩ := bind_eq_ok.mp h
  rw [Json.optional_eq_ok hlast]
  cases hvacant : (last.getD .null).isVacant with
  | true =>
    rw [hvacant] at h
    cases h
    exact ⟨⟨x, Json.require_eq_ok.mp hx, hvehicle⟩, .inl ⟨rfl, rfl⟩⟩
  | false =>
    rw [hvacant] at h
    obtain ⟨p, hp, h⟩ := bind_eq_ok.mp h
    cases h
    refine ⟨⟨x, Json.require_eq_ok.mp hx, hvehicle⟩, .inr ?_⟩
    cases last with
    | none => nomatch hvacant
    | some y => exact ⟨y, p, rfl, hp, rfl⟩

theorem isDated_of_ofJson {v : Json} {r : TrackedVehicle} (h : ofJson v = .ok r) : r.IsDated := by
  obtain ⟨⟨x, _, hx⟩, hlast⟩ := ofJson_eq_ok h
  refine ⟨VehicleRecord.isDated_of_ofJson hx, fun p hp => ?_⟩
  obtain ⟨_, hnone⟩ | ⟨y, p', _, hy, hsome⟩ := hlast
  · rw [hnone] at hp
    nomatch hp
  · cases hsome.symm.trans hp
    exact PositionRecord.isLegible_of_ofJson hy

theorem keeps_toJson {v w : Json} {r : TrackedVehicle} (h : ofJson v = .ok r)
    (hw : r.toJson = .ok w) : Keeps v w := by
  obtain ⟨⟨x, hx, hvehicle⟩, hlast⟩ := ofJson_eq_ok h
  obtain ⟨y, hy, hw⟩ := bind_eq_ok.mp hw
  cases hw
  refine { vehicle := ⟨x, y, hx, rfl, VehicleRecord.keeps_toJson hvehicle hy⟩,
           lastPosition := ?_, names := ⟨_, rfl, rfl⟩ }
  obtain ⟨hvacant, hnone⟩ | ⟨z, p, hz, hp, hsome⟩ := hlast
  · rw [hnone]
    exact .inl ⟨hvacant, rfl⟩
  · rw [hsome]
    exact .inr ⟨z, p.toJson, hz, rfl, PositionRecord.keeps_toJson hp⟩

theorem isFaithful_codec : codec.IsFaithful :=
  Codec.isFaithful_of (fun _ h => exists_toJson h) (fun _ => isDated_iff)
    (fun _ _ h => isDated_of_ofJson h) fun _ _ _ h hw => keeps_toJson h hw

end TrackedVehicle

/-- Each kind of records is read and written faithfully. -/
theorem recoding_isFaithful : PositionRecord.codec.IsFaithful ∧ VehicleRecord.codec.IsFaithful ∧
    TrackedVehicle.codec.IsFaithful :=
  ⟨PositionRecord.isFaithful_codec, VehicleRecord.isFaithful_codec, TrackedVehicle.isFaithful_codec⟩

/-- A position whose clock is a microsecond ahead of universal time. -/
def PositionRecord.ahead : PositionRecord where
  id := .int 1
  vehicle := .int 1
  latitude := .float 37.98
  longitude := .float 23.72
  recordedAt := ⟨⟨⟨2025, 6, 15, by decide⟩, ⟨10, 0, 0, 0, by decide⟩⟩, some ⟨1, by decide⟩⟩

/-- The microsecond is written, but it is not read. -/
theorem PositionRecord.ofJson_ahead :
    ahead.recordedAt.iso = "2025-06-15T10:00:00+00:00:00.000001" ∧
      ofJson ahead.toJson ≠ .ok ahead := by
  refine ⟨rfl, fun h => ?_⟩
  rw [ofJson_toJson_eq] at h
  have hsame := mapTimes_eq_iff.mp (Except.ok.inj h)
  have hoffset : Offset.readBack ⟨1, by decide⟩ = ⟨1, by decide⟩ :=
    Option.some.inj (congrArg Timestamp.offset hsame)
  nomatch congrArg Offset.micros hoffset

end FleetTracking
