import FleetTracking.Cache.Service
import FleetTracking.Proofs.Record
import FleetTracking.Proofs.Store.Lawful

/-!
# Views

A view is what readers leave in the cache under one key. No two views have the same key
(`View.key_injective`), because no number is written like another one or like one that is missing.

What a reader would leave depends on the store (`View.value?`). A save of positions changes it for
the views of their vehicles and for the one of all vehicles with their positions only
(`View.value?_stored`).
-/

namespace FleetTracking

/-! ## Numbers in keys -/

theorem toString_injective {a b : Int} (h : toString a = toString b) : a = b := by
  have hdigits {m n : Nat} (h : m.repr = n.repr) : m = n := by
    have h := congrArg String.toList h
    rw [Nat.toList_repr, Nat.toList_repr] at h
    rw [← Nat.ofDigitChars_ten_toDigits (n := m), h, Nat.ofDigitChars_ten_toDigits]
  have hsign {m n : Nat} (h : m.repr = "-" ++ n.repr) : False := by
    have hmem : '-' ∈ m.repr.toList := by rw [h]; simp
    rw [Nat.toList_repr] at hmem
    nomatch Nat.isDigit_of_mem_toDigits (by decide) (by decide) hmem
  rw [Int.toString_eq_repr, Int.toString_eq_repr, Int.repr_eq_if, Int.repr_eq_if] at h
  split at h <;> split at h
  · have := hdigits h
    omega
  · exact (hsign h).elim
  · exact (hsign h.symm).elim
  · have := hdigits (String.append_right_inj _ |>.mp h)
    omega

theorem toString_ne_none (n : Int) : toString n ≠ "None" := by
  intro h
  have hmem : 'N' ∈ (toString n).toList := by rw [h]; decide
  rw [Int.toString_eq_repr, Int.repr_eq_if] at hmem
  split at hmem
  · rw [Nat.toList_repr] at hmem
    nomatch Nat.isDigit_of_mem_toDigits (by decide) (by decide) hmem
  · rw [String.toList_append, Nat.toList_repr] at hmem
    rcases List.mem_append.mp hmem with hmem | hmem
    · exact absurd hmem (by decide)
    · nomatch Nat.isDigit_of_mem_toDigits (by decide) (by decide) hmem

/-- An identifier is known by its text. -/
theorem VehicleRef.text_injective {u v : VehicleRef} (h : u.text = v.text) : u = v := by
  have hint (n : Int) : VehicleRef.text (some n) = toString n := by
    show String.ofList (toString n).toList = toString n
    rw [String.ofList_toList]
  have hnone : VehicleRef.text none = "None" := rfl
  match u, v with
  | none, none => rfl
  | none, some n =>
    rw [hnone, hint] at h
    exact absurd h.symm (toString_ne_none n)
  | some n, none =>
    rw [hnone, hint] at h
    exact absurd h (toString_ne_none n)
  | some m, some n =>
    rw [hint, hint] at h
    rw [toString_injective h]

/-! ## Keys -/

/-- What is kept under one key. -/
inductive View
  | lastPosition (vehicle : VehicleRef)
  | vehicles
  | vehicle (id : VehicleRef)
  | tracked

namespace View

/-- The key of a view. -/
def key : View → String
  | lastPosition u => Cached.lastPositionKey u
  | vehicles => Cached.vehiclesKey
  | vehicle id => Cached.vehicleKey id
  | tracked => Cached.trackedKey

theorem toList_key (view : View) :
    view.key.toList = match view with
      | lastPosition u => "fleet:last_position:".toList ++ (VehicleRef.text u).toList
      | vehicles => "fleet:vehicles".toList
      | vehicle id => "fleet:vehicle:".toList ++ (VehicleRef.text id).toList
      | tracked => "fleet:vehicles_with_positions".toList := by
  cases view <;>
    simp [key, Cached.lastPositionKey, Cached.vehiclesKey, Cached.vehicleKey, Cached.trackedKey,
      Cache.key, VehicleRef.text]

/-- Views are told apart by their keys. -/
theorem key_injective {a b : View} (h : a.key = b.key) : a = b := by
  have h := congrArg String.toList h
  rw [toList_key, toList_key] at h
  -- the parts in front of identifiers differ, and none of them begins another key
  cases a with
  | lastPosition u =>
    cases b with
    | lastPosition v =>
      rw [VehicleRef.text_injective (String.toList_inj.mp (List.append_cancel_left h))]
    | _ => simp at h
  | vehicle u =>
    cases b with
    | vehicle v =>
      rw [VehicleRef.text_injective (String.toList_inj.mp (List.append_cancel_left h))]
    | _ => simp at h
  | vehicles =>
    cases b with
    | vehicles => rfl
    | _ => simp at h
  | tracked =>
    cases b with
    | tracked => rfl
    | _ => simp at h

/-! ## Values -/

variable {σ : Type} [FleetStore σ]

/-- What a reader who finds nothing under the key leaves there. -/
def value? (s : σ) : View → Except Failure (Option Json)
  | lastPosition u => (Service.lastPosition s u).map (Option.map PositionRecord.toJson)
  | vehicles => (Service.allVehicles s >>= Json.ofList VehicleRecord.toJson).map some
  | vehicle id => (Service.vehicle s id >>= VehicleRecord.toJson).map some
  | tracked => (Service.trackedVehicles s >>= Json.ofList TrackedVehicle.toJson).map some

/-- The views of which a save of positions changes nothing. -/
theorem value?_stored {s s' : σ} {ps saved : List Position} (h : Stored s ps saved s')
    {view : View} (htracked : view = .tracked → ps = [])
    (hlast : ∀ u ∈ ps.map Position.vehicle, view ≠ .lastPosition u) :
    view.value? s' = view.value? s := by
  cases view with
  | tracked =>
    have htrack : Service.track s' = Service.track s := by
      funext w
      unfold Service.track
      rw [h.last? (some w.id) (by rw [htracked rfl]; exact List.not_mem_nil)]
    unfold value? Service.trackedVehicles
    rw [h.vehicles, htrack]
  | vehicles =>
    unfold value? Service.allVehicles
    rw [h.vehicles]
  | vehicle id =>
    unfold value? Service.vehicle Service.requireVehicle
    rw [h.vehicle?]
  | lastPosition u =>
    have hu : u ∉ ps.map Position.vehicle := fun hu => hlast u hu rfl
    have hsame : Service.lastPosition s' u = Service.lastPosition s u := by
      unfold Service.lastPosition Service.requireVehicle
      rw [h.vehicle?, h.last? u hu]
    exact congrArg (Except.map (Option.map PositionRecord.toJson)) hsame

end View

end FleetTracking
