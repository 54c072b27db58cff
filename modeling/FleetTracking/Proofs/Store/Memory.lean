import FleetTracking.Service.Submission
import FleetTracking.Store.Memory

/-!
# Saving positions in memory

A save of an idle store depends on the keys alone: it stores all positions under the next numbers,
or, where a key is repeated, nothing (`Memory.store_eq`).
-/

namespace FleetTracking

/-! ## Keys and numbers -/

namespace Position

@[simp] theorem key_withId (id : Option Int) (p : Position) : (p.withId id).key = p.key := rfl

@[simp] theorem vehicle_withId (id : Option Int) (p : Position) :
    (p.withId id).vehicle = p.vehicle := rfl

@[simp] theorem coordinates_withId (id : Option Int) (p : Position) :
    (p.withId id).coordinates = p.coordinates := rfl

@[simp] theorem id_withId (id : Option Int) (p : Position) : (p.withId id).id = id := rfl

end Position

namespace Memory

/-- No key is repeated if none is taken and all are different. -/
theorem firstRepeated_eq_none_iff {taken : List (VehicleRef × Instant)} {ps : List Position} :
    firstRepeated taken ps = none ↔
      (∀ p ∈ ps, p.key ∉ taken) ∧ (ps.map Position.key).Nodup := by
  induction ps generalizing taken with
  | nil => simp [firstRepeated]
  | cons p rest ih =>
    unfold firstRepeated
    by_cases hp : p.key ∈ taken
    · simp [hp]
    · rw [if_neg (by simpa using hp), ih, List.map_cons, List.nodup_cons]
      constructor
      · rintro ⟨hrest, hnodup⟩
        refine ⟨?_, ?_, hnodup⟩
        · intro q hq
          rcases List.mem_cons.mp hq with rfl | hq
          · exact hp
          · exact fun h => hrest q hq (List.mem_cons_of_mem _ h)
        · intro h
          obtain ⟨q, hq, hkey⟩ := List.mem_map.mp h
          exact hrest q hq (hkey ▸ List.mem_cons_self)
      · rintro ⟨htaken, hnew, hnodup⟩
        refine ⟨fun q hq h => ?_, hnodup⟩
        rcases List.mem_cons.mp h with h | h
        · exact hnew (List.mem_map.mpr ⟨q, hq, h⟩)
        · exact htaken q (List.mem_cons_of_mem _ hq) h

/-- Only which keys are taken matters, not their order. -/
theorem firstRepeated_congr {taken taken' : List (VehicleRef × Instant)}
    (h : ∀ k, k ∈ taken ↔ k ∈ taken') (ps : List Position) :
    firstRepeated taken ps = firstRepeated taken' ps := by
  induction ps generalizing taken taken' with
  | nil => rfl
  | cons p rest ih =>
    have hcons : ∀ k, k ∈ p.key :: taken ↔ k ∈ p.key :: taken' := fun k => by
      rw [List.mem_cons, List.mem_cons, h k]
    unfold firstRepeated
    rw [ih hcons, Bool.eq_iff_iff.mpr (by simpa using h p.key :
      taken.contains p.key = true ↔ taken'.contains p.key = true)]

@[simp] theorem length_numbered (n : Int) (ps : List Position) :
    (numbered n ps).length = ps.length := by
  induction ps generalizing n with
  | nil => rfl
  | cons p rest ih => simp [numbered, ih]

/-- Numbers leave alone whatever does not look at them. -/
theorem map_numbered {f : Position → α} (hf : ∀ id p, f (p.withId id) = f p) (n : Int)
    (ps : List Position) : (numbered n ps).map f = ps.map f := by
  induction ps generalizing n with
  | nil => rfl
  | cons p rest ih => simp [numbered, ih, hf]

/-- Each of the numbers given is one of the next ones. -/
theorem id_of_mem_numbered {n : Int} {ps : List Position} {q : Position}
    (h : q ∈ numbered n ps) : ∃ k, q.id = some k ∧ n ≤ k ∧ k < n + ps.length := by
  induction ps generalizing n with
  | nil => simp [numbered] at h
  | cons p rest ih =>
    rcases List.mem_cons.mp h with rfl | h
    · exact ⟨n, rfl, by omega, by rw [List.length_cons]; omega⟩
    · obtain ⟨k, hk, hlo, hhi⟩ := ih h
      exact ⟨k, hk, by omega, by rw [List.length_cons]; omega⟩

theorem nodup_id_numbered (n : Int) (ps : List Position) :
    ((numbered n ps).map Position.id).Nodup := by
  induction ps generalizing n with
  | nil => exact List.nodup_nil
  | cons p rest ih =>
    rw [numbered, List.map_cons, List.nodup_cons]
    refine ⟨fun h => ?_, ih (n + 1)⟩
    obtain ⟨q, hq, hid⟩ := List.mem_map.mp h
    obtain ⟨k, hk, hlo, _⟩ := id_of_mem_numbered hq
    rw [hk, Position.id_withId, Option.some.injEq] at hid
    omega

/-! ## Saving -/

/-- Nothing waits to be saved. -/
def IsIdle (m : Memory) : Prop := m.stagedVehicles = [] ∧ m.stagedPositions = []

/-- The store with further positions under the next numbers. -/
def extend (m : Memory) (ps : List Position) : Memory :=
  { m with
    positions := m.positions ++ numbered m.nextPosition ps
    keys := m.keys ++ ps.map Position.key
    nextPosition := m.nextPosition + ps.length }

/-- A save stores everything, or nothing where a key is repeated. -/
theorem store_eq {m : Memory} (h : m.stagedPositions = []) (ps : List Position) :
    Service.store m ps =
      match firstRepeated m.keys ps with
      | some p =>
        (.error (.duplicatePosition (VehicleRef.toJson p.vehicle) (some p.recordedAt.timestamp)), m)
      | none => (.ok (numbered m.nextPosition ps), m.extend ps) := by
  obtain ⟨vs, svs, nv, qs, ks, sps, np⟩ := m
  change sps = [] at h
  subst h
  change savePositions ⟨vs, svs, nv, qs, ks, [] ++ ps, np⟩ = _
  rw [List.nil_append]
  unfold savePositions extend
  dsimp only
  cases firstRepeated ks ps with
  | some p => rfl
  | none => simp only [map_numbered Position.key_withId]

theorem IsIdle.extend {m : Memory} (h : m.IsIdle) (ps : List Position) : (m.extend ps).IsIdle := h

@[simp] theorem extend_nil (m : Memory) : m.extend [] = m := by
  simp [Memory.extend, numbered]

theorem extend_cons (m : Memory) (p : Position) (ps : List Position) :
    (m.extend [p]).extend ps = m.extend (p :: ps) := by
  simp only [Memory.extend, numbered, List.append_assoc, List.cons_append, List.nil_append,
    List.map_cons, List.map_nil, List.length_cons, List.length_nil]
  rw [show m.nextPosition + ((0 + 1 : Nat) : Int) = m.nextPosition + 1 by omega,
    show m.nextPosition + 1 + (ps.length : Int) = m.nextPosition + ((ps.length + 1 : Nat) : Int) by
      omega]

end Memory

end FleetTracking
