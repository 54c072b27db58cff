import FleetTracking.Proofs.Store.Latest

/-!
# Questions about stored positions

What a store answers about positions depends on the positions that it holds, and on nothing else:
whether an instant is recorded (`Backing.isRecorded_of_holds`), what lies in a window of time
(`Backing.between_of_holds`) and what came last (`Backing.isLatest_of_holds`). Only tables refuse to
be asked, about vehicles whose identifier does not fit its column (`Backing.serves`).

The order in which the positions were stored plays no part where no two of them share a key
(`Position.window_perm`, `IsLatest.eq_of_perm`).
-/

namespace FleetTracking

/-! ## Windows -/

namespace Position

/-- The positions of a vehicle from one instant to another among some, oldest first. -/
def window (ps : List Position) (u : VehicleRef) (start stop : Instant) : List Position :=
  ((ps.filter fun p => p.vehicle == u).filter fun p =>
    start ≤ p.recordedAt && p.recordedAt ≤ stop).mergeSort fun a b => a.recordedAt ≤ b.recordedAt

variable {ps qs : List Position} {u : VehicleRef} {start stop : Instant}

theorem mem_window {p : Position} :
    p ∈ window ps u start stop ↔
      p ∈ ps ∧ p.vehicle = u ∧ start ≤ p.recordedAt ∧ p.recordedAt ≤ stop := by
  simp only [window, List.mem_mergeSort, List.mem_filter, beq_iff_eq, Bool.and_eq_true,
    decide_eq_true_eq, and_assoc]

theorem pairwise_window : (window ps u start stop).Pairwise fun a b => a.recordedAt ≤ b.recordedAt := by
  let isEarlier (a b : Position) : Bool := a.recordedAt ≤ b.recordedAt
  have htrans (a b c : Position) (hab : isEarlier a b = true) (hbc : isEarlier b c = true) :
      isEarlier a c = true :=
    decide_eq_true (Nat.le_trans (of_decide_eq_true hab) (of_decide_eq_true hbc))
  have htotal (a b : Position) : (isEarlier a b || isEarlier b a) = true := by
    rw [Bool.or_eq_true, decide_eq_true_iff, decide_eq_true_iff]
    exact Nat.le_total _ _
  exact (List.pairwise_mergeSort htrans htotal _).imp of_decide_eq_true

/-- Changes that leave vehicles and instants as they are can be made before or after. -/
theorem window_map {f : Position → Position} (hvehicle : ∀ p, (f p).vehicle = p.vehicle)
    (htime : ∀ p, (f p).recordedAt = p.recordedAt) :
    window (ps.map f) u start stop = (window ps u start stop).map f := by
  have hsort (qs : List Position) :
      (qs.map f).mergeSort (fun a b => a.recordedAt ≤ b.recordedAt) =
        (qs.mergeSort fun a b => a.recordedAt ≤ b.recordedAt).map f :=
    (List.map_mergeSort fun a _ b _ => by rw [htime, htime]).symm
  unfold window
  rw [List.filter_map, List.filter_map, hsort]
  simp only [Function.comp_def, hvehicle, htime]

/-- Where no two positions share a key, the order in which they are listed does not matter. -/
theorem window_perm (hkeys : (ps.map key).Nodup) (h : ps.Perm qs) :
    window ps u start stop = window qs u start stop := by
  have hperm : (window ps u start stop).Perm (window qs u start stop) :=
    (List.mergeSort_perm _ _).trans (((h.filter _).filter _).trans (List.mergeSort_perm _ _).symm)
  refine List.Perm.eq_of_pairwise ?_ pairwise_window pairwise_window hperm
  intro p q hp hq hpq hqp
  obtain ⟨hp, hpu, _⟩ := mem_window.mp hp
  obtain ⟨hq, hqu, _⟩ := mem_window.mp hq
  exact eq_of_nodup_map hkeys hp (h.mem_iff.mpr hq)
    (Prod.ext (hpu.trans hqu.symm) (Instant.le_antisymm hpq hqp))

end Position

/-! ## The latest position -/

namespace IsLatest

variable {ps qs : List Position} {u : VehicleRef} {last last' : Option Position}

theorem map {f : Position → Position} (hvehicle : ∀ p, (f p).vehicle = p.vehicle)
    (htime : ∀ p, (f p).recordedAt = p.recordedAt) (h : IsLatest ps u last) :
    IsLatest (ps.map f) u (last.map f) := by
  cases h with
  | missing hnone =>
    refine .missing ?_
    rw [List.forall_mem_map]
    intro p hp
    rw [hvehicle]
    exact hnone p hp
  | found p hp hu hlatest =>
    refine .found (f p) (List.mem_map_of_mem hp) (by rw [hvehicle, hu]) ?_
    rw [List.forall_mem_map]
    intro q hq hqu
    rw [hvehicle] at hqu
    rw [htime, htime]
    exact hlatest q hq hqu

/-- Where no two positions share a key, the order in which they are listed does not matter. -/
theorem eq_of_perm (hkeys : (ps.map Position.key).Nodup) (hperm : ps.Perm qs)
    (h : IsLatest ps u last) (h' : IsLatest qs u last') : last = last' := by
  cases h' with
  | missing hnone =>
    cases h with
    | missing _ => rfl
    | found p hp hu _ => exact absurd hu (hnone p (hperm.mem_iff.mp hp))
  | found q hq hu hlatest =>
    exact h.eq_some hkeys (hperm.mem_iff.mpr hq) hu fun p hp => hlatest p (hperm.mem_iff.mp hp)

end IsLatest

/-! ## Tables -/

namespace PositionRow

/-- The row that is read as a position. -/
def readAs (p : Position) : PositionRow where
  id := p.id.getD 0
  vehicle := p.vehicle.getD 0
  place := p.coordinates.toPoint
  recordedAt := p.recordedAt.civil

theorem readAs_of_toPosition {r : PositionRow} {p : Position} (h : r.toPosition = .ok p) :
    readAs p = r := by
  obtain ⟨coordinates, hplace, hp⟩ := bind_eq_ok.mp h
  cases hp
  simp [readAs, Coordinates.toPoint_of_ofPoint hplace]

/-- Rows are told by the positions that are read from them. -/
theorem eq_map_readAs {rows : List PositionRow} {ps : List Position}
    (h : rows.mapM toPosition = .ok ps) :
    rows = ps.map readAs ∧ ∀ p ∈ ps, (readAs p).toPosition = .ok p := by
  induction rows generalizing ps with
  | nil =>
    cases h
    exact ⟨rfl, List.forall_mem_nil _⟩
  | cons r rest ih =>
    obtain ⟨p, others, hp, hrest, rfl⟩ := mapM_cons_eq_ok.mp h
    obtain ⟨hothers, hread⟩ := ih hrest
    have hr := readAs_of_toPosition hp
    refine ⟨by rw [List.map_cons, hr, ← hothers], List.forall_mem_cons.mpr ⟨?_, hread⟩⟩
    rw [hr, hp]

end PositionRow

namespace Tables

variable {t : Tables} {rows : List PositionRow} {ps : List Position}

theorem between_eq (hrows : t.positions = some rows)
    (hps : rows.mapM PositionRow.toPosition = .ok ps) (u : VehicleRef) (start stop : Instant) :
    t.between u start stop =
      if u.fits then .ok (Position.window ps u start stop) else .error .outOfRange := by
  obtain ⟨rfl, hread⟩ := PositionRow.eq_map_readAs hps
  have hvehicle : ∀ p ∈ ps, (some (PositionRow.readAs p).vehicle == u) = (p.vehicle == u) := by
    intro p hp
    have hkey := (PositionRow.toPosition_ok (hread p hp)).1
    rw [show p.vehicle = some (PositionRow.readAs p).vehicle from congrArg Prod.fst hkey]
  have hwindow : (fun r : PositionRow => start.civil.isLE r.recordedAt &&
      r.recordedAt.isLE stop.civil) ∘ PositionRow.readAs =
        fun p => decide (start ≤ p.recordedAt) && decide (p.recordedAt ≤ stop) := by
    funext p
    show (start.civil.isLE p.recordedAt.civil && p.recordedAt.civil.isLE stop.civil) = _
    rw [Instant.civil_isLE, Instant.civil_isLE]
  have hsort (qs : List Position) :
      (qs.map PositionRow.readAs).mergeSort (fun a b => a.recordedAt.isLE b.recordedAt) =
        (qs.mergeSort fun a b => a.recordedAt ≤ b.recordedAt).map PositionRow.readAs := by
    refine (List.map_mergeSort fun p _ q _ => ?_).symm
    exact Instant.civil_isLE.symm
  unfold between
  rw [positionsOf_eq hrows]
  cases u.fits with
  | false => rfl
  | true =>
    show (((ps.map PositionRow.readAs).filter _).filter _ |>.mergeSort _).mapM _ = Except.ok _
    rw [List.filter_map, List.filter_map, hwindow, hsort, List.mapM_map,
      List.filter_congr (p := _ ∘ PositionRow.readAs) hvehicle]
    have hall : ∀ p ∈ Position.window ps u start stop,
        (PositionRow.toPosition ∘ PositionRow.readAs) p = .ok (id p) :=
      fun p hp => hread p (Position.mem_window.mp hp).1
    exact (mapM_eq_ok hall).trans (by rw [List.map_id])

theorem last?_error (hrows : t.positions = some rows) {u : VehicleRef} (hu : u.fits = false) :
    t.last? u = .error .outOfRange := by
  unfold last?
  rw [positionsOf_eq hrows, hu]
  rfl

end Tables

/-! ## Either of both -/

namespace Backing

/-- Whether the store at work can be asked about the positions of a vehicle: tables can if its
identifier fits their column. -/
def serves (b : Backing) (u : VehicleRef) : Bool := b.ask (fun _ => true) fun _ => u.fits

theorem serves_of_vehicle? {b : Backing} {u : VehicleRef} {found : Option Vehicle}
    (h : FleetStore.vehicle? b u = .ok found) : b.serves u = true := by
  match b with
  | ⟨false, m, c⟩ => rfl
  | ⟨true, m, c⟩ =>
    have hasked : c.ask (·.vehicle? u) = .ok found := h
    obtain ⟨rows, _, hrows⟩ := bind_eq_ok.mp (Connection.ask_eq_ok.mp hasked).2
    split at hrows
    · assumption
    · nomatch hrows

variable {b : Backing} {ps : List Position} (h : b.Holds ps) (u : VehicleRef)

include h

theorem isRecorded_of_holds (t : Instant) :
    FleetStore.isRecorded b u t =
      if b.serves u then .ok (decide ((u, t) ∈ ps.map Position.key)) else .error .outOfRange := by
  match b, h with
  | ⟨false, m, c⟩, h =>
    show Except.ok (m.keys.contains (u, t)) = Except.ok _
    rw [h.keys, List.contains_eq_mem]
  | ⟨true, m, c⟩, h =>
    obtain ⟨rows, hrows, hps⟩ := Connection.Holds.rows h
    show c.ask (·.isRecorded u t) = _
    rw [Connection.Holds.ask_eq h, Tables.isRecorded_eq hrows, ← (PositionRow.mapM_toPosition_ok hps).1, List.contains_eq_mem]
    rfl

theorem between_of_holds (start stop : Instant) :
    FleetStore.between b u start stop =
      if b.serves u then .ok (Position.window ps u start stop) else .error .outOfRange := by
  match b, h with
  | ⟨false, m, c⟩, h => exact congrArg (fun qs => Except.ok (Position.window qs u start stop)) h.positions
  | ⟨true, m, c⟩, h =>
    obtain ⟨rows, hrows, hps⟩ := Connection.Holds.rows h
    show c.ask (·.between u start stop) = _
    rw [Connection.Holds.ask_eq h]
    exact Tables.between_eq hrows hps u start stop

theorem isLatest_of_holds :
    if b.serves u then ∃ last, FleetStore.last? b u = .ok last ∧ IsLatest ps u last
    else FleetStore.last? b u = .error .outOfRange := by
  match b, h with
  | ⟨false, m, c⟩, h => exact ⟨m.last? u, rfl, h.positions ▸ m.isLatest_last? u⟩
  | ⟨true, m, c⟩, h =>
    obtain ⟨rows, hrows, hps⟩ := Connection.Holds.rows h
    rw [show FleetStore.last? (⟨true, m, c⟩ : Backing) u = c.tables.last? u from
      Connection.Holds.ask_eq h (·.last? u)]
    cases hu : u.fits with
    | true =>
      rw [if_pos (show Backing.serves ⟨true, m, c⟩ u = true from hu)]
      exact Tables.isLatest_last? hrows hps hu
    | false =>
      rw [if_neg (show ¬Backing.serves ⟨true, m, c⟩ u = true from ne_true_of_eq_false hu)]
      exact Tables.last?_error hrows hu

omit u in
/-- A store can be asked for the latest position of a vehicle that it knows. -/
theorem isLatest_last? {u : VehicleRef} {w : Vehicle}
    (hw : FleetStore.vehicle? b u = .ok (some w)) :
    ∃ last, FleetStore.last? b u = .ok last ∧ IsLatest ps u last := by
  have hlatest := isLatest_of_holds h u
  rwa [if_pos (serves_of_vehicle? hw)] at hlatest

end Backing

end FleetTracking
