import FleetTracking.Proofs.Store.Contents

/-!
# The latest position

What a store answers as the last position of a vehicle is a stored one, than which no stored
position of this vehicle is later (`IsLatest`). A memory finds it by a walk over its positions,
tables by sorting their rows.
-/

namespace FleetTracking

/-! ## Lists without repeated keys -/

/-- Members of a list are told apart by their keys, if no two keys are equal. -/
theorem eq_of_nodup_map {f : α → β} {l : List α} (h : (l.map f).Nodup) {a b : α} (ha : a ∈ l)
    (hb : b ∈ l) (hab : f a = f b) : a = b := by
  induction l with
  | nil => nomatch ha
  | cons c rest ih =>
    rw [List.map_cons, List.nodup_cons] at h
    obtain ⟨hnew, hrest⟩ := h
    rcases List.mem_cons.mp ha with rfl | ha'
    · rcases List.mem_cons.mp hb with rfl | hb'
      · rfl
      · exact absurd (List.mem_map.mpr ⟨b, hb', hab.symm⟩) hnew
    · rcases List.mem_cons.mp hb with rfl | hb'
      · exact absurd (List.mem_map.mpr ⟨a, ha', hab⟩) hnew
      · exact ih hrest ha' hb'

/-! ## Finding the latest -/

theorem Memory.recordedAt_le_later (p q : Position) :
    p.recordedAt ≤ (later p q).recordedAt ∧ q.recordedAt ≤ (later p q).recordedAt := by
  unfold later
  by_cases hlt : p.recordedAt < q.recordedAt
  · rw [if_pos hlt]
    exact ⟨Nat.le_of_lt hlt, Nat.le_refl _⟩
  · rw [if_neg hlt]
    exact ⟨Nat.le_refl _, Nat.le_of_not_lt hlt⟩

/-- A walk over positions ends with one of them, than which none is later. -/
theorem Memory.foldl_later (p : Position) (ps : List Position) :
    ps.foldl later p ∈ p :: ps ∧
      ∀ q ∈ p :: ps, q.recordedAt ≤ (ps.foldl later p).recordedAt := by
  induction ps generalizing p with
  | nil =>
    refine ⟨List.mem_singleton_self p, ?_⟩
    intro q hq
    rw [List.mem_singleton.mp hq]
    exact Nat.le_refl _
  | cons q rest ih =>
    obtain ⟨hmem, hle⟩ := ih (later p q)
    obtain ⟨hp, hq⟩ := recordedAt_le_later p q
    have hlater := hle (later p q) List.mem_cons_self
    rw [List.foldl_cons]
    constructor
    · rcases List.mem_cons.mp hmem with hsame | hmem
      · rw [hsame]
        unfold later
        split
        · exact List.mem_cons_of_mem _ List.mem_cons_self
        · exact List.mem_cons_self
      · exact List.mem_cons_of_mem _ (List.mem_cons_of_mem _ hmem)
    · intro r hr
      rcases List.mem_cons.mp hr with rfl | hr
      · exact Nat.le_trans hp hlater
      · rcases List.mem_cons.mp hr with rfl | hr
        · exact Nat.le_trans hq hlater
        · exact hle r (List.mem_cons_of_mem _ hr)

/-- The first item in falling order is one than which none is greater. -/
theorem head_mergeSort_falling {f : α → Nat} {le : α → α → Bool}
    (hle : ∀ a b, le a b = decide (f b ≤ f a)) {l rest : List α} {a : α}
    (h : l.mergeSort le = a :: rest) : a ∈ l ∧ ∀ b ∈ l, f b ≤ f a := by
  have hmem (b : α) : b ∈ l ↔ b ∈ a :: rest := by rw [← h, List.mem_mergeSort]
  have hsorted : (a :: rest).Pairwise fun b c => le b c = true := by
    rw [← h]
    refine List.pairwise_mergeSort ?_ ?_ l
    · intro b c d hbc hcd
      rw [hle, decide_eq_true_iff] at hbc hcd ⊢
      exact Nat.le_trans hcd hbc
    · intro b c
      rw [hle, hle, Bool.or_eq_true, decide_eq_true_iff, decide_eq_true_iff]
      exact Nat.le_total _ _
  refine ⟨(hmem a).mpr List.mem_cons_self, ?_⟩
  intro b hb
  rcases List.mem_cons.mp ((hmem b).mp hb) with rfl | hb
  · exact Nat.le_refl _
  · have hab := (List.pairwise_cons.mp hsorted).1 b hb
    rw [hle] at hab
    exact of_decide_eq_true hab

/-! ## What a store answers -/

/-- Of these positions, none belongs to the vehicle, or this one does and none of the vehicle is
later. -/
inductive IsLatest (ps : List Position) (u : VehicleRef) : Option Position → Prop
  | missing (h : ∀ p ∈ ps, p.vehicle ≠ u) : IsLatest ps u none
  | found (p : Position) (hp : p ∈ ps) (hu : p.vehicle = u)
    (hlatest : ∀ q ∈ ps, q.vehicle = u → q.recordedAt ≤ p.recordedAt) : IsLatest ps u (some p)

/-- Where no two keys are the same, there is only one latest position. -/
theorem IsLatest.eq_some {ps : List Position} {u : VehicleRef} {last : Option Position}
    (h : IsLatest ps u last) (hkeys : (ps.map Position.key).Nodup) {p : Position} (hp : p ∈ ps)
    (hu : p.vehicle = u) (hlatest : ∀ q ∈ ps, q.vehicle = u → q.recordedAt ≤ p.recordedAt) :
    last = some p := by
  cases h with
  | missing hnone => exact absurd hu (hnone p hp)
  | found q hq hqu hqlatest =>
    have hsame := Instant.le_antisymm (hlatest q hq hqu) (hqlatest p hp hu)
    exact congrArg some (eq_of_nodup_map hkeys hq hp (Prod.ext (hqu.trans hu.symm) hsame))

theorem Memory.isLatest_last? (m : Memory) (u : VehicleRef) :
    IsLatest m.positions u (m.last? u) := by
  have hmem (p : Position) : p ∈ m.positionsOf u ↔ p ∈ m.positions ∧ p.vehicle = u := by
    unfold positionsOf
    rw [List.mem_filter, beq_iff_eq]
  unfold last?
  cases hps : m.positionsOf u with
  | nil =>
    refine .missing fun p hp hu => ?_
    have hnone := (hmem p).mpr ⟨hp, hu⟩
    rw [hps] at hnone
    nomatch hnone
  | cons first rest =>
    obtain ⟨hlast, hlatest⟩ := foldl_later first rest
    rw [← hps] at hlast hlatest
    obtain ⟨hp, hu⟩ := (hmem _).mp hlast
    exact .found _ hp hu fun q hq hqu => hlatest q ((hmem q).mpr ⟨hq, hqu⟩)

theorem Tables.isLatest_last? {t : Tables} {rows : List PositionRow} {ps : List Position}
    (hrows : t.positions = some rows) (hps : rows.mapM PositionRow.toPosition = .ok ps)
    {u : VehicleRef} (hu : u.fits = true) : ∃ last, t.last? u = .ok last ∧ IsLatest ps u last := by
  have hrow {q : Position} (hq : q ∈ ps) (hqu : q.vehicle = u) : ∃ r : PositionRow,
      r ∈ rows.filter (fun r => some r.vehicle == u) ∧ r.toPosition = .ok q := by
    obtain ⟨r, hr, hrq⟩ := exists_of_mem_mapM hps hq
    have hkey := (PositionRow.toPosition_ok hrq).1
    have hvehicle : some r.vehicle = u := hqu ▸ (congrArg Prod.fst hkey).symm
    exact ⟨r, List.mem_filter.mpr ⟨hr, by simpa using hvehicle⟩, hrq⟩
  unfold last?
  rw [positionsOf_eq hrows, if_pos hu]
  dsimp only [bind, Except.bind]
  cases hsorted : (rows.filter fun r => some r.vehicle == u).mergeSort
      fun a b => b.recordedAt.isLE a.recordedAt with
  | nil =>
    refine ⟨none, rfl, .missing fun p hp hpu => ?_⟩
    obtain ⟨r, hr, _⟩ := hrow hp hpu
    rw [← List.mem_mergeSort, hsorted] at hr
    nomatch hr
  | cons r rest =>
    have hfalling (a b : PositionRow) : b.recordedAt.isLE a.recordedAt =
        decide (b.recordedAt.micros ≤ a.recordedAt.micros) := by
      rw [Bool.eq_iff_iff, Civil.isLE_iff, decide_eq_true_iff]
    obtain ⟨hr, hlatest⟩ := head_mergeSort_falling hfalling hsorted
    obtain ⟨hrmem, hru⟩ := List.mem_filter.mp hr
    obtain ⟨p, hp, hrp⟩ := exists_mem_of_mapM hps hrmem
    refine ⟨some p, ?_, .found p hp ?_ ?_⟩
    · show (do return some (← r.toPosition)) = _
      rw [hrp]
      rfl
    · have hvehicle : p.vehicle = some r.vehicle :=
        congrArg Prod.fst (PositionRow.toPosition_ok hrp).1
      rw [hvehicle]
      simpa using hru
    · intro q hq hqu
      obtain ⟨r', hr', hrq⟩ := hrow hq hqu
      have htime : p.recordedAt = r.recordedAt.instant :=
        congrArg Prod.snd (PositionRow.toPosition_ok hrp).1
      have htime' : q.recordedAt = r'.recordedAt.instant :=
        congrArg Prod.snd (PositionRow.toPosition_ok hrq).1
      rw [htime, htime']
      exact hlatest r' hr'

end FleetTracking
