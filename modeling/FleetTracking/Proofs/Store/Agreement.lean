import FleetTracking.Proofs.Store.Arising
import FleetTracking.Proofs.Store.Window
import Mathlib.Data.List.Nodup

/-!
# Windows, records and the latest position

Three questions can be asked about the positions of a vehicle: which ones lie in a window of time,
whether one is recorded at an instant, and which one is the latest. In a store that has arisen no
two positions share a key, so instants rise strictly along a window (`Position.rising_window`), a
window that is cut in two falls into two windows (`Position.window_append`), one of a single instant
has at most one position in it, and the latest position ends every window that reaches past all
others (`Position.getLast?_window`).

So the three questions tell the same (`Backing.Arises.agreesAbout`).
-/

namespace FleetTracking

/-- Where there is a later instant, there is a next one. -/
theorem Instant.exists_next {m stop : Instant} (h : m < stop) :
    ∃ next, m.add? 1 = some next ∧ next.micros = m.micros + 1 := by
  have hlt : m.micros < stop.micros := h
  have hcalendar := stop.inCalendar
  have hroom : 0 ≤ (m.micros : Int) + 1 ∧ (m.micros : Int) + 1 < calendarMicros := by omega
  refine ⟨⟨m.micros + 1, by omega⟩, ?_, rfl⟩
  unfold add? ofMicros?
  rw [dif_pos hroom]
  rfl

/-! ## Windows without repeated keys -/

namespace Position

/-- Instants rise strictly. -/
def AreRising (ps : List Position) : Prop := ps.Pairwise fun p q => p.recordedAt < q.recordedAt

/-- Rising positions are told by which ones they are. -/
theorem AreRising.eq_of_mem_iff {ps qs : List Position} (hps : AreRising ps) (hqs : AreRising qs)
    (h : ∀ p, p ∈ ps ↔ p ∈ qs) : ps = qs := by
  have hdistinct {l : List Position} (hl : AreRising l) : l.Nodup := by
    refine hl.imp ?_
    rintro p q hlt rfl
    exact Nat.lt_irrefl _ hlt
  refine List.Perm.eq_of_pairwise ?_ hps hqs ?_
  · intro p q _ _ hpq hqp
    exact absurd (Nat.lt_trans hpq hqp) (Nat.lt_irrefl _)
  · exact (List.perm_ext_iff_of_nodup (hdistinct hps) (hdistinct hqs)).mpr h

/-- The last of rising positions is the latest one. -/
theorem AreRising.le_getLast {ps : List Position} (h : AreRising ps) (hne : ps ≠ []) :
    ∀ p ∈ ps, p.recordedAt ≤ (ps.getLast hne).recordedAt := by
  intro p hp
  have hsplit := List.dropLast_concat_getLast hne
  rw [← hsplit, List.mem_append, List.mem_singleton] at hp
  unfold AreRising at h
  rw [← hsplit, List.pairwise_append] at h
  rcases hp with hp | rfl
  · exact Nat.le_of_lt (h.2.2 p hp _ (List.mem_singleton_self _))
  · exact Nat.le_refl _

variable {ps : List Position} {u : VehicleRef} {start stop : Instant}

theorem window_perm_filter : (window ps u start stop).Perm
    (ps.filter fun p => p.vehicle = u ∧ start ≤ p.recordedAt ∧ p.recordedAt ≤ stop) := by
  refine (List.mergeSort_perm _ _).trans ?_
  rw [List.filter_filter]
  refine List.Perm.of_eq (List.filter_congr ?_)
  intro p _
  by_cases hu : p.vehicle = u <;> simp [hu]

variable (hkeys : (ps.map key).Nodup)

include hkeys

theorem rising_window : AreRising (window ps u start stop) := by
  have hdistinct : (window ps u start stop).Nodup :=
    window_perm_filter.nodup_iff.mpr ((List.Nodup.of_map key hkeys).filter _)
  refine (pairwise_window.and hdistinct).imp_of_mem ?_
  rintro p q hp hq ⟨hle, hne⟩
  obtain ⟨hp, hpu, _⟩ := mem_window.mp hp
  obtain ⟨hq, hqu, _⟩ := mem_window.mp hq
  refine Nat.lt_of_le_of_ne hle ?_
  intro hsame
  have hkey : p.key = q.key := Prod.ext (hpu.trans hqu.symm) (Instant.micros_inj.mp hsame)
  exact hne (eq_of_nodup_map hkeys hp hq hkey)

/-- A window can be cut between an instant and the next one. -/
theorem window_append {m next : Instant} (hstart : start ≤ m) (hstop : m < stop)
    (hnext : next.micros = m.micros + 1) :
    window ps u start stop = window ps u start m ++ window ps u next stop := by
  refine (rising_window hkeys).eq_of_mem_iff ?_ ?_
  · refine List.pairwise_append.mpr ⟨rising_window hkeys, rising_window hkeys, ?_⟩
    intro p hp q hq
    obtain ⟨_, _, _, hpm⟩ := mem_window.mp hp
    obtain ⟨_, _, hqm, _⟩ := mem_window.mp hq
    show p.recordedAt.micros < q.recordedAt.micros
    change p.recordedAt.micros ≤ m.micros at hpm
    change next.micros ≤ q.recordedAt.micros at hqm
    omega
  · intro p
    rw [List.mem_append, mem_window, mem_window, mem_window]
    change start.micros ≤ m.micros at hstart
    change m.micros < stop.micros at hstop
    have hcut : (start ≤ p.recordedAt ∧ p.recordedAt ≤ stop) ↔
        (start ≤ p.recordedAt ∧ p.recordedAt ≤ m) ∨ (next ≤ p.recordedAt ∧ p.recordedAt ≤ stop) := by
      show (start.micros ≤ p.recordedAt.micros ∧ p.recordedAt.micros ≤ stop.micros) ↔
        (start.micros ≤ p.recordedAt.micros ∧ p.recordedAt.micros ≤ m.micros) ∨
          (next.micros ≤ p.recordedAt.micros ∧ p.recordedAt.micros ≤ stop.micros)
      omega
    rw [hcut, and_or_left, and_or_left]

/-- The window of one instant holds the position that is recorded then, or nothing. -/
theorem window_self (t : Instant) :
    if (u, t) ∈ ps.map key then (window ps u t t).length = 1 else window ps u t t = [] := by
  have hkey {p : Position} : p ∈ window ps u t t ↔ p ∈ ps ∧ p.key = (u, t) := by
    rw [mem_window]
    constructor
    · rintro ⟨hp, hu, hle, hge⟩
      exact ⟨hp, Prod.ext hu (Instant.le_antisymm hge hle)⟩
    · rintro ⟨hp, hsame⟩
      obtain ⟨hu, htime⟩ := Prod.mk.inj hsame
      exact ⟨hp, hu, htime ▸ Nat.le_refl _, htime ▸ Nat.le_refl _⟩
  split
  · rename_i hrecorded
    obtain ⟨p, hp, hsame⟩ := List.mem_map.mp hrecorded
    have honly : window ps u t t = [p] := by
      refine (rising_window hkeys).eq_of_mem_iff (List.pairwise_singleton _ _) ?_
      intro q
      rw [hkey, List.mem_singleton]
      constructor
      · rintro ⟨hq, hqsame⟩
        exact eq_of_nodup_map hkeys hq hp (hqsame.trans hsame.symm)
      · rintro rfl
        exact ⟨hp, hsame⟩
    rw [honly]
    rfl
  · rename_i hnone
    refine List.eq_nil_iff_forall_not_mem.mpr ?_
    intro p hp
    obtain ⟨hp, hsame⟩ := hkey.mp hp
    exact hnone (List.mem_map.mpr ⟨p, hp, hsame⟩)

/-- A window that begins no later than the latest position, and ends no earlier than any, ends with
the latest one. -/
theorem getLast?_window {last : Position} (hlast : IsLatest ps u (some last))
    (hstart : start ≤ last.recordedAt)
    (hstop : ∀ q ∈ ps, q.vehicle = u → q.recordedAt ≤ stop) :
    (window ps u start stop).getLast? = some last := by
  cases hlast with
  | found _ hmem hu hlatest =>
    have hinside : last ∈ window ps u start stop :=
      mem_window.mpr ⟨hmem, hu, hstart, hstop last hmem hu⟩
    have hsome := List.ne_nil_of_mem hinside
    obtain ⟨hfinal, hfinalu, _⟩ := mem_window.mp (List.getLast_mem hsome)
    have hle := (rising_window hkeys).le_getLast hsome last hinside
    have hsame := Instant.le_antisymm (hlatest _ hfinal hfinalu) hle
    rw [List.getLast?_eq_some_getLast hsome]
    exact congrArg some (eq_of_nodup_map hkeys hfinal hmem (Prod.ext (hfinalu.trans hu.symm) hsame))

end Position

/-! ## Questions about one vehicle -/

namespace Backing

/-- A vehicle whose identifier fits its column can be asked about. -/
theorem serves_of_fits (b : Backing) {u : VehicleRef} (h : u.fits = true) : b.serves u = true := by
  match b with
  | ⟨false, m, c⟩ => rfl
  | ⟨true, m, c⟩ => exact h

/-- What the questions about a vehicle tell of the positions that are stored.

* `between` — a window gives the positions of the vehicle that lie in it, each once, and rising
* `cut` — two windows that meet give together what the window over both gives
* `recorded` — an instant is recorded if its window has a position, which is then the only one
* `last` — there is no latest position if the vehicle has none; if there is one, every window that
  reaches from an instant no later than it past all positions of the vehicle ends with it -/
structure AgreesAbout (b : Backing) (u : VehicleRef) (ps : List Position) : Prop where
  between : ∀ start stop, ∃ found, FleetStore.between b u start stop = .ok found ∧
    found.Perm (ps.filter fun p => p.vehicle = u ∧ start ≤ p.recordedAt ∧ p.recordedAt ≤ stop) ∧
    Position.AreRising found
  cut : ∀ start m stop, start ≤ m → m < stop → ∃ next early late, m.add? 1 = some next ∧
    FleetStore.between b u start m = .ok early ∧ FleetStore.between b u next stop = .ok late ∧
    FleetStore.between b u start stop = .ok (early ++ late)
  recorded : ∀ t, ∃ recorded found, FleetStore.isRecorded b u t = .ok recorded ∧
    FleetStore.between b u t t = .ok found ∧ if recorded then found.length = 1 else found = []
  last : ∃ last, FleetStore.last? b u = .ok last ∧ (last = none ↔ ∀ p ∈ ps, p.vehicle ≠ u) ∧
    ∀ p, last = some p → ∀ start stop, start ≤ p.recordedAt →
      (∀ q ∈ ps, q.vehicle = u → q.recordedAt ≤ stop) →
      ∃ found, FleetStore.between b u start stop = .ok found ∧ found.getLast? = some p

theorem agreesAbout_of_holds {b : Backing} {ps : List Position} (h : b.Holds ps)
    (hkeys : (ps.map Position.key).Nodup) {u : VehicleRef} (hu : b.serves u = true) :
    b.AgreesAbout u ps := by
  have hbetween (start stop : Instant) :
      FleetStore.between b u start stop = .ok (Position.window ps u start stop) := by
    rw [between_of_holds h, if_pos hu]
  constructor
  case between =>
    intro start stop
    exact ⟨_, hbetween start stop, Position.window_perm_filter, Position.rising_window hkeys⟩
  case cut =>
    intro start m stop hstart hstop
    obtain ⟨next, hadd, hnext⟩ := Instant.exists_next hstop
    refine ⟨next, _, _, hadd, hbetween start m, hbetween next stop, ?_⟩
    rw [hbetween, Position.window_append hkeys hstart hstop hnext]
  case recorded =>
    intro t
    refine ⟨decide ((u, t) ∈ ps.map Position.key), _, ?_, hbetween t t, ?_⟩
    · rw [isRecorded_of_holds h, if_pos hu]
    · simpa using Position.window_self hkeys t
  case last =>
    have hlatest := isLatest_of_holds h u
    rw [if_pos hu] at hlatest
    obtain ⟨last, hlast, hlatest⟩ := hlatest
    refine ⟨last, hlast, ?_, ?_⟩
    · cases hlatest with
      | missing hnone => simpa using hnone
      | found p hp hpu _ => simpa using ⟨p, hp, hpu⟩
    · rintro p rfl start stop hstart hstop
      exact ⟨_, hbetween start stop, Position.getLast?_window hkeys hlatest hstart hstop⟩

/-- In a store that has arisen, all positions can be read, no two share a key, and the three
questions about a vehicle agree on them. -/
theorem Arises.agreesAbout {b : Backing} (hb : b.Arises) {u : VehicleRef} (hu : u.fits = true) :
    ∃ ps, b.storedPositions = .ok ps ∧ (ps.map Position.key).Nodup ∧ b.AgreesAbout u ps := by
  obtain ⟨ps, hps, hkeys⟩ := hb.isConsistent.exists_holds
  exact ⟨ps, storedPositions_of_holds hps, hkeys,
    agreesAbout_of_holds hps hkeys (b.serves_of_fits hu)⟩

theorem agreesAbout_watched :
    (watched true).Arises ∧ VehicleRef.fits (some 1) = true ∧
    ∃ ps, (watched true).storedPositions = .ok ps ∧ (ps.map Position.key).Nodup ∧
      (watched true).AgreesAbout (some 1) ps :=
  have hfits : VehicleRef.fits (some 1) = true := by decide
  ⟨arises_watched true, hfits, (arises_watched true).agreesAbout hfits⟩

end Backing

end FleetTracking
