import FleetTracking.Proofs.Seeding.Tables
import FleetTracking.Proofs.Store.Arising
import FleetTracking.Startup

/-!
# Starting up twice

Preparing tables keeps every row that was there, whatever becomes of the sample data, and adds some
only where there were no vehicles. Once it has gone well, preparing the tables again changes nothing
about them, at any later time and whatever numbers would be drawn then (`prepare_settles`).

A sample without vehicles leaves no trace by which the next start could know of it. That start draws
it again, and it is still empty.
-/

namespace FleetTracking

namespace Tables

/-! ## Rows that stay -/

theorem foldlM_insertPosition_prefix {new : List NewPosition} {old after : List PositionRow}
    (h : new.foldlM insertPosition old = .ok after) : old <+: after := by
  refine foldlM_invariant (old <+: ·) (fun rows p _ rows' hrows hinsert => ?_)
    (List.prefix_refl old) h
  obtain ⟨r, rfl, _⟩ := insertPosition_new_key hinsert
  exact hrows.trans (List.prefix_append rows [r])

theorem insertPositions_prefix {old : List PositionRow} {new : List NewPosition}
    {table : Option (List PositionRow)} (h : insertPositions (some old) new = .ok table) :
    ∃ after, table = some after ∧ old <+: after := by
  unfold insertPositions at h
  split at h
  · cases h
    exact ⟨old, rfl, List.prefix_refl _⟩
  · obtain ⟨first, hfirst, hrest⟩ := bind_eq_ok.mp h
    obtain ⟨after, hfold, hafter⟩ := bind_eq_ok.mp hrest
    cases hfirst
    cases hafter
    exact ⟨after, rfl, foldlM_insertPosition_prefix hfold⟩

/-- The rows of `t` are there in `t'`, before any others. -/
structure Keeps (t t' : Tables) : Prop where
  vehicles : t.vehicles.getD [] <+: t'.vehicles.getD []
  positions : t.positions.getD [] <+: t'.positions.getD []

theorem Keeps.refl (t : Tables) : Keeps t t := ⟨List.prefix_refl _, List.prefix_refl _⟩

theorem create_of_missing {t : Tables} (h : t.missing = []) : t.create = t := by
  obtain ⟨vehicles, positions⟩ := t
  cases vehicles with
  | none => nomatch h
  | some _ =>
    cases positions with
    | none => nomatch h
    | some _ => rfl

end Tables

namespace Seeding

variable {ρ : Type} [RandomSource ρ] {t : Tables} {c : Connection} {rng rng' : ρ} {now : Instant}
  {counts : SeedCounts} {result : Except Failure Nat}

/-! ## Seeding once -/

/-- Seeding keeps all rows, and both tables. -/
theorem SeedsTables.keeps (h : SeedsTables t.create rng now counts result c rng') :
    t.Keeps c.tables ∧ c.tables.missing = [] := by
  cases h with
  | missing h => nomatch h
  | inhabited h => exact ⟨⟨List.prefix_refl _, List.prefix_refl _⟩, rfl⟩
  | undrawn h => exact ⟨⟨List.prefix_refl _, List.prefix_refl _⟩, rfl⟩
  | crowded h => exact ⟨⟨List.prefix_refl _, List.prefix_refl _⟩, rfl⟩
  | torn h =>
    refine ⟨⟨?_, List.prefix_refl _⟩, rfl⟩
    rw [Option.some.inj h]
    exact List.nil_prefix
  | stored h _ _ hinserted =>
    obtain ⟨rows, rfl, hprefix⟩ := Tables.insertPositions_prefix hinserted
    refine ⟨⟨?_, hprefix⟩, rfl⟩
    rw [Option.some.inj h]
    exact List.nil_prefix

/-! ## Seeding twice -/

/-- There are vehicles, or none would be drawn for as long as the clock goes on. -/
def IsSettled (t : Tables) (now : Instant) (counts : SeedCounts) : Prop :=
  (∃ v rest, t.vehicles = some (v :: rest)) ∨
    t.vehicles = some [] ∧ counts.vehicles.toNat = 0 ∧ trackAge ≤ now.micros

/-- Seeding that went well leaves tables that are settled. -/
theorem SeedsTables.isSettled {n : Nat} (h : SeedsTables t rng now counts (.ok n) c rng') :
    IsSettled c.tables now counts := by
  cases h with
  | inhabited h => exact .inl ⟨_, _, h⟩
  | @stored vehicles _ _ _ h hsample =>
    cases vehicles with
    | cons v rest => exact .inl ⟨_, _, rfl⟩
    | nil =>
      obtain ⟨_, base, _, hbase, _⟩ := sample_eq_ok.mp hsample
      have hmicros := Instant.micros_add hbase
      exact .inr ⟨rfl, (isSample_of_sample hsample).length.symm, by omega⟩

/-- A sample without vehicles is drawn without a number. -/
theorem sample_of_no_vehicles (rng : ρ) (hcount : counts.vehicles.toNat = 0)
    (hage : trackAge ≤ now.micros) : sample rng now counts = (.ok ([], []), rng) := by
  have hmicros := now.inCalendar
  have hpositive : (0 : Int) ≤ trackAge := by decide
  obtain ⟨base, hbase, _⟩ := exists_add now (-trackAge) (by omega) (by omega)
  have hpositioned : positionedCount ([] : List SampleVehicle).length counts.positioned = 0 := by
    unfold positionedCount
    split <;> simp
    omega
  refine sample_eq_ok.mpr ⟨rng, base, ?_, hbase, ?_⟩
  · rw [hcount]
    rfl
  · rw [hpositioned]
    rfl

/-- Tables that are settled are left alone. -/
theorem IsSettled.seedTables_eq (h : IsSettled t now counts) {now' : Instant} (hnow : now ≤ now')
    (rng : ρ) : ∃ n, seedTables ⟨t, .empty⟩ rng now' counts = (.ok n, ⟨t, .empty⟩, rng) := by
  obtain ⟨v, rest, hvehicles⟩ | ⟨hvehicles, hcount, hage⟩ := h
  · refine ⟨0, ?_⟩
    unfold seedTables
    rw [Connection.ask_empty, hvehicles]
    rfl
  · refine ⟨0, ?_⟩
    have hlater : now.micros ≤ now'.micros := hnow
    unfold seedTables
    rw [Connection.ask_empty, hvehicles]
    dsimp only [Tables.rows]
    rw [sample_of_no_vehicles rng hcount (by omega)]
    dsimp only
    rw [commitSample_eq hvehicles (show AreNamed 1 [] from trivial) rfl]
    obtain ⟨vehicles, positions⟩ := t
    cases hvehicles
    rfl

end Seeding

namespace Startup

open Seeding

variable {ρ ρ' : Type} [RandomSource ρ] [RandomSource ρ'] {t t' : Tables} {rng rng' : ρ}
  {now : Instant} {counts : SeedCounts} {seed ok : Bool}

/-- Tables are prepared by creating them, and by seeding them if that is wanted. -/
theorem prepare_cases (h : prepare t rng now counts seed = (ok, t', rng')) :
    seed = false ∧ ok = true ∧ t' = t.create ∧ rng' = rng ∨
      seed = true ∧ ∃ result c, SeedsTables t.create rng now counts result c rng' ∧
        ok = result.isOk ∧ t' = c.tables := by
  unfold prepare at h
  cases seed with
  | false =>
    cases h
    exact .inl ⟨rfl, rfl, rfl, rfl⟩
  | true =>
    obtain ⟨result, c, rng'', hseeds, heq⟩ := exists_seedsTables t.create rng now counts
    simp only [if_true] at h
    rw [heq] at h
    cases h
    exact .inr ⟨rfl, result, c, hseeds, rfl, rfl⟩

/-- Tables that are settled are left alone at every later start. -/
theorem prepare_of_isSettled (h : IsSettled t now counts) (hmissing : t.missing = []) {now' : Instant}
    (hnow : now ≤ now') (rng : ρ) : prepare t rng now' counts true = (true, t, rng) := by
  obtain ⟨n, heq⟩ := h.seedTables_eq hnow rng
  unfold prepare
  rw [Tables.create_of_missing hmissing]
  simp only [if_true]
  rw [heq]
  rfl

/-- Preparing tables keeps all rows and leaves no table missing. It adds none where there are
vehicles, or where none are wanted. If it goes well, then it goes well again at any later time, and
changes nothing. -/
theorem prepare_settles (h : prepare t rng now counts seed = (ok, t', rng')) :
    t.Keeps t' ∧ t'.missing = [] ∧
      (seed = false ∨ t.vehicles.getD [] ≠ [] → t' = t.create) ∧
      (ok = true → ∀ (rng : ρ') (now' : Instant), now ≤ now' →
        prepare t' rng now' counts seed = (true, t', rng)) := by
  obtain ⟨rfl, rfl, rfl, _⟩ | ⟨rfl, result, c, hseeds, rfl, rfl⟩ := prepare_cases h
  · refine ⟨⟨List.prefix_refl _, List.prefix_refl _⟩, rfl, fun _ => rfl, fun _ rng now' _ => rfl⟩
  · obtain ⟨hkeeps, hmissing⟩ := hseeds.keeps
    refine ⟨hkeeps, hmissing, ?_, ?_⟩
    · rintro (hseed | hinhabited)
      · nomatch hseed
      · cases hseeds with
        | missing habsent => nomatch habsent
        | inhabited => rfl
        | undrawn hempty => exact absurd (Option.some.inj hempty) hinhabited
        | crowded hempty => exact absurd (Option.some.inj hempty) hinhabited
        | torn hempty => exact absurd (Option.some.inj hempty) hinhabited
        | stored hempty => exact absurd (Option.some.inj hempty) hinhabited
    · intro hok rng now' hnow
      cases result with
      | error e => nomatch hok
      | ok n => exact prepare_of_isSettled hseeds.isSettled hmissing hnow rng

/-- Tables of which only one has stayed, with a position in it. -/
def salvaged : Tables :=
  ⟨none, some [⟨1, 7, ⟨37.98, 23.72⟩, Civil.ofMicros (700000 * dayMicros) (by decide)⟩]⟩

/-- The vehicle table is made anew and filled, and positions are added to the one that was there.
A second start, a day later and with other numbers, changes nothing. -/
theorem prepare_settles_salvaged :
    let first := prepare salvaged (Draws.ofList []) ⟨738000 * dayMicros, by decide⟩ ⟨2, 1, 3⟩ true
    first.1 = true ∧ (first.2.1.vehicles.getD []).length = 2 ∧
      (first.2.1.positions.getD []).length = 4 ∧
      prepare first.2.1 (mkStdGen 0) ⟨738001 * dayMicros, by decide⟩ ⟨2, 1, 3⟩ true =
        (true, first.2.1, mkStdGen 0) := by
  intro first
  have hfirst : prepare salvaged (Draws.ofList []) ⟨738000 * dayMicros, by decide⟩ ⟨2, 1, 3⟩ true =
      (first.1, first.2.1, first.2.2) := rfl
  have hok : first.1 = true := by decide +kernel
  exact ⟨hok, by decide +kernel, by decide +kernel,
    (prepare_settles hfirst).2.2.2 hok (mkStdGen 0) _ (by decide)⟩

end Startup

end FleetTracking
