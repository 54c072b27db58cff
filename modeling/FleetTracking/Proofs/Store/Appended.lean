import FleetTracking.Proofs.Store.Contents
import Mathlib.Data.List.Forall2

/-!
# What a save appends

A save that comes to an answer puts just the answered positions behind those that were stored, in
the order in which they were staged and under the next numbers, and leaves everything else as it was
(`Memory.Appended`, `Connection.Appended`, `Backing.Appended`). Each of them is a copy of the
position that was staged in its place (`Backing.appended_store`).

This says more than `Stored`, which looks at a store through its questions: here nothing is left
open that a store keeps.
-/

namespace FleetTracking

/-! ## Copies -/

/-- Positions are numbered as copies of what they are in memory. -/
theorem Memory.forall₂_isCopyOf_numbered (n : Int) (ps : List Position) :
    List.Forall₂ Position.IsCopyOf (numbered n ps) ps := by
  induction ps generalizing n with
  | nil => exact .nil
  | cons p rest ih => exact .cons ⟨rfl, rfl, p.coordinates.agrees_refl, rfl⟩ (ih (n + 1))

/-- Tables give positions back as copies of what they were. -/
theorem Memory.forall₂_isCopyOf_numbered_stored (n : Int) (ps : List Position) :
    List.Forall₂ Position.IsCopyOf (numbered n (ps.map Position.stored)) ps := by
  induction ps generalizing n with
  | nil => exact .nil
  | cons p rest ih => exact .cons ⟨rfl, rfl, p.coordinates.agrees_stored, rfl⟩ (ih (n + 1))

theorem Position.map_key_of_forall₂ {qs ps : List Position}
    (h : List.Forall₂ Position.IsCopyOf qs ps) : qs.map Position.key = ps.map Position.key := by
  induction h with
  | nil => rfl
  | cons hcopy _ ih => rw [List.map_cons, List.map_cons, hcopy.key, ih]

/-! ## In memory -/

namespace Memory

/-- `m'` is the memory `m` with `saved` behind its positions, and the same otherwise. -/
def Appended (m : Memory) (saved : List Position) (m' : Memory) : Prop :=
  m' = { m with
    positions := m.positions ++ saved
    keys := m.keys ++ saved.map Position.key
    nextPosition := m.nextPosition + saved.length }

theorem Appended.refl (m : Memory) : m.Appended [] m := by simp [Appended]

theorem Appended.trans {m m' m'' : Memory} {saved saved' : List Position}
    (h : m.Appended saved m') (h' : m'.Appended saved' m'') : m.Appended (saved ++ saved') m'' := by
  cases h
  cases h'
  simp only [Appended, List.map_append, List.append_assoc, List.length_append, Int.natCast_add,
    Int.add_assoc]

theorem Holds.extend {m : Memory} {stored : List Position} (h : m.Holds stored)
    (ps : List Position) : (m.extend ps).Holds (stored ++ numbered m.nextPosition ps) where
  positions := congrArg (· ++ numbered m.nextPosition ps) h.positions
  keys := by
    show m.keys ++ _ = _
    rw [List.map_append, h.keys, map_numbered Position.key_withId]
  numbers p hp := by
    show ∃ k < m.nextPosition + ps.length, p.id = some k
    rcases List.mem_append.mp hp with hp | hp
    · obtain ⟨k, hk, hid⟩ := h.numbers p hp
      exact ⟨k, by omega, hid⟩
    · obtain ⟨k, hid, _, hk⟩ := id_of_mem_numbered hp
      exact ⟨k, hk, hid⟩

theorem appended_extend (m : Memory) (ps : List Position) :
    m.Appended (numbered m.nextPosition ps) (m.extend ps) := by
  unfold Appended extend
  rw [map_numbered Position.key_withId, length_numbered]

end Memory

/-! ## Through a session -/

/-- `t'` are the tables `t` with rows for `saved` behind those of the positions, and the same
otherwise. Where the table is missing, there is nothing to append to. -/
structure Tables.Appended (t : Tables) (saved : List Position) (t' : Tables) : Prop where
  vehicles : t'.vehicles = t.vehicles
  positions : t'.positions = t.positions ∧ saved = [] ∨
    ∃ rows new, t.positions = some rows ∧ t'.positions = some (rows ++ new) ∧
      new.mapM PositionRow.toPosition = .ok saved

namespace Tables

theorem Appended.refl (t : Tables) : t.Appended [] t := ⟨rfl, .inl ⟨rfl, rfl⟩⟩

/-- Where the table is there, the rows of what is appended stand behind its rows. -/
theorem Appended.rows {t t' : Tables} {saved : List Position} (h : t.Appended saved t')
    {rows : List PositionRow} (hrows : t.positions = some rows) :
    ∃ new, t'.positions = some (rows ++ new) ∧ new.mapM PositionRow.toPosition = .ok saved := by
  obtain ⟨hsame, rfl⟩ | ⟨rows', new, hrows', hnew, hsaved⟩ := h.positions
  · exact ⟨[], by rw [hsame, hrows, List.append_nil], rfl⟩
  · rw [hrows] at hrows'
    cases hrows'
    exact ⟨new, hnew, hsaved⟩

theorem Appended.trans {t t' t'' : Tables} {saved saved' : List Position}
    (h : t.Appended saved t') (h' : t'.Appended saved' t'') :
    t.Appended (saved ++ saved') t'' := by
  refine ⟨h'.vehicles.trans h.vehicles, ?_⟩
  obtain ⟨hsame, rfl⟩ | ⟨rows, new, hrows, hnew, hsaved⟩ := h.positions
  · rw [← hsame]
    exact h'.positions
  · obtain ⟨new', hnew', hsaved'⟩ := h'.rows hnew
    refine .inr ⟨rows, new ++ new', hrows, by rw [hnew', List.append_assoc], ?_⟩
    rw [List.mapM_append, hsaved, hsaved']
    rfl

theorem appended_storedPositions {t t' : Tables} {ps saved : List Position}
    (h : t.Appended saved t') (hps : t.storedPositions = .ok ps) :
    t'.storedPositions = .ok (ps ++ saved) := by
  unfold storedPositions at hps ⊢
  cases hrows : t.positions with
  | none =>
    rw [hrows] at hps
    nomatch hps
  | some rows =>
    obtain ⟨new, hnew, hsaved⟩ := h.rows hrows
    rw [hrows] at hps
    rw [hnew]
    change rows.mapM PositionRow.toPosition = .ok ps at hps
    show (rows ++ new).mapM PositionRow.toPosition = _
    rw [List.mapM_append, hps, hsaved]
    rfl

end Tables

namespace Connection

/-- `c'` is the connection `c` with rows for `saved` behind those of its positions, and the same
otherwise. -/
structure Appended (c : Connection) (saved : List Position) (c' : Connection) : Prop where
  session : c'.session = c.session
  tables : c.tables.Appended saved c'.tables

theorem Appended.refl (c : Connection) : c.Appended [] c := ⟨rfl, .refl c.tables⟩

theorem Appended.trans {c c' c'' : Connection} {saved saved' : List Position}
    (h : c.Appended saved c') (h' : c'.Appended saved' c'') : c.Appended (saved ++ saved') c'' :=
  ⟨h'.session.trans h.session, h.tables.trans h'.tables⟩

theorem appended_extend {c : Connection} {rows : List PositionRow}
    (hrows : c.tables.positions = some rows) {ps : List Position} (hfits : ∀ p ∈ ps, p.Fits) :
    c.Appended (Memory.numbered (nextId (rows.map PositionRow.id)) (ps.map Position.stored))
      (c.extend ps) where
  session := rfl
  tables := {
    vehicles := rfl
    positions := .inr ⟨rows, _, hrows, positions_extend hrows ps,
      PositionRow.mapM_toPosition_numbered hfits _⟩ }

/-- The positions that are appended stand behind those that the tables hold. -/
theorem Appended.holds {c c' : Connection} {ps saved : List Position} (h : c.Appended saved c')
    (hps : c.Holds ps) : c'.Holds (ps ++ saved) := by
  obtain ⟨hstalled, hps⟩ := ask_eq_ok.mp hps
  rw [← h.session] at hstalled
  exact ask_eq_ok.mpr ⟨hstalled, Tables.appended_storedPositions h.tables hps⟩

/-- A save that comes to an answer appends what it answers. -/
theorem appended_store {c c' : Connection} (hc : c.IsIdle) {ps saved : List Position}
    (h : Service.store c ps = (.ok saved, c')) :
    c.Appended saved c' ∧ List.Forall₂ Position.IsCopyOf saved ps := by
  by_cases hps : ps = []
  · subst hps
    rw [store_nil hc] at h
    cases h
    exact ⟨.refl c, .nil⟩
  · obtain ⟨rows, hrows, hfits, _, rfl, rfl⟩ := store_ok hc hps h
    exact ⟨appended_extend hrows hfits, Memory.forall₂_isCopyOf_numbered_stored _ _⟩

end Connection

/-! ## Either of both -/

namespace Backing

/-- `b'` is the store `b` with `saved` behind the positions of the store at work, and the same
otherwise. -/
inductive Appended : Backing → List Position → Backing → Prop
  | memory {m m' : Memory} {saved : List Position} (c : Connection) (h : m.Appended saved m') :
    Appended ⟨false, m, c⟩ saved ⟨false, m', c⟩
  | connection (m : Memory) {c c' : Connection} {saved : List Position}
    (h : c.Appended saved c') : Appended ⟨true, m, c⟩ saved ⟨true, m, c'⟩

theorem Appended.refl (b : Backing) : b.Appended [] b := by
  match b with
  | ⟨false, m, c⟩ => exact .memory c (.refl m)
  | ⟨true, m, c⟩ => exact .connection m (.refl c)

theorem Appended.trans {b b' b'' : Backing} {saved saved' : List Position}
    (h : b.Appended saved b') (h' : b'.Appended saved' b'') : b.Appended (saved ++ saved') b'' := by
  cases h with
  | memory c h =>
    cases h' with
    | memory _ h' => exact .memory c (h.trans h')
  | connection m h =>
    cases h' with
    | connection _ h' => exact .connection m (h.trans h')

/-- A save that comes to an answer appends what it answers. -/
theorem appended_store {b b' : Backing} (hb : b.IsIdle) {ps saved : List Position}
    (h : Service.store b ps = (.ok saved, b')) :
    b.Appended saved b' ∧ List.Forall₂ Position.IsCopyOf saved ps := by
  obtain ⟨usesTables, m, c⟩ := b
  cases usesTables with
  | false =>
    obtain ⟨m', rfl, hstore⟩ := store_memory_eq h
    obtain ⟨_, rfl, rfl⟩ := Memory.store_ok hb hstore
    exact ⟨.memory c (m.appended_extend ps), Memory.forall₂_isCopyOf_numbered _ _⟩
  | true =>
    obtain ⟨c', rfl, hstore⟩ := store_connection_eq h
    obtain ⟨happended, hcopies⟩ := Connection.appended_store hb hstore
    exact ⟨.connection m happended, hcopies⟩

/-- The positions that are appended stand behind those that were stored. -/
theorem Appended.storedPositions {b b' : Backing} {ps saved : List Position}
    (h : b.Appended saved b') (hps : b.storedPositions = .ok ps) :
    b'.storedPositions = .ok (ps ++ saved) := by
  cases h with
  | memory c h =>
    cases h
    cases hps
    rfl
  | connection m h => exact h.holds hps

/-- A store holds what it answers to a save behind what it held before. -/
theorem Holds.store {b b' : Backing} {ps new saved : List Position} (h : b.Holds ps)
    (hb : b.IsIdle) (hstore : Service.store b new = (.ok saved, b')) : b'.Holds (ps ++ saved) := by
  match b, hb, h with
  | ⟨false, m, c⟩, hm, h =>
    obtain ⟨m', rfl, hone⟩ := store_memory_eq hstore
    obtain ⟨_, rfl, rfl⟩ := Memory.store_ok hm hone
    exact Memory.Holds.extend h new
  | ⟨true, m, c⟩, hc, h =>
    obtain ⟨c', rfl, hone⟩ := store_connection_eq hstore
    exact (Connection.appended_store hc hone).1.holds h

end Backing

end FleetTracking
