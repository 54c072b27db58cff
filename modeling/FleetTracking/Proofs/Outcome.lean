import FleetTracking.Failure

/-!
# Outcomes

How an operation that can fail comes to an answer, namely when every part of it has come to one,
and how it fails, namely as the first part that does.
-/

namespace FleetTracking

theorem bind_eq_ok {x : Except ε α} {f : α → Except ε β} {b : β} :
    (x >>= f) = .ok b ↔ ∃ a, x = .ok a ∧ f a = .ok b := by
  cases x with
  | error e =>
    constructor
    · intro h
      nomatch h
    · rintro ⟨a, h, _⟩
      nomatch h
  | ok a =>
    constructor
    · exact fun h => ⟨a, rfl, h⟩
    · rintro ⟨a', h, hf⟩
      cases h
      exact hf

theorem bind_eq_error {x : Except ε α} {f : α → Except ε β} {e : ε} :
    (x >>= f) = .error e ↔ x = .error e ∨ ∃ a, x = .ok a ∧ f a = .error e := by
  cases x with
  | error e' =>
    constructor
    · intro h
      cases h
      exact .inl rfl
    · rintro (h | ⟨a, h, _⟩) <;> cases h
      rfl
  | ok a =>
    constructor
    · exact fun h => .inr ⟨a, rfl, h⟩
    · rintro (h | ⟨a', h, hf⟩) <;> cases h
      exact hf

theorem map_eq_ok {x : Except ε α} {f : α → β} {b : β} :
    x.map f = .ok b ↔ ∃ a, x = .ok a ∧ f a = b := by
  cases x <;> simp [Except.map]

theorem map_eq_error {x : Except ε α} {f : α → β} {e : ε} : x.map f = .error e ↔ x = .error e := by
  cases x <;> simp [Except.map]

/-- Outcomes that a change makes the same are the same failure, or answers that it makes the same. -/
theorem map_eq_map {x y : Except ε α} {f : α → β} (h : x.map f = y.map f) :
    (∃ e, x = .error e ∧ y = .error e) ∨ ∃ a b, x = .ok a ∧ y = .ok b ∧ f a = f b := by
  cases x with
  | error e => exact .inl ⟨e, rfl, map_eq_error.mp h.symm⟩
  | ok a =>
    obtain ⟨b, rfl, hb⟩ := map_eq_ok.mp h.symm
    exact .inr ⟨a, b, rfl, rfl, hb.symm⟩

/-- An operation that keeps a state comes to an answer made of the one of its part. -/
theorem prod_map_eq_ok {x : Except ε α × σ} {f : α → β} {b : β} {s : σ} :
    x.map (Except.map f) id = (.ok b, s) ↔ ∃ a, x = (.ok a, s) ∧ f a = b := by
  obtain ⟨r, t⟩ := x
  cases r with
  | error e => simp [Except.map]
  | ok a =>
    constructor
    · intro h
      cases h
      exact ⟨a, rfl, rfl⟩
    · rintro ⟨a', h, rfl⟩
      cases h
      rfl

/-- A walk over a list in which nothing fails is a plain one. -/
theorem mapM_eq_ok {f : α → Except ε β} {g : α → β} {l : List α} (h : ∀ a ∈ l, f a = .ok (g a)) :
    l.mapM f = .ok (l.map g) := by
  induction l with
  | nil => rfl
  | cons a rest ih =>
    obtain ⟨ha, hrest⟩ := List.forall_mem_cons.mp h
    rw [List.mapM_cons, ha, ih hrest]
    rfl

/-- Two walks over a list end alike if every step of one is that of the other, but for a change of
what it comes to. -/
theorem mapM_eq_map {f : α → Except ε β} {g : α → Except ε γ} {k : γ → β} {l : List α}
    (h : ∀ a ∈ l, f a = (g a).map k) : l.mapM f = (l.mapM g).map (List.map k) := by
  induction l with
  | nil => rfl
  | cons a rest ih =>
    obtain ⟨ha, hrest⟩ := List.forall_mem_cons.mp h
    rw [List.mapM_cons, List.mapM_cons, ha, ih hrest]
    cases g a with
    | error e => rfl
    | ok b => cases rest.mapM g <;> rfl

theorem mapM_cons_eq_ok {f : α → Except ε β} {a : α} {l : List α} {bs : List β} :
    (a :: l).mapM f = .ok bs ↔ ∃ b rest, f a = .ok b ∧ l.mapM f = .ok rest ∧ bs = b :: rest := by
  rw [List.mapM_cons, bind_eq_ok]
  constructor
  · rintro ⟨b, hb, h⟩
    obtain ⟨rest, hrest, h⟩ := bind_eq_ok.mp h
    cases h
    exact ⟨b, rest, hb, hrest, rfl⟩
  · rintro ⟨b, rest, hb, hrest, rfl⟩
    exact ⟨b, hb, bind_eq_ok.mpr ⟨rest, hrest, rfl⟩⟩

/-- A walk over a list comes to its end if no step fails. -/
theorem exists_mapM {f : α → Except ε β} {l : List α} (h : ∀ a ∈ l, ∃ b, f a = .ok b) :
    ∃ bs, l.mapM f = .ok bs := by
  induction l with
  | nil => exact ⟨[], rfl⟩
  | cons a rest ih =>
    obtain ⟨⟨b, hb⟩, hrest⟩ := List.forall_mem_cons.mp h
    obtain ⟨bs, hbs⟩ := ih hrest
    exact ⟨b :: bs, mapM_cons_eq_ok.mpr ⟨b, bs, hb, hbs, rfl⟩⟩

theorem exists_mem_of_mapM {f : α → Except ε β} {l : List α} {bs : List β} (h : l.mapM f = .ok bs)
    {a : α} (ha : a ∈ l) : ∃ b ∈ bs, f a = .ok b := by
  induction l generalizing bs with
  | nil => nomatch ha
  | cons first rest ih =>
    obtain ⟨b, others, hb, hothers, rfl⟩ := mapM_cons_eq_ok.mp h
    rcases List.mem_cons.mp ha with rfl | ha
    · exact ⟨b, List.mem_cons_self, hb⟩
    · obtain ⟨b', hb', hab'⟩ := ih hothers ha
      exact ⟨b', List.mem_cons_of_mem _ hb', hab'⟩

theorem exists_of_mem_mapM {f : α → Except ε β} {l : List α} {bs : List β} (h : l.mapM f = .ok bs)
    {b : β} (hb : b ∈ bs) : ∃ a ∈ l, f a = .ok b := by
  induction l generalizing bs with
  | nil =>
    cases h
    nomatch hb
  | cons first rest ih =>
    obtain ⟨b', others, hb', hothers, rfl⟩ := mapM_cons_eq_ok.mp h
    rcases List.mem_cons.mp hb with rfl | hb
    · exact ⟨first, List.mem_cons_self, hb'⟩
    · obtain ⟨a, ha, hab⟩ := ih hothers hb
      exact ⟨a, List.mem_cons_of_mem _ ha, hab⟩

/-- What every step keeps is so at the end, if no step fails. -/
theorem foldlM_invariant (P : α → Prop) {f : α → β → Except ε α} {l : List β}
    (hstep : ∀ a, ∀ b ∈ l, ∀ a', P a → f a b = .ok a' → P a') {a a' : α} (ha : P a)
    (h : l.foldlM f a = .ok a') : P a' := by
  induction l generalizing a with
  | nil =>
    cases h
    exact ha
  | cons b rest ih =>
    rw [List.foldlM_cons] at h
    obtain ⟨a₁, hfirst, hrest⟩ := bind_eq_ok.mp h
    refine ih (fun a b hb => hstep a b (List.mem_cons_of_mem _ hb)) ?_ hrest
    exact hstep a b List.mem_cons_self a₁ ha hfirst

/-! ## Kinds of failures -/

/-- If the operation fails, then with a failure of some kind. -/
def FailsOnly (P : ε → Prop) (x : Except ε α) : Prop := ∀ e, x = .error e → P e

namespace FailsOnly

variable {P : ε → Prop}

theorem ok (a : α) : FailsOnly P (.ok a) := fun _ h => nomatch h

theorem error {e : ε} (h : P e) : FailsOnly P (.error e : Except ε α) := by
  intro e' he
  cases he
  exact h

/-- An operation fails as its parts do. -/
theorem bind {x : Except ε α} {f : α → Except ε β} (hx : FailsOnly P x)
    (hf : ∀ a, FailsOnly P (f a)) : FailsOnly P (x >>= f) := by
  intro e he
  obtain he | ⟨a, _, he⟩ := bind_eq_error.mp he
  · exact hx e he
  · exact hf a e he

theorem map {x : Except ε α} (hx : FailsOnly P x) (f : α → β) : FailsOnly P (x.map f) :=
  fun e he => hx e (map_eq_error.mp he)

theorem mapM {f : α → Except ε β} (hf : ∀ a, FailsOnly P (f a)) (l : List α) :
    FailsOnly P (l.mapM f) := by
  induction l with
  | nil => exact ok []
  | cons a rest ih =>
    rw [List.mapM_cons]
    exact (hf a).bind fun b => ih.bind fun bs => ok (b :: bs)

end FailsOnly

end FleetTracking
