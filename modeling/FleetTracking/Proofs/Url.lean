import FleetTracking.Url.Basic

/-!
# Addresses in one directory

Scheme and authority of an address are read from what stands in front of its path. So texts that
are the same up to a slash in their paths are addresses at the same place, whatever they go on with
(`Url.exists_sibling`).

Both are found by a split at the first separator, and what follows does not matter to that: not to
the colon of the scheme if there is no colon in it (`splitScheme_append`), and not to the end of the
authority if it begins with a slash (`splitAuthority_append`).
-/

namespace FleetTracking

open Text

/-! ## Splits -/

theorem Text.splitFirst_cons (isSeparator : Char → Bool) (c : Char) (cs : List Char) :
    splitFirst isSeparator (c :: cs) =
      if isSeparator c then ([], some cs) else (splitFirst isSeparator cs).map (c :: ·) id := by
  by_cases h : isSeparator c = true <;> simp [splitFirst, h]

theorem Text.splitFirst_eq_none {isSeparator : Char → Bool} {cs : List Char}
    (h : ∀ c ∈ cs, isSeparator c = false) : splitFirst isSeparator cs = (cs, none) := by
  induction cs with
  | nil => rfl
  | cons c cs ih =>
    obtain ⟨hc, hcs⟩ := List.forall_mem_cons.mp h
    rw [splitFirst_cons, hc, ih hcs]
    rfl

/-- What follows a text goes with the part behind the first separator. -/
theorem Text.splitFirst_append {isSeparator : Char → Bool} {rest : List Char}
    (h : ∀ c ∈ rest, isSeparator c = false) (cs : List Char) :
    splitFirst isSeparator (cs ++ rest) = match splitFirst isSeparator cs with
      | (front, some behind) => (front, some (behind ++ rest))
      | (front, none) => (front ++ rest, none) := by
  induction cs with
  | nil => exact splitFirst_eq_none h
  | cons c cs ih =>
    rw [List.cons_append, splitFirst_cons, splitFirst_cons, ih]
    split
    · rfl
    · obtain ⟨front, behind⟩ := splitFirst isSeparator cs
      cases behind <;> rfl

/-- Nothing is taken from behind an element that ends the taking. -/
theorem Text.takeWhile_append_cons {p : Char → Bool} {c : Char} {rest : List Char} (h : p c = false)
    (cs : List Char) : (cs ++ c :: rest).takeWhile p = cs.takeWhile p := by
  induction cs with
  | nil => simp [h]
  | cons d cs ih => rw [List.cons_append, List.takeWhile_cons, List.takeWhile_cons, ih]

namespace Url

theorem splitScheme_append {rest : List Char} (h : ':' ∉ rest) (cs : List Char) :
    splitScheme (cs ++ rest) = (splitScheme cs).map id (· ++ rest) := by
  have hcolon : ∀ c ∈ rest, (c == ':') = false := fun c hc =>
    beq_eq_false_iff_ne.mpr fun heq => h (heq ▸ hc)
  unfold splitScheme
  rw [splitFirst_append hcolon]
  obtain ⟨scheme, behind⟩ := splitFirst (· == ':') cs
  cases behind with
  | none => rfl
  | some behind =>
    dsimp only
    cases isScheme scheme <;> rfl

/-- The authority ends at a slash behind the two in front of it. -/
theorem splitAuthority_append {cs : List Char} (h : 2 ≤ cs.length) (rest : List Char) :
    (splitAuthority (cs ++ '/' :: rest)).1 = (splitAuthority cs).1 := by
  match cs, h with
  | c :: d :: cs, _ =>
    by_cases hslashes : c = '/' ∧ d = '/'
    · obtain ⟨rfl, rfl⟩ := hslashes
      exact takeWhile_append_cons rfl cs
    · have hpath : ∀ cs, splitAuthority (c :: d :: cs) = ([], c :: d :: cs) := by
        intro cs
        unfold splitAuthority
        split
        · rename_i heq
          obtain ⟨hc, heq⟩ := List.cons.inj heq
          exact absurd ⟨hc, (List.cons.inj heq).1⟩ hslashes
        · rfl
      rw [List.cons_append, List.cons_append, hpath, hpath]

/-! ## Where an address leads -/

/-- Scheme, user, host and port number of an address. -/
structure Origin where
  scheme : List Char
  user : List Char
  host : List Char
  port : Option Int

/-- Reads what stands in front of the path. -/
def origin? (cs : List Char) : Option Origin := do
  let (scheme, cs) := splitScheme cs
  let (user, place) := splitUser (splitAuthority cs).1
  let (hostText, portText) := splitPort place
  let host ← encodeHost? hostText
  let port ← port? scheme portText
  return ⟨scheme.map Char.toLower, percentEncode isUserSafe user, host, port⟩

/-- An address that leads to an origin. -/
def LeadsTo (u : Url) (o : Origin) : Prop :=
  u.scheme = String.ofList o.scheme ∧ u.user = String.ofList o.user ∧
    u.host = String.ofList o.host ∧ u.port = o.port

theorem isAbsolute_iff {u : Url} {o : Origin} (h : u.LeadsTo o) :
    u.isAbsolute = true ↔ o.scheme ≠ [] ∧ o.host ≠ [] := by
  obtain ⟨hscheme, _, hhost, _⟩ := h
  simp [isAbsolute, hscheme, hhost]

/-- What lies in a directory has the origin of that. -/
theorem origin?_append {dir rest : List Char} (hdir : 2 ≤ dir.length) (hcolon : ':' ∉ dir)
    (hrest : ':' ∉ rest) (base : List Char) :
    origin? (base ++ dir ++ '/' :: rest) = origin? (base ++ dir) := by
  have hbehind : ':' ∉ dir ++ '/' :: rest := by simp [hcolon, hrest]
  have hlength : 2 ≤ ((splitScheme base).2 ++ dir).length := by
    rw [List.length_append]
    omega
  unfold origin?
  rw [List.append_assoc, splitScheme_append hbehind, splitScheme_append hcolon]
  dsimp only [Prod.map, id]
  rw [← List.append_assoc, splitAuthority_append hlength]

/-- An address leads to its origin. -/
theorem leadsTo_of_parse? {s : String} {u : Url} (h : parse? s = some u) :
    s.toList.length ≤ longest ∧ (∀ c ∈ s.toList, isControl c = false) ∧
      ∃ o, origin? s.toList = some o ∧ u.LeadsTo o := by
  unfold parse? at h
  dsimp only at h
  split at h
  · nomatch h
  · rename_i hplain
    simp only [Bool.or_eq_true, decide_eq_true_eq, not_or, List.any_eq_true, not_exists, not_and,
      Bool.not_eq_true, Nat.not_lt] at hplain
    obtain ⟨host, hhost, h⟩ := Option.bind_eq_some_iff.mp h
    obtain ⟨port, hport, h⟩ := Option.bind_eq_some_iff.mp h
    split at h
    · nomatch h
    · cases h
      refine ⟨hplain.1, hplain.2, ⟨_, _, host, port⟩, ?_, rfl, rfl, rfl, rfl⟩
      exact Option.bind_eq_some_iff.mpr ⟨host, hhost,
        Option.bind_eq_some_iff.mpr ⟨port, hport, rfl⟩⟩

/-- Text with an origin that has a scheme is an address. -/
theorem exists_parse? {s : String} (hlength : s.toList.length ≤ longest)
    (hplain : ∀ c ∈ s.toList, isControl c = false) {o : Origin} (ho : origin? s.toList = some o)
    (hscheme : o.scheme ≠ []) : ∃ u, parse? s = some u ∧ u.LeadsTo o := by
  have hallowed : (decide (longest < s.toList.length) || s.toList.any isControl) = false := by
    simp only [Bool.or_eq_false_iff, decide_eq_false_iff_not, Nat.not_lt, List.any_eq_false,
      Bool.not_eq_true]
    exact ⟨hlength, hplain⟩
  unfold origin? at ho
  dsimp only at ho
  obtain ⟨host, hhost, ho⟩ := Option.bind_eq_some_iff.mp ho
  obtain ⟨port, hport, ho⟩ := Option.bind_eq_some_iff.mp ho
  cases ho
  have hnot : (splitScheme s.toList).1.isEmpty = false := by
    simpa using hscheme
  unfold parse?
  dsimp only
  rw [hallowed, hhost]
  dsimp only [bind, Option.bind]
  rw [hport, hnot]
  exact ⟨_, rfl, rfl, rfl, rfl, rfl⟩

/-- Beside an absolute address, any page of the same directory that is no longer is one as well,
with the same scheme, user, host and port number. -/
theorem exists_sibling {s s' : String} {base dir page page' : List Char}
    (hs : s.toList = base ++ dir ++ '/' :: page) (hs' : s'.toList = base ++ dir ++ '/' :: page')
    (hdir : 2 ≤ dir.length) (hcolon : ':' ∉ dir ∧ ':' ∉ page ∧ ':' ∉ page')
    (hplain : page'.any isControl = false) (hlength : page'.length ≤ page.length) {u : Url}
    (hu : parse? s = some u) (habsolute : u.isAbsolute = true) :
    ∃ u', parse? s' = some u' ∧ u'.isAbsolute = true ∧ u'.scheme = u.scheme ∧ u'.user = u.user ∧
      u'.host = u.host ∧ u'.port = u.port := by
  obtain ⟨hlength', hplain', o, ho, hleads⟩ := leadsTo_of_parse? hu
  obtain ⟨hscheme, hhost⟩ := (isAbsolute_iff hleads).mp habsolute
  have ho' : origin? s'.toList = some o := by
    rw [hs', origin?_append hdir hcolon.1 hcolon.2.2, ← origin?_append hdir hcolon.1 hcolon.2.1,
      ← hs, ho]
  have hshort : s'.toList.length ≤ longest := by
    rw [hs] at hlength'
    rw [hs']
    simp only [List.length_append, List.length_cons] at hlength' ⊢
    omega
  have hallowed : ∀ c ∈ s'.toList, isControl c = false := by
    rw [hs] at hplain'
    rw [hs']
    simp only [List.forall_mem_append, List.forall_mem_cons] at hplain' ⊢
    refine ⟨hplain'.1, hplain'.2.1, fun c hc => ?_⟩
    exact Bool.eq_false_iff.mpr (List.any_eq_false.mp hplain c hc)
  obtain ⟨u', hu', hleads'⟩ := exists_parse? hshort hallowed ho' hscheme
  refine ⟨u', hu', (isAbsolute_iff hleads').mpr ⟨hscheme, hhost⟩, ?_⟩
  obtain ⟨h1, h2, h3, h4⟩ := hleads
  obtain ⟨h1', h2', h3', h4'⟩ := hleads'
  exact ⟨h1'.trans h1.symm, h2'.trans h2.symm, h3'.trans h3.symm, h4'.trans h4.symm⟩

end Url

end FleetTracking
