import FleetTracking.Json.Parser
import FleetTracking.Json.Printer

/-!
# JSON text that is read back

A plain value is read from what is written of it (`Json.parse_render`). Plain are values whose words
are read back and whose strings need no escapes, in arrays and objects that are not too deep inside
each other (`Json.IsPlain`). Not every value is read back: of two halves of a character that were
apart, one character is read.

Reading is followed in front of any text that does not go on the last word, and inside whatever is
still open (`Json.build_chars`).
-/

namespace FleetTracking.Json

/-! ## Plain values -/

/-- A value that is written as one word, and read from it. -/
structure IsWord (v : Json) : Prop where
  nonempty : v.chars ≠ []
  isWordChar : v.chars.all isWordChar = true
  word : word v.chars = .ok v

/-- A character that stands for itself in a string. -/
def isPlainChar (c : Char) : Bool := 32 ≤ c.toNat && c.toNat ≤ 126 && c != '"' && c != '\\'

/-- A string whose characters stand for themselves. -/
def IsPlainString (s : String) : Prop := s.toList.all isPlainChar = true

instance (s : String) : Decidable (IsPlainString s) :=
  inferInstanceAs (Decidable (s.toList.all isPlainChar = true))

/-- Plain values with at most so many arrays and objects inside each other. -/
inductive IsPlain : Nat → Json → Prop
  | word {n v} (h : IsWord v) : IsPlain n v
  | string {n s} (h : IsPlainString s) : IsPlain n (.string s)
  | array {n items} (h : ∀ v ∈ items, IsPlain n v) : IsPlain (n + 1) (.array items)
  | object {n fields} (hnames : (fields.map Prod.fst).Nodup)
    (hplain : ∀ field ∈ fields, IsPlainString field.1)
    (h : ∀ field ∈ fields, IsPlain n field.2) : IsPlain (n + 1) (.object fields)

theorem IsWord.null : IsWord .null := ⟨by decide, by decide, rfl⟩

theorem IsWord.bool (b : Bool) : IsWord (.bool b) := by
  cases b with
  | false => exact ⟨by decide, by decide, rfl⟩
  | true => exact ⟨by decide, by decide, rfl⟩

/-- A number of tenths is a word if its text is read as that number. -/
theorem isWord_tenths {n : Nat} {x : Float} (hx : Float.ofScientific n true 1 = x)
    (cs : List Char) (hchars : (float x).chars = cs) (hnonempty : cs ≠ [])
    (hword : cs.all isWordChar = true)
    (hread : word cs = .ok (.float (Decimal.ofScaled false n (-1)))) (hn : n ≠ 0)
    (hdigits : Decimal.digitCount n ≤ 400) : IsWord (.float x) := by
  have hscaled : Decimal.ofScaled false n (-1) = x := by
    unfold Decimal.ofScaled
    rw [if_neg Bool.false_ne_true, if_neg (by omega), if_neg (by omega), ← hx]
    rfl
  rw [hscaled] at hread
  exact ⟨by rwa [hchars], by rwa [hchars], by rwa [hchars]⟩

/-! ## Tokens -/

/-- Text that does not go on a word. -/
def EndsWord (cs : List Char) : Prop := cs.takeWhile isWordChar = []

theorem endsWord_cons {c : Char} (h : isWordChar c = false) (cs : List Char) :
    EndsWord (c :: cs) := List.takeWhile_cons_of_neg (by rw [h]; decide)

theorem punctuation?_of_isWordChar {c : Char} (h : isWordChar c = true) :
    punctuation? c = none ∧ isSpace c = false ∧ c ≠ '"' := by
  refine ⟨?_, ?_, ?_⟩
  · unfold punctuation?
    split <;> first | rfl | exact absurd h (by decide)
  · rw [← Bool.not_eq_true]
    intro hspace
    simp only [isSpace, Bool.or_eq_true, beq_iff_eq] at hspace
    rcases hspace with ((rfl | rfl) | rfl) | rfl <;> exact absurd h (by decide)
  · rintro rfl
    exact absurd h (by decide)

/-- A word is one token. -/
theorem tokens_word {v : Json} (h : IsWord v) {cs : List Char} (hcs : EndsWord cs) :
    tokens (v.chars ++ cs) = .scalar v :: tokens cs := by
  obtain ⟨hnonempty, hchars, hword⟩ := h
  obtain ⟨c, w, hv⟩ := List.exists_cons_of_ne_nil hnonempty
  rw [hv] at hchars hword ⊢
  obtain ⟨hc, hw⟩ := List.forall_mem_cons.mp (List.all_eq_true.mp hchars)
  obtain ⟨hmark, hspace, hquote⟩ := punctuation?_of_isWordChar hc
  have htake : (w ++ cs).takeWhile isWordChar = w := by
    rw [List.takeWhile_append_of_pos hw, hcs, List.append_nil]
  have hdrop : (w ++ cs).dropWhile isWordChar = cs := by
    have hsame := List.takeWhile_append_dropWhile (p := isWordChar) (l := cs)
    rw [hcs] at hsame
    rw [List.dropWhile_append_of_pos hw]
    exact hsame
  rw [List.cons_append, tokens, if_neg (by rw [hspace]; decide), if_neg hquote]
  simp only [hmark, hc, if_true, htake, hdrop, hword]

theorem escape_plain {c : Char} (h : isPlainChar c = true) : escape c = [c] := by
  simp only [isPlainChar, Bool.and_eq_true, decide_eq_true_eq, bne_iff_ne] at h
  obtain ⟨⟨⟨hlow, hhigh⟩, hquote⟩, hslash⟩ := h
  have hne (d : Char) (hd : d.toNat < 32) : c ≠ d := fun h => by subst h; omega
  unfold escape
  rw [if_neg hquote, if_neg hslash, if_neg (hne '\n' (by decide)), if_neg (hne '\r' (by decide)),
    if_neg (hne '\t' (by decide)), if_neg (by omega), if_neg (by omega), if_pos ⟨hlow, hhigh⟩]

/-- The body of a plain string is read up to its closing quote. -/
theorem stringBody_plain {s : List Char} (h : ∀ c ∈ s, isPlainChar c = true) (cs : List Char) :
    stringBody (s.flatMap escape ++ '"' :: cs) = some (s, cs) := by
  induction s with
  | nil => rfl
  | cons c rest ih =>
    obtain ⟨hc, hrest⟩ := List.forall_mem_cons.mp h
    rw [List.flatMap_cons, escape_plain hc, List.append_assoc, List.singleton_append]
    simp only [isPlainChar, Bool.and_eq_true, decide_eq_true_eq, bne_iff_ne] at hc
    obtain ⟨⟨⟨hlow, _⟩, hquote⟩, hslash⟩ := hc
    rw [stringBody, if_neg (by omega), ih hrest]
    · rfl
    · exact hquote
    -- nor is it the beginning of an escape
    all_goals
      intros
      exact absurd ‹c = '\\'› hslash

/-- A plain string is one token. -/
theorem tokens_quote {s : String} (h : IsPlainString s) (cs : List Char) :
    tokens (quote s ++ cs) = .scalar (.string s) :: tokens cs := by
  have hbody := stringBody_plain (List.all_eq_true.mp h) cs
  unfold quote
  rw [List.cons_append, List.append_assoc, List.singleton_append, tokens, if_neg (by decide),
    if_pos rfl]
  split
  · rename_i body rest hread
    rw [hbody] at hread
    cases hread
    rw [String.ofList_toList]
  · rename_i hread
    rw [hbody] at hread
    exact absurd hread (Option.some_ne_none _)

theorem tokens_openArray (cs : List Char) : tokens ('[' :: cs) = .openArray :: tokens cs := by cbv

theorem tokens_closeArray (cs : List Char) : tokens (']' :: cs) = .closeArray :: tokens cs := by cbv

theorem tokens_openObject (cs : List Char) :
    tokens ('\x7b' :: cs) = .openObject :: tokens cs := by cbv

theorem tokens_closeObject (cs : List Char) :
    tokens ('\x7d' :: cs) = .closeObject :: tokens cs := by cbv

theorem tokens_comma (cs : List Char) : tokens (',' :: ' ' :: cs) = .comma :: tokens cs := by cbv

theorem tokens_colon (cs : List Char) : tokens (':' :: ' ' :: cs) = .colon :: tokens cs := by cbv

/-! ## Values -/

theorem insert_new {name : String} {fields : List (String × Json)}
    (h : name ∉ fields.map Prod.fst) (v : Json) : insert name v fields = fields ++ [(name, v)] := by
  induction fields with
  | nil => rfl
  | cons field rest ih =>
    rw [List.map_cons, List.mem_cons, not_or] at h
    unfold insert
    rw [if_neg (by simpa using Ne.symm h.1), ih h.2, List.cons_append]

/-- A value of this text is complete after it, wherever a value was expected. -/
def IsRead (n : Nat) (v : Json) : Prop :=
  ∀ (stack : List Open) (expected : Expected) (cs : List Char), expected.isValue = true →
    stack.length + n ≤ deepest → EndsWord cs →
      build stack expected (tokens (v.chars ++ cs)) = build stack (.next v) (tokens cs)

section Steps

variable {expected : Expected} (h : expected.isValue = true) (stack : List Open) (ts : List Token)

include h

/-- A scalar token completes a value. -/
theorem build_scalar (v : Json) :
    build stack expected (.scalar v :: ts) = build stack (.next v) ts := by
  cases expected with
  | value => cases stack <;> rfl
  | firstItem => cases stack <;> rfl
  | _ => nomatch h

variable {stack} (hdepth : stack.length < deepest)

include hdepth

theorem build_openArray : build stack expected (.openArray :: ts) =
    build (.array [] :: stack) .firstItem ts := by
  cases expected with
  | value | firstItem =>
    cases stack with
    | nil => rfl
    | cons _ _ => exact if_pos hdepth
  | _ => nomatch h

theorem build_openObject :
    build stack expected (.openObject :: ts) = build stack .firstName ts := by
  cases expected with
  | value | firstItem =>
    cases stack with
    | nil => rfl
    | cons _ _ => exact if_pos hdepth
  | _ => nomatch h

end Steps

/-- The items of an array are read up to its end. -/
theorem build_itemChars {n : Nat} {v : Json} {items : List Json}
    (h : ∀ w ∈ v :: items, IsRead n w) {stack : List Open}
    (hdepth : stack.length + (n + 1) ≤ deepest) {expected : Expected}
    (hvalue : expected.isValue = true) (old : List Json) (cs : List Char) :
    build (.array old :: stack) expected (tokens (itemChars (v :: items) ++ ']' :: cs)) =
      build stack (.next (.array (old.reverse ++ v :: items))) (tokens cs) := by
  have hlength (old : List Json) : (Open.array old :: stack).length + n ≤ deepest := by
    rw [List.length_cons]
    omega
  induction items generalizing v expected old with
  | nil =>
    rw [itemChars, h v List.mem_cons_self _ _ _ hvalue (hlength old) (endsWord_cons rfl _),
      tokens_closeArray]
    show build stack (.next (.array (v :: old).reverse)) _ = _
    rw [List.reverse_cons]
  | cons w rest ih =>
    obtain ⟨hv, hrest⟩ := List.forall_mem_cons.mp h
    rw [itemChars, List.append_assoc, List.cons_append, List.cons_append,
      hv _ _ _ hvalue (hlength old) (endsWord_cons rfl _), tokens_comma]
    show build (.array (v :: old) :: stack) .value _ = _
    rw [ih hrest rfl, List.reverse_cons, List.append_assoc, List.singleton_append]
    exact List.cons_ne_nil w rest

theorem not_mem_of_nodup {field : String × Json} {fields old : List (String × Json)}
    (h : ((old ++ field :: fields).map Prod.fst).Nodup) : field.1 ∉ old.map Prod.fst := by
  rw [List.map_append, List.nodup_append] at h
  exact fun hmem => h.2.2 field.1 hmem field.1 List.mem_cons_self rfl

/-- A name and its colon, where one was expected. -/
theorem build_name {expected : Expected} {old : List (String × Json)}
    (h : expected = .name old ∨ expected = .firstName ∧ old = []) (stack : List Open)
    (name : String) (ts : List Token) :
    build stack expected (.scalar (.string name) :: .colon :: ts) =
      build (.object old name :: stack) .value ts := by
  rcases h with rfl | ⟨rfl, rfl⟩ <;> cases stack <;> rfl

/-- The fields of an object are read up to its end. -/
theorem build_fieldChars {n : Nat} {field : String × Json} {fields : List (String × Json)}
    (hplain : ∀ f ∈ field :: fields, IsPlainString f.1) (h : ∀ f ∈ field :: fields, IsRead n f.2)
    {stack : List Open} (hdepth : stack.length + (n + 1) ≤ deepest) {expected : Expected}
    {old : List (String × Json)}
    (hexpected : expected = .name old ∨ expected = .firstName ∧ old = [])
    (hnames : ((old ++ field :: fields).map Prod.fst).Nodup) (cs : List Char) :
    build stack expected (tokens (fieldChars (field :: fields) ++ '\x7d' :: cs)) =
      build stack (.next (.object (old ++ field :: fields))) (tokens cs) := by
  have hlength (old : List (String × Json)) (name : String) :
      (Open.object old name :: stack).length + n ≤ deepest := by
    rw [List.length_cons]
    omega
  induction fields generalizing field expected old with
  | nil =>
    obtain ⟨name, v⟩ := field
    rw [fieldChars, List.append_assoc, List.cons_append, List.cons_append,
      tokens_quote (hplain _ List.mem_cons_self), tokens_colon, build_name hexpected,
      h _ List.mem_cons_self _ _ _ rfl (hlength old name) (endsWord_cons rfl _), tokens_closeObject]
    show build stack (.next (.object (insert name v old))) _ = _
    rw [insert_new (not_mem_of_nodup hnames)]
  | cons next rest ih =>
    obtain ⟨name, v⟩ := field
    obtain ⟨hv, hrest⟩ := List.forall_mem_cons.mp h
    have hchars : fieldChars ((name, v) :: next :: rest) ++ '\x7d' :: cs = quote name ++ ':' ::
        ' ' :: (v.chars ++ ',' :: ' ' :: (fieldChars (next :: rest) ++ '\x7d' :: cs)) := by
      rw [fieldChars]
      · simp only [List.append_assoc, List.cons_append]
      · exact List.cons_ne_nil next rest
    rw [hchars, tokens_quote (hplain _ List.mem_cons_self), tokens_colon, build_name hexpected,
      hv _ _ _ rfl (hlength old name) (endsWord_cons rfl _), tokens_comma]
    show build stack (.name (insert name v old)) _ = _
    rw [insert_new (not_mem_of_nodup hnames),
      ih (List.forall_mem_cons.mp hplain).2 hrest (.inl rfl)]
    · rw [List.append_assoc, List.singleton_append]
    · rwa [List.append_assoc, List.singleton_append]

/-- A plain value is read in front of any text that does not go on its last word. -/
theorem build_chars {n : Nat} {v : Json} (h : IsPlain n v) : IsRead n v := by
  induction h with
  | word h =>
    intro stack expected cs hvalue _ hcs
    rw [tokens_word h hcs, build_scalar hvalue]
  | string h =>
    intro stack expected cs hvalue _ hcs
    rw [chars, tokens_quote h, build_scalar hvalue]
  | @array n items h ih =>
    intro stack expected cs hvalue hdepth hcs
    rw [chars, List.cons_append, List.append_assoc, List.singleton_append, tokens_openArray,
      build_openArray hvalue _ (by omega)]
    cases items with
    | nil =>
      rw [itemChars, List.nil_append, tokens_closeArray]
      rfl
    | cons v rest => exact build_itemChars ih hdepth rfl [] cs
  | @object n fields hnames hplain h ih =>
    intro stack expected cs hvalue hdepth hcs
    rw [chars, List.cons_append, List.append_assoc, List.singleton_append, tokens_openObject,
      build_openObject hvalue _ (by omega)]
    cases fields with
    | nil =>
      rw [fieldChars, List.nil_append, tokens_closeObject]
      cases stack <;> rfl
    | cons field rest => exact build_fieldChars hplain ih hdepth (.inr ⟨rfl, rfl⟩) hnames cs

/-- A plain value is read from what is written of it. -/
theorem parse_render {n : Nat} (hn : n ≤ deepest) {v : Json} (h : IsPlain n v) :
    parse v.render = .ok v := by
  have hread := build_chars h [] .value [] rfl (by simpa using hn) rfl
  unfold parse render ofChars
  rw [String.toList_ofList, ← List.append_nil v.chars, hread, tokens]
  rfl

end FleetTracking.Json
