import FleetTracking.Calendar.Iso

/-!
# Timestamps are read back from their text

Whatever `Timestamp.iso` writes is read as the same timestamp, but for one kind: an offset of less
than a second is read as universal time (`Timestamp.parse?_iso_eq`). Timestamps without such an offset
are legible (`Timestamp.parse?_iso`), among them all that have been read
(`Timestamp.isLegible_of_parse?`).

The proof follows the text. Every number is written with a fixed width and read back from it, and
none of its digits can be taken for what separates the numbers.
-/

namespace FleetTracking

open Text

/-! ## Digits -/

namespace Text

/-- A digit is not what is no digit. -/
theorem digitChar_ne {c : Char} (h : isDigit c = false) (d : Nat) : digitChar d ≠ c := by
  intro hd
  have hdigit : isDigit (digitChar d) = true := by
    unfold isDigit
    rw [digitValue?_digitChar]
    rfl
  rw [hd, h] at hdigit
  nomatch hdigit

theorem mem_fixedWidth {w n : Nat} {c : Char} (h : c ∈ fixedWidth w n) : isDigit c = true := by
  induction w generalizing n with
  | zero => simp [fixedWidth] at h
  | succ w ih =>
    rcases List.mem_append.mp h with h | h
    · exact ih h
    · rw [List.mem_singleton.mp h]
      unfold isDigit
      rw [digitValue?_digitChar]
      rfl

end Text

namespace Iso

/-- A number is read from the front of its text. -/
theorem digits?_fixedWidth {w n : Nat} (hw : 0 < w) (hn : n < Nat.pow 10 w) (cs : List Char) :
    digits? w (fixedWidth w n ++ cs) = some (n, cs) := by
  have hlength : (fixedWidth w n).length = w := length_fixedWidth w n
  unfold digits?
  rw [if_pos (by rw [List.length_append]; omega), List.take_left' hlength, List.drop_left' hlength,
    number?_fixedWidth hw hn]
  rfl

/-! ## Dates -/

theorem dateChars_eq (d : Date) :
    dateChars d =
      fixedWidth 4 d.year ++ '-' :: (fixedWidth 2 d.month ++ '-' :: fixedWidth 2 d.day) := by
  unfold dateChars
  rw [List.append_assoc, List.cons_append]

theorem length_dateChars (d : Date) : (dateChars d).length = 10 := by
  simp [dateChars, length_fixedWidth]

theorem daysInMonth_le (y m : Nat) : daysInMonth y m ≤ 31 := by
  unfold daysInMonth
  split
  · split <;> omega
  · split <;> omega

theorem date?_dateChars (d : Date) : date? (dateChars d) = some d := by
  obtain ⟨⟨_, hy⟩, ⟨_, hm⟩, ⟨_, hd⟩⟩ := d.valid
  have hday := daysInMonth_le d.year d.month
  have hy : d.year < 10000 := by omega
  have hm : d.month < 100 := by omega
  have hd : d.day < 100 := by omega
  have hyear := digits?_fixedWidth (w := 4) (by decide) hy
    ('-' :: (fixedWidth 2 d.month ++ '-' :: fixedWidth 2 d.day))
  have hmonth := digits?_fixedWidth (w := 2) (by decide) hm ('-' :: fixedWidth 2 d.day)
  have hday := digits?_fixedWidth (w := 2) (by decide) hd []
  rw [List.append_nil] at hday
  -- the hyphen behind the year says that there is one behind the month as well
  have htail (cs : List Char) : (if ('-' :: cs).head? == some '-' then ('-' :: cs).drop 1
      else '-' :: cs) = cs := rfl
  have hhyphen (cs cs' : List Char) :
      hyphen? (('-' :: cs).head? == some '-') ('-' :: cs') = some cs' := rfl
  unfold date?
  rw [dateChars_eq, hyear]
  dsimp only [bind, Option.bind]
  rw [htail]
  split
  · rename_i cs hcs
    have hfirst : digitChar (d.month / 10) = 'W' := (List.cons.inj hcs).1
    exact absurd hfirst (digitChar_ne (by decide) _)
  · rw [hmonth]
    dsimp only
    rw [hhyphen]
    dsimp only
    rw [hday]
    exact dif_pos d.valid

/-- The date in front of a text is found by its first hyphen. -/
theorem dateLength_dateChars (d : Date) (cs : List Char) :
    dateLength (dateChars d ++ 'T' :: cs) = 10 := by
  have hlength : (dateChars d ++ 'T' :: cs).length ≠ 7 := by
    rw [List.length_append, length_dateChars]
    omega
  have hhyphen : (dateChars d ++ 'T' :: cs)[4]? = some '-' := rfl
  have hmonth : (dateChars d ++ 'T' :: cs)[5]? ≠ some 'W' := by
    intro h
    exact digitChar_ne (by decide) _ (Option.some.inj h)
  unfold dateLength
  rw [if_neg hlength, if_pos hhyphen, if_neg hmonth]

/-! ## Times -/

/-- Two digits in front of a colon are one pair, behind which the pairs go on. -/
theorem pairs?_colon {n v : Nat} {colons : Option Bool} (hv : v < 100)
    (hcolons : colons.getD true = true) {d : Char} {cs : List Char} :
    pairs? (n + 1) colons (fixedWidth 2 v ++ ':' :: d :: cs) =
      (pairs? n (some true) (d :: cs)).map fun (vs, e) => (v :: vs, e) := by
  have hnumber : number? [digitChar (v / 10), digitChar v] = some v :=
    number?_fixedWidth (w := 2) (by decide) hv
  show pairs? (n + 1) colons (digitChar (v / 10) :: digitChar v :: ':' :: d :: cs) = _
  have hcolons' : colons.getD (':' == ':') = true := hcolons
  generalize hrest : pairs? n (some true) (d :: cs) = rest
  unfold pairs?
  simp only [hnumber, hcolons', hrest]
  rfl

theorem pairs?_last {n v : Nat} (hv : v < 100) (colons : Option Bool) :
    pairs? (n + 1) colons (fixedWidth 2 v) = some ([v], .complete) := by
  have hnumber : number? [digitChar (v / 10), digitChar v] = some v :=
    number?_fixedWidth (w := 2) (by decide) hv
  show pairs? (n + 1) colons [digitChar (v / 10), digitChar v] = _
  unfold pairs?
  simp only [hnumber]

theorem pairs?_fraction {n v : Nat} (hv : v < 100) {d : Char} {cs : List Char} :
    pairs? (n + 1) (some true) (fixedWidth 2 v ++ '.' :: d :: cs) =
      some ([v], .fraction (d :: cs)) := by
  have hnumber : number? [digitChar (v / 10), digitChar v] = some v :=
    number?_fixedWidth (w := 2) (by decide) hv
  show pairs? (n + 1) (some true) (digitChar (v / 10) :: digitChar v :: '.' :: d :: cs) = _
  unfold pairs?
  simp only [hnumber]
  rfl

/-- Seconds and their fraction. -/
theorem pairs?_seconds {second : Nat} (hs : second < 60) (micro : Nat) :
    ∃ e, pairs? 1 (some true) (fixedWidth 2 second ++ fractionChars micro) =
      some ([second], e) ∧
      ((e = .complete ∧ micro = 0) ∨ e = .fraction (fixedWidth 6 micro)) := by
  unfold fractionChars
  by_cases h : micro = 0
  · rw [if_pos h, List.append_nil, pairs?_last (by omega)]
    exact ⟨.complete, rfl, .inl ⟨rfl, h⟩⟩
  · rw [if_neg h]
    exact ⟨.fraction (fixedWidth 6 micro), pairs?_fraction (by omega), .inr rfl⟩

/-- Hour, minute, second and fraction are read from their text. -/
theorem reading?_time {hour minute second micro : Nat} (hh : hour < 100) (hm : minute < 100)
    (hs : second < 60) (hf : micro < 1000000) :
    reading? (fixedWidth 2 hour ++ ':' :: (fixedWidth 2 minute ++ ':' ::
        (fixedWidth 2 second ++ fractionChars micro))) =
      some (⟨hour, minute, second, micro⟩, false) := by
  obtain ⟨e, he, hending⟩ := pairs?_seconds hs micro
  have hpairs : pairs? 3 none (fixedWidth 2 hour ++ ':' :: (fixedWidth 2 minute ++ ':' ::
      (fixedWidth 2 second ++ fractionChars micro))) = some ([hour, minute, second], e) := by
    have hminute : pairs? 2 (some true) (fixedWidth 2 minute ++ ':' ::
        (fixedWidth 2 second ++ fractionChars micro)) = some ([minute, second], e) :=
      (pairs?_colon hm rfl).trans (congrArg (Option.map _) he)
    exact (pairs?_colon hh rfl).trans (congrArg (Option.map _) hminute)
  unfold reading?
  rw [hpairs]
  obtain ⟨rfl, rfl⟩ | rfl := hending
  · rfl
  · have hmicro : number? (fixedWidth 6 micro) = some micro := number?_fixedWidth (by decide) hf
    have hlength : (fixedWidth 6 micro).length = 6 := length_fixedWidth 6 micro
    have htake : (fixedWidth 6 micro).take 6 = fixedWidth 6 micro :=
      List.take_of_length_le (by omega)
    have hdrop : (fixedWidth 6 micro).drop 6 = [] := List.drop_eq_nil_of_le (by omega)
    simp only [bind, Option.bind, htake, hdrop, hmicro, hlength]
    simp [isOver]

theorem timeChars_eq (t : TimeOfDay) :
    timeChars t = fixedWidth 2 t.hour ++ ':' :: (fixedWidth 2 t.minute ++ ':' ::
      (fixedWidth 2 t.second ++ fractionChars t.micro)) := by
  unfold timeChars
  simp only [List.append_assoc, List.cons_append]

theorem reading?_timeChars (t : TimeOfDay) :
    reading? (timeChars t) = some (⟨t.hour, t.minute, t.second, t.micro⟩, false) := by
  obtain ⟨hh, hm, hs, hf⟩ := t.valid
  rw [timeChars_eq, reading?_time (by omega) (by omega) hs hf]

/-- No character of a time begins an offset. -/
theorem beginsOffset_of_mem_timeChars {t : TimeOfDay} {c : Char} (h : c ∈ timeChars t) :
    beginsOffset c = false := by
  have hdigit : ∀ {c}, isDigit c = true → beginsOffset c = false := by
    intro c hc
    rw [Bool.eq_false_iff]
    intro hbegins
    simp only [beginsOffset, Bool.or_eq_true, beq_iff_eq] at hbegins
    obtain (rfl | rfl) | rfl := hbegins <;> nomatch hc
  simp only [timeChars_eq, fractionChars, List.mem_append, List.mem_cons] at h
  obtain h | rfl | h | rfl | h | h := h
  · exact hdigit (mem_fixedWidth h)
  · decide
  · exact hdigit (mem_fixedWidth h)
  · decide
  · exact hdigit (mem_fixedWidth h)
  · split at h
    · simp at h
    · rcases List.mem_cons.mp h with rfl | h
      · decide
      · exact hdigit (mem_fixedWidth h)

end Iso

/-! ## Offsets -/

/-- An offset that is not less than a second, unless it is zero. -/
def Offset.IsLegible (o : Offset) : Prop := o.micros = 0 ∨ 1000000 ≤ o.micros.natAbs

/-- What an offset is read as once it is written: one of less than a second as universal time. -/
def Offset.readBack (o : Offset) : Offset := if o.micros.natAbs < 1000000 then .zero else o

theorem Offset.readBack_eq_iff {o : Offset} : o.readBack = o ↔ o.IsLegible := by
  obtain ⟨micros, hvalid⟩ := o
  unfold readBack IsLegible
  split
  · rename_i hsmall
    rw [zero, mk.injEq]
    dsimp only at hsmall ⊢
    omega
  · rename_i hlarge
    exact iff_of_true rfl (.inr (Nat.le_of_not_lt hlarge))

namespace Iso

/-- The characters of an offset behind its sign. -/
def sizeChars (size : Nat) : List Char :=
  fixedWidth 2 (size / 3600000000) ++ ':' :: fixedWidth 2 (size / 60000000 % 60) ++
    (if size / 1000000 % 60 = 0 ∧ size % 1000000 = 0 then []
     else ':' :: fixedWidth 2 (size / 1000000 % 60) ++ fractionChars (size % 1000000))

theorem offsetChars_eq (o : Offset) :
    offsetChars o = (if o.micros < 0 then '-' else '+') :: sizeChars o.micros.natAbs := rfl

theorem reading?_sizeChars {size : Nat} (h : size < 86400000000) :
    reading? (sizeChars size) = some (⟨size / 3600000000, size / 60000000 % 60,
      size / 1000000 % 60, size % 1000000⟩, false) := by
  unfold sizeChars
  split
  · rename_i hzero
    rw [List.append_nil, hzero.1, hzero.2]
    have hminute : pairs? 2 (some true) (fixedWidth 2 (size / 60000000 % 60)) =
        some ([size / 60000000 % 60], .complete) := pairs?_last (by omega) _
    have hpairs : pairs? 3 none (fixedWidth 2 (size / 3600000000) ++
        ':' :: fixedWidth 2 (size / 60000000 % 60)) =
        some ([size / 3600000000, size / 60000000 % 60], .complete) :=
      (pairs?_colon (by omega) rfl).trans (congrArg (Option.map _) hminute)
    unfold reading?
    rw [hpairs]
    rfl
  · have hhour : size / 3600000000 < 100 := by omega
    have hminute : size / 60000000 % 60 < 100 := by omega
    have hsecond : size / 1000000 % 60 < 60 := by omega
    have hmicro : size % 1000000 < 1000000 := by omega
    rw [← reading?_time hhour hminute hsecond hmicro]
    simp only [List.append_assoc, List.cons_append]

theorem offset?_sizeChars (o : Offset) :
    offset? (decide (o.micros < 0)) (sizeChars o.micros.natAbs) = some o.readBack := by
  obtain ⟨micros, hlo, hhi⟩ := o
  have hday : (dayMicros : Int) = 86400000000 := rfl
  have hsize : micros.natAbs < 86400000000 := by omega
  have hreading := reading?_sizeChars hsize
  -- hours, minutes and seconds make up the whole seconds again
  have hseconds : micros.natAbs / 3600000000 * 3600 + micros.natAbs / 60000000 % 60 * 60 +
      micros.natAbs / 1000000 % 60 = micros.natAbs / 1000000 := by omega
  unfold offset? Offset.readBack
  dsimp only
  rw [hreading]
  show (if micros.natAbs / 3600000000 * 3600 + micros.natAbs / 60000000 % 60 * 60 +
      micros.natAbs / 1000000 % 60 = 0 then some Offset.zero
    else Offset.of? (if decide (micros < 0) = true then
        -(((micros.natAbs / 3600000000 * 3600 + micros.natAbs / 60000000 % 60 * 60 +
          micros.natAbs / 1000000 % 60 : Nat) : Int) * 1000000 + (micros.natAbs % 1000000 : Nat))
      else ((micros.natAbs / 3600000000 * 3600 + micros.natAbs / 60000000 % 60 * 60 +
          micros.natAbs / 1000000 % 60 : Nat) : Int) * 1000000 + (micros.natAbs % 1000000 : Nat))) = _
  rw [hseconds]
  by_cases hsmall : micros.natAbs < 1000000
  · rw [if_pos (Nat.div_eq_of_lt hsmall), if_pos hsmall]
  · have hsize : (if decide (micros < 0) = true then
        -(((micros.natAbs / 1000000 : Nat) : Int) * 1000000 + (micros.natAbs % 1000000 : Nat))
        else ((micros.natAbs / 1000000 : Nat) : Int) * 1000000 + (micros.natAbs % 1000000 : Nat)) =
        micros := by
      split
      · rename_i hneg
        have hneg := of_decide_eq_true hneg
        omega
      · rename_i hneg
        have hneg : ¬micros < 0 := by simpa using hneg
        omega
    rw [if_neg (by omega), if_neg hsmall, hsize]
    exact dif_pos ⟨hlo, hhi⟩

end Iso

/-! ## Timestamps -/

/-- A timestamp whose offset, if it has one, is legible. -/
def Timestamp.IsLegible (t : Timestamp) : Prop := ∀ o, t.offset = some o → o.IsLegible

/-- What a timestamp is read as once it is written. -/
def Timestamp.readBack (t : Timestamp) : Timestamp := { t with offset := t.offset.map .readBack }

theorem Timestamp.readBack_eq_iff {t : Timestamp} : t.readBack = t ↔ t.IsLegible := by
  obtain ⟨civil, offset⟩ := t
  cases offset with
  | none => simp [readBack, IsLegible]
  | some o => simp [readBack, IsLegible, Offset.readBack_eq_iff]

namespace Iso

theorem takeWhile_timeChars (t : TimeOfDay) {cs : List Char}
    (hcs : ∀ c, cs.head? = some c → beginsOffset c = true) :
    (timeChars t ++ cs).takeWhile (!beginsOffset ·) = timeChars t ∧
      (timeChars t ++ cs).dropWhile (!beginsOffset ·) = cs := by
  have htime : ∀ c ∈ timeChars t, (!beginsOffset c) = true := by
    intro c hc
    rw [beginsOffset_of_mem_timeChars hc]
    rfl
  rw [List.takeWhile_append_of_pos htime, List.dropWhile_append_of_pos htime]
  cases cs with
  | nil => exact ⟨List.append_nil _, rfl⟩
  | cons c rest =>
    have hc := hcs c rfl
    rw [List.takeWhile_cons, List.dropWhile_cons]
    simp [hc]

theorem time?_chars (t : TimeOfDay) (offset : Option Offset) :
    time? (timeChars t ++ ((offset.map offsetChars).getD [])) =
      some (t, offset.map .readBack) := by
  have hof : TimeOfDay.of? t.hour t.minute t.second t.micro = some t := dif_pos t.valid
  have hbegins : ∀ c, ((offset.map offsetChars).getD []).head? = some c → beginsOffset c = true := by
    intro c hc
    cases offset with
    | none => nomatch hc
    | some o =>
      have hsign : (if o.micros < 0 then '-' else '+') = c := Option.some.inj hc
      rw [← hsign]
      split <;> rfl
  -- the time ends where the sign of the offset stands
  obtain ⟨htake, hdrop⟩ := takeWhile_timeChars t hbegins
  unfold time?
  rw [htake, reading?_timeChars, hdrop]
  cases offset with
  | none =>
    show (do return (← TimeOfDay.of? t.hour t.minute t.second t.micro, none)) = _
    rw [hof]
    rfl
  | some o =>
    have hoffset := offset?_sizeChars o
    rw [show ((some o).map offsetChars).getD [] = offsetChars o from rfl]
    by_cases hneg : o.micros < 0
    · rw [decide_eq_true hneg] at hoffset
      rw [offsetChars_eq, if_pos hneg]
      show (do
        let offset ← offset? true (sizeChars o.micros.natAbs)
        return (← TimeOfDay.of? t.hour t.minute t.second t.micro, some offset)) = _
      rw [hoffset, hof]
      rfl
    · rw [decide_eq_false hneg] at hoffset
      rw [offsetChars_eq, if_neg hneg]
      show (do
        let offset ← offset? false (sizeChars o.micros.natAbs)
        return (← TimeOfDay.of? t.hour t.minute t.second t.micro, some offset)) = _
      rw [hoffset, hof]
      rfl

end Iso

/-- A timestamp is read back from its text, but for an offset of less than a second. -/
theorem Timestamp.parse?_iso_eq (t : Timestamp) : parse? t.iso = some t.readBack := by
  obtain ⟨⟨date, time⟩, offset⟩ := t
  have hchars : (Timestamp.iso ⟨⟨date, time⟩, offset⟩).toList = Iso.dateChars date ++
      'T' :: (Iso.timeChars time ++ ((offset.map Iso.offsetChars).getD [])) := by
    unfold Timestamp.iso Iso.civilChars
    rw [String.toList_ofList, List.append_assoc, List.cons_append]
  have hlength : (Iso.dateChars date).length = 10 := Iso.length_dateChars date
  unfold parse?
  rw [hchars]
  dsimp only
  rw [Iso.dateLength_dateChars, List.take_left' hlength, List.drop_left' hlength,
    Iso.date?_dateChars]
  dsimp only [bind, Option.bind, List.drop]
  rw [Iso.time?_chars time offset]
  rfl

theorem Timestamp.parse?_iso {t : Timestamp} (h : t.IsLegible) : parse? t.iso = some t := by
  rw [parse?_iso_eq, readBack_eq_iff.mpr h]

/-! ## What has been read -/

theorem Offset.isLegible_zero : Offset.zero.IsLegible := .inl rfl

theorem Offset.micros_of? {micros : Int} {o : Offset} (h : of? micros = some o) :
    o.micros = micros := by
  unfold of? at h
  split at h
  · cases h
    rfl
  · nomatch h

theorem Iso.isLegible_of_offset? {negative : Bool} {cs : List Char} {o : Offset}
    (h : offset? negative cs = some o) : o.IsLegible := by
  obtain ⟨⟨r, leftOver⟩, _, h⟩ := Option.bind_eq_some_iff.mp h
  dsimp only at h
  split at h
  · nomatch h
  · split at h
    · cases h
      exact Offset.isLegible_zero
    · rename_i hseconds
      have hmicros := Offset.micros_of? h
      refine .inr ?_
      split at hmicros <;> omega

theorem Iso.isLegible_of_time? {cs : List Char} {time : TimeOfDay} {offset : Option Offset}
    (h : time? cs = some (time, offset)) : ∀ o, offset = some o → o.IsLegible := by
  obtain ⟨⟨r, leftOver⟩, _, h⟩ := Option.bind_eq_some_iff.mp h
  dsimp only at h
  split at h
  · split at h
    · nomatch h
    · obtain ⟨_, _, h⟩ := Option.bind_eq_some_iff.mp h
      cases h
      exact fun _ ho => nomatch ho
  · split at h
    · obtain ⟨_, _, h⟩ := Option.bind_eq_some_iff.mp h
      cases h
      intro o ho
      cases ho
      exact Offset.isLegible_zero
    · nomatch h
  · obtain ⟨read, hread, h⟩ := Option.bind_eq_some_iff.mp h
    obtain ⟨_, _, h⟩ := Option.bind_eq_some_iff.mp h
    cases h
    intro o ho
    cases ho
    exact isLegible_of_offset? hread

/-- Every timestamp that has been read is legible. -/
theorem Timestamp.isLegible_of_parse? {s : String} {t : Timestamp} (h : parse? s = some t) :
    t.IsLegible := by
  obtain ⟨date, _, h⟩ := Option.bind_eq_some_iff.mp h
  dsimp only at h
  split at h
  · cases h
    exact fun _ ho => nomatch ho
  · obtain ⟨⟨time, offset⟩, htime, h⟩ := Option.bind_eq_some_iff.mp h
    cases h
    exact Iso.isLegible_of_time? htime

/-- Instants are written in universal time, which is legible. -/
theorem Instant.isLegible_timestamp (t : Instant) : t.timestamp.IsLegible := by
  intro o ho
  cases ho
  exact Offset.isLegible_zero

end FleetTracking
