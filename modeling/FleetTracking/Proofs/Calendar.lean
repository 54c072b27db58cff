import FleetTracking.Failure

/-!
# The calendar counts and orders moments

Date and time fields and the count of microseconds say the same: each is found back from the
other, and the fields are ordered as the counts are.

* `Date.dayNumber_ofDayNumber` — the day of a number has that number
* `Civil.compareFields_eq` — fields compare as counts do
* `Civil.instant_civil`, `Instant.civil_instant` — fields and instants are the same thing
* `Timestamp.instant_cases` — what a timestamp means, if it is in the calendar

## How the order is found

A date that is less in its first differing field has the lesser number: a year ends before the
next one begins, and so does a month (`Date.dayNumber_lt_of_year_lt`, `Date.dayNumber_lt_of_month_lt`).
Since lists of fields are compared in a total order, that is enough for both directions.
-/

namespace FleetTracking

/-! ## Days -/

theorem daysBeforeMonth_succ {y m : Nat} (h : 1 ≤ m) :
    daysBeforeMonth y (m + 1) = daysBeforeMonth y m + daysInMonth y m := by
  obtain ⟨k, rfl⟩ := Nat.exists_eq_add_of_le' h
  rfl

theorem daysBeforeMonth_mono {y k m : Nat} (hk : 1 ≤ k) (h : k ≤ m) :
    daysBeforeMonth y k ≤ daysBeforeMonth y m := by
  induction h with
  | refl => exact Nat.le_refl _
  | @step m hm ih =>
    rw [daysBeforeMonth_succ (Nat.le_trans hk hm)]
    omega

namespace Date

/-- Splitting a day off a run of months loses nothing, if the months are long enough. -/
theorem daysBeforeMonth_splitMonths (y k j r : Nat) (hk : 1 ≤ k)
    (h : r < daysInMonths y (List.range' k j)) :
    daysBeforeMonth y (splitMonths y (List.range' k j) r).1 +
      ((splitMonths y (List.range' k j) r).2 - 1) = daysBeforeMonth y k + r := by
  induction j generalizing k r with
  | zero => nomatch h
  | succ j ih =>
    rw [List.range'_succ] at h ⊢
    unfold daysInMonths at h
    by_cases hr : r < daysInMonth y k
    · simp [splitMonths, hr]
    · simp only [splitMonths, if_neg hr]
      rw [ih (k + 1) (r - daysInMonth y k) (by omega) (by omega), daysBeforeMonth_succ hk]
      omega

theorem dayNumber_ofDayNumber {n : Nat} (h : n < calendarDays) : (ofDayNumber n h).dayNumber = n := by
  have hle := daysBeforeYear_yearOf_le n
  have hlt := lt_daysBeforeYear_yearOf n
  have hsum : n - daysBeforeYear (yearOf n) < daysInMonths (yearOf n) months := by
    rw [daysInMonths_months]
    omega
  have hsplit := daysBeforeMonth_splitMonths (yearOf n) 1 12 _ (Nat.le_refl 1) hsum
  rw [show List.range' 1 12 = months from rfl, show daysBeforeMonth (yearOf n) 1 = 0 from rfl] at hsplit
  unfold dayNumber ofDayNumber
  dsimp only
  omega

theorem dayNumber_lt_of_year_lt {a b : Date} (h : a.year < b.year) : a.dayNumber < b.dayNumber := by
  have hsum := daysBeforeMonth_add_le a.valid
  have hsucc := daysBeforeYear_succ a.valid.1.1
  have hmono := daysBeforeYear_mono (y := a.year + 1) (z := b.year) h
  have hday := a.valid.2.2.1
  unfold dayNumber
  omega

theorem dayNumber_lt_of_month_lt {a b : Date} (hy : a.year = b.year) (h : a.month < b.month) :
    a.dayNumber < b.dayNumber := by
  have hsucc := daysBeforeMonth_succ (y := a.year) a.valid.2.1.1
  have hmono := daysBeforeMonth_mono (y := a.year) (k := a.month + 1) (m := b.month) (by omega) h
  have hday := a.valid.2.2
  unfold dayNumber
  rw [← hy]
  omega

theorem dayNumber_lt_of_day_lt {a b : Date} (hy : a.year = b.year) (hm : a.month = b.month)
    (h : a.day < b.day) : a.dayNumber < b.dayNumber := by
  have hday := a.valid.2.2.1
  unfold dayNumber
  rw [← hy, ← hm]
  omega

end Date

/-! ## Moments -/

namespace Civil

theorem micros_ofMicros {n : Nat} (h : n < calendarMicros) : (ofMicros n h).micros = n := by
  unfold micros ofMicros
  dsimp only
  rw [Date.dayNumber_ofDayNumber, TimeOfDay.micros_ofMicros (Nat.mod_lt _ (by decide))]
  exact Nat.div_add_mod' n dayMicros

theorem micros_lt_of_dayNumber_lt {a b : Civil} (h : a.date.dayNumber < b.date.dayNumber) :
    a.micros < b.micros := by
  have ht := a.time.micros_lt
  have hmul := Nat.mul_le_mul_right dayMicros h
  rw [Nat.succ_mul] at hmul
  unfold micros
  omega

theorem micros_lt_of_time_lt {a b : Civil} (hd : a.date = b.date)
    (h : a.time.micros < b.time.micros) : a.micros < b.micros := by
  unfold micros
  rw [hd]
  omega

/-- What is less in the first field that differs has the lesser count. -/
theorem micros_lt_of_fields_lt {a b : Civil} (h : a.fields < b.fields) : a.micros < b.micros := by
  obtain ⟨⟨y, m, d, hd⟩, ⟨hr, mi, s, us, ht⟩⟩ := a
  obtain ⟨⟨y', m', d', hd'⟩, ⟨hr', mi', s', us', ht'⟩⟩ := b
  simp only [fields, List.cons_lt_cons_iff, List.not_lt_nil, and_false, or_false] at h
  rcases h with h | ⟨rfl, h | ⟨rfl, h | ⟨rfl, h⟩⟩⟩
  · exact micros_lt_of_dayNumber_lt (Date.dayNumber_lt_of_year_lt h)
  · exact micros_lt_of_dayNumber_lt (Date.dayNumber_lt_of_month_lt rfl h)
  · exact micros_lt_of_dayNumber_lt (Date.dayNumber_lt_of_day_lt rfl rfl h)
  · refine micros_lt_of_time_lt rfl ?_
    simp only [TimeOfDay.micros]
    omega

theorem eq_of_fields_eq {a b : Civil} (h : a.fields = b.fields) : a = b := by
  obtain ⟨⟨y, m, d, hd⟩, ⟨hr, mi, s, us, ht⟩⟩ := a
  obtain ⟨⟨y', m', d', hd'⟩, ⟨hr', mi', s', us', ht'⟩⟩ := b
  simp only [fields, List.cons.injEq, and_true] at h
  obtain ⟨rfl, rfl, rfl, rfl, rfl, rfl, rfl⟩ := h
  rfl

theorem fields_lt_trichotomy (a b : Civil) :
    a.fields < b.fields ∨ a = b ∨ b.fields < a.fields := by
  by_cases h : a.fields < b.fields
  · exact Or.inl h
  · rcases List.le_iff_lt_or_eq.mp (List.not_lt.mp h) with hlt | heq
    · exact Or.inr (Or.inr hlt)
    · exact Or.inr (Or.inl (eq_of_fields_eq heq.symm))

theorem micros_injective {a b : Civil} (h : a.micros = b.micros) : a = b := by
  rcases fields_lt_trichotomy a b with hab | hab | hba
  · exact absurd (micros_lt_of_fields_lt hab) (by omega)
  · exact hab
  · exact absurd (micros_lt_of_fields_lt hba) (by omega)

/-- Fields are ordered as their counts are. -/
theorem compareFields_eq (a b : Civil) : a.compareFields b = compare a.micros b.micros := by
  unfold compareFields compareOfLessAndEq
  rcases fields_lt_trichotomy a b with h | rfl | h
  · rw [if_pos h, Nat.compare_eq_lt.mpr (micros_lt_of_fields_lt h)]
  · rw [if_neg (List.lt_irrefl _), if_pos rfl, Nat.compare_eq_eq.mpr rfl]
  · have hne : a.fields ≠ b.fields := fun he => by
      rw [he] at h
      exact List.lt_irrefl _ h
    rw [if_neg (List.lt_asymm h), if_neg hne, Nat.compare_eq_gt.mpr (micros_lt_of_fields_lt h)]

theorem isLE_iff {a b : Civil} : a.isLE b = true ↔ a.micros ≤ b.micros := by
  unfold isLE
  rw [compareFields_eq, Nat.isLE_compare]

@[simp] theorem instant_micros (c : Civil) : c.instant.micros = c.micros := rfl

@[simp] theorem civil_instant (c : Civil) : c.instant.civil = c :=
  micros_injective (micros_ofMicros c.micros_lt)

end Civil

namespace Instant

@[simp] theorem micros_civil (t : Instant) : t.civil.micros = t.micros :=
  Civil.micros_ofMicros t.inCalendar

@[simp] theorem instant_civil (t : Instant) : t.civil.instant = t := by
  cases t
  simp [Civil.instant]

/-- The fields of instants are ordered as the instants are. -/
theorem civil_isLE {a b : Instant} : a.civil.isLE b.civil = decide (a ≤ b) := by
  rw [Bool.eq_iff_iff, Civil.isLE_iff, micros_civil, micros_civil, decide_eq_true_iff]
  rfl

theorem micros_inj {a b : Instant} : a.micros = b.micros ↔ a = b := by
  cases a
  cases b
  rw [Instant.mk.injEq]

theorem le_antisymm {a b : Instant} (hab : a ≤ b) (hba : b ≤ a) : a = b :=
  micros_inj.mp (Nat.le_antisymm hab hba)

/-- An instant is the one that its own text form in universal time means. -/
@[simp] theorem timestamp_instant? (t : Instant) : t.timestamp.instant? = some t := by
  have h : (0 : Int) ≤ t.micros ∧ (t.micros : Int) < calendarMicros := by
    have := t.inCalendar
    omega
  simp [Timestamp.instant?, Instant.timestamp, Timestamp.offsetMicros, Offset.zero, ofMicros?, h]

end Instant

theorem Timestamp.instant_of_instant? {t : Timestamp} {time : Instant} (h : t.instant? = some time) :
    t.instant = .ok time := by
  unfold instant
  rw [h]

theorem Instant.instant_timestamp (t : Instant) : t.timestamp.instant = .ok t :=
  Timestamp.instant_of_instant? t.timestamp_instant?

/-! ## What timestamps mean -/

namespace Timestamp

/-- The microseconds from the beginning of the calendar to the moment that is meant. It may lie
outside the calendar. -/
def moment (t : Timestamp) : Int := t.civil.micros - t.offsetMicros

theorem instant_congr {t t' : Timestamp} (h : t'.moment = t.moment) : t'.instant = t.instant := by
  unfold moment at h
  unfold instant instant?
  rw [h]

/-- The moment is outside the calendar, or there is an instant with its count. -/
theorem instant_cases (t : Timestamp) :
    (t.instant = .error .outOfRange ∧ ∀ c : Civil, (c.micros : Int) ≠ t.moment) ∨
      ∃ i : Instant, t.instant = .ok i ∧ (i.micros : Int) = t.moment := by
  have hmoment : t.moment = t.civil.micros - t.offsetMicros := rfl
  unfold instant instant? Instant.ofMicros?
  rw [← hmoment]
  by_cases hcalendar : 0 ≤ t.moment ∧ t.moment < calendarMicros
  · rw [dif_pos hcalendar]
    exact .inr ⟨_, rfl, Int.toNat_of_nonneg hcalendar.1⟩
  · rw [dif_neg hcalendar]
    refine .inl ⟨rfl, fun c hc => hcalendar ?_⟩
    have hlt := c.micros_lt
    omega

theorem micros_of_instant {t : Timestamp} {i : Instant} (h : t.instant = .ok i) :
    (i.micros : Int) = t.moment := by
  obtain ⟨herror, _⟩ | ⟨j, hj, hmicros⟩ := t.instant_cases
  · rw [h] at herror
    nomatch herror
  · rw [h] at hj
    cases hj
    exact hmicros

end Timestamp

end FleetTracking
