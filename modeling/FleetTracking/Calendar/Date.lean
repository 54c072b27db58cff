/-!
# Dates

The days of the years 1 to 9999 of the Gregorian calendar, by year, month and day, and by a
count from the first of them (`Date.dayNumber`, `Date.ofDayNumber`). Weeks begin on Monday; the
first week of a year is the one with its first Thursday (`Date.ofWeek?`).

Main statements: `daysBeforeYear_yearOf_le` and `lt_daysBeforeYear_yearOf` (the year found holds
the day), `splitMonths_valid` (the month and day found are a date of the year).
-/

namespace FleetTracking

/-! ## Years and months -/

/-- A leap year: every fourth one, not the full centuries, but every fourth of them. -/
def isLeapYear (y : Nat) : Bool := y % 4 == 0 && (y % 100 != 0 || y % 400 == 0)

/-- The number of days of a month. -/
def daysInMonth (y m : Nat) : Nat :=
  if m = 2 then (if isLeapYear y then 29 else 28)
  else if m = 4 ∨ m = 6 ∨ m = 9 ∨ m = 11 then 30
  else 31

/-- The days of all years from 1 to before `y`. -/
def daysBeforeYear (y : Nat) : Nat :=
  (y - 1) * 365 + (y - 1) / 4 - (y - 1) / 100 + (y - 1) / 400

/-- The days of a year before its month `m`. -/
def daysBeforeMonth (y : Nat) : Nat → Nat
  | 0 | 1 => 0
  | m + 2 => daysBeforeMonth y (m + 1) + daysInMonth y (m + 1)

/-- The number of days of the calendar. -/
def calendarDays : Nat := 3652059

/-- Year, month and day are a day of the calendar. -/
def IsDate (y m d : Nat) : Prop :=
  (1 ≤ y ∧ y ≤ 9999) ∧ (1 ≤ m ∧ m ≤ 12) ∧ (1 ≤ d ∧ d ≤ daysInMonth y m)

instance (y m d : Nat) : Decidable (IsDate y m d) :=
  inferInstanceAs (Decidable (_ ∧ _))

/-- A day of the calendar. -/
structure Date where
  year : Nat
  month : Nat
  day : Nat
  valid : IsDate year month day
  deriving DecidableEq

namespace Date

/-- The date of year, month and day, if there is one. -/
def of? (y m d : Nat) : Option Date := if h : IsDate y m d then some ⟨y, m, d, h⟩ else none

/-- The number of days since the first day of the calendar. -/
def dayNumber (d : Date) : Nat :=
  daysBeforeYear d.year + daysBeforeMonth d.year d.month + (d.day - 1)

/-! ## From a day number -/

/-- The year of a day number: whole periods of 400, 100 and 4 years are split off. The last day
of a period belongs to its last part, although that part is then one day longer. -/
def yearOf (n : Nat) : Nat :=
  let r := n % 146097
  let centuries := min (r / 36524) 3
  let r := r - 36524 * centuries
  let quads := r / 1461
  let years := min (r % 1461 / 365) 3
  400 * (n / 146097) + 100 * centuries + 4 * quads + years + 1

/-- Splits a day of a year into its month and the day of that month. -/
def splitMonths (y : Nat) : List Nat → Nat → Nat × Nat
  | [], r => (12, r + 1)
  | m :: ms, r =>
    if r < daysInMonth y m then (m, r + 1) else splitMonths y ms (r - daysInMonth y m)

/-- The months of a year. -/
def months : List Nat := [1, 2, 3, 4, 5, 6, 7, 8, 9, 10, 11, 12]

/-- The days of some months of a year. -/
def daysInMonths (y : Nat) : List Nat → Nat
  | [] => 0
  | m :: ms => daysInMonth y m + daysInMonths y ms

/-- The days of a year. -/
def daysInYear (y : Nat) : Nat := if isLeapYear y then 366 else 365

theorem isLeapYear_iff (y : Nat) :
    isLeapYear y = true ↔ y % 4 = 0 ∧ (y % 100 ≠ 0 ∨ y % 400 = 0) := by
  simp [isLeapYear]

theorem daysBeforeYear_succ {y : Nat} (h : 1 ≤ y) :
    daysBeforeYear (y + 1) = daysBeforeYear y + daysInYear y := by
  have h4 : y / 4 = (y - 1) / 4 + (if y % 4 = 0 then 1 else 0) := by split <;> omega
  have h100 : y / 100 = (y - 1) / 100 + (if y % 100 = 0 then 1 else 0) := by split <;> omega
  have h400 : y / 400 = (y - 1) / 400 + (if y % 400 = 0 then 1 else 0) := by split <;> omega
  have hle : (y - 1) / 100 ≤ (y - 1) / 4 := by omega
  have hyear : (y - 1 + 1) = y := by omega
  unfold daysBeforeYear daysInYear
  simp only [Nat.add_sub_cancel, h4, h100, h400, isLeapYear_iff]
  have h1 : y % 100 = 0 → y % 4 = 0 := by omega
  have h2 : y % 400 = 0 → y % 100 = 0 := by omega
  by_cases c4 : y % 4 = 0 <;> by_cases c100 : y % 100 = 0 <;> by_cases c400 : y % 400 = 0 <;>
    simp_all <;> omega

theorem daysBeforeYear_le_succ (y : Nat) : daysBeforeYear y ≤ daysBeforeYear (y + 1) := by
  rcases Nat.eq_zero_or_pos y with rfl | h
  · decide
  · rw [daysBeforeYear_succ h]
    omega

theorem daysBeforeYear_mono {y z : Nat} (h : y ≤ z) : daysBeforeYear y ≤ daysBeforeYear z := by
  induction h with
  | refl => exact Nat.le_refl _
  | step _ ih => exact Nat.le_trans ih (daysBeforeYear_le_succ _)

theorem daysBeforeYear_periods (a b c d : Nat) (hb : b ≤ 3) (hc : c ≤ 24) (hd : d ≤ 3) :
    daysBeforeYear (400 * a + 100 * b + 4 * c + d + 1) =
      146097 * a + 36524 * b + 1461 * c + 365 * d := by
  unfold daysBeforeYear
  omega

theorem yearOf_periods (n : Nat) : ∃ a b c d, b ≤ 3 ∧ c ≤ 24 ∧ d ≤ 3 ∧
    yearOf n = 400 * a + 100 * b + 4 * c + d + 1 ∧
    146097 * a + 36524 * b + 1461 * c + 365 * d ≤ n ∧
    (n < 146097 * a + 36524 * b + 1461 * c + 365 * d + 365 ∨
      (d = 3 ∧ (c < 24 ∨ b = 3) ∧
        n = 146097 * a + 36524 * b + 1461 * c + 365 * d + 365)) := by
  obtain ⟨b, hb⟩ : ∃ b, b = min (n % 146097 / 36524) 3 := ⟨_, rfl⟩
  have hb3 : b ≤ 3 := by omega
  obtain ⟨s, hs⟩ : ∃ s, s = n % 146097 - 36524 * b := ⟨_, rfl⟩
  have hsum : n = 146097 * (n / 146097) + 36524 * b + s := by omega
  have hs4 : s < 36524 ∨ (b = 3 ∧ s = 36524) := by omega
  obtain ⟨d, hd⟩ : ∃ d, d = min (s % 1461 / 365) 3 := ⟨_, rfl⟩
  have hy : yearOf n = 400 * (n / 146097) + 100 * b + 4 * (s / 1461) + d + 1 := by
    simp only [yearOf, ← hb, ← hs, ← hd]
  refine ⟨n / 146097, b, s / 1461, d, hb3, by omega, by omega, hy, ?_, ?_⟩
  · have : 1461 * (s / 1461) + 365 * d ≤ s := by omega
    omega
  · have hr : s < 1461 * (s / 1461) + 365 * d + 365 ∨
        (d = 3 ∧ s = 1461 * (s / 1461) + 365 * d + 365) := by omega
    rcases hr with hr | ⟨hd3, hr⟩
    · exact Or.inl (by omega)
    · refine Or.inr ⟨hd3, ?_, by omega⟩
      rcases hs4 with hs4 | hs4
      · exact Or.inl (by omega)
      · exact Or.inr hs4.1

/-- The year of a day begins no later than the day. -/
theorem daysBeforeYear_yearOf_le (n : Nat) : daysBeforeYear (yearOf n) ≤ n := by
  obtain ⟨a, b, c, d, hb, hc, hd, hy, hle, _⟩ := yearOf_periods n
  rw [hy, daysBeforeYear_periods a b c d hb hc hd]
  exact hle

/-- The day lies within its year. -/
theorem lt_daysBeforeYear_yearOf (n : Nat) :
    n < daysBeforeYear (yearOf n) + daysInYear (yearOf n) := by
  obtain ⟨a, b, c, d, hb, hc, hd, hy, hle, hlt⟩ := yearOf_periods n
  rw [hy, daysBeforeYear_periods a b c d hb hc hd]
  rcases hlt with hlt | ⟨hd3, hcb, hn⟩
  · have : 365 ≤ daysInYear (400 * a + 100 * b + 4 * c + d + 1) := by
      unfold daysInYear; split <;> omega
    omega
  · have hleap : isLeapYear (400 * a + 100 * b + 4 * c + d + 1) = true := by
      simp only [isLeapYear, Bool.and_eq_true, beq_iff_eq, Bool.or_eq_true, bne_iff_ne]
      omega
    simp only [daysInYear, hleap, if_true]
    omega

theorem yearOf_le {n : Nat} (h : n < calendarDays) : yearOf n ≤ 9999 := by
  by_cases hy : yearOf n ≤ 9999
  · exact hy
  · have h1 := daysBeforeYear_yearOf_le n
    have h2 : daysBeforeYear 10000 ≤ daysBeforeYear (yearOf n) := daysBeforeYear_mono (by omega)
    have h3 : daysBeforeYear 10000 = calendarDays := by decide
    omega

theorem one_le_yearOf (n : Nat) : 1 ≤ yearOf n := by
  obtain ⟨a, b, c, d, _, _, _, hy, _⟩ := yearOf_periods n
  omega

theorem daysInMonths_months (y : Nat) : daysInMonths y months = daysInYear y := by
  simp [months, daysInMonths, daysInMonth, daysInYear]
  split <;> rfl

/-- A day within the given months is split into one of them and a day of it. -/
theorem splitMonths_valid (y : Nat) (ms : List Nat) (r : Nat)
    (h : r < daysInMonths y ms) :
    (splitMonths y ms r).1 ∈ ms ∧
      1 ≤ (splitMonths y ms r).2 ∧ (splitMonths y ms r).2 ≤ daysInMonth y (splitMonths y ms r).1 := by
  induction ms generalizing r with
  | nil => nomatch h
  | cons m ms ih =>
    unfold daysInMonths at h
    by_cases hr : r < daysInMonth y m
    · simp only [splitMonths, hr, if_true, List.mem_cons_self, true_and]
      omega
    · simp only [splitMonths, hr, if_false]
      obtain ⟨h1, h2⟩ := ih (r - daysInMonth y m) (by omega)
      exact ⟨List.mem_cons_of_mem m h1, h2⟩

/-- The date of a day number. -/
def ofDayNumber (n : Nat) (h : n < calendarDays) : Date :=
  let y := yearOf n
  let split := splitMonths y months (n - daysBeforeYear y)
  { year := y
    month := split.1
    day := split.2
    valid := by
      have hle := daysBeforeYear_yearOf_le n
      have hlt := lt_daysBeforeYear_yearOf n
      obtain ⟨hm, hd⟩ := splitMonths_valid (yearOf n) months (n - daysBeforeYear (yearOf n))
        (by rw [daysInMonths_months]; omega)
      have hall : ∀ m ∈ months, 1 ≤ m ∧ m ≤ 12 := by decide
      exact ⟨⟨one_le_yearOf n, yearOf_le h⟩, hall _ hm, hd⟩ }

/-- The date of a day number, if it lies in the calendar. -/
def ofDayNumber? (n : Nat) : Option Date :=
  if h : n < calendarDays then some (ofDayNumber n h) else none

/-! ## Bounds -/

theorem daysBeforeMonth_add_le {y m d : Nat} (h : IsDate y m d) :
    daysBeforeMonth y m + d ≤ daysInYear y := by
  obtain ⟨_, ⟨hm1, hm2⟩, _, hd⟩ := h
  have hm : m ∈ months := by
    have hall : ∀ k < 13, 1 ≤ k → k ∈ months := by decide
    exact hall m (by omega) hm1
  simp only [months, List.mem_cons, List.not_mem_nil, or_false] at hm
  by_cases hl : isLeapYear y = true <;>
    rcases hm with rfl | rfl | rfl | rfl | rfl | rfl | rfl | rfl | rfl | rfl | rfl | rfl <;>
    simp [daysBeforeMonth, daysInMonth, daysInYear, hl] at hd ⊢ <;> omega

/-- Every date has a day number of the calendar. -/
theorem dayNumber_lt (d : Date) : d.dayNumber < calendarDays := by
  have hsum := daysBeforeMonth_add_le d.valid
  have hsucc := daysBeforeYear_succ d.valid.1.1
  have hmono : daysBeforeYear (d.year + 1) ≤ daysBeforeYear 10000 :=
    daysBeforeYear_mono (by have := d.valid.1.2; omega)
  have h3 : daysBeforeYear 10000 = calendarDays := by decide
  have hd := d.valid.2.2.1
  unfold dayNumber
  omega

/-! ## Weeks -/

/-- The weekday on which a year begins, counted from Monday. -/
def firstWeekday (y : Nat) : Nat := daysBeforeYear y % 7

/-- A year has a week 53 when it begins on a Thursday, or is a leap year that begins on a
Wednesday. -/
def hasWeek53 (y : Nat) : Bool := firstWeekday y == 3 || (firstWeekday y == 2 && isLeapYear y)

/-- The day of a week of a year, both counted from one. -/
def ofWeek? (y week day : Nat) : Option Date :=
  if 1 ≤ y ∧ 1 ≤ week ∧ (week ≤ 52 ∨ week = 53 ∧ hasWeek53 y) ∧ 1 ≤ day ∧ day ≤ 7 then
    let monday := daysBeforeYear y - firstWeekday y + (if 3 < firstWeekday y then 7 else 0)
    ofDayNumber? (monday + (week - 1) * 7 + (day - 1))
  else none

end Date

end FleetTracking
