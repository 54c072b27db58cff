import FleetTracking.Calendar.Date

/-!
# Date and time fields

A date with a time of day down to microseconds (`Civil`), in no particular time zone, compared
field by field, and its count of microseconds from the beginning of the calendar.
-/

namespace FleetTracking

/-! ## Time of day -/

/-- The microseconds of a day. -/
def dayMicros : Nat := 86400000000

/-- Hour, minute, second and microsecond. -/
structure TimeOfDay where
  hour : Nat
  minute : Nat
  second : Nat
  micro : Nat
  valid : hour < 24 ∧ minute < 60 ∧ second < 60 ∧ micro < 1000000
  deriving DecidableEq

namespace TimeOfDay

/-- The beginning of the day. -/
def midnight : TimeOfDay := ⟨0, 0, 0, 0, by decide⟩

/-- The time with these fields, if there is one. -/
def of? (hour minute second micro : Nat) : Option TimeOfDay :=
  if h : hour < 24 ∧ minute < 60 ∧ second < 60 ∧ micro < 1000000 then
    some ⟨hour, minute, second, micro, h⟩
  else none

/-- The microseconds since midnight. -/
def micros (t : TimeOfDay) : Nat :=
  t.hour * 3600000000 + t.minute * 60000000 + t.second * 1000000 + t.micro

theorem micros_lt (t : TimeOfDay) : t.micros < dayMicros := by
  have := t.valid
  unfold micros dayMicros
  omega

/-- The time that is so many microseconds after midnight; a whole day is left off. -/
def ofMicros (n : Nat) : TimeOfDay where
  hour := n / 3600000000 % 24
  minute := n / 60000000 % 60
  second := n / 1000000 % 60
  micro := n % 1000000
  valid := ⟨Nat.mod_lt _ (by decide), Nat.mod_lt _ (by decide), Nat.mod_lt _ (by decide),
    Nat.mod_lt _ (by decide)⟩

theorem ofMicros_micros (t : TimeOfDay) : ofMicros t.micros = t := by
  have h := t.valid
  cases t
  simp only [ofMicros, micros, TimeOfDay.mk.injEq] at h ⊢
  omega

theorem micros_ofMicros {n : Nat} (h : n < dayMicros) : (ofMicros n).micros = n := by
  unfold dayMicros at h
  simp only [ofMicros, micros]
  omega

end TimeOfDay

/-! ## Date and time -/

/-- A date with a time of day. -/
structure Civil where
  date : Date
  time : TimeOfDay
  deriving DecidableEq

/-- The number of microseconds of the calendar. -/
def calendarMicros : Nat := calendarDays * dayMicros

namespace Civil

/-- The fields, the largest first. -/
def fields (c : Civil) : List Nat :=
  [c.date.year, c.date.month, c.date.day, c.time.hour, c.time.minute, c.time.second, c.time.micro]

/-- Comparison field by field. -/
def compareFields (a b : Civil) : Ordering := compareOfLessAndEq a.fields b.fields

/-- No later, field by field. -/
def isLE (a b : Civil) : Bool := (a.compareFields b).isLE

/-- The microseconds since the beginning of the calendar. -/
def micros (c : Civil) : Nat := c.date.dayNumber * dayMicros + c.time.micros

theorem micros_lt (c : Civil) : c.micros < calendarMicros := by
  have hd := c.date.dayNumber_lt
  have ht := c.time.micros_lt
  unfold micros calendarMicros
  calc c.date.dayNumber * dayMicros + c.time.micros
      < c.date.dayNumber * dayMicros + dayMicros := by omega
    _ = (c.date.dayNumber + 1) * dayMicros := by rw [Nat.succ_mul]
    _ ≤ calendarDays * dayMicros := Nat.mul_le_mul_right _ hd

/-- The date and time so many microseconds after the beginning of the calendar. -/
def ofMicros (n : Nat) (h : n < calendarMicros) : Civil where
  date := Date.ofDayNumber (n / dayMicros) (Nat.div_lt_of_lt_mul (by
    rw [Nat.mul_comm]
    exact h))
  time := TimeOfDay.ofMicros (n % dayMicros)

end Civil

end FleetTracking
