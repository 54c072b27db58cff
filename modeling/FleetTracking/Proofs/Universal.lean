import FleetTracking.Proofs.Calendar
import FleetTracking.Proofs.Outcome
import FleetTracking.Store.Tables

/-!
# Timestamps in universal time

A timestamp is brought to universal time, where its offset is taken away, and may then be kept
without an offset, as tables do. Neither changes what instant is meant, doing both or one of them
twice is doing it once, and what is kept is ordered field by field as the instants are
(`Timestamp.keepsInstant`).

Instants are counted, and the count is that of a clock (`Civil.after?_beginning`). It ticks through
the fields from the first day of the calendar, a microsecond at a time: a field that is full goes
back to its start, and the next greater one goes on, a day with the length of its month in its year.
No count enters into that, so it says what the formulas for day numbers have to come to.
-/

namespace FleetTracking

/-! ## The time of day on a clock -/

namespace TimeOfDay

/-- A microsecond later on the same day. -/
def next? (t : TimeOfDay) : Option TimeOfDay :=
  (of? t.hour t.minute t.second (t.micro + 1)).or <|
    (of? t.hour t.minute (t.second + 1) 0).or <|
    (of? t.hour (t.minute + 1) 0 0).or <|
    of? (t.hour + 1) 0 0 0

variable {h m s f : Nat}

theorem exists_of? (hv : h < 24 ∧ m < 60 ∧ s < 60 ∧ f < 1000000) :
    ∃ t, of? h m s f = some t ∧ t.micros = h * 3600000000 + m * 60000000 + s * 1000000 + f :=
  ⟨⟨h, m, s, f, hv⟩, dif_pos hv, rfl⟩

theorem of?_eq_none (hv : ¬(h < 24 ∧ m < 60 ∧ s < 60 ∧ f < 1000000)) : of? h m s f = none :=
  dif_neg hv

/-- The time goes on by a microsecond, or the day is over. -/
theorem next?_cases (t : TimeOfDay) :
    (∃ u, t.next? = some u ∧ u.micros = t.micros + 1) ∨
      t.next? = none ∧ dayMicros = t.micros + 1 := by
  obtain ⟨hh, hm, hs, hf⟩ := t.valid
  have hmicros : t.micros =
    t.hour * 3600000000 + t.minute * 60000000 + t.second * 1000000 + t.micro := rfl
  have hzero : 0 < 60 ∧ 0 < 1000000 := by decide
  unfold next?
  -- the first field from the right that is not full goes on
  by_cases hmicro : t.micro + 1 < 1000000
  · obtain ⟨u, hu, hlater⟩ := exists_of? ⟨hh, hm, hs, hmicro⟩
    exact .inl ⟨u, by rw [hu, Option.some_or], by omega⟩
  rw [of?_eq_none (f := t.micro + 1) (by omega), Option.none_or]
  by_cases hsecond : t.second + 1 < 60
  · obtain ⟨u, hu, hlater⟩ := exists_of? ⟨hh, hm, hsecond, hzero.2⟩
    exact .inl ⟨u, by rw [hu, Option.some_or], by omega⟩
  rw [of?_eq_none (s := t.second + 1) (by omega), Option.none_or]
  by_cases hminute : t.minute + 1 < 60
  · obtain ⟨u, hu, hlater⟩ := exists_of? ⟨hh, hminute, hzero.1, hzero.2⟩
    exact .inl ⟨u, by rw [hu, Option.some_or], by omega⟩
  rw [of?_eq_none (m := t.minute + 1) (by omega), Option.none_or]
  by_cases hhour : t.hour + 1 < 24
  · obtain ⟨u, hu, hlater⟩ := exists_of? ⟨hhour, hzero.1, hzero.1, hzero.2⟩
    exact .inl ⟨u, hu, by omega⟩
  refine .inr ⟨of?_eq_none (by omega), ?_⟩
  unfold dayMicros
  omega

end TimeOfDay

/-! ## The date on a clock -/

namespace Date

/-- The next day. -/
def next? (d : Date) : Option Date :=
  (of? d.year d.month (d.day + 1)).or <|
    (of? d.year (d.month + 1) 1).or <|
    of? (d.year + 1) 1 1

variable {y m d : Nat}

theorem exists_of? (hv : IsDate y m d) : ∃ date, of? y m d = some date ∧
    date.dayNumber = daysBeforeYear y + daysBeforeMonth y m + (d - 1) :=
  ⟨⟨y, m, d, hv⟩, dif_pos hv, rfl⟩

theorem of?_eq_none (hv : ¬IsDate y m d) : of? y m d = none := dif_neg hv

theorem one_le_daysInMonth (y m : Nat) : 1 ≤ daysInMonth y m := by
  unfold daysInMonth
  split
  · split <;> decide
  · split <;> decide

/-- Behind December a year is complete. -/
theorem daysBeforeMonth_twelve (y : Nat) :
    daysBeforeMonth y 12 + daysInMonth y 12 = daysInYear y := by
  by_cases hleap : isLeapYear y = true
  · simp [daysBeforeMonth, daysInMonth, daysInYear, hleap]
  · simp [daysBeforeMonth, daysInMonth, daysInYear, hleap]

/-- The day number goes on by one, or the calendar is over. -/
theorem next?_cases (d : Date) :
    (∃ e, d.next? = some e ∧ e.dayNumber = d.dayNumber + 1) ∨
      d.next? = none ∧ calendarDays = d.dayNumber + 1 := by
  obtain ⟨⟨hy1, hy2⟩, ⟨hm1, hm2⟩, ⟨hd1, hd2⟩⟩ := d.valid
  have hnumber : d.dayNumber =
    daysBeforeYear d.year + daysBeforeMonth d.year d.month + (d.day - 1) := rfl
  unfold next?
  by_cases hday : d.day + 1 ≤ daysInMonth d.year d.month
  · obtain ⟨e, he, hlater⟩ := exists_of? ⟨⟨hy1, hy2⟩, ⟨hm1, hm2⟩, by omega, hday⟩
    exact .inl ⟨e, by rw [he, Option.some_or], by omega⟩
  rw [of?_eq_none fun h => hday h.2.2.2, Option.none_or]
  by_cases hmonth : d.month + 1 ≤ 12
  · obtain ⟨e, he, hlater⟩ := exists_of?
      ⟨⟨hy1, hy2⟩, ⟨by omega, hmonth⟩, Nat.le_refl 1, one_le_daysInMonth _ _⟩
    rw [daysBeforeMonth_succ hm1] at hlater
    exact .inl ⟨e, by rw [he, Option.some_or], by omega⟩
  rw [of?_eq_none fun h => hmonth h.2.1.2, Option.none_or]
  -- it is the end of December
  have hyear := daysBeforeMonth_twelve d.year
  rw [show (12 : Nat) = d.month by omega] at hyear
  have hnext := daysBeforeYear_succ hy1
  by_cases hlast : d.year + 1 ≤ 9999
  · have hfirst : IsDate (d.year + 1) 1 1 :=
      ⟨⟨by omega, hlast⟩, ⟨Nat.le_refl 1, by decide⟩, Nat.le_refl 1, one_le_daysInMonth _ _⟩
    obtain ⟨e, he, hlater⟩ := exists_of? hfirst
    rw [show daysBeforeMonth (d.year + 1) 1 = 0 from rfl] at hlater
    exact .inl ⟨e, he, by omega⟩
  have hend : daysBeforeYear (d.year + 1) = calendarDays := by
    rw [show d.year + 1 = 10000 by omega]
    decide
  exact .inr ⟨of?_eq_none fun h => hlast h.1.2, by omega⟩

end Date

/-! ## The clock -/

namespace Civil

/-- A microsecond later. -/
def next? (c : Civil) : Option Civil :=
  (c.time.next?.map fun time => ⟨c.date, time⟩).or <|
    c.date.next?.map fun date => ⟨date, .midnight⟩

/-- So many microseconds later. -/
def after? (c : Civil) : Nat → Option Civil
  | 0 => some c
  | n + 1 => (c.after? n).bind next?

/-- The beginning of the calendar. -/
def beginning : Civil := ⟨⟨1, 1, 1, by decide⟩, .midnight⟩

theorem micros_midnight (date : Date) :
    micros ⟨date, .midnight⟩ = date.dayNumber * dayMicros := by
  rw [micros, show TimeOfDay.midnight.micros = 0 from rfl, Nat.add_zero]

/-- The count goes on by one, or the calendar is over. -/
theorem next?_cases (c : Civil) :
    (∃ later, c.next? = some later ∧ later.micros = c.micros + 1) ∨
      c.next? = none ∧ calendarMicros = c.micros + 1 := by
  have hmicros : c.micros = c.date.dayNumber * dayMicros + c.time.micros := rfl
  unfold next?
  obtain ⟨time, htime, hlater⟩ | ⟨htime, hday⟩ := c.time.next?_cases
  · rw [htime]
    refine .inl ⟨⟨c.date, time⟩, rfl, ?_⟩
    rw [hmicros, Nat.add_assoc, ← hlater]
    rfl
  · -- the day is over
    have hsum : c.micros + 1 = (c.date.dayNumber + 1) * dayMicros := by
      rw [Nat.succ_mul]
      omega
    rw [htime, hsum]
    obtain ⟨date, hdate, hnumber⟩ | ⟨hdate, hcalendar⟩ := c.date.next?_cases
    · rw [hdate, ← hnumber]
      exact .inl ⟨⟨date, .midnight⟩, rfl, micros_midnight date⟩
    · rw [hdate, ← hcalendar]
      exact .inr ⟨rfl, rfl⟩

theorem after?_eq {n : Nat} (hn : n < calendarMicros) :
    ∃ c, beginning.after? n = some c ∧ c.micros = n := by
  induction n with
  | zero => exact ⟨beginning, rfl, by decide⟩
  | succ n ih =>
    obtain ⟨c, hc, rfl⟩ := ih (by omega)
    obtain ⟨later, hlater, hmicros⟩ | ⟨_, hend⟩ := c.next?_cases
    · refine ⟨later, ?_, hmicros⟩
      rw [after?, hc, Option.bind_some, hlater]
    · omega

/-- Date and time are what a clock shows after as many microseconds as they count. -/
theorem after?_beginning (c : Civil) : beginning.after? c.micros = some c := by
  obtain ⟨c', hafter, hmicros⟩ := after?_eq c.micros_lt
  rw [hafter, micros_injective hmicros]

end Civil

/-! ## Universal time -/

namespace Timestamp

/-- The same timestamp in universal time. -/
def universal (t : Timestamp) : Except Failure Timestamp := return (← t.instant).timestamp

/-- The same timestamp in universal time, without its offset. -/
def naive (t : Timestamp) : Except Failure Timestamp := return { (← t.universal) with offset := none }

/-- An offset of zero may as well be left out. -/
theorem instant_withoutOffset (i : Instant) : (⟨i.civil, none⟩ : Timestamp).instant = .ok i := by
  rw [← i.instant_timestamp]
  apply instant_congr
  simp [moment, offsetMicros, Instant.timestamp, Offset.zero]

theorem moment_timestamp (i : Instant) : i.timestamp.moment = i.micros :=
  (micros_of_instant i.instant_timestamp).symm

theorem universal_of_instant {t : Timestamp} {i : Instant} (h : t.instant = .ok i) :
    t.universal = .ok i.timestamp := by
  unfold universal
  rw [h]
  rfl

theorem naive_of_instant {t : Timestamp} {i : Instant} (h : t.instant = .ok i) :
    t.naive = .ok ⟨i.civil, none⟩ := by
  unfold naive
  rw [universal_of_instant h]
  rfl

/-- Universal time, with an offset and without one, is that of one instant, or there is none. -/
theorem universal_cases (t : Timestamp) :
    (t.universal = .error .outOfRange ∧ t.naive = .error .outOfRange ∧
        ∀ c : Civil, (c.micros : Int) ≠ t.moment) ∨
      ∃ i : Instant, t.universal = .ok i.timestamp ∧ t.naive = .ok ⟨i.civil, none⟩ ∧
        (i.micros : Int) = t.moment := by
  obtain ⟨herror, houtside⟩ | ⟨i, hi, hcount⟩ := t.instant_cases
  · have huniversal : t.universal = .error .outOfRange := by
      unfold universal
      rw [herror]
      rfl
    refine .inl ⟨huniversal, ?_, houtside⟩
    unfold naive
    rw [huniversal]
    rfl
  · exact .inr ⟨i, universal_of_instant hi, naive_of_instant hi, hcount⟩

theorem universal_eq_error_iff (t : Timestamp) :
    t.universal = .error .outOfRange ↔ ∀ c : Civil, (c.micros : Int) ≠ t.moment := by
  obtain ⟨herror, _, houtside⟩ | ⟨i, hok, _, hcount⟩ := t.universal_cases
  · exact ⟨fun _ => houtside, fun _ => herror⟩
  · constructor
    · intro herror
      rw [hok] at herror
      nomatch herror
    · intro houtside
      rw [← i.micros_civil] at hcount
      exact absurd hcount (houtside i.civil)

theorem universal_eq (t : Timestamp) : t.universal = .error .outOfRange ∨
    ∃ u, t.universal = .ok u ∧ u.offset = some .zero ∧ u.moment = t.moment := by
  obtain ⟨herror, _⟩ | ⟨i, hok, _, hcount⟩ := t.universal_cases
  · exact .inl herror
  · exact .inr ⟨i.timestamp, hok, rfl, (moment_timestamp i).trans hcount⟩

/-- Neither of them changes what is meant. -/
theorem instant_universal (t : Timestamp) : (t.universal >>= instant) = t.instant := by
  unfold universal
  cases t.instant with
  | error e => rfl
  | ok i => exact bind_eq_ok.mpr ⟨i.timestamp, rfl, i.instant_timestamp⟩

theorem instant_naive (t : Timestamp) : (t.naive >>= instant) = t.instant := by
  unfold naive universal
  cases t.instant with
  | error e => rfl
  | ok i => exact bind_eq_ok.mpr ⟨⟨i.civil, none⟩, rfl, instant_withoutOffset i⟩

theorem universal_universal (t : Timestamp) : (t.universal >>= universal) = t.universal :=
  calc t.universal >>= universal
      = (t.universal >>= instant) >>= fun i => pure i.timestamp := (bind_assoc _ _ _).symm
    _ = t.universal := by rw [instant_universal]; rfl

theorem universal_naive (t : Timestamp) : (t.naive >>= universal) = t.universal :=
  calc t.naive >>= universal
      = (t.naive >>= instant) >>= fun i => pure i.timestamp := (bind_assoc _ _ _).symm
    _ = t.universal := by rw [instant_naive]; rfl

theorem naive_universal (t : Timestamp) : (t.universal >>= naive) = t.naive :=
  calc t.universal >>= naive
      = (t.universal >>= universal) >>= fun u => pure { u with offset := none } :=
        (bind_assoc _ _ _).symm
    _ = t.naive := by rw [universal_universal]; rfl

/-- What comes out without an offset has the count of the instant that was meant. -/
theorem micros_naive {t u : Timestamp} (h : t.naive = .ok u) :
    u.offset = none ∧ (u.civil.micros : Int) = t.moment := by
  obtain ⟨_, hnaive, _⟩ | ⟨i, _, hnaive, hcount⟩ := t.universal_cases
  · rw [h] at hnaive
    nomatch hnaive
  · rw [h] at hnaive
    cases hnaive
    exact ⟨rfl, by rw [Instant.micros_civil, hcount]⟩

theorem compareFields_naive {s t u v : Timestamp} (hu : s.naive = .ok u) (hv : t.naive = .ok v) :
    u.civil.compareFields v.civil = compare s.moment t.moment := by
  rw [Civil.compareFields_eq, ← (micros_naive hu).2, ← (micros_naive hv).2]
  simp only [compare, compareOfLessAndEq, Int.ofNat_lt, Int.ofNat_inj]

/-! ## Rows -/

/-- A row of a vehicle keeps its date without an offset. -/
theorem ofDraft_eq {v : VehicleDraft} {t : Timestamp} (h : v.createdDate = some t) :
    NewVehicle.ofDraft v = t.naive.map fun u => ⟨v.id, v.name, v.isActive, some u.civil⟩ := by
  unfold NewVehicle.ofDraft naive universal
  rw [h]
  dsimp only
  cases t.instant <;> rfl

/-- A row of a position keeps its time without an offset. -/
theorem naive_of_report {vehicle : VehicleRef} {place : Point} {t : Timestamp} {id : Option Int}
    {p : Position} (h : Position.report vehicle place t id = .ok p) :
    t.naive = .ok ⟨(NewPosition.ofPosition p).recordedAt, none⟩ := by
  obtain ⟨coordinates, _, h⟩ := bind_eq_ok.mp h
  obtain ⟨i, hi, h⟩ := bind_eq_ok.mp h
  cases h
  exact naive_of_instant hi

theorem universal_row (c : Civil) :
    (⟨c, none⟩ : Timestamp).universal = .ok c.instant.timestamp := by
  have h := instant_withoutOffset c.instant
  rw [Civil.civil_instant] at h
  exact universal_of_instant h

/-- What is read from a row is what was meant when it was written, in universal time. -/
theorem universal_of_row {t : Timestamp} {c : Civil} (h : t.naive = .ok ⟨c, none⟩) :
    t.universal = .ok c.instant.timestamp := by
  rw [← t.universal_naive, h]
  exact bind_eq_ok.mpr ⟨_, rfl, universal_row c⟩

/-! ## What is kept -/

/-- Universal time and rows keep what the timestamp means. -/
structure KeepsInstant (t : Timestamp) : Prop where
  /-- There is no universal time if what is meant is outside the calendar, and only then. -/
  fails_iff : t.universal = .error .outOfRange ↔ ∀ c : Civil, (c.micros : Int) ≠ t.moment
  /-- Otherwise its offset is zero, and the same is meant. -/
  means : t.universal = .error .outOfRange ∨
    ∃ u, t.universal = .ok u ∧ u.offset = some .zero ∧ u.moment = t.moment
  again : (t.universal >>= universal) = t.universal
  fromNaive : (t.naive >>= universal) = t.universal
  toNaive : (t.universal >>= naive) = t.naive
  /-- Without offsets, fields are in the order of what was meant. -/
  ordered : ∀ s u v : Timestamp, t.naive = .ok u → s.naive = .ok v →
    u.offset = none ∧ v.offset = none ∧
      u.civil.compareFields v.civil = compare t.moment s.moment
  /-- That is what the rows of vehicles and of positions keep. -/
  vehicleRow : ∀ v : VehicleDraft, v.createdDate = some t → NewVehicle.ofDraft v =
    t.naive.map fun u => ⟨v.id, v.name, v.isActive, some u.civil⟩
  positionRow : ∀ vehicle place id p, Position.report vehicle place t id = .ok p →
    t.naive = .ok ⟨(NewPosition.ofPosition p).recordedAt, none⟩
  /-- What is read from them is in universal time. -/
  vehicle : ∀ r : VehicleRow, t.naive = .ok ⟨r.createdDate, none⟩ →
    t.universal.map some = .ok r.toVehicle.createdDate
  position : ∀ r p, t.naive = .ok ⟨r.recordedAt, none⟩ → PositionRow.toPosition r = .ok p →
    t.universal = .ok p.recordedAt.timestamp

/-- The count of instants is that of a clock, and every timestamp keeps its instant. -/
theorem keepsInstant : (∀ c : Civil, Civil.beginning.after? c.micros = some c) ∧
    ∀ t : Timestamp, t.KeepsInstant := by
  refine ⟨Civil.after?_beginning, fun t => ?_⟩
  refine
    { fails_iff := t.universal_eq_error_iff
      means := t.universal_eq
      again := t.universal_universal
      fromNaive := t.universal_naive
      toNaive := t.naive_universal
      ordered := ?_
      vehicleRow := fun v hv => ofDraft_eq hv
      positionRow := fun vehicle place id p hp => naive_of_report hp
      vehicle := ?_
      position := ?_ }
  · intro s u v hu hv
    exact ⟨(micros_naive hu).1, (micros_naive hv).1, compareFields_naive hu hv⟩
  · intro r hr
    rw [universal_of_row hr]
    rfl
  · intro r p hr hp
    obtain ⟨coordinates, _, hp⟩ := bind_eq_ok.mp hp
    cases hp
    exact universal_of_row hr

end Timestamp

end FleetTracking
