import FleetTracking.Calendar.Civil

/-!
# Instants and timestamps

An `Instant` is a moment of universal time within the calendar. A `Timestamp` is how a moment is
written down: date and time with an offset from universal time, or without one, which is then
read as universal time. Several timestamps name one instant (`Timestamp.instant?`), and some lie
outside the calendar once their offset is taken away.
-/

namespace FleetTracking

/-! ## Instants -/

/-- A moment of universal time, in microseconds since the beginning of the calendar. -/
structure Instant where
  micros : Nat
  inCalendar : micros < calendarMicros
  deriving DecidableEq

namespace Instant

instance : LE Instant := ⟨fun a b => a.micros ≤ b.micros⟩
instance : LT Instant := ⟨fun a b => a.micros < b.micros⟩
instance (a b : Instant) : Decidable (a ≤ b) := inferInstanceAs (Decidable (a.micros ≤ b.micros))
instance (a b : Instant) : Decidable (a < b) := inferInstanceAs (Decidable (a.micros < b.micros))

instance : Inhabited Instant := ⟨⟨0, by decide⟩⟩

/-- The instant so many microseconds after the beginning, if it lies in the calendar. -/
def ofMicros? (n : Int) : Option Instant :=
  if h : 0 ≤ n ∧ n < calendarMicros then some ⟨n.toNat, by omega⟩ else none

/-- The instant so many microseconds later, or earlier for a negative number. -/
def add? (t : Instant) (delta : Int) : Option Instant := ofMicros? (t.micros + delta)

/-- Date and time of an instant in universal time. -/
def civil (t : Instant) : Civil := .ofMicros t.micros t.inCalendar

end Instant

/-- The instant of date and time in universal time. -/
def Civil.instant (c : Civil) : Instant := ⟨c.micros, c.micros_lt⟩

/-! ## Timestamps -/

/-- The distance of a local clock from universal time, in microseconds: less than a day. -/
structure Offset where
  micros : Int
  valid : -dayMicros < micros ∧ micros < dayMicros
  deriving DecidableEq

/-- Universal time itself. -/
def Offset.zero : Offset := ⟨0, by decide⟩

/-- The offset of so many microseconds, if it is less than a day. -/
def Offset.of? (micros : Int) : Option Offset :=
  if h : -dayMicros < micros ∧ micros < dayMicros then some ⟨micros, h⟩ else none

/-- Date and time as someone wrote them, with an offset or without one. -/
structure Timestamp where
  civil : Civil
  offset : Option Offset
  deriving DecidableEq

namespace Timestamp

/-- The offset in microseconds; none counts as universal time. -/
def offsetMicros (t : Timestamp) : Int := (t.offset.map (·.micros)).getD 0

/-- The instant that is meant; nothing if it lies outside the calendar. -/
def instant? (t : Timestamp) : Option Instant := Instant.ofMicros? (t.civil.micros - t.offsetMicros)

/-- The same clock so many microseconds later; nothing if its date leaves the calendar. -/
def shift? (t : Timestamp) (delta : Int) : Option Timestamp :=
  (Instant.ofMicros? (t.civil.micros + delta)).map fun moved => { t with civil := moved.civil }

end Timestamp

/-- An instant written in universal time. -/
def Instant.timestamp (t : Instant) : Timestamp := ⟨t.civil, some .zero⟩

/-! ## Spans -/

/-- Microseconds in a second. -/
def secondMicros : Int := 1000000

/-- Microseconds in a minute. -/
def minuteMicros : Int := 60 * secondMicros

/-- Microseconds in an hour. -/
def hourMicros : Int := 60 * minuteMicros

/-! ## Counting from 1970 -/

/-- The microseconds from the beginning of the calendar to that of 1970. -/
def epochMicros : Int := 719162 * dayMicros

/-- The instant so many microseconds after the beginning of 1970, or before it for a negative
number. -/
def Instant.sinceEpoch? (micros : Int) : Option Instant := Instant.ofMicros? (epochMicros + micros)

end FleetTracking
