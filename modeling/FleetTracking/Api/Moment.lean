import FleetTracking.Calendar.Iso
import FleetTracking.Text.Numeral

/-!
# Moments in requests and responses

Requests write a moment as text or as a number. Text is a date in extended form, alone or with a
time and perhaps an offset; a number counts the seconds, or beyond `2 * 10 ^ 10` in size the
milliseconds, since the beginning of 1970, and may stand in text as well.

Responses write universal time as `Z` and other offsets with hours and minutes only.
-/

namespace FleetTracking.Api.Moment

open Text

/-- Why no moment is read. -/
inductive Trouble
  | unreadable
  /-- The moment lies in the year zero, which can be written but which the calendar lacks. -/
  | yearZero
  deriving DecidableEq, Repr

/-! ## Numbers -/

/-- Counts beyond this size are milliseconds. -/
def watershed : Nat := 20000000000

/-- The seconds from the beginning of the year zero to that of 1970. -/
def yearZeroSeconds : Int := 62167219200

/-- The moment so many microseconds after the beginning of 1970. -/
def sinceEpoch (micros : Int) : Except Trouble Timestamp :=
  match Instant.sinceEpoch? micros with
  | some instant => .ok instant.timestamp
  | none =>
    .error (if -(yearZeroSeconds * secondMicros) ≤ micros && micros < 0 then .yearZero
      else .unreadable)

/-- The moment of a whole count. -/
def ofCount (count : Int) : Except Trouble Timestamp :=
  if count.natAbs ≤ watershed then sinceEpoch (count * secondMicros) else sinceEpoch (count * 1000)

/-- The moment of a count with a fraction, to the nearest microsecond. -/
def ofNumber (x : Float) : Except Trouble Timestamp :=
  let seconds := if x.abs > Decimal.ofInt watershed then x / 1000.0 else x
  match (Decimal.Binary.ofFloat seconds).floor? with
  | some whole =>
    let fraction := ((seconds - seconds.floor) * 1000000.0).round.toUInt64.toNat
    sinceEpoch (whole * secondMicros + fraction)
  | none => .error .unreadable

/-- The moment of a number in text, if it is one: digits with an optional sign, or any decimal in
which a point follows the first digits. -/
def ofNumeral? (cs : List Char) : Option (Except Trouble Timestamp) :=
  let (negative, digits) := Decimal.splitSign cs
  match digits.dropWhile isDigit with
  | [] => (number? digits).map fun n => ofCount (signed negative n)
  | '.' :: _ => (Decimal.float? cs).map ofNumber
  | _ => none

/-! ## Text -/

/-- Two digits and what follows them. -/
def pair? : List Char → Option (Nat × List Char)
  | a :: b :: cs => (number? [a, b]).map fun n => (n, cs)
  | _ => none

/-- The first six digits of a fraction in microseconds. -/
def fractionMicros (digits : List Char) : Nat :=
  let counted := digits.take 6
  (number? counted).getD 0 * Nat.pow 10 (6 - counted.length)

/-- Seconds with their fraction, both of which may be missing. -/
def seconds? : List Char → Option (Nat × Nat × List Char)
  | ':' :: cs => do
    let (second, cs) ← pair? cs
    match cs with
    | mark :: rest =>
      if mark = '.' ∨ mark = ',' then
        let digits := rest.takeWhile isDigit
        if digits.isEmpty then none
        else return (second, fractionMicros digits, rest.dropWhile isDigit)
      else return (second, 0, cs)
    | [] => return (second, 0, [])
  | cs => some (0, 0, cs)

/-- Hours and minutes, then seconds if there are any. -/
def time? (cs : List Char) : Option (TimeOfDay × List Char) := do
  match ← pair? cs with
  | (hour, ':' :: cs) =>
    let (minute, cs) ← pair? cs
    let (second, micro, cs) ← seconds? cs
    return (← TimeOfDay.of? hour minute second micro, cs)
  | _ => none

/-- Hours and minutes of an offset, with a colon or without. -/
def offset? (negative : Bool) (cs : List Char) : Option Offset := do
  let (hours, cs) ← pair? cs
  let (minutes, cs) ← pair? (if cs.head? = some ':' then cs.drop 1 else cs)
  if minutes < 60 ∧ cs.isEmpty then
    let size : Int := (hours * 60 + minutes : Nat) * minuteMicros
    Offset.of? (if negative then -size else size)
  else none

/-- The offset at the end of a moment, which may be missing. -/
def zone? : List Char → Option (Option Offset)
  | [] => some none
  | [c] => if c = 'Z' ∨ c = 'z' then some (some .zero) else none
  | '+' :: cs => (offset? false cs).map some
  | '-' :: cs | '−' :: cs => (offset? true cs).map some
  | _ => none

/-- A date and what follows it. -/
def date? (cs : List Char) : Option (Date × List Char) := do
  let (year, cs) ← Iso.digits? 4 cs
  let (month, cs) ← Iso.digits? 2 (← Iso.hyphen? true cs)
  let (day, cs) ← Iso.digits? 2 (← Iso.hyphen? true cs)
  return (← Date.of? year month day, cs)

/-- What may stand between date and time. -/
def isSeparator (c : Char) : Bool := c == 'T' || c == 't' || c == ' ' || c == '_'

/-- A date with a time. -/
def dateTime? (cs : List Char) : Option Timestamp := do
  match ← date? cs with
  | (date, c :: cs) =>
    if isSeparator c then
      let (time, cs) ← time? cs
      return ⟨⟨date, time⟩, ← zone? cs⟩
    else none
  | _ => none

/-- A date alone, which means its midnight. -/
def midnight? (cs : List Char) : Option Timestamp :=
  match date? cs with
  | some (date, []) => some ⟨⟨date, .midnight⟩, none⟩
  | _ => none

/-- A moment in the form of the calendar. -/
def written? (cs : List Char) : Option Timestamp :=
  (dateTime? cs).orElse fun _ => midnight? cs

/-- Whether a moment of the year zero is written. It is a leap year, as 2000 is. -/
def isYearZero : List Char → Bool
  | '0' :: '0' :: '0' :: '0' :: cs => (written? ('2' :: '0' :: '0' :: '0' :: cs)).isSome
  | _ => false

/-- Reads the text of a moment. -/
def parse (s : String) : Except Trouble Timestamp :=
  let cs := s.toList
  match ofNumeral? cs, written? cs with
  | some moment, _ => moment
  | none, some t => .ok t
  | none, none => .error (if isYearZero cs then .yearZero else .unreadable)

/-! ## Writing -/

/-- The whole seconds of an offset. -/
def wholeSeconds (o : Offset) : Int :=
  signed (o.micros < 0) ((o.micros.natAbs + 500000) / 1000000)

/-- The text of an offset. -/
def zoneChars (o : Offset) : List Char :=
  let seconds := wholeSeconds o
  let size := seconds.natAbs
  if seconds = 0 then ['Z']
  else
    (if seconds < 0 then '-' else '+') ::
      (fixedWidth 2 (size / 3600) ++ ':' :: fixedWidth 2 (size % 3600 / 60))

/-- The text of a moment in a response. -/
def render (t : Timestamp) : String :=
  String.ofList (Iso.civilChars t.civil ++ ((t.offset.map zoneChars).getD []))

end FleetTracking.Api.Moment
