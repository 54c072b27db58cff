import FleetTracking.Calendar.Timestamp
import FleetTracking.Text.Digit

/-!
# Timestamps as text

Writing: `YYYY-MM-DDTHH:MM:SS`, six fraction digits only when they are not all zero, then the
offset, if there is one, as hours and minutes, with seconds and their fraction where it has any.

Reading accepts more: the date in extended or basic form or by its week, any one character as
separator, a time that stops after hours, minutes or seconds, any number of fraction digits (six
count), and an offset in the same forms as the time or as `Z`.

## Details of reading

* One ASCII character too many in front of an offset is passed over, and so is all that follows
  six fraction digits there.
* A null character ends the text where one such character, or what follows six fraction digits or
  `Z`, would be too much.
* An offset whose whole seconds are zero means universal time.
-/

namespace FleetTracking

open Text

/-! ## Writing -/

namespace Iso

/-- A fraction of a second with its point, left out when it is zero. -/
def fractionChars (micro : Nat) : List Char :=
  if micro = 0 then [] else '.' :: fixedWidth 6 micro

/-- Year, month and day. -/
def dateChars (d : Date) : List Char :=
  fixedWidth 4 d.year ++ '-' :: fixedWidth 2 d.month ++ '-' :: fixedWidth 2 d.day

/-- Hour, minute, second and fraction. -/
def timeChars (t : TimeOfDay) : List Char :=
  fixedWidth 2 t.hour ++ ':' :: fixedWidth 2 t.minute ++ ':' :: fixedWidth 2 t.second ++
    fractionChars t.micro

/-- Sign, hours and minutes of an offset, and its seconds where they are not zero. -/
def offsetChars (o : Offset) : List Char :=
  let size := o.micros.natAbs
  let seconds := size / 1000000 % 60
  let micro := size % 1000000
  (if o.micros < 0 then '-' else '+') ::
    (fixedWidth 2 (size / 3600000000) ++ ':' :: fixedWidth 2 (size / 60000000 % 60) ++
      (if seconds = 0 ∧ micro = 0 then []
       else ':' :: fixedWidth 2 seconds ++ fractionChars micro))

/-- Date and time. -/
def civilChars (c : Civil) : List Char := dateChars c.date ++ 'T' :: timeChars c.time

end Iso

/-- The text of a timestamp. -/
def Timestamp.iso (t : Timestamp) : String :=
  String.ofList (Iso.civilChars t.civil ++ ((t.offset.map Iso.offsetChars).getD []))

/-- The text of an instant, in universal time. -/
def Instant.iso (t : Instant) : String := t.timestamp.iso

/-! ## Reading a date -/

namespace Iso

/-- A number of exactly `n` digits, and what follows it. -/
def digits? (n : Nat) (cs : List Char) : Option (Nat × List Char) :=
  if n ≤ cs.length then (number? (cs.take n)).map fun value => (value, cs.drop n) else none

/-- Skips the hyphen that stands between the parts of a date in extended form. -/
def hyphen? (extended : Bool) (cs : List Char) : Option (List Char) :=
  match extended, cs with
  | true, '-' :: cs => some cs
  | true, _ => none
  | false, cs => some cs

/-- A date that fills its text. -/
def date? (cs : List Char) : Option Date := do
  let (year, cs) ← digits? 4 cs
  let extended := cs.head? == some '-'
  let cs := if extended then cs.drop 1 else cs
  match cs with
  | 'W' :: cs =>
    let (week, cs) ← digits? 2 cs
    if cs.isEmpty then Date.ofWeek? year week 1
    else
      let (day, cs) ← digits? 1 (← hyphen? extended cs)
      if cs.isEmpty then Date.ofWeek? year week day else none
  | cs =>
    let (month, cs) ← digits? 2 cs
    let (day, cs) ← digits? 2 (← hyphen? extended cs)
    if cs.isEmpty then Date.of? year month day else none

/-- How many characters the date in front takes. A week without a day ends before a separator
that looks like the next hyphen when two digits follow, and in basic form the digits behind the
week tell by their number whether one of them is the day. -/
def dateLength (cs : List Char) : Nat :=
  if cs.length = 7 then 7
  else if cs[4]? = some '-' then
    if cs[5]? = some 'W' then
      if cs[8]? = some '-' then
        if (cs[10]?.map isDigit).getD false then 8 else 10
      else 8
    else 10
  else if cs[4]? = some 'W' then
    let stop := 7 + ((cs.drop 7).takeWhile isDigit).length
    if stop < 9 then stop else if stop % 2 = 0 then 7 else 8
  else 8

/-! ## Reading a time -/

/-- What follows the pairs of digits of a time. -/
inductive Ending
  | complete
  /-- One more character. -/
  | stray
  | fraction (cs : List Char)

/-- The character that ends a text early. -/
def terminator : Char := '\x00'

/-- What one character behind the pairs is: the end, a stray if it is ASCII, else no time. -/
def lastOf? (c : Char) : Option Ending :=
  if c = terminator then some .complete
  else if c.toNat < 128 then some .stray
  else none

/-- Whether nothing follows, or nothing but what stands behind the end of the text. -/
def isOver (cs : List Char) : Bool := cs.isEmpty || cs.head? == some terminator

/-- Up to `n` pairs of digits. The first pair decides whether colons stand between them. -/
def pairs? : Nat → Option Bool → List Char → Option (List Nat × Ending)
  | 0, _, cs => some ([], .fraction cs)
  | n + 1, colons, a :: b :: cs =>
    match number? [a, b], cs with
    | none, _ => none
    | some v, [] => some ([v], .complete)
    | some v, [c] => (lastOf? c).map fun e => ([v], e)
    | some v, c :: cs =>
      let colons := colons.getD (c == ':')
      if colons && c == ':' then (pairs? n (some colons) cs).map fun (vs, e) => (v :: vs, e)
      else if c == '.' || c == ',' then some ([v], .fraction cs)
      else if colons then none
      else (pairs? n (some colons) (c :: cs)).map fun (vs, e) => (v :: vs, e)
  | _, _, _ => none

/-- Hour, minute, second and microsecond as written, not yet checked against the clock. -/
structure Reading where
  hour : Nat
  minute : Nat
  second : Nat
  micro : Nat

/-- The fields of a time, and whether characters are left over behind them. -/
def reading? (cs : List Char) : Option (Reading × Bool) := do
  let (values, ending) ← pairs? 3 none cs
  let field (i : Nat) : Nat := values[i]?.getD 0
  match ending with
  | .complete => return (⟨field 0, field 1, field 2, 0⟩, false)
  | .stray => return (⟨field 0, field 1, field 2, 0⟩, true)
  | .fraction cs =>
    let counted := cs.take 6
    let value ← number? counted
    let rest := (cs.drop 6).dropWhile isDigit
    return (⟨field 0, field 1, field 2, value * Nat.pow 10 (6 - counted.length)⟩, !isOver rest)

/-- An offset behind its sign. -/
def offset? (negative : Bool) (cs : List Char) : Option Offset := do
  let (r, leftOver) ← reading? cs
  if leftOver then none
  else
    let seconds := r.hour * 3600 + r.minute * 60 + r.second
    let size : Int := seconds * 1000000 + r.micro
    if seconds = 0 then some .zero else Offset.of? (if negative then -size else size)

/-- A character that begins an offset. -/
def beginsOffset (c : Char) : Bool := c == '+' || c == '-' || c == 'Z'

/-- A time with its offset, if it has one. -/
def time? (cs : List Char) : Option (TimeOfDay × Option Offset) := do
  let (r, leftOver) ← reading? (cs.takeWhile (!beginsOffset ·))
  let time := TimeOfDay.of? r.hour r.minute r.second r.micro
  match cs.dropWhile (!beginsOffset ·) with
  | [] => if leftOver then none else return (← time, none)
  | 'Z' :: cs => if isOver cs then return (← time, some .zero) else none
  | sign :: cs =>
    let offset ← offset? (sign == '-') cs
    return (← time, some offset)

end Iso

/-- Reads a timestamp. -/
def Timestamp.parse? (s : String) : Option Timestamp := do
  let cs := s.toList
  let n := Iso.dateLength cs
  let date ← Iso.date? (cs.take n)
  match cs.drop n with
  | [] => return ⟨⟨date, .midnight⟩, none⟩
  | _ :: cs =>
    let (time, offset) ← Iso.time? cs
    return ⟨⟨date, time⟩, offset⟩

end FleetTracking
