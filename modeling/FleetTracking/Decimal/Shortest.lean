/-!
# Shortest decimals

A double is decoded into `mantissa · 2 ^ exponent`, and the decimal with the fewest digits that
reads back as the same double is found in exact arithmetic.

## How it is found

The reals that round to the double form an interval, which holds its ends when the mantissa is
even. For one digit, two digits, and so on up to seventeen, the value lies between two
neighbours of the grid of decimals with that many digits. The first grid with a neighbour inside
the interval wins; of two such neighbours the nearer one is taken, and the even one of two
equally near.
-/

namespace FleetTracking.Decimal

/-! ## Decoding -/

/-- What the sixty-four bits of a double say. -/
inductive Binary
  | nan
  | infinite (negative : Bool)
  /-- `mantissa · 2 ^ exponent`, with a sign that zero has too. -/
  | finite (negative : Bool) (mantissa : Nat) (exponent : Int)
  deriving Repr, DecidableEq

/-- Splits the bits of a double into sign, exponent and fraction. -/
def Binary.ofBits (bits : Nat) : Binary :=
  let negative := bits / Nat.pow 2 63 % 2 == 1
  let biased : Nat := bits / Nat.pow 2 52 % Nat.pow 2 11
  let fraction := bits % Nat.pow 2 52
  if biased = 2047 then
    if fraction = 0 then .infinite negative else .nan
  else if biased = 0 then .finite negative fraction (-1074)
  else .finite negative (fraction + Nat.pow 2 52) ((biased : Int) - 1075)

/-- The decoded form of a double. -/
def Binary.ofFloat (x : Float) : Binary := .ofBits x.toBits.toNat

/-- The greatest integer that is not above a finite double. -/
def Binary.floor? : Binary → Option Int
  | finite negative mantissa exponent =>
    let signed : Int := if negative then -mantissa else mantissa
    some ((signed * Nat.pow 2 exponent.toNat) / Nat.pow 2 (-exponent).toNat)
  | _ => none

/-! ## The search -/

/-- The decimal `coefficient · 10 ^ exponent`. -/
structure Scaled where
  coefficient : Nat
  exponent : Int
  deriving Repr, DecidableEq

/-- The number of decimal digits, which is none for zero. -/
def digitCount (n : Nat) : Nat := if n = 0 then 0 else digitCount (n / 10) + 1
termination_by n
decreasing_by omega

/-- How many digits the positive quotient `num / den` has before its point, counted with a minus
sign when it has zeros behind the point: `10 ^ (k - 1) ≤ num / den < 10 ^ k`. -/
def magnitude (num den : Nat) : Int :=
  let estimate : Int := digitCount num - digitCount den
  -- the estimate is right or one too small
  if num * Nat.pow 10 (-estimate).toNat < den * Nat.pow 10 estimate.toNat then estimate else estimate + 1

example : magnitude 1 1000 = -2 := by cbv

/-- A value with the bounds of its interval, over one common denominator. -/
structure Interval where
  value : Nat
  low : Nat
  high : Nat
  denominator : Nat
  /-- The ends belong to the interval. -/
  closed : Bool

/-- The interval of the reals that round to `mantissa · 2 ^ exponent`: half the distance to the
next double on each side, which is smaller below a power of two. -/
def Interval.around (mantissa : Nat) (exponent : Int) : Interval :=
  let scale := Nat.pow 2 (exponent - 2).toNat
  let below := if mantissa = Nat.pow 2 52 ∧ exponent ≠ -1074 then 1 else 2
  { value := 4 * mantissa * scale
    low := (4 * mantissa - below) * scale
    high := (4 * mantissa + 2) * scale
    denominator := Nat.pow 2 (2 - exponent).toNat
    closed := mantissa % 2 == 0 }

/-- Whether `c · 10 ^ e` lies in the interval. -/
def Interval.holds (i : Interval) (c : Nat) (e : Int) : Bool :=
  let point := c * Nat.pow 10 e.toNat * i.denominator
  let low := i.low * Nat.pow 10 (-e).toNat
  let high := i.high * Nat.pow 10 (-e).toNat
  if i.closed then low ≤ point && point ≤ high else low < point && point < high

/-- The neighbour of the value on the grid of step `10 ^ e` that lies in its interval and is
nearest to it, if one does. -/
def Interval.onGrid? (i : Interval) (e : Int) : Option Nat :=
  let num := i.value * Nat.pow 10 (-e).toNat
  let den := i.denominator * Nat.pow 10 e.toNat
  let c := num / den
  let twice := 2 * (num % den)
  match i.holds c e, i.holds (c + 1) e with
  | true, true =>
    if twice < den then some c
    else if den < twice then some (c + 1)
    else some (if c % 2 = 0 then c else c + 1)
  | true, false => some c
  | false, true => some (c + 1)
  | false, false => none

/-- The decimal with the fewest digits that rounds to `mantissa · 2 ^ exponent`, for a positive
mantissa. -/
def shortest (mantissa : Nat) (exponent : Int) : Scaled :=
  let i := Interval.around mantissa exponent
  let k := magnitude i.value i.denominator
  let search := (List.range 17).findSome? fun (n : Nat) =>
    let e : Int := k - 1 - n
    (i.onGrid? e).map fun c => (⟨c, e⟩ : Scaled)
  search.getD
    ⟨i.value * Nat.pow 10 (17 - k).toNat / (i.denominator * Nat.pow 10 (k - 17).toNat), k - 17⟩

end FleetTracking.Decimal
