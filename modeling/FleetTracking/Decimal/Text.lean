import FleetTracking.Decimal.Shortest
import FleetTracking.Text.Digit

/-!
# Doubles as text

Three ways between a double and its decimal text: the shortest text that reads back
(`Style.render`), a fixed number of places (`fixedPlaces`), and reading a decimal (`ofScaled`).
-/

namespace FleetTracking.Decimal

open Text

/-! ## Shortest text -/

/-- How the shortest digits of a double are laid out. -/
structure Style where
  /-- The least decimal exponent of the leading digit that is written without an exponent part. -/
  leastPositional : Int
  /-- The greatest such exponent. -/
  greatestPositional : Int
  /-- The least number of digits in the exponent part. -/
  exponentWidth : Nat
  nan : String
  infinity : String
  deriving Repr

/-- Messages: positional from `0.0001` to below `10 ^ 16`. -/
def Style.message : Style := ⟨-4, 15, 2, "nan", "inf"⟩

/-- JSON text: the same digits, other names for what JSON has no numbers for. -/
def Style.json : Style := { Style.message with nan := "NaN", infinity := "Infinity" }

/-- Digits with a point after the first `whole` of them; a whole number keeps one zero behind
its point. -/
def positional (digits : List Char) (whole : Int) : List Char :=
  if whole ≤ 0 then
    '0' :: '.' :: (List.replicate (-whole).toNat '0' ++ digits)
  else
    let n := whole.toNat
    let behind := digits.drop n
    digits.take n ++ List.replicate (n - digits.length) '0' ++
      '.' :: (if behind.isEmpty then ['0'] else behind)

/-- Digits with a point after the first one and an exponent part that always has a sign. -/
def scientific (width : Nat) (digits : List Char) (exponent : Int) : List Char :=
  let mantissa := match digits with
    | [] => []
    | [d] => [d]
    | d :: ds => d :: '.' :: ds
  mantissa ++ 'e' :: (if exponent < 0 then '-' else '+') :: padded width exponent.natAbs

/-- Drops the zeros at the end of a coefficient. -/
def stripZeros (digits : List Char) : List Char :=
  (digits.reverse.dropWhile (· == '0')).reverse

/-- The text of a finite magnitude. -/
def Style.magnitude (style : Style) (mantissa : Nat) (exponent : Int) : List Char :=
  if mantissa = 0 then positional ['0'] 1
  else
    let scaled := shortest mantissa exponent
    let digits := numeral scaled.coefficient
    -- the decimal exponent of the leading digit
    let leading : Int := scaled.exponent + digits.length - 1
    let digits := stripZeros digits
    if style.leastPositional ≤ leading ∧ leading ≤ style.greatestPositional then
      positional digits (leading + 1)
    else scientific style.exponentWidth digits leading

/-- The shortest text that reads back as the same double. -/
def Style.render (style : Style) (x : Float) : String :=
  match Binary.ofFloat x with
  | .nan => style.nan
  | .infinite negative => (if negative then "-" else "") ++ style.infinity
  | .finite negative mantissa exponent =>
    (if negative then "-" else "") ++ String.ofList (style.magnitude mantissa exponent)

/-- The text of a double in messages. -/
def text (x : Float) : String := Style.message.render x

/-! ## Fixed places -/

/-- The quotient `num / den` rounded to the nearest natural number, a half to the even one. -/
def roundHalfEven (num den : Nat) : Nat :=
  let q := num / den
  let twice := 2 * (num % den)
  if twice < den then q
  else if den < twice then q + 1
  else q + q % 2

/-- The exact value of a double rounded to a number of places, a half to the even neighbour; the
sign of a negative number stays even where only zeros are left. -/
def fixedPlaces (places : Nat) (x : Float) : String :=
  match Binary.ofFloat x with
  | .nan => "nan"
  | .infinite negative => (if negative then "-" else "") ++ "inf"
  | .finite negative mantissa exponent =>
    let units := roundHalfEven (mantissa * Nat.pow 2 exponent.toNat * Nat.pow 10 places)
      (Nat.pow 2 (-exponent).toNat)
    let digits := padded (places + 1) units
    let whole := digits.length - places
    (if negative then "-" else "") ++
      String.ofList (digits.take whole ++ (if places = 0 then [] else '.' :: digits.drop whole))

/-! ## Reading -/

/-- The double nearest to `± coefficient · 10 ^ exponent`. -/
def ofScaled (negative : Bool) (coefficient : Nat) (exponent : Int) : Float :=
  let leading : Int := exponent + digitCount coefficient
  let magnitude : Float :=
    if coefficient = 0 ∨ leading < -400 then 0.0
    -- beyond every finite double
    else if leading > 400 then 1.0 / 0.0
    else Float.ofScientific coefficient (exponent < 0) exponent.natAbs
  if negative then -magnitude else magnitude

/-- The double nearest to an integer. -/
def ofInt (n : Int) : Float := ofScaled (n < 0) n.natAbs 0

/-- Splits off the fraction part of a decimal: a point and the digits behind it. -/
def splitFraction : List Char → List Char × List Char
  | '.' :: cs => (cs.takeWhile isDigit, cs.dropWhile isDigit)
  | cs => ([], cs)

/-- The exponent part of a decimal, which must be all that is left; none means zero. -/
def exponentPart? : List Char → Option Int
  | [] => some 0
  | c :: cs =>
    if c = 'e' ∨ c = 'E' then
      match cs with
      | '-' :: ds => (number? ds).map fun n => -(n : Int)
      | '+' :: ds => (number? ds).map Int.ofNat
      | ds => (number? ds).map Int.ofNat
    else none

/-- An unsigned decimal: digits, a point and digits, an exponent part. At least one digit stands
before the exponent part. -/
def unsigned? (cs : List Char) : Option Scaled := do
  let whole := cs.takeWhile isDigit
  let (fraction, cs) := splitFraction (cs.dropWhile isDigit)
  let coefficient ← number? (whole ++ fraction)
  let exponent ← exponentPart? cs
  return ⟨coefficient, exponent - fraction.length⟩

/-- Reads a sign. -/
def splitSign : List Char → Bool × List Char
  | '-' :: cs => (true, cs)
  | '+' :: cs => (false, cs)
  | cs => (false, cs)

/-- The names of the doubles that are no numbers. -/
def special? (name : List Char) : Option Float :=
  match String.ofList (name.map Char.toLower) with
  | "inf" | "infinity" => some (1.0 / 0.0)
  | "nan" => some (0.0 / 0.0)
  | _ => none

/-- Reads a decimal with an optional sign, or the name of an infinity or of nan in any case. -/
def float? (cs : List Char) : Option Float :=
  let (negative, cs) := splitSign cs
  match unsigned? cs with
  | some s => some (ofScaled negative s.coefficient s.exponent)
  | none => (special? cs).map fun x => if negative then -x else x

end FleetTracking.Decimal
