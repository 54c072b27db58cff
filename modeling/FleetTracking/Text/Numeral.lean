import FleetTracking.Decimal.Text
import FleetTracking.Text.Blank
import FleetTracking.Text.UnicodeDigit

/-!
# Numbers in text

Two readers of numbers and flags. The lenient one is for settings and requests: a whole number may
have zeros in front, a fraction of zeros and single underscores. The one for arguments of the
command line knows the digits of all scripts, and takes underscores between digits only.

Both read whole numbers of at most `longestNumeral` characters.
-/

namespace FleetTracking.Text

/-! ## Parts -/

/-- White space that is a separator or moves the cursor. -/
def isSpacing (c : Char) : Bool := isBlank c && !(0x1C ≤ c.toNat && c.toNat ≤ 0x1F)

/-- Drops the spacing at both ends. -/
def trimSpacing (cs : List Char) : List Char :=
  ((cs.dropWhile isSpacing).reverse.dropWhile isSpacing).reverse

/-- Whether each underscore stands between two digits. The flag tells whether a digit was read
last. -/
def areGrouped : Bool → List Char → Bool
  | _, [] => true
  | afterDigit, '_' :: cs => afterDigit && (cs.head?.map isDigit).getD false && areGrouped false cs
  | _, c :: cs => areGrouped (isDigit c) cs

/-- Removes underscores, which must stand between digits. -/
def ungroup? (cs : List Char) : Option (List Char) :=
  if areGrouped false cs then some (cs.filter (· != '_')) else none

/-- Gives a number its sign. -/
def signed (negative : Bool) (n : Nat) : Int := if negative then -(n : Int) else n

/-- How many characters a whole number may have. -/
def longestNumeral : Nat := 4300

/-! ## Lenient reading -/

/-- Why no whole number is read. -/
inductive NumeralTrouble
  | unreadable
  | tooLong
  deriving DecidableEq, Repr

/-- A whole number without zeros in front. -/
def plainInt (cs : List Char) : Except NumeralTrouble Int :=
  let (negative, digits) := match cs with
    | '-' :: digits => (true, digits)
    | digits => (false, digits)
  let run := digits.takeWhile isDigit
  if run.head? = some '0' then
    if digits.length = 1 then .ok 0 else .error .unreadable
  else if cs.length - digits.length + run.length > longestNumeral then .error .tooLong
  else
    match number? digits with
    | some n => .ok (signed negative n)
    | none => .error .unreadable

/-- Drops a fraction that has no digit but zero, and at least one. -/
def dropZeroFraction (cs : List Char) : List Char :=
  let zeros := (cs.reverse.takeWhile (· == '0')).length
  let whole := cs.take (cs.length - zeros - 1)
  if 0 < zeros && cs[cs.length - zeros - 1]? == some '.' then whole else cs

/-- What follows the zeros and underscores in front, of which the first is a zero; where nothing
follows, the last of them. -/
def dropZeros : List Char → List Char
  | '0' :: cs =>
    match cs.dropWhile fun c => c == '0' || c == '_' with
    | [] => (cs.getLast?.getD '0') :: []
    | rest => rest
  | cs => cs

/-- Whether underscores stand neither at an end nor side by side. -/
def areSingle (cs : List Char) : Bool :=
  cs.head? != some '_' && cs.getLast? != some '_' &&
    (cs.zip (cs.drop 1)).all fun (c, d) => c != '_' || d != '_'

/-- Removes underscores if they stand apart from each other. -/
def dropUnderscores (cs : List Char) : List Char :=
  if areSingle cs then cs.filter (· != '_') else cs

/-- Drops a plus sign that no minus sign follows. -/
def dropPlus : List Char → List Char
  | '+' :: cs => if cs.head? = some '-' then '+' :: cs else cs
  | cs => cs

/-- A whole number. -/
def lenientInt (cs : List Char) : Except NumeralTrouble Int :=
  plainInt (dropUnderscores (dropZeros (dropZeroFraction (dropPlus (trimSpacing cs)))))

/-- A number. -/
def lenientFloat? (cs : List Char) : Option Float :=
  (Decimal.float? (trimSpacing cs)).orElse fun _ => Decimal.float? (dropUnderscores cs)

/-- A flag. -/
def lenientFlag? (cs : List Char) : Option Bool :=
  let word := String.ofList (cs.map Char.toLower)
  if ["1", "t", "y", "on", "yes", "true"].contains word then some true
  else if ["0", "f", "n", "off", "no", "false"].contains word then some false
  else none

/-! ## Arguments -/

/-- A whole number of an argument. -/
def argumentInt? (s : String) : Option Int := do
  let (negative, cs) := Decimal.splitSign (asciiDigits (trimSpacing s.toList))
  let digits ← ungroup? cs
  if digits.length ≤ longestNumeral then return signed negative (← number? digits) else none

/-- A number of an argument. -/
def argumentFloat? (s : String) : Option Float :=
  (ungroup? (asciiDigits (trimSpacing s.toList))).bind Decimal.float?

end FleetTracking.Text
