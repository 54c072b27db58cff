import FleetTracking.Text.Composed
import FleetTracking.Text.Lowercase
import FleetTracking.Text.Split
import FleetTracking.Url.Label.Direction
import FleetTracking.Url.Label.Permitted
import FleetTracking.Url.Punycode

/-!
# Labels of host names

A name with characters outside ASCII is made of labels with points between them. A label is
permitted if its text is composed, its hyphens stand apart, it begins with no mark, each of its
characters is permitted where it stands, and its directions do not clash. Such a label is written
as `xn--` with its punycode.
-/

namespace FleetTracking.Url.Label

open Text

/-! ## Characters in their places -/

/-- A mark that takes the vowel off the letter in front of it. -/
def isVowelKiller (c : Char) : Bool := markClass c == 9

/-- The nearest character that is no mark, if it is in the given runs. -/
def joins (bounds : Array Nat) (cs : List Char) : Bool :=
  ((cs.dropWhile fun c => direction c == .mark).head?.map fun c => inRuns bounds c.toNat).getD false

/-- A digit of the Arabic script in its western form. -/
def isArabicDigit (c : Char) : Bool := 0x660 ≤ c.toNat && c.toNat ≤ 0x669

/-- A digit of the Arabic script in its eastern form. -/
def isEasternDigit (c : Char) : Bool := 0x6F0 ≤ c.toNat && c.toNat ≤ 0x6F9

/-- Whether a character may stand between what is in front of it, nearest first, and what is behind
it. -/
def isPlaced (front : List Char) (c : Char) (behind : List Char) : Bool :=
  let isIn (bounds : Array Nat) (d : Option Char) : Bool := d.any fun d => inRuns bounds d.toNat
  if isPermitted c then true
  else if isArabicDigit c then !(front ++ behind).any isEasternDigit
  else if isEasternDigit c then !(front ++ behind).any isArabicDigit
  else
    match c.toNat with
    -- the joiners, which are not visible
    | 0x200C =>
      (front.head?.map isVowelKiller).getD false ||
        joins forwardJoiningBounds front && joins backwardJoiningBounds behind
    | 0x200D => (front.head?.map isVowelKiller).getD false
    -- the Catalan point
    | 0xB7 => front.head? == some 'l' && behind.head? == some 'l'
    | 0x375 => isIn greekBounds behind.head?
    | 0x5F3 | 0x5F4 => isIn hebrewBounds front.head?
    | 0x30FB => (front ++ behind).any fun d => inRuns eastAsianBounds d.toNat
    | _ => false

/-- Whether all characters may stand where they do, behind those in front of them. -/
def arePlaced (front : List Char) : List Char → Bool
  | [] => true
  | c :: cs => isPlaced front c cs && arePlaced (c :: front) cs

/-! ## Directions -/

/-- Whether the directions of a label go together. A label with something to be read from right to
left begins with a letter; it keeps to one direction and one kind of digits, and ends in a letter
or a digit, marks aside. -/
def agree (directions : List Direction) : Bool :=
  let last := (directions.reverse.dropWhile (· == .mark)).head?
  if !directions.any fun d => d == .rightward || d == .rightwardNumber then true
  else
    match directions.head? with
    | some .rightward =>
      !directions.contains .leftward &&
        (last == some .rightward || last == some .number || last == some .rightwardNumber) &&
        !(directions.contains .number && directions.contains .rightwardNumber)
    | _ => false

/-! ## Labels -/

/-- Hyphens stand neither at an end nor in both of the third and the fourth place. -/
def areHyphensApart (cs : List Char) : Bool :=
  cs.head? != some '-' && cs.getLast? != some '-' && (cs.drop 2).take 2 != ['-', '-']

/-- A label that a name may have. -/
def isValid (cs : List Char) : Bool :=
  !cs.isEmpty && composed cs == cs && areHyphensApart cs && !(cs.head?.map isMark).getD false &&
    arePlaced [] cs && agree (cs.map direction)

/-- What labels in punycode begin with. -/
def punycodeMark : List Char := "xn--".toList

/-- A label in ASCII that a name may have. -/
def isValidAscii (cs : List Char) : Bool :=
  if punycodeMark.isPrefixOf cs then
    let encoded := cs.drop punycodeMark.length
    encoded.getLast?.any (· != '-') && (Punycode.decode? encoded).any isValid
  else isValid cs

/-- The most characters that a written label may have. -/
def longest : Nat := 63

/-- The written form of a label. -/
def encode? (cs : List Char) : Option (List Char) :=
  let isAscii := cs.all fun c => c.toNat < 128
  let written := if isAscii then cs else punycodeMark ++ Punycode.encode cs
  if (if isAscii then isValidAscii cs else isValid cs) && written.length ≤ longest then some written
  else none

/-! ## Names -/

/-- The points between labels, of all scripts. -/
def isPoint (c : Char) : Bool := c == '.' || c == '\u3002' || c == '\uFF0E' || c == '\uFF61'

/-- The most characters that a written name may have, without a point at its end. -/
def longestName : Nat := 253

/-- The written form of a name. It may end with a point. -/
def encodeName? (cs : List Char) : Option (List Char) := do
  let labels := splitBy isPoint (lowercase cs)
  let isClosed := 1 < labels.length && labels.getLast? == some []
  let written ← (if isClosed then labels.dropLast else labels).mapM encode?
  let name := List.intercalate ['.'] written
  if name.length ≤ longestName then return name ++ (if isClosed then ['.'] else []) else none

end FleetTracking.Url.Label
