import FleetTracking.Json.Parser

/-!
# JSON text in the body of a message

A body is bytes, and its first bytes tell in which encoding they are: a null byte among them gives
away units of two or four bytes, of either order. A mark of the byte order may stand in front of
text in UTF-8.
-/

namespace FleetTracking.Json

open Text

/-- Why a body is not read. -/
inductive BodyTrouble
  /-- Its bytes are no text in the encoding that they seem to have. -/
  | notText
  | notJson (t : Trouble)
  deriving DecidableEq, Repr

/-- How many bytes a unit has, and whether the most significant one comes first; nothing for
UTF-8. -/
def unitSize? : List UInt8 → Option (Nat × Bool)
  | 0 :: b :: _ :: _ :: _ => some (if b = 0 then 4 else 2, true)
  | _ :: 0 :: c :: d :: _ => some (if c = 0 ∧ d = 0 then 4 else 2, false)
  | [0, _] => some (2, true)
  | [_, 0] => some (2, false)
  | _ => none

/-- The number that bytes write, the most significant one first. -/
def bigEndian (bytes : List UInt8) : Nat := bytes.foldl (fun n b => 256 * n + b.toNat) 0

/-- The units of so many bytes each; nothing if bytes are left over. The fuel is their number. -/
def units? (size : Nat) (bigFirst : Bool) : Nat → List UInt8 → Option (List Nat)
  | _, [] => some []
  | 0, _ => none
  | fuel + 1, bytes =>
    let unit := bytes.take size
    if unit.length < size then none
    else
      (units? size bigFirst fuel (bytes.drop size)).map
        (bigEndian (if bigFirst then unit else unit.reverse) :: ·)

/-- The characters of a body. -/
def bodyChars? (s : String) : Option (List Char) :=
  let bytes := s.toUTF8.toList
  match unitSize? bytes, s.toList with
  | some (size, bigFirst), _ => do
    let units ← units? size bigFirst bytes.length bytes
    if size = 2 then return textOfUnits units
    else if units.all (· < 0x110000) then return units.map unitChar
    else none
  | none, '\uFEFF' :: cs => some cs
  | none, cs => some cs

/-- The value of the body of a message. -/
def parseBody (s : String) : Except BodyTrouble Json :=
  match bodyChars? s with
  | some cs => (ofChars cs).mapError .notJson
  | none => .error .notText

end FleetTracking.Json
