/-!
# Surrogates

In units of sixteen bits, a character beyond the basic plane is a pair: a high and a low surrogate.
JSON text may name one half without the other. There is no character for that, so 2048 code points
of a plane that no script uses stand for the halves, and whatever writes text in units writes the
half again (`half?_loneHalf`).

## What the stand-ins cost

The code points from U+B5800 to U+B5FFF cannot be told from the halves for which they stand: where
text must not hold a half, such as in tables, they are refused as well. Text is compared by the
stand-ins too. So a half comes behind all characters of the planes before, though its number is less
than U+E000.
-/

namespace FleetTracking.Text

/-- The first half of a pair. -/
def isHighSurrogate (u : Nat) : Bool := 0xD800 ≤ u && u < 0xDC00

/-- The second half of a pair. -/
def isLowSurrogate (u : Nat) : Bool := 0xDC00 ≤ u && u < 0xE000

/-- The character of a pair. -/
def pairChar (high low : Nat) : Char :=
  Char.ofNat (0x10000 + (high - 0xD800) * 0x400 + (low - 0xDC00))

/-- How far the characters that stand for halves are from them. -/
def halfDistance : Nat := 0xA8000

/-- The character that stands for a half. -/
def loneHalf (u : Nat) : Char := Char.ofNat (u + halfDistance)

/-- The half that a character stands for. -/
def half? (c : Char) : Option Nat :=
  if 0xD800 + halfDistance ≤ c.toNat ∧ c.toNat < 0xE000 + halfDistance then
    some (c.toNat - halfDistance)
  else none

/-- The character of a unit that is no part of a pair. -/
def unitChar (u : Nat) : Char :=
  if isHighSurrogate u || isLowSurrogate u then loneHalf u else Char.ofNat u

/-- Whether text holds a half without the other. -/
def hasHalf (s : String) : Bool := s.toList.any fun c => (half? c).isSome

/-- The text of units. -/
def textOfUnits : List Nat → List Char
  | high :: low :: us =>
    if isHighSurrogate high && isLowSurrogate low then pairChar high low :: textOfUnits us
    else unitChar high :: textOfUnits (low :: us)
  | [u] => [unitChar u]
  | [] => []

theorem half?_loneHalf {u : Nat} (h₁ : 0xD800 ≤ u) (h₂ : u < 0xE000) :
    half? (loneHalf u) = some u := by
  have hvalid : (u + halfDistance).isValidChar := Or.inr (by unfold halfDistance; omega)
  have htoNat : (loneHalf u).toNat = u + halfDistance := by
    unfold loneHalf Char.ofNat
    rw [dif_pos hvalid]
    rfl
  simp [half?, htoNat, h₁, h₂]

end FleetTracking.Text
