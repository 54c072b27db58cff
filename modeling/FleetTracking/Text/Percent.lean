import FleetTracking.Text.Digit

/-!
# Percent encoding

In the parts of an address a percent sign with two hexadecimal digits stands for one byte of text
in UTF-8. When such text is read, a percent sign without digits stands for itself. When it is
written, the bytes of every character that is not safe are encoded.
-/

namespace FleetTracking.Text

/-- The bytes of a character. -/
def utf8 (c : Char) : List UInt8 := (String.singleton c).toUTF8.toList

/-! ## Reading -/

/-- The bytes that percent-encoded text stands for. -/
def percentBytes : List Char → List UInt8
  | '%' :: a :: b :: cs =>
    match hexValue? a, hexValue? b with
    | some a, some b => UInt8.ofNat (16 * a + b) :: percentBytes cs
    | _, _ => utf8 '%' ++ percentBytes (a :: b :: cs)
  | c :: cs => utf8 c ++ percentBytes cs
  | [] => []

/-- The text of bytes. Where they are not UTF-8, each one beyond ASCII becomes the replacement
character. -/
def textOfBytes (bytes : List UInt8) : String :=
  match String.fromUTF8? ⟨bytes.toArray⟩ with
  | some s => s
  | none => String.ofList (bytes.map fun b => if b < 128 then Char.ofNat b.toNat else '\uFFFD')

/-- Decodes percent-encoded text. -/
def percentDecode (cs : List Char) : String := textOfBytes (percentBytes cs)

/-! ## Writing -/

/-- A hexadecimal digit in upper case; digits from sixteen on wrap around. -/
def upperHexDigit (d : Nat) : Char :=
  if d % 16 < 10 then Char.ofNat (48 + d % 16) else Char.ofNat (55 + d % 16)

/-- A byte behind a percent sign. -/
def percentByte (b : UInt8) : List Char :=
  ['%', upperHexDigit (b.toNat / 16), upperHexDigit b.toNat]

/-- Encodes every character that is not safe. -/
def percentEncode (isSafe : Char → Bool) (cs : List Char) : List Char :=
  cs.flatMap fun c => if isSafe c then [c] else (utf8 c).flatMap percentByte

theorem hexValue?_upperHexDigit (d : Nat) : hexValue? (upperHexDigit d) = some (d % 16) := by
  have hall : ∀ e ∈ List.range 16,
      hexValue? (if e < 10 then Char.ofNat (48 + e) else Char.ofNat (55 + e)) = some e := by decide
  exact hall (d % 16) (List.mem_range.mpr (Nat.mod_lt _ (by decide)))

/-- An encoded byte is read back. -/
theorem percentBytes_percentByte (b : UInt8) (cs : List Char) :
    percentBytes (percentByte b ++ cs) = b :: percentBytes cs := by
  have hsum : 16 * (b.toNat / 16 % 16) + b.toNat % 16 = b.toNat := by
    have := b.toNat_lt
    omega
  simp [percentByte, percentBytes, hexValue?_upperHexDigit, hsum]

end FleetTracking.Text
