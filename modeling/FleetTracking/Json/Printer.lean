import FleetTracking.Decimal.Text
import FleetTracking.Json.Basic
import FleetTracking.Text.Surrogate

/-!
# JSON text, written

One blank follows each comma and each colon. Text is ASCII: every other character, a quote, a
backslash and a control character are escaped, those beyond the basic plane as two surrogates.
What stands for a lone surrogate is written as that.
-/

namespace FleetTracking.Json

/-! ## Strings -/

/-- A hexadecimal digit in lower case. -/
def hexDigit (d : Nat) : Char :=
  let d := d % 16
  if d < 10 then Char.ofNat (48 + d) else Char.ofNat (87 + d)

/-- The escape of one sixteen-bit unit. -/
def escapeUnit (u : Nat) : List Char :=
  ['\\', 'u', hexDigit (u / 4096), hexDigit (u / 256), hexDigit (u / 16), hexDigit u]

/-- One character of a string. -/
def escape (c : Char) : List Char :=
  if c = '"' then ['\\', '"']
  else if c = '\\' then ['\\', '\\']
  else if c = '\n' then ['\\', 'n']
  else if c = '\r' then ['\\', 'r']
  else if c = '\t' then ['\\', 't']
  else if c.toNat = 8 then ['\\', 'b']
  else if c.toNat = 12 then ['\\', 'f']
  else if 32 ≤ c.toNat ∧ c.toNat ≤ 126 then [c]
  else if c.toNat < 0x10000 then escapeUnit c.toNat
  else
    match Text.half? c with
    | some u => escapeUnit u
    | none =>
      let offset := c.toNat - 0x10000
      escapeUnit (0xD800 + offset / 0x400) ++ escapeUnit (0xDC00 + offset % 0x400)

/-- A string in quotes. -/
def quote (s : String) : List Char := '"' :: (s.toList.flatMap escape ++ ['"'])

/-! ## Values -/

mutual

/-- The characters of a value. -/
def chars : Json → List Char
  | null => "null".toList
  | bool true => "true".toList
  | bool false => "false".toList
  | int n => (toString n).toList
  | float x => (Decimal.Style.json.render x).toList
  | string s => quote s
  | array items => '[' :: (itemChars items ++ [']'])
  | object fields => '\x7b' :: (fieldChars fields ++ ['\x7d'])

/-- The items of an array with their commas. -/
def itemChars : List Json → List Char
  | [] => []
  | [v] => chars v
  | v :: vs => chars v ++ ',' :: ' ' :: itemChars vs

/-- The fields of an object with their commas. -/
def fieldChars : List (String × Json) → List Char
  | [] => []
  | [(name, v)] => quote name ++ ':' :: ' ' :: chars v
  | (name, v) :: fields => quote name ++ ':' :: ' ' :: (chars v ++ ',' :: ' ' :: fieldChars fields)

end

/-- The text of a value. -/
def render (v : Json) : String := String.ofList (chars v)

/-! ## What cannot be sent -/

mutual

/-- Whether a value holds an infinity or nan, which JSON has no numbers for. -/
def hasSpecial : Json → Bool
  | float x => !x.isFinite
  | array items => itemsHaveSpecial items
  | object fields => fieldsHaveSpecial fields
  | _ => false

/-- Whether an item holds an infinity or nan. -/
def itemsHaveSpecial : List Json → Bool
  | [] => false
  | v :: vs => hasSpecial v || itemsHaveSpecial vs

/-- Whether a field holds an infinity or nan. -/
def fieldsHaveSpecial : List (String × Json) → Bool
  | [] => false
  | (_, v) :: fields => hasSpecial v || fieldsHaveSpecial fields

end

mutual

/-- Whether a value holds a lone surrogate, which no bytes stand for. -/
def hasHalf : Json → Bool
  | string s => Text.hasHalf s
  | array items => itemsHaveHalf items
  | object fields => fieldsHaveHalf fields
  | _ => false

/-- Whether an item holds a lone surrogate. -/
def itemsHaveHalf : List Json → Bool
  | [] => false
  | v :: vs => hasHalf v || itemsHaveHalf vs

/-- Whether the name or the value of a field holds a lone surrogate. -/
def fieldsHaveHalf : List (String × Json) → Bool
  | [] => false
  | (name, v) :: fields => Text.hasHalf name || hasHalf v || fieldsHaveHalf fields

end

end FleetTracking.Json
