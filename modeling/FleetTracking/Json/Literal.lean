import FleetTracking.Decimal.Text
import FleetTracking.Json.Basic
import FleetTracking.Text.Printable
import FleetTracking.Text.Surrogate

/-!
# JSON values in messages

A message shows a value as a literal: `None`, `True` and `False`, strings in single quotes unless
they hold one and no double quote, characters that are not printable as escapes of two, four or
eight hexadecimal digits. Text on its own is shown without quotes (`display`).
-/

namespace FleetTracking.Json

open Text

/-! ## Strings -/

/-- The last `w` hexadecimal digits of a number. -/
def hexWidth : Nat → Nat → List Char
  | 0, _ => []
  | w + 1, n =>
    let d := n % 16
    hexWidth w (n / 16) ++ [if d < 10 then Char.ofNat (48 + d) else Char.ofNat (87 + d)]

/-- One character inside the given quotes. -/
def literalChar (mark c : Char) : List Char :=
  if c = mark ∨ c = '\\' then ['\\', c]
  else if c = '\n' then ['\\', 'n']
  else if c = '\r' then ['\\', 'r']
  else if c = '\t' then ['\\', 't']
  else if isPrintable c then [c]
  else if c.toNat < 0x100 then '\\' :: 'x' :: hexWidth 2 c.toNat
  else if c.toNat < 0x10000 then '\\' :: 'u' :: hexWidth 4 c.toNat
  else
    match half? c with
    | some u => '\\' :: 'u' :: hexWidth 4 u
    | none => '\\' :: 'U' :: hexWidth 8 c.toNat

/-- A string in quotes. -/
def literalString (s : String) : List Char :=
  let cs := s.toList
  let mark := if cs.contains '\'' && !cs.contains '"' then '"' else '\''
  mark :: (cs.flatMap (literalChar mark) ++ [mark])

/-! ## Values -/

mutual

/-- The characters of a literal. -/
def literalChars : Json → List Char
  | null => "None".toList
  | bool true => "True".toList
  | bool false => "False".toList
  | int n => (toString n).toList
  | float x => (Decimal.text x).toList
  | string s => literalString s
  | array items => '[' :: (literalItems items ++ [']'])
  | object fields => '\x7b' :: (literalFields fields ++ ['\x7d'])

/-- The items of an array with their commas. -/
def literalItems : List Json → List Char
  | [] => []
  | [v] => literalChars v
  | v :: vs => literalChars v ++ ',' :: ' ' :: literalItems vs

/-- The fields of an object with their commas. -/
def literalFields : List (String × Json) → List Char
  | [] => []
  | [(name, v)] => literalString name ++ ':' :: ' ' :: literalChars v
  | (name, v) :: fields =>
    literalString name ++ ':' :: ' ' :: (literalChars v ++ ',' :: ' ' :: literalFields fields)

end

/-- A value as a literal. -/
def literal (v : Json) : String := String.ofList (literalChars v)

/-- A value in running text, where a string needs no quotes. -/
def display : Json → String
  | string s => s
  | v => v.literal

end FleetTracking.Json
