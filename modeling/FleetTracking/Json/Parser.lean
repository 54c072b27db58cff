import FleetTracking.Decimal.Text
import FleetTracking.Json.Basic
import FleetTracking.Text.Numeral
import FleetTracking.Text.Surrogate

/-!
# JSON text, read

Reading has two steps: text into tokens, tokens into a value. `NaN`, `Infinity` and `-Infinity`
are numbers here; control characters inside strings are not allowed; of two fields with one name
the later value stays in the earlier place.

## How tokens become a value

A stack holds the arrays and objects that are still open, and `Expected` says what may come next.
Each token changes only these two, so reading is a fold over the tokens. What is no token ends them
with its trouble (`Token.trouble`), which counts only if a token of its kind was expected.

## Termination

`stringBody` and `build` recur on their list. `tokens` drops at least one character a step.
-/

namespace FleetTracking.Json

open Decimal Text

/-! ## Trouble -/

/-- Why text is not read. -/
inductive Trouble
  | malformed
  /-- A whole number with more digits than are read. -/
  | longInteger
  /-- More arrays and objects inside each other than are read. -/
  | tooDeep
  deriving DecidableEq, Repr

/-- How many arrays and objects may be inside each other. -/
def deepest : Nat := 970

/-! ## Tokens -/

/-- The smallest parts of JSON text. -/
inductive Token
  | openArray | closeArray | openObject | closeObject | comma | colon
  | scalar (v : Json)
  /-- What follows is no token. -/
  | trouble (t : Trouble)

/-- The unit that four hexadecimal digits write. -/
def unit? (a b c d : Char) : Option Nat := do
  let a ← hexValue? a
  let b ← hexValue? b
  let c ← hexValue? c
  let d ← hexValue? d
  return ((a * 16 + b) * 16 + c) * 16 + d

/-- The character of a short escape. -/
def shortEscape? : Char → Option Char
  | '"' => some '"'
  | '\\' => some '\\'
  | '/' => some '/'
  | 'b' => some '\x08'
  | 'f' => some '\x0c'
  | 'n' => some '\n'
  | 'r' => some '\r'
  | 't' => some '\t'
  | _ => none

/-- Adds a character in front of what was read. -/
def consRead (c : Char) (r : Option (List Char × List Char)) : Option (List Char × List Char) :=
  r.map fun (body, rest) => (c :: body, rest)

/-- The unescaped body of a string, and what follows its closing quote. -/
def stringBody : List Char → Option (List Char × List Char)
  | [] => none
  | '"' :: cs => some ([], cs)
  | '\\' :: 'u' :: a :: b :: c :: d :: '\\' :: 'u' :: e :: f :: g :: h :: cs =>
    match unit? a b c d, unit? e f g h with
    | some u, some v =>
      if isHighSurrogate u && isLowSurrogate v then
        consRead (pairChar u v) (stringBody cs)
      else consRead (unitChar u) (stringBody ('\\' :: 'u' :: e :: f :: g :: h :: cs))
    | _, _ => none
  | '\\' :: 'u' :: a :: b :: c :: d :: cs =>
    match unit? a b c d with
    | some u => consRead (unitChar u) (stringBody cs)
    | none => none
  | '\\' :: c :: cs =>
    match shortEscape? c with
    | some e => consRead e (stringBody cs)
    | none => none
  | c :: cs => if c.toNat < 32 then none else consRead c (stringBody cs)

/-- A character that numbers and the named values are made of. -/
def isWordChar (c : Char) : Bool := c.isAlphanum || c == '+' || c == '-' || c == '.'

/-- Digits without a leading zero in front of others. -/
def isPlainNumeral : List Char → Bool
  | ['0'] => true
  | c :: cs => c != '0' && isDigit c && cs.all isDigit
  | [] => false

/-- A whole number. -/
def wholeNumber (negative : Bool) (digits : List Char) : Except Trouble Json :=
  if longestNumeral < digits.length then .error .longInteger
  else
    match Text.number? digits with
    | some n => .ok (int (signed negative n))
    | none => .error .malformed

/-- Whether an exponent part begins here. -/
def beginsExponent : List Char → Bool
  | e :: c :: cs =>
    (e == 'e' || e == 'E') &&
      (isDigit c || (c == '+' || c == '-') && (cs.head?.map isDigit).getD false)
  | _ => false

/-- A number: a whole one has neither point nor exponent part. Too many digits of a whole number are
noticed before what follows it. -/
def number (cs : List Char) : Except Trouble Json :=
  let (negative, cs) := match cs with
    | '-' :: cs => (true, cs)
    | cs => (false, cs)
  let whole := cs.takeWhile isDigit
  let rest := cs.dropWhile isDigit
  let (fraction, power) := splitFraction rest
  -- a point needs digits behind it
  let hasFraction := rest.head? == some '.' && !fraction.isEmpty
  let isFraction := hasFraction || beginsExponent rest
  let exponent := exponentPart? (if hasFraction then power else rest)
  if !isPlainNumeral whole then .error .malformed
  else if rest.isEmpty then wholeNumber negative whole
  else
    match Text.number? (whole ++ fraction), exponent with
    | some coefficient, some exponent =>
      .ok (float (ofScaled negative coefficient (exponent - fraction.length)))
    | _, _ => (if isFraction then .error .malformed else wholeNumber negative whole).bind
      fun _ => .error .malformed

/-- The value that a run of word characters writes. -/
def word (cs : List Char) : Except Trouble Json :=
  match String.ofList cs with
  | "null" => .ok null
  | "true" => .ok (bool true)
  | "false" => .ok (bool false)
  | "NaN" => .ok (float (0.0 / 0.0))
  | "Infinity" => .ok (float (1.0 / 0.0))
  | "-Infinity" => .ok (float (-1.0 / 0.0))
  | _ => number cs

/-- The token that is one character of punctuation. -/
def punctuation? : Char → Option Token
  | '[' => some .openArray
  | ']' => some .closeArray
  | '\x7b' => some .openObject
  | '\x7d' => some .closeObject
  | ',' => some .comma
  | ':' => some .colon
  | _ => none

/-- The blanks between tokens. -/
def isSpace (c : Char) : Bool := c == ' ' || c == '\t' || c == '\n' || c == '\r'

theorem length_stringBody {cs body rest : List Char} (h : stringBody cs = some (body, rest)) :
    rest.length < cs.length := by
  fun_induction stringBody cs generalizing body rest <;>
    simp_all [consRead] <;> grind

/-- The tokens of a text. -/
def tokens (cs : List Char) : List Token :=
  match cs with
  | [] => []
  | c :: cs =>
    if isSpace c then tokens cs
    else if c = '"' then
      match h : stringBody cs with
      | some (body, rest) =>
        have := length_stringBody h
        .scalar (string (String.ofList body)) :: tokens rest
      | none => [.trouble .malformed]
    else
      match punctuation? c with
      | some token => token :: tokens cs
      | none =>
        have := (List.dropWhile_sublist isWordChar (l := cs)).length_le
        match if isWordChar c then word (c :: cs.takeWhile isWordChar) else .error .malformed with
        | .ok v => .scalar v :: tokens (cs.dropWhile isWordChar)
        | .error t => [.trouble t]
termination_by cs.length

/-! ## Values -/

/-- An array or object that is still open, with what it holds so far. -/
inductive Open
  /-- Items, the last one first. -/
  | array (items : List Json)
  | object (fields : List (String × Json)) (name : String)

/-- What may come next. -/
inductive Expected
  | value
  /-- A value, or the end of an array that has no item yet. -/
  | firstItem
  | name (fields : List (String × Json))
  /-- A name, or the end of an object that has no field yet. -/
  | firstName
  | colon (fields : List (String × Json)) (name : String)
  /-- A value is complete: a comma, or the end of what encloses it. -/
  | next (v : Json)

/-- Whether a value may come next. -/
def Expected.isValue : Expected → Bool
  | value | firstItem => true
  | _ => false

/-- Reads tokens to their end. -/
def build : List Open → Expected → List Token → Except Trouble Json
  | [], .next v, [] => .ok v
  | _, _, [] => .error .malformed
  | stack, expected, token :: tokens =>
    match expected, token, stack with
    | .value, .scalar v, _ | .firstItem, .scalar v, _ => build stack (.next v) tokens
    | .value, .openArray, _ | .firstItem, .openArray, _ =>
      if stack.length < deepest then build (.array [] :: stack) .firstItem tokens
      else .error .tooDeep
    | .value, .openObject, _ | .firstItem, .openObject, _ =>
      if stack.length < deepest then build stack .firstName tokens else .error .tooDeep
    | .firstItem, .closeArray, .array items :: stack =>
      build stack (.next (array items.reverse)) tokens
    | .firstName, .closeObject, _ => build stack (.next (object [])) tokens
    | .firstName, .scalar (string name), _ => build stack (.colon [] name) tokens
    | .name fields, .scalar (string name), _ => build stack (.colon fields name) tokens
    | .colon fields name, .colon, _ => build (.object fields name :: stack) .value tokens
    | .next v, .comma, .array items :: stack => build (.array (v :: items) :: stack) .value tokens
    | .next v, .closeArray, .array items :: stack =>
      build stack (.next (array (v :: items).reverse)) tokens
    | .next v, .comma, .object fields name :: stack =>
      build stack (.name (insert name v fields)) tokens
    | .next v, .closeObject, .object fields name :: stack =>
      build stack (.next (object (insert name v fields))) tokens
    | expected, .trouble t, _ => .error (if expected.isValue then t else .malformed)
    | _, _, _ => .error .malformed

/-- The value of characters that are JSON. -/
def ofChars (cs : List Char) : Except Trouble Json := build [] .value (tokens cs)

/-- The value of a text that is JSON. -/
def parse (s : String) : Except Trouble Json := ofChars s.toList

/-- The value of a text, if it is JSON. -/
def parse? (s : String) : Option Json := (parse s).toOption

end FleetTracking.Json
