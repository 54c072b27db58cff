/-!
# Punycode

A label is written in ASCII: its ASCII characters first, then, in increasing order, where the
others go. Each of them is a step from the one before, counted over all code points and all places
in the label, and written as a numeral with digits of base 36 whose thresholds move with the size
of the steps so far.

## Termination

* `reduceStep` divides its step by 35.
* `numeral` divides what is left by at least ten.
* `inserted` and `step?` drop characters of their text.
-/

namespace FleetTracking.Url.Punycode

/-! ## Digits -/

/-- The character of a digit: letters, then the ASCII digits. -/
def digitChar (d : Nat) : Char := if d < 26 then Char.ofNat (97 + d) else Char.ofNat (22 + d)

/-- The value of a digit. -/
def digitValue? (c : Char) : Option Nat :=
  if 'a' ≤ c ∧ c ≤ 'z' then some (c.toNat - 97)
  else if 'A' ≤ c ∧ c ≤ 'Z' then some (c.toNat - 65)
  else if '0' ≤ c ∧ c ≤ '9' then some (c.toNat - 22)
  else none

theorem digitValue?_digitChar {d : Nat} (h : d < 36) : digitValue? (digitChar d) = some d := by
  have hall : ∀ e ∈ List.range 36, digitValue? (digitChar e) = some e := by decide
  exact hall d (List.mem_range.mpr h)

/-! ## Thresholds -/

/-- The threshold of the digit with an index: a smaller digit ends the numeral. -/
def threshold (bias index : Nat) : Nat := max 1 (min 26 (36 * (index + 1) - bias))

theorem threshold_pos (bias index : Nat) : 0 < threshold bias index := by
  unfold threshold
  omega

theorem threshold_le (bias index : Nat) : threshold bias index ≤ 26 := by
  unfold threshold
  omega

/-- Divides a large step by 35 until it is small, and counts 36 for each division. -/
def reduceStep (step : Nat) : Nat × Nat :=
  if 455 < step then
    let (step, count) := reduceStep (step / 35)
    (step, count + 36)
  else (step, 0)
termination_by step
decreasing_by omega

/-- The bias behind a step, when so many characters are in place. -/
def nextBias (step placed : Nat) (isFirst : Bool) : Nat :=
  let halved := if isFirst then step / 700 else step / 2
  let (small, count) := reduceStep (halved + halved / placed)
  count + 36 * small / (small + 38)

/-! ## Writing -/

/-- The numeral of a step, from the digit with an index on. -/
def numeral (bias index step : Nat) : List Char :=
  let t := threshold bias index
  if step < t then [digitChar step]
  else digitChar (t + (step - t) % (36 - t)) :: numeral bias (index + 1) ((step - t) / (36 - t))
termination_by step
decreasing_by
  have := threshold_pos bias index
  have := threshold_le bias index
  calc (step - threshold bias index) / (36 - threshold bias index)
      ≤ step - threshold bias index := Nat.div_le_self _ _
    _ < step := by omega

/-- What has been written, the step since the last character, the bias, and how many characters
are in place. -/
structure Progress where
  written : List Char
  step : Nat
  bias : Nat
  placed : Nat

/-- Passes over one character of a label while those of one code are put in place. -/
def Progress.pass (ascii code : Nat) (p : Progress) (c : Char) : Progress :=
  if c.toNat < code then { p with step := p.step + 1 }
  else if c.toNat = code then
    { written := p.written ++ numeral p.bias 0 p.step
      step := 0
      bias := nextBias p.step (p.placed + 1) (p.placed == ascii)
      placed := p.placed + 1 }
  else p

/-- Puts the characters of all codes in place; `code` is the least one that may come next. -/
def Progress.run (label : List Char) (ascii : Nat) (p : Progress) (code : Nat) :
    List Nat → Progress
  | [] => p
  | next :: codes =>
    let p := { p with step := p.step + (next - code) * (p.placed + 1) }
    let p := label.foldl (Progress.pass ascii next) p
    Progress.run label ascii { p with step := p.step + 1 } (next + 1) codes

/-- Writes a label. -/
def encode (label : List Char) : List Char :=
  let ascii := label.filter fun c => c.toNat < 128
  let codes := ((label.map Char.toNat).filter (128 ≤ ·)).mergeSort.eraseDups
  let p : Progress := ⟨[], 0, 72, ascii.length⟩
  ascii ++ (if ascii.isEmpty then [] else ['-']) ++ (p.run label ascii.length 128 codes).written

/-! ## Reading -/

/-- The step that a numeral writes, from the digit with an index on, which counts `weight` times;
and what follows the numeral, which is shorter than the text. -/
def step? (bias index weight : Nat) :
    (cs : List Char) → Option (Nat × { rest : List Char // rest.length < cs.length })
  | [] => none
  | c :: cs =>
    match digitValue? c with
    | none => none
    | some d =>
      let t := threshold bias index
      if d < t then some (d * weight, ⟨cs, by simp⟩)
      else
        (step? bias (index + 1) (weight * (36 - t)) cs).map fun (step, rest) =>
          (d * weight + step, ⟨rest.1, by have := rest.2; simp; omega⟩)

/-- Puts the characters of the remaining numerals into a label. -/
def inserted (label : List Char) (code place bias : Nat) (isFirst : Bool) (cs : List Char) :
    Option (List Char) :=
  if cs.isEmpty then some label
  else
    match step? bias 0 1 cs with
    | none => none
    | some (step, rest) =>
      have := rest.2
      let place := place + step
      let size := label.length + 1
      let code := code + place / size
      let place := place % size
      if code < 0x110000 then
        inserted (label.take place ++ Char.ofNat code :: label.drop place) code (place + 1)
          (nextBias step size isFirst) false rest.1
      else none
termination_by cs.length

/-- Reads a label. -/
def decode? (cs : List Char) : Option (List Char) :=
  let numerals := (cs.reverse.takeWhile (· != '-')).reverse
  inserted (cs.take (cs.length - numerals.length - 1)) 128 0 72 true numerals

end FleetTracking.Url.Punycode
