/-!
# Decimal digits

Numbers written with the digits `0` to `9`, most significant first: a count of places that is
given (`fixedWidth`), or as many as the number needs (`numeral`), and back (`number?`).

Main statements: `length_fixedWidth` (a field has the width asked for) and
`number?_fixedWidth` (a number that fits its field is read back).
-/

namespace FleetTracking.Text

/-! ## One digit -/

/-- The character of a digit; digits from ten on wrap around. -/
def digitChar (d : Nat) : Char := Char.ofNat (48 + d % 10)

/-- The value of an ASCII digit. -/
def digitValue? (c : Char) : Option Nat :=
  if 48 ≤ c.toNat && c.toNat ≤ 57 then some (c.toNat - 48) else none

/-- An ASCII digit. -/
def isDigit (c : Char) : Bool := (digitValue? c).isSome

theorem digitValue?_digitChar (d : Nat) : digitValue? (digitChar d) = some (d % 10) := by
  have hall : ∀ e ∈ List.range 10, digitValue? (Char.ofNat (48 + e)) = some e := by decide
  exact hall (d % 10) (List.mem_range.mpr (Nat.mod_lt _ (by decide)))

/-! ## Reading -/

/-- Appends one digit to a number that is being read. -/
def pushDigit (n : Option Nat) (c : Char) : Option Nat :=
  match n, digitValue? c with
  | some n, some d => some (10 * n + d)
  | _, _ => none

/-- The number that a run of digits writes; nothing for an empty run or a foreign character. -/
def number? : List Char → Option Nat
  | [] => none
  | cs => cs.foldl pushDigit (some 0)

/-- The value of a hexadecimal digit. -/
def hexValue? (c : Char) : Option Nat :=
  if '0' ≤ c ∧ c ≤ '9' then some (c.toNat - 48)
  else if 'a' ≤ c ∧ c ≤ 'f' then some (c.toNat - 87)
  else if 'A' ≤ c ∧ c ≤ 'F' then some (c.toNat - 55)
  else none

/-! ## Writing -/

/-- The last `w` digits of a number, with leading zeros. -/
def fixedWidth : Nat → Nat → List Char
  | 0, _ => []
  | w + 1, n => fixedWidth w (n / 10) ++ [digitChar n]

/-- The digits of a number, without leading zeros. -/
def numeral (n : Nat) : List Char := Nat.toDigits 10 n

/-- The digits of a number, with leading zeros up to the given width. -/
def padded (w n : Nat) : List Char :=
  let digits := numeral n
  List.replicate (w - digits.length) '0' ++ digits

theorem length_fixedWidth (w n : Nat) : (fixedWidth w n).length = w := by
  induction w generalizing n with
  | zero => rfl
  | succ w ih => simp [fixedWidth, ih]

theorem foldl_pushDigit_fixedWidth (w n : Nat) :
    (fixedWidth w n).foldl pushDigit (some 0) = some (n % Nat.pow 10 w) := by
  induction w generalizing n with
  | zero =>
    show some 0 = some (n % 1)
    rw [Nat.mod_one]
  | succ w ih =>
    have hpow : Nat.pow 10 (w + 1) = 10 * Nat.pow 10 w := Nat.mul_comm _ _
    have h : n % Nat.pow 10 (w + 1) = 10 * (n / 10 % Nat.pow 10 w) + n % 10 := by
      rw [hpow, Nat.mod_mul]
      omega
    rw [h]
    simp only [fixedWidth, List.foldl_append, ih, List.foldl_cons, List.foldl_nil, pushDigit,
      digitValue?_digitChar]

/-- A number that fits its field is read back from it. -/
theorem number?_fixedWidth {w n : Nat} (hw : 0 < w) (hn : n < Nat.pow 10 w) :
    number? (fixedWidth w n) = some n := by
  have hne : fixedWidth w n ≠ [] := by
    intro h
    have := length_fixedWidth w n
    simp [h] at this
    omega
  have hfold := foldl_pushDigit_fixedWidth w n
  rw [Nat.mod_eq_of_lt hn] at hfold
  unfold number?
  split
  · contradiction
  · exact hfold

end FleetTracking.Text
