import FleetTracking.Proofs.Seconds

/-!
# Rounding keeps bounds

What a sum, a difference or a product of doubles comes to lies between the same bounds as the exact
result, if the bounds are doubles themselves (`Rounds`). Above a bound with all its bits there is
half a unit to spare: an exact result that is nearer to the bound than to the next double is rounded
down to it.

Bounds are rational numbers (`magnitude`). The mantissa of a result is the exact one without its
last bits, or one more than that, and no more if the first of these bits is zero
(`roundedMantissa_bounds`); that is all that has to be known of the rounding.
-/

namespace FleetTracking

namespace Double

open Float.Model UnpackedFloat

/-! ## Magnitudes -/

/-- The absolute value of a finite number. -/
def magnitude : UnpackedFloat → ℚ
  | .finite _ m e _ => m * 2 ^ e
  | _ => 0

theorem zpow_add_nat (e : ℤ) (n : ℕ) : (2 : ℚ) ^ (e + n) = 2 ^ n * 2 ^ e := by
  rw [zpow_add₀ two_ne_zero, zpow_natCast, mul_comm]

/-- Multiples of powers of two are compared at the lesser power. -/
theorem mul_zpow_le_iff {a b : ℕ} {e j : ℤ} {n : ℕ} (h : j = e + n) :
    ((a : ℚ) * 2 ^ j ≤ b * 2 ^ e ↔ a * 2 ^ n ≤ b) ∧
      ((a : ℚ) * 2 ^ e ≤ b * 2 ^ j ↔ a ≤ b * 2 ^ n) := by
  rw [h, zpow_add_nat, ← mul_assoc, ← mul_assoc, mul_le_mul_iff_left₀ (zpow_pos two_pos e),
    mul_le_mul_iff_left₀ (zpow_pos two_pos e)]
  constructor <;> exact_mod_cast Iff.rfl

/-- Numbers of so many bits with the exponent that the format gives them, and zero. -/
inductive IsCanonical : UnpackedFloat → Prop
  | zero (s) : IsCanonical (.zero s)
  | finite {s m e h} (bits : m < 2 ^ 53) (least : -1074 ≤ e) (full : 2 ^ 52 ≤ m ∨ e = -1074) :
    IsCanonical (.finite s m e h)

/-- A number of this sign, if it is zero or not. -/
def HasSign (s : Sign) (x : UnpackedFloat) : Prop := x = .zero s ∨ ∃ m e h, x = .finite s m e h

/-- `x` is what a number with sign `s` and absolute value `v` is rounded to: bounds that are doubles
are kept, the upper ones with half a unit to spare. -/
structure Rounds (s : Sign) (v : ℚ) (x : UnpackedFloat) : Prop where
  sign : HasSign s x
  canonical : IsCanonical x
  le : ∀ {k : ℕ} {j : ℤ}, 2 ^ 52 ≤ k → k < 2 ^ 53 → -1074 ≤ j →
    2 * v < (2 * k + 1) * 2 ^ j → magnitude x ≤ k * 2 ^ j
  ge : ∀ {k : ℕ} {j : ℤ}, k < 2 ^ 53 → -1074 ≤ j → k * 2 ^ j ≤ v → k * 2 ^ j ≤ magnitude x

/-- A double that is no less than a number is no less than what it is rounded to. -/
theorem Rounds.magnitude_le {s : Sign} {v : ℚ} {x : UnpackedFloat} (h : Rounds s v x) {k : ℕ}
    {j : ℤ} (hk : 2 ^ 52 ≤ k) (hk' : k < 2 ^ 53) (hj : -1074 ≤ j) (hv : v ≤ k * 2 ^ j) :
    magnitude x ≤ k * 2 ^ j := by
  have hpow : (0 : ℚ) < 2 ^ j := zpow_pos two_pos j
  exact h.le hk hk' hj (by linarith)

/-! ## The rounded mantissa -/

theorem roundBit_shiftRight (m k : ℕ) :
    (ExtendedMantissa.ofMantissaAndAccuracy m .exact >>> (k + 1)).roundBit =
      (m / 2 ^ k % 2 != 0) := by
  show (ExtendedMantissa.ofMantissaAndAccuracy m .exact >>> k).shiftRightOne.roundBit = _
  simp only [ExtendedMantissa.shiftRightOne, mantissa_shiftRight, mantissa_ofMantissaAndAccuracy]

theorem roundedMantissa_le (em : ExtendedMantissa) :
    em.roundedMantissa ≤ em.mantissa + if em.roundBit then 1 else 0 := by
  obtain ⟨m, roundBit, stickyBit⟩ := em
  cases roundBit <;> cases stickyBit <;>
    simp [ExtendedMantissa.roundedMantissa, ExtendedMantissa.accuracy,
      Accuracy.roundToNearestEven]
  omega

/-- A mantissa that loses its last bits is none that is less without them, and none that is further
away than half a unit. -/
theorem roundedMantissa_bounds (m n : ℕ) :
    m / 2 ^ n ≤ (ExtendedMantissa.ofMantissaAndAccuracy m .exact >>> n).roundedMantissa ∧
      2 * (ExtendedMantissa.ofMantissaAndAccuracy m .exact >>> n).roundedMantissa * 2 ^ n ≤
        2 * m + 2 ^ n := by
  have hmantissa : (ExtendedMantissa.ofMantissaAndAccuracy m .exact >>> n).mantissa = m / 2 ^ n := by
    rw [mantissa_shiftRight, mantissa_ofMantissaAndAccuracy]
  have hlow := le_roundToNearestEven (m / 2 ^ n)
    (ExtendedMantissa.ofMantissaAndAccuracy m .exact >>> n).accuracy
  rw [← hmantissa] at hlow
  refine ⟨hmantissa ▸ hlow, ?_⟩
  cases n with
  | zero =>
    show 2 * m * 2 ^ 0 ≤ 2 * m + 2 ^ 0
    omega
  | succ n =>
    have hhigh := roundedMantissa_le (ExtendedMantissa.ofMantissaAndAccuracy m .exact >>> (n + 1))
    rw [hmantissa, roundBit_shiftRight, Nat.pow_succ, ← Nat.div_div_eq_div_mul] at hhigh
    generalize (ExtendedMantissa.ofMantissaAndAccuracy m .exact >>> (n + 1)).roundedMantissa = r at *
    -- twice the result is at most the mantissa without one bit less, and one more
    have hhalf : 2 * r ≤ m / 2 ^ n + 1 := by
      obtain hbit | hbit := Nat.mod_two_eq_zero_or_one (m / 2 ^ n)
      · rw [hbit] at hhigh
        change r ≤ _ + 0 at hhigh
        omega
      · rw [hbit] at hhigh
        change r ≤ _ + 1 at hhigh
        omega
    calc 2 * r * 2 ^ (n + 1) ≤ (m / 2 ^ n + 1) * 2 ^ (n + 1) := Nat.mul_le_mul_right _ hhalf
      _ = 2 * (m / 2 ^ n * 2 ^ n) + 2 ^ (n + 1) := by ring
      _ ≤ 2 * m + 2 ^ (n + 1) := by
        have := Nat.div_mul_le_self m (2 ^ n)
        omega

/-! ## Rounding -/

/-- What a mantissa of no more bits than the format, or one more, comes to at an exponent of the
format: the same number. -/
theorem shift_rounded {r : ℕ} (hr : r ≤ 2 ^ 53) {t : ℤ} (ht : -1074 ≤ t)
    (hfull : 2 ^ 52 ≤ r ∨ t = -1074) :
    ((shiftToTargetExponent .binary64 r t .exact).1.mantissa : ℚ) *
        2 ^ (shiftToTargetExponent .binary64 r t .exact).2 = r * 2 ^ t ∧
      (shiftToTargetExponent .binary64 r t .exact).1.mantissa < 2 ^ 53 ∧
      -1074 ≤ (shiftToTargetExponent .binary64 r t .exact).2 ∧
      (2 ^ 52 ≤ (shiftToTargetExponent .binary64 r t .exact).1.mantissa ∨
        (shiftToTargetExponent .binary64 r t .exact).2 = -1074) := by
  unfold shiftToTargetExponent shiftToExponent
  dsimp only
  rw [mantissa_shiftRight, mantissa_ofMantissaAndAccuracy, targetExponent_eq, totalExponent]
  obtain hr | rfl := Nat.lt_or_eq_of_le hr
  · have hbits : r.log2 ≤ 52 := by
      by_cases hzero : r = 0
      · rw [hzero]
        decide
      · have := (Nat.log2_lt hzero).mpr hr
        omega
    have hshift : (max ((r.log2 : ℤ) + 1 + t - 53) (-1074) - t).toNat = 0 := by omega
    rw [hshift]
    rw [pow_zero, Nat.div_one, Nat.cast_zero, add_zero]
    exact ⟨rfl, hr, ht, hfull⟩
  · have hshift : (max (((2 ^ 53 : ℕ).log2 : ℤ) + 1 + t - 53) (-1074) - t).toNat = 1 := by
      rw [Nat.log2_two_pow]
      omega
    rw [hshift]
    refine ⟨?_, by decide, by omega, .inl (by decide)⟩
    rw [zpow_add_nat]
    norm_num
    ring

/-- The mantissa `m` at exponent `e` loses `n` bits, which are as many as the format demands, and is
rounded to `r` at exponent `t`. -/
structure IsShift (m : ℕ) (e : ℤ) (n r : ℕ) (t : ℤ) : Prop where
  exponent : t = e + n
  least : -1074 ≤ t
  bits : m < 2 ^ (53 + n)
  full : 2 ^ (52 + n) ≤ m ∨ t = -1074
  low : m / 2 ^ n ≤ r
  high : 2 * r * 2 ^ n ≤ 2 * m + 2 ^ n

namespace IsShift

variable {m n r k : ℕ} {e t j : ℤ} (h : IsShift m e n r t)

include h

theorem le_bits : r ≤ 2 ^ 53 := by
  have hbits := h.bits
  have hhigh := h.high
  rw [Nat.pow_add] at hbits
  have hpos := Nat.two_pow_pos n
  by_contra hr
  have : (2 ^ 53 + 1) * 2 ^ n ≤ r * 2 ^ n := Nat.mul_le_mul_right _ (by omega)
  have hassoc : 2 * r * 2 ^ n = 2 * (r * 2 ^ n) := Nat.mul_assoc ..
  omega

theorem full_rounded : 2 ^ 52 ≤ r ∨ t = -1074 := by
  obtain hfull | ht := h.full
  · left
    refine Nat.le_trans ((Nat.le_div_iff_mul_le (Nat.two_pow_pos n)).mpr ?_) h.low
    rw [← Nat.pow_add]
    exact hfull
  · exact .inr ht

/-- An upper bound is kept, and half a unit above it there is nothing else that is nearer. -/
theorem keeps_le (hk : 2 ^ 52 ≤ k) (hk' : k < 2 ^ 53) (hj : -1074 ≤ j)
    (hv : 2 * ((m : ℚ) * 2 ^ e) < (2 * k + 1) * 2 ^ j) : (r : ℚ) * 2 ^ t ≤ k * 2 ^ j := by
  have hv : ¬((2 * k + 1 : ℕ) : ℚ) * 2 ^ j ≤ (2 * m : ℕ) * 2 ^ e := by
    push_cast
    rw [mul_assoc, not_le]
    exact hv
  obtain hle | hlt := le_or_gt t j
  · obtain ⟨d, rfl⟩ := Int.le.dest hle
    have hdist : t + (d : ℤ) = e + (d + n : ℕ) := by
      rw [h.exponent]
      push_cast
      ring
    rw [(mul_zpow_le_iff hdist).1, Nat.pow_add, ← Nat.mul_assoc, not_le] at hv
    rw [(mul_zpow_le_iff rfl).2]
    cases d with
    | zero =>
      have hhigh := h.high
      have hpos := Nat.two_pow_pos n
      have hunits : r * 2 ^ n < (k + 1) * 2 ^ n := by
        rw [Nat.mul_assoc] at hhigh
        rw [Nat.pow_zero, Nat.mul_one, Nat.add_mul, Nat.mul_assoc] at hv
        rw [Nat.add_mul]
        omega
      have := Nat.lt_of_mul_lt_mul_right hunits
      omega
    | succ d =>
      calc r ≤ 2 ^ 52 * 2 := h.le_bits
        _ ≤ k * 2 ^ (d + 1) := Nat.mul_le_mul hk (Nat.le_self_pow (Nat.succ_ne_zero d) 2)
  · -- the bound has less bits than the mantissa
    obtain ⟨d, hd⟩ := Int.lt.dest hlt
    have hfull := h.full.resolve_right (by omega)
    have hmantissa : ((2 ^ 53 : ℕ) : ℚ) * 2 ^ t ≤ (2 * m : ℕ) * 2 ^ e := by
      rw [(mul_zpow_le_iff h.exponent).1, ← Nat.pow_add, show 53 + n = 52 + n + 1 by omega,
        Nat.pow_succ]
      omega
    have hbound : ((2 * k + 1 : ℕ) : ℚ) * 2 ^ j ≤ (2 ^ 53 : ℕ) * 2 ^ t := by
      rw [(mul_zpow_le_iff hd.symm).2, Nat.pow_succ]
      have := Nat.two_pow_pos d
      omega
    exact absurd (hbound.trans hmantissa) hv

/-- A lower bound is kept. -/
theorem keeps_ge (hk : k < 2 ^ 53) (hj : -1074 ≤ j) (hv : (k : ℚ) * 2 ^ j ≤ m * 2 ^ e) :
    (k : ℚ) * 2 ^ j ≤ r * 2 ^ t := by
  obtain hle | hlt := le_or_gt t j
  · obtain ⟨d, rfl⟩ := Int.le.dest hle
    have hdist : t + (d : ℤ) = e + (d + n : ℕ) := by
      rw [h.exponent]
      push_cast
      ring
    rw [(mul_zpow_le_iff hdist).1, Nat.pow_add, ← Nat.mul_assoc] at hv
    rw [(mul_zpow_le_iff rfl).1]
    exact Nat.le_trans ((Nat.le_div_iff_mul_le (Nat.two_pow_pos n)).mpr hv) h.low
  · -- the bound has less bits than the result
    obtain ⟨d, hd⟩ := Int.lt.dest hlt
    have hfull := h.full_rounded.resolve_right (by omega)
    rw [(mul_zpow_le_iff hd.symm).2]
    calc k ≤ 2 ^ 52 * 2 := Nat.le_of_lt hk
      _ ≤ r * 2 ^ (d + 1) := Nat.mul_le_mul hfull (Nat.le_self_pow (Nat.succ_ne_zero d) 2)

end IsShift

/-- Rounding is a shift. -/
theorem exists_isShift {m : ℕ} (hm : 0 < m) {e : ℤ}
    (he : e ≤ Format.binary64.targetExponent (totalExponent m e)) (s : Sign) :
    ∃ n r t, IsShift m e n r t ∧ HasSign s (roundWithAccuracy .binary64 s m e .exact) ∧
      IsCanonical (roundWithAccuracy .binary64 s m e .exact) ∧
      magnitude (roundWithAccuracy .binary64 s m e .exact) = r * 2 ^ t := by
  have hlow := Nat.log2_self_le (Nat.ne_of_gt hm)
  have hhigh := Nat.lt_log2_self (n := m)
  unfold roundWithAccuracy
  rw [targetExponent_eq, totalExponent] at he
  have hfirst : shiftToTargetExponent .binary64 m e .exact =
      (ExtendedMantissa.ofMantissaAndAccuracy m .exact >>>
        (max ((m.log2 : ℤ) + 1 + e - 53) (-1074) - e).toNat,
        e + (max ((m.log2 : ℤ) + 1 + e - 53) (-1074) - e).toNat) := rfl
  rw [hfirst]
  generalize hn : (max ((m.log2 : ℤ) + 1 + e - 53) (-1074) - e).toNat = n
  dsimp only
  obtain ⟨hfloor, hhalf⟩ := roundedMantissa_bounds m n
  generalize (ExtendedMantissa.ofMantissaAndAccuracy m .exact >>> n).roundedMantissa = r at *
  have hshift : IsShift m e n r (e + n) := by
    refine ⟨rfl, by omega, ?_, ?_, hfloor, hhalf⟩
    · exact Nat.lt_of_lt_of_le hhigh (Nat.pow_le_pow_right (by decide) (by omega))
    · by_cases hbits : -1074 < (m.log2 : ℤ) + 1 + e - 53
      · exact .inl (Nat.le_trans (Nat.pow_le_pow_right (by decide) (by omega)) hlow)
      · exact .inr (by omega)
  obtain ⟨hvalue, hbits, hleast, hfull⟩ :=
    shift_rounded hshift.le_bits hshift.least hshift.full_rounded
  refine ⟨n, r, e + n, hshift, ?_⟩
  split
  · rename_i hzero
    rw [hzero, Nat.cast_zero, zero_mul] at hvalue
    exact ⟨.inl rfl, .zero s, hvalue⟩
  · exact ⟨.inr ⟨_, _, _, rfl⟩, .finite hbits hleast hfull, hvalue⟩

/-- A number whose exponent is none above the one that the format gives it keeps bounds when it is
rounded. -/
theorem rounds_roundWithAccuracy {m : ℕ} (hm : 0 < m) {e : ℤ}
    (he : e ≤ Format.binary64.targetExponent (totalExponent m e)) (s : Sign) :
    Rounds s (m * 2 ^ e) (roundWithAccuracy .binary64 s m e .exact) := by
  obtain ⟨n, r, t, hshift, hsign, hcanonical, hmagnitude⟩ := exists_isShift hm he s
  refine ⟨hsign, hcanonical, ?_, ?_⟩
  · rw [hmagnitude]
    exact fun hk hk' hj hv => hshift.keeps_le hk hk' hj hv
  · rw [hmagnitude]
    exact fun hk hj hv => hshift.keeps_ge hk hj hv

/-- Numbers of the format are rounded to themselves. -/
theorem IsCanonical.rounds {s : Sign} {x : UnpackedFloat} (hx : IsCanonical x)
    (hs : HasSign s x) : Rounds s (magnitude x) x := by
  refine ⟨hs, hx, ?_, fun _ _ h => h⟩
  cases hx with
  | zero s => exact fun {k j} _ _ _ _ => mul_nonneg k.cast_nonneg (zpow_nonneg two_pos.le j)
  | @finite s m e h bits least full =>
    have hshift : IsShift m e 0 m e :=
      ⟨(add_zero e).symm, least, bits, full, (Nat.div_one m).le, by omega⟩
    exact fun {k j} hk hk' hj hv => hshift.keeps_le hk hk' hj hv

/-! ## Sums, differences and products -/

/-- A finite number with its sign. -/
def signed : UnpackedFloat → ℚ
  | .finite s m e _ => s.apply m * 2 ^ e
  | _ => 0

theorem abs_signed (x : UnpackedFloat) : |signed x| = magnitude x := by
  cases x with
  | finite s m e h =>
    have hpos : (0 : ℚ) ≤ m * 2 ^ e := mul_nonneg m.cast_nonneg (zpow_nonneg two_pos.le e)
    cases s with
    | negative =>
      simp only [signed, magnitude, Sign.apply, Int.cast_neg, Int.cast_natCast, neg_mul, abs_neg]
      exact abs_of_nonneg hpos
    | positive => exact abs_of_nonneg hpos
  | _ => exact abs_zero

/-- Shifting the mantissa to a lesser exponent changes nothing. -/
theorem decreaseExponent_eq (m : ℕ) {e t : ℤ} (h : t ≤ e) :
    (decreaseExponent m e t).2 = t ∧ ((decreaseExponent m e t).1 : ℚ) * 2 ^ t = m * 2 ^ e := by
  obtain ⟨d, rfl⟩ := Int.le.dest h
  unfold decreaseExponent
  have hshift : (t + (d : ℤ) - t).toNat = d := by omega
  simp only [hshift]
  refine ⟨by omega, ?_⟩
  rw [Nat.shiftLeft_eq, zpow_add_nat]
  push_cast
  ring

theorem log2_shiftLeft {m : ℕ} (hm : 0 < m) (a : ℕ) : (m <<< a).log2 = m.log2 + a := by
  rw [Nat.shiftLeft_eq, Nat.log2_eq_iff (Nat.ne_of_gt (Nat.mul_pos hm (Nat.two_pow_pos a)))]
  constructor
  · rw [Nat.pow_add]
    exact Nat.mul_le_mul_right _ (Nat.log2_self_le (Nat.ne_of_gt hm))
  · rw [show m.log2 + a + 1 = m.log2 + 1 + a by omega, Nat.pow_add]
    exact Nat.mul_lt_mul_of_pos_right Nat.lt_log2_self (Nat.two_pow_pos a)

/-- A number keeps bounds when it is rounded, whatever its exponent is. -/
theorem rounds_round {m : ℕ} (hm : 0 < m) (e : ℤ) (s : Sign) :
    Rounds s (m * 2 ^ e) (UnpackedFloat.round .binary64 s m e) := by
  unfold UnpackedFloat.round decreaseExponent
  dsimp only
  generalize ha : (e - Format.binary64.targetExponent (totalExponent m e)).toNat = a
  have htotal : totalExponent (m <<< a) (e - a) = totalExponent m e := by
    rw [totalExponent, totalExponent, log2_shiftLeft hm]
    push_cast
    ring
  have hvalue : ((m <<< a : ℕ) : ℚ) * 2 ^ (e - a : ℤ) = m * 2 ^ e := by
    rw [show e = e - (a : ℤ) + (a : ℤ) by omega, zpow_add_nat, Nat.shiftLeft_eq]
    push_cast
    ring_nf
  rw [← hvalue]
  refine rounds_roundWithAccuracy ?_ ?_ s
  · rw [Nat.shiftLeft_eq]
    exact Nat.mul_pos hm (Nat.two_pow_pos a)
  · rw [htotal]
    omega

/-- Of an integer, sign and absolute value are rounded. -/
theorem rounds_normalize {n : ℤ} (hn : n ≠ 0) (e : ℤ) (zeroSign : Sign) :
    ∃ s, Rounds s |(n : ℚ) * 2 ^ e| (normalize .binary64 n e zeroSign) ∧
      (0 < (n : ℚ) * 2 ^ e → s = .positive) := by
  have hpow : (0 : ℚ) < 2 ^ e := zpow_pos two_pos e
  obtain hlt | hgt := lt_or_gt_of_ne hn
  · have hcompare : compare n 0 = .lt := Int.compare_eq_lt.mpr hlt
    have hnegative : (n : ℚ) * 2 ^ e < 0 := mul_neg_of_neg_of_pos (by exact_mod_cast hlt) hpow
    have hvalue : |(n : ℚ) * 2 ^ e| = ((-n).toNat : ℚ) * 2 ^ e := by
      have hcast : (((-n).toNat : ℤ) : ℚ) = -n := by
        rw [Int.toNat_of_nonneg (by omega)]
        push_cast
        rfl
      rw [abs_of_neg hnegative, ← Int.cast_natCast, hcast, neg_mul]
    refine ⟨.negative, ?_, fun h => absurd h hnegative.not_gt⟩
    unfold UnpackedFloat.normalize
    rw [hcompare, hvalue]
    exact rounds_round (by omega) e .negative
  · have hcompare : compare n 0 = .gt := Int.compare_eq_gt.mpr hgt
    have hpositive : 0 < (n : ℚ) * 2 ^ e := mul_pos (by exact_mod_cast hgt) hpow
    have hvalue : |(n : ℚ) * 2 ^ e| = (n.toNat : ℚ) * 2 ^ e := by
      have hcast : ((n.toNat : ℤ) : ℚ) = n := by rw [Int.toNat_of_nonneg (by omega)]
      rw [abs_of_pos hpositive, ← Int.cast_natCast, hcast]
    refine ⟨.positive, ?_, fun _ => rfl⟩
    unfold UnpackedFloat.normalize
    rw [hcompare, hvalue]
    exact rounds_round (by omega) e .positive

theorem rounds_zero (s : Sign) : Rounds s 0 (.zero s) := (IsCanonical.zero s).rounds (.inl rfl)

/-- `z` is a number of the format nearest to `v`, with its sign. -/
def RoundsTo (v : ℚ) (z : UnpackedFloat) : Prop :=
  ∃ s, Rounds s |v| z ∧ (0 < v → s = .positive)

theorem roundsTo_normalize (n : ℤ) (e : ℤ) (zeroSign : Sign) :
    RoundsTo ((n : ℚ) * 2 ^ e) (normalize .binary64 n e zeroSign) := by
  by_cases hn : n = 0
  · subst hn
    refine ⟨zeroSign, ?_, fun h => by simp at h⟩
    rw [Int.cast_zero, zero_mul, abs_zero]
    exact rounds_zero zeroSign
  · exact rounds_normalize hn e zeroSign

theorem IsCanonical.roundsTo {x : UnpackedFloat} (hx : IsCanonical x) : RoundsTo (signed x) x := by
  rw [RoundsTo, abs_signed]
  cases hx with
  | zero s => exact ⟨s, rounds_zero s, fun h => absurd h (lt_irrefl 0)⟩
  | @finite s m e h bits least full =>
    refine ⟨s, IsCanonical.rounds (.finite bits least full) (.inr ⟨m, e, h, rfl⟩), fun hpos => ?_⟩
    cases s with
    | positive => rfl
    | negative =>
      have : (0 : ℚ) ≤ m * 2 ^ e := mul_nonneg m.cast_nonneg (zpow_nonneg two_pos.le e)
      simp only [signed, Sign.apply, Int.cast_neg, Int.cast_natCast, neg_mul] at hpos
      linarith

/-- A positive number is rounded to one without a sign. -/
theorem RoundsTo.signed_eq {v : ℚ} {z : UnpackedFloat} (h : RoundsTo v z) (hv : 0 < v) :
    signed z = magnitude z := by
  obtain ⟨s, hrounds, hsign⟩ := h
  rw [hsign hv] at hrounds
  obtain rfl | ⟨m, e, hm, rfl⟩ := hrounds.sign
  · rfl
  · rfl

theorem roundsTo_zero (s : Sign) : RoundsTo 0 (.zero s) := (IsCanonical.zero s).roundsTo

theorem signed_apply (s : Sign) (m : ℕ) : ((s.apply m : ℤ) : ℚ) = s.apply 1 * m := by
  cases s <;> simp [Sign.apply]

/-- Two numbers are brought to one exponent before they are added or subtracted. -/
theorem signed_aligned (s : Sign) (m : ℕ) {e t : ℤ} (h : t ≤ e) :
    ((s.apply (decreaseExponent m e t).1 : ℤ) : ℚ) * 2 ^ t = s.apply m * 2 ^ e := by
  rw [signed_apply, signed_apply s m, mul_assoc, (decreaseExponent_eq m h).2, mul_assoc]

theorem roundsTo_add {x y : UnpackedFloat} (hx : IsCanonical x) (hy : IsCanonical y) :
    RoundsTo (signed x + signed y) (add .binary64 x y) := by
  cases hx with
  | zero s =>
    rw [show signed (.zero s) = 0 from rfl, zero_add]
    cases hy with
    | zero t => cases s <;> cases t <;> exact roundsTo_zero _
    | finite bits least full => exact (IsCanonical.finite bits least full).roundsTo
  | @finite s₁ m₁ e₁ h₁ bits₁ least₁ full₁ =>
    cases hy with
    | zero t =>
      rw [show signed (.zero t) = 0 from rfl, add_zero]
      exact (IsCanonical.finite bits₁ least₁ full₁).roundsTo
    | @finite s₂ m₂ e₂ h₂ =>
      have hsum := roundsTo_normalize (s₁.apply (decreaseExponent m₁ e₁ (min e₁ e₂)).1 +
        s₂.apply (decreaseExponent m₂ e₂ (min e₁ e₂)).1) (min e₁ e₂) .positive
      rw [Int.cast_add, add_mul, signed_aligned s₁ m₁ (min_le_left e₁ e₂),
        signed_aligned s₂ m₂ (min_le_right e₁ e₂)] at hsum
      exact hsum

theorem signed_neg (x : UnpackedFloat) : signed x.neg = -signed x := by
  cases x with
  | finite s m e h => cases s <;> simp [UnpackedFloat.neg, signed, Sign.apply]
  | _ => simp [UnpackedFloat.neg, signed]

theorem roundsTo_sub {x y : UnpackedFloat} (hx : IsCanonical x) (hy : IsCanonical y) :
    RoundsTo (signed x - signed y) (sub .binary64 x y) := by
  cases hx with
  | zero s =>
    cases hy with
    | zero t =>
      rw [show signed (.zero s) - signed (.zero t) = 0 from sub_zero _]
      cases s <;> cases t <;> exact roundsTo_zero _
    | @finite t m e h bits least full =>
      have hneg := signed_neg (.finite t m e h)
      rw [show signed (.zero s) = 0 from rfl, zero_sub, ← hneg]
      exact (IsCanonical.finite bits least full).roundsTo
  | @finite s₁ m₁ e₁ h₁ bits₁ least₁ full₁ =>
    cases hy with
    | zero t =>
      rw [show signed (.zero t) = 0 from rfl, sub_zero]
      exact (IsCanonical.finite bits₁ least₁ full₁).roundsTo
    | @finite s₂ m₂ e₂ h₂ =>
      have hdifference := roundsTo_normalize (s₁.apply (decreaseExponent m₁ e₁ (min e₁ e₂)).1 -
        s₂.apply (decreaseExponent m₂ e₂ (min e₁ e₂)).1) (min e₁ e₂) .positive
      rw [Int.cast_sub, sub_mul, signed_aligned s₁ m₁ (min_le_left e₁ e₂),
        signed_aligned s₂ m₂ (min_le_right e₁ e₂)] at hdifference
      exact hdifference

theorem signed_mul_pos {s₁ s₂ : Sign} {m₁ m₂ : ℕ} {e₁ e₂ : ℤ} {h₁ : 0 < m₁} {h₂ : 0 < m₂}
    (h : 0 < signed (.finite s₁ m₁ e₁ h₁) * signed (.finite s₂ m₂ e₂ h₂)) : s₁ * s₂ = .positive := by
  have hpos : (0 : ℚ) < m₁ * 2 ^ e₁ * (m₂ * 2 ^ e₂) :=
    mul_pos (mul_pos (by exact_mod_cast h₁) (zpow_pos two_pos e₁))
      (mul_pos (by exact_mod_cast h₂) (zpow_pos two_pos e₂))
  cases s₁ <;> cases s₂ <;> simp only [signed, Sign.apply, Int.cast_neg, Int.cast_natCast] at h
  · rfl
  · linarith
  · linarith
  · rfl

theorem roundsTo_mul {x y : UnpackedFloat} (hx : IsCanonical x) (hy : IsCanonical y) :
    RoundsTo (signed x * signed y) (mul .binary64 x y) := by
  cases hx with
  | zero s =>
    rw [show signed (.zero s) = 0 from rfl, zero_mul]
    cases hy with
    | zero t => exact roundsTo_zero _
    | finite => exact roundsTo_zero _
  | @finite s₁ m₁ e₁ h₁ bits₁ least₁ full₁ =>
    cases hy with
    | zero t =>
      rw [show signed (.zero t) = 0 from rfl, mul_zero]
      exact roundsTo_zero _
    | @finite s₂ m₂ e₂ h₂ bits₂ least₂ full₂ =>
      refine ⟨s₁ * s₂, ?_, signed_mul_pos⟩
      have hvalue : |signed (.finite s₁ m₁ e₁ h₁) * signed (.finite s₂ m₂ e₂ h₂)| =
          ((m₁ * m₂ : ℕ) : ℚ) * 2 ^ (e₁ + e₂) := by
        rw [abs_mul, abs_signed, abs_signed, zpow_add₀ two_ne_zero]
        push_cast
        simp only [magnitude]
        ring
      rw [hvalue]
      refine rounds_roundWithAccuracy (Nat.mul_pos h₁ h₂) ?_ _
      rw [targetExponent_eq, totalExponent]
      -- unless both are short, the product has all its bits
      have hbits (hfull : 2 ^ 52 ≤ m₁ * m₂) : 52 ≤ (m₁ * m₂).log2 :=
        (Nat.le_log2 (Nat.ne_of_gt (Nat.mul_pos h₁ h₂))).mpr hfull
      rcases full₁ with hfull | hleast₁
      · have := hbits (Nat.le_trans hfull (Nat.le_mul_of_pos_right _ h₂))
        omega
      · rcases full₂ with hfull | hleast₂
        · have := hbits (Nat.le_trans hfull (Nat.le_mul_of_pos_left _ h₁))
          omega
        · omega

/-! ## Packing -/

/-- What the fields of a double can say. -/
inductive Reads (s : Sign) (e m : ℕ) : UnpackedFloat → Prop
  | infinity (he : e = 2047) (hm : m = 0) : Reads s e m (.infinity s)
  | notANumber (he : e = 2047) (hm : m ≠ 0) : Reads s e m .notANumber
  | zero (he : e = 0) (hm : m = 0) : Reads s e m (.zero s)
  | short (he : e = 0) (hm : 0 < m) : Reads s e m (.finite s m (-1074) hm)
  | ordinary (he : e ≠ 0) (he' : e ≠ 2047) (hm : 0 < 2 ^ 52 + m) :
    Reads s e m (.finite s (2 ^ 52 + m) (e - 1075) hm)

theorem toNat_unpackMantissa (b : BitVec 64) :
    (@unpackMantissa .binary64 b).toNat = b.toNat % 2 ^ 52 := by
  unfold unpackMantissa
  rw [BitVec.toNat_cast, BitVec.extractLsb_toNat]
  rfl

theorem toNat_unpackExponent (b : BitVec 64) :
    (@unpackExponent .binary64 b).toNat = b.toNat / 2 ^ 52 % 2 ^ 11 := by
  unfold unpackExponent
  rw [BitVec.toNat_cast, BitVec.extractLsb_toNat, Nat.shiftRight_eq_div_pow]
  rfl

theorem toNat_unpackSign (b : BitVec 64) :
    (@unpackSign .binary64 b).toNat = b.toNat / 2 ^ 63 % 2 := by
  unfold unpackSign
  rw [BitVec.toNat_cast, BitVec.extractLsb_toNat, Nat.shiftRight_eq_div_pow]
  rfl

theorem toNat_withImplicitBit (v : BitVec 52) : (1#1 ++ v).toNat = 2 ^ 52 + v.toNat := by
  rw [BitVec.toNat_append, ← Nat.shiftLeft_add_eq_or_of_lt (BitVec.isLt v), Nat.shiftLeft_eq]
  rfl

theorem reads_unpack (b : BitVec 64) :
    Reads (Sign.ofBitVec (@unpackSign .binary64 b)) (@unpackExponent .binary64 b).toNat
      (@unpackMantissa .binary64 b).toNat (UnpackedFloat.unpack .binary64 b) := by
  unfold UnpackedFloat.unpack
  dsimp only
  by_cases hmax : @unpackExponent .binary64 b = -1#11
  · have he : (@unpackExponent .binary64 b).toNat = 2047 := by rw [hmax]; rfl
    rw [if_pos hmax]
    by_cases hm : @unpackMantissa .binary64 b = 0#52
    · rw [if_pos hm]
      exact .infinity he (by rw [hm]; rfl)
    · rw [if_neg hm]
      exact .notANumber he fun h => hm (BitVec.eq_of_toNat_eq h)
  · have he : (@unpackExponent .binary64 b).toNat ≠ 2047 := fun h => hmax (BitVec.eq_of_toNat_eq h)
    rw [if_neg hmax]
    by_cases hmin : @unpackExponent .binary64 b = 0#11
    · have hzero : (@unpackExponent .binary64 b).toNat = 0 := by rw [hmin]; rfl
      rw [if_pos hmin]
      by_cases hm : @unpackMantissa .binary64 b = 0#52
      · rw [dif_pos hm]
        exact .zero hzero (by rw [hm]; rfl)
      · rw [dif_neg hm]
        have hpos : 0 < (@unpackMantissa .binary64 b).toNat :=
          Nat.pos_of_ne_zero fun h => hm (BitVec.eq_of_toNat_eq h)
        have hshort := Reads.short (s := Sign.ofBitVec (@unpackSign .binary64 b)) hzero hpos
        convert hshort using 2
        rw [hzero]
        rfl
    · have hne : (@unpackExponent .binary64 b).toNat ≠ 0 := fun h => hmin (BitVec.eq_of_toNat_eq h)
      rw [if_neg hmin]
      have hordinary := Reads.ordinary (s := Sign.ofBitVec (@unpackSign .binary64 b)) hne he
        (Nat.add_pos_left (Nat.two_pow_pos 52) (@unpackMantissa .binary64 b).toNat)
      convert hordinary using 1
      congr 1
      exact toNat_withImplicitBit _

/-- Every number that is finite has the exponent that the format gives it. -/
theorem isCanonical_unpack (f : Float.Model) :
    f.unpack = .notANumber ∨ (∃ s, f.unpack = .infinity s) ∨ IsCanonical f.unpack := by
  have hreads := reads_unpack f.toBits.toBitVec
  have hmantissa := (@unpackMantissa .binary64 f.toBits.toBitVec).isLt
  change _ < 2 ^ 52 at hmantissa
  change Reads _ _ _ f.unpack at hreads
  generalize (@unpackMantissa .binary64 f.toBits.toBitVec).toNat = m at *
  generalize (@unpackExponent .binary64 f.toBits.toBitVec).toNat = e at *
  generalize f.unpack = x at *
  cases hreads with
  | infinity => exact .inr (.inl ⟨_, rfl⟩)
  | notANumber => exact .inl rfl
  | zero => exact .inr (.inr (.zero _))
  | short => exact .inr (.inr (.finite (by omega) (by omega) (.inr rfl)))
  | ordinary => exact .inr (.inr (.finite (by omega) (by omega) (.inl (by omega))))

/-- A number that is not too great is unpacked to what it was packed from. -/
theorem IsCanonical.unpack_pack {x : UnpackedFloat} (hx : IsCanonical x)
    (hsmall : magnitude x < 2 ^ 100) : (Float.Model.pack x).unpack = x := by
  cases hx with
  | zero s => cases s <;> rfl
  | @finite s m e h bits least full =>
    by_cases hfull : 2 ^ 52 ≤ m
    · have hexponent : e ≤ 971 := by
        by_contra hgreat
        have hvalue : ((2 ^ 52 : ℕ) : ℚ) * 2 ^ (48 : ℤ) ≤ m * 2 ^ e := by
          obtain ⟨n, hn⟩ := Int.le.dest (show (48 : ℤ) ≤ e by omega)
          rw [(mul_zpow_le_iff hn.symm).2]
          exact Nat.le_trans hfull (Nat.le_mul_of_pos_right _ (Nat.two_pow_pos n))
        have hbound : ((2 ^ 52 : ℕ) : ℚ) * 2 ^ (48 : ℤ) = 2 ^ 100 := by norm_num
        rw [hbound] at hvalue
        exact absurd hsmall hvalue.not_gt
      exact IsFull.unpack_pack ⟨hfull, bits⟩ least hexponent s
    · obtain rfl := full.resolve_left hfull
      have hlog : ¬m.log2 + 1 = Format.binary64.mantissaBits := by
        have := (Nat.log2_lt (Nat.ne_of_gt h)).mpr (show m < 2 ^ 52 by omega)
        show ¬m.log2 + 1 = 53
        omega
      have hmantissa : (BitVec.ofNat 52 m).toNat = m := by
        show m % 2 ^ 52 = m
        omega
      have hzero : BitVec.ofNat 52 m ≠ 0#52 := by
        intro hm
        have := congrArg BitVec.toNat hm
        rw [hmantissa] at this
        exact absurd this (Nat.ne_of_gt h)
      show UnpackedFloat.unpack .binary64 (UnpackedFloat.pack .binary64 _) = _
      unfold UnpackedFloat.pack
      dsimp only
      rw [biasedExponent_eq, if_neg (show ¬2048 ≤ ((-1074 : ℤ) + 1075).toNat + 1 by decide),
        if_neg hlog]
      unfold UnpackedFloat.unpack
      simp only [unpackMantissa_packComponents, unpackExponent_packComponents,
        unpackSign_packComponents, Sign.ofBitVec_toBitVec, hzero, if_false, dif_neg,
        not_false_eq_true, hmantissa]
      rfl

end Double

/-! ## Decoding -/

namespace Decimal.Binary

open Float.Model UnpackedFloat Double

/-- The decoded form of a number that is unpacked. -/
def ofUnpacked : UnpackedFloat → Binary
  | .notANumber => .nan
  | .infinity s => .infinite (s == .negative)
  | .zero s => .finite (s == .negative) 0 (-1074)
  | .finite s m e _ => .finite (s == .negative) m e

theorem ofBitVec_beq (v : BitVec 1) : (v.toNat == 1) = (Sign.ofBitVec v == .negative) := by
  unfold Sign.ofBitVec
  by_cases hv : v = 0#1
  · subst hv
    rfl
  · rw [if_neg hv, (BitVec.eq_zero_or_eq_one v).resolve_left hv]
    rfl

/-- Decoding the bits of a double is unpacking it. -/
theorem ofFloat_eq (x : Float) : ofFloat x = ofUnpacked x.toModel.unpack := by
  have hreads := reads_unpack x.toModel.toBits.toBitVec
  change Reads _ _ _ x.toModel.unpack at hreads
  unfold ofFloat ofBits
  dsimp only
  have hmantissa : x.toBits.toNat % Nat.pow 2 52 =
      (@unpackMantissa .binary64 x.toModel.toBits.toBitVec).toNat := (toNat_unpackMantissa _).symm
  have hexponent : x.toBits.toNat / Nat.pow 2 52 % Nat.pow 2 11 =
      (@unpackExponent .binary64 x.toModel.toBits.toBitVec).toNat := (toNat_unpackExponent _).symm
  have hsign : x.toBits.toNat / Nat.pow 2 63 % 2 =
      (@unpackSign .binary64 x.toModel.toBits.toBitVec).toNat := (toNat_unpackSign _).symm
  rw [hmantissa, hexponent, hsign, ofBitVec_beq]
  generalize (@unpackMantissa .binary64 x.toModel.toBits.toBitVec).toNat = m at *
  generalize (@unpackExponent .binary64 x.toModel.toBits.toBitVec).toNat = e at *
  generalize x.toModel.unpack = y at *
  cases hreads with
  | infinity he hm => rw [if_pos he, if_pos hm]; rfl
  | notANumber he hm => rw [if_pos he, if_neg hm]; rfl
  | zero he hm => rw [he, hm]; rfl
  | short he hm => rw [he]; rfl
  | ordinary he he' hm =>
    rw [if_neg he', if_neg he, Nat.add_comm]
    rfl

end Decimal.Binary

end FleetTracking
