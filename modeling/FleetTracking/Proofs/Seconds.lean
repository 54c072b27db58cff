import FleetTracking.Proofs.Geo
import FleetTracking.Route
import Mathlib

/-!
# Spans in seconds

A span that is not empty takes a positive number of seconds (`Route.seconds_pos`). Numbers of
microseconds are divided by a million, and what has to be shown is that neither division nor
rounding comes to zero: a mantissa stays positive when it is shifted to its place and rounded
(`Double.fits_round`), and the quotient has bits enough for a positive one (`Double.fits_div`).
-/

namespace FleetTracking

namespace Double

open Float.Model UnpackedFloat

/-- Numbers above zero, infinity among them. -/
inductive IsPositive : UnpackedFloat → Prop
  | infinity : IsPositive (.infinity .positive)
  | finite (m e h) : IsPositive (.finite .positive m e h)

theorem zero_lt_of_isPositive {x : Float} (h : IsPositive x.toModel.unpack) : 0.0 < x := by
  show decide ((0.0 : Float).toModel < x.toModel) = true
  rw [decide_eq_true_iff]
  show ((UnpackedFloat.zero .positive).compare x.toModel.unpack == some .lt) = true
  generalize x.toModel.unpack = number at h
  cases h with
  | infinity => rfl
  | finite => rfl

/-! ## Rounding -/

theorem mantissa_shiftRight (em : ExtendedMantissa) (k : Nat) :
    (em >>> k).mantissa = em.mantissa / 2 ^ k := by
  induction k with
  | zero => simp [HShiftRight.hShiftRight, Nat.repeat]
  | succ k ih =>
    show (em >>> k).shiftRightOne.mantissa = _
    simp only [ExtendedMantissa.shiftRightOne, ih, Nat.div_div_eq_div_mul, Nat.pow_succ]

theorem mantissa_ofMantissaAndAccuracy (m : Nat) (a : Accuracy) :
    (ExtendedMantissa.ofMantissaAndAccuracy m a).mantissa = m := by
  cases a with
  | exact => rfl
  | inexact o => cases o <;> rfl

theorem le_roundToNearestEven (m : Nat) (a : Accuracy) : m ≤ a.roundToNearestEven m := by
  cases a with
  | exact => exact Nat.le_refl m
  | inexact o => cases o <;> simp [Accuracy.roundToNearestEven]

theorem targetExponent_eq (t : Int) : Format.binary64.targetExponent t = max (t - 53) (-1074) :=
  rfl

/-- A positive mantissa that is shifted to its place keeps a bit, and no more than it may have. -/
theorem shift_bounds {m : Nat} (hm : 0 < m) {e : Int} (he : -1074 ≤ e) (a : Accuracy) :
    0 < (shiftToTargetExponent .binary64 m e a).1.mantissa ∧
      (shiftToTargetExponent .binary64 m e a).1.mantissa < 2 ^ 53 ∧
      -1074 ≤ (shiftToTargetExponent .binary64 m e a).2 := by
  unfold shiftToTargetExponent shiftToExponent
  dsimp only
  rw [mantissa_shiftRight, mantissa_ofMantissaAndAccuracy, targetExponent_eq]
  unfold totalExponent
  have hlow := Nat.log2_self_le (Nat.ne_of_gt hm)
  have hhigh := Nat.lt_log2_self (n := m)
  generalize m.log2 = bits at *
  by_cases hbits : 52 ≤ bits
  · have hshift : (max ((bits : Int) + 1 + e - 53) (-1074) - e).toNat = bits - 52 := by omega
    have hpow : 2 ^ bits = 2 ^ 52 * 2 ^ (bits - 52) := by
      rw [← Nat.pow_add]
      congr 1
      omega
    rw [hshift]
    refine ⟨?_, ?_, by omega⟩
    · apply Nat.div_pos _ (Nat.two_pow_pos _)
      exact Nat.le_trans (Nat.le_mul_of_pos_left _ (Nat.two_pow_pos 52)) (hpow ▸ hlow)
    · rw [Nat.div_lt_iff_lt_mul (Nat.two_pow_pos _)]
      omega
  · have hshift : (max ((bits : Int) + 1 + e - 53) (-1074) - e).toNat = 0 := by omega
    have hpow : 2 ^ (bits + 1) ≤ 2 ^ 53 := Nat.pow_le_pow_right (by decide) (by omega)
    rw [hshift]
    omega

/-- Positive numbers that can be packed: the mantissa has no more bits than the format, and the
exponent is none below its least one. -/
inductive Fits : UnpackedFloat → Prop
  | mk {m e} (h : 0 < m) (mantissa : m < 2 ^ 53) (exponent : -1074 ≤ e) :
    Fits (.finite .positive m e h)

/-- Rounding makes no positive number zero. -/
theorem fits_round {m : Nat} (hm : 0 < m) {e : Int} (he : -1074 ≤ e) (a : Accuracy) :
    Fits (roundWithAccuracy .binary64 .positive m e a) := by
  obtain ⟨hpos, _, hexponent⟩ := shift_bounds hm he a
  have hrounded := Nat.lt_of_lt_of_le hpos (le_roundToNearestEven _
    (shiftToTargetExponent .binary64 m e a).1.accuracy)
  obtain ⟨hfinal, hmantissa, hexponent⟩ := shift_bounds hrounded hexponent .exact
  unfold roundWithAccuracy
  dsimp only
  split
  · rename_i hzero
    exact absurd hzero (Nat.ne_of_gt hfinal)
  · exact .mk hfinal hmantissa hexponent

/-! ## Packing -/

theorem biasedExponent_eq (e : Int) :
    (e + (Format.binary64.exponentBias : Int) +
      (Format.binary64.mantissaBitsWithoutImplicit : Int)).toNat = (e + 1075).toNat := by
  show (e + 1023 + 52).toNat = _
  omega

/-- Exponents between the least and the greatest stand for ordinary numbers. -/
theorem ofNat_ordinary {k : Nat} (hk : 0 < k) (hk' : k < 2047) :
    BitVec.ofNat 11 k ≠ -1#11 ∧ BitVec.ofNat 11 k ≠ 0#11 := by
  constructor
  · intro h
    have hmax := congrArg BitVec.toNat h
    change k % 2048 = 2047 at hmax
    omega
  · intro h
    have hmin := congrArg BitVec.toNat h
    change k % 2048 = 0 at hmin
    omega

/-- Only bits that are all zero, and those of what is no number, are read as nothing positive. -/
theorem isPositive_unpack_packComponents {e : BitVec 11} {m : BitVec 52} (he : e ≠ -1#11)
    (h : e ≠ 0#11 ∨ m ≠ 0#52) :
    IsPositive (UnpackedFloat.unpack .binary64 (packComponents .binary64 .positive e m)) := by
  unfold UnpackedFloat.unpack
  simp only [unpackMantissa_packComponents, unpackExponent_packComponents,
    unpackSign_packComponents, Sign.ofBitVec_toBitVec, he, if_false]
  split
  · rename_i hzero
    have hm := h.resolve_left (not_not_intro hzero)
    simp only [hm, dif_neg, not_false_eq_true]
    exact .finite ..
  · exact .finite ..

/-- A positive number is positive when it is unpacked again. -/
theorem Fits.isPositive {x : UnpackedFloat} (h : Fits x) :
    IsPositive (Float.Model.pack x).unpack := by
  obtain @⟨m, e, hm, hmantissa, hexponent⟩ := h
  show IsPositive (UnpackedFloat.unpack .binary64 (UnpackedFloat.pack .binary64 _))
  unfold UnpackedFloat.pack
  dsimp only
  rw [biasedExponent_eq]
  split
  · exact .infinity
  · rename_i hsmall
    change ¬2048 ≤ (e + 1075).toNat + 1 at hsmall
    split
    · obtain ⟨hmax, hmin⟩ := ofNat_ordinary (k := (e + 1075).toNat) (by omega) (by omega)
      exact isPositive_unpack_packComponents hmax (.inl hmin)
    · rename_i hbits
      change ¬m.log2 + 1 = 53 at hbits
      have hlog : m.log2 < 53 := (Nat.log2_lt (by omega)).mpr hmantissa
      have hshort : m < 2 ^ 52 := (Nat.log2_lt (by omega)).mp (by omega)
      refine isPositive_unpack_packComponents (by decide) (.inr ?_)
      intro h
      have hzero := congrArg BitVec.toNat h
      change m % 2 ^ 52 = 0 at hzero
      omega

/-! ## Quotients -/

/-- A quotient of positive numbers that is not too small for the format is positive. -/
theorem fits_div {m₁ m₂ : Nat} {e₁ e₂ : Int} (h₁ : 0 < m₁) (h₂ : 0 < m₂) (he : -1074 ≤ e₁ - e₂)
    (htotal : -1021 ≤ totalExponent m₁ e₁ - totalExponent m₂ e₂) :
    Fits (UnpackedFloat.div .binary64 (.finite .positive m₁ e₁ h₁)
      (.finite .positive m₂ e₂ h₂)) := by
  unfold UnpackedFloat.div divCore
  dsimp only
  rw [targetExponent_eq]
  unfold totalExponent at *
  have hlow := Nat.log2_self_le (Nat.ne_of_gt h₁)
  have hhigh := Nat.lt_log2_self (n := m₂)
  generalize m₁.log2 = bits₁ at *
  generalize m₂.log2 = bits₂ at *
  refine fits_round ?_ (by omega) _
  -- the dividend is shifted until it has more bits than the divisor
  generalize hshift : (e₁ - e₂ - min (e₁ - e₂) _).toNat = shift
  have hroom : bits₂ + 1 ≤ bits₁ + shift := by omega
  rw [Nat.shiftLeft_eq]
  apply Nat.div_pos _ h₂
  calc m₂ ≤ 2 ^ (bits₂ + 1) := Nat.le_of_lt hhigh
    _ ≤ 2 ^ (bits₁ + shift) := Nat.pow_le_pow_right (by decide) hroom
    _ = 2 ^ bits₁ * 2 ^ shift := Nat.pow_add ..
    _ ≤ m₁ * 2 ^ shift := Nat.mul_le_mul_right _ hlow

/-! ## Whole numbers -/

/-- The mantissa has as many bits as the format. -/
structure IsFull (m : Nat) : Prop where
  low : 2 ^ 52 ≤ m
  high : m < 2 ^ 53

namespace IsFull

variable {m : Nat} (h : IsFull m)

include h

theorem pos : 0 < m := Nat.lt_of_lt_of_le (Nat.two_pow_pos 52) h.low

theorem log2_eq : m.log2 = 52 := (Nat.log2_eq_iff (Nat.ne_of_gt h.pos)).mpr ⟨h.low, h.high⟩

/-- At an exponent in range it is neither shifted nor rounded. -/
theorem roundWithAccuracy_eq {e : Int} (he : -1074 ≤ e) (s : Sign) :
    roundWithAccuracy .binary64 s m e .exact = .finite s m e h.pos := by
  have hstays : shiftToTargetExponent .binary64 m e .exact = (⟨m, false, false⟩, e) := by
    have hshift : (Format.binary64.targetExponent (totalExponent m e) - e).toNat = 0 := by
      rw [targetExponent_eq, totalExponent, h.log2_eq]
      omega
    unfold shiftToTargetExponent shiftToExponent
    dsimp only
    rw [hshift]
    simp [HShiftRight.hShiftRight, Nat.repeat, ExtendedMantissa.ofMantissaAndAccuracy]
  have hrounded : ExtendedMantissa.roundedMantissa ⟨m, false, false⟩ = m := rfl
  unfold roundWithAccuracy
  simp only [hstays, hrounded, Nat.ne_of_gt h.pos, dif_neg, not_false_eq_true]

/-- A number is unpacked to what it was packed from. -/
theorem unpack_pack {e : Int} (he : -1074 ≤ e) (he' : e ≤ 971) (s : Sign) :
    (Float.Model.pack (.finite s m e h.pos)).unpack = .finite s m e h.pos := by
  have hexponent : (BitVec.ofNat 11 (e + 1075).toNat).toNat = (e + 1075).toNat := by
    show (e + 1075).toNat % 2048 = _
    omega
  have hmantissa : (1#1 ++ BitVec.ofNat 52 m).toNat = m := by
    have hlow := h.low
    have hhigh := h.high
    rw [BitVec.toNat_append, ← Nat.shiftLeft_add_eq_or_of_lt (BitVec.isLt _), BitVec.toNat_ofNat,
      Nat.shiftLeft_eq]
    show 1 * 2 ^ 52 + m % 2 ^ 52 = m
    omega
  show UnpackedFloat.unpack .binary64 (UnpackedFloat.pack .binary64 _) = _
  unfold UnpackedFloat.pack
  dsimp only
  rw [biasedExponent_eq, if_neg (show ¬2048 ≤ (e + 1075).toNat + 1 by omega),
    if_pos (show m.log2 + 1 = Format.binary64.mantissaBits from congrArg (· + 1) h.log2_eq)]
  have hordinary := ofNat_ordinary (k := (e + 1075).toNat) (by omega) (by omega)
  unfold UnpackedFloat.unpack
  simp only [unpackMantissa_packComponents, unpackExponent_packComponents,
    unpackSign_packComponents, Sign.ofBitVec_toBitVec, hordinary, if_false, hexponent, hmantissa]
  congr 1
  show (((e + 1075).toNat : Nat) : Int) - (1023 + 52) = e
  omega

end IsFull

/-- A number with fewer bits is shifted until it has as many as the format. -/
theorem isFull_shifted {n : Nat} (hn : 0 < n) (hn' : n < 2 ^ 53) :
    IsFull (n * 2 ^ (52 - n.log2)) := by
  have hbits : n.log2 < 53 := (Nat.log2_lt (Nat.ne_of_gt hn)).mpr hn'
  have hpow (k : Nat) (hk : k ≤ 52) : 2 ^ (k + 1) * 2 ^ (52 - k) = 2 ^ 53 ∧
      2 ^ k * 2 ^ (52 - k) = 2 ^ 52 := by
    rw [← Nat.pow_add, ← Nat.pow_add]
    constructor
    · congr 1
      omega
    · congr 1
      omega
  obtain ⟨hhigh, hlow⟩ := hpow n.log2 (by omega)
  constructor
  · rw [← hlow]
    exact Nat.mul_le_mul_right _ (Nat.log2_self_le (Nat.ne_of_gt hn))
  · rw [← hhigh]
    exact Nat.mul_lt_mul_of_pos_right Nat.lt_log2_self (Nat.two_pow_pos _)

/-- Numbers below two to the power of fifty-three are converted as they are. -/
theorem unpack_ofUInt64 {n : UInt64} (hn : 0 < n.toNat) (hn' : n.toNat < 2 ^ 53) :
    ∃ m e h, (Float.Model.ofUInt64 n).unpack = .finite .positive m e h ∧
      -52 ≤ e ∧ totalExponent m e = e + 53 := by
  have hfull := isFull_shifted hn hn'
  have hbits : n.toNat.log2 < 53 := (Nat.log2_lt (Nat.ne_of_gt hn)).mpr hn'
  have hcompare : compare (n.toNat : Int) 0 = .gt := Int.compare_eq_gt.mpr (by omega)
  have htarget : Format.binary64.targetExponent (totalExponent n.toNat 0) =
      (n.toNat.log2 : Int) - 52 := by
    rw [targetExponent_eq, totalExponent]
    omega
  have hshift : (0 - ((n.toNat.log2 : Int) - 52)).toNat = 52 - n.toNat.log2 := by omega
  have hexponent : (0 : Int) - (52 - n.toNat.log2 : Nat) = n.toNat.log2 - 52 := by omega
  refine ⟨_, n.toNat.log2 - 52, hfull.pos, ?_, by omega, ?_⟩
  · unfold Float.Model.ofUInt64 UnpackedFloat.ofUInt64 UnpackedFloat.ofNat UnpackedFloat.ofInt
      UnpackedFloat.normalize
    simp only [hcompare, Int.toNat_natCast]
    unfold UnpackedFloat.round decreaseExponent
    simp only [htarget, hshift, hexponent, Nat.shiftLeft_eq]
    rw [hfull.roundWithAccuracy_eq (by omega)]
    exact hfull.unpack_pack (by omega) (by omega) .positive
  · rw [totalExponent, hfull.log2_eq]
    omega

end Double

/-! ## Microseconds in seconds -/

namespace Route

open Float.Model UnpackedFloat Double

theorem unpack_million (h : 6 < Float.exactlyRepresentablePowersOfTen.size) :
    Float.exactlyRepresentablePowersOfTen[6].toModel.unpack =
      .finite .positive (1000000 * 2 ^ 33) (-33) (by decide) := by
  show (Float.ofBits 0x412e848000000000).toModel.unpack = _
  rfl

/-- A positive number of millionths is positive. -/
theorem isPositive_millionths {n : Nat} (hn : 0 < n) :
    IsPositive (Float.ofScientific n true 6).toModel.unpack := by
  unfold Float.ofScientific
  split
  · rename_i hsmall
    dsimp only
    rw [if_pos rfl]
    show IsPositive (Float.Model.pack (UnpackedFloat.div .binary64
      (Float.Model.ofUInt64 n.toUInt64).unpack _)).unpack
    have hconverted : n.toUInt64.toNat = n := UInt64.toNat_ofNat_of_lt' (by
      show n < 2 ^ 64
      omega)
    obtain ⟨m, e, hm, hunpack, he, htotal⟩ := unpack_ofUInt64 (n := n.toUInt64)
      (by rw [hconverted]; exact hn) (by rw [hconverted]; exact hsmall.1)
    rw [hunpack, unpack_million]
    refine (fits_div hm (by decide) (by omega) ?_).isPositive
    have hmillion : totalExponent (1000000 * 2 ^ 33) (-33) = 20 := by rfl
    omega
  · have hexponent : (if true = true then Int.negOfNat 6 else Int.ofNat 6) = -6 := rfl
    dsimp only
    rw [hexponent]
    unfold Float.Model.ofScientific UnpackedFloat.ofScientific
    have hrange : ¬(-6 : Int) < -(2 ^ Format.binary64.exponentBits + (n.log2 : Int)) := by
      show ¬(-6 : Int) < -(2048 + (n.log2 : Int))
      omega
    rw [dif_neg (Nat.ne_of_gt hn), if_neg (by decide), if_neg hrange, if_neg (by decide)]
    have htotal : -1021 ≤ totalExponent n 0 - totalExponent 1000000 0 := by
      have hmillion : totalExponent 1000000 0 = 20 := by rfl
      rw [hmillion, totalExponent]
      omega
    exact (fits_div hn (show 0 < 1000000 by decide) (by omega) htotal).isPositive

theorem seconds_zero : seconds 0 = 0.0 := by rfl

/-- A span that is not empty takes a positive number of seconds. -/
theorem seconds_pos {micros : Int} (h : 0 < micros) : 0.0 < seconds micros := by
  have hcount : 0 < micros.natAbs := by omega
  have hleading : ¬(micros.natAbs = 0 ∨
      (-6 : Int) + (Decimal.digitCount micros.natAbs : Int) < -400) := by omega
  have hsign : ¬decide (micros < 0) = true := by simpa using Int.le_of_lt h
  unfold seconds Decimal.ofScaled
  dsimp only
  rw [if_neg hsign, if_neg hleading]
  split
  · rfl
  · exact zero_lt_of_isPositive (isPositive_millionths hcount)

end Route

end FleetTracking
