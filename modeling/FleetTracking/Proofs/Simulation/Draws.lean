import FleetTracking.Geo.Coordinates
import FleetTracking.Proofs.Rounding
import FleetTracking.Simulation.Random

/-!
# Numbers from zero to below one

What is made of a number from zero to below one (`Double.IsUnit`) lies where it should, although
every step on the way there is rounded: an integer at that fraction of the way lies between its
bounds (`Draws.exists_scale`), a place in a list is one of its places (`Draws.exists_pick`), and a
coordinate near that of a city stays a coordinate (`Double.isModerate_near`).

The first two need the rounding to be to the nearest double: the greatest number below one times
seven lies less than a unit below seven, and rounding it up would lead out of a list of seven.
-/

namespace FleetTracking

namespace Double

open Float.Model UnpackedFloat

/-- A number from zero to below one. -/
structure IsUnit (x : Float) : Prop where
  low : 0.0 ≤ x
  high : x < 1.0

theorem unpack_one : (1.0 : Float).toModel.unpack = .finite .positive (2 ^ 52) (-52) (by decide) :=
  rfl

theorem IsUnit.bounds {x : Float} (h : IsUnit x) :
    IsCanonical x.toModel.unpack ∧ signed x.toModel.unpack = magnitude x.toModel.unpack ∧
      magnitude x.toModel.unpack ≤ ((2 ^ 53 - 1 : ℕ) : ℚ) * 2 ^ (-53 : ℤ) := by
  have hlow := (le_iff _ _).mp h.low
  have hhigh : (x.toModel.unpack.compare (1.0 : Float).toModel.unpack == some .lt) = true :=
    of_decide_eq_true h.high
  rw [unpack_one] at hhigh
  change ((UnpackedFloat.zero .positive).compare _).any _ = true at hlow
  have hcanonical := isCanonical_unpack x.toModel
  generalize x.toModel.unpack = y at *
  rcases hcanonical with rfl | ⟨s, rfl⟩ | hcanonical
  · nomatch hhigh
  · cases s
    · nomatch hlow
    · nomatch hhigh
  · refine ⟨hcanonical, ?_⟩
    cases hcanonical with
    | zero s => exact ⟨rfl, mul_nonneg (Nat.cast_nonneg _) (zpow_nonneg two_pos.le _)⟩
    | @finite s m e hm bits least full =>
      cases s with
      | negative => nomatch hlow
      | positive =>
        refine ⟨rfl, ?_⟩
        change (some ((compare e (-52)).then (compare m (2 ^ 52))) == some .lt) = true at hhigh
        have hthen : (compare e (-52)).then (compare m (2 ^ 52)) = .lt := by simpa using hhigh
        have hexponent : e ≤ -53 := by
          rcases Ordering.then_eq_lt.mp hthen with hlt | ⟨heq, hlt⟩
          · have := Int.compare_eq_lt.mp hlt
            omega
          · -- with this exponent the number would be at least one
            have he := Int.compare_eq_eq.mp heq
            have hm := Nat.compare_eq_lt.mp hlt
            omega
        obtain ⟨n, hn⟩ := Int.le.dest hexponent
        show (m : ℚ) * 2 ^ e ≤ _
        rw [(mul_zpow_le_iff hn.symm).2]
        exact Nat.le_trans (Nat.le_sub_one_of_lt bits) (Nat.le_mul_of_pos_right _ (Nat.two_pow_pos n))

end Double

/-! ## Integers -/

open Float.Model UnpackedFloat Double

/-- A number below a bound is found below it by its mantissa. -/
theorem floor_lt {m : ℕ} {e : ℤ} {n : ℕ} (h : (m : ℚ) * 2 ^ e < n) :
    ((m : ℤ) * Nat.pow 2 e.toNat) / Nat.pow 2 (-e).toNat < n := by
  have hpos : (0 : ℤ) < (Nat.pow 2 (-e).toNat : ℕ) := by exact_mod_cast Nat.two_pow_pos _
  rw [Int.ediv_lt_iff_lt_mul hpos]
  have hnat : m * 2 ^ e.toNat < n * 2 ^ (-e).toNat := by
    obtain ⟨k, rfl | rfl⟩ := e.eq_nat_or_neg
    · rw [zpow_natCast] at h
      simp only [Int.toNat_natCast, Int.toNat_neg_natCast, pow_zero, mul_one]
      exact_mod_cast h
    · have hscaled := (mul_zpow_le_iff (a := n) (b := m) (show (0 : ℤ) = -(k : ℤ) + k by omega)).1
      rw [zpow_zero, mul_one] at hscaled
      simp only [neg_neg, Int.toNat_natCast, Int.toNat_neg_natCast, pow_zero, mul_one]
      exact Nat.lt_of_not_le (mt hscaled.mpr h.not_ge)
  exact_mod_cast hnat

/-- What is decoded as zero or as a positive number below a bound has its integer part below it. -/
theorem exists_floor {x : Float} {z : UnpackedFloat} (hx : x.toModel.unpack = z)
    (hz : IsCanonical z) (hsign : 0 ≤ signed z) {n : ℕ} (hn : 0 < n) (h : magnitude z < n) :
    ∃ i, floor x = .ok i ∧ 0 ≤ i ∧ i < n := by
  unfold floor
  rw [Decimal.Binary.ofFloat_eq, hx]
  cases hz with
  | zero s =>
    have hfloor : (Decimal.Binary.ofUnpacked (.zero s)).floor? = some 0 := by
      cases s <;> exact congrArg some (Int.zero_ediv _)
    rw [hfloor]
    exact ⟨0, rfl, le_refl 0, by exact_mod_cast hn⟩
  | @finite s m e hm =>
    cases s with
    | negative =>
      have hpos : (0 : ℚ) < m * 2 ^ e := mul_pos (by exact_mod_cast hm) (zpow_pos two_pos e)
      simp only [signed, Sign.apply, Int.cast_neg, Int.cast_natCast, neg_mul] at hsign
      linarith
    | positive =>
      refine ⟨((m : ℤ) * Nat.pow 2 e.toNat) / Nat.pow 2 (-e).toNat, rfl, ?_, floor_lt h⟩
      exact Int.ediv_nonneg (by positivity) (by positivity)

/-- A bound with all its bits, other than a power of two, is not reached by a fraction of it: what
is left of it is more than half a unit. -/
theorem exists_floor_mul {x y : Float} (hx : IsUnit x) {k : ℕ} {j : ℤ} {hk : 0 < k} {n : ℕ}
    (hy : y.toModel.unpack = .finite .positive k j hk) (hn : (k : ℚ) * 2 ^ j = n)
    (hlow : 2 ^ 52 < k) (hhigh : k < 2 ^ 53) (hj : -1074 ≤ j) (hsmall : n < 2 ^ 100) :
    ∃ i, floor (x * y) = .ok i ∧ 0 ≤ i ∧ i < n := by
  obtain ⟨hcanonical, hsigned, hbound⟩ := hx.bounds
  have hpow : (0 : ℚ) < 2 ^ j := zpow_pos two_pos j
  have hlow' : (2 ^ 52 : ℚ) < k := by exact_mod_cast hlow
  have hpos : 0 < n := by
    have : (0 : ℚ) < n := hn ▸ mul_pos (by linarith) hpow
    exact_mod_cast this
  have hycanonical : IsCanonical y.toModel.unpack := by
    rw [hy]
    exact .finite hhigh hj (.inl (Nat.le_of_lt hlow))
  have hysigned : signed y.toModel.unpack = k * 2 ^ j := by
    rw [hy]
    rfl
  have hroundsTo := roundsTo_mul hcanonical hycanonical
  obtain ⟨s, hrounds, _⟩ := id hroundsTo
  have hexact : 2 * |signed x.toModel.unpack * signed y.toModel.unpack| <
      (2 * ((k - 1 : ℕ) : ℚ) + 1) * 2 ^ j := by
    rw [abs_mul, abs_signed, hysigned, abs_of_pos (by positivity),
      Nat.cast_sub (Nat.one_le_of_lt hlow)]
    have hfraction : magnitude x.toModel.unpack * (k * 2 ^ j) ≤
        (1 - 1 / 2 ^ 53) * (k * 2 ^ j) := by
      refine mul_le_mul_of_nonneg_right (hbound.trans (le_of_eq ?_)) (by positivity)
      norm_num
    have hrest : 0 < ((k : ℚ) / 2 ^ 52 - 1) * 2 ^ j := by
      refine mul_pos ?_ hpow
      rw [sub_pos, lt_div_iff₀ (by positivity), one_mul]
      exact hlow'
    push_cast
    linarith
  have hless : magnitude (UnpackedFloat.mul .binary64 x.toModel.unpack y.toModel.unpack) < n := by
    refine (hrounds.le (by omega) (by omega) hj hexact).trans_lt ?_
    rw [← hn]
    exact mul_lt_mul_of_pos_right (by exact_mod_cast Nat.sub_lt hk one_pos) hpow
  have hunpack : (x * y).toModel.unpack =
      UnpackedFloat.mul .binary64 x.toModel.unpack y.toModel.unpack :=
    hrounds.canonical.unpack_pack (hless.trans (by exact_mod_cast hsmall))
  refine exists_floor hunpack hrounds.canonical ?_ hpos hless
  rcases (abs_signed x.toModel.unpack ▸ abs_nonneg _ : 0 ≤ magnitude x.toModel.unpack).eq_or_lt
    with hzero | hxpos
  · -- nothing but a zero has no magnitude, and its product is a zero
    cases hcanonical' : x.toModel.unpack with
    | finite s m e hm =>
      rw [hcanonical'] at hzero
      have : (0 : ℚ) < m * 2 ^ e := mul_pos (by exact_mod_cast hm) (zpow_pos two_pos e)
      exact absurd hzero this.ne
    | _ =>
      rw [hy]
      exact le_refl 0
  · rw [hroundsTo.signed_eq (by rw [hsigned, hysigned]; positivity), ← abs_signed]
    exact abs_nonneg _

namespace Draws

/-- A number from zero to below one picks one of seven places. -/
theorem exists_pick {x : Float} (hx : IsUnit x) : ∃ i, pick 7 x = .ok i := by
  have hseven : (Decimal.ofInt (7 : ℕ)).toModel.unpack =
      .finite .positive (7 * 2 ^ 50) (-50) (by decide) := by
    simp [Decimal.ofInt, Decimal.ofScaled, Decimal.digitCount]
    rfl
  obtain ⟨i, hfloor, hlow, hhigh⟩ := exists_floor_mul hx (n := 7) hseven (by norm_num) (by decide)
    (by decide) (by decide) (by decide)
  unfold pick
  rw [hfloor]
  have hplace : (if i < 0 then i + (7 : ℕ) else i) = i := if_neg (by omega)
  dsimp only [bind, Except.bind]
  rw [hplace, if_pos ⟨hlow, hhigh⟩]
  exact ⟨_, rfl⟩

/-- A number from zero to below one is scaled to a day of a year. -/
theorem exists_scale {x : Float} (hx : IsUnit x) :
    ∃ days, scale 1 364 x = .ok days ∧ 1 ≤ days ∧ days ≤ 364 := by
  have hyear : (Decimal.ofInt 364).toModel.unpack =
      .finite .positive (364 * 2 ^ 44) (-44) (by decide) := by
    simp [Decimal.ofInt, Decimal.ofScaled, Decimal.digitCount]
    rfl
  obtain ⟨i, hfloor, hlow, hhigh⟩ := exists_floor_mul hx (n := 364) hyear (by norm_num) (by decide)
    (by decide) (by decide) (by decide)
  refine ⟨1 + i, ?_, by omega, by omega⟩
  show (do return 1 + (← floor (x * Decimal.ofInt (364 - 1 + 1))) : Except Failure Int) = _
  rw [show (364 - 1 + 1 : Int) = 364 from rfl, hfloor]
  rfl

/-- All numbers are from zero to below one. -/
def AreUnit (d : Draws) : Prop := ∀ x ∈ d.values, IsUnit x

theorem AreUnit.next {d : Draws} (h : d.AreUnit) : IsUnit d.next.1 ∧ d.next.2.AreUnit := by
  refine ⟨?_, h⟩
  show IsUnit (d.values[d.used % d.values.length]?.getD 0.5)
  cases hx : d.values[d.used % d.values.length]? with
  | none => exact ⟨by decide, by decide⟩
  | some x => exact h x (List.mem_of_getElem? hx)

end Draws

/-! ## Places -/

namespace Double

theorem unpack_half : (0.5 : Float).toModel.unpack = .finite .positive (2 ^ 52) (-53) (by decide) :=
  rfl

theorem unpack_fiftieth : (0.02 : Float).toModel.unpack =
    .finite .positive 5764607523034235 (-58) (by decide) :=
  rfl

/-- What a number from zero to below one moves a coordinate by is at most a hundredth. -/
theorem offset_bounds {x : Float} (hx : IsUnit x) :
    IsCanonical ((x - 0.5) * 0.02).toModel.unpack ∧
      |signed ((x - 0.5) * 0.02).toModel.unpack| ≤ (5764607523034235 : ℕ) * 2 ^ (-59 : ℤ) := by
  obtain ⟨hcanonical, hsigned, hbound⟩ := hx.bounds
  have hnonneg : 0 ≤ magnitude x.toModel.unpack := abs_signed x.toModel.unpack ▸ abs_nonneg _
  have hhalf : IsCanonical (0.5 : Float).toModel.unpack := by
    rw [unpack_half]
    exact .finite (by decide) (by decide) (.inl (by decide))
  have hfiftieth : IsCanonical (0.02 : Float).toModel.unpack := by
    rw [unpack_fiftieth]
    exact .finite (by decide) (by decide) (.inl (by decide))
  have hhalfSigned : signed (0.5 : Float).toModel.unpack = 1 / 2 := by
    rw [unpack_half]
    norm_num [signed, Sign.apply]
  have hfiftiethSigned : signed (0.02 : Float).toModel.unpack = 5764607523034235 * 2 ^ (-58 : ℤ) := by
    rw [unpack_fiftieth]
    rfl
  -- the distance from the middle
  obtain ⟨s, hsub, _⟩ := roundsTo_sub hcanonical hhalf
  have hsubBound := hsub.magnitude_le (k := 2 ^ 52) (j := -53) (le_refl _) (by decide) (by decide) (by
    rw [hsigned, hhalfSigned, abs_le]
    norm_num at hbound ⊢
    constructor <;> linarith)
  have hsubUnpack : (x - 0.5).toModel.unpack =
      UnpackedFloat.sub .binary64 x.toModel.unpack (0.5 : Float).toModel.unpack :=
    hsub.canonical.unpack_pack (hsubBound.trans_lt (by norm_num))
  rw [← hsubUnpack] at hsub hsubBound
  -- and a fiftieth of it
  obtain ⟨t, hmul, _⟩ := roundsTo_mul hsub.canonical hfiftieth
  have hmulBound := hmul.magnitude_le (k := 5764607523034235) (j := -59) (by decide) (by decide)
    (by decide) (by
      rw [abs_mul, abs_signed, hfiftiethSigned, abs_of_pos (by positivity)]
      refine (mul_le_mul_of_nonneg_right hsubBound (by positivity)).trans (le_of_eq ?_)
      norm_num)
  have hmulUnpack : ((x - 0.5) * 0.02).toModel.unpack =
      UnpackedFloat.mul .binary64 (x - 0.5).toModel.unpack (0.02 : Float).toModel.unpack :=
    hmul.canonical.unpack_pack (hmulBound.trans_lt (by norm_num))
  rw [hmulUnpack, abs_signed]
  exact ⟨hmul.canonical, hmulBound⟩

/-- A positive number below sixty-four, with all its bits there. -/
def IsModerate (x : Float) : Prop :=
  ∃ m e h, x.toModel.unpack = .finite .positive m e h ∧ e < -46

/-- A coordinate between two and thirty-eight is moved to one between one and thirty-nine. -/
theorem isModerate_near {x c : Float} (hx : IsUnit x) (hc : IsCanonical c.toModel.unpack)
    (hlow : 2 ≤ signed c.toModel.unpack) (hhigh : signed c.toModel.unpack ≤ 38) :
    IsModerate (c + (x - 0.5) * 0.02) := by
  obtain ⟨hoffset, hoffsetBound⟩ := offset_bounds hx
  have hhundredth : ((5764607523034235 : ℕ) : ℚ) * 2 ^ (-59 : ℤ) ≤ 1 := by norm_num
  obtain ⟨hleft, hright⟩ := abs_le.mp (hoffsetBound.trans hhundredth)
  have hroundsTo := roundsTo_add hc hoffset
  have hpos : 0 < signed c.toModel.unpack + signed ((x - 0.5) * 0.02).toModel.unpack := by linarith
  obtain ⟨s, hadd, hsign⟩ := hroundsTo
  rw [hsign hpos, abs_of_pos hpos] at hadd
  have hge := hadd.ge (k := 1) (j := 0) (by decide) (by decide) (by norm_num; linarith)
  have hle := hadd.magnitude_le (k := 39 * 2 ^ 47) (j := -47) (by decide) (by decide) (by decide)
    (by norm_num; linarith)
  have hunpack : (c + (x - 0.5) * 0.02).toModel.unpack =
      UnpackedFloat.add .binary64 c.toModel.unpack ((x - 0.5) * 0.02).toModel.unpack :=
    hadd.canonical.unpack_pack (hle.trans_lt (by norm_num))
  unfold IsModerate
  rw [hunpack]
  obtain hzero | ⟨m, e, hm, hfinite⟩ := hadd.sign
  · rw [hzero] at hge
    norm_num [magnitude] at hge
  · refine ⟨m, e, hm, hfinite, ?_⟩
    rw [hfinite] at hadd hle
    cases hadd.canonical with
    | finite bits least full =>
      -- a larger exponent, with all bits there, would make it sixty-four or more
      by_contra he
      obtain hfull | hleast := full
      · obtain ⟨d, hd⟩ := Int.le.dest (not_lt.mp he)
        have hnat := (mul_zpow_le_iff (a := m) (b := 39 * 2 ^ 47) (e := -47) (n := d + 1)
          (show e = _ by omega)).1.mp hle
        have : m * 2 ≤ m * 2 ^ (d + 1) := Nat.mul_le_mul_left m (by
          rw [Nat.pow_succ]
          have := Nat.two_pow_pos d
          omega)
        omega
      · omega

namespace IsModerate

variable {x : Float} (h : IsModerate x)

include h

/-- Numbers are compared by their signs first, and then by their exponents. -/
theorem le_of_positive {y : Float} {k : ℕ} {j : ℤ} {hk : 0 < k}
    (hy : y.toModel.unpack = .finite .positive k j hk) (hj : -46 ≤ j) : x ≤ y := by
  obtain ⟨m, e, hm, hx, he⟩ := h
  rw [le_iff, hx, hy]
  show (some ((compare e j).then (compare m k))).any (·.isLE) = true
  rw [Int.compare_eq_lt.mpr (show e < j by omega)]
  rfl

theorem le_of_negative {y : Float} {k : ℕ} {j : ℤ} {hk : 0 < k}
    (hy : y.toModel.unpack = .finite .negative k j hk) : y ≤ x := by
  obtain ⟨m, e, hm, hx, _⟩ := h
  rw [le_iff, hx, hy]
  rfl

theorem storedNumber_eq : storedNumber x = x := by
  obtain ⟨m, e, hm, hx, _⟩ := h
  refine if_neg fun hzero => ?_
  rcases unpack_eq_or_zeros hzero with ⟨hsame, _⟩ | ⟨s, t, hs, _⟩
  · nomatch hx.symm.trans hsame
  · nomatch hx.symm.trans hs

end IsModerate

end Double

namespace Point

/-- Both coordinates of a place are moderate. -/
structure IsModerate (p : Point) : Prop where
  latitude : Double.IsModerate p.latitude
  longitude : Double.IsModerate p.longitude

variable {p : Point} (h : p.IsModerate)

include h

theorem IsModerate.isOnEarth : p.isOnEarth = true := by
  have hsouth : (-90.0 : Float) ≤ p.latitude := h.latitude.le_of_negative rfl
  have hnorth : p.latitude ≤ 90.0 := h.latitude.le_of_positive rfl (by decide)
  have hwest : (-180.0 : Float) ≤ p.longitude := h.longitude.le_of_negative rfl
  have heast : p.longitude ≤ 180.0 := h.longitude.le_of_positive rfl (by decide)
  simp [Point.isOnEarth, hsouth, hnorth, hwest, heast]

theorem IsModerate.stored_eq : p.stored = p := by
  show (⟨storedNumber p.latitude, storedNumber p.longitude⟩ : Point) = p
  rw [h.latitude.storedNumber_eq, h.longitude.storedNumber_eq]

end Point

end FleetTracking
