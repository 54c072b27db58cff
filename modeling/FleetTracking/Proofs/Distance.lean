import FleetTracking.Proofs.Geo

/-!
# Distances do not see the sign of zero

A column forgets the sign of zero, so a distance between places that were read back may be asked of
other numbers than one between the places that were stored. Differences, products and quotients
of such numbers are the same again, or zeros (`Double.sub_alike`). Sine, cosine and power have no
definition here, so what they do with the two zeros is assumed (`SignedZeros`). It follows that
the distance is the same (`greatCircle_stored`).
-/

namespace FleetTracking

namespace Double

open Float.Model

/-- The zero of a sign. -/
def zero (s : UnpackedFloat.Sign) : Float := .ofModel (.pack (.zero s))

theorem unpack_zero (s : UnpackedFloat.Sign) : (zero s).toModel.unpack = .zero s := by
  cases s <;> rfl

theorem zero_eq (s : UnpackedFloat.Sign) : zero s = 0.0 ∨ zero s = -0.0 := by
  cases s with
  | positive => exact .inl (by rfl)
  | negative => exact .inr (by rfl)

/-- Two numbers are unpacked to the same, or to zeros. -/
def Alike (x y : Float) : Prop :=
  x.toModel.unpack = y.toModel.unpack ∨
    ∃ s t, x.toModel.unpack = .zero s ∧ y.toModel.unpack = .zero t

/-- Two numbers are the same, or zeros. -/
def SameOrZeros (x y : Float) : Prop := x = y ∨ ∃ s t, x = zero s ∧ y = zero t

theorem SameOrZeros.alike {x y : Float} (h : SameOrZeros x y) : Alike x y := by
  obtain rfl | ⟨s, t, rfl, rfl⟩ := h
  · exact .inl rfl
  · exact .inr ⟨s, t, unpack_zero s, unpack_zero t⟩

theorem alike_storedNumber (x : Float) : Alike (storedNumber x) x := by
  unfold storedNumber
  by_cases hx : (x == 0.0) = true
  · rw [if_pos hx]
    rcases unpack_eq_or_zeros hx with ⟨hsame, _⟩ | ⟨s, t, hs, ht⟩
    · exact .inl hsame.symm
    · exact .inr ⟨t, s, ht, hs⟩
  · rw [if_neg hx]
    exact .inl rfl

theorem zero_sub_zero (s t : UnpackedFloat.Sign) :
    ∃ u, UnpackedFloat.sub .binary64 (.zero s) (.zero t) = .zero u := by
  unfold UnpackedFloat.sub
  dsimp only
  split
  · exact ⟨_, rfl⟩
  · exact ⟨_, rfl⟩

theorem sub_alike {x x' y y' : Float} (hx : Alike x x') (hy : Alike y y') :
    SameOrZeros (x - y) (x' - y') := by
  have hsub (a b : Float) : a - b =
      .ofModel (.pack (UnpackedFloat.sub .binary64 a.toModel.unpack b.toModel.unpack)) := rfl
  have hzeros (s t s' t' : UnpackedFloat.Sign) : SameOrZeros
      (.ofModel (.pack (UnpackedFloat.sub .binary64 (.zero s) (.zero t))))
      (.ofModel (.pack (UnpackedFloat.sub .binary64 (.zero s') (.zero t')))) := by
    obtain ⟨u, hu⟩ := zero_sub_zero s t
    obtain ⟨u', hu'⟩ := zero_sub_zero s' t'
    rw [hu, hu']
    exact .inr ⟨u, u', rfl, rfl⟩
  rw [hsub, hsub]
  obtain hx | ⟨s, s', hs, hs'⟩ := hx
  · rw [hx]
    obtain hy | ⟨t, t', ht, ht'⟩ := hy
    · rw [hy]
      exact .inl rfl
    · rw [ht, ht']
      -- a number less a zero is the number, unless it is a zero itself
      cases x'.toModel.unpack with
      | zero s => exact hzeros s t s t'
      | notANumber | infinity _ | finite _ _ _ _ => exact .inl rfl
  · rw [hs, hs']
    obtain hy | ⟨t, t', ht, ht'⟩ := hy
    · rw [hy]
      cases y'.toModel.unpack with
      | zero t => exact hzeros s t s' t
      | notANumber | infinity _ | finite _ _ _ _ => exact .inl rfl
    · rw [ht, ht']
      exact hzeros s t s' t'

theorem mul_alike {x x' : Float} (hx : Alike x x') (c : Float) : SameOrZeros (x * c) (x' * c) := by
  have hmul (a : Float) : a * c =
      .ofModel (.pack (UnpackedFloat.mul .binary64 a.toModel.unpack c.toModel.unpack)) := rfl
  rw [hmul, hmul]
  obtain hx | ⟨s, t, hs, ht⟩ := hx
  · rw [hx]
    exact .inl rfl
  · rw [hs, ht]
    -- a zero keeps being one, except beside what makes it nan
    cases c.toModel.unpack with
    | notANumber | infinity _ => exact .inl rfl
    | zero u => exact .inr ⟨s * u, t * u, rfl, rfl⟩
    | finite u m e hm => exact .inr ⟨s * u, t * u, rfl, rfl⟩

theorem div_alike {x x' : Float} (hx : Alike x x') (c : Float) : SameOrZeros (x / c) (x' / c) := by
  have hdiv (a : Float) : a / c =
      .ofModel (.pack (UnpackedFloat.div .binary64 a.toModel.unpack c.toModel.unpack)) := rfl
  rw [hdiv, hdiv]
  obtain hx | ⟨s, t, hs, ht⟩ := hx
  · rw [hx]
    exact .inl rfl
  · rw [hs, ht]
    cases c.toModel.unpack with
    | notANumber | zero _ => exact .inl rfl
    | infinity u => exact .inr ⟨s / u, t / u, rfl, rfl⟩
    | finite u m e hm => exact .inr ⟨s / u, t / u, rfl, rfl⟩

/-! ## Functions without a definition -/

/-- What these functions are known to do with the two zeros. -/
structure SignedZeros : Prop where
  sin : Float.sin 0.0 = 0.0 ∧ Float.sin (-0.0) = -0.0
  cos : Float.cos (-0.0) = Float.cos 0.0
  pow : Float.pow (-0.0) 2.0 = Float.pow 0.0 2.0

theorem SignedZeros.cos_eq (h : SignedZeros) {x x' : Float} (hx : SameOrZeros x x') :
    x.cos = x'.cos := by
  have hzero (s : UnpackedFloat.Sign) : (zero s).cos = Float.cos 0.0 := by
    obtain hs | hs := zero_eq s
    · rw [hs]
    · rw [hs, h.cos]
  obtain rfl | ⟨s, t, rfl, rfl⟩ := hx
  · rfl
  · rw [hzero, hzero]

theorem SignedZeros.power_sin_eq (h : SignedZeros) {x x' : Float} (hx : SameOrZeros x x') :
    power 2.0 x.sin = power 2.0 x'.sin := by
  have hzero (s : UnpackedFloat.Sign) : power 2.0 (zero s).sin = Float.pow 0.0 2.0 := by
    obtain hs | hs := zero_eq s
    · rw [hs, h.sin.1]
      rfl
    · rw [hs, h.sin.2]
      exact h.pow
  obtain rfl | ⟨s, t, rfl, rfl⟩ := hx
  · rfl
  · rw [hzero, hzero]

end Double

/-! ## Distances -/

open Double

theorem haversine_stored (h : SignedZeros) (a b : Coordinates) :
    haversine a.stored b.stored = haversine a b := by
  have hcos (x : Float) : (radians (storedNumber x)).cos = (radians x).cos :=
    h.cos_eq (mul_alike (alike_storedNumber x) _)
  -- half the difference on one axis, whose sine is squared
  have hhalf (x y : Float) :
      power 2.0 (radians (storedNumber x - storedNumber y) / 2.0).sin =
        power 2.0 (radians (x - y) / 2.0).sin := by
    have hsub := sub_alike (alike_storedNumber x) (alike_storedNumber y)
    have hradians : SameOrZeros (radians (storedNumber x - storedNumber y)) (radians (x - y)) :=
      mul_alike hsub.alike _
    exact h.power_sin_eq (div_alike hradians.alike _)
  show power 2.0 (radians (storedNumber b.latitude - storedNumber a.latitude) / 2.0).sin +
      (radians (storedNumber a.latitude)).cos * (radians (storedNumber b.latitude)).cos *
        power 2.0 (radians (storedNumber b.longitude - storedNumber a.longitude) / 2.0).sin = _
  rw [hhalf, hhalf, hcos, hcos]
  rfl

/-- Columns give a place back as it was, or what they change is the sign of zeros, which is known
to make no difference. -/
def Coordinates.IsKept (c : Coordinates) : Prop := c.stored = c ∨ SignedZeros

/-- The distance between two places is that between what columns give back of them. -/
theorem greatCircle_stored (radius : Float) {a b : Coordinates} (ha : a.IsKept) (hb : b.IsKept) :
    greatCircle radius a.stored b.stored = greatCircle radius a b := by
  have hzeros (h : SignedZeros) : greatCircle radius a.stored b.stored = greatCircle radius a b := by
    unfold greatCircle
    rw [haversine_stored h]
  rcases ha with ha | ha
  · rcases hb with hb | hb
    · rw [ha, hb]
    · exact hzeros hb
  · exact hzeros ha

end FleetTracking
