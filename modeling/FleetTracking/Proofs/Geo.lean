import FleetTracking.Proofs.Calendar
import FleetTracking.Store.Tables

/-!
# Numbers that agree are the same place

Two doubles agree (`==`) when neither is nan and they are the same but for the sign of zero.
Nothing that places are asked can tell such numbers apart: not the ranges of the globe, not a box
(`Box.contains_congr`). A column forgets the sign of zero (`storedNumber`), so what it gives back
agrees with what was put in (`Coordinates.agrees_stored`).
-/

namespace FleetTracking

/-! ## Doubles -/

namespace Double

open Float.Model

/-- Numbers that agree are the same, or both are zeros. -/
theorem unpack_eq_or_zeros {x y : Float} (h : (x == y) = true) :
    (x.toModel.unpack = y.toModel.unpack ∧ x.toModel.unpack ≠ .notANumber) ∨
      ∃ s t, x.toModel.unpack = .zero s ∧ y.toModel.unpack = .zero t := by
  change (x.toModel.unpack.compare y.toModel.unpack == some .eq) = true at h
  generalize x.toModel.unpack = a at h ⊢
  generalize y.toModel.unpack = b at h ⊢
  cases a with
  | notANumber => cases h
  | zero s =>
    cases b with
    | zero t => exact Or.inr ⟨s, t, rfl, rfl⟩
    | notANumber => cases h
    | infinity t => cases t <;> cases h
    | finite t m e hm => cases t <;> cases h
  | infinity s =>
    cases b with
    | infinity t => cases s <;> cases t <;> first | exact Or.inl ⟨rfl, fun hn => by cases hn⟩ | cases h
    | zero t => cases s <;> cases h
    | notANumber => cases h
    | finite t m e hm => cases s <;> cases h
  | finite s m e hm =>
    cases b with
    | finite t m' e' hm' =>
      -- of equal signs, exponents are compared first and mantissas then
      have hsame : s = t ∧ (compare e e').then (compare m m') = .eq := by
        cases s <;> cases t
        · refine ⟨rfl, ?_⟩
          change (some ((compare e e').then (compare m m')).swap == some .eq) = true at h
          simpa using h
        · cases h
        · cases h
        · refine ⟨rfl, ?_⟩
          change (some ((compare e e').then (compare m m')) == some .eq) = true at h
          simpa using h
      obtain ⟨rfl, hthen⟩ := hsame
      obtain ⟨hexponent, hmantissa⟩ := Ordering.then_eq_eq.mp hthen
      obtain rfl := Std.LawfulEqCmp.eq_of_compare hexponent
      obtain rfl := Std.LawfulEqCmp.eq_of_compare hmantissa
      exact Or.inl ⟨rfl, fun hn => by cases hn⟩
    | zero t => cases s <;> cases h
    | notANumber => cases h
    | infinity t => cases t <;> cases h

theorem compare_zero_right (a : UnpackedFloat) (s t : UnpackedFloat.Sign) :
    a.compare (.zero s) = a.compare (.zero t) := by
  cases a with
  | infinity s => cases s <;> rfl
  | finite s m e h => cases s <;> rfl
  | zero _ | notANumber => rfl

theorem compare_zero_left (a : UnpackedFloat) (s t : UnpackedFloat.Sign) :
    UnpackedFloat.compare (.zero s) a = UnpackedFloat.compare (.zero t) a := by
  cases a with
  | infinity s => cases s <;> rfl
  | finite s m e h => cases s <;> rfl
  | zero _ | notANumber => rfl

/-- Numbers that agree compare alike with every other one. -/
theorem compare_congr {x y : Float} (h : (x == y) = true) (a : UnpackedFloat) :
    a.compare x.toModel.unpack = a.compare y.toModel.unpack ∧
      x.toModel.unpack.compare a = y.toModel.unpack.compare a := by
  rcases unpack_eq_or_zeros h with ⟨he, _⟩ | ⟨s, t, hs, ht⟩
  · rw [he]
    exact ⟨rfl, rfl⟩
  · rw [hs, ht]
    exact ⟨compare_zero_right a s t, compare_zero_left a s t⟩

theorem le_iff (x y : Float) :
    x ≤ y ↔ (x.toModel.unpack.compare y.toModel.unpack).any (·.isLE) = true := by
  change decide (x.toModel ≤ y.toModel) = true ↔ _
  exact decide_eq_true_iff

theorem beq_iff (x y : Float) :
    (x == y) = true ↔ (x.toModel.unpack.compare y.toModel.unpack == some .eq) = true := Iff.rfl

theorem le_congr_right {x y : Float} (h : (x == y) = true) (a : Float) : a ≤ x ↔ a ≤ y := by
  rw [le_iff, le_iff, (compare_congr h _).1]

theorem le_congr_left {x y : Float} (h : (x == y) = true) (a : Float) : x ≤ a ↔ y ≤ a := by
  rw [le_iff, le_iff, (compare_congr h _).2]

theorem beq_self {x : Float} (h : x.isNaN = false) : (x == x) = true := by
  rw [beq_iff]
  change x.toModel.unpack.isNaN = false at h
  generalize x.toModel.unpack = a at h ⊢
  cases a with
  | infinity s => cases s <;> rfl
  | finite s m e hm =>
    cases s
    · show (some ((compare e e).then (compare m m)).swap == some .eq) = true
      simp
    · show (some ((compare e e).then (compare m m)) == some .eq) = true
      simp
  | zero s => rfl
  | notANumber => cases h

theorem isNaN_of_beq {x y : Float} (h : (x == y) = true) :
    x.isNaN = false ∧ y.isNaN = false := by
  change x.toModel.unpack.isNaN = false ∧ y.toModel.unpack.isNaN = false
  rcases unpack_eq_or_zeros h with ⟨he, hn⟩ | ⟨s, t, hs, ht⟩
  · rw [← he]
    have hx : x.toModel.unpack.isNaN = false := by
      revert hn
      generalize x.toModel.unpack = a
      cases a with
      | notANumber => exact fun hn => absurd rfl hn
      | zero _ | infinity _ | finite _ _ _ _ => exact fun _ => rfl
    exact ⟨hx, hx⟩
  · rw [hs, ht]
    exact ⟨rfl, rfl⟩

theorem beq_symm {x y : Float} (h : (x == y) = true) : (y == x) = true := by
  have hself := beq_self (isNaN_of_beq h).1
  rw [beq_iff] at hself ⊢
  rw [← (compare_congr h _).2]
  exact hself

/-- Nothing is at most nan, nor is nan at most anything. -/
theorem isNaN_of_le {x y : Float} (h : x ≤ y) : x.isNaN = false ∧ y.isNaN = false := by
  rw [le_iff] at h
  change x.toModel.unpack.isNaN = false ∧ y.toModel.unpack.isNaN = false
  revert h
  generalize x.toModel.unpack = a
  generalize y.toModel.unpack = b
  cases a with
  | notANumber => exact fun h => by cases h
  | zero _ | infinity _ | finite _ _ _ _ =>
    cases b with
    | notANumber => exact fun h => by cases h
    | zero _ | infinity _ | finite _ _ _ _ => exact fun _ => ⟨rfl, rfl⟩

/-- Numbers are at most themselves, if they are at most or at least anything. -/
theorem le_self {x : Float} (h : x.isNaN = false) : x ≤ x := by
  have hself := beq_self h
  rw [beq_iff, beq_iff_eq] at hself
  rw [le_iff, hself]
  rfl

theorem le_of_lt {x y : Float} (h : x < y) : x ≤ y := by
  change decide (x.toModel < y.toModel) = true at h
  have hlt : (x.toModel.unpack.compare y.toModel.unpack == some .lt) = true := of_decide_eq_true h
  rw [beq_iff_eq] at hlt
  rw [le_iff, hlt]
  rfl

end Double

/-- A column keeps a number up to the sign of zero. -/
theorem storedNumber_beq {x : Float} (h : x.isNaN = false) : (storedNumber x == x) = true := by
  unfold storedNumber
  by_cases hx : (x == 0.0) = true
  · rw [if_pos hx]
    exact Double.beq_symm hx
  · rw [if_neg hx]
    exact Double.beq_self h

/-! ## Places -/

/-- A point as columns keep it. -/
def Point.stored (p : Point) : Point := ⟨storedNumber p.latitude, storedNumber p.longitude⟩

/-- Numbers that agree are on Earth together. -/
theorem Point.isOnEarth_congr {p q : Point} (hlat : (p.latitude == q.latitude) = true)
    (hlon : (p.longitude == q.longitude) = true) : p.isOnEarth = q.isOnEarth := by
  unfold Point.isOnEarth
  simp only [Double.le_congr_right hlat, Double.le_congr_left hlat, Double.le_congr_right hlon,
    Double.le_congr_left hlon]

/-- Numbers that agree lie in the same boxes. -/
theorem Box.contains_congr (box : Box) {p q : Point} (hlat : (p.latitude == q.latitude) = true)
    (hlon : (p.longitude == q.longitude) = true) : box.contains p = box.contains q := by
  unfold Box.contains
  simp only [Double.le_congr_right hlat, Double.le_congr_left hlat, Double.le_congr_right hlon,
    Double.le_congr_left hlon]

namespace Coordinates

/-- Places on Earth are numbers. -/
theorem isNaN_eq_false (c : Coordinates) :
    c.latitude.isNaN = false ∧ c.longitude.isNaN = false := by
  have h := c.onEarth
  simp only [Point.isOnEarth, Bool.and_eq_true, decide_eq_true_eq] at h
  exact ⟨(Double.isNaN_of_le h.1.2).1, (Double.isNaN_of_le h.2.2).1⟩

theorem agrees_iff {a b : Coordinates} : a.agrees b = true ↔
    (a.latitude == b.latitude) = true ∧ (a.longitude == b.longitude) = true := by
  unfold agrees
  exact Bool.and_eq_true _ _ ▸ Iff.rfl

theorem agrees_refl (c : Coordinates) : c.agrees c = true :=
  agrees_iff.mpr ⟨Double.beq_self c.isNaN_eq_false.1, Double.beq_self c.isNaN_eq_false.2⟩

theorem stored_beq (c : Coordinates) : (c.toPoint.stored.latitude == c.latitude) = true ∧
    (c.toPoint.stored.longitude == c.longitude) = true :=
  ⟨storedNumber_beq c.isNaN_eq_false.1, storedNumber_beq c.isNaN_eq_false.2⟩

/-- A place as columns keep it. -/
def stored (c : Coordinates) : Coordinates :=
  ⟨c.toPoint.stored, by rw [Point.isOnEarth_congr c.stored_beq.1 c.stored_beq.2, c.onEarth]⟩

theorem agrees_stored (c : Coordinates) : c.stored.agrees c = true := agrees_iff.mpr c.stored_beq

/-- The check that a place is on Earth does not change it. -/
theorem toPoint_of_ofPoint {p : Point} {c : Coordinates} (h : ofPoint p = .ok c) :
    c.toPoint = p := by
  unfold ofPoint at h
  split at h
  · cases h
    rfl
  · nomatch h

/-- A place is read back from its columns. -/
theorem ofPoint_stored (c : Coordinates) : ofPoint c.toPoint.stored = .ok c.stored :=
  dif_pos c.stored.onEarth

end Coordinates

/-- A place is reported, at whatever instant, just if it is on Earth. -/
theorem Position.report_eq_ok {u : VehicleRef} {place : Point} {t : Instant} {p : Position} :
    report u place t.timestamp none = .ok p ↔
      ∃ h : place.isOnEarth = true, p = ⟨u, ⟨place, h⟩, t, none⟩ := by
  unfold report Coordinates.ofPoint
  rw [Instant.instant_timestamp]
  by_cases h : place.isOnEarth = true
  · rw [dif_pos h]
    constructor
    · intro heq
      cases heq
      exact ⟨h, rfl⟩
    · rintro ⟨_, rfl⟩
      rfl
  · rw [dif_neg h]
    constructor
    · intro heq
      nomatch heq
    · rintro ⟨h', _⟩
      exact absurd h' h

/-- A place in Athens. -/
def athensCenter : Coordinates := ⟨⟨38.0, 23.7⟩, by decide⟩

end FleetTracking
