import FleetTracking.Failure

/-!
# Sources of random numbers

A source yields numbers one after another. The generator of the core library is one. `Draws` is
another, whose numbers are laid down in advance: a list that is used in order, and from its
beginning again when it is used up.
-/

namespace FleetTracking

/-- A source of random numbers. -/
class RandomSource (ρ : Type) where
  /-- A number, usually from zero to below one. -/
  unit : ρ → Float × ρ
  /-- An integer from the first bound to the second. -/
  integer : ρ → Int → Int → Except Failure Int × ρ
  /-- A place in a list of the given length. -/
  place : ρ → Nat → Except Failure Nat × ρ

/-- A number between two bounds. -/
def RandomSource.uniform {ρ : Type} [RandomSource ρ] (rng : ρ) (low high : Float) : Float × ρ :=
  (RandomSource.unit rng).map (fun d => low + (high - low) * d) id

/-! ## Generated numbers -/

instance : RandomSource StdGen where
  unit g := (randNat g 0 (Nat.pow 2 53 - 1)).map (fun n => n.toFloat / 9007199254740992.0) id
  integer g low high := (randNat g 0 (high - low).toNat).map (fun n : Nat => .ok (low + n)) id
  place g length :=
    if length = 0 then (.error .indexOutOfBounds, g)
    else (randNat g 0 (length - 1)).map .ok id

/-! ## Numbers laid down in advance -/

/-- The greatest integer that is not above a number. -/
def floor (x : Float) : Except Failure Int :=
  match (Decimal.Binary.ofFloat x).floor? with
  | some n => .ok n
  | none => .error (if x.isNaN then .badValue else .outOfRange)

/-- A list of numbers, and how many have been used. -/
structure Draws where
  values : List Float
  used : Nat

namespace Draws

/-- The given numbers; one half over and over again if there are none. -/
def ofList (values : List Float) : Draws := ⟨if values.isEmpty then [0.5] else values, 0⟩

/-- The next number. -/
def next (d : Draws) : Float × Draws :=
  (d.values[d.used % d.values.length]?.getD 0.5, { d with used := d.used + 1 })

/-- The integer that lies at a fraction of the way between two bounds. -/
def scale (low high : Int) (d : Float) : Except Failure Int := do
  return low + (← floor (d * Decimal.ofInt (high - low + 1)))

/-- The place at a fraction of the way through a list; a negative one counts from its end. -/
def pick (length : Nat) (d : Float) : Except Failure Nat := do
  let i ← floor (d * Decimal.ofInt length)
  let i := if i < 0 then i + length else i
  if 0 ≤ i ∧ i < length then return i.toNat else .error .indexOutOfBounds

end Draws

instance : RandomSource Draws where
  unit := Draws.next
  integer d low high := d.next.map (Draws.scale low high) id
  place d length := d.next.map (Draws.pick length) id

end FleetTracking
