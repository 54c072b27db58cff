import FleetTracking.Proofs.Outcome
import FleetTracking.Route
import Mathlib.Algebra.Group.Defs

/-!
# Routes that are cut at a position

A route is the legs from each of its positions to the next one (`Route.legs`), and its length is a
running sum over them from the first to the last (`Route.addLegs_eq_sumLegs`). Cutting a route at a
position gives two routes which share that position and no leg (`Route.legs_append`).

So the sum over the whole route goes on over the second part where it stopped at the end of the
first one, whatever is added and however. Only where the addition is that of a monoid, as it is for
exact numbers and is not for floating ones, does it come to the lengths of both parts together
(`Route.sumLegs_exact`).

Main statement: `Route.cut_at_position`.
-/

namespace FleetTracking.Route

/-! ## Legs -/

/-- The legs of a route, from each position to the next one. -/
def legs (ps : List Position) : List (Position × Position) := ps.zip ps.tail

theorem legs_append (xs : List Position) (m : Position) (ys : List Position) :
    legs (xs ++ m :: ys) = legs (xs ++ [m]) ++ legs (m :: ys) := by
  induction xs with
  | nil => rfl
  | cons p rest ih =>
    cases rest with
    | nil => rfl
    | cons q rest =>
      show (p, q) :: legs (q :: rest ++ m :: ys) =
        (p, q) :: (legs (q :: rest ++ [m]) ++ legs (m :: ys))
      rw [ih]

/-! ## Sums over legs -/

/-- Goes on with a sum over legs, for lengths that can be added in some way. -/
def sumLegs [Add α] (distance : Coordinates → Coordinates → Except Failure α) (sum : α)
    (legs : List (Position × Position)) : Except Failure α :=
  legs.foldlM (fun sum leg => do
    return sum + (← distance leg.1.coordinates leg.2.coordinates)) sum

theorem addLegs_eq_sumLegs (distance : Coordinates → Coordinates → Except Failure Float)
    (sum : Float) (ps : List Position) : addLegs distance sum ps = sumLegs distance sum (legs ps) := by
  induction ps generalizing sum with
  | nil => rfl
  | cons p rest ih =>
    cases rest with
    | nil => rfl
    | cons q rest =>
      show (do
        let leg ← distance p.coordinates q.coordinates
        addLegs distance (sum + leg) (q :: rest)) = _
      simp only [ih]
      show _ = ((do return sum + (← distance p.coordinates q.coordinates)) >>= fun sum =>
        sumLegs distance sum (legs (q :: rest)))
      rw [bind_assoc]
      rfl

theorem totalDistance_eq_sumLegs (distance : Coordinates → Coordinates → Except Failure Float)
    (ps : List Position) : totalDistance distance ps = sumLegs distance 0.0 (legs ps) :=
  addLegs_eq_sumLegs distance 0.0 ps

theorem sumLegs_append [Add α] (distance : Coordinates → Coordinates → Except Failure α) (sum : α)
    (ls ls' : List (Position × Position)) :
    sumLegs distance sum (ls ++ ls') = sumLegs distance sum ls >>= fun sum =>
      sumLegs distance sum ls' :=
  List.foldlM_append

/-- Whether there is a sum, and why not, depends on the legs and not on what it starts with. -/
theorem sumLegs_unit [Add α] (distance : Coordinates → Coordinates → Except Failure α) (a b : α)
    (ls : List (Position × Position)) :
    (sumLegs distance a ls).map (fun _ => ()) = (sumLegs distance b ls).map fun _ => () := by
  induction ls generalizing a b with
  | nil => rfl
  | cons leg rest ih =>
    unfold sumLegs
    rw [List.foldlM_cons, List.foldlM_cons]
    cases distance leg.1.coordinates leg.2.coordinates with
    | error e => rfl
    | ok d => exact ih (a + d) (b + d)

section Exact

variable [AddMonoid α] (distance : Coordinates → Coordinates → Except Failure α)

/-- Where addition is associative, what a sum starts with can be added afterwards. -/
theorem sumLegs_add (a b : α) (ls : List (Position × Position)) :
    sumLegs distance (a + b) ls = (sumLegs distance b ls).map (a + ·) := by
  induction ls generalizing b with
  | nil => rfl
  | cons leg rest ih =>
    unfold sumLegs
    rw [List.foldlM_cons, List.foldlM_cons]
    cases distance leg.1.coordinates leg.2.coordinates with
    | error e => rfl
    | ok d =>
      show sumLegs distance (a + b + d) rest = (sumLegs distance (b + d) rest).map (a + ·)
      rw [add_assoc, ih]

theorem sumLegs_exact (ls ls' : List (Position × Position)) :
    sumLegs distance 0 (ls ++ ls') = (do
      return (← sumLegs distance 0 ls) + (← sumLegs distance 0 ls')) := by
  rw [sumLegs_append]
  refine congrArg (sumLegs distance 0 ls >>= ·) (funext fun sum => ?_)
  have hzero := sumLegs_add distance sum 0 ls'
  rw [add_zero] at hzero
  rw [hzero]
  cases sumLegs distance 0 ls' <;> rfl

end Exact

/-! ## Time -/

theorem duration_append (xs : List Position) (m : Position) (ys : List Position) :
    duration (xs ++ m :: ys) = duration (xs ++ [m]) + duration (m :: ys) := by
  cases xs with
  | nil =>
    show duration (m :: ys) = ((m.recordedAt.micros : Int) - m.recordedAt.micros) + duration (m :: ys)
    omega
  | cons p rest =>
    have hwhole : (p :: (rest ++ m :: ys)).getLast (by simp) = (m :: ys).getLast (by simp) :=
      List.getLast_append_of_ne_nil (l := p :: rest) _ (by simp)
    have hfirst : (p :: (rest ++ [m])).getLast (by simp) = m :=
      List.getLast_concat (l := p :: rest)
    show (((p :: (rest ++ m :: ys)).getLast (by simp)).recordedAt.micros : Int) - _ =
      (((p :: (rest ++ [m])).getLast (by simp)).recordedAt.micros - _) +
        (((m :: ys).getLast (by simp)).recordedAt.micros - _)
    rw [hwhole, hfirst]
    omega

/-! ## Statistics -/

/-- The statistics of so many positions at this distance and in this time. -/
def summary (total : Float) (count : Nat) (micros : Int) : Statistics :=
  ⟨total, count, seconds micros, if seconds micros > 0.0 then total / seconds micros else 0.0⟩

theorem statistics_eq_summary (distance : Coordinates → Coordinates → Except Failure Float)
    (ps : List Position) : statistics distance ps =
      (totalDistance distance ps).map fun total => summary total ps.length (duration ps) := by
  cases ps with
  | nil => rfl
  | cons p rest =>
    show (do
      let total ← totalDistance distance (p :: rest)
      return summary total (p :: rest).length (duration (p :: rest))) = _
    cases totalDistance distance (p :: rest) <;> rfl

/-! ## The cut -/

/-- A route that is cut at one of its positions has the legs of both parts, in order. Its length is
the running sum of the first part, gone on with over the legs of the second one, with whatever
numbers and addition; in a monoid it is the sum of both lengths. Counted are the positions of both
parts but for the one that they share, and the time is the sum of both times, to the microsecond.
Wherever one of the parts has no length, the whole has none for the same reason. -/
theorem cut_at_position (distance : Coordinates → Coordinates → Except Failure Float)
    (xs : List Position) (m : Position) (ys : List Position) :
    legs (xs ++ m :: ys) = legs (xs ++ [m]) ++ legs (m :: ys) ∧
    (∀ ps, totalDistance distance ps = sumLegs distance 0.0 (legs ps)) ∧
    totalDistance distance (xs ++ m :: ys) = (do
      let sum ← totalDistance distance (xs ++ [m])
      sumLegs distance sum (legs (m :: ys))) ∧
    (∀ {α : Type} [AddMonoid α] (length : Coordinates → Coordinates → Except Failure α),
      sumLegs length 0 (legs (xs ++ m :: ys)) = (do
        return (← sumLegs length 0 (legs (xs ++ [m]))) + (← sumLegs length 0 (legs (m :: ys))))) ∧
    duration (xs ++ m :: ys) = duration (xs ++ [m]) + duration (m :: ys) ∧
    (∀ ps, statistics distance ps =
      (totalDistance distance ps).map fun total => summary total ps.length (duration ps)) ∧
    statistics distance (xs ++ m :: ys) = (do
      let first ← statistics distance (xs ++ [m])
      let second ← statistics distance (m :: ys)
      let total ← sumLegs distance first.totalDistance (legs (m :: ys))
      return summary total (first.positionCount + second.positionCount - 1)
        (duration (xs ++ [m]) + duration (m :: ys))) := by
  have hlength : totalDistance distance (xs ++ m :: ys) = (do
      let sum ← totalDistance distance (xs ++ [m])
      sumLegs distance sum (legs (m :: ys))) := by
    simp only [totalDistance_eq_sumLegs, legs_append xs m ys, sumLegs_append]
  refine ⟨legs_append xs m ys, totalDistance_eq_sumLegs distance, hlength, fun length => ?_,
    duration_append xs m ys, statistics_eq_summary distance, ?_⟩
  · rw [legs_append, sumLegs_exact]
  · have hcount : (xs ++ [m]).length + (m :: ys).length - 1 = (xs ++ m :: ys).length := by
      simp only [List.length_append, List.length_cons, List.length_nil]
      omega
    simp only [statistics_eq_summary, hlength, totalDistance_eq_sumLegs distance (m :: ys),
      duration_append xs m ys, ← hcount]
    cases totalDistance distance (xs ++ [m]) with
    | error e => rfl
    | ok sum =>
      -- the second part has a length of its own just where the sum can go on over it
      obtain ⟨e, hgoes, hsecond⟩ | ⟨total, second, hgoes, hsecond, _⟩ :=
        map_eq_map (sumLegs_unit distance sum 0.0 (legs (m :: ys)))
      · rw [hsecond]
        show (sumLegs distance sum _).map _ = _
        rw [hgoes]
        rfl
      · rw [hsecond]
        show (sumLegs distance sum _).map _ = (do
          let total ← sumLegs distance sum (legs (m :: ys))
          return summary total _ _)
        rw [hgoes]
        rfl

end FleetTracking.Route
