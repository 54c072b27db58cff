import FleetTracking.Route

/-!
# Routes of changed positions

Length, time and speed of a route read nothing of a position but its place and its instant. Where
positions are changed so that their instants and the distances between them stay the same, so do the
sum of the legs (`addLegs_map`) and the statistics (`statistics_map`).
-/

namespace FleetTracking.Route

variable {distance : Coordinates → Coordinates → Except Failure Float} {f : Position → Position}
  {ps : List Position}

theorem addLegs_map (h : ∀ p ∈ ps, ∀ q ∈ ps,
    distance (f p).coordinates (f q).coordinates = distance p.coordinates q.coordinates)
    (sum : Float) : addLegs distance sum (ps.map f) = addLegs distance sum ps := by
  induction ps generalizing sum with
  | nil => rfl
  | cons p rest ih =>
    cases rest with
    | nil => rfl
    | cons q rest =>
      have hleg := h p List.mem_cons_self q (List.mem_cons_of_mem _ List.mem_cons_self)
      have hrest := ih fun a ha b hb => h a (List.mem_cons_of_mem _ ha) b (List.mem_cons_of_mem _ hb)
      show (do
        let leg ← distance (f p).coordinates (f q).coordinates
        addLegs distance (sum + leg) ((q :: rest).map f)) = _
      rw [hleg]
      simp only [hrest]
      rfl

variable (hf : ∀ p, (f p).recordedAt = p.recordedAt)

include hf

theorem duration_map (ps : List Position) : duration (ps.map f) = duration ps := by
  cases ps with
  | nil => rfl
  | cons p rest =>
    have hlast : ((p :: rest).map f).getLast (by simp) = f ((p :: rest).getLast (by simp)) :=
      List.getLast_map (by simp)
    show (((((p :: rest).map f).getLast (by simp)).recordedAt.micros : Int) -
      (f p).recordedAt.micros) = _
    rw [hlast, hf, hf]
    rfl

theorem statistics_map (h : ∀ p ∈ ps, ∀ q ∈ ps,
    distance (f p).coordinates (f q).coordinates = distance p.coordinates q.coordinates) :
    statistics distance (ps.map f) = statistics distance ps := by
  cases ps with
  | nil => rfl
  | cons p rest =>
    have htotal := addLegs_map h 0.0
    have hduration := duration_map hf (p :: rest)
    unfold statistics totalDistance
    rw [List.map_cons] at htotal hduration ⊢
    dsimp only
    rw [htotal, hduration, List.length_cons, List.length_cons, List.length_map]

end FleetTracking.Route
