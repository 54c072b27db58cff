import FleetTracking.Proofs.Simulation.Draws
import FleetTracking.Proofs.Simulation.Walk
import FleetTracking.Seeding

/-!
# What a sample is

Whatever is drawn, a sample has as many vehicles as were asked for, whose names are all different
because their numbers are, and a track for each of the first of them. The times of a track are laid
down by the clock alone: every five minutes from two hours ago (`IsSample`).

A sample can fail only for what is drawn, or because one of its times lies outside the calendar. It
cannot do so for numbers from zero to below one and a clock that leaves room on both sides
(`exists_sample`), and then its places are near the center.
-/

namespace FleetTracking.Seeding

open Text

/-! ## Names -/

/-- The name of a vehicle with a number, of a kind that is listed or of none. -/
def IsSampleName (number : Nat) (name : String) : Prop :=
  ∃ kind : Nat, name = vehicleKinds[kind]?.getD "" ++ "-" ++ String.ofList (padded 3 number)

/-- The number at the end of a name. -/
def numberOf (name : String) : Nat :=
  Nat.ofDigitChars 10 (name.toList.reverse.takeWhile (· != '-')).reverse 0

theorem isDigit_of_mem_padded {w n : Nat} {c : Char} (h : c ∈ padded w n) : c.isDigit = true := by
  rcases List.mem_append.mp h with h | h
  · rw [(List.mem_replicate.mp h).2]
    rfl
  · exact Nat.isDigit_of_mem_toDigits (by decide) (by decide) h

theorem half?_of_lt {c : Char} (h : c.toNat < 128) : half? c = none :=
  if_neg fun hhalf => by
    have := hhalf.1
    unfold halfDistance at this
    omega

namespace IsSampleName

variable {number : Nat} {name : String} (h : IsSampleName number name)

include h

/-- A name ends in its number, whatever its kind is. -/
theorem numberOf_eq : numberOf name = number := by
  obtain ⟨kind, rfl⟩ := h
  have hdigits : ∀ c ∈ (padded 3 number).reverse, (c != '-') = true := by
    intro c hc
    have hdigit := isDigit_of_mem_padded (List.mem_reverse.mp hc)
    rw [bne_iff_ne]
    rintro rfl
    exact absurd hdigit (by decide)
  have htaken : ((padded 3 number).reverse ++ '-' ::
      (vehicleKinds[kind]?.getD "").toList.reverse).takeWhile (· != '-') =
        (padded 3 number).reverse := by
    rw [List.takeWhile_append_of_pos hdigits, List.takeWhile_cons]
    simp
  unfold numberOf
  simp only [String.toList_append, String.toList_ofList, List.reverse_append, List.append_assoc,
    show "-".toList.reverse = ['-'] from rfl, List.singleton_append]
  rw [htaken, List.reverse_reverse]
  simp [padded, numeral, Nat.ofDigitChars_append]

/-- A name is more than white space. -/
theorem isAllBlank_eq : isAllBlank name = false := by
  obtain ⟨kind, rfl⟩ := h
  unfold isAllBlank
  rw [List.all_eq_false]
  refine ⟨'-', ?_, by decide⟩
  simp [String.toList_append]

/-- A name has only characters that can be written. -/
theorem hasHalf_eq : hasHalf name = false := by
  obtain ⟨kind, rfl⟩ := h
  unfold hasHalf
  rw [List.any_eq_false]
  intro c hc
  have hkinds : (("" :: "-" :: vehicleKinds).all fun k =>
      k.toList.all fun c => c.toNat < 128) = true := by decide
  simp only [List.all_eq_true, decide_eq_true_eq] at hkinds
  rw [half?_of_lt]
  · decide
  rw [String.toList_append, String.toList_append] at hc
  rcases List.mem_append.mp hc with hc | hc
  · rcases List.mem_append.mp hc with hc | hc
    · refine hkinds (vehicleKinds[kind]?.getD "") ?_ c hc
      cases hkind : vehicleKinds[kind]? with
      | none => exact List.mem_cons_self
      | some k => exact List.mem_cons_of_mem _ (List.mem_cons_of_mem _ (List.mem_of_getElem? hkind))
    · exact hkinds "-" (by decide) c hc
  · rw [String.toList_ofList] at hc
    have hdigit := isDigit_of_mem_padded hc
    simp only [Char.isDigit, Bool.and_eq_true, decide_eq_true_eq] at hdigit
    exact Nat.lt_of_le_of_lt (UInt32.le_iff_toNat_le.mp hdigit.2) (by decide)

end IsSampleName

/-! ## What it takes to draw a sample -/

variable {ρ : Type} [RandomSource ρ] {rng rng' : ρ} {now base : Instant}

theorem sampleVehicle_eq_ok {number : Nat} {v : SampleVehicle} :
    sampleVehicle rng now number = (.ok v, rng') ↔
      ∃ kind rng₁ days created,
        RandomSource.place rng vehicleKinds.length = (.ok kind, rng₁) ∧
        RandomSource.integer rng₁ 1 364 = (.ok days, rng') ∧
        now.add (-(days * dayLength)) = .ok created ∧
        v = ⟨vehicleKinds[kind]?.getD "" ++ "-" ++ String.ofList (padded 3 number), created⟩ := by
  unfold sampleVehicle
  constructor
  · intro h
    cases hplace : RandomSource.place rng vehicleKinds.length with
    | mk kind rng₁ =>
      rw [hplace] at h
      cases kind with
      | error e => nomatch h
      | ok kind =>
        cases hinteger : RandomSource.integer rng₁ 1 364 with
        | mk days rng₂ =>
          dsimp only at h
          rw [hinteger] at h
          obtain ⟨hvehicle, rfl⟩ := Prod.mk.inj h
          obtain ⟨n, rfl, hdate⟩ := bind_eq_ok.mp hvehicle
          obtain ⟨created, hcreated, hdone⟩ := bind_eq_ok.mp hdate
          cases hdone
          exact ⟨kind, rng₁, n, created, rfl, hinteger, hcreated, rfl⟩
  · rintro ⟨kind, rng₁, days, created, hplace, hinteger, hcreated, rfl⟩
    rw [hplace]
    dsimp only
    rw [hinteger]
    exact Prod.ext (bind_eq_ok.mpr ⟨days, rfl, bind_eq_ok.mpr ⟨created, hcreated, rfl⟩⟩) rfl

theorem sampleVehicles_succ_eq_ok {number count : Nat} {vs : List SampleVehicle} :
    sampleVehicles rng now number (count + 1) = (.ok vs, rng') ↔
      ∃ v rng₁ rest, sampleVehicle rng now number = (.ok v, rng₁) ∧
        sampleVehicles rng₁ now (number + 1) count = (.ok rest, rng') ∧ vs = v :: rest := by
  conv => lhs; unfold sampleVehicles
  constructor
  · intro h
    split at h
    · nomatch h
    · rename_i v rng₁ hv
      obtain ⟨rest, hrest, rfl⟩ := prod_map_eq_ok.mp h
      exact ⟨v, rng₁, rest, hv, hrest, rfl⟩
  · rintro ⟨v, rng₁, rest, hv, hrest, rfl⟩
    rw [hv]
    exact prod_map_eq_ok.mpr ⟨rest, hrest, rfl⟩

theorem sampleTrack_succ_eq_ok {index : Int} {count : Nat} {track : List SamplePosition} :
    sampleTrack rng base index (count + 1) = (.ok track, rng') ↔
      ∃ latitude rng₁ longitude rng₂ recordedAt rest,
        near rng center.latitude = (latitude, rng₁) ∧
        near rng₁ center.longitude = (longitude, rng₂) ∧
        base.add (index * trackInterval) = .ok recordedAt ∧
        sampleTrack rng₂ base (index + 1) count = (.ok rest, rng') ∧
        track = ⟨⟨latitude, longitude⟩, recordedAt⟩ :: rest := by
  conv => lhs; unfold sampleTrack
  constructor
  · intro h
    dsimp only at h
    split at h
    · nomatch h
    · rename_i recordedAt hrecordedAt
      obtain ⟨rest, hrest, rfl⟩ := prod_map_eq_ok.mp h
      exact ⟨_, _, _, _, recordedAt, rest, rfl, rfl, hrecordedAt, hrest, rfl⟩
  · rintro ⟨latitude, rng₁, longitude, rng₂, recordedAt, rest, hlat, hlon, hrecordedAt, hrest, rfl⟩
    rw [hlat]
    dsimp only
    rw [hlon]
    dsimp only
    rw [hrecordedAt]
    exact prod_map_eq_ok.mpr ⟨rest, hrest, rfl⟩

theorem sampleTracks_succ_eq_ok {length count : Nat} {tracks : List (List SamplePosition)} :
    sampleTracks rng base length (count + 1) = (.ok tracks, rng') ↔
      ∃ track rng₁ rest, sampleTrack rng base 0 length = (.ok track, rng₁) ∧
        sampleTracks rng₁ base length count = (.ok rest, rng') ∧ tracks = track :: rest := by
  conv => lhs; unfold sampleTracks
  constructor
  · intro h
    split at h
    · nomatch h
    · rename_i track rng₁ htrack
      obtain ⟨rest, hrest, rfl⟩ := prod_map_eq_ok.mp h
      exact ⟨track, rng₁, rest, htrack, hrest, rfl⟩
  · rintro ⟨track, rng₁, rest, htrack, hrest, rfl⟩
    rw [htrack]
    exact prod_map_eq_ok.mpr ⟨rest, hrest, rfl⟩

theorem sample_eq_ok {counts : SeedCounts} {vehicles : List SampleVehicle}
    {tracks : List (List SamplePosition)} :
    sample rng now counts = (.ok (vehicles, tracks), rng') ↔
      ∃ rng₁ base, sampleVehicles rng now 1 counts.vehicles.toNat = (.ok vehicles, rng₁) ∧
        now.add (-trackAge) = .ok base ∧
        sampleTracks rng₁ base counts.perVehicle.toNat
          (positionedCount vehicles.length counts.positioned) = (.ok tracks, rng') := by
  unfold sample
  constructor
  · intro h
    split at h
    · nomatch h
    · rename_i vs rng₁ hvehicles
      split at h
      · nomatch h
      · rename_i base hbase
        obtain ⟨hmap, hrng⟩ := Prod.mk.inj h
        obtain ⟨ts, htracks, hpair⟩ := map_eq_ok.mp hmap
        cases hpair
        exact ⟨rng₁, base, hvehicles, hbase, Prod.ext htracks hrng⟩
  · rintro ⟨rng₁, base, hvehicles, hbase, htracks⟩
    rw [hvehicles]
    dsimp only
    rw [hbase]
    dsimp only
    rw [htracks]
    rfl

/-! ## Samples -/

/-- Vehicles have the names that belong to the numbers from `number` on. -/
def AreNamed : Nat → List SampleVehicle → Prop
  | _, [] => True
  | number, v :: rest => IsSampleName number v.name ∧ AreNamed (number + 1) rest

theorem AreNamed.exists_number {number : Nat} {vs : List SampleVehicle} (h : AreNamed number vs)
    {v : SampleVehicle} (hv : v ∈ vs) : ∃ n, IsSampleName n v.name := by
  induction vs generalizing number with
  | nil => nomatch hv
  | cons first rest ih =>
    rcases List.mem_cons.mp hv with rfl | hv
    · exact ⟨number, h.1⟩
    · exact ih h.2 hv

theorem AreNamed.map_numberOf {number : Nat} {vs : List SampleVehicle} (h : AreNamed number vs) :
    vs.map (fun v => numberOf v.name) = List.range' number vs.length := by
  induction vs generalizing number with
  | nil => rfl
  | cons v rest ih =>
    rw [List.map_cons, h.1.numberOf_eq, ih h.2, List.length_cons, List.range'_succ]

/-- No two vehicles share a name, for their names end in different numbers. -/
theorem AreNamed.nodup {number : Nat} {vs : List SampleVehicle} (h : AreNamed number vs) :
    (vs.map SampleVehicle.name).Nodup := by
  refine List.Nodup.of_map numberOf ?_
  rw [List.map_map]
  exact h.map_numberOf ▸ List.nodup_range'

/-- The times of positions, in microseconds. -/
def times (track : List SamplePosition) : List Int := track.map fun p => p.recordedAt.micros

/-- The times from `base` on that a track with so many positions is laid down at. -/
def schedule (base : Int) (length : Nat) : List Int :=
  (List.range length).map fun index : Nat => base + index * trackInterval

/-- A sample of these counts: vehicles with the numbers from one on, and for as many of them as
there should be a track from two hours ago. -/
structure IsSample (now : Instant) (counts : SeedCounts) (vehicles : List SampleVehicle)
    (tracks : List (List SamplePosition)) : Prop where
  length : vehicles.length = counts.vehicles.toNat
  named : AreNamed 1 vehicles
  positioned : tracks.length = positionedCount counts.vehicles.toNat counts.positioned
  times : ∀ track ∈ tracks, times track = schedule (now.micros - trackAge) counts.perVehicle.toNat

theorem sampleVehicles_ok {number count : Nat} {vs : List SampleVehicle}
    (h : sampleVehicles rng now number count = (.ok vs, rng')) :
    vs.length = count ∧ AreNamed number vs := by
  induction count generalizing number vs rng with
  | zero =>
    cases h
    exact ⟨rfl, trivial⟩
  | succ count ih =>
    obtain ⟨v, rng₁, rest, hv, hrest, rfl⟩ := sampleVehicles_succ_eq_ok.mp h
    obtain ⟨kind, _, _, _, _, _, _, rfl⟩ := sampleVehicle_eq_ok.mp hv
    obtain ⟨hlength, hnamed⟩ := ih hrest
    exact ⟨congrArg (· + 1) hlength, ⟨kind, rfl⟩, hnamed⟩

theorem sampleTrack_ok {index : Int} {count : Nat} {track : List SamplePosition}
    (h : sampleTrack rng base index count = (.ok track, rng')) :
    times track = schedule (base.micros + index * trackInterval) count := by
  induction count generalizing index track rng with
  | zero =>
    cases h
    rfl
  | succ count ih =>
    obtain ⟨_, _, _, _, recordedAt, rest, _, _, hrecordedAt, hrest, rfl⟩ :=
      sampleTrack_succ_eq_ok.mp h
    rw [schedule, List.range_succ_eq_map, List.map_cons, List.map_map]
    show (recordedAt.micros : Int) :: times rest = _
    rw [ih hrest, Instant.micros_add hrecordedAt]
    refine congrArg₂ List.cons (by simp) (List.map_congr_left fun i _ => ?_)
    show (base.micros : Int) + (index + 1) * trackInterval + i * trackInterval =
      base.micros + index * trackInterval + (i + 1 : Nat) * trackInterval
    push_cast
    ring

theorem sampleTracks_ok {length count : Nat} {tracks : List (List SamplePosition)}
    (h : sampleTracks rng base length count = (.ok tracks, rng')) :
    tracks.length = count ∧ ∀ track ∈ tracks, times track = schedule base.micros length := by
  induction count generalizing tracks rng with
  | zero =>
    cases h
    exact ⟨rfl, fun _ ht => nomatch ht⟩
  | succ count ih =>
    obtain ⟨track, rng₁, rest, htrack, hrest, rfl⟩ := sampleTracks_succ_eq_ok.mp h
    obtain ⟨hlength, htimes⟩ := ih hrest
    have hfirst := sampleTrack_ok htrack
    rw [Int.zero_mul, Int.add_zero] at hfirst
    exact ⟨congrArg (· + 1) hlength, List.forall_mem_cons.mpr ⟨hfirst, htimes⟩⟩

/-- What is drawn is a sample, if anything is. -/
theorem isSample_of_sample {counts : SeedCounts} {vehicles : List SampleVehicle}
    {tracks : List (List SamplePosition)}
    (h : sample rng now counts = (.ok (vehicles, tracks), rng')) :
    IsSample now counts vehicles tracks := by
  obtain ⟨rng₁, base, hvehicles, hbase, htracks⟩ := sample_eq_ok.mp h
  obtain ⟨hlength, hnamed⟩ := sampleVehicles_ok hvehicles
  obtain ⟨hpositioned, htimes⟩ := sampleTracks_ok htracks
  rw [Instant.micros_add hbase] at htimes
  rw [hlength] at hpositioned
  exact ⟨hlength, hnamed, hpositioned, htimes⟩

/-! ## Room for a sample -/

/-- The last time of the tracks, if there are any, lies in the calendar. -/
def HasRoom (now : Instant) (counts : SeedCounts) : Prop :=
  0 < positionedCount counts.vehicles.toNat counts.positioned → 0 < counts.perVehicle →
    now.micros - trackAge + (counts.perVehicle - 1) * trackInterval < calendarMicros

/-- What lies outside the calendar is no time of a sample. -/
theorem hasRoom_of_isSample {counts : SeedCounts} {vehicles : List SampleVehicle}
    {tracks : List (List SamplePosition)} (h : IsSample now counts vehicles tracks) :
    HasRoom now counts := by
  intro hpositioned hlength
  obtain ⟨track, rest, rfl⟩ := List.exists_cons_of_length_pos (h.positioned ▸ hpositioned)
  have hlast : now.micros - trackAge + (counts.perVehicle - 1) * trackInterval ∈ times track := by
    rw [h.times track List.mem_cons_self]
    refine List.mem_map.mpr ⟨counts.perVehicle.toNat - 1, List.mem_range.mpr (by omega), ?_⟩
    rw [show ((counts.perVehicle.toNat - 1 : Nat) : Int) = counts.perVehicle - 1 by omega]
  obtain ⟨p, _, hp⟩ := List.mem_map.mp hlast
  rw [← hp]
  exact_mod_cast p.recordedAt.inCalendar

theorem exists_add (t : Instant) (delta : Int) (hlow : 0 ≤ t.micros + delta)
    (hhigh : t.micros + delta < calendarMicros) :
    ∃ t', t.add delta = .ok t' ∧ (t'.micros : Int) = t.micros + delta := by
  unfold Instant.add Instant.add? Instant.ofMicros?
  rw [dif_pos ⟨hlow, hhigh⟩]
  exact ⟨_, rfl, Int.toNat_of_nonneg hlow⟩

section Draws

variable {d : Draws} (hd : d.AreUnit)

include hd

theorem exists_sampleVehicle (hyear : 364 * dayLength ≤ now.micros) (number : Nat) :
    ∃ v d', sampleVehicle d now number = (.ok v, d') ∧ d'.AreUnit := by
  obtain ⟨hfirst, hd₁⟩ := hd.next
  obtain ⟨kind, hkind⟩ := Draws.exists_pick hfirst
  obtain ⟨hsecond, hd₂⟩ := hd₁.next
  obtain ⟨days, hdays, hlow, hhigh⟩ := Draws.exists_scale hsecond
  have hmicros := now.inCalendar
  have hdayLength : dayLength = 86400000000 := rfl
  obtain ⟨created, hcreated, _⟩ := exists_add now (-(days * dayLength))
    (by rw [hdayLength]; omega) (by rw [hdayLength]; omega)
  exact ⟨_, _, sampleVehicle_eq_ok.mpr ⟨kind, d.next.2, days, created, Prod.ext hkind rfl,
    Prod.ext hdays rfl, hcreated, rfl⟩, hd₂⟩

theorem exists_sampleVehicles (hyear : 364 * dayLength ≤ now.micros) (number count : Nat) :
    ∃ vs d', sampleVehicles d now number count = (.ok vs, d') ∧ d'.AreUnit := by
  induction count generalizing d number with
  | zero => exact ⟨[], d, rfl, hd⟩
  | succ count ih =>
    obtain ⟨v, d₁, hv, hd₁⟩ := exists_sampleVehicle hd hyear number
    obtain ⟨rest, d', hrest, hd'⟩ := ih hd₁ (number + 1)
    exact ⟨v :: rest, d', sampleVehicles_succ_eq_ok.mpr ⟨v, d₁, rest, hv, hrest, rfl⟩, hd'⟩

/-- What is drawn near a coordinate of the center is moderate, and leads on. -/
theorem near_center {c : Float} (hc : c = center.latitude ∨ c = center.longitude) :
    Double.IsModerate (near d c).1 ∧ (near d c).2.AreUnit := by
  obtain ⟨hunit, hd'⟩ := hd.next
  have hlatitude : center.latitude.toModel.unpack =
      .finite .positive 5345744610191108 (-47) (by decide) := rfl
  have hlongitude : center.longitude.toModel.unpack =
      .finite .positive 6678697509902090 (-48) (by decide) := rfl
  refine ⟨Double.isModerate_near hunit ?_ ?_ ?_, hd'⟩
  · rcases hc with rfl | rfl
    · rw [hlatitude]
      exact .finite (by decide) (by decide) (.inl (by decide))
    · rw [hlongitude]
      exact .finite (by decide) (by decide) (.inl (by decide))
  · rcases hc with rfl | rfl
    · rw [hlatitude]
      norm_num [Double.signed, Float.Model.UnpackedFloat.Sign.apply]
    · rw [hlongitude]
      norm_num [Double.signed, Float.Model.UnpackedFloat.Sign.apply]
  · rcases hc with rfl | rfl
    · rw [hlatitude]
      norm_num [Double.signed, Float.Model.UnpackedFloat.Sign.apply]
    · rw [hlongitude]
      norm_num [Double.signed, Float.Model.UnpackedFloat.Sign.apply]

/-- A track is drawn if its last time lies in the calendar. -/
theorem exists_sampleTrack {index : Int} (hindex : 0 ≤ index) {count : Nat}
    (hroom : 0 < count →
      base.micros + (index + count - 1) * trackInterval < calendarMicros) :
    ∃ track d', sampleTrack d base index count = (.ok track, d') ∧ d'.AreUnit ∧
      ∀ p ∈ track, p.place.IsModerate := by
  induction count generalizing d index with
  | zero => exact ⟨[], d, rfl, hd, fun _ hp => nomatch hp⟩
  | succ count ih =>
    obtain ⟨hlatitude, hd₁⟩ := near_center hd (.inl rfl)
    obtain ⟨hlongitude, hd₂⟩ := near_center hd₁ (.inr rfl)
    have hinterval : trackInterval = 300000000 := rfl
    have hlast := hroom (Nat.succ_pos count)
    rw [hinterval] at hlast
    obtain ⟨recordedAt, hrecordedAt, _⟩ := exists_add base (index * trackInterval)
      (by rw [hinterval]; omega) (by rw [hinterval]; omega)
    obtain ⟨rest, d', hrest, hd', hplaces⟩ := ih hd₂ (show 0 ≤ index + 1 by omega)
      fun hcount => by
        rw [hinterval]
        omega
    exact ⟨_, d', sampleTrack_succ_eq_ok.mpr ⟨_, _, _, _, recordedAt, rest, rfl, rfl, hrecordedAt,
      hrest, rfl⟩, hd', List.forall_mem_cons.mpr ⟨⟨hlatitude, hlongitude⟩, hplaces⟩⟩

theorem exists_sampleTracks {length count : Nat}
    (hroom : 0 < count → 0 < length →
      base.micros + (length - 1 : Int) * trackInterval < calendarMicros) :
    ∃ tracks d', sampleTracks d base length count = (.ok tracks, d') ∧ d'.AreUnit ∧
      ∀ track ∈ tracks, ∀ p ∈ track, p.place.IsModerate := by
  induction count generalizing d with
  | zero => exact ⟨[], d, rfl, hd, fun _ ht => nomatch ht⟩
  | succ count ih =>
    have hroom' := hroom (Nat.succ_pos count)
    have hlast : 0 < length →
        base.micros + (0 + length - 1 : Int) * trackInterval < calendarMicros := by
      rw [zero_add]
      exact hroom'
    obtain ⟨track, d₁, htrack, hd₁, hplaces⟩ := exists_sampleTrack hd (le_refl 0) hlast
    obtain ⟨rest, d', hrest, hd', hothers⟩ := ih hd₁ fun _ => hroom'
    exact ⟨track :: rest, d', sampleTracks_succ_eq_ok.mpr ⟨track, d₁, rest, htrack, hrest, rfl⟩, hd',
      List.forall_mem_cons.mpr ⟨hplaces, hothers⟩⟩

/-- A sample is drawn if there is room for it in the calendar, a year back and to its last time
ahead. Its places are near the center. -/
theorem exists_sample (hyear : 364 * dayLength ≤ now.micros) {counts : SeedCounts}
    (hroom : HasRoom now counts) :
    ∃ vehicles tracks d', sample d now counts = (.ok (vehicles, tracks), d') ∧ d'.AreUnit ∧
      ∀ track ∈ tracks, ∀ p ∈ track, p.place.IsModerate := by
  obtain ⟨vehicles, d₁, hvehicles, hd₁⟩ := exists_sampleVehicles hd hyear 1 counts.vehicles.toNat
  have hmicros := now.inCalendar
  have hdayLength : dayLength = 86400000000 := rfl
  have hage : trackAge = 7200000000 := rfl
  obtain ⟨base, hbase, hbaseMicros⟩ := exists_add now (-trackAge) (by omega) (by omega)
  have hlast : 0 < positionedCount vehicles.length counts.positioned →
      0 < counts.perVehicle.toNat →
        base.micros + (counts.perVehicle.toNat - 1 : Int) * trackInterval < calendarMicros := by
    intro hcount hlength
    rw [(sampleVehicles_ok hvehicles).1] at hcount
    rw [hbaseMicros, Int.toNat_of_nonneg (by omega)]
    exact hroom hcount (by omega)
  obtain ⟨tracks, d', htracks, hd', hplaces⟩ := exists_sampleTracks hd₁ hlast
  exact ⟨vehicles, tracks, d', sample_eq_ok.mpr ⟨d₁, base, hvehicles, hbase, htracks⟩, hd', hplaces⟩

end Draws

end FleetTracking.Seeding
