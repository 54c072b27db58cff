import FleetTracking.Proofs.Outcome
import FleetTracking.Proofs.Service.Request
import FleetTracking.Proofs.Store.Lawful

/-!
# What a submission does to a store

Whatever the rules are, a submission to an idle store either fails and leaves the store as it was,
or stores what it answers and leaves the store idle (`submit_cases`, `submitBatch_cases`). The
positions that a batch stores belong to one vehicle. So no request does more to an idle store than a
save of some positions does (`store_run`).
-/

namespace FleetTracking.Service

variable {σ : Type} [FleetStore σ]

/-! ## The items of a batch -/

/-- A batch that is accepted as a whole has positions of one active vehicle only. -/
theorem validateBatch_accepted {s : σ} {ps : List Position}
    (h : Validator.validateBatch s ps = .ok .accepted) :
    ∃ p rest w, ps = p :: rest ∧ (∀ q ∈ ps, q.vehicle = p.vehicle) ∧
      FleetStore.vehicle? s p.vehicle = .ok (some w) ∧ w.isActive = true := by
  unfold Validator.validateBatch at h
  cases ps with
  | nil => nomatch h
  | cons p rest =>
    dsimp only at h
    split at h
    · nomatch h
    · rename_i hmixed
      obtain ⟨found, hvehicle, h⟩ := bind_eq_ok.mp h
      cases found with
      | none => nomatch h
      | some w =>
        refine ⟨p, rest, w, rfl, ?_, hvehicle, ?_⟩
        · intro q hq
          rcases List.mem_cons.mp hq with rfl | hq
          · rfl
          · simp only [List.any_eq_true, bne_iff_ne, ne_eq, not_exists, not_and,
              Decidable.not_not] at hmixed
            exact hmixed q hq
        · cases hactive : w.isActive with
          | true => rfl
          | false =>
            change Except.ok (if w.isActive then _ else _) = _ at h
            rw [hactive] at h
            nomatch h

theorem accepted_subset_of_screen {v : Validator} {s : σ} {seen : List Instant}
    {ps : List Position} {screening : Screening} (h : screen v s seen ps = .ok screening) :
    ∀ p ∈ screening.accepted, p ∈ ps := by
  induction ps generalizing seen screening with
  | nil =>
    cases h
    simp
  | cons p rest ih =>
    obtain ⟨found, _, h⟩ := bind_eq_ok.mp h
    split at h
    · obtain ⟨others, hothers, h⟩ := bind_eq_ok.mp h
      cases h
      intro q hq
      rcases List.mem_cons.mp hq with rfl | hq
      · exact List.mem_cons_self
      · exact List.mem_cons_of_mem _ (ih hothers q hq)
    · obtain ⟨others, hothers, h⟩ := bind_eq_ok.mp h
      cases h
      exact fun q hq => List.mem_cons_of_mem _ (ih hothers q hq)

theorem accepted_subset_of_select {v : Validator} {policy : BatchPolicy} {s : σ}
    {ps accepted : List Position} (h : select v policy s ps = .ok accepted) :
    ∀ p ∈ accepted, p ∈ ps := by
  obtain ⟨verdict, _, h⟩ := bind_eq_ok.mp h
  cases verdict with
  | refused reasons => nomatch h
  | accepted =>
    obtain ⟨screening, hscreening, h⟩ := bind_eq_ok.mp h
    split at h
    · nomatch h
    · cases h
      exact accepted_subset_of_screen hscreening

/-- What is selected of a batch belongs to one vehicle that is known. -/
theorem vehicle_of_select {v : Validator} {policy : BatchPolicy} {s : σ} {ps accepted : List Position}
    (h : select v policy s ps = .ok accepted) :
    ∃ u w, FleetStore.vehicle? s u = .ok (some w) ∧ ∀ p ∈ accepted, p.vehicle = u := by
  have hsubset := accepted_subset_of_select h
  obtain ⟨verdict, hverdict, h⟩ := bind_eq_ok.mp h
  cases verdict with
  | refused reasons => nomatch h
  | accepted =>
    obtain ⟨p, rest, w, rfl, hone, hvehicle, _⟩ := validateBatch_accepted hverdict
    exact ⟨p.vehicle, w, hvehicle, fun q hq => hone q (hsubset q hq)⟩

/-! ## Saves behind answers -/

/-- What a submission answers, a save of its position has answered first, after the rules have
accepted it. -/
theorem store_of_submit {v : Validator} {s s' : σ} {p? : Option Position} {q : Position}
    (h : submit v s p? = (.ok q, s')) :
    ∃ p rest, p? = some p ∧ v.validate s p = .ok .accepted ∧
      store s [p] = (.ok (q :: rest), s') := by
  cases p? with
  | none => nomatch h
  | some p =>
    refine ⟨p, ?_⟩
    unfold submit at h
    dsimp only at h
    split at h
    · nomatch h
    · nomatch h
    · rename_i haccepted
      cases hstore : store s [p] with
      | mk result s'' =>
        rw [hstore] at h
        cases result with
        | error e => nomatch h
        | ok saved =>
          cases saved with
          | nil => nomatch h
          | cons q' rest =>
            cases h
            exact ⟨rest, rfl, haccepted, rfl⟩

/-- What a batch answers, a save of what was selected of it has answered. -/
theorem store_of_submitBatch [LawfulStore σ] {v : Validator} {s s' : σ}
    (hs : LawfulStore.IsIdle s) {policy : BatchPolicy} {ps? : Option (List Position)}
    {saved : List Position}
    (h : submitBatch v policy s ps? = (.ok saved, s')) :
    ∃ ps accepted, ps? = some ps ∧ select v policy s ps = .ok accepted ∧
      store s accepted = (.ok saved, s') := by
  cases ps? with
  | none => nomatch h
  | some ps =>
    refine ⟨ps, ?_⟩
    unfold submitBatch at h
    dsimp only at h
    split at h
    · nomatch h
    · rename_i hselect
      cases h
      exact ⟨[], rfl, hselect, LawfulStore.store_nil hs⟩
    · rename_i hselect
      exact ⟨_, rfl, hselect, h⟩

/-! ## Outcomes -/

variable [LawfulStore σ] {s : σ} (hs : LawfulStore.IsIdle s)

include hs

/-- A submission fails and leaves everything as it was, or it stores its position. -/
theorem submit_cases (v : Validator) (p? : Option Position) :
    (∃ e, submit v s p? = (.error e, s)) ∨
    ∃ p q s', p? = some p ∧ submit v s p? = (.ok q, s') ∧ Stored s [p] [q] s' ∧
      LawfulStore.IsIdle s' := by
  cases p? with
  | none => exact .inl ⟨_, rfl⟩
  | some p =>
    unfold submit
    dsimp only
    cases v.validate s p with
    | error e => exact .inl ⟨e, rfl⟩
    | ok verdict =>
      cases verdict with
      | refused reasons => exact .inl ⟨_, rfl⟩
      | accepted =>
        cases hstore : store s [p] with
        | mk result s' =>
          cases result with
          | error e =>
            rw [LawfulStore.store_error hs hstore]
            exact .inl ⟨e, rfl⟩
          | ok saved =>
            have hstored := LawfulStore.stored hs hstore
            match saved, hstored with
            | [q], hstored =>
              exact .inr ⟨p, q, s', rfl, rfl, hstored, LawfulStore.isIdle_store hs hstore⟩
            | [], hstored => nomatch hstored.keys
            | _ :: _ :: _, hstored => nomatch (List.cons.inj hstored.keys).2

/-- A batch fails and leaves everything as it was, or it stores positions of one vehicle. -/
theorem submitBatch_cases (v : Validator) (policy : BatchPolicy) (ps? : Option (List Position)) :
    (∃ e, submitBatch v policy s ps? = (.error e, s)) ∨
    ∃ accepted saved s' u, submitBatch v policy s ps? = (.ok saved, s') ∧
      Stored s accepted saved s' ∧ LawfulStore.IsIdle s' ∧ ∀ p ∈ accepted, p.vehicle = u := by
  cases ps? with
  | none => exact .inl ⟨_, rfl⟩
  | some ps =>
    unfold submitBatch
    dsimp only
    cases hselect : select v policy s ps with
    | error e => exact .inl ⟨e, rfl⟩
    | ok accepted =>
      obtain ⟨u, _, _, hu⟩ := vehicle_of_select hselect
      cases accepted with
      | nil => exact .inr ⟨[], [], s, u, rfl, Stored.refl s, hs, hu⟩
      | cons p rest =>
        dsimp only
        cases hstore : store s (p :: rest) with
        | mk result s' =>
          cases result with
          | error e =>
            rw [LawfulStore.store_error hs hstore]
            exact .inl ⟨e, rfl⟩
          | ok saved =>
            exact .inr ⟨p :: rest, saved, s', u, rfl, LawfulStore.stored hs hstore,
              LawfulStore.isIdle_store hs hstore, hu⟩

/-- Whatever is asked, the store is afterwards as it is after a save of some positions, if not
none. -/
theorem store_run (v : Validator) (r : Request) :
    ∃ new saved, store s new = (.ok saved, (r.run v s).2) := by
  have hnone : ∃ new saved, store s new = (.ok saved, s) := ⟨[], [], LawfulStore.store_nil hs⟩
  cases r with
  | submit p? =>
    show ∃ new saved, store s new = (.ok saved, (submit v s p?).2)
    obtain ⟨e, h⟩ | ⟨p, q, s', _, h, _⟩ := submit_cases hs v p?
    · rw [h]
      exact hnone
    · obtain ⟨p, rest, _, _, hstore⟩ := store_of_submit h
      rw [h]
      exact ⟨_, _, hstore⟩
  | submitBatch policy ps? =>
    show ∃ new saved, store s new = (.ok saved, (submitBatch v policy s ps?).2)
    obtain ⟨e, h⟩ | ⟨_, saved, s', _, h, _⟩ := submitBatch_cases hs v policy ps?
    · rw [h]
      exact hnone
    · obtain ⟨_, _, _, _, hstore⟩ := store_of_submitBatch hs h
      rw [h]
      exact ⟨_, _, hstore⟩
  | _ => exact hnone

/-- Whatever is asked, the store has some positions in addition afterwards, if not none. -/
theorem stored_run (v : Validator) (r : Request) :
    (∃ ps saved, Stored s ps saved (r.run v s).2) ∧ LawfulStore.IsIdle (r.run v s).2 := by
  obtain ⟨new, saved, hstore⟩ := store_run hs v r
  exact ⟨⟨new, saved, LawfulStore.stored hs hstore⟩, LawfulStore.isIdle_store hs hstore⟩

end FleetTracking.Service
