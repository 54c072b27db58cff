import FleetTracking.Proofs.Geo
import FleetTracking.Proofs.Service.Submission

/-!
# Submissions that fail

Whatever the rules are, and wherever a submission fails, the store is the same afterwards: at a null
input, at a rule, at the look for what a batch has in common, at one of its items, or at the save
(`submit_error`, `submitBatch_error`). So the requests around the failed submissions of a run are
answered as if these had never been made (`runAll_successful`).
-/

namespace FleetTracking.Request

section LawfulStore

variable {σ : Type} [FleetStore σ] [LawfulStore σ] {s s' : σ} (hs : LawfulStore.IsIdle s)
  (v : Validator)

include hs

theorem submit_error {p? : Option Position} {e : Failure}
    (h : Service.submit v s p? = (.error e, s')) : s' = s := by
  obtain ⟨e', he⟩ | ⟨_, _, _, _, hok, _⟩ := Service.submit_cases hs v p?
  · rw [he] at h
    exact (Prod.mk.inj h).2.symm
  · rw [hok] at h
    nomatch h

theorem submitBatch_error {policy : BatchPolicy} {ps? : Option (List Position)} {e : Failure}
    (h : Service.submitBatch v policy s ps? = (.error e, s')) : s' = s := by
  obtain ⟨e', he⟩ | ⟨_, _, _, _, hok, _⟩ := Service.submitBatch_cases hs v policy ps?
  · rw [he] at h
    exact (Prod.mk.inj h).2.symm
  · rw [hok] at h
    nomatch h

/-- A request that fails leaves the store as it was. -/
theorem run_error {r : Request} {e : Failure} (h : (r.run v s).1 = .error e) : (r.run v s).2 = s := by
  cases r with
  | submit p? =>
    change (Service.submit v s p?).1.map Answer.position = .error e at h
    show (Service.submit v s p?).2 = s
    exact submit_error hs v (Prod.ext (map_eq_error.mp h) rfl)
  | submitBatch policy ps? =>
    change (Service.submitBatch v policy s ps?).1.map Answer.positions = .error e at h
    show (Service.submitBatch v policy s ps?).2 = s
    exact submitBatch_error hs v (Prod.ext (map_eq_error.mp h) rfl)
  | _ => rfl

omit hs

/-- Whether a request of a run was a submission that failed. -/
def isFailed (step : Request × Except Failure Answer) : Bool :=
  step.1.isSubmission && !step.2.isOk

/-- The requests of a run with their answers, but for the submissions that failed. -/
def successful (v : Validator) (s : σ) (rs : List Request) :
    List (Request × Except Failure Answer) :=
  (rs.zip (runAll v s rs).1).filter fun step => !isFailed step

include hs

/-- The other requests of a run, made alone, are answered as they were and end in the same store. -/
theorem runAll_successful (rs : List Request) :
    runAll v s ((successful v s rs).map Prod.fst) =
      ((successful v s rs).map Prod.snd, (runAll v s rs).2) := by
  -- along the run, in which every store is idle
  induction rs generalizing s with
  | nil => rfl
  | cons r rest ih =>
    have hrest := ih (Service.stored_run hs v r).2
    have hsteps : successful v s (r :: rest) =
        if isFailed (r, (r.run v s).1) then successful v (r.run v s).2 rest
        else (r, (r.run v s).1) :: successful v (r.run v s).2 rest := by
      show List.filter _ ((r, (r.run v s).1) :: _) = _
      rw [List.filter_cons]
      cases isFailed (r, (r.run v s).1) <;> rfl
    rw [hsteps]
    cases hfailed : isFailed (r, (r.run v s).1) with
    | false =>
      show (_ :: (runAll v (r.run v s).2 _).1, (runAll v (r.run v s).2 _).2) = _
      rw [hrest]
      rfl
    | true =>
      obtain ⟨_, herror⟩ := Bool.and_eq_true_iff.mp hfailed
      cases hanswer : (r.run v s).1 with
      | ok answer =>
        rw [hanswer] at herror
        nomatch herror
      | error e =>
        have hsame := run_error hs v hanswer
        rw [hsame] at hrest ⊢
        rw [if_pos rfl, hrest]
        show _ = (_, (runAll v (r.run v s).2 rest).2)
        rw [hsame]

theorem isIdle_runAll (rs : List Request) : LawfulStore.IsIdle (runAll v s rs).2 := by
  induction rs generalizing s with
  | nil => exact hs
  | cons r rest ih => exact ih (Service.stored_run hs v r).2

end LawfulStore

/-- Tables without rows, at work. -/
def emptyTables : Backing := .empty true

/-- No rules at all, so that repeats get as far as the save. -/
def noRules : Validator := ⟨[], .athens⟩

/-- A position at the centre of Athens, and a repeat of it. -/
def repeatedSubmissions : List Request :=
  [.submit (some ⟨some 1, athensCenter, default, none⟩),
    .submit (some ⟨some 1, athensCenter, default, none⟩), .submit none]

end FleetTracking.Request
