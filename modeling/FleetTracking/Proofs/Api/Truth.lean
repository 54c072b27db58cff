import FleetTracking.Api.Respond
import FleetTracking.Proofs.Cache.Coherence
import FleetTracking.Proofs.Store.Appended

/-!
# Answers tell the truth about the store

Whoever is answered that positions were stored finds them in the store, in the order and under the
numbers of the answer and with nothing else that is new; whoever is answered anything but a success
finds the store as it was (`isTruthful_respond`). So what is stored after a run of requests can be
read off the answers (`storedPositions_respondAll`).

Behind the commit two things are left that might fail. Views are removed from the cache, where a
command that fails goes unnoticed, and the vehicles of a batch can be put in order, because there is
only one (`Cached.submitBatch_outcome`). And the positions are written to the body, which no
character of theirs prevents (`Api.Data.hasHalf_ofPosition`).
-/

namespace FleetTracking

/-! ## Submissions -/

namespace Service

variable {b b' : Backing} {v : Validator}

theorem appended_submit (hb : b.IsIdle) {p? : Option Position} {q : Position}
    (h : submit v b p? = (.ok q, b')) : b.Appended [q] b' := by
  obtain ⟨p, rest, _, _, hstore⟩ := store_of_submit h
  obtain ⟨happended, hcopies⟩ := Backing.appended_store hb hstore
  cases hcopies with
  | cons _ hrest =>
    cases hrest
    exact happended

theorem appended_submitBatch (hb : b.IsIdle) {policy : BatchPolicy}
    {ps? : Option (List Position)} {saved : List Position}
    (h : submitBatch v policy b ps? = (.ok saved, b')) : b.Appended saved b' := by
  obtain ⟨_, _, _, _, hstore⟩ := store_of_submitBatch hb h
  exact (Backing.appended_store hb hstore).1

end Service

/-! ## Behind the commit -/

namespace Cached

variable {b : Backing}

/-- A cached submission fails and leaves the store as it was, or it stores what it answers: whatever
the cache does, nothing fails once the position is stored. -/
theorem submit_outcome (hb : b.IsIdle) (v : Validator) (cache : Cache) (p? : Option Position) :
    (∃ e, submit v b cache p? = (.error e, b, cache)) ∨
    ∃ q b' cache', submit v b cache p? = (.ok q, b', cache') ∧ b.Appended [q] b' ∧ b'.IsIdle := by
  unfold submit
  obtain ⟨e, h⟩ | ⟨p, q, b', rfl, h, _, hidle⟩ := Service.submit_cases (s := b) hb v p?
  · rw [h]
    exact .inl ⟨e, rfl⟩
  · have hone : ∀ w ∈ [p.vehicle], w = p.vehicle := fun _ hw => List.mem_singleton.mp hw
    rw [h]
    dsimp only [Option.toList, List.map]
    rw [invalidate_eq cache hone]
    exact .inr ⟨q, b', _, rfl, Service.appended_submit hb h, hidle⟩

/-- The same of a batch, whose positions belong to one vehicle. -/
theorem submitBatch_outcome (hb : b.IsIdle) (v : Validator) (policy : BatchPolicy) (cache : Cache)
    (ps? : Option (List Position)) :
    (∃ e, submitBatch v policy b cache ps? = (.error e, b, cache)) ∨
    ∃ saved b' cache', submitBatch v policy b cache ps? = (.ok saved, b', cache') ∧
      b.Appended saved b' ∧ b'.IsIdle := by
  unfold submitBatch
  obtain ⟨e, h⟩ | ⟨accepted, saved, b', u, h, hstored, hidle, hu⟩ :=
    Service.submitBatch_cases (s := b) hb v policy ps?
  · rw [h]
    exact .inl ⟨e, rfl⟩
  · have happended := Service.appended_submitBatch hb h
    have hone : ∀ w ∈ saved.map Position.vehicle, w = u := by
      rw [hstored.map_vehicle]
      exact List.forall_mem_map.mpr hu
    rw [h]
    cases saved with
    | nil => exact .inr ⟨[], b', cache, rfl, happended, hidle⟩
    | cons q rest =>
      dsimp only
      rw [invalidate_eq cache hone]
      exact .inr ⟨q :: rest, b', _, rfl, happended, hidle⟩

end Cached

/-! ## Writing what was saved -/

namespace Text

theorem half?_of_isDigit {c : Char} (h : isDigit c = true) : half? c = none := by
  unfold isDigit digitValue? at h
  split at h
  · rename_i hdigit
    simp only [Bool.and_eq_true, decide_eq_true_eq] at hdigit
    refine if_neg fun hhalf => ?_
    unfold halfDistance at hhalf
    omega
  · nomatch h

/-- A date and a time are written without halves of surrogates. -/
theorem half?_of_mem_civilChars (t : Civil) : ∀ c ∈ Iso.civilChars t, half? c = none := by
  have hdigits : ∀ {w n}, ∀ c ∈ fixedWidth w n, half? c = none :=
    fun c hc => half?_of_isDigit (mem_fixedWidth hc)
  have hfraction : ∀ {n}, ∀ c ∈ Iso.fractionChars n, half? c = none := by
    intro n
    unfold Iso.fractionChars
    split
    · exact fun c hc => nomatch hc
    · exact List.forall_mem_cons.mpr ⟨rfl, hdigits⟩
  simp only [Iso.civilChars, Iso.dateChars, Iso.timeChars, List.forall_mem_append,
    List.forall_mem_cons]
  exact ⟨⟨⟨hdigits, rfl, hdigits⟩, rfl, hdigits⟩, rfl,
    ⟨⟨hdigits, rfl, hdigits⟩, rfl, hdigits⟩, hfraction⟩

end Text

namespace Api

theorem Moment.hasHalf_render (t : Instant) : Text.hasHalf (render t.timestamp) = false := by
  have hzone : zoneChars .zero = ['Z'] := by decide
  unfold Text.hasHalf render
  simp only [Instant.timestamp, Option.map, Option.getD, hzone]
  rw [String.toList_ofList, List.any_eq_false]
  intro c hc
  obtain hc | hc := List.mem_append.mp hc
  · rw [Text.half?_of_mem_civilChars _ c hc]
    decide
  · rw [List.mem_singleton.mp hc]
    decide

namespace Data

theorem hasHalf_ofPosition (p : Position) :
    (ofPosition (PositionRecord.ofPosition p)).hasHalf = false := by
  have hid (n : Option Int) : (Json.ofOption Json.int n).hasHalf = false := by cases n <;> rfl
  have hnames : Text.hasHalf "id" = false ∧ Text.hasHalf "vehicle_id" = false ∧
      Text.hasHalf "latitude" = false ∧ Text.hasHalf "longitude" = false ∧
      Text.hasHalf "recorded_at" = false := by decide
  simp only [ofPosition, PositionRecord.ofPosition, VehicleRef.toJson, Json.hasHalf,
    Json.fieldsHaveHalf, hid, hnames, Moment.hasHalf_render, Bool.or_self]

theorem hasHalf_ofPositions (ps : List Position) :
    (ofPositions (ps.map PositionRecord.ofPosition)).hasHalf = false := by
  show Json.itemsHaveHalf ((ps.map PositionRecord.ofPosition).map ofPosition) = false
  induction ps with
  | nil => rfl
  | cons p rest ih =>
    simp only [List.map_cons, Json.itemsHaveHalf, hasHalf_ofPosition, Bool.false_or]
    exact ih

/-- The positions that were submitted, of data that answers a submission. -/
def submitted? : Data → Option (List Position)
  | saved p => some [p]
  | positions ps => some ps
  | _ => none

end Data

/-- What answers a submission can always be written. -/
theorem Answer.ofData_of_submitted? {data : Data} {saved : List Position}
    (h : data.submitted? = some saved) (message : Option String) :
    ofData data message = success data message := by
  refine if_pos ?_
  cases data with
  | saved p => exact congrArg (!·) (Data.hasHalf_ofPosition p)
  | positions ps => exact congrArg (!·) (Data.hasHalf_ofPositions ps)
  | _ => nomatch h

/-! ## Calls -/

theorem Answer.status_ofFailure (f : Failure) : (ofFailure f).status ≠ 200 := by
  cases f <;> simp [ofFailure, status]

theorem Answer.status_ofProblems (problems : List Problem) : (ofProblems problems).status ≠ 200 := by
  unfold ofProblems
  split <;> simp [status]

theorem Answer.status_ofBodyTrouble (trouble : Json.BodyTrouble) :
    (ofBodyTrouble trouble).status ≠ 200 := by
  unfold ofBodyTrouble
  split <;> decide

/-- Whether a call may store positions. -/
def Call.isSubmission : Call → Bool
  | submit _ _ | submitBatch _ _ => true
  | _ => false

/-- What becomes of a store `b` under a submission: it is refused and the store is as it was, or its
answer lists what was stored. -/
inductive SubmissionOutcome (b : Backing) : Answer → Backing → Prop
  | refused {answer : Answer} (h : answer.status ≠ 200) : SubmissionOutcome b answer b
  | stored {data : Data} {saved : List Position} {b' : Backing} (message : Option String)
    (hdata : data.submitted? = some saved) (happended : b.Appended saved b') (hidle : b'.IsIdle) :
    SubmissionOutcome b (.success data message) b'

section Calls

variable {b : Backing} (settings : Settings) (cache : Cache)

theorem submissionOutcome_submit (hb : b.IsIdle) (vehicle : Int) (report : Report) :
    SubmissionOutcome b (submit settings b cache vehicle report).1
      (submit settings b cache vehicle report).2.1 := by
  unfold submit
  cases report.position (some vehicle) with
  | error f => exact .refused (Answer.status_ofFailure f)
  | ok p =>
    obtain ⟨f, h⟩ | ⟨q, b', cache', h, happended, hidle⟩ :=
      Cached.submit_outcome hb (validatorOf settings) cache (some p)
    · dsimp only
      rw [h]
      exact .refused (Answer.status_ofFailure f)
    · dsimp only
      rw [h]
      have hdata : (Data.saved q).submitted? = some [q] := rfl
      dsimp only
      rw [Answer.ofData_of_submitted? hdata]
      exact .stored _ hdata happended hidle

theorem submissionOutcome_submitBatch (hb : b.IsIdle) (policy : BatchPolicy) (vehicle : Int)
    (reports : List Report) :
    SubmissionOutcome b (submitBatch settings policy b cache vehicle reports).1
      (submitBatch settings policy b cache vehicle reports).2.1 := by
  unfold submitBatch
  cases reports.mapM (Report.position (some vehicle)) with
  | error f => exact .refused (Answer.status_ofFailure f)
  | ok ps =>
    obtain ⟨f, h⟩ | ⟨saved, b', cache', h, happended, hidle⟩ :=
      Cached.submitBatch_outcome hb (validatorOf settings) policy cache (some ps)
    · dsimp only
      rw [h]
      exact .refused (Answer.status_ofFailure f)
    · dsimp only
      rw [h]
      have hdata : (Data.positions saved).submitted? = some saved := rfl
      dsimp only
      rw [Answer.ofData_of_submitted? hdata]
      exact .stored _ hdata happended hidle

variable (policy : BatchPolicy) (now : Instant) (database : Health.DatabaseState)

theorem submissionOutcome_perform (hb : b.IsIdle) {call : Call} (hcall : call.isSubmission = true) :
    SubmissionOutcome b (perform settings policy now database b cache call).1
      (perform settings policy now database b cache call).2.1 := by
  cases call with
  | submit vehicle report => exact submissionOutcome_submit settings cache hb vehicle report
  | submitBatch vehicle reports =>
    exact submissionOutcome_submitBatch settings cache hb policy vehicle reports
  | _ => nomatch hcall

/-- Every other call leaves the store as it is. -/
theorem perform_of_not_isSubmission {call : Call} (hcall : call.isSubmission = false) :
    (perform settings policy now database b cache call).2.1 = b := by
  cases call with
  | submit _ _ | submitBatch _ _ => nomatch hcall
  | _ => rfl

end Calls

/-! ## Requests -/

/-- The calls that may store positions are those that are read from a body. -/
theorem isSubmission_of_readCall {endpoint : Endpoint} {target : Target} {body : Option Json}
    {call : Call} (h : readCall endpoint target body = .ok call) :
    call.isSubmission = endpoint.hasBody := by
  cases endpoint with
  | submit | submitBatch | lastPosition _ | vehicle _ | trackedVehicle _ | positions _ | route _
  | statistics _ =>
    dsimp only [readCall, windowed] at h
    obtain ⟨_, _, rfl⟩ := map_eq_ok.mp h
    rfl
  | _ =>
    cases h
    rfl

/-- The endpoints that look at a body are those that answer to this method. -/
theorem Endpoint.contains_methods_post (endpoint : Endpoint) :
    endpoint.methods.contains "POST" = endpoint.hasBody := by
  cases endpoint <;> rfl

theorem Endpoint.method_of_hasBody {endpoint : Endpoint} {method : String}
    (h : endpoint.methods.contains method = true) (hbody : endpoint.hasBody = true) :
    method = "POST" := by
  cases endpoint with
  | submit | submitBatch => exact List.mem_singleton.mp (List.contains_iff_mem.mp h)
  | _ => nomatch hbody

section Requests

variable {b : Backing} (settings : Settings) (now : Instant) (database : Health.DatabaseState)
  (cache : Cache)

theorem submissionOutcome_respond (hb : b.IsIdle) {request : Request}
    (hpost : request.method = "POST") :
    SubmissionOutcome b (respond settings now database b cache request).1
      (respond settings now database b cache request).2.1 := by
  unfold respond
  cases Endpoint.of? request.target.segments with
  | none =>
    refine .refused ?_
    dsimp only
    split <;> decide
  | some endpoint =>
    dsimp only
    rw [hpost, endpoint.contains_methods_post]
    cases hbody : endpoint.hasBody with
    | false =>
      rw [if_neg Bool.false_ne_true]
      have hwrong : Answer.wrongMethod.status ≠ 200 := by decide
      exact .refused hwrong
    | true =>
      unfold respondAt
      rw [if_pos rfl]
      cases bodyFor endpoint request with
      | error trouble => exact .refused (Answer.status_ofBodyTrouble trouble)
      | ok body =>
        cases policyFor settings endpoint with
        | error f => exact .refused (Answer.status_ofFailure f)
        | ok policy =>
          cases hcall : readCall endpoint request.target body with
          | error problems =>
            dsimp only
            rw [hcall]
            exact .refused (Answer.status_ofProblems problems)
          | ok call =>
            dsimp only
            rw [hcall]
            exact submissionOutcome_perform settings cache policy now database hb
              ((isSubmission_of_readCall hcall).trans hbody)

theorem respond_of_not_post {request : Request} (hpost : request.method ≠ "POST") :
    (respond settings now database b cache request).2.1 = b := by
  unfold respond
  cases Endpoint.of? request.target.segments with
  | none => rfl
  | some endpoint =>
    dsimp only
    split
    · rename_i hmethod
      unfold respondAt
      split
      · rfl
      · split
        · rfl
        · split
          · rfl
          · rename_i call hcall
            refine perform_of_not_isSubmission settings cache _ now database ?_
            rw [isSubmission_of_readCall hcall, Bool.eq_false_iff]
            exact fun hbody => hpost (Endpoint.method_of_hasBody hmethod hbody)
    · rfl

/-- What an answer to a request says about a store `b` that is `b'` afterwards. -/
structure IsTruthful (request : Request) (b : Backing) (answer : Answer) (b' : Backing) : Prop where
  isIdle : b'.IsIdle
  /-- Whoever is told of no success finds everything as it was, the next number included. -/
  of_status : answer.status ≠ 200 → b' = b
  /-- Only one method changes anything. -/
  of_method : request.method ≠ "POST" → b' = b
  /-- Whoever is told that positions were stored finds just these behind the others. -/
  appended : request.method = "POST" → answer.status = 200 →
    ∃ data message saved, answer = .success data message ∧ data.submitted? = some saved ∧
      b.Appended saved b'

/-- Every answer tells the truth about an idle store, whatever the settings are, whichever store is
at work, and whichever commands of the cache fail. -/
theorem isTruthful_respond (hb : b.IsIdle) (request : Request) :
    IsTruthful request b (respond settings now database b cache request).1
      (respond settings now database b cache request).2.1 := by
  by_cases hpost : request.method = "POST"
  · have houtcome := submissionOutcome_respond settings now database cache hb hpost
    generalize (respond settings now database b cache request).1 = answer at houtcome ⊢
    generalize (respond settings now database b cache request).2.1 = b' at houtcome ⊢
    cases houtcome with
    | refused h => exact ⟨hb, fun _ => rfl, fun _ => rfl, fun _ hstatus => absurd hstatus h⟩
    | stored message hdata happended hidle =>
      exact ⟨hidle, fun h => absurd rfl h, fun h => absurd hpost h,
        fun _ _ => ⟨_, message, _, rfl, hdata, happended⟩⟩
  · have hsame := respond_of_not_post settings now database cache (b := b) hpost
    refine ⟨?_, fun _ => hsame, fun _ => hsame, fun h => absurd h hpost⟩
    rw [hsame]
    exact hb

end Requests

/-- Tables with a vehicle and no positions, at work. -/
def tabledVehicle : Backing :=
  ⟨true, .empty, ⟨⟨some [⟨1, "Truck", true, (default : Instant).civil⟩], some []⟩, .empty⟩⟩

/-- The submission of a position in Athens. -/
def submission : Request where
  method := "POST"
  target := ⟨["api", "v1", "gps", "position"], []⟩
  body := "\x7b\"vehicle_id\": 1, \"latitude\": 38, \"longitude\": 23.7, \"recorded_at\": 0\x7d"

/-- The answer to it by a service whose cache loses removals, and the store afterwards. -/
def submissionAnswered : Answer × Backing × Cache :=
  respond ({} : Settings) default (.reachable "sqlite" tabledVehicle.connection.tables) tabledVehicle
    ((Cache.empty true).breakdown [.delete]) submission

/-- The hypothesis holds of tables to which a submission adds a position although the views of the
vehicle stay in the cache. -/
theorem submission_truthful :
    tabledVehicle.IsIdle ∧ submissionAnswered.1.status = 200 ∧
    submissionAnswered.2.1.storedPositions.toOption.map List.length = some 1 ∧
    ∃ data message saved, submissionAnswered.1 = .success data message ∧
      data.submitted? = some saved ∧ tabledVehicle.Appended saved submissionAnswered.2.1 := by
  have hidle : tabledVehicle.IsIdle := rfl
  have hstatus : submissionAnswered.1.status = 200 := by decide +kernel
  exact ⟨hidle, hstatus, by decide +kernel,
    (isTruthful_respond _ _ _ _ hidle submission).appended rfl hstatus⟩

/-! ## Runs -/

/-- A request at its time: the present, the database as a check finds it, and the commands of the
cache that fail meanwhile. -/
structure Visit where
  request : Request
  now : Instant
  database : Health.DatabaseState
  failing : List CacheVerb

/-- The positions that an answer lists as stored by its request. -/
def Answer.submitted (request : Request) : Answer → List Position
  | success data _ => if request.method = "POST" then data.submitted?.getD [] else []
  | _ => []

/-- Responds to requests one after another, each in a session of its own. The answers are told with
their requests. -/
def respondAll {σ : Type} [FleetStore σ] (settings : Settings) (s : σ) (cache : Cache) :
    List Visit → List (Request × Answer) × σ × Cache
  | [] => ([], s, cache)
  | visit :: rest =>
    let (answer, s, cache) := respond settings visit.now visit.database (FleetStore.reopen s)
      (cache.breakdown visit.failing) visit.request
    let (answers, s, cache) := respondAll settings s cache rest
    ((visit.request, answer) :: answers, s, cache)

theorem IsTruthful.appended_submitted {request : Request} {b b' : Backing} {answer : Answer}
    (h : IsTruthful request b answer b') : b.Appended (answer.submitted request) b' := by
  by_cases hpost : request.method = "POST"
  · by_cases hstatus : answer.status = 200
    · obtain ⟨data, message, saved, rfl, hdata, happended⟩ := h.appended hpost hstatus
      have hlisted : (Answer.success data message).submitted request = saved := by
        show (if request.method = "POST" then _ else _) = saved
        rw [if_pos hpost, hdata]
        rfl
      rw [hlisted]
      exact happended
    · have hnone : answer.submitted request = [] := by
        cases answer with
        | success _ _ => exact absurd rfl hstatus
        | _ => rfl
      rw [hnone, h.of_status hstatus]
      exact .refl b
  · have hnone : answer.submitted request = [] := by
      cases answer with
      | success _ _ => exact if_neg hpost
      | _ => rfl
    rw [hnone, h.of_method hpost]
    exact .refl b

/-- A run of requests adds to a store what its answers list as stored, in the order of the run, and
nothing else. -/
theorem appended_respondAll (settings : Settings) {b : Backing} (hb : b.IsIdle) (cache : Cache)
    (visits : List Visit) :
    (respondAll settings b cache visits).2.1.IsIdle ∧
    b.Appended ((respondAll settings b cache visits).1.flatMap fun step => step.2.submitted step.1)
      (respondAll settings b cache visits).2.1 := by
  induction visits generalizing b cache with
  | nil => exact ⟨hb, .refl b⟩
  | cons visit rest ih =>
    have hstep := isTruthful_respond settings visit.now visit.database
      (cache.breakdown visit.failing) hb visit.request
    unfold respondAll
    rw [Backing.reopen_eq hb]
    generalize respond settings visit.now visit.database b (cache.breakdown visit.failing)
      visit.request = outcome at hstep ⊢
    obtain ⟨answer, b', cache'⟩ := outcome
    obtain ⟨hidle, happended⟩ := ih hstep.isIdle cache'
    exact ⟨hidle, hstep.appended_submitted.trans happended⟩

theorem storedPositions_respondAll (settings : Settings) {b : Backing} (hb : b.IsIdle)
    (cache : Cache) (visits : List Visit) {ps : List Position} (hps : b.storedPositions = .ok ps) :
    (respondAll settings b cache visits).2.1.storedPositions = .ok (ps ++
      (respondAll settings b cache visits).1.flatMap fun step => step.2.submitted step.1) :=
  (appended_respondAll settings hb cache visits).2.storedPositions hps

end Api

end FleetTracking
