import FleetTracking.Proofs.Cache.Coherence
import FleetTracking.Proofs.Service.Batch

/-!
# Texts that no reader can use

A text in the cache that is no JSON, or whose value is not what a reader expects under its key, is
no miss: the reader fails, though the store could have answered (`answerSeeing_torn`). Nothing
removes the text, so readers go on failing until it expires.

`Cached.fails_apart_iff` says when a cached reader fails as the store alone does not. It does so
where the text under its key cannot be used, and apart from that only where nothing was found and
the answer cannot be written, because a vehicle in it has no creation date.

Failures of both kinds are told apart by their causes: reading a value and asking a store never fail
for the same one (`Failure.IsUnreadable`).
-/

namespace FleetTracking

/-! ## Why values cannot be read -/

/-- The causes for which a text or its value cannot be read. -/
def Failure.IsUnreadable : Failure → Prop
  | malformedJson | tooDeep | badValue | wrongType | missingMember | missingField _ => True
  | _ => False

theorem Failure.isUnreadable_ofJson (t : Json.Trouble) : (ofJson t).IsUnreadable := by
  cases t <;> trivial

theorem Timestamp.failsOnly_ofJson (v : Json) : FailsOnly Failure.IsUnreadable (ofJson v) := by
  cases v with
  | string s =>
    show FailsOnly _ (parse s)
    unfold parse
    split
    · exact .ok _
    · exact .error trivial
  | _ => exact .error trivial

namespace Json

theorem failsOnly_require (v : Json) (name : String) :
    FailsOnly Failure.IsUnreadable (v.require name) := by
  unfold require
  split
  · split
    · exact .ok _
    · exact .error trivial
  · exact .error trivial

theorem failsOnly_optional (v : Json) (name : String) :
    FailsOnly Failure.IsUnreadable (v.optional name) := by
  unfold optional
  split
  · exact .ok _
  · exact .error trivial

theorem failsOnly_members (v : Json) : FailsOnly Failure.IsUnreadable v.members := by
  unfold members
  split
  · exact .ok _
  · exact .ok _
  · exact .ok _
  · exact .error trivial

theorem failsOnly_listOf {decode : Json → Except Failure α}
    (h : ∀ v, FailsOnly Failure.IsUnreadable (decode v)) (v : Json) :
    FailsOnly Failure.IsUnreadable (listOf decode v) :=
  (failsOnly_members v).bind (.mapM h)

end Json

theorem PositionRecord.failsOnly_ofJson (v : Json) :
    FailsOnly Failure.IsUnreadable (ofJson v) :=
  (v.failsOnly_optional _).bind fun _ => (v.failsOnly_require _).bind fun _ =>
    (v.failsOnly_require _).bind fun _ => (v.failsOnly_require _).bind fun _ =>
      (v.failsOnly_require _).bind fun date =>
        (Timestamp.failsOnly_ofJson date).bind fun _ => .ok _

theorem VehicleRecord.failsOnly_ofJson (v : Json) :
    FailsOnly Failure.IsUnreadable (ofJson v) :=
  (v.failsOnly_require _).bind fun _ => (v.failsOnly_require _).bind fun _ =>
    (v.failsOnly_require _).bind fun _ => (v.failsOnly_require _).bind fun date =>
      (Timestamp.failsOnly_ofJson date).bind fun _ => .ok _

theorem TrackedVehicle.failsOnly_ofJson (v : Json) :
    FailsOnly Failure.IsUnreadable (ofJson v) := by
  refine (v.failsOnly_optional _).bind fun last => (v.failsOnly_require _).bind fun vehicle =>
    (VehicleRecord.failsOnly_ofJson vehicle).bind fun record => ?_
  split
  · exact .ok _
  · exact (PositionRecord.failsOnly_ofJson _).bind fun _ => .ok _

/-! ## Why questions are not answered -/

namespace Tables

variable (t : Tables)

theorem failsOnly_rows (table : Option (List α)) :
    FailsOnly (¬Failure.IsUnreadable ·) (rows table) := by
  cases table with
  | none => exact .error id
  | some rows => exact .ok rows

theorem failsOnly_vehicle? (u : VehicleRef) : FailsOnly (¬Failure.IsUnreadable ·) (t.vehicle? u) := by
  refine (failsOnly_rows _).bind fun rows => ?_
  split
  · exact .ok _
  · exact .error id

theorem failsOnly_vehiclesByName : FailsOnly (¬Failure.IsUnreadable ·) t.vehiclesByName :=
  (failsOnly_rows _).bind fun _ => .ok _

theorem failsOnly_positionsOf (u : VehicleRef) :
    FailsOnly (¬Failure.IsUnreadable ·) (t.positionsOf u) := by
  refine (failsOnly_rows _).bind fun rows => ?_
  split
  · exact .ok _
  · exact .error id

theorem failsOnly_last? (u : VehicleRef) : FailsOnly (¬Failure.IsUnreadable ·) (t.last? u) := by
  refine (t.failsOnly_positionsOf u).bind fun rows => ?_
  split
  · exact .ok none
  · refine FailsOnly.bind ?_ fun _ => .ok _
    refine FailsOnly.bind ?_ fun _ => .ok _
    unfold Coordinates.ofPoint
    split
    · exact .ok _
    · exact .error id

end Tables

theorem Connection.failsOnly_ask (c : Connection) {question : Tables → Except Failure α}
    (h : ∀ t, FailsOnly (¬Failure.IsUnreadable ·) (question t)) :
    FailsOnly (¬Failure.IsUnreadable ·) (c.ask question) := by
  unfold ask
  split
  · exact .error id
  · exact h c.tables

namespace Backing

variable (b : Backing)

theorem failsOnly_vehicle? (u : VehicleRef) :
    FailsOnly (¬Failure.IsUnreadable ·) (FleetStore.vehicle? b u) := by
  match b with
  | ⟨false, m, c⟩ => exact .ok (m.vehicle? u)
  | ⟨true, m, c⟩ => exact c.failsOnly_ask fun t => t.failsOnly_vehicle? u

theorem failsOnly_vehicles : FailsOnly (¬Failure.IsUnreadable ·) (FleetStore.vehicles b) := by
  match b with
  | ⟨false, m, c⟩ => exact .ok m.vehiclesByName
  | ⟨true, m, c⟩ => exact c.failsOnly_ask Tables.failsOnly_vehiclesByName

theorem failsOnly_last? (u : VehicleRef) :
    FailsOnly (¬Failure.IsUnreadable ·) (FleetStore.last? b u) := by
  match b with
  | ⟨false, m, c⟩ => exact .ok (m.last? u)
  | ⟨true, m, c⟩ => exact c.failsOnly_ask fun t => t.failsOnly_last? u

theorem failsOnly_requireVehicle (u : VehicleRef) :
    FailsOnly (¬Failure.IsUnreadable ·) (Service.requireVehicle b u) := by
  refine (b.failsOnly_vehicle? u).bind fun found => ?_
  cases found with
  | none => exact .error id
  | some w => exact .ok w

end Backing

/-! ## Views as questions -/

namespace View

/-- The question that a view answers. -/
def question : View → Request
  | lastPosition u => .lastPosition u
  | vehicles => .allVehicles
  | vehicle id => .vehicle id
  | tracked => .trackedVehicles

/-- No question is left unanswered for a cause for which a value cannot be read. -/
theorem failsOnly_question (v : Validator) (b : Backing) (view : View) :
    FailsOnly (¬Failure.IsUnreadable ·) (view.question.run v b).1 := by
  cases view with
  | lastPosition u =>
    refine FailsOnly.map ?_ _
    exact (b.failsOnly_requireVehicle u).bind fun _ => (b.failsOnly_last? u).bind fun _ => .ok _
  | vehicles => exact (b.failsOnly_vehicles.bind fun _ => .ok _).map _
  | vehicle id => exact ((b.failsOnly_requireVehicle id).bind fun _ => .ok _).map _
  | tracked =>
    refine FailsOnly.map ?_ _
    refine b.failsOnly_vehicles.bind fun ws => .mapM (fun w => ?_) ws
    exact (b.failsOnly_last? _).bind fun _ => .ok _

/-- What a reader makes of a value under the key. -/
def read (view : View) (v : Json) : Except Failure Answer :=
  match view with
  | lastPosition _ => (PositionRecord.ofJson v).map fun r => .lastPosition (some r)
  | vehicles => (Json.listOf VehicleRecord.ofJson v).map .vehicles
  | vehicle _ => (VehicleRecord.ofJson v).map .vehicle
  | tracked => (Json.listOf TrackedVehicle.ofJson v).map .trackedVehicles

theorem failsOnly_read (view : View) (v : Json) :
    FailsOnly Failure.IsUnreadable (view.read v) := by
  cases view with
  | lastPosition u => exact (PositionRecord.failsOnly_ofJson v).map _
  | vehicles => exact (Json.failsOnly_listOf VehicleRecord.failsOnly_ofJson v).map _
  | vehicle id => exact (VehicleRecord.failsOnly_ofJson v).map _
  | tracked => exact (Json.failsOnly_listOf TrackedVehicle.failsOnly_ofJson v).map _

/-! ## Looks into the cache -/

/-- The text that a look into the cache gives the reader, if any. -/
def seen? (view : View) (cache : Cache) : Option String :=
  if cache.isEnabled && !cache.fails .get then cache.text? view.key else none

/-- The reader sees no text, or one that stands for none. -/
def IsMissed (view : View) (cache : Cache) : Prop :=
  ∀ text, view.seen? cache = some text → text = "" ∨ Json.parse text = .ok .null

/-- The reader sees a text that is no JSON, or JSON that is no record of what it asks for. -/
def IsDamaged (view : View) (cache : Cache) : Prop :=
  ∃ text, view.seen? cache = some text ∧ text ≠ "" ∧
    ((∃ t, Json.parse text = .error t) ∨
      ∃ v, Json.parse text = .ok v ∧ v ≠ .null ∧ ∃ e, view.read v = .error e)

/-- What a look comes to: nothing, or the answer that the reader makes of a value. -/
def look (view : View) (cache : Cache) : Except Failure (Option Answer) := do
  match ← (cache.get view.key).1 with
  | none => .ok none
  | some v => (view.read v).map some

end View

/-- A text stands for no value, or it is no JSON, or it stands for the value that it writes. -/
theorem Cache.decode_cases (text : String) :
    (text = "" ∨ Json.parse text = .ok .null) ∧ decode text = .ok none ∨
    text ≠ "" ∧
      ((∃ t, Json.parse text = .error t ∧ decode text = .error (.ofJson t)) ∨
        ∃ v, Json.parse text = .ok v ∧ v ≠ .null ∧ decode text = .ok (some v)) := by
  by_cases hempty : text = ""
  · subst hempty
    exact .inl ⟨.inl rfl, rfl⟩
  · unfold decode
    rw [if_neg (by simpa using hempty)]
    cases hparse : Json.parse text with
    | error t => exact .inr ⟨hempty, .inl ⟨t, rfl, rfl⟩⟩
    | ok v =>
      cases v with
      | null => exact .inl ⟨.inr rfl, rfl⟩
      | _ => exact .inr ⟨hempty, .inr ⟨_, rfl, nofun, rfl⟩⟩

namespace View

theorem get_eq (view : View) (cache : Cache) :
    (cache.get view.key).1 = ((view.seen? cache).map Cache.decode).getD (.ok none) := by
  unfold Cache.get seen?
  cases cache.isEnabled <;> cases cache.fails .get <;> rfl

/-- A look comes to nothing, fails or comes to an answer, as the reader sees nothing, something
that cannot be used or something else. -/
theorem look_cases (view : View) (cache : Cache) :
    (view.IsMissed cache ∧ ¬view.IsDamaged cache ∧ view.look cache = .ok none) ∨
    (¬view.IsMissed cache ∧ view.IsDamaged cache ∧
      ∃ e, e.IsUnreadable ∧ view.look cache = .error e) ∨
    (¬view.IsMissed cache ∧ ¬view.IsDamaged cache ∧
      ∃ a, view.look cache = .ok (some a)) := by
  unfold look
  rw [get_eq]
  cases hseen : view.seen? cache with
  | none => exact .inl ⟨by simp [IsMissed, hseen], by simp [IsDamaged, hseen], rfl⟩
  | some text =>
    rw [Option.map_some, Option.getD_some]
    obtain ⟨hnone, hdecode⟩ | ⟨hempty, ⟨t, hparse, hdecode⟩ | ⟨v, hparse, hv, hdecode⟩⟩ :=
      Cache.decode_cases text
    · refine .inl ⟨by simpa [IsMissed, hseen] using hnone, ?_, by rw [hdecode]; rfl⟩
      rcases hnone with hnone | hnone
      · simp [IsDamaged, hseen, hnone]
      · simp [IsDamaged, hseen, hnone]
    · refine .inr (.inl ⟨by simp [IsMissed, hseen, hempty, hparse],
        by simp [IsDamaged, hseen, hempty, hparse], _, Failure.isUnreadable_ofJson t, ?_⟩)
      rw [hdecode]
      rfl
    · rw [hdecode]
      cases hread : view.read v with
      | error e =>
        exact .inr (.inl ⟨by simp [IsMissed, hseen, hempty, hparse, hv],
          by simp [IsDamaged, hseen, hempty, hparse, hv, hread], e,
          view.failsOnly_read v e hread, congrArg (Except.map some) hread⟩)
      | ok a =>
        exact .inr (.inr ⟨by simp [IsMissed, hseen, hempty, hparse, hv],
          by simp [IsDamaged, hseen, hparse, hread], a, congrArg (Except.map some) hread⟩)

end View

/-! ## Readers -/

namespace Cached

variable {σ : Type} [FleetStore σ]

/-- Where the store does not answer, there is nothing to leave in the cache. -/
theorem value?_of_error {v : Validator} {s : σ} {view : View} {e : Failure}
    (h : (view.question.run v s).1 = .error e) : view.value? s = .error e := by
  cases view with
  | lastPosition u => exact map_eq_error.mpr (map_eq_error.mp h)
  | _ => exact map_eq_error.mpr (bind_eq_error.mpr (.inl (map_eq_error.mp h)))

theorem through_look (view : View) {s : σ} {v : Validator} {cache : Cache} {ttl : Int}
    {decode : Json → Except Failure α} {leave : α → Except Failure (Option Json)}
    {answer : Except Failure α} {f : α → Answer}
    (hread : ∀ j, view.read j = (decode j).map f) (hvalue : view.value? s = answer >>= leave)
    (hanswer : (view.question.run v s).1 = answer.map f) :
    (through cache view.key ttl decode leave answer).1.map f =
      view.look cache >>= fun found =>
        found.elim (view.value? s >>= fun _ => (view.question.run v s).1) .ok := by
  unfold through View.look
  rw [hvalue, hanswer]
  generalize cache.get view.key = look
  obtain ⟨found, cache'⟩ := look
  cases found with
  | error e => rfl
  | ok found =>
    cases found with
    | some j =>
      show (decode j).map f = (view.read j).map some >>= _
      rw [hread]
      cases decode j <;> rfl
    | none =>
      cases answer with
      | error e => rfl
      | ok a =>
        show _ = leave a >>= fun _ => _
        dsimp only
        cases leave a with
        | error e => rfl
        | ok left => cases left <;> rfl

theorem throughCache_look (view : View) {s : σ} {v : Validator} {cache : Cache} {ttl : Int}
    {decode : Json → Except Failure α} {encode : α → Except Failure Json}
    {answer : Except Failure α} {f : α → Answer}
    (hread : ∀ j, view.read j = (decode j).map f)
    (hvalue : view.value? s = (answer >>= encode).map some)
    (hanswer : (view.question.run v s).1 = answer.map f) :
    (throughCache cache view.key ttl decode encode answer).1.map f =
      view.look cache >>= fun found =>
        found.elim (view.value? s >>= fun _ => (view.question.run v s).1) .ok := by
  rw [throughCache_eq]
  refine through_look view hread ?_ hanswer
  rw [hvalue]
  cases answer <;> rfl

/-- A reader answers what it finds, and otherwise what the store answers, if that can be written. -/
theorem run_question (times : CacheTimes) (v : Validator) (s : σ) (cache : Cache) (view : View) :
    (run times v s cache view.question).1 =
      view.look cache >>= fun found =>
        found.elim (view.value? s >>= fun _ => (view.question.run v s).1) .ok := by
  cases view with
  | lastPosition u =>
    show (lastPosition times s cache u).1.map Answer.lastPosition = _
    rw [lastPosition_eq]
    refine through_look (.lastPosition u) (fun j => ?_) ?_ rfl
    · show (PositionRecord.ofJson j).map _ = ((PositionRecord.ofJson j).map some).map _
      cases PositionRecord.ofJson j <;> rfl
    · show (Service.lastPosition s u).map _ = _
      cases Service.lastPosition s u <;> rfl
  | vehicles => exact throughCache_look .vehicles (fun _ => rfl) rfl rfl
  | vehicle id => exact throughCache_look (.vehicle id) (fun _ => rfl) rfl rfl
  | tracked => exact throughCache_look .tracked (fun _ => rfl) rfl rfl

section Looks

variable {s : σ} {cache : Cache} {view : View}

theorem run_of_isMissed (h : view.IsMissed cache) (times : CacheTimes) (v : Validator) :
    (run times v s cache view.question).1 =
      view.value? s >>= fun _ => (view.question.run v s).1 := by
  obtain ⟨_, _, hlook⟩ | ⟨hnot, _⟩ | ⟨hnot, _⟩ := view.look_cases cache
  · rw [run_question, hlook]
    rfl
  · exact absurd h hnot
  · exact absurd h hnot

theorem run_of_isDamaged (h : view.IsDamaged cache) (times : CacheTimes) (v : Validator) :
    ∃ e, e.IsUnreadable ∧ (run times v s cache view.question).1 = .error e := by
  obtain ⟨_, hnot, _⟩ | ⟨_, _, e, he, hlook⟩ | ⟨_, hnot, _⟩ := view.look_cases cache
  · exact absurd h hnot
  · refine ⟨e, he, ?_⟩
    rw [run_question, hlook]
    rfl
  · exact absurd h hnot

/-- A reader who finds what it can use does not fail. -/
theorem run_of_found (hmissed : ¬view.IsMissed cache) (hdamaged : ¬view.IsDamaged cache)
    (times : CacheTimes) (v : Validator) :
    ∃ a, (run times v s cache view.question).1 = .ok a := by
  obtain ⟨h, _⟩ | ⟨_, h, _⟩ | ⟨_, _, a, hlook⟩ := view.look_cases cache
  · exact absurd h hmissed
  · exact absurd h hdamaged
  · refine ⟨a, ?_⟩
    rw [run_question, hlook]
    rfl

end Looks

/-! ## Damage lasts -/

/-- A reader who finds something changes nothing more. -/
theorem cache_through {cache : Cache} {key : String} {ttl : Int}
    {decode : Json → Except Failure α} {leave : α → Except Failure (Option Json)}
    {answer : Except Failure α} (h : (cache.get key).1 ≠ .ok none) :
    (through cache key ttl decode leave answer).2 = (cache.get key).2 := by
  unfold through
  generalize cache.get key = look at h ⊢
  obtain ⟨found, cache'⟩ := look
  cases found with
  | error e => rfl
  | ok found =>
    cases found with
    | some j => rfl
    | none => exact absurd rfl h

theorem cache_question {times : CacheTimes} {v : Validator} {s : σ} {cache : Cache} {view : View}
    (h : (cache.get view.key).1 ≠ .ok none) :
    (run times v s cache view.question).2.2 = (cache.get view.key).2 := by
  have hthrough {α : Type} {ttl : Int} {decode : Json → Except Failure α}
      {encode : α → Except Failure Json} {answer : Except Failure α} :
      (throughCache cache view.key ttl decode encode answer).2 = (cache.get view.key).2 := by
    rw [throughCache_eq]
    exact cache_through h
  cases view with
  | lastPosition u =>
    show (lastPosition times s cache u).2 = _
    rw [lastPosition_eq]
    exact cache_through h
  | _ => exact hthrough

end Cached

namespace View

theorem seen?_get (view : View) (cache : Cache) (key : String) :
    view.seen? (cache.get key).2 = view.seen? cache := by
  unfold Cache.get
  split <;> rfl

theorem IsDamaged.get_ne {view : View} {cache : Cache} (h : view.IsDamaged cache) :
    (cache.get view.key).1 ≠ .ok none := by
  intro hnone
  obtain ⟨_, _, hlook⟩ | ⟨_, _, e, _, hlook⟩ | ⟨_, hnot, _⟩ := view.look_cases cache
  · contradiction
  · unfold look at hlook
    rw [hnone] at hlook
    nomatch hlook
  · exact hnot h

/-- Damage is still there after a reader has met it. -/
theorem IsDamaged.run {view : View} {cache : Cache} (h : view.IsDamaged cache) {σ : Type}
    [FleetStore σ] (times : CacheTimes) (v : Validator) (s : σ) :
    view.IsDamaged (Cached.run times v s cache view.question).2.2 := by
  rw [Cached.cache_question h.get_ne]
  unfold IsDamaged
  rw [seen?_get]
  exact h

end View

/-! ## Where the cache shows -/

/-- A cached reader fails as the store alone does not, just if it sees a text that it cannot use,
or if it sees none and cannot write the answer. The text stays where it is, so that the next reader
fails again. A reader who sees no text and can write the answer is answered by the store. -/
theorem Cached.fails_apart_iff (times : CacheTimes) (v : Validator) (b : Backing) (cache : Cache)
    (view : View) :
    ((∃ e, (run times v b cache view.question).1 = .error e ∧
        (view.question.run v b).1 ≠ .error e) ↔
      view.IsDamaged cache ∨
        view.IsMissed cache ∧ (∃ a, (view.question.run v b).1 = .ok a) ∧
          ∃ e, view.value? b = .error e) ∧
    (view.IsDamaged cache → view.IsDamaged (run times v b cache view.question).2.2) ∧
    (view.IsMissed cache → ∀ j, view.value? b = .ok j →
      (run times v b cache view.question).1 = (view.question.run v b).1) := by
  refine ⟨⟨?_, ?_⟩, fun hdamaged => hdamaged.run times v b, ?_⟩
  · rintro ⟨e, he, hstore⟩
    by_cases hdamaged : view.IsDamaged cache
    · exact .inl hdamaged
    by_cases hmissed : view.IsMissed cache
    · -- the store is asked, and only a failing write tells the reader from it
      rw [run_of_isMissed hmissed] at he
      obtain hvalue | ⟨_, _, he⟩ := bind_eq_error.mp he
      · refine .inr ⟨hmissed, ?_, e, hvalue⟩
        cases hquestion : (view.question.run v b).1 with
        | ok a => exact ⟨a, rfl⟩
        | error e' =>
          rw [value?_of_error hquestion] at hvalue
          cases hvalue
          exact absurd hquestion hstore
      · exact absurd he hstore
    · obtain ⟨a, ha⟩ := run_of_found (s := b) hmissed hdamaged times v
      rw [ha] at he
      cases he
  · rintro (hdamaged | ⟨hmissed, ⟨a, ha⟩, e, he⟩)
    · obtain ⟨e, he, hrun⟩ := run_of_isDamaged (s := b) hdamaged times v
      exact ⟨e, hrun, fun hstore => view.failsOnly_question v b e hstore he⟩
    · refine ⟨e, by rw [run_of_isMissed hmissed, he]; rfl, ?_⟩
      rw [ha]
      exact fun h => by cases h
  · intro hmissed j hj
    rw [run_of_isMissed hmissed, hj]
    rfl

/-- A cache with a text under the key of a view. -/
def Cache.holding (view : View) (text : String) : Cache :=
  (Cache.empty true).put view.key text

theorem View.seen?_holding (view : View) (text : String) :
    view.seen? (.holding view text) = some text := by
  show (Cache.put _ _ _).text? view.key = some text
  rw [Cached.text?_put, if_pos rfl]

/-- What is answered about the last position of a vehicle where the cache holds a text. -/
def answerSeeing (text : String) : Except Failure Answer :=
  (Cached.run ⟨30, 300, 30⟩ (.canonical .athens) Service.oneVehicle
    (.holding (.lastPosition (some 1)) text) (.lastPosition (some 1))).1

/-- A text that breaks off and one that is an array make the reader fail, though the vehicle is there
and has no position yet. -/
theorem answerSeeing_torn :
    answerSeeing "\x7b" = .error .malformedJson ∧ answerSeeing "[]" = .error .missingMember ∧
    ((Request.lastPosition (some 1)).run (.canonical .athens) Service.oneVehicle).1 =
      .ok (.lastPosition none) := by
  have hbrace : Cache.decode "\x7b" = .error .malformedJson := by
    have htokens : Json.tokens ['\x7b'] = [.openObject] := by
      simp [Json.tokens, Json.isSpace, Json.punctuation?]
    have hparse : Json.parse "\x7b" = .error .malformed := congrArg (Json.build [] .value) htokens
    unfold Cache.decode
    rw [hparse]
    rfl
  have hbrackets : Cache.decode "[]" = .ok (some (.array [])) := by
    have htokens : Json.tokens ['[', ']'] = [.openArray, .closeArray] := by
      simp [Json.tokens, Json.isSpace, Json.punctuation?]
    have hparse : Json.parse "[]" = .ok (.array []) := congrArg (Json.build [] .value) htokens
    unfold Cache.decode
    rw [hparse]
    rfl
  have hseeing (text : String) :=
    Cached.run_question ⟨30, 300, 30⟩ (.canonical .athens) Service.oneVehicle
      (.holding (.lastPosition (some 1)) text) (.lastPosition (some 1))
  unfold View.look at hseeing
  simp only [View.get_eq, View.seen?_holding, Option.map_some, Option.getD_some] at hseeing
  refine ⟨(hseeing _).trans ?_, (hseeing _).trans ?_, rfl⟩
  · rw [hbrace]
    rfl
  · rw [hbrackets]
    rfl

end FleetTracking
