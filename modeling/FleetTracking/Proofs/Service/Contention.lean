import FleetTracking.Proofs.Service.Invariant
import FleetTracking.Proofs.Store.Appended
import Mathlib.Logic.Function.Basic

/-!
# Clients of the same tables

Any number of clients work on the same tables, each through a session of its own, one move after
another and in any order (`Crowd.run`). No client waits for another: what one of them has checked
may have been overtaken when it saves, and it is the insertion that decides.

Whatever the order was, a save stores all that its client had staged or nothing of it, no two rows
ever share a key, and nothing that was committed is changed by the others (`Crowd.save_run`). A save
fails for a key that was committed before, be it after the key was found to be free.

## Ghosts

The moves alone say what waits in each session (`backlog`), and the answers of the saves say what
the tables have got in addition (`Crowd.commits`). That the sessions and the tables are what these
two say is the invariant (`Crowd.Follows`).
-/

namespace FleetTracking

/-! ## Why an insertion fails -/

/-- A vehicle is named by a number that does not fit its column. -/
def Position.IsUnfit (p : Position) : Prop := ∃ id, p.vehicle = some id ∧ fitsColumn id = false

/-- Rows are refused for a number that does not fit, a vehicle that is left out, two keys that are
the same, or a key that is taken. -/
theorem Tables.foldlM_insertPosition_error {ps : List Position} {rows : List PositionRow}
    {e : Failure} (h : (ps.map NewPosition.ofPosition).foldlM insertPosition rows = .error e) :
    (e = .outOfRange ∧ ∃ p ∈ ps, p.IsUnfit) ∨
      (e = .constraintViolated ∧ ((∀ p ∈ ps, p.vehicle ≠ none) → (ps.map Position.key).Nodup →
        ∃ p ∈ ps, p.key ∈ rows.map PositionRow.key)) := by
  -- the first row that is refused decides; those before it have joined the rows
  induction ps generalizing rows with
  | nil => nomatch h
  | cons p rest ih =>
    rw [List.map_cons, List.foldlM_cons] at h
    by_cases hp : p.Fits
    · rw [insertPosition_ofPosition hp] at h
      by_cases hkey : (rows.map PositionRow.key).contains p.key = true
      · rw [if_pos hkey] at h
        cases h
        exact .inr ⟨rfl, fun _ _ => ⟨p, List.mem_cons_self, by simpa using hkey⟩⟩
      · rw [if_neg hkey] at h
        obtain ⟨he, q, hq, hunfit⟩ | ⟨he, htaken⟩ := ih h
        · exact .inl ⟨he, q, List.mem_cons_of_mem _ hq, hunfit⟩
        · refine .inr ⟨he, ?_⟩
          intro hvehicles hnodup
          rw [List.map_cons, List.nodup_cons] at hnodup
          obtain ⟨q, hq, hqkey⟩ :=
            htaken (fun r hr => hvehicles r (List.mem_cons_of_mem _ hr)) hnodup.2
          rw [List.map_append, List.map_singleton, PositionRow.key_ofPosition hp] at hqkey
          rcases List.mem_append.mp hqkey with hqkey | hqkey
          · exact ⟨q, List.mem_cons_of_mem _ hq, hqkey⟩
          · rw [List.mem_singleton] at hqkey
            exact absurd (hqkey ▸ List.mem_map_of_mem hq) hnodup.1
    · cases hvehicle : p.vehicle with
      | none =>
        have hrefused : insertPosition rows (.ofPosition p) = .error .constraintViolated := by
          simp [insertPosition, NewPosition.ofPosition, hvehicle]
        rw [hrefused] at h
        cases h
        exact .inr ⟨rfl, fun hvehicles => absurd hvehicle (hvehicles p List.mem_cons_self)⟩
      | some id =>
        have hfits : fitsColumn id = false := by
          rw [← Bool.not_eq_true]
          exact fun hfits => hp ⟨id, hvehicle, hfits⟩
        have hrefused : insertPosition rows (.ofPosition p) = .error .outOfRange := by
          simp [insertPosition, NewPosition.ofPosition, hvehicle, hfits]
        rw [hrefused] at h
        cases h
        exact .inl ⟨rfl, p, List.mem_cons_self, id, hvehicle, hfits⟩

/-- Where the table is there, what an insertion of positions comes to is up to its rows. -/
theorem Tables.insert_positions_eq {t : Tables} {rows : List PositionRow}
    (hrows : t.positions = some rows) {new : List NewPosition} (hnew : new ≠ []) :
    t.insert [] new =
      (new.foldlM insertPosition rows).map fun rows' => ⟨t.vehicles, some rows'⟩ := by
  have hnonempty : new.isEmpty = false := by simpa using hnew
  unfold insert insertPositions
  rw [hnonempty, hrows]
  show ((new.foldlM insertPosition rows >>= fun rows' => Except.ok (some rows')) >>=
    fun positions => Except.ok (⟨t.vehicles, positions⟩ : Tables)) = _
  cases new.foldlM insertPosition rows <;> rfl

theorem Session.exists_positionFailure (staged : List (Staged NewPosition)) :
    ∃ u time, positionFailure staged .constraintViolated = .duplicatePosition u time := by
  match staged with
  | [] => exact ⟨_, _, rfl⟩
  | [_] => exact ⟨_, _, rfl⟩
  | _ :: _ :: _ => exact ⟨_, _, rfl⟩

/-! ## What a save comes to -/

/-- What a save of staged positions answers, and the tables it leaves behind, if just some keys were
taken before. -/
inductive SaveOutcome (t : Tables) (taken : VehicleRef × Instant → Prop) (staged : List Position) :
    Except Failure (List Position) → Tables → Prop
  /-- All of them are inserted, and answered in the order of staging. No key was taken. -/
  | stored {saved t'} (copies : List.Forall₂ Position.IsCopyOf saved staged)
    (appended : t.Appended saved t') (distinct : (staged.map Position.key).Nodup)
    (free : ∀ p ∈ staged, ¬taken p.key) : SaveOutcome t taken staged (.ok saved) t'
  /-- Nothing is inserted. If all keys were different, and no vehicle was left out, then one of the
  keys was taken. -/
  | duplicate (u : Json) (time : Option Timestamp)
    (clash : (∀ p ∈ staged, p.vehicle ≠ none) → (staged.map Position.key).Nodup →
      ∃ p ∈ staged, taken p.key) :
    SaveOutcome t taken staged (.error (.duplicatePosition u time)) t
  /-- Nothing is inserted, as a vehicle is named by a number that does not fit. -/
  | unfit (p : Position) (hp : p ∈ staged) (hunfit : p.IsUnfit) :
    SaveOutcome t taken staged (.error .outOfRange) t

theorem SaveOutcome.congr {t t' : Tables} {taken taken' : VehicleRef × Instant → Prop}
    {staged : List Position} {result : Except Failure (List Position)}
    (h : SaveOutcome t taken staged result t') (htaken : ∀ k, taken k ↔ taken' k) :
    SaveOutcome t taken' staged result t' := by
  rwa [← funext fun k => propext (htaken k)]

theorem SaveOutcome.of_ok {t t' : Tables} {taken : VehicleRef × Instant → Prop}
    {staged saved : List Position} (h : SaveOutcome t taken staged (.ok saved) t') :
    List.Forall₂ Position.IsCopyOf saved staged ∧ t.Appended saved t' ∧
      (staged.map Position.key).Nodup ∧ ∀ p ∈ staged, ¬taken p.key := by
  cases h with
  | stored copies appended distinct free => exact ⟨copies, appended, distinct, free⟩

theorem SaveOutcome.of_error {t t' : Tables} {taken : VehicleRef × Instant → Prop}
    {staged : List Position} {e : Failure} (h : SaveOutcome t taken staged (.error e) t') :
    t' = t := by
  cases h <;> rfl

/-- A save leaves nothing staged, and ends in one of the outcomes. -/
theorem Connection.saveOutcome_store {c : Connection} (hc : c.IsIdle) {rows : List PositionRow}
    (hrows : c.tables.positions = some rows) (ps : List Position) :
    SaveOutcome c.tables (· ∈ rows.map PositionRow.key) ps (Service.store c ps).1
      (Service.store c ps).2.tables ∧ (Service.store c ps).2.session = .empty := by
  by_cases hps : ps = []
  · subst hps
    rw [store_nil hc]
    exact ⟨.stored .nil (.refl _) List.nodup_nil (List.forall_mem_nil _), hc⟩
  · cases hinsert : c.tables.insert [] (ps.map NewPosition.ofPosition) with
    | ok t' =>
      obtain ⟨_, hfits⟩ := insert_positions_ok hps hinsert
      rw [insert_positions c.tables hrows hfits] at hinsert
      cases hrepeated : Memory.firstRepeated (rows.map PositionRow.key) ps with
      | some p =>
        rw [hrepeated] at hinsert
        nomatch hinsert
      | none =>
        obtain ⟨hfree, hdistinct⟩ := Memory.firstRepeated_eq_none_iff.mp hrepeated
        rw [store_eq hc hrows hfits, hrepeated]
        exact ⟨.stored (Memory.forall₂_isCopyOf_numbered_stored _ _)
          (appended_extend hrows hfits).tables hdistinct hfree, hc⟩
    | error e =>
      rw [store_refused hc hinsert]
      refine ⟨?_, hc⟩
      rw [Tables.insert_positions_eq hrows (by simpa using hps)] at hinsert
      have hfold : (ps.map NewPosition.ofPosition).foldlM Tables.insertPosition rows = .error e :=
        map_eq_error.mp hinsert
      obtain ⟨rfl, p, hp, hunfit⟩ | ⟨rfl, hclash⟩ := Tables.foldlM_insertPosition_error hfold
      · exact .unfit p hp hunfit
      · obtain ⟨u, time, hfailure⟩ := Session.exists_positionFailure
          (Session.staged (ps.map NewPosition.ofPosition))
        show SaveOutcome _ _ _ (.error _) _
        rw [hfailure]
        exact .duplicate u time hclash

/-! ## Moves -/

/-- What a client does next. -/
inductive Move
  /-- It has a position checked, which only reads. -/
  | validate (v : Validator) (p : Position)
  | stage (ps : List Position)
  | save

/-- Tables, and the sessions of the clients that work on them. -/
structure Crowd (ι : Type) where
  tables : Tables
  session : ι → Session

namespace Crowd

variable {ι : Type} [DecidableEq ι]

/-- What a client works with. -/
def connection (c : Crowd ι) (i : ι) : Connection := ⟨c.tables, c.session i⟩

/-- What a client leaves behind, for the others too. -/
def put (c : Crowd ι) (i : ι) (after : Connection) : Crowd ι :=
  ⟨after.tables, Function.update c.session i after.session⟩

/-- What a save of a client answers, and the crowd afterwards. -/
def save (c : Crowd ι) (i : ι) : Except Failure (List Position) × Crowd ι :=
  (FleetStore.savePositions (c.connection i)).map id (c.put i)

/-- A move of a client. -/
def step (c : Crowd ι) : ι × Move → Crowd ι
  | (_, .validate _ _) => c
  | (i, .stage ps) => c.put i (FleetStore.stage (c.connection i) ps)
  | (i, .save) => (c.save i).2

/-- Moves one after another. -/
def run (c : Crowd ι) (moves : List (ι × Move)) : Crowd ι := moves.foldl step c

/-! ### Ghosts -/

/-- What waits for each client after a move. -/
def waiting (waits : ι → List Position) : ι × Move → ι → List Position
  | (_, .validate _ _) => waits
  | (i, .stage ps) => Function.update waits i (waits i ++ ps)
  | (i, .save) => Function.update waits i []

/-- What each client has staged since its last save. -/
def backlog (moves : List (ι × Move)) : ι → List Position := moves.foldl waiting fun _ => []

/-- What a move commits, and for whom. -/
def commit (c : Crowd ι) : ι × Move → List (ι × List Position)
  | (i, .save) =>
    match (c.save i).1 with
    | .ok saved => [(i, saved)]
    | .error _ => []
  | _ => []

/-- What is committed along a run, in the order of the commits. -/
def commits (c : Crowd ι) : List (ι × Move) → List (ι × List Position)
  | [] => []
  | move :: moves => c.commit move ++ (c.step move).commits moves

/-! ### The invariant -/

/-- What a run from tables `t`, whose rows of positions were `old`, has come to: each session has
staged what waits for its client, the tables have got what was committed, and no two rows share a
key. -/
structure Follows (t : Tables) (old : List PositionRow) (waits : ι → List Position)
    (committed : List (ι × List Position)) (now : Crowd ι) : Prop where
  session : ∀ i, now.session i = Session.empty.stage (waits i)
  there : t.positions = some old
  tables : t.Appended (committed.flatMap Prod.snd) now.tables
  keys : (old.map PositionRow.key ++ (committed.flatMap Prod.snd).map Position.key).Nodup

section Invariant

variable {t : Tables} {old : List PositionRow} {waits : ι → List Position}
  {committed : List (ι × List Position)} {now : Crowd ι}
  (h : Follows t old waits committed now)

include h

omit [DecidableEq ι] in
/-- The keys of the rows are those of the old rows and those committed since. -/
theorem Follows.rows :
    ∃ added, now.tables.positions = some (old ++ added) ∧
      added.mapM PositionRow.toPosition = .ok (committed.flatMap Prod.snd) ∧
      (old ++ added).map PositionRow.key =
        old.map PositionRow.key ++ (committed.flatMap Prod.snd).map Position.key := by
  obtain ⟨added, hadded, hpositions⟩ := h.tables.rows h.there
  exact ⟨added, hadded, hpositions,
    by rw [List.map_append, (PositionRow.mapM_toPosition_ok hpositions).1]⟩

/-- A save stores what waits for its client, as if nothing else were staged anywhere. -/
theorem Follows.save_eq (i : ι) :
    now.save i =
      (Service.store (⟨now.tables, .empty⟩ : Connection) (waits i)).map id (now.put i) := by
  unfold save connection
  rw [h.session i]
  rfl

/-- A save ends in one of the outcomes, as the old keys and those committed since are taken. It
empties the session of its client, and changes no other one. -/
theorem Follows.saveOutcome (i : ι) :
    SaveOutcome now.tables
        (fun k => k ∈ old.map PositionRow.key ∨ ∃ commit ∈ committed, k ∈ commit.2.map Position.key)
        (waits i) (now.save i).1 (now.save i).2.tables ∧
      (now.save i).2.session = Function.update now.session i .empty := by
  obtain ⟨added, hadded, _, hkeys⟩ := h.rows
  obtain ⟨houtcome, hsession⟩ :=
    Connection.saveOutcome_store (c := ⟨now.tables, .empty⟩) rfl hadded (waits i)
  rw [h.save_eq i]
  refine ⟨houtcome.congr fun k => ?_, ?_⟩
  · rw [hkeys]
    simp only [List.mem_append, List.map_flatMap, List.mem_flatMap]
  · exact congrArg (Function.update now.session i) hsession

theorem Follows.session_save (i j : ι) :
    (now.save i).2.session j = Session.empty.stage (Function.update waits i [] j) := by
  rw [(h.saveOutcome i).2]
  by_cases hj : j = i
  · subst hj
    rw [Function.update_self, Function.update_self]
    rfl
  · rw [Function.update_of_ne hj, Function.update_of_ne hj, h.session j]

/-- Every move keeps the invariant up, and its commit is added. -/
theorem Follows.step (move : ι × Move) :
    Follows t old (waiting waits move) (committed ++ now.commit move) (now.step move) := by
  obtain ⟨i, move⟩ := move
  cases move with
  | validate v p =>
    rw [show now.commit (i, .validate v p) = [] from rfl, List.append_nil]
    exact h
  | stage ps =>
    rw [show now.commit (i, .stage ps) = [] from rfl, List.append_nil]
    refine ⟨fun j => ?_, h.there, h.tables, h.keys⟩
    show Function.update now.session i ((now.session i).stage ps) j =
      Session.empty.stage (Function.update waits i (waits i ++ ps) j)
    by_cases hj : j = i
    · subst hj
      rw [Function.update_self, Function.update_self, h.session j]
      simp [Session.stage, Session.empty]
    · rw [Function.update_of_ne hj, Function.update_of_ne hj, h.session j]
  | save =>
    obtain ⟨houtcome, _⟩ := h.saveOutcome i
    cases hresult : (now.save i).1 with
    | error e =>
      rw [hresult] at houtcome
      have hcommit : now.commit (i, .save) = [] := by simp [commit, hresult]
      rw [hcommit, List.append_nil]
      exact ⟨h.session_save i, h.there, houtcome.of_error ▸ h.tables, h.keys⟩
    | ok saved =>
      rw [hresult] at houtcome
      obtain ⟨hcopies, happended, hdistinct, hfree⟩ := houtcome.of_ok
      have hcommit : now.commit (i, .save) = [(i, saved)] := by simp [commit, hresult]
      have hflat : (committed ++ [(i, saved)]).flatMap Prod.snd =
          committed.flatMap Prod.snd ++ saved := by simp
      rw [hcommit]
      refine ⟨h.session_save i, h.there, hflat ▸ h.tables.trans happended, ?_⟩
      rw [hflat, List.map_append, ← List.append_assoc, List.nodup_append]
      refine ⟨h.keys, Position.map_key_of_forall₂ hcopies ▸ hdistinct, ?_⟩
      rw [Position.map_key_of_forall₂ hcopies]
      intro k hk k' hk' hkk'
      obtain ⟨p, hp, rfl⟩ := List.mem_map.mp hk'
      refine hfree p hp ?_
      rw [hkk'] at hk
      simpa only [List.mem_append, List.map_flatMap, List.mem_flatMap] using hk

/-- The invariant holds after any run, with everything that was committed along it. -/
theorem Follows.run (moves : List (ι × Move)) :
    Follows t old (moves.foldl waiting waits) (committed ++ now.commits moves) (now.run moves) := by
  -- the start of the run is whatever the moves before have left
  induction moves generalizing waits committed now with
  | nil =>
    rw [show now.commits [] = [] from rfl, List.append_nil]
    exact h
  | cons move moves ih =>
    have hrest := ih (h.step move)
    rw [List.append_assoc] at hrest
    exact hrest

omit [DecidableEq ι] in
/-- A key that a client found to be free is in no row. -/
theorem Follows.not_mem_of_validate {i : ι} {v : Validator} {p : Position}
    (hrule : Rule.duplicate ∈ v.rules)
    (haccepted : v.validate (now.connection i) p = .ok .accepted) :
    p.key ∉ old.map PositionRow.key ++ (committed.flatMap Prod.snd).map Position.key := by
  obtain ⟨added, hadded, _, hkeys⟩ := h.rows
  have hnew : now.tables.isRecorded p.vehicle p.recordedAt = .ok false :=
    (Connection.ask_eq_ok.mp (Service.isRecorded_of_validate hrule haccepted)).2
  rw [Tables.isRecorded_eq hadded, hkeys] at hnew
  split at hnew
  · have hfree := Except.ok.inj hnew
    rw [List.contains_eq_mem] at hfree
    exact of_decide_eq_false hfree
  · cases hnew

end Invariant

theorem commits_append (c : Crowd ι) (before after : List (ι × Move)) :
    c.commits (before ++ after) = c.commits before ++ (c.run before).commits after := by
  induction before generalizing c with
  | nil => rfl
  | cons move before ih =>
    show c.commit move ++ (c.step move).commits (before ++ after) = _
    rw [ih (c.step move), ← List.append_assoc]
    rfl

/-! ### Any order of moves -/

/-- Whatever moves clients have made, in whatever order: the rows are the old ones and behind them
those that were committed, no two share a key, and the next save of any client ends in one of the
outcomes. It leaves nothing staged by this client, and all as it is for the others. A key that was
found to be free and is taken at the save was committed in between. -/
theorem save_run {start : Crowd ι} {old : List PositionRow}
    (hsessions : ∀ i, start.session i = .empty) (hold : start.tables.positions = some old)
    (hkeys : (old.map PositionRow.key).Nodup) (moves : List (ι × Move)) (i : ι) :
    (∃ added, (start.run moves).tables.positions = some (old ++ added) ∧
      added.mapM PositionRow.toPosition = .ok ((start.commits moves).flatMap Prod.snd) ∧
      ((old ++ added).map PositionRow.key).Nodup) ∧
    SaveOutcome (start.run moves).tables
      (fun k => k ∈ old.map PositionRow.key ∨
        ∃ commit ∈ start.commits moves, k ∈ commit.2.map Position.key)
      (backlog moves i) ((start.run moves).save i).1 ((start.run moves).save i).2.tables ∧
    ((start.run moves).save i).2.session i = .empty ∧
    (∀ j ≠ i, ((start.run moves).save i).2.session j = (start.run moves).session j) ∧
    ∀ before after (v : Validator) (p : Position), moves = before ++ after →
      Rule.duplicate ∈ v.rules →
      v.validate ((start.run before).connection i) p = .ok .accepted →
      (p.key ∈ old.map PositionRow.key ∨
        ∃ commit ∈ start.commits moves, p.key ∈ commit.2.map Position.key) →
      ∃ commit ∈ (start.run before).commits after, p.key ∈ commit.2.map Position.key := by
  have hstart : Follows start.tables old (fun _ => []) [] start := by
    refine ⟨fun j => ?_, hold, .refl _, by simpa using hkeys⟩
    rw [hsessions j]
    rfl
  have hrun (moves : List (ι × Move)) :
      Follows start.tables old (backlog moves) (start.commits moves) (start.run moves) :=
    hstart.run moves
  obtain ⟨houtcome, hsession⟩ := (hrun moves).saveOutcome i
  refine ⟨?_, houtcome, ?_, ?_, ?_⟩
  · obtain ⟨added, hadded, hpositions, hadded_keys⟩ := (hrun moves).rows
    exact ⟨added, hadded, hpositions, hadded_keys ▸ (hrun moves).keys⟩
  · rw [hsession, Function.update_self]
  · intro j hj
    rw [hsession, Function.update_of_ne hj]
  · rintro before after v p rfl hrule haccepted htaken
    -- what is taken now and was free then is among what was committed since then
    have hfree := (hrun before).not_mem_of_validate hrule haccepted
    simp only [List.mem_append, List.map_flatMap, List.mem_flatMap, not_or] at hfree
    rw [commits_append] at htaken
    obtain hold' | ⟨commit, hcommit, hkey⟩ := htaken
    · exact absurd hold' hfree.1
    · rcases List.mem_append.mp hcommit with hbefore | hafter
      · exact absurd ⟨commit, hbefore, hkey⟩ hfree.2
      · exact ⟨commit, hafter, hkey⟩

/-! ### A race -/

/-- Two clients of empty tables. -/
def twoClients : Crowd Bool := ⟨.empty, fun _ => .empty⟩

/-- A position at the centre of Athens. -/
def contested : Position := ⟨some 1, athensCenter, default, none⟩

/-- A check for repeats alone. -/
def repeatsOnly : Validator := ⟨[.duplicate], .athens⟩

/-- Both clients check the same position and stage it, and one of them saves it. -/
def race : List (Bool × Move) :=
  [(false, .validate repeatsOnly contested), (true, .validate repeatsOnly contested),
    (false, .stage [contested]), (true, .stage [contested]), (true, .save)]

/-- The hypotheses hold of a race. The save of the client that comes second ends in an error, and
what it had checked was committed by the other one after the check. -/
theorem save_race :
    (∀ i, twoClients.session i = .empty) ∧ twoClients.tables.positions = some [] ∧
    backlog race false = [contested] ∧
    repeatsOnly.validate ((twoClients.run []).connection false) contested = .ok .accepted ∧
    (∃ u time, ((twoClients.run race).save false).1 = .error (.duplicatePosition u time)) ∧
    ((twoClients.run race).save false).2.session false = .empty ∧
    ∃ commit ∈ (twoClients.run []).commits race, contested.key ∈ commit.2.map Position.key := by
  have haccepted :
      repeatsOnly.validate ((twoClients.run []).connection false) contested = .ok .accepted := rfl
  have htaken : ∃ commit ∈ twoClients.commits race, contested.key ∈ commit.2.map Position.key :=
    ⟨(true, _), List.mem_cons_self, List.mem_cons_self⟩
  have hsessions : ∀ i, twoClients.session i = .empty := fun _ => rfl
  have hempty : twoClients.tables.positions = some [] := rfl
  obtain ⟨_, _, hlost, _, hbetween⟩ := save_run hsessions hempty List.nodup_nil race false
  exact ⟨hsessions, hempty, rfl, haccepted, ⟨_, _, rfl⟩, hlost,
    hbetween [] race _ _ rfl List.mem_cons_self haccepted (.inr htaken)⟩

/-! ### Numbers that do not fit, and vehicles that are left out -/

/-- A position of a vehicle whose number does not fit. -/
def unfit : Position := ⟨some 0x8000000000000000, athensCenter, default, none⟩

/-- A position of no vehicle. -/
def ownerless : Position := ⟨none, athensCenter, default, none⟩

/-- A save may store nothing and report no repeated position, and it may report one where all keys
were different and none was taken. -/
theorem save_unfit_or_ownerless :
    (¬∀ (start : Crowd Unit) (old : List PositionRow), (∀ i, start.session i = .empty) →
      start.tables.positions = some old → (old.map PositionRow.key).Nodup →
      ∀ moves i, (∃ saved, ((start.run moves).save i).1 = .ok saved) ∨
        ∃ u time, ((start.run moves).save i).1 = .error (.duplicatePosition u time)) ∧
    ¬∀ (start : Crowd Unit) (old : List PositionRow), (∀ i, start.session i = .empty) →
      start.tables.positions = some old → (old.map PositionRow.key).Nodup →
      ∀ moves i u time, ((start.run moves).save i).1 = .error (.duplicatePosition u time) →
        ((backlog moves i).map Position.key).Nodup →
        ∃ p ∈ backlog moves i, p.key ∈ old.map PositionRow.key ∨
          ∃ commit ∈ start.commits moves, p.key ∈ commit.2.map Position.key := by
  constructor
  · intro h
    obtain ⟨saved, hsaved⟩ | ⟨u, time, hduplicate⟩ :=
      h ⟨.empty, fun _ => .empty⟩ [] (fun _ => rfl) rfl List.nodup_nil [((), .stage [unfit])] ()
    · nomatch hsaved
    · nomatch hduplicate
  · intro h
    obtain ⟨p, _, hold | ⟨commit, hcommit, _⟩⟩ :=
      h ⟨.empty, fun _ => .empty⟩ [] (fun _ => rfl) rfl List.nodup_nil [((), .stage [ownerless])] ()
        _ _ rfl (List.nodup_cons.mpr ⟨List.not_mem_nil, List.nodup_nil⟩)
    · nomatch hold
    · nomatch hcommit

end Crowd

end FleetTracking
