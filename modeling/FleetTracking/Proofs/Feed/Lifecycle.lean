import FleetTracking.Feed.CommandLine
import FleetTracking.Proofs.Feed.Account
import Mathlib

/-!
# The life of the pool

The program opens its pool for the first round and closes it when it ends, whichever of its three
ends that is: one round is done, a sleep is interrupted, or a round fails. What the program does in
between is what its rounds come to over the network alone (`Generator.Ends`), and nothing else
(`CommandLine.runAt_lifecycle`).

## What carries the proof

Over an open pool a round has the result that it has over the network of the pool, the pool stays
open, and the events grow by the requests of the round (`Generator.run_after`). So the first round
alone finds the pool closed, and the loop never opens another one (`CommandLine.rounds_ends`).
-/

namespace FleetTracking.Feed

/-! ## Pools that are open -/

/-- Whether a pool is opened or closed. -/
def Event.isOfPool : Event → Bool
  | .opened _ | .closed => true
  | .sent _ | .printed _ | .slept _ => false

namespace Pool

variable {ν : Type}

/-- A pool with its network as it has become, and with more events. -/
def advance (p : Pool ν) (net : ν) (events : List Event) : Pool ν :=
  { p with network := net, events := p.events ++ events }

theorem advance_advance (p : Pool ν) (net net' : ν) (events others : List Event) :
    (p.advance net events).advance net' others = p.advance net' (events ++ others) := by
  simp [advance]

/-- A pool that is opened, used and closed. -/
theorem close_advance_ofNetwork (net net' : ν) (limits : Limits) (events : List Event) :
    ((ofNetwork net limits).ensureOpen.advance net' events).close =
      ⟨net', limits, false, .opened limits :: (events ++ [.closed])⟩ := by
  simp [ofNetwork, ensureOpen, log, advance, close]

theorem ensureOpen_of_isOpen {p : Pool ν} (h : p.isOpen = true) : p.ensureOpen = p := if_pos h

theorem isOpen_ensureOpen (p : Pool ν) : p.ensureOpen.isOpen = true := by
  unfold ensureOpen
  split
  · assumption
  · rfl

variable [Network ν]

/-- A pool after requests that were sent through it. -/
def after (p : Pool ν) (requests : List Request) : Pool ν :=
  p.advance (Network.sendAll p.network requests).2 (requests.map .sent)

theorem after_nil (p : Pool ν) : p.after [] = p := by
  simp [after, advance, Network.sendAll]

theorem after_append (p : Pool ν) (requests others : List Request) :
    p.after (requests ++ others) = (p.after requests).after others := by
  simp [after, advance, Network.sendAll_append]

/-- An open pool passes a request on and keeps it. -/
theorem send_of_isOpen {p : Pool ν} (h : p.isOpen = true) (request : Request) :
    Network.send p request = ((Network.send p.network request).1, p.after [request]) := by
  show p.send request = _
  unfold send
  rw [ensureOpen_of_isOpen h]
  rfl

end Pool

/-! ## Rounds over an open pool -/

namespace Client

variable {ν : Type} [Network ν] {c : Client} {p : Pool ν}

theorem vehicles_after (h : p.isOpen = true) :
    ∃ result requests,
      c.vehicles p.network = (result, (Network.sendAll p.network requests).2) ∧
      c.vehicles p = (result, p.after requests) := by
  unfold Client.vehicles
  split
  · rename_i e _
    exact ⟨.error e, [], rfl, by rw [Pool.after_nil]⟩
  · rename_i url _
    exact ⟨_, [⟨.get, url.render, none⟩], rfl, by rw [Pool.send_of_isOpen h]; rfl⟩

theorem submit_after (h : p.isOpen = true) (vehicle : Json) (reports : List Report) :
    ∃ result requests,
      c.submit p.network vehicle reports = (result, (Network.sendAll p.network requests).2) ∧
      c.submit p vehicle reports = (result, p.after requests) := by
  unfold submit
  split
  · rename_i e _
    exact ⟨.error e, [], rfl, by rw [Pool.after_nil]⟩
  · rename_i url _
    dsimp only
    split
    · exact ⟨.error .badValue, [], rfl, by rw [Pool.after_nil]⟩
    · split
      · exact ⟨.error .unwritableText, [], rfl, by rw [Pool.after_nil]⟩
      · exact ⟨_, [⟨.post, url.render, some (batch vehicle reports)⟩], rfl,
          by rw [Pool.send_of_isOpen h]; rfl⟩

end Client

namespace Generator

variable {ρ ν : Type} [RandomSource ρ] [Network ν] {g : Generator}

theorem serve_after {p : Pool ν} (h : p.isOpen = true) (rng : ρ) (now : Instant)
    (v : TrackedVehicle) : ∃ outcome rng' requests,
      g.serve rng p.network now v = (outcome, rng', (Network.sendAll p.network requests).2) ∧
      g.serve rng p now v = (outcome, rng', p.after requests) := by
  unfold serve
  cases g.walkOf rng now v with
  | mk walk rng' =>
    cases walk with
    | error e => exact ⟨none, rng', [], rfl, by rw [Pool.after_nil]⟩
    | ok reports =>
      obtain ⟨result, requests, hbare, hpool⟩ :=
        Client.submit_after (c := g.client) h v.vehicle.id reports
      exact ⟨taken reports result, rng', requests, by simp only [hbare], by simp only [hpool]⟩

theorem serveAll_after {p : Pool ν} (h : p.isOpen = true) (vehicles : List TrackedVehicle)
    (now : Instant) (totals : Totals) (rng : ρ) : ∃ totals' rng' requests,
      g.serveAll now totals rng p.network vehicles =
        (totals', rng', (Network.sendAll p.network requests).2) ∧
      g.serveAll now totals rng p vehicles = (totals', rng', p.after requests) := by
  -- the next vehicle starts from other totals, other numbers and a pool that was used
  induction vehicles generalizing totals rng p with
  | nil => exact ⟨totals, rng, [], rfl, by rw [Pool.after_nil]; rfl⟩
  | cons v rest ih =>
    obtain ⟨outcome, rng₁, requests, hbare, hpool⟩ := serve_after (g := g) h rng now v
    obtain ⟨totals', rng', others, hbares, hpools⟩ :=
      ih (p := p.after requests) h (totals.add outcome) rng₁
    refine ⟨totals', rng', requests ++ others, ?_, ?_⟩
    · rw [Network.sendAll_append]
      unfold serveAll
      rw [hbare]
      exact hbares
    · rw [Pool.after_append]
      unfold serveAll
      rw [hpool]
      exact hpools

/-- Over an open pool a round comes to what it comes to over the network of the pool, which keeps
the requests. -/
theorem run_after {p : Pool ν} (h : p.isOpen = true) (rng : ρ) (now : Instant) :
    ∃ result rng' requests,
      g.run rng p.network now = (result, rng', (Network.sendAll p.network requests).2) ∧
      g.run rng p now = (result, rng', p.after requests) := by
  obtain ⟨listing, requests, hbare, hpool⟩ := Client.vehicles_after (c := g.client) h
  unfold run
  rw [hbare, hpool]
  cases listing with
  | error e => exact ⟨.error e, rng, requests, rfl, rfl⟩
  | ok vehicles =>
    obtain ⟨totals, rng', others, hbares, hpools⟩ :=
      serveAll_after (g := g) (p := p.after requests) h vehicles now .zero rng
    refine ⟨.ok totals, rng', requests ++ others, ?_, ?_⟩
    · rw [Network.sendAll_append]
      exact congrArg (fun r => (Except.ok r.1, r.2)) hbares
    · rw [Pool.after_append]
      exact congrArg (fun r => (Except.ok r.1, r.2)) hpools

end Generator

/-! ## Rounds of a program -/

/-- A round that was completed: what it asked of the service, and what it came to. -/
structure Turn where
  requests : List Request
  totals : Totals

/-- What is seen of a completed round: its requests, one line, and in a loop one sleep. -/
def Turn.events (options : Options) (t : Turn) : List Event :=
  t.requests.map .sent ++
    .printed t.totals.text :: if options.loop then [.slept options.interval] else []

namespace Generator

variable {ρ ν : Type} [RandomSource ρ] [Network ν]

/-- Rounds that begin at these times and are all completed, each from where the one before has left
the numbers and the network. -/
inductive Completes (g : Generator) : List Instant → ρ → ν → List Turn → ρ → ν → Prop
  | nil {rng : ρ} {net : ν} : Completes g [] rng net [] rng net
  | cons {now : Instant} {times : List Instant} {rng rng₁ rng₂ : ρ} {net net₁ net₂ : ν}
      {turn : Turn} {turns : List Turn} (hrun : g.run rng net now = (.ok turn.totals, rng₁, net₁))
      (hsent : net₁ = (Network.sendAll net turn.requests).2)
      (hrest : Completes g times rng₁ net₁ turns rng₂ net₂) :
      Completes g (now :: times) rng net (turn :: turns) rng₂ net₂

/-- How rounds end that may begin at these times: which of them are completed, and which requests
come from a last one that is not. -/
inductive Ends (g : Generator) (options : Options) (times : List Instant) (rng : ρ) (net : ν) :
    Ending → List Turn → List Request → ρ → ν → Prop
  /-- Without a loop the first round is the only one. -/
  | finished {now : Instant} {later : List Instant} {turn : Turn} {rng' : ρ} {net' : ν}
      (hloop : options.loop = false) (htimes : times = now :: later)
      (hturn : Completes g [now] rng net [turn] rng' net') :
      Ends g options times rng net (.finished turn.totals) [turn] [] rng' net'
  /-- In a loop all rounds are completed, and the sleep behind the last one is interrupted. -/
  | interrupted {turns : List Turn} {rng' : ρ} {net' : ν} (hloop : options.loop = true)
      (hturns : Completes g times rng net turns rng' net') :
      Ends g options times rng net .interrupted turns [] rng' net'
  /-- The first round that fails is the last one. -/
  | failed {before later : List Instant} {now : Instant} {turns : List Turn} {last : List Request}
      {rng₁ rng' : ρ} {net₁ net' : ν} {e : Failure} (hloop : before ≠ [] → options.loop = true)
      (htimes : times = before ++ now :: later)
      (hturns : Completes g before rng net turns rng₁ net₁)
      (hrun : g.run rng₁ net₁ now = (.error e, rng', net'))
      (hsent : net' = (Network.sendAll net₁ last).2) :
      Ends g options times rng net (.failed e) turns last rng' net'

variable {g : Generator} {options : Options}

/-- In a loop the rounds go on after one that is completed. -/
theorem Ends.next {now : Instant} {times : List Instant} {rng rng₁ rng' : ρ} {net net₁ net' : ν}
    {turn : Turn} {ending : Ending} {turns : List Turn} {last : List Request}
    (hloop : options.loop = true) (hrun : g.run rng net now = (.ok turn.totals, rng₁, net₁))
    (hsent : net₁ = (Network.sendAll net turn.requests).2)
    (hrest : Ends g options times rng₁ net₁ ending turns last rng' net') :
    Ends g options (now :: times) rng net ending (turn :: turns) last rng' net' := by
  cases hrest with
  | finished hnoLoop => exact absurd hloop (by simp [hnoLoop])
  | interrupted _ hturns => exact .interrupted hloop (.cons hrun hsent hturns)
  | failed _ htimes hturns hfails hlast =>
    exact .failed (fun _ => hloop) (by rw [htimes, List.cons_append]) (.cons hrun hsent hturns)
      hfails hlast

/-- Without a loop the exit status is zero just if the round was completed and had no failure. -/
theorem Ends.status?_eq_zero_iff {times : List Instant} {rng rng' : ρ} {net net' : ν}
    {ending : Ending} {turns : List Turn} {last : List Request}
    (h : Ends g options times rng net ending turns last rng' net') (hloop : options.loop = false) :
    ending.status? = some 0 ↔ ∃ turn, turns = [turn] ∧ turn.totals.failed = 0 := by
  cases h with
  | finished _ _ _ => simp [Ending.status?]
  | interrupted hinLoop _ => exact absurd hinLoop (by simp [hloop])
  | @failed before _ _ _ _ _ _ _ _ _ hinLoop _ hturns _ _ =>
    have hbefore : before = [] := by
      by_contra hne
      exact absurd (hinLoop hne) (by simp [hloop])
    subst hbefore
    cases hturns
    simp [Ending.status?]

theorem Completes.length_eq {times : List Instant} {rng rng' : ρ} {net net' : ν}
    {turns : List Turn} (h : Completes g times rng net turns rng' net') :
    turns.length = times.length := by
  induction h with
  | nil => rfl
  | cons _ _ _ ih => rw [List.length_cons, List.length_cons, ih]

/-- In a loop the process ends with zero just if all rounds are completed, whatever failures they
count. -/
theorem Ends.processStatus_eq_zero_iff {times : List Instant} {rng rng' : ρ} {net net' : ν}
    {ending : Ending} {turns : List Turn} {last : List Request}
    (h : Ends g options times rng net ending turns last rng' net') (hloop : options.loop = true) :
    ending.processStatus = 0 ↔ turns.length = times.length := by
  cases h with
  | finished hnoLoop => exact absurd hloop (by simp [hnoLoop])
  | interrupted _ hturns =>
    exact ⟨fun _ => hturns.length_eq, fun _ => rfl⟩
  | failed _ htimes hturns =>
    have hlength := congrArg List.length htimes
    rw [List.length_append, List.length_cons, ← hturns.length_eq] at hlength
    refine ⟨fun h => absurd h Nat.one_ne_zero, fun h => ?_⟩
    omega

end Generator

namespace CommandLine

variable {ρ ν : Type} [RandomSource ρ] [Network ν]

/-- What is seen of the rounds of a program. -/
def eventsOf (options : Options) (turns : List Turn) (last : List Request) : List Event :=
  turns.flatMap (Turn.events options) ++ last.map .sent

/-- No round opens or closes a pool. -/
theorem isOfPool_of_mem_eventsOf {options : Options} {turns : List Turn} {last : List Request}
    {e : Event} (h : e ∈ eventsOf options turns last) : e.isOfPool = false := by
  unfold eventsOf Turn.events at h
  simp only [List.mem_append, List.mem_flatMap, List.mem_cons, List.mem_map] at h
  obtain ⟨_, _, ⟨_, _, rfl⟩ | rfl | h⟩ | ⟨_, _, rfl⟩ := h
  · rfl
  · rfl
  · split at h
    · rw [List.mem_singleton.mp h]
      rfl
    · nomatch h
  · rfl

/-- From an open pool a turn ends the program, or its round is completed and the loop goes on. -/
theorem turn_cases (g : Generator) (options : Options) (now : Instant) (rng : ρ) {p : Pool ν}
    (h : p.isOpen = true) :
    (∃ ending rng' net' turns last,
      (∀ wakes, g.Ends options (now :: wakes) rng p.network ending turns last rng' net') ∧
      turn g options now rng p =
        (some ending, rng', p.advance net' (eventsOf options turns last))) ∨
    options.loop = true ∧ ∃ (t : Turn) (rng' : ρ) (net' : ν),
      g.run rng p.network now = (.ok t.totals, rng', net') ∧
      net' = (Network.sendAll p.network t.requests).2 ∧
      turn g options now rng p = (none, rng', p.advance net' (t.events options)) := by
  obtain ⟨result, rng', requests, hbare, hpool⟩ := Generator.run_after (g := g) h rng now
  unfold turn
  rw [Pool.ensureOpen_of_isOpen h, hpool]
  -- a failure ends the program with or without a loop, a completed round only without
  cases result with
  | error e =>
    exact .inl ⟨.failed e, rng', _, [], requests,
      fun _ => .failed (fun hne => absurd rfl hne) rfl .nil hbare rfl, rfl⟩
  | ok totals =>
    cases hloop : options.loop with
    | false =>
      have hcompletes : g.Completes [now] rng p.network [⟨requests, totals⟩] rng'
          (Network.sendAll p.network requests).2 := .cons hbare rfl .nil
      refine .inl ⟨.finished totals, rng', _, [⟨requests, totals⟩], [],
        fun _ => .finished hloop rfl hcompletes, ?_⟩
      simp [eventsOf, Turn.events, hloop, Pool.after, Pool.advance, Pool.log]
    | true =>
      refine .inr ⟨rfl, ⟨requests, totals⟩, rng', _, hbare, rfl, ?_⟩
      simp [Turn.events, hloop, Pool.after, Pool.advance, Pool.log]

/-- From an open pool the rounds of a program come to what they come to over its network, and they
leave the pool open. -/
theorem rounds_ends (g : Generator) (options : Options) (now : Instant) (wakes : List Instant)
    (rng : ρ) {p : Pool ν} (h : p.isOpen = true) : ∃ ending rng' net' turns last,
      g.Ends options (now :: wakes) rng p.network ending turns last rng' net' ∧
      rounds g options now wakes rng p =
        (ending, rng', p.advance net' (eventsOf options turns last)) := by
  -- the next turn begins at another time, from other numbers and from a pool that was used
  induction wakes generalizing now rng p with
  | nil =>
    unfold rounds
    obtain ⟨ending, rng', net', turns, last, hends, hturn⟩ |
      ⟨hloop, t, rng', net', hrun, hsent, hturn⟩ := turn_cases g options now rng h
    · exact ⟨ending, rng', net', turns, last, hends [], by rw [hturn]; rfl⟩
    · refine ⟨.interrupted, rng', net', [t], [], .interrupted hloop (.cons hrun hsent .nil), ?_⟩
      rw [hturn]
      simp [eventsOf]
  | cons next wakes ih =>
    unfold rounds
    obtain ⟨ending, rng', net', turns, last, hends, hturn⟩ |
      ⟨hloop, t, rng₁, net₁, hrun, hsent, hturn⟩ := turn_cases g options now rng h
    · exact ⟨ending, rng', net', turns, last, hends (next :: wakes), by rw [hturn]⟩
    · obtain ⟨ending, rng', net', turns, last, hrest, hrounds⟩ :=
        ih next rng₁ (p := p.advance net₁ (t.events options)) h
      refine ⟨ending, rng', net', t :: turns, last, hrest.next hloop hrun hsent, ?_⟩
      rw [hturn]
      dsimp only
      rw [hrounds, Pool.advance_advance]
      simp [eventsOf]

/-- The first round opens the pool, so it may as well be open. -/
theorem rounds_ensureOpen (g : Generator) (options : Options) (now : Instant)
    (wakes : List Instant) (rng : ρ) (p : Pool ν) :
    rounds g options now wakes rng p.ensureOpen = rounds g options now wakes rng p := by
  have hturn : turn g options now rng p.ensureOpen = turn g options now rng p := by
    unfold turn
    rw [Pool.ensureOpen_of_isOpen p.isOpen_ensureOpen]
  cases wakes with
  | nil =>
    unfold rounds
    rw [hturn]
  | cons next wakes =>
    unfold rounds
    rw [hturn]

/-- A program whose command line is accepted has closed its pool when it ends, however it ends. If
its geofence is empty, then no round begins, and nothing is seen of the program. Otherwise the pool
is opened first and closed last, and what is seen in between are the rounds: each one that is
completed with its requests, one line, and in a loop one sleep of the interval, and then the
requests of a round that fails. These rounds are what the generator comes to over the network
alone, from the first one to the one that ends the program. So a pool is opened and closed once, or
neither. Without a loop the exit status is zero just if the round is completed and counts no
failure. -/
theorem runAt_lifecycle {settings : Settings} {arguments : List String} {options : Options}
    (hread : (Options.ofSettings settings).read arguments = .options options) (rng : ρ)
    (network : ν) (now : Instant) (wakes : List Instant) :
    ∃ ending rng' pool turns last,
      runAt settings arguments rng network now wakes = (ending, rng', pool) ∧
      pool.isOpen = false ∧
      ((∃ e, generatorFor settings options = .error e ∧ ending = .failed e ∧ turns = [] ∧
          last = [] ∧ pool.network = network ∧ pool.events = []) ∨
        ∃ g, generatorFor settings options = .ok g ∧
          g.Ends options (now :: wakes) rng network ending turns last rng' pool.network ∧
          pool.events = .opened (.ofSettings settings) ::
            (eventsOf options turns last ++ [Event.closed])) ∧
      (pool.events.filter Event.isOfPool = [] ∨
        pool.events.filter Event.isOfPool = [.opened (.ofSettings settings), .closed]) ∧
      (options.loop = false →
        (ending.status? = some 0 ↔ ∃ turn, turns = [turn] ∧ turn.totals.failed = 0)) := by
  unfold runAt runWith
  rw [hread]
  dsimp only
  cases hg : generatorFor settings options with
  | error e =>
    -- there is no generator, and so nothing that would open the pool
    refine ⟨.failed e, rng, _, [], [], rfl, rfl, .inl ⟨e, rfl, rfl, rfl, rfl, rfl, rfl⟩, .inl rfl,
      ?_⟩
    simp [Ending.status?]
  | ok g =>
    dsimp only
    obtain ⟨ending, rng', net', turns, last, hends, hrounds⟩ :=
      rounds_ends g options now wakes rng
        (p := (Pool.ofNetwork network (.ofSettings settings)).ensureOpen) rfl
    -- the program begins with a pool that is closed
    rw [rounds_ensureOpen] at hrounds
    rw [hrounds]
    dsimp only
    rw [Pool.close_advance_ofNetwork]
    refine ⟨ending, rng', _, turns, last, rfl, rfl, .inr ⟨g, rfl, hends, rfl⟩, .inr ?_,
      hends.status?_eq_zero_iff⟩
    have hnone : (eventsOf options turns last).filter Event.isOfPool = [] :=
      List.filter_eq_nil_iff.mpr fun e he => by simp [isOfPool_of_mem_eventsOf he]
    simp [List.filter_cons, Event.isOfPool, hnone]

/-! ### A loop that breaks -/

/-- A service that does not answer, and breaks down the next time. -/
def brokenService : Script := .ofReplies [.unanswered, .broken]

/-- The options of a loop with short sleeps. -/
def shortLoop : Options := { Options.ofSettings {} with loop := true, interval := 3 }

/-- The hypothesis holds of a loop that could go on for three rounds, and breaks in the second: it
opens the pool, asks for vehicles, prints a line, sleeps, asks again, and closes the pool. -/
theorem runAt_lifecycle_shortLoop :
    (Options.ofSettings {}).read ["--loop", "--interval", "3"] = .options shortLoop ∧
    ∃ e rng pool turns last g,
      runAt {} ["--loop", "--interval", "3"] (mkStdGen 1) brokenService busTime
        [busTime, busTime] = (.failed e, rng, pool) ∧
      pool.isOpen = false ∧
      generatorFor {} shortLoop = .ok g ∧
      g.Ends shortLoop [busTime, busTime, busTime] (mkStdGen 1) brokenService (.failed e) turns last
        rng pool.network ∧
      pool.events = .opened (.ofSettings {}) :: (eventsOf shortLoop turns last ++ [Event.closed]) ∧
      pool.events.length = 6 := by
  have hread : (Options.ofSettings {}).read ["--loop", "--interval", "3"] = .options shortLoop :=
    rfl
  have hfails : (match (runAt {} ["--loop", "--interval", "3"] (mkStdGen 1) brokenService busTime
      [busTime, busTime]).1 with | .failed _ => true | _ => false) = true := by decide +kernel
  have hlength : (runAt {} ["--loop", "--interval", "3"] (mkStdGen 1) brokenService busTime
      [busTime, busTime]).2.2.events.length = 6 := by decide +kernel
  refine ⟨hread, ?_⟩
  obtain ⟨ending, rng, pool, turns, last, hrun, hclosed, hevents, -, -⟩ :=
    runAt_lifecycle hread (mkStdGen 1) brokenService busTime [busTime, busTime]
  rw [hrun] at hfails hlength
  obtain ⟨_, _, _, _, _, _, hnone⟩ | ⟨g, hg, hends, hseen⟩ := hevents
  · rw [hnone] at hlength
    nomatch hlength
  · cases ending with
    | failed e => exact ⟨e, rng, pool, turns, last, g, hrun, hclosed, hg, hends, hseen, hlength⟩
    | finished _ | interrupted | helped | misused => nomatch hfails

end CommandLine

end FleetTracking.Feed
