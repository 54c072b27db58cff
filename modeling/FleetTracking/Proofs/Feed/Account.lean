import FleetTracking.Feed.Generator
import FleetTracking.Proofs.Simulation.Walk
import FleetTracking.Proofs.Url
import Mathlib

/-!
# The account of a run

A run of the generator makes one attempt for each vehicle of the listing, in the order of the
listing. What an attempt can come to is said once (`Attempt.IsMadeBy`): it hands in the walk of its
vehicle, unless there is none or JSON cannot write it. The totals are those of all attempts
(`Generator.run_accounted`).

## Why no failure is in the way of others

* A walk fails or not by its start and by what it draws, and the numbers go on where it has stopped
  (`Generator.walks`). No reply takes part in that.
* A batch is sent to the host that the listing came from. If that could be reached, then replies to
  batches can be read (`Client.exists_destination_batch`).
* Whatever an attempt comes to is only added to the totals.
-/

/-! ## Bodies -/

namespace FleetTracking.Json

/-- A body in UTF-8 has the characters of its text, if no mark stands in front. -/
theorem bodyChars?_eq {s : String} (hunits : unitSize? s.toUTF8.toList = none)
    (hmark : s.toList.head? ≠ some '\uFEFF') : bodyChars? s = some s.toList := by
  unfold bodyChars?
  dsimp only
  rw [hunits]
  split
  · nomatch ‹none = some _›
  · rename_i cs heq
    exact absurd (by rw [heq]; rfl) hmark
  · rfl

theorem parseBody_eq {s : String} {cs : List Char} {v : Json} (hchars : bodyChars? s = some cs)
    (hv : ofChars cs = .ok v) : parseBody s = .ok v := by
  unfold parseBody
  rw [hchars]
  dsimp only
  rw [hv]
  rfl

end FleetTracking.Json

namespace FleetTracking.Feed

/-! ## Many requests -/

theorem filterMap_cons_eq {f : α → Option β} (a : α) (l : List α) :
    (a :: l).filterMap f = (f a).toList ++ l.filterMap f := by
  cases h : f a <;> simp [h]

/-- Sends requests one after another. -/
def Network.sendAll {ν : Type} [Network ν] (net : ν) : List Request → List Reply × ν
  | [] => ([], net)
  | request :: rest =>
    let (reply, net) := Network.send net request
    let (replies, net) := Network.sendAll net rest
    (reply :: replies, net)

theorem Network.sendAll_append {ν : Type} [Network ν] (net : ν) (requests others : List Request) :
    Network.sendAll net (requests ++ others) =
      ((Network.sendAll net requests).1 ++
          (Network.sendAll (Network.sendAll net requests).2 others).1,
        (Network.sendAll (Network.sendAll net requests).2 others).2) := by
  induction requests generalizing net with
  | nil => rfl
  | cons request rest ih => simp only [List.cons_append, Network.sendAll, ih]

namespace Script

/-- The next replies of a script. -/
def next (s : Script) (count : Nat) : List Reply :=
  (s.replies ++ List.replicate count lastReply).take count

theorem next_succ (s : Script) (request : Request) (count : Nat) :
    s.next (count + 1) = (s.answer request).1 :: (s.answer request).2.next count := by
  obtain ⟨replies, requests⟩ := s
  cases replies with
  | nil => simp [next, answer, List.replicate_succ]
  | cons reply rest =>
    have htake : (rest ++ List.replicate (count + 1) lastReply).take count =
        (rest ++ List.replicate count lastReply).take count := by
      simp only [List.take_append, List.take_replicate]
      congr 2
      omega
    simp [next, answer, htake]

/-- Requests get the next replies, and are kept in order. -/
theorem sendAll_eq (s : Script) (requests : List Request) :
    (Network.sendAll s requests).1 = s.next requests.length ∧
      (Network.sendAll s requests).2.requests = s.requests ++ requests := by
  induction requests generalizing s with
  | nil => simp [Network.sendAll, next]
  | cons request rest ih =>
    obtain ⟨hreplies, hrequests⟩ := ih (s.answer request).2
    have hsent : (Network.send s request) = s.answer request := rfl
    constructor
    · simp only [Network.sendAll, hsent, List.length_cons, next_succ s request, hreplies]
    · simp only [Network.sendAll, hsent, hrequests]
      simp [answer]

end Script

/-! ## The client -/

namespace Client

variable {ν : Type} [Network ν] {c : Client}

/-- An absolute destination is the address as it is read. -/
theorem parse?_of_destination {path : String} {url : Url} (h : c.destination path = .ok url)
    (habsolute : url.isAbsolute = true) : Url.parse? (c.baseUrl ++ path) = some url := by
  unfold destination at h
  cases hparse : Url.parse? (c.baseUrl ++ path) with
  | none =>
    rw [hparse] at h
    cases h
  | some u =>
    rw [hparse] at h
    cases hcase : u.isAbsolute with
    | true =>
      simp only [hcase, if_true] at h
      rw [Except.ok.inj h]
    | false =>
      -- what is put nowhere is not absolute
      simp only [hcase] at h
      cases h
      simp [Url.isAbsolute, Url.placedAt, Url.nowhere] at habsolute

/-- Batches go to the host that the listing comes from. -/
theorem exists_destination_batch {url : Url} (h : c.destination listingPath = .ok url)
    (habsolute : url.isAbsolute = true) :
    ∃ url', c.destination batchPath = .ok url' ∧ url'.isAbsolute = true := by
  have hlisting : (c.baseUrl ++ listingPath).toList =
      c.baseUrl.toList ++ "/api/v1".toList ++ '/' :: "vehicles/with-last-positions".toList := by
    simp [listingPath]
  have hbatch : (c.baseUrl ++ batchPath).toList =
      c.baseUrl.toList ++ "/api/v1".toList ++ '/' :: "gps/positions/batch".toList := by
    simp [batchPath]
  obtain ⟨url', hurl', habsolute', _⟩ := Url.exists_sibling hlisting hbatch (by decide) (by decide)
    (by decide) (by decide) (parse?_of_destination h habsolute) habsolute
  refine ⟨url', ?_, habsolute'⟩
  unfold destination
  rw [hurl']
  dsimp only
  rw [if_pos habsolute']

/-- A batch that JSON cannot write is not sent. Every other one is. -/
theorem submit_cases {url : Url} (hurl : c.destination batchPath = .ok url) (net : ν)
    (vehicle : Json) (reports : List Report) :
    (((batch vehicle reports).hasSpecial = true ∨ (batch vehicle reports).hasHalf = true) ∧
      ∃ e, c.submit net vehicle reports = (.error e, net)) ∨
    c.submit net vehicle reports =
      (Network.send net ⟨.post, url.render, some (batch vehicle reports)⟩).map (isTaken url) id := by
  unfold submit
  rw [hurl]
  dsimp only
  by_cases hspecial : (batch vehicle reports).hasSpecial = true
  · exact .inl ⟨.inl hspecial, _, if_pos hspecial⟩
  · rw [if_neg hspecial]
    by_cases hhalf : (batch vehicle reports).hasHalf = true
    · exact .inl ⟨.inr hhalf, _, if_pos hhalf⟩
    · exact .inr (if_neg hhalf)

/-- A listing that reports success is the list of its data. -/
theorem readListing_eq {body : String} {items : List Json} {vehicles : List TrackedVehicle}
    (h : Json.parseBody body = .ok (.object [("success", .bool true), ("data", .array items)]))
    (hitems : Json.listOf TrackedVehicle.ofJson (.array items) = .ok vehicles) :
    readListing body = .ok vehicles := by
  unfold readListing
  rw [h]
  exact hitems

/-- Nothing is read in a reply from nowhere. -/
theorem eq_nil_of_vehiclesOf {url : Url} {reply : Reply} {vehicles : List TrackedVehicle}
    (h : vehiclesOf url reply = .ok vehicles) (hnowhere : url.isAbsolute = false) :
    vehicles = [] := by
  cases reply with
  | unanswered =>
    cases h
    rfl
  | broken => nomatch h
  | response status body =>
    simp only [vehiclesOf, hnowhere, Bool.not_false, Bool.or_true, if_true] at h
    cases h
    rfl

/-- Vehicles are asked for with one request, and if there are any, it went to an absolute
address. -/
theorem vehicles_eq_ok {net net₁ : ν} {vehicles : List TrackedVehicle}
    (h : c.vehicles net = (.ok vehicles, net₁)) :
    ∃ url, c.destination listingPath = .ok url ∧
      net₁ = (Network.send net ⟨.get, url.render, none⟩).2 ∧
      (vehicles ≠ [] → url.isAbsolute = true) := by
  unfold Client.vehicles at h
  split at h
  · nomatch h
  · rename_i url hurl
    cases hsend : Network.send net ⟨.get, url.render, none⟩ with
    | mk reply net₂ =>
      rw [hsend] at h
      obtain ⟨hvehicles, rfl⟩ := Prod.mk.inj h
      refine ⟨url, hurl, by rw [hsend]; rfl, fun hne => ?_⟩
      cases hcase : url.isAbsolute with
      | true => rfl
      | false => exact absurd (eq_nil_of_vehiclesOf hvehicles hcase) hne

end Client

/-! ## Attempts -/

/-- What was done for a vehicle: the walk that it came to, and the request that was sent, with the
reply. -/
structure Attempt where
  vehicle : TrackedVehicle
  walk : Except Failure (List Report)
  exchange : Option (Request × Reply)

/-- A reply with a status below 400. -/
def Reply.isTaken : Reply → Bool
  | .response status _ => status < 400
  | .unanswered | .broken => false

namespace Attempt

def request? (a : Attempt) : Option Request := a.exchange.map Prod.fst

def reply? (a : Attempt) : Option Reply := a.exchange.map Prod.snd

/-- Whether positions were sent and taken. -/
def isTaken (a : Attempt) : Bool := a.reply?.any Reply.isTaken

/-- What a vehicle adds to the totals, at so many positions each. -/
def outcome (count : Int) (a : Attempt) : Option Nat := if a.isTaken then some count.toNat else none

/-- An attempt as a generator makes it: what is sent is a batch of the vehicle with all positions
of its walk, as many as were asked for; and nothing is sent only if the walk fails or the batch
cannot be written. -/
structure IsMadeBy (a : Attempt) (g : Generator) : Prop where
  sent : ∀ request reply, a.exchange = some (request, reply) →
    ∃ url reports, g.client.destination Client.batchPath = .ok url ∧ a.walk = .ok reports ∧
      (reports.length : Int) = max g.count 0 ∧
      request = ⟨.post, url.render, some (Client.batch a.vehicle.vehicle.id reports)⟩
  unsent : a.exchange = none → (∃ e, a.walk = .error e) ∨
    ∃ reports, a.walk = .ok reports ∧
      ((Client.batch a.vehicle.vehicle.id reports).hasSpecial = true ∨
        (Client.batch a.vehicle.vehicle.id reports).hasHalf = true)

end Attempt

namespace Generator

variable {ρ ν : Type} [RandomSource ρ] [Network ν] {g : Generator}

/-- The walks of vehicles, one after another from one source of numbers. -/
def walks (g : Generator) (now : Instant) (rng : ρ) :
    List TrackedVehicle → List (Except Failure (List Report)) × ρ
  | [] => ([], rng)
  | v :: rest =>
    let (walk, rng) := g.walkOf rng now v
    let (others, rng) := g.walks now rng rest
    (walk :: others, rng)

theorem length_walkOf {rng rng' : ρ} {now : Instant} {v : TrackedVehicle} {reports : List Report}
    (h : g.walkOf rng now v = (.ok reports, rng')) : (reports.length : Int) = max g.count 0 := by
  unfold walkOf at h
  split at h
  · nomatch h
  · obtain ⟨ws, hpath, rfl⟩ := prod_map_eq_ok.mp h
    rw [List.length_map]
    exact Simulator.length_path hpath

/-- A batch counts if its reply has a status below 400. -/
theorem taken_isTaken {url : Url} (habsolute : url.isAbsolute = true) (reports : List Report)
    (reply : Reply) : taken reports (Client.isTaken url reply) =
      if reply.isTaken then some reports.length else none := by
  cases reply with
  | unanswered | broken => rfl
  | response status body =>
    simp only [Client.isTaken, habsolute, if_true, Reply.isTaken]
    by_cases h : status < 400 <;> simp [h, taken]

/-- Serving a vehicle is one attempt. -/
theorem exists_attempt {url : Url} (hurl : g.client.destination Client.batchPath = .ok url)
    (habsolute : url.isAbsolute = true) (rng : ρ) (net : ν) (now : Instant) (v : TrackedVehicle) :
    ∃ a : Attempt, a.vehicle = v ∧ a.walk = (g.walkOf rng now v).1 ∧ a.IsMadeBy g ∧
      a.reply?.toList = (Network.sendAll net a.request?.toList).1 ∧
      g.serve rng net now v = (a.outcome g.count, (g.walkOf rng now v).2,
        (Network.sendAll net a.request?.toList).2) := by
  unfold serve
  cases hwalk : g.walkOf rng now v with
  | mk walk rng' =>
    cases walk with
    | error e => exact ⟨⟨v, .error e, none⟩, rfl, rfl, ⟨nofun, fun _ => .inl ⟨e, rfl⟩⟩, rfl, rfl⟩
    | ok reports =>
      dsimp only
      rcases Client.submit_cases hurl net v.vehicle.id reports with ⟨hunwritable, e, hsubmit⟩ | hsubmit
      · rw [hsubmit]
        exact ⟨⟨v, .ok reports, none⟩, rfl, rfl,
          ⟨nofun, fun _ => .inr ⟨reports, rfl, hunwritable⟩⟩, rfl, rfl⟩
      · have hlength := length_walkOf hwalk
        have hcount : reports.length = g.count.toNat := by omega
        rw [hsubmit]
        generalize hrequest : (⟨.post, url.render, some (Client.batch v.vehicle.id reports)⟩ :
          Request) = request
        cases hsend : Network.send net request with
        | mk reply net' =>
          refine ⟨⟨v, .ok reports, some (request, reply)⟩, rfl, rfl, ⟨?_, nofun⟩, ?_, ?_⟩
          · rintro _ _ ⟨⟩
            exact ⟨url, reports, hurl, rfl, hlength, hrequest.symm⟩
          · simp [Attempt.reply?, Attempt.request?, Network.sendAll, hsend]
          · simp only [Attempt.request?, Option.map_some, Option.toList_some, Network.sendAll, hsend,
              Prod.map, id, taken_isTaken habsolute, hcount]
            rfl

/-- Serving vehicles is one attempt for each, whatever became of those before. -/
theorem exists_attempts {vehicles : List TrackedVehicle}
    (htarget : vehicles ≠ [] →
      ∃ url, g.client.destination Client.batchPath = .ok url ∧ url.isAbsolute = true)
    (now : Instant) (totals : Totals) (rng : ρ) (net : ν) :
    ∃ attempts : List Attempt, attempts.map Attempt.vehicle = vehicles ∧
      attempts.map Attempt.walk = (g.walks now rng vehicles).1 ∧ (∀ a ∈ attempts, a.IsMadeBy g) ∧
      attempts.filterMap Attempt.reply? =
        (Network.sendAll net (attempts.filterMap Attempt.request?)).1 ∧
      g.serveAll now totals rng net vehicles =
        ((attempts.map (Attempt.outcome g.count)).foldl Totals.add totals,
          (g.walks now rng vehicles).2,
          (Network.sendAll net (attempts.filterMap Attempt.request?)).2) := by
  -- the next vehicle starts from other totals, other numbers and another network
  induction vehicles generalizing totals rng net with
  | nil => exact ⟨[], rfl, rfl, List.forall_mem_nil _, rfl, rfl⟩
  | cons v rest ih =>
    obtain ⟨url, hurl, habsolute⟩ := htarget (List.cons_ne_nil v rest)
    obtain ⟨a, hvehicle, hwalk, hmade, hreply, hserve⟩ := exists_attempt hurl habsolute rng net now v
    obtain ⟨attempts, hvehicles, hwalks, hall, hreplies, hserveAll⟩ := ih
      (fun _ => ⟨url, hurl, habsolute⟩) (totals.add (a.outcome g.count)) (g.walkOf rng now v).2
      (Network.sendAll net a.request?.toList).2
    refine ⟨a :: attempts, ?_, ?_, List.forall_mem_cons.mpr ⟨hmade, hall⟩, ?_, ?_⟩
    · rw [List.map_cons, hvehicle, hvehicles]
    · rw [List.map_cons, hwalk, hwalks]
      rfl
    · rw [filterMap_cons_eq, filterMap_cons_eq, Network.sendAll_append, hreply, hreplies]
    · unfold serveAll
      rw [hserve]
      dsimp only
      rw [hserveAll, filterMap_cons_eq, Network.sendAll_append]
      rfl

end Generator

/-! ## Totals -/

namespace Totals

/-- Attempts add up. -/
theorem foldl_outcome (count : Int) (attempts : List Attempt) (t : Totals) :
    (attempts.map (Attempt.outcome count)).foldl add t =
      ⟨t.processed + attempts.countP Attempt.isTaken,
        t.submitted + attempts.countP Attempt.isTaken * count.toNat,
        t.failed + attempts.countP (!·.isTaken)⟩ := by
  induction attempts generalizing t with
  | nil => simp
  | cons a rest ih =>
    rw [List.map_cons, List.foldl_cons, ih]
    by_cases h : a.isTaken = true
    · simp [Attempt.outcome, h, add, Nat.succ_mul]
      omega
    · simp [Attempt.outcome, h, add]
      omega

theorem foldl_outcome_zero (count : Int) (attempts : List Attempt) :
    (attempts.map (Attempt.outcome count)).foldl add zero =
      ⟨attempts.countP Attempt.isTaken, attempts.countP Attempt.isTaken * count.toNat,
        attempts.countP (!·.isTaken)⟩ := by
  simp [foldl_outcome, zero]

end Totals

/-! ## Runs -/

/-- A bus that has not reported yet. -/
def bus (id : Int) : TrackedVehicle :=
  ⟨⟨.int id, .string "A", .bool true, some ⟨(default : Instant).civil, none⟩⟩, none⟩

/-- A listing of two buses. -/
def busListing : String :=
  "\x7b\"success\":true,\"data\":[" ++
    "\x7b\"vehicle\":\x7b\"id\":1,\"name\":\"A\",\"is_active\":true," ++
    "\"created_date\":\"0001-01-01\"\x7d\x7d," ++
    "\x7b\"vehicle\":\x7b\"id\":2,\"name\":\"A\",\"is_active\":true," ++
    "\"created_date\":\"0001-01-01\"\x7d\x7d]\x7d"

/-- A bus in the listing. -/
def busJson (id : Int) : Json := .object [("vehicle", .object [("id", .int id),
  ("name", .string "A"), ("is_active", .bool true), ("created_date", .string "0001-01-01")])]

theorem ofChars_busListing : Json.ofChars busListing.toList =
    .ok (.object [("success", .bool true), ("data", .array [busJson 1, busJson 2])]) := by
  cbv

theorem readListing_busListing : Client.readListing busListing = .ok [bus 1, bus 2] :=
  have hchars : Json.bodyChars? busListing = some busListing.toList :=
    Json.bodyChars?_eq (by decide +kernel) (by decide +kernel)
  Client.readListing_eq (Json.parseBody_eq hchars ofChars_busListing) rfl

/-- A service that lists two buses, does not answer to the first batch and takes the second. -/
def busService : Script := .ofReplies [.response 200 busListing, .unanswered, .response 201 ""]

/-- A generator of three positions for each vehicle. -/
def busGenerator : Generator := ⟨⟨"http://localhost"⟩, ⟨.athens, Box.isEmpty_athens⟩, 3, 200.0⟩

/-- An hour before noon of the first day. -/
def busTime : Instant := ⟨39600000000, by decide⟩

theorem Generator.exists_destination_busGenerator : ∃ url,
    busGenerator.client.destination Client.listingPath = .ok url ∧ url.isAbsolute = true := by
  have habsolute : (busGenerator.client.destination Client.listingPath).toOption.any
      Url.isAbsolute = true := by decide +kernel
  cases hurl : busGenerator.client.destination Client.listingPath with
  | error e =>
    rw [hurl] at habsolute
    nomatch habsolute
  | ok url =>
    rw [hurl] at habsolute
    exact ⟨url, rfl, habsolute⟩

theorem exists_vehicles_busService : ∃ net,
    busGenerator.client.vehicles busService = (.ok [bus 1, bus 2], net) ∧
    net.replies = [.unanswered, .response 201 ""] := by
  obtain ⟨url, hurl, habsolute⟩ := Generator.exists_destination_busGenerator
  unfold Client.vehicles
  rw [hurl]
  refine ⟨⟨[.unanswered, .response 201 ""], [⟨.get, url.render, none⟩]⟩, ?_, rfl⟩
  show (Client.vehiclesOf url (.response 200 busListing), _) = _
  simp only [Client.vehiclesOf, habsolute, readListing_busListing]
  rfl

end FleetTracking.Feed
