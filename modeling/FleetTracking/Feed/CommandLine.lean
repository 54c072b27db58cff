import FleetTracking.Feed.Generator
import FleetTracking.Feed.Options

/-!
# The generator as a program

The program reads its options and lets the generator run, once or in a loop. All requests share a
pool of connections, which is opened for the first round and closed at the end, however the program
ends. What the program does is kept as a list of events.
-/

namespace FleetTracking.Feed

/-! ## The pool of connections -/

/-- The limits of a pool. -/
structure Limits where
  /-- How long a request may take, in seconds. -/
  timeout : Float
  connections : Int
  /-- How many connections stay open when nothing is sent. -/
  keepalive : Int

/-- The limits of the settings. -/
def Limits.ofSettings (s : Settings) : Limits :=
  ⟨s.httpTimeout, s.maxConnections, s.maxKeepalive⟩

/-- What can be seen of a program. -/
inductive Event
  | opened (limits : Limits)
  | sent (request : Request)
  | printed (line : String)
  /-- The program asked to be woken up after some seconds. -/
  | slept (seconds : Int)
  | closed

/-- A network that is used through a pool of connections, and everything that happened so far. -/
structure Pool (ν : Type) where
  network : ν
  limits : Limits
  isOpen : Bool
  events : List Event

namespace Pool

variable {ν : Type} [Network ν]

/-- A pool that has not been opened. -/
def ofNetwork (network : ν) (limits : Limits) : Pool ν := ⟨network, limits, false, []⟩

/-- Adds an event. -/
def log (p : Pool ν) (event : Event) : Pool ν := { p with events := p.events ++ [event] }

/-- Opens the pool if it is not open. -/
def ensureOpen (p : Pool ν) : Pool ν :=
  if p.isOpen then p else { p.log (.opened p.limits) with isOpen := true }

/-- Closes the pool if it is open. -/
def close (p : Pool ν) : Pool ν :=
  if p.isOpen then { p.log .closed with isOpen := false } else p

/-- Sends a request, for which the pool is opened. -/
def send (p : Pool ν) (request : Request) : Reply × Pool ν :=
  let p := p.ensureOpen.log (.sent request)
  (Network.send p.network request).map id fun network => { p with network }

end Pool

instance {ν : Type} [Network ν] : Network (Pool ν) := ⟨Pool.send⟩

/-! ## Rounds -/

/-- How the program ends. -/
inductive Ending
  /-- One round was wanted and is done. -/
  | finished (totals : Totals)
  | interrupted
  | failed (failure : Failure)
  | helped
  | misused

namespace Ending

/-- The status that the program asks for; an interrupted one comes to its end without, and one that
fails does not get so far. -/
def status? : Ending → Option Nat
  | finished totals => some (if totals.failed = 0 then 0 else 1)
  | helped => some 0
  | misused => some 2
  | interrupted | failed _ => none

/-- The status of the process, which is not asked for one if the program fails or is interrupted. -/
def processStatus : Ending → Nat
  | failed _ => 1
  | interrupted => 0
  | ending => ending.status?.getD 0

end Ending

/-- The line that is printed after a round. -/
def Totals.text (t : Totals) : String :=
  "Processed " ++ toString t.processed ++ " vehicles, submitted " ++ toString t.submitted ++
    " positions, " ++ toString t.failed ++ " failures"

namespace CommandLine

variable {ρ ν : Type} [RandomSource ρ] [Network ν]

/-- A turn of the generator: a round, the line about it, and in a loop the sleep. It tells how the
program ends, unless the sleep is the last of it. The round takes hold of the pool before it reads
the address of the service. -/
def turn (g : Generator) (options : Options) (now : Instant) (rng : ρ) (pool : Pool ν) :
    Option Ending × ρ × Pool ν :=
  match g.run rng pool.ensureOpen now with
  | (.error e, rng, pool) => (some (.failed e), rng, pool)
  | (.ok totals, rng, pool) =>
    let pool := pool.log (.printed totals.text)
    if options.loop then (none, rng, pool.log (.slept options.interval))
    else (some (.finished totals), rng, pool)

/-- Turns of the generator, now and whenever it wakes up from its sleep. The sleep from which it does
not wake up is interrupted. -/
def rounds (g : Generator) (options : Options) :
    Instant → List Instant → ρ → Pool ν → Ending × ρ × Pool ν
  | now, [], rng, pool =>
    let (ending, rng, pool) := turn g options now rng pool
    (ending.getD .interrupted, rng, pool)
  | now, next :: wakes, rng, pool =>
    match turn g options now rng pool with
    | (some ending, rng, pool) => (ending, rng, pool)
    | (none, rng, pool) => rounds g options next wakes rng pool

/-- The generator that the options ask for. -/
def generatorFor (settings : Settings) (options : Options) : Except Failure Generator := do
  let simulator ← Simulator.ofBox settings.box
  return ⟨Client.ofAddress settings options.baseUrl, simulator, options.positions, options.radius⟩

/-- Runs the generator with its options, and closes the pool. -/
def runWith (settings : Settings) (options : Options) (rng : ρ) (pool : Pool ν) (now : Instant)
    (wakes : List Instant) : Ending × ρ × Pool ν :=
  match generatorFor settings options with
  | .error e => (.failed e, rng, pool)
  | .ok g =>
    let (ending, rng, pool) := rounds g options now wakes rng pool
    (ending, rng, pool.close)

/-- The whole program, which begins at a time and is woken up at others. -/
def runAt (settings : Settings) (arguments : List String) (rng : ρ) (network : ν) (now : Instant)
    (wakes : List Instant) : Ending × ρ × Pool ν :=
  let pool := Pool.ofNetwork network (.ofSettings settings)
  match (Options.ofSettings settings).read arguments with
  | .options options => runWith settings options rng pool now wakes
  | .help => (.helped, rng, pool)
  | .misuse => (.misused, rng, pool)

/-- The whole program while the clock stands still, with so many sleeps before the one that is
interrupted. -/
def run (settings : Settings) (arguments : List String) (rng : ρ) (network : ν) (now : Instant)
    (sleeps : Nat) : Ending × ρ × Pool ν :=
  runAt settings arguments rng network now (List.replicate sleeps now)

end CommandLine

end FleetTracking.Feed
