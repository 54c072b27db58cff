import FleetTracking.Seeding
import FleetTracking.Store.Backing

/-!
# Start-up

A service creates the tables that are missing when it starts, and fills them with sample data if
it is told to. Trouble with the sample data does not keep it from starting.
-/

namespace FleetTracking.Startup

variable {ρ : Type} [RandomSource ρ]

/-- Creates the missing tables and, if wanted, fills them in a session of its own. The answer is
whether all went well. -/
def prepare (t : Tables) (rng : ρ) (now : Instant) (counts : SeedCounts) (seed : Bool) :
    Bool × Tables × ρ :=
  let t := t.create
  if seed then
    let (result, c, rng) := Seeding.seedTables ⟨t, .empty⟩ rng now counts
    (result.isOk, c.tables, rng)
  else (true, t, rng)

/-- Starts a service: its tables first, then its memory if it works with that. -/
def start (settings : Settings) (b : Backing) (rng : ρ) (now : Instant) :
    Except Failure Unit × Backing × ρ :=
  let (_, tables, rng) := prepare b.connection.tables rng now settings.seedCounts
    settings.seedOnStartup
  let b := b.withTables tables
  if !settings.useTables && settings.seedOnStartup then
    let (result, memory, rng) := Seeding.seedStore b.memory rng now settings.seedCounts
    (result.map fun _ => (), { b with memory }, rng)
  else (.ok (), b, rng)

end FleetTracking.Startup
