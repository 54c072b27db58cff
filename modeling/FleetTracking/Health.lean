import FleetTracking.Cache.Basic
import FleetTracking.Store.Tables

/-!
# Health

The state of the database and of the cache, and of the service as a whole. Without its database
the service is unhealthy; without its cache it is only degraded.
-/

namespace FleetTracking

namespace Health

/-- How well something works. -/
inductive Status
  | healthy | degraded | unhealthy
  deriving DecidableEq, Repr

/-- The name of a status. -/
def Status.name : Status → String
  | healthy => "healthy"
  | degraded => "degraded"
  | unhealthy => "unhealthy"

/-- The state of a part of the service. -/
structure Component where
  status : Status
  message : String
  details : List (String × Json)

/-- A database as the check finds it. -/
inductive DatabaseState
  | reachable (dialect : String) (tables : Tables)
  | unreachable (dialect : String) (error : String)

/-- The state of the database. -/
def ofDatabase : DatabaseState → Component
  | .reachable dialect tables =>
    match tables.missing with
    | [] => ⟨.healthy, "Database connection successful", [("dialect", .string dialect)]⟩
    | missing =>
      ⟨.unhealthy, "Missing tables: " ++ ", ".intercalate missing,
        [("dialect", .string dialect), ("missing_tables", .array (missing.map .string))]⟩
  | .unreachable dialect error =>
    ⟨.unhealthy, "Database connection failed: " ++ error,
      [("dialect", .string dialect), ("error", .string error)]⟩

/-- What a connection that is down says. -/
def connectionError : String := "down"

/-- The state of the cache. -/
def ofCache (cache : Cache) : Component × Cache :=
  if !cache.isEnabled then (⟨.degraded, "Redis cache disabled", []⟩, cache)
  else
    match cache.ping with
    | (.ok _, cache) => (⟨.healthy, "Redis connection successful", []⟩, cache)
    | (.error _, cache) =>
      (⟨.degraded, "Redis connection failed: " ++ connectionError,
        [("error", .string connectionError)]⟩, cache)

/-- The worst of two states. -/
def Status.worst : Status → Status → Status
  | unhealthy, _ | _, unhealthy => unhealthy
  | degraded, _ | _, degraded => degraded
  | healthy, healthy => healthy

/-- The state of a service at an instant. -/
structure Report where
  status : Status
  checkedAt : Instant
  database : Component
  cache : Component

/-- Checks a service. -/
def check (database : DatabaseState) (cache : Cache) (now : Instant) : Report × Cache :=
  let database := ofDatabase database
  let (component, cache) := ofCache cache
  (⟨database.status.worst component.status, now, database, component⟩, cache)

/-- The state of a part as a value. -/
def Component.toJson (c : Component) : Json := .object
  [("status", .string c.status.name), ("message", .string c.message),
    ("details", .object c.details)]

/-- A report as a value. -/
def Report.toJson (r : Report) : Json := .object
  [("status", .string r.status.name), ("timestamp", .string r.checkedAt.iso),
    ("components", .object [("database", r.database.toJson), ("redis", r.cache.toJson)])]

end Health

end FleetTracking
