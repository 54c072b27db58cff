import FleetTracking.Geo.Box
import FleetTracking.Json.Basic
import FleetTracking.Text.Numeral

/-!
# Settings

What may differ between two installations. Every setting has a name, under which the environment
may set it, and a kind, which says how its text is read. `Settings.ofEnvironment` reports all
settings whose text cannot be read.
-/

namespace FleetTracking

/-- The settings of an installation. -/
structure Settings where
  databaseUrl : Option String := none
  databaseHost : String := "localhost"
  databasePort : Int := 3306
  databaseUser : String := "root"
  databasePassword : String := ""
  databaseName : String := "vehicle_tracking"
  useTables : Bool := true
  seedOnStartup : Bool := true
  seedVehicles : Int := 100
  seedPositioned : Int := 10
  seedPerVehicle : Int := 5
  cacheEnabled : Bool := true
  cacheHost : String := "localhost"
  cachePort : Int := 6379
  cacheDatabase : Int := 2
  cachePassword : Option String := none
  cacheTimeout : Int := 5
  lastPositionTtl : Int := 30
  vehiclesTtl : Int := 300
  trackedTtl : Int := 30
  minLatitude : Float := 37.9
  maxLatitude : Float := 38.1
  minLongitude : Float := 23.6
  maxLongitude : Float := 23.8
  batchPolicy : String := "strict"
  routeHoursBack : Int := 24
  apiUrl : String := "http://localhost:8000"
  positionsPerVehicle : Int := 5
  stepRadius : Float := 200.0
  roundInterval : Int := 10
  maxConnections : Int := 100
  maxKeepalive : Int := 50
  httpTimeout : Float := 30.0
  logLevel : String := "INFO"

namespace Settings

/-- The geofence. -/
def box (s : Settings) : Box := ⟨s.minLatitude, s.maxLatitude, s.minLongitude, s.maxLongitude⟩

/-- Where the database is: the address that was set, or one made of its parts. -/
def databaseAddress (s : Settings) : String :=
  match s.databaseUrl with
  | some url => if url.isEmpty then built else url
  | none => built
where
  /-- The address made of its parts. -/
  built : String :=
    "mysql+pymysql://" ++ s.databaseUser ++ ":" ++ s.databasePassword ++ "@" ++ s.databaseHost ++
      ":" ++ toString s.databasePort ++ "/" ++ s.databaseName

/-- Where the cache server is. -/
def cacheAddress (s : Settings) : String :=
  let password := s.cachePassword.getD ""
  "redis://" ++ (if password.isEmpty then "" else ":" ++ password ++ "@") ++ s.cacheHost ++ ":" ++
    toString s.cachePort ++ "/" ++ toString s.cacheDatabase

/-! ## Settings by name -/

/-- How the text of a setting is read. -/
inductive Kind
  | text | optionalText | integer | number | flag
  deriving DecidableEq

/-- A setting: its name, its kind, and how its value is looked at and replaced. -/
structure Entry where
  name : String
  kind : Kind
  get : Settings → Json
  set : Settings → Json → Settings

/-- A setting that is text. -/
def textEntry (name : String) (get : Settings → String) (set : Settings → String → Settings) :
    Entry where
  name := name
  kind := .text
  get s := .string (get s)
  set s v := match v with
    | .string t => set s t
    | _ => s

/-- A setting that is text or nothing. -/
def optionalEntry (name : String) (get : Settings → Option String)
    (set : Settings → Option String → Settings) : Entry where
  name := name
  kind := .optionalText
  get s := Json.ofOption .string (get s)
  set s v := match v with
    | .string t => set s (some t)
    | _ => set s none

/-- A setting that is a whole number. -/
def integerEntry (name : String) (get : Settings → Int) (set : Settings → Int → Settings) :
    Entry where
  name := name
  kind := .integer
  get s := .int (get s)
  set s v := match v with
    | .int n => set s n
    | _ => s

/-- A setting that is a number. -/
def numberEntry (name : String) (get : Settings → Float) (set : Settings → Float → Settings) :
    Entry where
  name := name
  kind := .number
  get s := .float (get s)
  set s v := match v with
    | .int n => set s (Decimal.ofInt n)
    | .float x => set s x
    | _ => s

/-- A setting that is a flag. -/
def flagEntry (name : String) (get : Settings → Bool) (set : Settings → Bool → Settings) :
    Entry where
  name := name
  kind := .flag
  get s := .bool (get s)
  set s v := match v with
    | .bool b => set s b
    | _ => s

/-- All settings. -/
def entries : List Entry :=
  [optionalEntry "DATABASE_URL" databaseUrl fun s v => { s with databaseUrl := v },
   textEntry "DATABASE_HOST" databaseHost fun s v => { s with databaseHost := v },
   integerEntry "DATABASE_PORT" databasePort fun s v => { s with databasePort := v },
   textEntry "DATABASE_USER" databaseUser fun s v => { s with databaseUser := v },
   textEntry "DATABASE_PASSWORD" databasePassword fun s v => { s with databasePassword := v },
   textEntry "DATABASE_NAME" databaseName fun s v => { s with databaseName := v },
   flagEntry "USE_DB_REPOS" useTables fun s v => { s with useTables := v },
   flagEntry "SEED_ON_STARTUP" seedOnStartup fun s v => { s with seedOnStartup := v },
   integerEntry "SEED_VEHICLE_COUNT" seedVehicles fun s v => { s with seedVehicles := v },
   integerEntry "SEED_POSITIONED_VEHICLES" seedPositioned
     fun s v => { s with seedPositioned := v },
   integerEntry "SEED_POSITIONS_PER_VEHICLE" seedPerVehicle
     fun s v => { s with seedPerVehicle := v },
   flagEntry "REDIS_CACHE_ENABLED" cacheEnabled fun s v => { s with cacheEnabled := v },
   textEntry "REDIS_CACHE_HOST" cacheHost fun s v => { s with cacheHost := v },
   integerEntry "REDIS_CACHE_PORT" cachePort fun s v => { s with cachePort := v },
   integerEntry "REDIS_CACHE_DB" cacheDatabase fun s v => { s with cacheDatabase := v },
   optionalEntry "REDIS_CACHE_PASSWORD" cachePassword fun s v => { s with cachePassword := v },
   integerEntry "REDIS_SOCKET_TIMEOUT_SECONDS" cacheTimeout
     fun s v => { s with cacheTimeout := v },
   integerEntry "CACHE_TTL_LAST_POSITION" lastPositionTtl
     fun s v => { s with lastPositionTtl := v },
   integerEntry "CACHE_TTL_VEHICLES" vehiclesTtl fun s v => { s with vehiclesTtl := v },
   integerEntry "CACHE_TTL_VEHICLES_WITH_POSITIONS" trackedTtl
     fun s v => { s with trackedTtl := v },
   numberEntry "BOUNDING_BOX_MIN_LAT" minLatitude fun s v => { s with minLatitude := v },
   numberEntry "BOUNDING_BOX_MAX_LAT" maxLatitude fun s v => { s with maxLatitude := v },
   numberEntry "BOUNDING_BOX_MIN_LON" minLongitude fun s v => { s with minLongitude := v },
   numberEntry "BOUNDING_BOX_MAX_LON" maxLongitude fun s v => { s with maxLongitude := v },
   textEntry "GPS_BATCH_POLICY" batchPolicy fun s v => { s with batchPolicy := v },
   integerEntry "DEFAULT_ROUTE_HOURS_BACK" routeHoursBack
     fun s v => { s with routeHoursBack := v },
   textEntry "API_BASE_URL" apiUrl fun s v => { s with apiUrl := v },
   integerEntry "GENERATOR_POSITIONS_PER_VEHICLE" positionsPerVehicle
     fun s v => { s with positionsPerVehicle := v },
   numberEntry "GENERATOR_RADIUS_METERS" stepRadius fun s v => { s with stepRadius := v },
   integerEntry "GENERATOR_INTERVAL_SECONDS" roundInterval
     fun s v => { s with roundInterval := v },
   integerEntry "HTTP_MAX_CONNECTIONS" maxConnections fun s v => { s with maxConnections := v },
   integerEntry "HTTP_MAX_KEEPALIVE" maxKeepalive fun s v => { s with maxKeepalive := v },
   numberEntry "HTTP_TIMEOUT_SECONDS" httpTimeout fun s v => { s with httpTimeout := v },
   textEntry "LOG_LEVEL" logLevel fun s v => { s with logLevel := v }]

/-- The setting of a name. -/
def named? (name : String) : Option Entry := entries.find? fun e => e.name == name

/-- The value of a setting. -/
def value (s : Settings) (name : String) : Option Json := (named? name).map fun e => e.get s

/-- Replaces settings by values; names and kinds that do not fit are passed over. -/
def override (s : Settings) (values : List (String × Json)) : Settings :=
  values.foldl (fun s (name, v) => ((named? name).map fun e => e.set s v).getD s) s

/-! ## The environment -/

/-- What is wrong with the text of a setting. -/
inductive Problem
  | notAnInteger
  /-- An integer with more digits than are read. -/
  | longInteger
  | notANumber
  | notAFlag

/-- The name of a problem. -/
def Problem.name : Problem → String
  | notAnInteger => "int_parsing"
  | longInteger => "int_parsing_size"
  | notANumber => "float_parsing"
  | notAFlag => "bool_parsing"

/-- The problem of an integer that is not read. -/
def Problem.ofNumeral : Text.NumeralTrouble → Problem
  | .unreadable => notAnInteger
  | .tooLong => longInteger

/-- Reads the text of a setting. -/
def Kind.read (kind : Kind) (text : String) : Except Problem Json :=
  match kind with
  | .text | .optionalText => .ok (.string text)
  | .integer => ((Text.lenientInt text.toList).map .int).mapError .ofNumeral
  | .number =>
    match Text.lenientFloat? text.toList with
    | some x => .ok (.float x)
    | none => .error .notANumber
  | .flag =>
    match Text.lenientFlag? text.toList with
    | some b => .ok (.bool b)
    | none => .error .notAFlag

/-- A setting whose text cannot be read. -/
structure Unreadable where
  name : String
  problem : Problem

/-- The values that an environment gives to settings. -/
def given (environment : List (String × String)) : List (Entry × Except Problem Json) :=
  entries.filterMap fun e =>
    (environment.find? fun pair => pair.1 == e.name).map fun pair => (e, e.kind.read pair.2)

/-- The settings of an environment, or all of them that cannot be read, by name. -/
def ofEnvironment (environment : List (String × String)) : Except (List Unreadable) Settings :=
  let unreadable := (given environment).filterMap fun
    | (e, .error problem) => some ⟨e.name, problem⟩
    | (_, .ok _) => none
  if unreadable.isEmpty then
    .ok ((given environment).foldl (fun s (e, v) => (v.map (e.set s)).toOption.getD s) {})
  else .error (unreadable.mergeSort fun a b => a.name ≤ b.name)

end Settings

end FleetTracking
