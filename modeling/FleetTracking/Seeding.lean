import FleetTracking.Settings
import FleetTracking.Simulation.Random
import FleetTracking.Store.Session

/-!
# Sample data

A sample fleet for a store without vehicles: vehicles with random names and dates, and for the
first of them a short track near the center of the city, a position every five minutes from two
hours ago.

The fleet is put into a store through its own operations (`Seeding.seedStore`), or into tables by
two commits, first the vehicles and then the positions (`Seeding.seedTables`). Neither commit is
rolled back when it fails, so whoever goes on with the session has to do that.
-/

namespace FleetTracking

/-- How much sample data is wanted. -/
structure SeedCounts where
  vehicles : Int
  /-- How many vehicles get a track; a negative number leaves out that many at the end. -/
  positioned : Int
  perVehicle : Int

/-- The counts of the settings. -/
def Settings.seedCounts (s : Settings) : SeedCounts :=
  ⟨s.seedVehicles, s.seedPositioned, s.seedPerVehicle⟩

/-- A vehicle of a sample. -/
structure SampleVehicle where
  name : String
  createdDate : Instant

/-- A position of a sample. -/
structure SamplePosition where
  place : Point
  recordedAt : Instant

namespace Seeding

/-! ## Samples -/

/-- The kinds of vehicles that names begin with. -/
def vehicleKinds : List String := ["VAN", "TRUCK", "CAR", "BUS", "TAXI", "DELIVERY", "FLEET"]

/-- The place around which the tracks lie. -/
def center : Point := ⟨37.9838, 23.7275⟩

/-- Microseconds of a day. -/
def dayLength : Int := dayMicros

/-- The time between two positions of a track. -/
def trackInterval : Int := 5 * minuteMicros

/-- How long ago a track begins. -/
def trackAge : Int := 2 * hourMicros

variable {ρ : Type} [RandomSource ρ]

/-- The vehicle with a number, at most a year old. -/
def sampleVehicle (rng : ρ) (now : Instant) (number : Nat) : Except Failure SampleVehicle × ρ :=
  match RandomSource.place rng vehicleKinds.length with
  | (.error e, rng) => (.error e, rng)
  | (.ok kind, rng) =>
    let name := vehicleKinds[kind]?.getD "" ++ "-" ++ String.ofList (Text.padded 3 number)
    let (days, rng) := RandomSource.integer rng 1 364
    (do return ⟨name, ← now.add (-((← days) * dayLength))⟩, rng)

/-- Vehicles with the numbers from `number` on. -/
def sampleVehicles (rng : ρ) (now : Instant) (number : Nat) :
    Nat → Except Failure (List SampleVehicle) × ρ
  | 0 => (.ok [], rng)
  | count + 1 =>
    match sampleVehicle rng now number with
    | (.error e, rng) => (.error e, rng)
    | (.ok v, rng) =>
      let (rest, rng) := sampleVehicles rng now (number + 1) count
      (rest.map (v :: ·), rng)

/-- A number near a center: within a hundredth for a number from zero to one. -/
def near (rng : ρ) (center : Float) : Float × ρ :=
  (RandomSource.unit rng).map (fun d => center + (d - 0.5) * 0.02) id

/-- The positions of a track that begins at `base`, from the one with index `index` on. -/
def sampleTrack (rng : ρ) (base : Instant) (index : Int) :
    Nat → Except Failure (List SamplePosition) × ρ
  | 0 => (.ok [], rng)
  | count + 1 =>
    let (latitude, rng) := near rng center.latitude
    let (longitude, rng) := near rng center.longitude
    match base.add (index * trackInterval) with
    | .error e => (.error e, rng)
    | .ok recordedAt =>
      let (rest, rng) := sampleTrack rng base (index + 1) count
      (rest.map (⟨⟨latitude, longitude⟩, recordedAt⟩ :: ·), rng)

/-- Tracks that begin at `base`. -/
def sampleTracks (rng : ρ) (base : Instant) (length : Nat) :
    Nat → Except Failure (List (List SamplePosition)) × ρ
  | 0 => (.ok [], rng)
  | count + 1 =>
    match sampleTrack rng base 0 length with
    | (.error e, rng) => (.error e, rng)
    | (.ok track, rng) =>
      let (rest, rng) := sampleTracks rng base length count
      (rest.map (track :: ·), rng)

/-- How many of `n` vehicles get a track. -/
def positionedCount (n : Nat) (positioned : Int) : Nat :=
  if positioned < 0 then (n + positioned).toNat else min n positioned.toNat

/-- A sample fleet: its vehicles, and the tracks of the first of them. -/
def sample (rng : ρ) (now : Instant) (counts : SeedCounts) :
    Except Failure (List SampleVehicle × List (List SamplePosition)) × ρ :=
  match sampleVehicles rng now 1 counts.vehicles.toNat with
  | (.error e, rng) => (.error e, rng)
  | (.ok vehicles, rng) =>
    match now.add (-trackAge) with
    | .error e => (.error e, rng)
    | .ok base =>
      let (tracks, rng) := sampleTracks rng base counts.perVehicle.toNat
        (positionedCount vehicles.length counts.positioned)
      (tracks.map fun tracks => (vehicles, tracks), rng)

/-- The positions of the tracks, each of which belongs to the vehicle in its place. -/
def placed (ids : List Int) (tracks : List (List SamplePosition)) : List (Int × SamplePosition) :=
  (ids.zip tracks).flatMap fun (id, track) => track.map fun p => (id, p)

/-! ## Through a store -/

variable {σ : Type} [FleetStore σ]

/-- A sample vehicle as it is offered to a store. -/
def SampleVehicle.draft (v : SampleVehicle) : VehicleDraft :=
  ⟨none, v.name, true, some v.createdDate.timestamp⟩

/-- Stages vehicles one after another. -/
def stageVehicles (s : σ) : List SampleVehicle → Except Failure Unit × σ
  | [] => (.ok (), s)
  | v :: rest =>
    match FleetStore.addVehicle s (SampleVehicle.draft v) with
    | (.error e, s) => (.error e, s)
    | (.ok (), s) => stageVehicles s rest

/-- Stores a sample fleet. -/
def storeSample (s : σ) (vehicles : List SampleVehicle) (tracks : List (List SamplePosition)) :
    Except Failure Nat × σ :=
  match stageVehicles s vehicles with
  | (.error e, s) => (.error e, s)
  | (.ok (), s) =>
    match FleetStore.saveVehicles s with
    | (.error e, s) => (.error e, s)
    | (.ok saved, s) =>
      let positions := (placed (saved.map Vehicle.id) tracks).mapM fun (id, p) =>
        Position.report (some id) p.place p.recordedAt.timestamp none
      match positions with
      | .error e => (.error e, s)
      | .ok positions =>
        let (result, s) := FleetStore.savePositions (FleetStore.stage s positions)
        (result.map fun _ => saved.length, s)

/-- Puts a sample fleet into a store without vehicles, and answers how many vehicles were
stored. -/
def seedStore (s : σ) (rng : ρ) (now : Instant) (counts : SeedCounts) :
    Except Failure Nat × σ × ρ :=
  match FleetStore.vehicles s with
  | .error e => (.error e, s, rng)
  | .ok (_ :: _) => (.ok 0, s, rng)
  | .ok [] =>
    match sample rng now counts with
    | (.error e, rng) => (.error e, s, rng)
    | (.ok (vehicles, tracks), rng) =>
      let (result, s) := storeSample s vehicles tracks
      (result, s, rng)

/-! ## Into tables -/

/-- A sample vehicle as a row. -/
def SampleVehicle.row (v : SampleVehicle) : NewVehicle :=
  ⟨none, v.name, true, some v.createdDate.civil⟩

/-- Commits a sample fleet: its vehicles, then its positions. -/
def commitSample (c : Connection) (vehicles : List SampleVehicle)
    (tracks : List (List SamplePosition)) : Except Failure Nat × Connection :=
  let old := (c.tables.vehicles.getD []).length
  let waiting := (Session.waiting c.session.vehicles).length
  match c.commitWith (vehicles.map SampleVehicle.row) [] with
  | (.error e, c) => (.error e, c)
  | (.ok (), c) =>
    let ids := ((c.tables.vehicles.getD []).drop (old + waiting)).map VehicleRow.id
    let rows := (placed ids tracks).map fun (id, p) =>
      (⟨some id, p.place, p.recordedAt.civil⟩ : NewPosition)
    let (result, c) := c.commitWith [] rows
    (result.map fun _ => vehicles.length, c)

/-- Puts a sample fleet into tables without vehicles, and answers how many vehicles it has. -/
def seedTables (c : Connection) (rng : ρ) (now : Instant) (counts : SeedCounts) :
    Except Failure Nat × Connection × ρ :=
  match c.ask (Tables.rows ·.vehicles) with
  | .error e => (.error e, c, rng)
  | .ok (_ :: _) => (.ok 0, c, rng)
  | .ok [] =>
    match sample rng now counts with
    | (.error e, rng) => (.error e, c, rng)
    | (.ok (vehicles, tracks), rng) =>
      let (result, c) := commitSample c vehicles tracks
      (result, c, rng)

end Seeding

end FleetTracking
