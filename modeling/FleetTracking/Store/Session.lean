import FleetTracking.Store.Tables

/-!
# Sessions

A session stages rows for the tables. It has one list for vehicles and one for positions, and
saving either list commits the staged rows of both, all or none.

A session in which a commit failed is stalled: it answers no question and commits nothing more until
it is rolled back. All rows that were staged are lost then: they leave the session, but stay in the
list that was not being saved. A save rolls its session back itself when it fails.

Several sessions may work on the same tables, one commit after another. Where a table has been made
anew, an inserted row may take the identifier of one that was stored before; a session that still
lists the older one loses it.
-/

namespace FleetTracking

/-- What has become of a staged row. -/
inductive Fate
  | waiting
  /-- It is in its table under this identifier. -/
  | stored (id : Int)
  /-- It waited when its session was rolled back, or another row took its identifier. -/
  | lost
  deriving DecidableEq

/-- A row of one of the lists of a session. -/
structure Staged (α : Type) where
  row : α
  fate : Fate

/-- The lists of rows that wait to be saved. -/
structure Session where
  vehicles : List (Staged NewVehicle)
  positions : List (Staged NewPosition)
  /-- Whether a commit failed and the session has not been rolled back since. -/
  isStalled : Bool

namespace Session

/-- A session with nothing staged. -/
def empty : Session := ⟨[], [], false⟩

/-- The rows that a commit inserts. -/
def waiting (staged : List (Staged α)) : List α :=
  (staged.filter fun s => s.fate == .waiting).map Staged.row

/-- Gives the rows that waited the identifiers of the inserted rows, in order. -/
def settle : List Int → List (Staged α) → List (Staged α)
  | id :: ids, ⟨row, .waiting⟩ :: rest => ⟨row, .stored id⟩ :: settle ids rest
  | ids, s :: rest => s :: settle ids rest
  | _, [] => []

/-- Gives up the stored rows whose identifiers other rows have taken. -/
def displace (ids : List Int) (staged : List (Staged α)) : List (Staged α) :=
  staged.map fun s =>
    match s.fate with
    | .stored id => if ids.contains id then { s with fate := .lost } else s
    | _ => s

/-- What becomes of the rows of a list when rows with these identifiers are inserted, those that
waited first. -/
def inserted (ids : List Int) (staged : List (Staged α)) : List (Staged α) :=
  settle ids (displace ids staged)

/-- Gives up the rows that waited. -/
def giveUp (staged : List (Staged α)) : List (Staged α) :=
  staged.map fun s => if s.fate == .waiting then { s with fate := .lost } else s

/-- Gives up all rows that waited, and is at work again. -/
def rollback (s : Session) : Session := ⟨giveUp s.vehicles, giveUp s.positions, false⟩

/-- The identifiers of the rows that an insertion put behind `old`. -/
def addedIds (id : α → Int) (old new : Option (List α)) : List Int :=
  ((new.getD []).drop (old.getD []).length).map id

/-- Commits the staged rows, and rows of vehicles and positions that are in no list, all or
none. -/
def commitWith (s : Session) (t : Tables) (vehicles : List NewVehicle)
    (positions : List NewPosition) : Except Failure Unit × Session × Tables :=
  if s.isStalled then (.error .rollbackPending, s, t)
  else
    match t.insert (waiting s.vehicles ++ vehicles) (waiting s.positions ++ positions) with
    | .ok t' =>
      (.ok (),
        ⟨inserted (addedIds VehicleRow.id t.vehicles t'.vehicles) s.vehicles,
          inserted (addedIds PositionRow.id t.positions t'.positions) s.positions, false⟩,
        t')
    | .error e => (.error e, { s with isStalled := true }, t)

/-- Commits the staged rows, all or none. -/
def commit (s : Session) (t : Tables) : Except Failure Unit × Session × Tables :=
  s.commitWith t [] []

/-- Reads a row again after a commit. -/
def refresh (id : α → Int) (table : Option (List α)) : Fate → Except Failure α
  | .stored n => do
    match (← Tables.rows table).find? fun r => id r == n with
    | some r => return r
    | none => .error .rowLost
  | _ => .error .rowLost

/-- What the store reports when a commit of positions failed. A constraint can only have been
broken by a repeated position; its time is known when just one was staged. -/
def positionFailure (staged : List (Staged NewPosition)) : Failure → Failure
  | .constraintViolated =>
    match staged with
    | [] => .duplicatePosition (.int 0) none
    | [s] => .duplicatePosition (VehicleRef.toJson s.row.vehicle)
        (some s.row.recordedAt.instant.timestamp)
    | s :: _ => .duplicatePosition (VehicleRef.toJson s.row.vehicle) none
  | e => e

/-- Saves the list of positions. The list is empty afterwards, whatever happens. -/
def savePositions (s : Session) (t : Tables) :
    Except Failure (List Position) × Session × Tables :=
  let staged := s.positions
  let (result, s, t) := s.commit t
  match result with
  | .error e => (.error (positionFailure staged e), { s.rollback with positions := [] }, t)
  | .ok () =>
    (do
      let rows ← s.positions.mapM fun p => refresh PositionRow.id t.positions p.fate
      rows.mapM PositionRow.toPosition,
      { s with positions := [] }, t)

/-- Saves the list of vehicles. The list is empty afterwards, whatever happens. -/
def saveVehicles (s : Session) (t : Tables) :
    Except Failure (List Vehicle) × Session × Tables :=
  let (result, s, t) := s.commit t
  match result with
  | .error e => (.error e, { s.rollback with vehicles := [] }, t)
  | .ok () =>
    (do
      let rows ← s.vehicles.mapM fun v => refresh VehicleRow.id t.vehicles v.fate
      return rows.map VehicleRow.toVehicle,
      { s with vehicles := [] }, t)

/-- Stages positions. -/
def stage (s : Session) (positions : List Position) : Session :=
  { s with positions := s.positions ++
      positions.map fun p => ⟨NewPosition.ofPosition p, .waiting⟩ }

/-- Stages a vehicle. -/
def addVehicle (s : Session) (v : VehicleDraft) : Except Failure Session := do
  let row ← NewVehicle.ofDraft v
  return { s with vehicles := s.vehicles ++ [⟨row, .waiting⟩] }

end Session

/-! ## Connections -/

/-- A session at work on its tables. -/
structure Connection where
  tables : Tables
  session : Session

namespace Connection

/-- A new session on tables without rows. -/
def empty : Connection := ⟨.empty, .empty⟩

/-- Asks the tables. A session that is stalled cannot do so. -/
def ask (c : Connection) (question : Tables → Except Failure α) : Except Failure α :=
  if c.session.isStalled then .error .rollbackPending else question c.tables

/-- Stages a vehicle. -/
def addVehicle (c : Connection) (v : VehicleDraft) : Except Failure Unit × Connection :=
  match c.session.addVehicle v with
  | .ok session => (.ok (), { c with session })
  | .error e => (.error e, c)

/-- Saves the list of positions. -/
def savePositions (c : Connection) : Except Failure (List Position) × Connection :=
  let (result, session, tables) := c.session.savePositions c.tables
  (result, { session, tables })

/-- Saves the list of vehicles. -/
def saveVehicles (c : Connection) : Except Failure (List Vehicle) × Connection :=
  let (result, session, tables) := c.session.saveVehicles c.tables
  (result, { session, tables })

/-- Commits the staged rows and further rows that are in no list. -/
def commitWith (c : Connection) (vehicles : List NewVehicle) (positions : List NewPosition) :
    Except Failure Unit × Connection :=
  let (result, session, tables) := c.session.commitWith c.tables vehicles positions
  (result, { session, tables })

/-- Switches a vehicle on or off, in the answer alone: each question makes its own copy of the
row. -/
def setActive (c : Connection) (vehicle : VehicleRef) (active : Bool) :
    Except Failure Vehicle × Connection :=
  match c.ask (·.vehicle? vehicle) with
  | .ok (some v) => (.ok (v.setActive active), c)
  | .ok none => (.error .missingMember, c)
  | .error e => (.error e, c)

end Connection

instance : FleetStore Connection where
  vehicle? c vehicle := c.ask (·.vehicle? vehicle)
  vehicles c := c.ask Tables.vehiclesByName
  isRecorded c vehicle t := c.ask (·.isRecorded vehicle t)
  between c vehicle start stop := c.ask (·.between vehicle start stop)
  last? c vehicle := c.ask (·.last? vehicle)
  stage c positions := { c with session := c.session.stage positions }
  savePositions := Connection.savePositions
  addVehicle := Connection.addVehicle
  saveVehicles := Connection.saveVehicles
  setActive := Connection.setActive
  reopen c := { c with session := .empty }

end FleetTracking
