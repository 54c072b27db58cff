import FleetTracking.Calendar.Timestamp
import FleetTracking.Text.Blank

/-!
# Vehicles

What is known of a vehicle before and after a store has given it an identifier.
-/

namespace FleetTracking

/-- How a report or a question names a vehicle; the name may have been left out. -/
abbrev VehicleRef := Option Int

/-- A vehicle that is offered to a store. -/
structure VehicleDraft where
  /-- The identifier asked for; the store chooses one if there is none. -/
  id : Option Int
  name : Option String
  isActive : Bool
  createdDate : Option Timestamp
  deriving DecidableEq

namespace VehicleDraft

/-- A vehicle needs a name with something in it besides white space. -/
def isValid (v : VehicleDraft) : Bool :=
  match v.name with
  | some name => !Text.isAllBlank name
  | none => false

/-- The vehicle takes reports from now on, or no longer. -/
def setActive (active : Bool) (v : VehicleDraft) : VehicleDraft := { v with isActive := active }

end VehicleDraft

/-- A vehicle of a store. -/
structure Vehicle where
  id : Int
  name : String
  isActive : Bool
  createdDate : Option Timestamp
  deriving DecidableEq

/-- The vehicle takes reports from now on, or no longer. -/
def Vehicle.setActive (active : Bool) (v : Vehicle) : Vehicle := { v with isActive := active }

end FleetTracking
