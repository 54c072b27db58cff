import FleetTracking.Api.Moment
import FleetTracking.Fleet.Report
import FleetTracking.Json.Body
import FleetTracking.Json.Printer

/-!
# What requests hold

The parts of a request are read leniently: numbers may be text, flags count as numbers, and a whole
number may have a fraction of zeros. Everything that is wrong with a request is reported at once,
each problem with its place in the request.
-/

namespace FleetTracking.Api

/-! ## Problems -/

/-- What is wrong with a part of a request. -/
inductive Complaint
  | missing
  | malformedJson
  | notAnObject
  | notAList
  | notAnInteger
  /-- Text that writes no integer. -/
  | unreadableInteger
  /-- A number with a fraction where an integer is wanted. -/
  | fractionalInteger
  /-- Text with more digits than are read, or a number that is too large to be taken for an
  integer. -/
  | oversizedInteger
  | notFinite
  | notANumber
  | unreadableNumber
  | notAMoment
  /-- A moment that the calendar has no name for. -/
  | unnamedMoment
  | unreadableMoment
  deriving DecidableEq, Repr

/-- The name of a complaint in responses. -/
def Complaint.name : Complaint → String
  | missing => "missing"
  | malformedJson => "json_invalid"
  | notAnObject => "model_attributes_type"
  | notAList => "list_type"
  | notAnInteger => "int_type"
  | unreadableInteger => "int_parsing"
  | fractionalInteger => "int_from_float"
  | oversizedInteger => "int_parsing_size"
  | notFinite => "finite_number"
  | notANumber => "float_type"
  | unreadableNumber => "float_parsing"
  | notAMoment => "datetime_type"
  | unnamedMoment => "datetime_parsing"
  | unreadableMoment => "datetime_from_date_parsing"

/-- Something that is wrong with a request. -/
structure Problem where
  /-- Where it is: body, path or query, then names of fields and indices. -/
  location : List String
  complaint : Complaint
  /-- What was found there. -/
  found : Json

namespace Problem

/-- Problems are listed by place, and by name in one place. -/
def isLE (a b : Problem) : Bool :=
  if a.location = b.location then a.complaint.name ≤ b.complaint.name
  else decide (a.location < b.location)

/-- A problem in a response. -/
def toJson (p : Problem) : Json := .object
  [("loc", .array (p.location.map .string)), ("type", .string p.complaint.name)]

end Problem

/-- The value of a part of a request, or everything that is wrong with it. -/
abbrev Checked (α : Type) := Except (List Problem) α

namespace Checked

/-- Two parts, with the problems of both. -/
def both : Checked α → Checked β → Checked (α × β)
  | .ok a, .ok b => .ok (a, b)
  | .ok _, .error q => .error q
  | .error p, .ok _ => .error p
  | .error p, .error q => .error (p ++ q)

/-- All parts of a list, with the problems of all of them. -/
def all : List (Checked α) → Checked (List α)
  | [] => .ok []
  | part :: parts => (both part (all parts)).map fun (a, as) => a :: as

/-- A part at a place that is read in one way. -/
def reading (location : List String) (read : Json → Except Complaint α) (v : Json) : Checked α :=
  (read v).mapError fun complaint => [⟨location, complaint, v⟩]

end Checked

/-! ## Values -/

namespace Input

/-- An integer that a double is, if it is small enough to be sure of. -/
def integerOfFloat (x : Float) : Except Complaint Int :=
  match (Decimal.Binary.ofFloat x).floor? with
  | none => .error .notFinite
  | some n =>
    if x != Decimal.ofInt n then .error .fractionalInteger
    else if n.natAbs < Nat.pow 2 63 then .ok n
    else .error .oversizedInteger

/-- The complaint about the text of an integer. -/
def integerTrouble : Text.NumeralTrouble → Complaint
  | .unreadable => .unreadableInteger
  | .tooLong => .oversizedInteger

/-- An integer. -/
def integer : Json → Except Complaint Int
  | .int n => .ok n
  | .bool b => .ok (if b then 1 else 0)
  | .float x => integerOfFloat x
  | .string s => (Text.lenientInt s.toList).mapError integerTrouble
  | _ => .error .notAnInteger

/-- A number. -/
def number : Json → Except Complaint Float
  | .int n =>
    let x := Decimal.ofInt n
    if x.isFinite then .ok x else .error .notANumber
  | .bool b => .ok (if b then 1.0 else 0.0)
  | .float x => .ok x
  | .string s =>
    match Text.lenientFloat? s.toList with
    | some x => .ok x
    | none => .error .unreadableNumber
  | _ => .error .notANumber

/-- The complaint about the text of a moment. -/
def momentTrouble : Moment.Trouble → Complaint
  | .unreadable => .unreadableMoment
  | .yearZero => .unnamedMoment

/-- A moment. A number that no double comes near is of the wrong type. -/
def moment : Json → Except Complaint Timestamp
  | .int n =>
    if (Decimal.ofInt n).isFinite then (Moment.ofCount n).mapError fun _ => .unnamedMoment
    else .error .notAMoment
  | .float x => (Moment.ofNumber x).mapError fun _ => .unnamedMoment
  | .string s => (Moment.parse s).mapError momentTrouble
  | _ => .error .notAMoment

/-! ## Bodies -/

/-- A field that an object must have; what is found where it is missing is the object. -/
def field (location : List String) (v : Json) (name : String)
    (read : Json → Except Complaint α) : Checked α :=
  match v.field? name with
  | some x => Checked.reading (location ++ [name]) read x
  | none => .error [⟨location ++ [name], .missing, v⟩]

/-- Goes on with the fields of an object. -/
def object (location : List String) (v : Json) (go : Json → Checked α) : Checked α :=
  match v with
  | .object _ => go v
  | _ => .error [⟨location, .notAnObject, v⟩]

/-- The report in the fields of an object. -/
def report (location : List String) (v : Json) : Checked Report :=
  (Checked.both (field location v "latitude" number)
    (Checked.both (field location v "longitude" number)
      (field location v "recorded_at" moment))).map
    fun (latitude, longitude, recordedAt) => ⟨⟨latitude, longitude⟩, recordedAt⟩

/-- The reports of a list. -/
def reports (location : List String) (v : Json) : Checked (List Report) :=
  match v with
  | .array items =>
    Checked.all ((items.zip (List.range items.length)).map fun (item, i) =>
      let location := location ++ [toString i]
      object location item (report location))
  | _ => .error [⟨location, .notAList, v⟩]

/-- A report with the vehicle that it is of. -/
def submission (v : Json) : Checked (Int × Report) :=
  object ["body"] v fun v =>
    Checked.both (field ["body"] v "vehicle_id" integer) (report ["body"] v)

/-- Reports, none by default, with the vehicle that they are of. -/
def batch (v : Json) : Checked (Int × List Report) :=
  object ["body"] v fun v =>
    let positions := match v.field? "positions" with
      | some items => reports ["body", "positions"] items
      | none => .ok []
    Checked.both (field ["body"] v "vehicle_id" integer) positions

/-- The body of a request, if it has one. -/
def body (text : Option String) : Except Json.BodyTrouble (Option Json) :=
  match text with
  | none | some "" => .ok none
  | some text => (Json.parseBody text).map some

/-- The problem of a body that is not JSON. -/
def malformedBody : Problem := ⟨["body"], .malformedJson, .null⟩

/-- A body that must be there. -/
def required (read : Json → Checked α) : Option Json → Checked α
  | some v => read v
  | none => .error [⟨["body"], .missing, .null⟩]

end Input

end FleetTracking.Api
