/-!
# JSON values

Numbers keep the form they were written in, whole or fractional, because the two are told apart
by everything that reads them. Objects keep the order of their fields.
-/

namespace FleetTracking

/-- A JSON value. -/
inductive Json
  | null
  | bool (b : Bool)
  | int (n : Int)
  | float (x : Float)
  | string (s : String)
  | array (items : List Json)
  /-- Fields in order, each name once. -/
  | object (fields : List (String × Json))
  deriving Inhabited

namespace Json

/-- The value of a field. -/
def lookup (name : String) (fields : List (String × Json)) : Option Json :=
  (fields.find? fun field => field.1 == name).map Prod.snd

/-- Sets a field: a name that is there keeps its place, a new one goes to the end. -/
def insert (name : String) (value : Json) : List (String × Json) → List (String × Json)
  | [] => [(name, value)]
  | field :: fields =>
    if field.1 == name then (name, value) :: fields else field :: insert name value fields

/-- The field of an object; nothing for a missing field and for a value that is no object. -/
def field? (v : Json) (name : String) : Option Json :=
  match v with
  | object fields => lookup name fields
  | _ => none

/-- A value that does not count as given: null, false, zero and what is empty. -/
def isVacant : Json → Bool
  | null => true
  | bool b => !b
  | int n => n == 0
  | float x => x == 0.0
  | string s => s.isEmpty
  | array items => items.isEmpty
  | object fields => fields.isEmpty

/-- A value or null. -/
def ofOption (encode : α → Json) : Option α → Json
  | none => null
  | some a => encode a

theorem lookup_insert_self (name : String) (value : Json) (fields : List (String × Json)) :
    lookup name (insert name value fields) = some value := by
  induction fields with
  | nil => simp [insert, lookup]
  | cons f fs ih =>
    by_cases h : f.1 = name
    · simp [insert, lookup, h]
    · simpa [insert, lookup, h] using ih

theorem lookup_insert_of_ne {name other : String} (h : other ≠ name) (value : Json)
    (fields : List (String × Json)) :
    lookup other (insert name value fields) = lookup other fields := by
  induction fields with
  | nil => simp [insert, lookup, Ne.symm h]
  | cons f fs ih =>
    by_cases hf : f.1 = name
    · subst hf
      simp [insert, lookup, Ne.symm h]
    · by_cases ho : f.1 = other
      · simp [insert, lookup, ho, h]
      · simpa [insert, lookup, hf, ho] using ih

end Json

end FleetTracking
