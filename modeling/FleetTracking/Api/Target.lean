import FleetTracking.Url.Basic

/-!
# The target of a request

A target is the path and the query of an address: segments with slashes between them, and pairs of
a name and a value with `&` between them. The path is decoded before it is split at its slashes.
In the query a plus sign is a blank, and that is settled before the rest is decoded, so that an
encoded plus sign stays one.
-/

namespace FleetTracking.Api

open Text

/-- What a request is sent to. -/
structure Target where
  /-- The parts of the path behind its first slash. -/
  segments : List String
  /-- Names with their values, in order. -/
  query : List (String × String)

namespace Target

/-- The segments of a decoded path. -/
def segmentsOf (path : String) : List String :=
  ((splitBy (· == '/') path.toList).drop 1).map String.ofList

/-- Decodes a name or a value of a query. -/
def decodePart (cs : List Char) : String :=
  percentDecode (cs.map fun c => if c = '+' then ' ' else c)

/-- A name and the value behind its equals sign, which may be missing. -/
def pairOf (cs : List Char) : String × String :=
  (decodePart (cs.takeWhile (· != '=')), decodePart ((cs.dropWhile (· != '=')).drop 1))

/-- The pairs of a query. -/
def queryOf (cs : List Char) : List (String × String) :=
  ((splitBy (· == '&') cs).filter fun part => !part.isEmpty).map pairOf

/-- The target of an address. -/
def ofUrl (u : Url) : Target :=
  ⟨segmentsOf (percentDecode (if u.path.isEmpty then ['/'] else u.path.toList)),
    ((u.query.map fun q => queryOf q.toList).getD [])⟩

/-- Where the service is, which nobody asks for. -/
def origin : Url := { Url.nowhere with scheme := "http", host := "localhost" }

/-- Reads a target: an address, or what follows the host in one. -/
def parse? (s : String) : Option Target :=
  (Url.parse? s).map fun u => ofUrl (if u.isAbsolute then u else origin.placedAt u)

/-- The value of a name; of several the last one. -/
def value? (t : Target) (name : String) : Option String :=
  (t.query.reverse.find? fun pair => pair.1 == name).map Prod.snd

end Target

end FleetTracking.Api
