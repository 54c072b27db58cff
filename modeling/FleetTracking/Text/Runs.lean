/-!
# Runs of code points

A set of code points is kept as the places where a run of its members begins or ends. The places
are in increasing order, and the first one begins a run.
-/

namespace FleetTracking.Text

/-- Whether a code point lies in a run: an odd number of bounds lie at or below it. -/
def inRuns (bounds : Array Nat) (code : Nat) : Bool :=
  bounds.foldl (fun inside bound => if bound ≤ code then !inside else inside) false

end FleetTracking.Text
