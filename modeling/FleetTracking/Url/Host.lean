import FleetTracking.Text.Percent
import FleetTracking.Url.Ip
import FleetTracking.Url.Label.Basic

/-!
# Hosts

The host of an address is a numeric address, a name in ASCII, which is written in lower case with
percent encoding, or a name with other characters, which is encoded label by label.
-/

namespace FleetTracking.Url

open Text

/-! ## Characters of addresses -/

/-- A character that never needs an escape. -/
def isUnreserved (c : Char) : Bool :=
  c.isAlphanum || c == '-' || c == '.' || c == '_' || c == '~'

/-- A character of a host that stays as it is. -/
def isHostSafe (c : Char) : Bool := isUnreserved c || "!$&'()*+,;=\"`\x7b\x7d%|\\".toList.contains c

/-! ## Numeric hosts -/

/-- The states of a reader of four runs of digits with any one character between two of them: even
ones wait for a first digit, odd ones are inside a run. -/
def nextStates (states : List Nat) (c : Char) : List Nat :=
  (states.flatMap fun s =>
    if s % 2 = 0 then if isDigit c then [s + 1] else []
    else (if isDigit c then [s] else []) ++ if s < 7 then [s + 1] else []).eraseDups

/-- Four runs of digits with any one character between two of them. -/
def looksNumeric (cs : List Char) : Bool := (cs.foldl nextStates [0]).contains 7

/-! ## All hosts -/

/-- The written form of a host; nothing if there is none. Brackets are left off. -/
def encodeHost? (cs : List Char) : Option (List Char) :=
  if cs.isEmpty then some []
  else if looksNumeric cs then if isIpv4 cs then some cs else none
  else if cs.head? == some '[' && cs.getLast? == some ']' then
    let address := (cs.drop 1).dropLast
    if isIpv6 address then some address else none
  else if cs.all fun c => c.toNat < 128 then
    some (percentEncode isHostSafe (cs.map Char.toLower))
  else Label.encodeName? cs

end FleetTracking.Url
