import FleetTracking.Text.Digit
import FleetTracking.Text.Split

/-!
# Numeric addresses

Addresses of version 4 are four numbers below 256 with points between them. Those of version 6 are
eight groups of up to four hexadecimal digits with colons between them, where one run of groups
that are zero may be left out (`::`), the last two groups may be written as version 4, and a zone
may follow a percent sign.
-/

namespace FleetTracking.Url

open Text

/-- A number below 256 without zeros in front. -/
def isOctet (cs : List Char) : Bool :=
  cs.length ≤ 3 && (cs.length ≤ 1 || cs.head? != some '0') &&
    match number? cs with
    | some n => n < 256
    | none => false

/-- An address of version 4. -/
def isIpv4 (cs : List Char) : Bool :=
  let octets := splitBy (· == '.') cs
  octets.length == 4 && octets.all isOctet

/-- One to four hexadecimal digits. -/
def isGroup (cs : List Char) : Bool :=
  !cs.isEmpty && cs.length ≤ 4 && cs.all fun c => (hexValue? c).isSome

/-- The groups of an address, where a last part in version 4 counts as two of them; nothing if
that part is none. -/
def groups? (cs : List Char) : Option (List (List Char)) :=
  let parts := splitBy (· == ':') cs
  match parts.getLast? with
  | some last =>
    if last.contains '.' then
      if isIpv4 last then some (parts.dropLast ++ [['0'], ['0']]) else none
    else some parts
  | none => none

/-- The groups on one side of those left out: an empty one means that there are none. -/
def side (groups : List (List Char)) : List (List Char) := if groups == [[]] then [] else groups

/-- Whether groups make up an address: eight of them, or fewer around an empty one that stands for
all that were left out. -/
def areGroups (groups : List (List Char)) : Bool :=
  let inner := (groups.drop 1).dropLast
  match inner.countP List.isEmpty with
  | 0 => groups.length == 8 && groups.all isGroup
  | 1 =>
    let front := side (groups.take 1 ++ inner.takeWhile (!·.isEmpty))
    let back := side ((inner.dropWhile (!·.isEmpty)).drop 1 ++ groups.drop (groups.length - 1))
    front.length + back.length < 8 && (front ++ back).all isGroup
  | _ => false

/-- An address of version 6, with a zone or without one. -/
def isIpv6 (cs : List Char) : Bool :=
  let (address, zone) := splitFirst (· == '%') cs
  let zoneFits := match zone with
    | some zone => !zone.isEmpty && !zone.contains '%'
    | none => true
  zoneFits && 3 ≤ (splitBy (· == ':') address).length &&
    match groups? address with
    | some groups => areGroups groups
    | none => false

end FleetTracking.Url
