import FleetTracking.Text.Numeral
import FleetTracking.Url.Host

/-!
# Addresses

An address has a scheme, an authority (a user, a host and a port number), a path, a query and a
fragment, most of which may be missing. `Url.parse?` reads one and puts it into its usual form: the
scheme and the host in lower case, no port number that goes without saying, no `.` and `..` in the
path, and percent encoding where it is needed.
-/

namespace FleetTracking

/-- An address in its usual form. -/
structure Url where
  scheme : String
  user : String
  host : String
  port : Option Int
  path : String
  query : Option String
  fragment : Option String

namespace Url

open Text

/-! ## Characters -/

/-- A printable ASCII character. -/
def isVisible (c : Char) : Bool := 0x20 ≤ c.toNat && c.toNat < 0x7F

/-- A character that stays as it is in a fragment. -/
def isFragmentSafe (c : Char) : Bool := isVisible c && !" \"<>`".toList.contains c

/-- A character that stays as it is in a query. -/
def isQuerySafe (c : Char) : Bool := isVisible c && !" \"#<>".toList.contains c

/-- A character that stays as it is in a path. -/
def isPathSafe (c : Char) : Bool := isQuerySafe c && !"?`\x7b\x7d".toList.contains c

/-- A character that stays as it is in a user. -/
def isUserSafe (c : Char) : Bool := isPathSafe c && !"/;=@[\\]^|".toList.contains c

/-- A control character, which no address can hold. -/
def isControl (c : Char) : Bool := c.toNat < 0x20 || c.toNat == 0x7F

/-- How many characters an address may have. -/
def longest : Nat := 65536

/-! ## Parts -/

/-- Whether text is a scheme, which may be empty. -/
def isScheme : List Char → Bool
  | [] => true
  | c :: cs =>
    c.isAlpha && cs.all fun c => c.isAlphanum || c == '+' || c == '-' || c == '.'

/-- The scheme in front of the first colon, and what follows it. -/
def splitScheme (cs : List Char) : List Char × List Char :=
  match splitFirst (· == ':') cs with
  | (scheme, some rest) => if isScheme scheme then (scheme, rest) else ([], cs)
  | _ => ([], cs)

/-- The authority behind two slashes, and what follows it. -/
def splitAuthority : List Char → List Char × List Char
  | '/' :: '/' :: cs =>
    let isEnd (c : Char) := c == '/' || c == '?' || c == '#'
    (cs.takeWhile (!isEnd ·), cs.dropWhile (!isEnd ·))
  | cs => ([], cs)

/-- The text in front of the last sign that ends a user, and what follows it. -/
def splitUser (cs : List Char) : List Char × List Char :=
  if cs.contains '@' then
    ((cs.reverse.dropWhile (· != '@')).drop 1 |>.reverse, (cs.reverse.takeWhile (· != '@')).reverse)
  else ([], cs)

/-- The host, which may stand in brackets, and the port number, whose colon may be missing behind
a bracket. -/
def splitPort (cs : List Char) : List Char × List Char :=
  let host :=
    if cs.head? == some '[' && cs.contains ']' then
      (cs.reverse.dropWhile (· != ']')).reverse
    else cs.takeWhile (· != ':')
  let rest := cs.drop host.length
  (host, if rest.head? == some ':' then rest.drop 1 else rest)

/-- The port number that goes without saying. It is known for schemes in lower case. -/
def defaultPort? (scheme : List Char) : Option Int :=
  match String.ofList scheme with
  | "ftp" => some 21
  | "http" | "ws" => some 80
  | "https" | "wss" => some 443
  | _ => none

/-- The port number that is written, if there is one; nothing if it is no number. -/
def port? (scheme text : List Char) : Option (Option Int) :=
  if text.isEmpty then some none
  else
    (argumentInt? (String.ofList text)).map fun n =>
      if defaultPort? scheme = some n then none else some n

/-- Leaves out the segments `.`, and `..` with the segment in front of it. -/
def dropDots (cs : List Char) : List Char :=
  let segments := splitBy (· == '/') cs
  if segments.contains ['.'] || segments.contains ['.', '.'] then
    List.intercalate ['/'] <|
      segments.foldl (fun kept segment =>
        if segment = ['.'] then kept
        else if segment = ['.', '.'] then if kept = [[]] then kept else kept.dropLast
        else kept ++ [segment]) []
  else cs

/-! ## Reading -/

/-- Reads an address. -/
def parse? (s : String) : Option Url := do
  let cs := s.toList
  if longest < cs.length || cs.any isControl then none
  else
    let (scheme, cs) := splitScheme cs
    let (authority, cs) := splitAuthority cs
    let (user, place) := splitUser authority
    let (hostText, portText) := splitPort place
    let (cs, fragment) := splitFirst (· == '#') cs
    let (path, query) := splitFirst (· == '?') cs
    let user := percentEncode isUserSafe user
    let host ← encodeHost? hostText
    let port ← port? scheme portText
    let hasAuthority := !user.isEmpty || !host.isEmpty || port.isSome
    let isBare := scheme.isEmpty && !hasAuthority
    if isBare && (path.take 2 == ['/', '/'] || path.head? == some ':') then none
    else
      let path := percentEncode isPathSafe (if isBare then path else dropDots path)
      return {
        scheme := String.ofList (scheme.map Char.toLower)
        user := String.ofList user
        host := String.ofList host
        port
        path := String.ofList path
        query := query.map fun cs => String.ofList (percentEncode isQuerySafe cs)
        fragment := fragment.map fun cs => String.ofList (percentEncode isFragmentSafe cs) }

/-! ## Writing -/

/-- User, host and port number. -/
def authority (u : Url) : String :=
  (if u.user.isEmpty then "" else u.user ++ "@") ++
    (if u.host.contains ':' then "[" ++ u.host ++ "]" else u.host) ++
    ((u.port.map fun n => ":" ++ toString n).getD "")

/-- Path and query; the path is at least a slash. -/
def target (u : Url) : String :=
  (if u.path.isEmpty then "/" else u.path) ++ ((u.query.map fun q => "?" ++ q).getD "")

/-- The text of an address. -/
def render (u : Url) : String :=
  let authority := u.authority
  (if u.scheme.isEmpty then "" else u.scheme ++ ":") ++
    (if authority.isEmpty then "" else "//" ++ authority) ++
    u.path ++ ((u.query.map fun q => "?" ++ q).getD "") ++
    ((u.fragment.map fun f => "#" ++ f).getD "")

/-! ## Relative addresses -/

/-- Whether an address says by itself where to go. -/
def isAbsolute (u : Url) : Bool := !u.scheme.isEmpty && !u.host.isEmpty

/-- The path and the query of an address at another place, with one slash in front. -/
def placedAt (origin : Url) (u : Url) : Url :=
  let target := '/' :: u.target.toList.dropWhile (· == '/')
  let (path, query) := splitFirst (· == '?') target
  let isBare := origin.scheme.isEmpty && origin.authority.isEmpty
  { origin with
    path := String.ofList (if isBare then path else dropDots path)
    query := query.map String.ofList
    fragment := none }

/-- No place in particular. -/
def nowhere : Url := ⟨"", "", "", none, "", none, none⟩

end Url

end FleetTracking
