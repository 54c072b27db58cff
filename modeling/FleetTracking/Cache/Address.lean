import FleetTracking.Settings
import FleetTracking.Text.Percent
import FleetTracking.Url.Ip

/-!
# The address of the cache server

A cache is switched off when the address of its server cannot be understood, which is found out
without a connection. Three parts of the address may be at fault:

* the authority, if its brackets do not hold a numeric address or a character of it looks like one
  that ends an authority;
* the port number, if it is beyond 65535 or no number at all;
* an option, if its value is not of the kind that it needs.
-/

namespace FleetTracking.Cache

open Text

/-! ## Parts of an address -/

/-- The characters of an address behind its scheme; tabs and line ends do not count. -/
def significant (address : String) : List Char :=
  (address.toList.filter fun c => c != '\t' && c != '\r' && c != '\n').drop "redis://".length

/-- A character that ends the authority. -/
def endsAuthority (c : Char) : Bool := c == '/' || c == '?' || c == '#'

/-- The part of an address that names user, host and port number. -/
def authority (address : String) : List Char :=
  (significant address).takeWhile (!endsAuthority ·)

/-- The options of an address: names with values that are not empty, in order. A plus sign is a
blank. -/
def options (address : String) : List (String × List Char) :=
  let behind := (significant address).takeWhile (· != '#')
  match splitFirst (· == '?') behind with
  | (_, some query) =>
    (splitBy (· == '&') query).filterMap fun part =>
      match splitFirst (· == '=') part with
      | (name, some (c :: value)) => some (percentDecode (blanks name), blanks (c :: value))
      | _ => none
  | _ => []
where
  /-- Reads plus signs as blanks. -/
  blanks (cs : List Char) : List Char := cs.map fun c => if c = '+' then ' ' else c

/-! ## The authority -/

/-- Characters that stand for one or more others, among them one that ends an authority, a user or
a host. -/
def lookalikes : List Nat :=
  [0x2047, 0x2048, 0x2049, 0x2100, 0x2101, 0x2105, 0x2106, 0x2A74, 0xFE13, 0xFE16, 0xFE55, 0xFE56,
    0xFE5F, 0xFE6B, 0xFF03, 0xFF0F, 0xFF1A, 0xFF1F, 0xFF20]

/-- A numeric address as it may stand in brackets: of version 6, or of a later one, whose number
is written behind a `v`. -/
def isBracketed : List Char → Bool
  | 'v' :: cs =>
    let version := cs.takeWhile fun c => (hexValue? c).isSome
    match cs.drop version.length with
    | '.' :: address => !version.isEmpty && !address.isEmpty
    | _ => false
  | cs => Url.isIpv6 cs

/-- Whether an authority can be understood. -/
def isAuthority (cs : List Char) : Bool :=
  cs.contains '[' == cs.contains ']' &&
    (!cs.contains '[' ||
      isBracketed (((cs.dropWhile (· != '[')).drop 1).takeWhile (· != ']'))) &&
    !cs.any fun c => lookalikes.contains c.toNat

/-! ## The port number -/

/-- Host and port number: what follows the last sign that ends a user. -/
def hostAndPort (authority : List Char) : List Char :=
  (authority.reverse.takeWhile (· != '@')).reverse

/-- The port number: what follows the first colon behind the host, which may stand in brackets. -/
def portText (host : List Char) : List Char :=
  let host := if host.contains '[' then (host.dropWhile (· != '[')).dropWhile (· != ']') else host
  (host.dropWhile (· != ':')).drop 1

/-- A port number that can be used, or none at all. -/
def isPort (cs : List Char) : Bool :=
  cs.isEmpty ||
    match number? cs with
    | some n => n ≤ 65535
    | none => false

/-! ## Options -/

/-- The checks of certificates that can be switched on or off. -/
def certificateChecks : List String :=
  ["VERIFY_DEFAULT", "VERIFY_CRL_CHECK_LEAF", "VERIFY_CRL_CHECK_CHAIN", "VERIFY_X509_STRICT",
    "VERIFY_ALLOW_PROXY_CERTS", "VERIFY_X509_TRUSTED_FIRST", "VERIFY_X509_PARTIAL_CHAIN"]

/-- A list of checks, perhaps in brackets. -/
def areChecks (value : String) : Bool :=
  let cs := value.toList.filter fun c => c != '[' && c != ']'
  (splitBy (· == ',') cs).all fun name => certificateChecks.contains (String.ofList (trim name))

/-- Whether an option has a value of the kind that it needs. -/
def isOption (name value : String) : Bool :=
  match name with
  | "db" | "health_check_interval" | "protocol" | "socket_read_size" =>
    (argumentInt? value).isSome
  | "max_connections" => (argumentInt? value).any (0 ≤ ·)
  | "socket_timeout" | "socket_connect_timeout" | "timeout" => (argumentFloat? value).isSome
  | "ssl_include_verify_flags" | "ssl_exclude_verify_flags" => areChecks value
  -- the one name that no option can have
  | "self" => false
  | _ => true

/-- Whether all options can be understood; of several of one name the first one counts. Values are
decoded twice. -/
def areOptions (options : List (String × List Char)) : Bool :=
  options.all fun (name, _) =>
    match options.find? fun o => o.1 == name with
    | some (_, value) => isOption name (percentDecode (percentDecode value).toList)
    | none => true

/-! ## Starting -/

/-- Whether an address can be understood. -/
def isAddress (address : String) : Bool :=
  let authority := authority address
  isAuthority authority && isPort (portText (hostAndPort authority)) && areOptions (options address)

/-- Whether a cache comes up switched on, when it is asked for or set to be. -/
def startsEnabled (settings : Settings) (wanted : Option Bool) : Bool :=
  wanted.getD settings.cacheEnabled && isAddress settings.cacheAddress

end FleetTracking.Cache
