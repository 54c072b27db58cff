import FleetTracking.Json.Parser
import FleetTracking.Json.Printer
import FleetTracking.Failure

/-!
# The cache

A server keeps texts under keys. `Cache` is a client of it that keeps JSON values: a command that
fails, a missing key and an empty text are all a miss, and a failing write or removal goes
unnoticed. A cache that is switched off issues no such commands.

The value holds the state of the server as well: its entries, the commands that fail at the
moment, and the commands issued so far.
-/

namespace FleetTracking

/-- The commands of the server by name. -/
inductive CacheVerb
  | get | setex | delete | ping | aclose
  deriving DecidableEq, Repr

/-- A command with its arguments. -/
inductive CacheCommand
  | get (key : String)
  /-- Sets a text that expires after a number of seconds. -/
  | setex (key : String) (ttl : Int) (text : String)
  | delete (keys : List String)
  | ping
  | aclose

namespace CacheVerb

/-- The name of a command. -/
def name : CacheVerb → String
  | get => "get"
  | setex => "setex"
  | delete => "delete"
  | ping => "ping"
  | aclose => "aclose"

/-- The command of a name. -/
def ofName? (name : String) : Option CacheVerb :=
  [get, setex, delete, ping, aclose].find? fun verb => verb.name == name

end CacheVerb

/-- What a command does. -/
def CacheCommand.verb : CacheCommand → CacheVerb
  | get _ => .get
  | setex _ _ _ => .setex
  | delete _ => .delete
  | ping => .ping
  | aclose => .aclose

/-- A cache with the server behind it. -/
structure Cache where
  isEnabled : Bool
  /-- Texts by key, each key once. -/
  entries : List (String × String)
  failing : List CacheVerb
  /-- The commands issued, also those that failed. -/
  issued : List CacheCommand

namespace Cache

/-- A cache with nothing in it. -/
def empty (isEnabled : Bool) : Cache := ⟨isEnabled, [], [], []⟩

/-! ## Keys -/

/-- The key of some parts under a name. -/
def key (name : String) (parts : List Json) : String :=
  ":".intercalate ("fleet" :: name :: parts.map Json.display)

/-! ## The server -/

/-- The text under a key. -/
def text? (c : Cache) (key : String) : Option String :=
  (c.entries.find? fun entry => entry.1 == key).map Prod.snd

/-- Puts a text under a key. -/
def put (c : Cache) (key text : String) : Cache :=
  { c with entries := c.entries.filter (fun entry => entry.1 != key) ++ [(key, text)] }

/-- Removes the texts under some keys. -/
def drop (c : Cache) (keys : List String) : Cache :=
  { c with entries := c.entries.filter fun entry => !keys.contains entry.1 }

/-- Whether a command fails at the moment. -/
def fails (c : Cache) (verb : CacheVerb) : Bool := c.failing.contains verb

/-- Sends a command. -/
def issue (c : Cache) (command : CacheCommand) : Cache := { c with issued := c.issued ++ [command] }

/-- Lets just these commands fail from now on. -/
def breakdown (c : Cache) (verbs : List CacheVerb) : Cache := { c with failing := verbs }

/-! ## Values -/

/-- The value that a text stands for: an empty text and null stand for none. -/
def decode (text : String) : Except Failure (Option Json) :=
  if text.isEmpty then .ok none
  else
    match Json.parse text with
    | .error t => .error (.ofJson t)
    | .ok .null => .ok none
    | .ok v => .ok (some v)

/-- The value under a key. -/
def get (c : Cache) (key : String) : Except Failure (Option Json) × Cache :=
  if !c.isEnabled then (.ok none, c)
  else
    let value := if c.fails .get then .ok none
      else ((c.text? key).map decode).getD (.ok none)
    (value, c.issue (.get key))

/-- Puts a value under a key. -/
def set (c : Cache) (key : String) (value : Json) (ttl : Int) : Cache :=
  if !c.isEnabled then c
  else
    let text := value.render
    let c := c.issue (.setex key ttl text)
    if c.fails .setex then c else c.put key text

/-- Removes the values under some keys. -/
def delete (c : Cache) (keys : List String) : Cache :=
  if !c.isEnabled || keys.isEmpty then c
  else
    let c := c.issue (.delete (keys.mergeSort fun a b => a ≤ b))
    if c.fails .delete then c else c.drop keys

/-- Asks whether the server is there. -/
def ping (c : Cache) : Except Failure Bool × Cache :=
  if !c.isEnabled then (.ok false, c)
  else (if c.fails .ping then .error .connectionLost else .ok true, c.issue .ping)

/-- Closes the connection, which also a cache that is switched off has. -/
def close (c : Cache) : Except Failure Unit × Cache :=
  (if c.fails .aclose then .error .connectionLost else .ok (), c.issue .aclose)

end Cache

end FleetTracking
