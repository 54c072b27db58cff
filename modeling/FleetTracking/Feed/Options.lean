import FleetTracking.Settings

/-!
# Options of the command line

Options are written out (`--positions 3`), with their value attached (`--positions=3`), or
shortened as long as they stay apart from all others (`--pos 3`). The last one of a kind counts.

## Which arguments are values

An argument that begins with a hyphen is an option, unless it is a negative number, a hyphen alone,
or an unknown one with a blank in it. Behind a double hyphen everything is a value. A value that no
option asked for is a misuse.
-/

namespace FleetTracking.Feed

/-- What a run of the generator can be told. -/
structure Options where
  baseUrl : String
  positions : Int
  radius : Float
  /-- Whether the generator goes on until it is interrupted. -/
  loop : Bool
  /-- Seconds between two rounds. -/
  interval : Int

/-- The options by default. -/
def Options.ofSettings (s : Settings) : Options where
  baseUrl := s.apiUrl
  positions := s.positionsPerVehicle
  radius := s.stepRadius
  loop := false
  interval := s.roundInterval

namespace Options

/-- The options by name. -/
inductive Name
  | help | baseUrl | positions | radius | loop | interval
  deriving DecidableEq, Repr

namespace Name

/-- How options are written. -/
def spellings : List (List Char × Name) :=
  [("-h".toList, help), ("--help".toList, help), ("--base-url".toList, baseUrl),
    ("--positions".toList, positions), ("--radius".toList, radius), ("--loop".toList, loop),
    ("--interval".toList, interval)]

/-- The option that is written in full. -/
def exactly? (cs : List Char) : Option Name :=
  (spellings.find? fun spelling => spelling.1 == cs).map Prod.snd

/-- The options whose spelling begins so. -/
def startingWith (cs : List Char) : List Name :=
  (spellings.filter fun spelling => cs.isPrefixOf spelling.1).map Prod.snd

end Name

/-! ## Arguments -/

/-- What an argument is. -/
inductive Argument
  /-- An option, with the value that is attached to it. -/
  | option (name : Name) (attached : Option String)
  /-- It looks like an option, but there is none of that name. -/
  | unknown
  | value (text : String)
  /-- The double hyphen, in front of values only. -/
  | separator

/-- Splits a text at the first equals sign, if there is one. -/
def splitEquals (cs : List Char) : List Char × Option String :=
  match cs.dropWhile (· != '=') with
  | [] => (cs, none)
  | _ :: value => (cs.takeWhile (· != '='), some (String.ofList value))

/-- Digits of any script, at least one. -/
def areDigits (cs : List Char) : Bool := !cs.isEmpty && cs.all fun c => (Text.scriptDigit? c).isSome

/-- A negative number in plain notation, perhaps with the end of the line. -/
def isNegativeNumber : List Char → Bool
  | '-' :: cs =>
    let cs := if cs.getLast? == some '\n' then cs.dropLast else cs
    areDigits cs ||
      match cs.dropWhile (· != '.') with
      | '.' :: fraction =>
        let whole := cs.takeWhile (· != '.')
        (whole.isEmpty || areDigits whole) && areDigits fraction
      | _ => false
  | _ => false

/-- What a shortened option may stand for. -/
def abbreviated (cs : List Char) : List (Name × Option String) :=
  match cs with
  | '-' :: '-' :: _ =>
    let (name, attached) := splitEquals cs
    (Name.startingWith name).map fun n => (n, attached)
  | _ => []

/-- The letters behind the single letter that asks for help, with an equals sign in between or
without. They must ask for help as well; all others are attached to the option. -/
def furtherHelp (cs : List Char) : Option String :=
  let letters := if cs.head? = some '=' then cs.drop 1 else cs
  if !letters.isEmpty && letters.all (· == 'h') then none else some (String.ofList letters)

/-- What an argument in front of any separator is; nothing if it is ambiguous. -/
def classify (s : String) : Option Argument :=
  match s.toList with
  | ['-', '-'] => some .separator
  | ['-', 'h'] => some (.option .help none)
  | '-' :: 'h' :: letters => some (.option .help (furtherHelp letters))
  | '-' :: c :: rest =>
    let cs := '-' :: c :: rest
    let (name, attached) := splitEquals cs
    match Name.exactly? cs, Name.exactly? name, abbreviated cs with
    | some n, _, _ => some (.option n none)
    | none, some n, _ => some (.option n attached)
    | none, none, [(n, attached)] => some (.option n attached)
    | none, none, _ :: _ :: _ => none
    | none, none, [] =>
      some (if isNegativeNumber cs || cs.contains ' ' then .value s else .unknown)
  | _ => some (.value s)

/-- What all arguments are; nothing if one is ambiguous. -/
def classifyAll : List String → Option (List Argument)
  | [] => some []
  | s :: rest => do
    match ← classify s with
    | .separator => return .separator :: rest.map .value
    | a => return a :: (← classifyAll rest)

/-! ## Values -/

/-- How reading the arguments ends. -/
inductive Reading
  | options (options : Options)
  /-- Help was asked for. -/
  | help
  | misuse

/-- Sets an option that has a value. -/
def set (o : Options) (name : Name) (value : String) : Option Options :=
  match name with
  | .baseUrl => some { o with baseUrl := value }
  | .positions => (Text.argumentInt? value).map fun n => { o with positions := n }
  | .radius => (Text.argumentFloat? value).map fun x => { o with radius := x }
  | .interval => (Text.argumentInt? value).map fun n => { o with interval := n }
  | .help | .loop => none

/-- Reads arguments from left to right. The flag tells whether one of them was left over. -/
def readFrom (leftOver : Bool) (o : Options) : List Argument → Reading
  | [] => if leftOver then .misuse else .options o
  | .option .help none :: _ => .help
  | .option .loop none :: rest => readFrom leftOver { o with loop := true } rest
  | .option name (some value) :: rest =>
    match o.set name value with
    | some o => readFrom leftOver o rest
    | none => .misuse
  | .option name none :: .value value :: rest =>
    match o.set name value with
    | some o => readFrom leftOver o rest
    | none => .misuse
  | .option _ none :: _ => .misuse
  | _ :: rest => readFrom true o rest

/-- Reads the arguments of a command line. -/
def read (o : Options) (arguments : List String) : Reading :=
  match classifyAll arguments with
  | some arguments => o.readFrom false arguments
  | none => .misuse

end Options

end FleetTracking.Feed
