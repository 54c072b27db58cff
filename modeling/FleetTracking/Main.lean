import FleetTracking.Feed.CommandLine
import Std.Time.DateTime.Timestamp

/-!
# The feed program

Runs `FleetTracking.Feed.CommandLine` with the arguments of the command line and the settings of
the environment. The exchange with the service goes through the standard streams: every request is
a line of output, and every line of input is a reply, an object with `status` and `body`. A loop is
interrupted when the replies are used up.
-/

namespace FleetTracking.Feed.Program

/-- The reply of a line of input. -/
def replyOf (line : String) : Reply :=
  match Json.parse? line with
  | none => .broken
  | some v =>
    match v.field? "status", v.field? "body" with
    | some (.int status), some (.string body) => .response status body
    | some (.int status), _ => .response status ""
    | _, _ => .unanswered

/-- The line of a request. -/
def lineOf (r : Request) : String :=
  r.method.name ++ " " ++ r.url ++ ((r.body.map fun body => " " ++ body.render).getD "")

/-- The lines of a stream up to its end. -/
partial def lines (input : IO.FS.Stream) : IO (List String) := do
  let line ← input.getLine
  if line.isEmpty then return []
  else return line :: (← lines input)

/-- The settings that the environment sets. -/
def environment : IO (List (String × String)) :=
  Settings.entries.filterMapM fun e => do
    return (← IO.getEnv e.name).map fun text => (e.name, text)

/-- The present. -/
def now : IO Instant := do
  let t ← Std.Time.Timestamp.now
  return (Instant.sinceEpoch? (t.toNanosecondsSinceUnixEpoch.val / 1000)).getD default

/-- Shows an event. -/
def perform : Event → IO Unit
  | .sent r => IO.println (lineOf r)
  | .printed line => IO.println line
  | .slept seconds => IO.sleep (seconds.toNat * 1000).toUInt32
  | .opened _ | .closed => pure ()

/-- Shows how the program ended. -/
def finish (ending : Ending) : IO UInt32 := do
  match ending with
  | .failed f => IO.eprintln ("The generator failed: " ++ f.message)
  | .misused => IO.eprintln "The arguments are not understood."
  | _ => pure ()
  return ending.processStatus.toUInt32

end FleetTracking.Feed.Program

open FleetTracking FleetTracking.Feed FleetTracking.Feed.Program in
/-- The program. -/
def main (arguments : List String) : IO UInt32 := do
  match Settings.ofEnvironment (← environment) with
  | .error unreadable =>
    for u in unreadable do
      IO.eprintln (u.name ++ ": " ++ u.problem.name)
    return 1
  | .ok settings =>
    let replies := (← lines (← IO.getStdin)).map replyOf
    let (ending, _, pool) := CommandLine.run settings arguments
      (mkStdGen (← IO.monoNanosNow)) (Script.ofReplies replies) (← now) replies.length
    pool.events.forM perform
    finish ending
