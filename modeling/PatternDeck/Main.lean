import PatternDeck.Rig.Console
import PatternDeck.Startup.LogLevel
import PatternDeck.Startup.Session
import Std.Time.Format

/-!
The program. It starts up by its configuration, follows the messages that come in on standard input,
one a line, and shows what goes out. The library file lies in the working folder.
-/
namespace PatternDeck.Main

open Startup

/-- The text of a file, if it can be read. -/
def readText? (path : String) : IO (Option String) := do
  try
    return some (← IO.FS.readFile path)
  catch _ =>
    return none

/-- The folder with the library's file in it, if there is one. -/
def folderOf (configuration : Json) : IO Folder := do
  match Settings.ofPart configuration "library" with
  | .error _ => return {}
  | .ok library =>
    match library.get "path" Json.null with
    | .str path =>
      match ← readText? path with
      | some text => return (Folder.write {} path text).toOption.getD {}
      | none => return {}
    | _ => return {}

/-- The session with the time of the clock. -/
def timed (built : Built) : IO Built := do
  let now ← Std.Time.Timestamp.now
  let seconds := Float.ofInt now.toNanosecondsSinceUnixEpoch.val / 1e9
  let timestamp := (Std.Time.DateTime.ofTimestampWithZone now .UTC).toISO8601String
  return { built with
    state := { built.state with world := { built.state.world with seconds, timestamp } } }

/-- Shows what went out, writes the files that changed, and clears the journal. -/
def flush (before : Folder) (built : Built) : IO Built := do
  for output in built.state.world.output do
    IO.println (Rig.Console.line output)
  for (name, text) in built.state.world.folder.files do
    if before.files.lookup name ≠ some text then IO.FS.writeFile name text
  (← IO.getStdout).flush
  return { built with
    state := { built.state with
      journal := []
      world := { built.state.world with output := [] } } }

/-- Follows the messages of the lines that are left. -/
partial def follow (built : Built) : IO Built := do
  let line ← (← IO.getStdin).getLine
  if line.isEmpty then return built
  let (address, arguments) := Rig.Console.message line.trimAsciiEnd.toString
  let before ← timed built
  let work := Osc.dispatch (Rig.around built.saves) address arguments
  match work.run before.state with
  | (.ok _, state) =>
    follow (← flush before.state.world.folder { built with state })
  | (.error failure, state) =>
    IO.eprintln failure.message
    follow (← flush before.state.world.folder { built with state })

/-- Runs a session from start to stop. -/
def run (configuration : Json) (level : LogLevel) : IO (Except Startup.Fault Unit) := do
  let folder ← folderOf configuration
  let noPorts : Controller.Ports := { names := [] }
  let site : Site := { folder, inputs := noPorts, outputs := noPorts, signals := [] }
  if level.number ≤ LogLevel.info.number then IO.eprintln "starting"
  match begin configuration site with
  | .error fault => return .error fault
  | .ok (surfaces, built) =>
    let built ← follow (← flush folder built)
    if level.number ≤ LogLevel.info.number then IO.eprintln "stopping"
    match finish surfaces built with
    | .error fault => return .error fault
    | .ok stopped =>
      let _ ← flush built.state.world.folder stopped
      return .ok ()

/-- The configuration of a file, and the log level that it asks for. -/
def configured (path : String) : IO (Except String (Json × LogLevel)) := do
  let text ← readText? path
  let read := do
    let configuration ← configurationOf (text.getD "")
    return (configuration, ← Settings.ofDocument configuration)
  match read with
  | .error fault => return .error fault.message
  | .ok (configuration, settings) =>
    match LogLevel.ofSetting (settings.get "log_level" (.str "INFO")) with
    | .error refusal => return .error refusal.message
    | .ok level => return .ok (configuration, level)

end PatternDeck.Main

open PatternDeck in
def main (arguments : List String) : IO UInt32 := do
  let path := arguments.head?.getD Startup.configurationPath
  match ← Main.configured path with
  | .error message =>
    IO.eprintln message
    return 1
  | .ok (configuration, level) =>
    match ← Main.run configuration level with
    | .ok () => return 0
    | .error fault =>
      IO.eprintln fault.message
      return 1
