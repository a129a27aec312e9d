import PatternDeck.Catalog.Builtin
import PatternDeck.Library.Builtin
import PatternDeck.Rig.Operations
import PatternDeck.Startup.Settings

/-!
A session from start to stop: the rig that a configuration describes is built, then its controller
and its message surface are opened; at the end everything is silenced and closed.
-/
namespace PatternDeck.Startup

open Rig

/-- A rig, and whether its slots are saved. -/
structure Built where
  state : Rig.State
  saves : Bool

/-- What the system offers. -/
structure Site where
  folder : Folder := {}
  inputs : Controller.Ports
  outputs : Controller.Ports
  /-- The signals to stop that can be waited for. -/
  signals : List String

/-- The library that a path names, if there is a file, else the built-in one. All its texts have to be
texts. -/
def libraryAt (store : Option Library.Store) (folder : Folder) : Except Fault Library := do
  if let some store := store then
    if folder.contains store.path then
      match store.load folder with
      | .ok library =>
        match Library.ofStored? library with
        | some library => return library
        | none => throw (.library .wrongKind)
      | .error fault => throw (.library fault)
  return { name := Library.Builtin.name, version := Library.Builtin.version,
           slots := Library.Builtin.slots }

/-- The place where slots are saved, if the configuration names one. A number names none. -/
def storeAt (path : Json) : Except Fault (Option Library.Store) :=
  if path.isVoid then .ok none
  else
    match path with
    | .str path => .ok (some { path })
    | .int _ => .ok none
    | _ => .error .pathUnusable

/-- The rig that a configuration describes. Programs are rendered by another process; slots are
saved to the library's file if a path is given, which need not exist yet. -/
def build (configuration : Json) (folder : Folder) : Except Fault Built := do
  let renderer ← Settings.ofPart configuration "renderer"
  let store ← storeAt ((← Settings.ofPart configuration "library").get "path" .null)
  let library ← libraryAt store folder
  match Bank.ofSlots library.slots library.name library.version with
  | .error failure => throw (.refused failure)
  | .ok bank =>
    let saving : Saving :=
      match store with
      | some store => .library { store with name := library.name, version := library.version }
      | none => .nowhere
    let sender : Output :=
      .sender (renderer.get "host" (.str "127.0.0.1")) (renderer.get "port" (.int 57130))
    let world : World := { player := .remote {} false, saving, folder, output := [sender] }
    return { state := { deck := { bank, catalog := .builtin }, world }, saves := store.isSome }

/-- The name of a port. A setting that is no text names none. -/
def portName : Json → Option String
  | .str name => some name
  | _ => none

def deviceOf (midi : Settings) : Controller.Device :=
  { input := portName (midi.get "input" (.str Controller.inputPort))
    output := portName (midi.get "output" (.str Controller.outputPort)) }

def serverOf (osc : Settings) : Server :=
  { receivePort := osc.get "receive_port" (.int 9100)
    sendPort := osc.get "send_port" (.int 9101)
    sendHost := osc.get "send_host" (.str "127.0.0.1") }

/-- A rig's controller and message surface. -/
structure Surfaces where
  device : Nat
  server : Nat

/-- Waits for the signals, and opens the surfaces. -/
def openSurfaces (site : Site) (midi osc : Settings) : Work Surfaces := do
  for signal in site.signals do
    Work.put (.awaitSignal signal)
  let device ← openDevice (deviceOf midi) site.inputs site.outputs
  let server ← addServer (serverOf osc)
  startServer server
  return { device, server }

def closeSurfaces (saves : Bool) (surfaces : Surfaces) : Work Unit := do
  Stage.stopAll (around saves)
  stopServer surfaces.server
  closeDevice surfaces.device

/-- Does something with a rig that is built. -/
def Built.run {α : Type} (built : Built) (work : Work α) : Except Fault (α × Built) :=
  match work.run built.state with
  | (.ok a, state) => .ok (a, { built with state })
  | (.error failure, _) => .error (.refused failure)

/-- Builds a rig and opens its surfaces. -/
def begin (configuration : Json) (site : Site) : Except Fault (Surfaces × Built) := do
  let built ← build configuration site.folder
  let midi ← Settings.ofPart configuration "midi"
  let osc ← Settings.ofPart configuration "osc"
  built.run (openSurfaces site midi osc)

/-- Silences and closes everything. -/
def finish (surfaces : Surfaces) (built : Built) : Except Fault Built := do
  return (← built.run (closeSurfaces built.saves surfaces)).2

/-- A session that is stopped as soon as it has begun. -/
def runThrough (configuration : Json) (site : Site) : Except Fault (List Output) := do
  let (surfaces, built) ← begin configuration site
  return (← finish surfaces built).state.world.output

end PatternDeck.Startup
