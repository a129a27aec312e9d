import PatternDeck.Controller.Device
import PatternDeck.Library.Store
import PatternDeck.Osc.Surface
import PatternDeck.Renderer.Rehearsal
import PatternDeck.Renderer.Remote

/-!
The rig: a deck with a renderer, a place for its slots, controllers and message surfaces. What the
rig does to the outside is written down as its output.
-/
namespace PatternDeck.Rig

open Renderer

/-- What is done to the outside. -/
inductive Output where
  | compile (program : String)
  | refuse (program : String)
  | start (program : String) (failed : Bool)
  | stop (program : String) (failed : Bool)
  | hush (failed : Bool)
  | save (slot : Slot) (failed : Bool)
  /-- A sender of messages to a host and port is made. -/
  | sender (host port : Json)
  | send (message : Osc.Message)
  | sendFailed (address : String)
  | openOutput (port : String)
  | openInput (port : String)
  | light (light : Controller.Light)
  | closeOutput
  | closeInput
  | listen (port : Json)
  | stopListening
  | awaitSignal (name : String)

/-- What plays the programs. -/
inductive Player where
  | rehearsal (rehearsal : Rehearsal)
  /-- The renderer of another process, and whether messages to it fail. -/
  | remote (remote : Remote) (down : Bool)

/-- Where slots are saved. -/
inductive Saving where
  | nowhere
  /-- Saves are written down, and fail or not. -/
  | notebook (fails : Bool)
  | library (store : Library.Store)

/-- A message surface: where it listens, and where it tells of changes. -/
structure Server where
  receivePort : Json := .int 9100
  sendPort : Json := .int 9101
  sendHost : Json := .str "127.0.0.1"
  connected : Bool := false
  listening : Bool := false
  /-- Whether messages from it fail. -/
  down : Bool := false
  deriving Inhabited

structure World where
  player : Player
  saving : Saving := .nowhere
  folder : Folder := {}
  /-- The time, in seconds and as library files write it. -/
  seconds : Float := 0
  timestamp : String := ""
  devices : List Controller.Device := []
  /-- Messages of controllers that wait for their turn, the earliest first. -/
  waiting : List (Nat × Controller.Message) := []
  servers : List Server := []
  /-- The latest output last. -/
  output : List Output := []

/-- The rig's listeners. -/
inductive Ear where
  /-- Hears and does nothing. -/
  | observer
  /-- Fails at every event. -/
  | broken
  /-- Lights the grid of a controller. -/
  | device (n : Nat)
  /-- Tells by messages which slots play. -/
  | playing (server : Nat)
  /-- Tells of failures by messages. -/
  | errors (server : Nat)
  deriving DecidableEq, Repr

namespace World

def put (world : World) (output : Output) : World :=
  { world with output := world.output ++ [output] }

def device (world : World) (n : Nat) : Controller.Device := world.devices[n]?.getD default

def changeDevice (world : World) (n : Nat) (f : Controller.Device → Controller.Device) : World :=
  { world with devices := world.devices.modify n f }

def server (world : World) (n : Nat) : Server := world.servers[n]?.getD default

def changeServer (world : World) (n : Nat) (f : Server → Server) : World :=
  { world with servers := world.servers.modify n f }

/-- Sends a message, which fails when the way is down. -/
def send (down : Bool) (message : Osc.Message) (world : World) : Except Fault Unit × World :=
  if down then (.error unreachable, world.put (.sendFailed message.address))
  else (.ok (), world.put (.send message))

def failed (outcome : Except Fault Unit) : Bool :=
  match outcome with
  | .ok _ => false
  | .error _ => true

def compile (program : String) (world : World) : Except Fault Handle × World :=
  match world.player with
  | .rehearsal rehearsal =>
    match rehearsal.compile program with
    | .ok _ => (.ok ⟨0, program⟩, world.put (.compile program))
    | .error fault => (.error fault, world.put (.refuse program))
  | .remote remote down =>
    match remote.compile program with
    | (.ok handle, remote) => (.ok handle, { world with player := .remote remote down })
    | (.error flaw, _) => (.error (flawFault flaw), world)

def start (handle : Handle) (world : World) : Except Fault Unit × World :=
  match world.player with
  | .rehearsal rehearsal =>
    let outcome := rehearsal.outcome rehearsal.startFails
    (outcome, world.put (.start handle.program (failed outcome)))
  | .remote _ down => world.send down (Remote.evalMessage handle)

/-- Stops a program. The remote renderer is told so without asking whether it heard. -/
def stop (handle : Handle) (world : World) : Except Fault Unit × World :=
  match world.player with
  | .rehearsal rehearsal =>
    let outcome := rehearsal.outcome rehearsal.stopFails
    (outcome, world.put (.stop handle.program (failed outcome)))
  | .remote _ down => (.ok (), (world.send down (Remote.stopMessage handle)).2)

def hush (world : World) : Except Fault Unit × World :=
  match world.player with
  | .rehearsal rehearsal =>
    let outcome := rehearsal.outcome rehearsal.hushFails
    (outcome, world.put (.hush (failed outcome)))
  | .remote _ down => (.ok (), (world.send down Remote.hushMessage).2)

def notSaved : Fault := ⟨"file", "not saved"⟩

def save (slot : Slot) (world : World) : Except Fault Unit × World :=
  match world.saving with
  | .nowhere => (.ok (), world)
  | .notebook fails =>
    (if fails then .error notSaved else .ok (), world.put (.save slot fails))
  | .library store =>
    match store.saveSlot slot.stored world.timestamp world.folder with
    | (.ok _, folder) => (.ok (), { world with folder })
    | (.error _, folder) => (.error notSaved, { world with folder })

def lightFault (failure : Failure) : Fault := ⟨"light", failure.message⟩

/-- Sends a message from a surface, if it is connected. A message that fails is lost. -/
def sendFrom (n : Nat) (message : Osc.Message) (world : World) : World :=
  let server := world.server n
  if server.connected then (world.send server.down message).2 else world

def hear (ear : Ear) (event : Event) (deck : Deck Handle Ear) (world : World) :
    Except Fault Unit × World :=
  match ear, event with
  | .broken, _ => (.error ⟨"listener", "broken"⟩, world)
  | .device n, .indicator slot color =>
    match (world.device n).light slot color with
    | .ok (some light) => (.ok (), world.put (.light light))
    | .ok none => (.ok (), world)
    | .error failure => (.error (lightFault failure), world)
  | .playing n, .indicator slot _ =>
    (.ok (), world.sendFrom n (Osc.playingMessage slot (deck.isPlaying slot)))
  | .errors n, .error _ failure => (.ok (), world.sendFrom n (Osc.errorMessage failure))
  | _, _ => (.ok (), world)

end World

/-- The surroundings of the rig's deck, with a place for its slots or without. -/
def around (saves : Bool) : Surroundings Handle Ear World where
  compile := World.compile
  start := World.start
  stop := World.stop
  hush := World.hush
  stack := Program.stackText
  save := if saves then some World.save else none
  hear := World.hear
  clock := World.seconds

end PatternDeck.Rig
