import PatternDeck.Rig.World

/-!
Opening and closing what is attached to the rig, and passing on what comes in from it.
-/
namespace PatternDeck.Rig

open Renderer

abbrev Work := Act Handle Ear World

/-- The deck's part of a world. -/
abbrev State := Stage Handle Ear World

namespace Work

def world : Work World := return (← get).world

def changeWorld (f : World → World) : Work Unit :=
  modify fun stage => { stage with world := f stage.world }

def put (output : Output) : Work Unit := changeWorld (·.put output)

def listen (topic : Topic) (ear : Ear) : Work Unit :=
  Act.changeDeck fun deck => { deck with listeners := deck.listeners.on topic ear }

def unlisten (topic : Topic) (ear : Ear) : Work Unit :=
  Act.changeDeck fun deck => { deck with listeners := deck.listeners.unsubscribe topic ear }

end Work

open Work

/-- Gives a button of a controller a color. -/
def light (n : Nat) (slot color : Int) : Work Unit := do
  match ((← world).device n).light slot color with
  | .ok (some light) => put (.light light)
  | .ok none => return
  | .error failure => throw failure

/-- Gives buttons of a controller the colors that they have by a function of the deck. -/
def lightAll (n : Nat) (color : Deck Handle Ear → Int → Int) : List Int → Work Unit
  | [] => return
  | note :: rest => do
    light n note (color (← Act.getDeck) note)
    lightAll n color rest

/-- Gives every button of a controller the color of its slot. -/
def syncLights (n : Nat) : Work Unit := lightAll n Deck.color Controller.gridNotes

def clearLights (n : Nat) : Work Unit := lightAll n (fun _ _ => Led.off) Controller.gridNotes

/-- Opens the ports of a new controller, listens for it, and sets its lights. A port that is not
found stays closed. A port without a name is not kept, though messages come in by it. -/
def openDevice (device : Controller.Device) (inputs outputs : Controller.Ports) : Work Nat := do
  let n := (← world).devices.length
  changeWorld fun world => { world with devices := world.devices ++ [device] }
  if let some name := outputs.open? device.output then
    put (.openOutput name)
    if name ≠ "" then
      changeWorld (·.changeDevice n fun device =>
        { device with output := some name, outputOpen := true })
  if let some name := inputs.open? device.input then
    put (.openInput name)
    changeWorld (·.changeDevice n fun device => { device with connected := true })
    if name ≠ "" then
      changeWorld (·.changeDevice n fun device =>
        { device with input := some name, inputOpen := true })
  listen .indicator (.device n)
  syncLights n
  return n

/-- Puts the lights of a controller out and closes its ports. -/
def closeDevice (n : Nat) : Work Unit := do
  unlisten .indicator (.device n)
  if ((← world).device n).outputOpen then
    clearLights n
    put .closeOutput
    changeWorld (·.changeDevice n fun device => { device with outputOpen := false })
  if ((← world).device n).inputOpen then
    put .closeInput
    changeWorld (·.changeDevice n fun device => { device with inputOpen := false })

section Messages

variable (around : Surroundings Handle Ear World)

/-- Handles a message of a controller. -/
def handleMessage (n : Nat) (message : Controller.Message) : Work Unit := do
  changeWorld (·.changeDevice n (·.after message))
  Controller.handle around message

/-- Takes a message from the port of a controller: to handle it, or to let it wait. -/
def receiveMessage (n : Nat) (message : Controller.Message) : Work Unit := do
  if ((← world).device n).queues then
    changeWorld fun world => { world with waiting := world.waiting ++ [(n, message)] }
  else handleMessage around n message

/-- Handles messages in order, up to the first that fails. -/
def handleAll : List (Nat × Controller.Message) → Work Unit
  | [] => return
  | (n, message) :: rest => do
    handleMessage around n message
    handleAll rest

/-- Handles all messages that wait, and tells how many there were. Those after one that fails are
lost. -/
def runQueue : Work Nat := do
  let waiting := (← world).waiting
  changeWorld fun world => { world with waiting := [] }
  handleAll around waiting
  return waiting.length

end Messages

def addServer (server : Server) : Work Nat := do
  let n := (← world).servers.length
  changeWorld fun world => { world with servers := world.servers ++ [server] }
  return n

/-- Starts a surface: it can send, it listens, and it hears of what it tells. -/
def startServer (n : Nat) : Work Unit := do
  let server := (← world).server n
  put (.sender server.sendHost server.sendPort)
  put (.listen server.receivePort)
  changeWorld (·.changeServer n fun server =>
    { server with connected := true, listening := true })
  listen .indicator (.playing n)
  listen .error (.errors n)

def stopServer (n : Nat) : Work Unit := do
  unlisten .indicator (.playing n)
  unlisten .error (.errors n)
  if ((← world).server n).listening then
    put .stopListening
    changeWorld (·.changeServer n fun server => { server with listening := false })

end PatternDeck.Rig
