import PatternDeck.Controller.Gesture
import PatternDeck.Failure
import PatternDeck.Text.Basic

/-!
The controller as a device: how its ports are found and which of them are open, and the messages that
light its grid. Systems decorate the names of ports, so a port counts as the one wanted when its name
holds the wanted name, or is held by it.
-/
namespace PatternDeck.Controller

/-- The port that is wanted: the one of that name, else the first that holds the name, else the
first that the name holds. -/
def matchPort (wanted : String) (available : List String) : Option String :=
  available.find? (· == wanted)
    <|> available.find? (fun name => Text.occursIn wanted.toList name.toList)
    <|> available.find? (fun name => Text.occursIn name.toList wanted.toList)

/-- What the system makes of its ports of one direction. -/
structure Ports where
  names : List String
  listing : Bool := true
  opening : Bool := true

/-- The port that can be opened for a wanted name. -/
def Ports.open? (ports : Ports) (wanted : Option String) : Option String := do
  let wanted ← wanted
  guard ports.listing
  let name ← matchPort wanted ports.names
  guard ports.opening
  return name

structure Device where
  /-- The names of the ports: those wanted, or those found for them. -/
  input : Option String := some inputPort
  output : Option String := some outputPort
  /-- The channel of the lights. -/
  channel : Int := 0
  inputOpen : Bool := false
  outputOpen : Bool := false
  shiftHeld : Bool := false
  /-- Whether messages come in, which they do once an input port has been opened for it. -/
  connected : Bool := false
  /-- Whether messages wait for their turn instead of being handled as they come. -/
  queues : Bool := false
  deriving Inhabited

/-- Lights the button of a note in a color. -/
structure Light where
  channel : Int
  note : Int
  color : Int
  deriving DecidableEq, Repr

namespace Device

/-- The message that gives a slot's button a color. Without an open port, and for a slot that has
no button, there is none. -/
def light (device : Device) (slot color : Int) : Except Failure (Option Light) :=
  if !device.outputOpen || slot ∉ gridNotes then .ok none
  else if device.channel < 0 ∨ 15 < device.channel then .error .channelOutOfRange
  else if !isData color then .error .dataOutOfRange
  else .ok (some ⟨device.channel, slot, color⟩)

/-- The device with what a gesture does to the device itself. -/
def after (device : Device) (message : Message) : Device :=
  match Gesture.ofMessage? message with
  | some (.holdShift held) => { device with shiftHeld := held }
  | _ => device

end Device

end PatternDeck.Controller
