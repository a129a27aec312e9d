import PatternDeck.Controller.Layout
import PatternDeck.Stage.Control

/-!
Gestures: what a hand does at the controller, read from the messages that the controller sends.
-/
namespace PatternDeck.Controller

/-- A message from the controller. -/
inductive Message where
  | noteOn (note velocity : Int)
  | noteOff (note velocity : Int)
  | controlChange (control value : Int)
  /-- A message of another kind, which means nothing here. -/
  | other

/-- Numbers in messages have seven bits. -/
def isData (n : Int) : Bool := 0 ≤ n ∧ n ≤ 127

/-- A message as it travels, if its numbers fit into one. -/
def Message.checked : Message → Except Failure Message
  | .noteOn note velocity =>
    if isData note && isData velocity then .ok (.noteOn note velocity) else .error .dataOutOfRange
  | .noteOff note velocity =>
    if isData note && isData velocity then .ok (.noteOff note velocity) else .error .dataOutOfRange
  | .controlChange control value =>
    if isData control && isData value then .ok (.controlChange control value)
    else .error .dataOutOfRange
  | .other => .ok .other

inductive Gesture where
  | holdShift (held : Bool)
  | stopAll
  | button (slot : Int) (pressed : Bool)
  | knob (knob : Int) (ticks : Int)
  deriving DecidableEq, Repr

/-- The ticks of a relative knob: up to 63 clockwise, and from 65 counterclockwise as a complement
of 128. -/
def ticksOf (value : Int) : Int :=
  if 1 ≤ value ∧ value ≤ 63 then value
  else if 65 ≤ value ∧ value ≤ 127 then -(128 - value)
  else 0

namespace Gesture

def ofNote? (note : Int) (pressed : Bool) : Option Gesture :=
  if note = shift then some (holdShift pressed)
  else if note = stopAllClips then if pressed then some stopAll else none
  else if note ∈ gridNotes then some (button note pressed)
  else none

/-- A note on without velocity is a release. -/
def ofMessage? : Message → Option Gesture
  | .noteOn note velocity => ofNote? note (0 < velocity)
  | .noteOff note _ => ofNote? note false
  | .controlChange control value =>
    if control ∈ knobControls ∧ ticksOf value ≠ 0 then
      some (knob (control - firstKnob) (ticksOf value))
    else none
  | .other => none

end Gesture

variable {Handle Listener World : Type} (around : Surroundings Handle Listener World)

/-- Does what a message asks for. Failures of the deck's own have been told by then. -/
def handle (message : Message) : Act Handle Listener World Unit :=
  Act.dropOwn <|
    match Gesture.ofMessage? message with
    | some .stopAll => Stage.stopAll around
    | some (.button slot pressed) => Stage.pressButton around slot pressed
    | some (.knob knob ticks) => Stage.turnKnob around knob ticks
    | some (.holdShift _) | none => return

end PatternDeck.Controller
