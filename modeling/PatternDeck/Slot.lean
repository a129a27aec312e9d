import PatternDeck.Failure
import PatternDeck.Parameter.Parameters
import PatternDeck.Program.Placeholder

/-!
Slots: one grid position each, with the program that it plays.
-/
namespace PatternDeck

/-! ### Colors

A light of the grid takes its color from the velocity of the note sent to it. -/

namespace Led

def off : Int := 0

def dimWhite : Int := 1

def red : Int := 5

def green : Int := 13

def brightPurple : Int := 48

def yellow : Int := 96

def brightYellow : Int := 96

end Led

/-- When a slot was last changed. -/
inductive Moment where
  | never
  /-- In seconds. -/
  | at (seconds : Float)
  /-- A value of a library file that is no double, kept as it is. -/
  | other (value : Json)
  deriving Inhabited

namespace Moment

def ofJson : Json → Moment
  | .null => never
  | .float seconds => .at seconds
  | value => other value

def toJson : Moment → Json
  | never => .null
  | .at seconds => .float seconds
  | other value => value

def isSet : Moment → Bool
  | never => false
  | _ => true

end Moment

/-- A slot. One whose code and names are texts can be played. -/
structure Slot (Text : Type := String) [Naming Text] where
  id : Int
  /-- The program's text, with its placeholders. -/
  code : Text
  name : Label := ""
  category : Label := ""
  /-- The color of the slot's light while it plays. -/
  color : Int := 0
  playing : Bool := false
  /-- The parameters of the placeholders seen so far. One whose placeholder is gone stays. -/
  parameters : Parameters Text := .empty
  modified : Moment := .never
  deriving Inhabited

namespace Slot

/-- The slot with a parameter for every placeholder of its code. -/
def refreshed (slot : Slot) : Slot :=
  { slot with parameters := slot.parameters.merge (Program.detect slot.code) }

/-- The code with every parameter's value in the place of its placeholder. -/
def resolved (slot : Slot) : String :=
  Program.inject slot.parameters.values slot.code

def parameter (slot : Slot) (name : String) : Except Failure Parameter :=
  match slot.parameters.get? name with
  | some p => .ok p
  | none => .error (.parameterMissing slot.id name slot.parameters.names)

end Slot

end PatternDeck
