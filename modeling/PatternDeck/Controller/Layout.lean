/-!
The layout of the controller: its ports, and the numbers of its buttons and knobs. Buttons, knobs
and lights are on its second port; the first carries the keys alone.
-/
namespace PatternDeck.Controller

def keyboardPort : String := "APC Key 25 mk2"

def inputPort : String := "MIDIIN2 (APC Key 25 mk2)"

def outputPort : String := "MIDIOUT2 (APC Key 25 mk2)"

/-- The notes of the grid's buttons, the top row first. A button's note is its slot's id. -/
def gridRows : List (List Int) :=
  [32, 24, 16, 8, 0].map fun first => (List.range 8).map fun column => first + (column : Nat)

/-- The notes of the grid's buttons in order. -/
def gridNotes : List Int := gridRows.reverse.flatten

def firstKnob : Int := 48

/-- The controls of the knobs. -/
def knobControls : List Int := (List.range 8).map fun knob => firstKnob + (knob : Nat)

def shift : Int := 98

def stopAllClips : Int := 81

def play : Int := 91

def record : Int := 93

end PatternDeck.Controller
