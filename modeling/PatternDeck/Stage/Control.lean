import PatternDeck.Stage.Playback

/-!
Parameters, the selection, and the buttons and knobs of a control surface.
-/
namespace PatternDeck.Stage

open Act

variable {Handle Listener World : Type} (around : Surroundings Handle Listener World)

/-- Chooses the slot that takes the knobs, or none. -/
def select (id : Option Int) : Act Handle Listener World Unit := do
  if let some chosen := id then
    let _ ← slot around chosen
  changeDeck fun deck => { deck with selected := id }

/-- The parameters of a slot, in order, refreshed. -/
def parameters (id : Int) : Act Handle Listener World (List Parameter) := do
  let _ ← slot around id
  return (← edit (Binding.refresh id)).toList

/-- Tells of a changed parameter, saves its slot, and rebuilds if the slot plays and its program
may have changed. -/
def parameterChanged (id : Int) (p : Parameter) (rebuilds : Bool) :
    Act Handle Listener World Unit := do
  announce around (.parameterChange id p)
  announceState around id
  persist around id
  if rebuilds ∧ id ∈ (← getDeck).active then
    orElseOwn (rebuild around) fun failure => report around (some id) failure

/-- Changes a parameter of a slot whose parameters are refreshed first. -/
def changeParameter (id : Int) (rebuilds : Bool) (change : Float → Edit Parameter) :
    Act Handle Listener World Parameter := do
  let _ ← slot around id
  let _ ← edit (Binding.refresh id)
  let now := around.clock (← get).world
  let p ← orElseOwn (edit (change now)) fun failure => report around (some id) failure
  parameterChanged around id p rebuilds
  return p

/-- Binds a parameter to a knob, or unbinds it. -/
def assignParameter (id : Int) (name : String) (knob : Option Int) :
    Act Handle Listener World Parameter :=
  changeParameter around id false fun now => Binding.assign now id name knob

def setParameterRange (id : Int) (name : String) (lo hi : Float) :
    Act Handle Listener World Parameter :=
  changeParameter around id true fun now => Binding.setRange now id name lo hi

def setParameterValue (id : Int) (name : String) (value : Float) :
    Act Handle Listener World Parameter :=
  changeParameter around id true fun now => Binding.setValue now id name value

def addCatalogParameter (id : Int) (name : String) (knob : Option Int) :
    Act Handle Listener World Parameter := do
  let catalog := (← getDeck).catalog
  changeParameter around id true fun now => Binding.addFromCatalog catalog now id name knob

/-- A press of a grid button selects its slot and toggles it; a release does nothing. -/
def pressButton (id : Int) (pressed : Bool) : Act Handle Listener World Unit := do
  if pressed then
    select around (some id)
    toggle around id

/-- A turn of a knob moves the parameter that it drives in the selected slot. -/
def turnKnob (knob : Int) (ticks : Int) : Act Handle Listener World Unit := do
  let stage ← get
  let turn := Selection.turn (around.clock stage.world) stage.deck.selected knob (.whole ticks)
  match ← edit turn with
  | none => return
  | some turned =>
    parameterChanged around turned.slot turned.parameter true

end PatternDeck.Stage
