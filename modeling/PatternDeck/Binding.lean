import PatternDeck.Bank
import PatternDeck.Catalog.Basic
import PatternDeck.Parameter.Motion

/-!
Binding: keeping a slot's parameters in step with its code, and changing them. Nothing here plays.
-/
namespace PatternDeck

/-- A bank under change. -/
structure Draft where
  bank : Bank
  /-- The slots whose time of change was noted, in order. -/
  touched : List Int := []

/-- A change of the bank that may fail. What was changed before a failure stays changed. -/
abbrev Edit := ExceptT Failure (StateM Draft)

namespace Edit

def slot (id : Int) : Edit Slot := do
  match (← get).bank.get id with
  | .ok slot => return slot
  | .error failure => throw failure

def parameter (id : Int) (name : String) : Edit Parameter := do
  match (← slot id).parameter name with
  | .ok p => return p
  | .error failure => throw failure

def change (id : Int) (f : Slot → Slot) : Edit Unit :=
  modify fun draft => { draft with bank := draft.bank.modify id f }

/-- Notes when a slot was changed. -/
def touch (now : Float) (id : Int) : Edit Unit := do
  change id fun slot => { slot with modified := .at now }
  modify fun draft => { draft with touched := draft.touched ++ [id] }

/-- Changes one parameter of a slot and notes the time. -/
def changeParameter (now : Float) (id : Int) (name : String) (f : Parameter → Parameter) :
    Edit Parameter := do
  let _ ← parameter id name
  change id fun slot => { slot with parameters := slot.parameters.modify name f }
  touch now id
  parameter id name

end Edit

namespace Binding

/-- Gives every placeholder of a slot's code its parameter. -/
def refresh (id : Int) : Edit Parameters := do
  let _ ← Edit.slot id
  Edit.change id Slot.refreshed
  return (← Edit.slot id).parameters

/-- A slot's code with the values of its parameters, which are refreshed first. -/
def resolve (id : Int) : Edit String := do
  let _ ← refresh id
  return (← Edit.slot id).resolved

/-- The parameters with the given one driven by a knob, which drives no other of them. -/
def assigned (ps : Parameters) (name : String) (knob : Option Int) : Parameters :=
  ps.map fun p =>
    if p.name = name then p.withKnob (.ofIndex? knob)
    else if knob.any p.knob.isIndex then p.withKnob .none
    else p

/-- Binds a parameter to a knob, or unbinds it. -/
def assign (now : Float) (id : Int) (name : String) (knob : Option Int) : Edit Parameter := do
  if let some index := knob then
    if index < 0 ∨ knobCount ≤ index then throw (.knobOutOfRange index)
  let _ ← Edit.parameter id name
  Edit.change id fun slot => { slot with parameters := assigned slot.parameters name knob }
  Edit.touch now id
  Edit.parameter id name

/-- Gives a parameter another range, and brings its value into it. -/
def setRange (now : Float) (id : Int) (name : String) (lo hi : Float) : Edit Parameter := do
  match Range.of? lo hi with
  | none => throw (.emptyRange lo hi)
  | some range => Edit.changeParameter now id name (·.withRange range)

def setValue (now : Float) (id : Int) (name : String) (value : Float) : Edit Parameter :=
  Edit.changeParameter now id name (·.withValue value)

/-- The parameter that an entry starts with. -/
def seed (entry : Catalog.Entry) : Except Failure Parameter :=
  match Range.of? entry.lo entry.hi with
  | some range => .ok (.create entry.name entry.default range .none entry.label)
  | none => .error (.parameterRange entry.name entry.lo entry.hi)

/-- Adds an entry's fragment to a slot's code, and its parameter unless one of that name is there
already: it keeps its state. -/
def append (now : Float) (id : Int) (entry : Catalog.Entry) : Edit Unit := do
  Edit.change id fun slot => { slot with code := slot.code ++ entry.fragment }
  if entry.name ∉ (← Edit.slot id).parameters.names then
    match seed entry with
    | .error failure => throw failure
    | .ok p => Edit.change id fun slot => { slot with parameters := slot.parameters.add p }
  Edit.touch now id

/-- Makes a well-known parameter controllable in a slot. Code that has the placeholder already is
left alone. -/
def addFromCatalog (catalog : Catalog) (now : Float) (id : Int) (name : String)
    (knob : Option Int) : Edit Parameter := do
  match catalog.get name with
  | .error failure => throw failure
  | .ok entry =>
    let slot ← Edit.slot id
    if entry.name ∈ Program.detect slot.code then
      let _ ← refresh id
    else append now id entry
    match knob with
    | some _ => assign now id entry.name knob
    | none => Edit.parameter id entry.name

end Binding

end PatternDeck
