import PatternDeck.Stage.Code
import PatternDeck.Stage.Control

/-!
Histories: a deck is worked by its public operations, one after another. An operation that fails is
a step like any other, and the next one meets the deck as the failure left it.
-/
namespace PatternDeck

/-- What can be asked of a deck. -/
inductive Operation where
  | start (id : Int)
  | stop (id : Int)
  | toggle (id : Int)
  | stopAll
  | updateLiveCode (id : Int) (code : String)
  | updatePatternCode (id : Int) (code : String)
  | select (id : Option Int)
  | parameters (id : Int)
  | assignParameter (id : Int) (name : String) (knob : Option Int)
  | setParameterRange (id : Int) (name : String) (lo hi : Float)
  | setParameterValue (id : Int) (name : String) (value : Float)
  | addCatalogParameter (id : Int) (name : String) (knob : Option Int)
  | pressButton (id : Int) (pressed : Bool)
  | turnKnob (knob ticks : Int)
  | loadLibrary (slots : List Slot) (name version : Option Label)

namespace Operation

variable {Handle Listener World : Type} (around : Surroundings Handle Listener World)

/-- The operation, whatever it gives back. -/
def act : Operation → Act Handle Listener World Unit
  | start id => Stage.start around id
  | stop id => Stage.stop around id
  | toggle id => Stage.toggle around id
  | stopAll => Stage.stopAll around
  | updateLiveCode id code => Stage.updateLiveCode around id code
  | updatePatternCode id code => Stage.updatePatternCode around id code
  | select id => Stage.select around id
  | parameters id => discard <| Stage.parameters around id
  | assignParameter id name knob => discard <| Stage.assignParameter around id name knob
  | setParameterRange id name lo hi => discard <| Stage.setParameterRange around id name lo hi
  | setParameterValue id name value => discard <| Stage.setParameterValue around id name value
  | addCatalogParameter id name knob => discard <| Stage.addCatalogParameter around id name knob
  | pressButton id pressed => Stage.pressButton around id pressed
  | turnKnob knob ticks => Stage.turnKnob around knob ticks
  | loadLibrary slots name version => Stage.loadLibrary around slots name version

/-- Whether the operation changes a value or a range, or adds a parameter. -/
def tunes : Operation → Bool
  | setParameterRange .. | setParameterValue .. | addCatalogParameter .. | turnKnob .. => true
  | _ => false

end Operation

/-- One operation of a history, with what came of it. -/
structure Step (Handle Listener World : Type) where
  before : Stage Handle Listener World
  operation : Operation
  outcome : Except Failure Unit
  after : Stage Handle Listener World

namespace Stage

variable {Handle Listener World : Type} (around : Surroundings Handle Listener World)

/-- A deck on a bank, of which nothing was asked yet. -/
def fresh (bank : Bank) (catalog : Catalog) (listeners : Listeners Topic Listener) (world : World) :
    Stage Handle Listener World :=
  { deck := { bank, catalog, listeners }, world }

/-- The steps of operations done one after another. -/
def history (stage : Stage Handle Listener World) :
    List Operation → List (Step Handle Listener World)
  | [] => []
  | operation :: rest =>
    let (outcome, after) := (operation.act around).run.run stage
    ⟨stage, operation, outcome, after⟩ :: history after rest

end Stage

end PatternDeck
