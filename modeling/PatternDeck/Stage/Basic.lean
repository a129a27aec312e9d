import PatternDeck.Listeners.Basic
import PatternDeck.Selection
import PatternDeck.Slot

/-!
The deck with its surroundings: the renderer that plays programs, the place where slots are saved,
the listeners, and the clock. Each of them may fail at any call; the deck writes down what it asked
of them, and what came of it, in a journal.
-/
namespace PatternDeck

/-- A failure outside the deck: its kind's name and its text. -/
structure Fault where
  kind : String
  text : String
  deriving DecidableEq, Repr

/-- A fault without text is known by the name of its kind. -/
def Fault.message (fault : Fault) : String :=
  if fault.text = "" then fault.kind else fault.text

/-- What listeners may listen for. -/
inductive Topic where
  | stateChange
  | indicator
  | parameterChange
  | rebuild
  | error
  deriving DecidableEq, Repr

def Topic.all : List Topic := [.stateChange, .indicator, .parameterChange, .rebuild, .error]

def Topic.name : Topic → String
  | stateChange => "state_change"
  | indicator => "indicator"
  | parameterChange => "parameter_change"
  | rebuild => "rebuild"
  | error => "error"

/-- What the deck tells its listeners. -/
inductive Event where
  /-- A slot's playing state, code or parameters changed. -/
  | stateChange (slot : Slot)
  /-- A slot started or stopped, and its light has this color now. -/
  | indicator (slot : Int) (color : Int)
  | parameterChange (slot : Int) (parameter : Parameter)
  /-- Another composite plays, or none. -/
  | rebuild (program : Option String)
  | error (slot : Option Int) (failure : Failure)

def Event.topic : Event → Topic
  | stateChange _ => .stateChange
  | indicator .. => .indicator
  | parameterChange .. => .parameterChange
  | rebuild _ => .rebuild
  | error .. => .error

/-- A program that the renderer plays, with its handle. -/
structure Running (Handle : Type) where
  handle : Handle
  program : String

/-- The bank, and what is selected and played of it. -/
structure Deck (Handle Listener : Type) where
  bank : Bank
  catalog : Catalog
  /-- The slot that takes the knobs. -/
  selected : Option Int := none
  /-- The slots that play, in the order in which they were started. -/
  active : List Int := []
  /-- The composite that the renderer plays. -/
  running : Option (Running Handle) := none
  listeners : Listeners Topic Listener := {}

namespace Deck

variable {Handle Listener : Type}

def program? (deck : Deck Handle Listener) : Option String :=
  deck.running.map (·.program)

def isPlaying (deck : Deck Handle Listener) (id : Int) : Bool := id ∈ deck.active

/-- The color of a slot's light. -/
def color (deck : Deck Handle Listener) (id : Int) : Int :=
  match deck.bank.find? id with
  | some slot => if slot.playing then slot.color else Led.off
  | none => Led.off

end Deck

/-- What the deck needs of the world, whose state is `World`. -/
structure Surroundings (Handle Listener World : Type) where
  /-- Parses a program without a sound. -/
  compile : String → World → Except Fault Handle × World
  start : Handle → World → Except Fault Unit × World
  stop : Handle → World → Except Fault Unit × World
  /-- Silences the renderer altogether. -/
  hush : World → Except Fault Unit × World
  /-- One program that plays several together. -/
  stack : List String → String
  /-- Where slots are saved, if anywhere. -/
  save : Option (Slot → World → Except Fault Unit × World)
  /-- Tells a listener of an event; the deck is as it is at that moment. -/
  hear : Listener → Event → Deck Handle Listener → World → Except Fault Unit × World
  clock : World → Float

/-- One thing that the deck did outside itself, with its outcome. -/
inductive Entry (Handle : Type) where
  | compiled (program : String) (outcome : Except Fault Handle)
  | started (handle : Handle) (outcome : Except Fault Unit)
  | stopped (handle : Handle) (outcome : Except Fault Unit)
  | hushed (outcome : Except Fault Unit)
  | saved (slot : Slot) (outcome : Except Fault Unit)
  | touched (slot : Int)
  | announced (event : Event)

/-- The deck in its world, and the journal, the latest entry last. -/
structure Stage (Handle Listener World : Type) where
  deck : Deck Handle Listener
  world : World
  journal : List (Entry Handle) := []

def Entry.event? {Handle : Type} : Entry Handle → Option Event
  | announced event => some event
  | _ => none

/-- What the listeners were told, in order. -/
def Stage.announced {Handle Listener World : Type} (stage : Stage Handle Listener World) :
    List Event :=
  stage.journal.filterMap Entry.event?

/-- An operation. What it did before it failed stays done. -/
abbrev Act (Handle Listener World : Type) :=
  ExceptT Failure (StateM (Stage Handle Listener World))

namespace Act

variable {Handle Listener World : Type} (around : Surroundings Handle Listener World)

def getDeck : Act Handle Listener World (Deck Handle Listener) :=
  return (← get).deck

def changeDeck (f : Deck Handle Listener → Deck Handle Listener) :
    Act Handle Listener World Unit :=
  modify fun stage => { stage with deck := f stage.deck }

def changeSlot (id : Int) (f : Slot → Slot) : Act Handle Listener World Unit :=
  changeDeck fun deck => { deck with bank := deck.bank.modify id f }

def note (entry : Entry Handle) : Act Handle Listener World Unit :=
  modify fun stage => { stage with journal := stage.journal ++ [entry] }

/-- Calls on the world and notes the outcome. -/
def ask {α : Type} (call : World → Except Fault α × World)
    (entry : Except Fault α → Entry Handle) : Act Handle Listener World (Except Fault α) := do
  let (outcome, world) := call (← get).world
  modify fun stage => { stage with world }
  note (entry outcome)
  return outcome

/-- Tells the listeners of an event. One that fails is passed over. -/
def announce (event : Event) : Act Handle Listener World Unit := do
  note (.announced event)
  modify fun stage =>
    let tell (world : World) (listener : Listener) : World :=
      (around.hear listener event stage.deck world).2
    { stage with world := (stage.deck.listeners.of event.topic).foldl tell stage.world }

/-- Saves a slot as it is now. Playing goes on whether that works or not. -/
def persist (id : Int) : Act Handle Listener World Unit := do
  match around.save, (← getDeck).bank.find? id with
  | some save, some slot => let _ ← ask (save slot) (.saved slot)
  | _, _ => return

/-- Notes that a slot was changed just now. -/
def touch (id : Int) : Act Handle Listener World Unit := do
  let now := around.clock (← get).world
  changeSlot id fun slot => { slot with modified := .at now }
  note (.touched id)

def announceState (id : Int) : Act Handle Listener World Unit := do
  if let some slot := (← getDeck).bank.find? id then announce around (.stateChange slot)

/-- Tells that a slot started or stopped. -/
def announcePlaying (id : Int) : Act Handle Listener World Unit := do
  announceState around id
  announce around (.indicator id ((← getDeck).color id))

def report (id : Option Int) (failure : Failure) : Act Handle Listener World Unit :=
  announce around (.error id failure)

/-- Does an edit of the bank, and notes the slots that it touched. -/
def edit {α : Type} (change : Edit α) : Act Handle Listener World α := do
  let stage ← get
  let (outcome, draft) := change.run.run { bank := stage.deck.bank }
  set
    { stage with
      deck := { stage.deck with bank := draft.bank }
      journal := stage.journal ++ draft.touched.map Entry.touched }
  match outcome with
  | .ok a => return a
  | .error failure => throw failure

/-- Does something that may fail; when the failure is the deck's own, it is first answered. -/
def orElseOwn {α : Type} (action : Act Handle Listener World α)
    (answer : Failure → Act Handle Listener World Unit) : Act Handle Listener World α :=
  tryCatch action fun failure => do
    if failure.isOwn then answer failure
    throw failure

/-- Does something whose failure, when it is the deck's own, has been told already. -/
def dropOwn (action : Act Handle Listener World Unit) : Act Handle Listener World Unit :=
  tryCatch action fun failure => do
    unless failure.isOwn do throw failure

/-- The slot of an id, whose lack is reported. -/
def slot (id : Int) : Act Handle Listener World Slot := do
  match (← getDeck).bank.get id with
  | .ok slot => return slot
  | .error failure =>
    report around (some id) failure
    throw failure

end Act

end PatternDeck
