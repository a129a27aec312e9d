import PatternDeck.Stage.Rebuild

/-!
Starting and stopping slots.
-/
namespace PatternDeck.Stage

open Act

variable {Handle Listener World : Type} (around : Surroundings Handle Listener World)

def setPlaying (id : Int) (playing : Bool) : Act Handle Listener World Unit :=
  changeSlot id fun slot => { slot with playing }

/-- Starts a slot. If the rebuild fails the slot does not play. -/
def start (id : Int) : Act Handle Listener World Unit := do
  let _ ← slot around id
  if id ∈ (← getDeck).active then return
  changeDeck fun deck => { deck with active := deck.active ++ [id] }
  setPlaying id true
  orElseOwn (rebuild around) fun failure => do
    changeDeck fun deck => { deck with active := deck.active.erase id }
    setPlaying id false
    report around (some id) failure
  touch around id
  announcePlaying around id
  persist around id

/-- Stops a slot. If the rebuild fails the slot plays on, at its old place. -/
def stop (id : Int) : Act Handle Listener World Unit := do
  let _ ← slot around id
  let active := (← getDeck).active
  if id ∉ active then return
  changeDeck fun deck => { deck with active := active.erase id }
  setPlaying id false
  orElseOwn (rebuild around) fun failure => do
    changeDeck fun deck => { deck with active }
    setPlaying id true
    report around (some id) failure
  touch around id
  announcePlaying around id

def toggle (id : Int) : Act Handle Listener World Unit := do
  if id ∈ (← getDeck).active then stop around id else start around id

/-- Tells of slots that were stopped. -/
def announceStopped : List Int → Act Handle Listener World Unit
  | [] => return
  | id :: rest => do
    touch around id
    announcePlaying around id
    announceStopped rest

/-- Silences everything. The renderer is hushed too, in case something outlived its handle. -/
def stopAll : Act Handle Listener World Unit := do
  stopCurrent around
  let _ ← ask around.hush .hushed
  let before ← getDeck
  let playing := before.bank.slots.filter fun slot => slot.playing || before.isPlaying slot.id
  changeDeck fun deck =>
    { deck with active := [], bank := deck.bank.map fun slot => { slot with playing := false } }
  announceStopped around (playing.map (·.id))
  announce around (.rebuild none)

/-- Stops everything and takes other slots. If they cannot be taken the bank stays, silent. A
selection of a slot that is gone is dropped. -/
def loadLibrary (slots : List Slot) (name version : Option Label) :
    Act Handle Listener World Unit := do
  stopAll around
  match (← getDeck).bank.replaced slots name version with
  | .error failure => throw failure
  | .ok bank =>
    changeDeck fun deck =>
      { deck with bank, selected := deck.selected.filter fun id => (bank.find? id).isSome }

/-- The slots that play, in the order in which they were started. -/
def playingSlots : Act Handle Listener World (List Slot) := do
  let current ← getDeck
  match current.active.mapM current.bank.get with
  | .ok slots => return slots
  | .error failure => throw failure

end PatternDeck.Stage
