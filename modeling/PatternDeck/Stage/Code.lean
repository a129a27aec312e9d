import PatternDeck.Stage.Playback

/-!
Changing the code of a slot, while it plays or with a restart.
-/
namespace PatternDeck.Stage

open Act

variable {Handle Listener World : Type} (around : Surroundings Handle Listener World)

/-- Changes the code of a slot that plays, without stopping the others. The new code is first
compiled by itself. When that or the rebuild fails, the slot is as it was. -/
def updateLiveCode (id : Int) (code : String) : Act Handle Listener World Unit := do
  let before ← slot around id
  if id ∉ (← getDeck).active then
    report around (some id) (.notPlaying id)
    throw (.notPlaying id)
  let edited := { before with code }.refreshed
  let program := edited.resolved
  match ← ask (around.compile program) (.compiled program) with
  | .error fault =>
    let failure := .invalidCode fault.message program
    report around (some id) failure
    throw failure
  | .ok _ =>
    changeSlot id fun slot => { slot with code, parameters := edited.parameters }
    orElseOwn (rebuild around) fun failure => do
      changeSlot id fun slot => { slot with code := before.code, parameters := before.parameters }
      report around (some id) failure
    touch around id
    announceState around id
    persist around id

/-- Does something, and afterwards something else, whether it failed or not. -/
def andFinally {α : Type} (action : Act Handle Listener World α)
    (closing : Act Handle Listener World Unit) : Act Handle Listener World α := do
  let result ← tryCatch action fun failure => do
    closing
    throw failure
  closing
  return result

/-- Changes the code of any slot. One that plays is stopped and started again; the new code stays
when the restart fails. -/
def updatePatternCode (id : Int) (code : String) : Act Handle Listener World Unit := do
  let _ ← slot around id
  let wasPlaying := (← getDeck).isPlaying id
  if wasPlaying then stop around id
  changeSlot id fun slot => { slot with code }
  touch around id
  let _ ← edit (Binding.refresh id)
  andFinally (if wasPlaying then start around id else return) do
    announceState around id
    persist around id

end PatternDeck.Stage
