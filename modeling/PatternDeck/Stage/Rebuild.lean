import PatternDeck.Program.Structure
import PatternDeck.Stage.Basic

/-!
Rebuilding the composite. The new composite is compiled before the old one is stopped, so a program
that the renderer refuses does not interrupt what plays; the old one is stopped before the new one
is started, so two never play together.
-/
namespace PatternDeck.Stage

open Act

variable {Handle Listener World : Type} (around : Surroundings Handle Listener World)

/-- Stops the composite. A handle that has gone stale does no harm. -/
def stopCurrent : Act Handle Listener World Unit := do
  match (← getDeck).running with
  | none => return
  | some running =>
    changeDeck fun deck => { deck with running := none }
    let _ ← ask (around.stop running.handle) (.stopped running.handle)

/-- The programs of slots, in order. -/
def resolveAll : List Int → Act Handle Listener World (List String)
  | [] => return []
  | id :: rest => do
    let program ← edit (Binding.resolve id)
    return program :: (← resolveAll rest)

/-- One program that plays all of them. -/
def composite (programs : List String) : String :=
  match programs with
  | [program] => program
  | _ => around.stack programs

/-- Puts a composite of the active slots in the place of the one that plays. -/
def rebuild : Act Handle Listener World Unit := do
  let active := (← getDeck).active
  if active.isEmpty then
    stopCurrent around
    announce around (.rebuild none)
  else
    let program := composite around (← resolveAll active)
    match ← ask (around.compile program) (.compiled program) with
    | .error fault => throw (.rejected fault.message program)
    | .ok handle =>
      stopCurrent around
      match ← ask (around.start handle) (.started handle) with
      | .error fault => throw (.rejected fault.message program)
      | .ok _ =>
        changeDeck fun deck => { deck with running := some ⟨handle, program⟩ }
        announce around (.rebuild (some program))

end PatternDeck.Stage
