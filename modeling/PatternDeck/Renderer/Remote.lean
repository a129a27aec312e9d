import PatternDeck.Osc.Message
import PatternDeck.Program.Structure
import PatternDeck.Stage.Basic

/-!
The remote renderer: another process, told by messages what to play. Programs are checked here, so
that none with a broken structure is sent; each accepted program gets a number of its own.
-/
namespace PatternDeck.Renderer

/-- An accepted program and its number. -/
structure Handle where
  id : Nat
  program : String
  deriving DecidableEq, Repr

structure Remote where
  /-- The number of the next program. -/
  next : Nat := 1
  deriving DecidableEq, Repr

namespace Remote

/-- Gives a program a number, if nothing is wrong with its structure. -/
def compile (remote : Remote) (program : String) : Except Program.Flaw Handle × Remote :=
  match Program.check program with
  | .error flaw => (.error flaw, remote)
  | .ok _ => (.ok ⟨remote.next, program⟩, ⟨remote.next + 1⟩)

def evalMessage (handle : Handle) : Osc.Message :=
  ⟨"/eval", .many [.int handle.id, .text handle.program]⟩

def stopMessage (handle : Handle) : Osc.Message :=
  ⟨"/stop", .one (.int handle.id)⟩

def hushMessage : Osc.Message := ⟨"/hush", .many []⟩

end Remote

/-- A program with a flaw is refused with the flaw's message. -/
def flawFault (flaw : Program.Flaw) : Fault := ⟨"flaw", flaw.message⟩

/-- A message could not be sent. -/
def unreachable : Fault := ⟨"network", "Network is unreachable"⟩

end PatternDeck.Renderer
