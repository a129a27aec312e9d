import PatternDeck.Stage.Basic
import PatternDeck.Text.Basic

/-!
The rehearsal renderer: it makes no sound, refuses programs by rules, and fails when it is told to.
-/
namespace PatternDeck.Renderer

/-- A condition on a program's text. -/
inductive Condition where
  | has (part : String)
  | lacks (part : String)
  deriving DecidableEq, Repr

def Condition.holds (program : String) : Condition → Bool
  | has part => Text.occursIn part.toList program.toList
  | lacks part => !Text.occursIn part.toList program.toList

/-- A condition as it is written down: the text, after an exclamation mark when it must not occur. -/
def Condition.ofText (text : String) : Condition :=
  match text.toList with
  | '!' :: part => lacks (String.ofList part)
  | _ => has text

structure Rehearsal where
  /-- A program is refused when all conditions of one of the rules hold. -/
  rules : List (List Condition) := []
  /-- What a refusal says, unless it quotes the program. -/
  refusal : Option String := none
  startFails : Bool := false
  stopFails : Bool := false
  hushFails : Bool := false
  failure : String := "engine down"
  deriving Inhabited

namespace Rehearsal

def faultKind : String := "RuntimeError"

def refuses (rehearsal : Rehearsal) (program : String) : Bool :=
  rehearsal.rules.any (·.all (·.holds program))

def compile (rehearsal : Rehearsal) (program : String) : Except Fault Unit :=
  if rehearsal.refuses program then
    .error ⟨faultKind, rehearsal.refusal.getD ("Cannot evaluate: " ++ program)⟩
  else .ok ()

/-- The outcome of a call that fails when it is told to. -/
def outcome (rehearsal : Rehearsal) (fails : Bool) : Except Fault Unit :=
  if fails then .error ⟨faultKind, rehearsal.failure⟩ else .ok ()

end Rehearsal

end PatternDeck.Renderer
