import PatternDeck.Binding

/-!
Selection: one slot at most takes the knobs, whether it plays or not.
-/
namespace PatternDeck

/-- What a turn of a knob did. -/
structure Turn where
  slot : Int
  parameter : Parameter
  old : Float
  new : Float

namespace Selection

/-- The parameter that a knob drives in the selected slot. -/
def driven? (bank : Bank) (selected : Option Int) (knob : Int) : Option (Slot × Parameter) := do
  let slot ← bank.find? (← selected)
  let p ← slot.parameters.drivenBy? knob
  return (slot, p)

/-- Turns a knob of the selected slot. A knob that drives nothing does nothing. -/
def turn (now : Float) (selected : Option Int) (knob : Int) (ticks : Ticks) :
    Edit (Option Turn) := do
  match driven? (← get).bank selected knob with
  | none => return none
  | some (slot, p) =>
    match p.turned ticks with
    | .error .nan => throw .notANumber
    | .error .infinite => throw .tooLarge
    | .ok new =>
      Edit.change slot.id fun slot =>
        { slot with parameters := slot.parameters.modify p.name fun p => { p with value := new } }
      Edit.touch now slot.id
      return some ⟨slot.id, { p with value := new }, p.value, new⟩

end Selection

end PatternDeck
