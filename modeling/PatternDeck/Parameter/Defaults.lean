import PatternDeck.Parameter.Basic
import PatternDeck.Text.Basic

/-!
What a new parameter starts with, guessed from its name.
-/
namespace PatternDeck

/-- Names that hold one of the words get the range. -/
structure RangeRule where
  words : List String
  range : Range

/-- The first rule that fits a name wins. -/
def rangeRules : List RangeRule :=
  [⟨["speed", "tempo", "rate"], ⟨0.1, 4, by decide⟩⟩,
   ⟨["cutoff", "lpf", "hpf"], .unit⟩,
   ⟨["res", "q"], ⟨0, 10, by decide⟩⟩,
   ⟨["vol", "gain", "amp"], .unit⟩,
   ⟨["pan"], ⟨-1, 1, by decide⟩⟩,
   ⟨["delay", "reverb", "echo", "fx", "effect"], .unit⟩]

/-- Case does not matter. Of the letters beyond ASCII only two have ASCII letters in their lower
case: a `k`, and an `i` with a dot after it. No word has a `k` or ends in `i`, so lowering ASCII is
enough. -/
def RangeRule.fits (rule : RangeRule) (name : String) : Bool :=
  let lowered := name.toList.map Char.toLower
  rule.words.any fun word => Text.occursIn word.toList lowered

def defaultRange (name : String) : Range :=
  match rangeRules.find? (·.fits name) with
  | some rule => rule.range
  | none => .unit

namespace Parameter

/-- A parameter as it is when its placeholder is first seen: in the middle of its range. -/
def fresh (name : String) : Parameter :=
  let range := defaultRange name
  create name range.middle range

end Parameter

end PatternDeck
