/-!
Ranges of values, and keeping a value inside one.
-/
namespace PatternDeck

section Bounds

variable {α : Type} [LT α] [DecidableLT α]

/-- The lesser of two numbers; the first unless the second is less, so NaN in second place yields
the first. -/
def lesser (a b : α) : α := if b < a then b else a

/-- The greater of two numbers; the first unless the second is greater. -/
def greater (a b : α) : α := if a < b then b else a

def clamp (value lo hi : α) : α := greater lo (lesser hi value)

end Bounds

/-- A full sweep of a range takes a knob this many ticks. -/
def knobSteps {α : Type} [OfNat α 127] : α := 127

/-- The change of value that one tick makes between two bounds. -/
def tick {α : Type} [Sub α] [Div α] [OfNat α 127] (lo hi : α) : α := (hi - lo) / knobSteps

/-- The values that a parameter may take. -/
structure Range where
  lo : Float
  hi : Float
  /-- A range is not empty, nor one point. A bound that is NaN is not ruled out. -/
  proper : ¬ hi ≤ lo

namespace Range

def of? (lo hi : Float) : Option Range :=
  if improper : hi ≤ lo then none else some ⟨lo, hi, improper⟩

def clamp (range : Range) (value : Float) : Float :=
  PatternDeck.clamp value range.lo range.hi

/-- The change of value that one tick makes. -/
def step (range : Range) : Float := tick range.lo range.hi

def middle (range : Range) : Float := (range.lo + range.hi) / 2

/-- From zero to one. -/
def unit : Range := ⟨0, 1, by decide⟩

instance : Inhabited Range := ⟨unit⟩

end Range

end PatternDeck
