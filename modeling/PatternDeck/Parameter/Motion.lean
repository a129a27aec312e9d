import PatternDeck.Number.Binary
import PatternDeck.Parameter.Basic

/-!
Motion of a parameter by its knob. A value that comes close to a whole number moving towards it
lands on it; moving away it is left alone, so no whole number holds a value fast. Values are doubles,
but the motion is one for all numbers that can be rounded to whole ones.
-/
namespace PatternDeck

/-- Numbers with the whole numbers among them, and one of these next to each. -/
class Rounding (α : Type) where
  ofInt : Int → α
  abs : α → α
  /-- The nearest whole number; of two the even one. -/
  round : α → Except Binary.Unbounded Int

instance : Rounding Float where
  ofInt := Float.ofInt
  abs := Float.abs
  round x := (Binary.ofFloat x).round

section Motion

variable {α : Type} [LT α] [DecidableLT α] [LE α] [DecidableLE α] [Add α] [Sub α] [Mul α] [Div α]
  [OfNat α 127] [OfScientific α] [Rounding α]

/-- How close to a whole number a value must come to land on it. -/
def snapThreshold : α := 0.08

/-- Whether a number keeps the bounds given. -/
def allowed (lo hi : Option α) (x : α) : Bool :=
  !(lo.any (x < ·)) && !(hi.any (· < x))

/-- The new value, or the whole number that it lands on coming from the old one. -/
def snap (old new threshold : α) (lo hi : Option α) : Except Binary.Unbounded α :=
  match Rounding.round new with
  | .error fault => .error fault
  | .ok n =>
    let nearest := Rounding.ofInt n
    let distance := Rounding.abs (new - nearest)
    .ok <|
      if allowed lo hi nearest && distance ≤ threshold &&
          distance < Rounding.abs (old - nearest) then
        nearest
      else new

/-- A value between bounds after so many ticks. -/
def move (value count lo hi : α) : Except Binary.Unbounded α :=
  snap value (clamp (value + count * tick lo hi) lo hi) snapThreshold (some lo) (some hi)

end Motion

/-- A turn of a knob, in ticks. -/
inductive Ticks where
  | whole (n : Int)
  | part (x : Float)

def Ticks.toFloat : Ticks → Except Binary.Unbounded Float
  | whole n =>
    match Binary.toFloat? n with
    | some x => .ok x
    | none => .error .infinite
  | part x => .ok x

namespace Parameter

/-- The value of a parameter after a turn of its knob. -/
def turned (p : Parameter) (ticks : Ticks) : Except Binary.Unbounded Float := do
  let count ← ticks.toFloat
  move p.value count p.range.lo p.range.hi

end Parameter

end PatternDeck
