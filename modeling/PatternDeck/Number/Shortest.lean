import PatternDeck.Number.Binary

/-!
The shortest decimal that reads back as a given double. The reals that round to a double form an
interval around it; of the decimals in that interval with the fewest digits, the nearest to the
double is chosen, and of two equally near ones the one with the even last digit.
-/
namespace PatternDeck

/-- A decimal, `coefficient * 10 ^ exponent`. -/
structure Decimal where
  coefficient : Nat
  exponent : Int
  deriving DecidableEq, Repr

namespace Decimal

/-- A positive fraction. -/
structure Fraction where
  num : Nat
  den : Nat

namespace Fraction

/-- `n * 2 ^ exponent`. -/
def scaled (n : Nat) (exponent : Int) : Fraction :=
  ⟨n * twoPow exponent.toNat, twoPow (-exponent).toNat⟩

/-- `n * 10 ^ exponent`. -/
def decimal (n : Nat) (exponent : Int) : Fraction :=
  ⟨n * tenPow exponent.toNat, tenPow (-exponent).toNat⟩

def lt (a b : Fraction) : Bool := a.num * b.den < b.num * a.den

def le (a b : Fraction) : Bool := a.num * b.den ≤ b.num * a.den

/-- How many times `b` goes into `a`. -/
def quotient (a b : Fraction) : Nat := a.num * b.den / (a.den * b.num)

end Fraction

/-- The reals that round to one double. -/
structure Interval where
  value : Fraction
  low : Fraction
  high : Fraction
  /-- Whether the ends round to the double too. -/
  closed : Bool

/-- The interval of `mantissa * 2 ^ exponent`, whose lower half is shorter at a power of two: the
doubles below it stand twice as close. -/
def Interval.of (mantissa : Nat) (exponent : Int) : Interval :=
  let below := if mantissa = twoPow 52 ∧ -1074 < exponent then 1 else 2
  { value := .scaled mantissa exponent
    low := .scaled (4 * mantissa - below) (exponent - 2)
    high := .scaled (4 * mantissa + 2) (exponent - 2)
    closed := mantissa % 2 == 0 }

def Interval.contains (i : Interval) (x : Fraction) : Bool :=
  if i.closed then i.low.le x && x.le i.high else i.low.lt x && x.lt i.high

/-- The power of ten at or below a fraction that is no smaller than the least double. -/
def magnitude (x : Fraction) : Int :=
  (Nat.toDigits 10 (x.num * tenPow 400 / x.den)).length - 401

/-- The decimal of the grid with the given exponent that lies in the interval. If both neighbours of
the value do, it is the nearer one, or the even one when they are equally near. -/
def onGrid? (i : Interval) (exponent : Int) : Option Decimal :=
  let below := i.value.quotient (.decimal 1 exponent)
  let doubled : Fraction := ⟨2 * i.value.num, i.value.den⟩
  let middle := Fraction.decimal (2 * below + 1) exponent
  let lowerWins := doubled.lt middle || (doubled.le middle && below % 2 == 0)
  let lower := i.contains (.decimal below exponent)
  let upper := i.contains (.decimal (below + 1) exponent)
  if lower && (!upper || lowerWins) then
    some ⟨below, exponent⟩
  else if upper then some ⟨below + 1, exponent⟩
  else none

/-- Seventeen digits always suffice. -/
def shortest (i : Interval) : Decimal :=
  let top := magnitude i.value
  ((List.range 17).findSome? fun (more : Nat) => onGrid? i (top - more)).getD
    ⟨i.value.quotient (.decimal 1 (top - 16)), top - 16⟩

end Decimal

end PatternDeck
