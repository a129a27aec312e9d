/-!
Doubles read exactly: a finite double is a whole number times a power of two, so rounding it to a
whole number is a matter of whole numbers alone.
-/
namespace PatternDeck

def twoPow (n : Nat) : Nat := Nat.pow 2 n

def tenPow (n : Nat) : Nat := Nat.pow 10 n

theorem twoPow_pos (n : Nat) : 0 < twoPow n := Nat.two_pow_pos n

theorem tenPow_pos (n : Nat) : 0 < tenPow n := Nat.pow_pos (by decide)

/-- What a double stands for. -/
inductive Binary where
  /-- The value `mantissa * 2 ^ exponent`, negated or not. Zero keeps its sign. -/
  | finite (negative : Bool) (mantissa : Nat) (exponent : Int)
  | infinite (negative : Bool)
  | nan
  deriving DecidableEq, Repr

namespace Binary

def ofFloat (x : Float) : Binary :=
  let bits := x.toBits.toNat
  let negative := bits / twoPow 63 == 1
  let scale : Nat := bits / twoPow 52 % twoPow 11
  let fraction := bits % twoPow 52
  if scale = 2047 then
    if fraction = 0 then .infinite negative else .nan
  else if scale = 0 then .finite negative fraction (-1074)
  else .finite negative (fraction + twoPow 52) ((scale : Int) - 1075)

/-- Why a double has no whole number near it. -/
inductive Unbounded where
  | nan
  | infinite
  deriving DecidableEq, Repr

/-- The whole part of `mantissa * 2 ^ exponent`. -/
def whole (mantissa : Nat) (exponent : Int) : Nat :=
  mantissa * twoPow exponent.toNat / twoPow (-exponent).toNat

/-- The whole number nearest to a fraction; a half goes to the even neighbour. -/
def nearestWhole (numerator denominator : Nat) : Nat :=
  let below := numerator / denominator
  let rest := numerator % denominator
  if 2 * rest < denominator ∨ 2 * rest = denominator ∧ below % 2 = 0 then below else below + 1

/-- The whole number nearest to `mantissa * 2 ^ exponent`. -/
def nearest (mantissa : Nat) (exponent : Int) : Nat :=
  nearestWhole (mantissa * twoPow exponent.toNat) (twoPow (-exponent).toNat)

def isWhole : Binary → Bool
  | .finite _ mantissa exponent => mantissa * twoPow exponent.toNat % twoPow (-exponent).toNat == 0
  | _ => false

def signed (negative : Bool) (magnitude : Nat) : Int :=
  if negative then -magnitude else magnitude

/-- The whole number next to a double on the side of zero. -/
def truncate : Binary → Except Unbounded Int
  | .finite negative mantissa exponent => .ok (signed negative (whole mantissa exponent))
  | .infinite _ => .error .infinite
  | .nan => .error .nan

/-- The whole number nearest to a double; a half goes to the even neighbour. -/
def round : Binary → Except Unbounded Int
  | .finite negative mantissa exponent => .ok (signed negative (nearest mantissa exponent))
  | .infinite _ => .error .infinite
  | .nan => .error .nan

end Binary

/-- The double nearest to a whole number, unless the number lies beyond all doubles. -/
def Binary.toFloat? (n : Int) : Option Float :=
  let x := Float.ofInt n
  if x.isInf then none else some x

end PatternDeck
