import PatternDeck.Number.Shortest

/-!
Numbers as text. A double is written with the fewest digits that read back as it.
-/
namespace PatternDeck

/-- How a decimal is laid out. -/
structure Layout where
  /-- The least power of ten of a first digit that is written without an exponent. -/
  positionalFrom : Int
  /-- The power of ten from which on a first digit is written with an exponent. -/
  positionalBelow : Int
  /-- What follows the digits of a whole number written without an exponent. -/
  wholeEnding : List Char
  /-- The least count of an exponent's digits. -/
  exponentWidth : Nat
  infinity : List Char
  nan : List Char

/-- The layout of every double that is shown or stored: `0.5`, `2.0`, `1e-05`, `1e+16`. -/
def Layout.plain : Layout where
  positionalFrom := -4
  positionalBelow := 16
  wholeEnding := ['.', '0']
  exponentWidth := 2
  infinity := "inf".toList
  nan := "nan".toList

namespace Decimal

def natDigits (n : Nat) : List Char := Nat.toDigits 10 n

/-- The digits without the zeros at their end. -/
def significant (digits : List Char) : List Char :=
  (digits.reverse.dropWhile (· == '0')).reverse

/-- The power of ten of a decimal's first digit. -/
def firstPower (d : Decimal) : Int :=
  d.exponent + (natDigits d.coefficient).length - 1

private def zeros (n : Nat) : List Char := List.replicate n '0'

private def exponentDigits (layout : Layout) (power : Int) : List Char :=
  let digits := natDigits power.natAbs
  (if power < 0 then '-' else '+') :: zeros (layout.exponentWidth - digits.length) ++ digits

/-- A positive decimal in a layout. -/
def render (layout : Layout) (d : Decimal) : List Char :=
  let digits := significant (natDigits d.coefficient)
  let power := d.firstPower
  if power < layout.positionalFrom ∨ layout.positionalBelow ≤ power then
    let fraction := digits.drop 1
    digits.take 1 ++ (if fraction.isEmpty then [] else '.' :: fraction)
      ++ 'e' :: exponentDigits layout power
  else if power < 0 then
    '0' :: '.' :: zeros (-power - 1).toNat ++ digits
  else
    let places := power.toNat + 1
    let fraction := digits.drop places
    digits.take places ++ zeros (places - digits.length)
      ++ (if fraction.isEmpty then layout.wholeEnding else '.' :: fraction)

end Decimal

namespace Binary

private def withSign (negative : Bool) (s : List Char) : List Char :=
  if negative then '-' :: s else s

def render (layout : Layout) : Binary → List Char
  | .nan => layout.nan
  | .infinite negative => withSign negative layout.infinity
  | .finite negative mantissa exponent =>
    withSign negative <|
      if mantissa = 0 then '0' :: layout.wholeEnding
      else (Decimal.shortest (.of mantissa exponent)).render layout

end Binary

/-- A double as messages and programs show it. -/
def floatText (x : Float) : String :=
  String.ofList ((Binary.ofFloat x).render .plain)

def intDigits (n : Int) : List Char :=
  if n < 0 then '-' :: Decimal.natDigits n.natAbs else Decimal.natDigits n.natAbs

def intText (n : Int) : String :=
  String.ofList (intDigits n)

end PatternDeck
