import PatternDeck.Number.Notation
import PatternDeck.Text.Basic

/-!
Numbers read from text. White space around a number is ignored, its digits may be those of any script,
and a single underscore may stand between two digits. A whole number that is read or written has a
limit to its digits.
-/
namespace PatternDeck

namespace Text

/-- The digits of one script stand together in the order of their values, so a digit's value is its
distance from the first of them, modulo ten. -/
def digitRanges : List (Nat × Nat) :=
  [
   (0x30, 0x39), (0x660, 0x669), (0x6f0, 0x6f9), (0x7c0, 0x7c9), (0x966, 0x96f),
   (0x9e6, 0x9ef), (0xa66, 0xa6f), (0xae6, 0xaef), (0xb66, 0xb6f), (0xbe6, 0xbef),
   (0xc66, 0xc6f), (0xce6, 0xcef), (0xd66, 0xd6f), (0xde6, 0xdef), (0xe50, 0xe59),
   (0xed0, 0xed9), (0xf20, 0xf29), (0x1040, 0x1049), (0x1090, 0x1099), (0x17e0, 0x17e9),
   (0x1810, 0x1819), (0x1946, 0x194f), (0x19d0, 0x19d9), (0x1a80, 0x1a89), (0x1a90, 0x1a99),
   (0x1b50, 0x1b59), (0x1bb0, 0x1bb9), (0x1c40, 0x1c49), (0x1c50, 0x1c59), (0xa620, 0xa629),
   (0xa8d0, 0xa8d9), (0xa900, 0xa909), (0xa9d0, 0xa9d9), (0xa9f0, 0xa9f9), (0xaa50, 0xaa59),
   (0xabf0, 0xabf9), (0xff10, 0xff19), (0x104a0, 0x104a9), (0x10d30, 0x10d39), (0x11066, 0x1106f),
   (0x110f0, 0x110f9), (0x11136, 0x1113f), (0x111d0, 0x111d9), (0x112f0, 0x112f9), (0x11450, 0x11459),
   (0x114d0, 0x114d9), (0x11650, 0x11659), (0x116c0, 0x116c9), (0x11730, 0x11739), (0x118e0, 0x118e9),
   (0x11950, 0x11959), (0x11c50, 0x11c59), (0x11d50, 0x11d59), (0x11da0, 0x11da9), (0x16a60, 0x16a69),
   (0x16ac0, 0x16ac9), (0x16b50, 0x16b59), (0x1d7ce, 0x1d7ff), (0x1e140, 0x1e149), (0x1e2f0, 0x1e2f9),
   (0x1e950, 0x1e959), (0x1fbf0, 0x1fbf9)]

def digitValue? (c : Char) : Option Nat :=
  (digitRanges.find? fun (first, last) => first ≤ c.toNat && c.toNat ≤ last).map fun (first, _) =>
    (c.toNat - first) % 10

end Text

namespace Literal

open Text

/-- The most decimal digits that a whole number may have. -/
def digitLimit : Nat := 4300

/-- Whether a number has more digits than it may have. -/
def isTooLong (n : Int) : Bool := tenPow digitLimit ≤ n.natAbs

def limitText : String :=
  "Exceeds the limit (" ++ intText digitLimit ++ " digits) for integer string conversion"

def remedyText : String := "; use sys.set_int_max_str_digits() to increase the limit"

/-- What is said of a text with so many digits. -/
def tooManyDigitsText (count : Nat) : String :=
  limitText ++ ": value has " ++ intText count ++ " digits" ++ remedyText

/-- What is said of a number that is too long to be written. -/
def tooLongText : String := limitText ++ remedyText

/-- White space: the blanks that are no information separators. -/
def isMargin (c : Char) : Bool := isBlank c && !isSeparator c

/-- The digits at the head of a text, once one has been read. -/
def moreDigits : List Char → List Nat × List Char
  | [] => ([], [])
  | '_' :: c :: rest =>
    match digitValue? c with
    | some d => let (more, after) := moreDigits rest; (d :: more, after)
    | none => ([], '_' :: c :: rest)
  | c :: rest =>
    match digitValue? c with
    | some d => let (more, after) := moreDigits rest; (d :: more, after)
    | none => ([], c :: rest)

/-- The digits at the head of a text. -/
def digits : List Char → List Nat × List Char
  | '_' :: rest => ([], '_' :: rest)
  | s => moreDigits s

def ofDigits (ds : List Nat) : Nat :=
  ds.foldl (fun n d => 10 * n + d) 0

/-- A sign at the head of a text: whether it is a minus. -/
def sign : List Char → Bool × List Char
  | '-' :: rest => (true, rest)
  | '+' :: rest => (false, rest)
  | s => (false, s)

/-- Why a text is no whole number. -/
inductive IntFault where
  | malformed
  | tooManyDigits (count : Nat)
  deriving DecidableEq, Repr

/-- The whole number that a text is. The digits are counted once no underscore is out of place
among them, whatever may follow them. -/
def int (s : List Char) : Except IntFault Int :=
  let (negative, body) := sign (trimBy isMargin s)
  let (ds, rest) := digits body
  if ds.isEmpty || rest.head? == some '_' then .error .malformed
  else if digitLimit < ds.length then .error (.tooManyDigits ds.length)
  else if rest.isEmpty then .ok (if negative then -(ofDigits ds : Int) else ofDigits ds)
  else .error .malformed

def infinity : Float := Float.ofBits 0x7ff0000000000000

def nan : Float := Float.ofBits 0x7ff8000000000000

/-- The double nearest to `mantissa * 10 ^ exponent`. Exponents so far out that the answer does not
hang on the digits are decided by the place of the first digit. -/
def nearestFloat (mantissa : Nat) (exponent : Int) : Float :=
  let firstPower := exponent + (Nat.toDigits 10 mantissa).length
  if mantissa = 0 ∨ firstPower < -400 then 0
  else if 400 < firstPower then infinity
  else Float.ofScientific mantissa (exponent < 0) exponent.natAbs

/-- The exponent at the head of a text, zero if there is none. -/
def exponentPart : List Char → Option Int × List Char
  | c :: rest =>
    if c = 'e' ∨ c = 'E' then
      let (negative, body) := sign rest
      match digits body with
      | ([], _) => (none, c :: rest)
      | (ds, after) => (some (if negative then -(ofDigits ds : Int) else ofDigits ds), after)
    else (some 0, c :: rest)
  | [] => (some 0, [])

/-- A number with digits before or after its point, without a sign. -/
def unsignedFloat? (s : List Char) : Option Float :=
  let (before, rest) := digits s
  let (after, rest) :=
    match rest with
    | '.' :: fraction => digits fraction
    | _ => ([], rest)
  if before.isEmpty && after.isEmpty then none
  else
    match exponentPart rest with
    | (some exponent, []) =>
      some (nearestFloat (ofDigits (before ++ after)) (exponent - after.length))
    | _ => none

def float? (s : List Char) : Option Float :=
  let (negative, body) := sign (trimBy isMargin s)
  let magnitude :=
    match String.ofList (body.map Char.toLower) with
    | "inf" | "infinity" => some infinity
    | "nan" => some nan
    | _ => unsignedFloat? body
  magnitude.map fun x => if negative then -x else x

end Literal

end PatternDeck
