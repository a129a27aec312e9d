import PatternDeck.Json.Reader
import PatternDeck.Yaml.Token

/-!
What scalars stand for. A plain scalar that is written as a number or as one of some words stands for
that, any other for its text.
-/
namespace PatternDeck.Yaml

def absent : List String := ["", "~", "null", "Null", "NULL"]

def truths : List String := ["yes", "Yes", "YES", "true", "True", "TRUE", "on", "On", "ON"]

def untruths : List String := ["no", "No", "NO", "false", "False", "FALSE", "off", "Off", "OFF"]

def infinities : List String := [".inf", ".Inf", ".INF"]

def nans : List String := [".nan", ".NaN", ".NAN"]

/-- The word of the key under which another mapping is taken in. -/
def mergeWord : String := "<<"

/-- The word of the key that stands for its mapping's value. -/
def valueWord : String := "="

/-- The value of a digit of a base. -/
def digit? (base : Nat) (c : Char) : Option Nat :=
  (Json.hexValue? c).filter (· < base)

/-- Whether a text holds digits of a base, with underscores among them. -/
def areDigits (base : Nat) (s : List Char) : Bool :=
  s.all fun c => c == '_' || (digit? base c).isSome

/-- Whether a text starts with a digit that is not below a given one, and holds no other than digits
and underscores. -/
def isCount (least : Char) (s : List Char) : Bool :=
  s.head?.any (fun c => least ≤ c && c ≤ '9') && areDigits 10 s

/-- Whether a text is one of sixty, in one or two digits. -/
def isSixtieth (s : List Char) : Bool :=
  match s with
  | [c] => c.isDigit
  | [c, d] => '0' ≤ c && c ≤ '5' && d.isDigit
  | _ => false

/-- The parts of a text between its colons. -/
def colonParts : List Char → List (List Char)
  | [] => [[]]
  | c :: rest =>
    match c, colonParts rest with
    | ':', parts => [] :: parts
    | c, first :: parts => (c :: first) :: parts
    | c, [] => [[c]]

/-- Whether a text is a count of something and then of its sixtieths, as times of day are. -/
def isSixties (least : Char) (s : List Char) : Bool :=
  match colonParts s with
  | first :: more => isCount least first && more.all isSixtieth
  | [] => false

/-- Whether a text is a whole number without its sign: binary, hexadecimal, octal, decimal, or in
sixties. -/
def isWhole : List Char → Bool
  | '0' :: 'b' :: rest => !rest.isEmpty && areDigits 2 rest
  | '0' :: 'x' :: rest => !rest.isEmpty && areDigits 16 rest
  | '0' :: rest => areDigits 8 rest
  | s => isSixties '1' s

/-- The number of the digits of a base. -/
def natural (base : Nat) (s : List Char) : Except Fault Nat :=
  let digits := s.filterMap (digit? base)
  if digits.isEmpty then .error (.noDigits base)
  else if base = 10 ∧ Literal.digitLimit < digits.length then .error (.tooManyDigits digits.length)
  else .ok (digits.foldl (fun n d => base * n + d) 0)

/-- A whole number without its sign. -/
def whole : List Char → Except Fault Nat
  | '0' :: 'b' :: rest => natural 2 rest
  | '0' :: 'x' :: rest => natural 16 rest
  | '0' :: rest => natural 8 ('0' :: rest)
  | s => do
    let parts ← (colonParts s).mapM (natural 10)
    return parts.foldl (fun n part => 60 * n + part) 0

/-- Whether a text is an exponent with a sign, or empty. -/
def isExponent : List Char → Bool
  | [] => true
  | e :: sign :: digits =>
    (e == 'e' || e == 'E') && (sign == '+' || sign == '-') && !digits.isEmpty
      && digits.all Char.isDigit
  | _ => false

/-- Whether a text is what follows a number's point. -/
def isFraction (s : List Char) : Bool :=
  isExponent (s.dropWhile fun c => c == '_' || c.isDigit)

/-- Whether a text is a number with a point. One that starts with its point has no sign; one in
sixties has no exponent. -/
def isDecimal (s : List Char) : Bool :=
  let body := (Literal.sign s).2
  let before := body.takeWhile (· != '.')
  match body.dropWhile (· != '.') with
  | _ :: after =>
    if s.head? == some '.' then after.head?.any Char.isDigit && isFraction after
    else isCount '0' before && isFraction after
      || ':' ∈ before && isSixties '0' before && areDigits 10 after
  | [] => false

/-- A number with a point, without its sign. The sixtieths are added up from the last. -/
def decimal (s : List Char) : Except Fault Float := do
  let parts := (colonParts (s.filter (· != '_'))).map fun part => (Literal.float? part).getD 0
  let sum := fun (part : Float) (found : Except Fault (Float × Nat)) => do
    let (x, weight) ← found
    match Binary.toFloat? weight with
    | some factor => return (x + part * factor, 60 * weight)
    | none => throw .tooLarge
  match parts with
  | [x] => return x
  | _ => return (← parts.foldr sum (.ok (0, 1))).1

/-- What a plain scalar stands for. -/
def plain (text : String) : Except Fault Json :=
  let s := text.toList
  let (negative, body) := Literal.sign s
  let unsigned := String.ofList body
  if text ∈ absent then .ok .null
  else if text ∈ truths then .ok (.bool true)
  else if text ∈ untruths then .ok (.bool false)
  else if text = mergeWord ∨ text = valueWord then .error .meaningless
  else if text ∈ nans then .ok (.float Literal.nan)
  else if unsigned ∈ infinities then
    .ok (.float (if negative then -Literal.infinity else Literal.infinity))
  else if isDecimal s then
    (decimal body).map fun x => .float (if negative then -x else x)
  else if isWhole body then
    (whole body).map fun n => .int (if negative then -(n : Int) else n)
  else .ok (.str text)

namespace Scalar

def value (scalar : Scalar) : Except Fault Json :=
  if scalar.quoted then .ok (.str scalar.text) else plain scalar.text

/-- What a scalar stands for as a key. -/
def key (scalar : Scalar) : Except Fault Json :=
  if scalar.text = valueWord then .ok (.str scalar.text) else scalar.value

/-- Whether a key takes in another mapping. -/
def merges (scalar : Scalar) : Bool := !scalar.quoted && scalar.text == mergeWord

end Scalar

end PatternDeck.Yaml
