import PatternDeck.Number.Literal
import PatternDeck.Number.Notation

/-!
Messages of Open Sound Control: an address and arguments.
-/
namespace PatternDeck.Osc

inductive Argument where
  | int (n : Int)
  | float (x : Float)
  | text (s : String)
  | bool (b : Bool)
  | null
  deriving Inhabited

/-- The arguments of a message on its way out: one that stands alone, or a list of them. -/
inductive Payload where
  | one (argument : Argument)
  | many (arguments : List Argument)
  deriving Inhabited

structure Message where
  address : String
  payload : Payload

/-- Why an argument is no number. -/
inductive Unreadable where
  /-- Its text or its value is no number of that kind. -/
  | value
  /-- Nothing of its kind is a number. -/
  | kind
  | tooLarge
  deriving DecidableEq, Repr

namespace Argument

/-- The whole number that an argument stands for; a fraction is dropped. -/
def toInt : Argument → Except Unreadable Int
  | int n => .ok n
  | float x =>
    match (Binary.ofFloat x).truncate with
    | .ok n => .ok n
    | .error .nan => .error .value
    | .error .infinite => .error .tooLarge
  | text s =>
    match Literal.int s.toList with
    | .ok n => .ok n
    | .error _ => .error .value
  | bool b => .ok (if b then 1 else 0)
  | null => .error .kind

/-- The double that an argument stands for. -/
def toFloat : Argument → Except Unreadable Float
  | int n =>
    match Binary.toFloat? n with
    | some x => .ok x
    | none => .error .tooLarge
  | float x => .ok x
  | text s =>
    match Literal.float? s.toList with
    | some x => .ok x
    | none => .error .value
  | bool b => .ok (if b then 1 else 0)
  | null => .error .kind

/-- Whether an argument can be written as text: a whole number of too many digits cannot. -/
def isWritable : Argument → Bool
  | int n => !Literal.isTooLong n
  | _ => true

/-- An argument as text. -/
def shown : Argument → String
  | int n => intText n
  | float x => floatText x
  | text s => s
  | bool true => "True"
  | bool false => "False"
  | null => "None"

end Argument

end PatternDeck.Osc
