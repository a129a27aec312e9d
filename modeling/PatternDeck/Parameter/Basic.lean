import PatternDeck.Label
import PatternDeck.Parameter.Range
import PatternDeck.Text.Basic
import PatternDeck.Text.UpperCase

/-!
Parameters: the values behind the placeholders of a slot's program.
-/
namespace PatternDeck

/-! ### Display names

`delayFeedback` and `room_size` read as `Delay Feedback` and `Room Size`. -/

namespace DisplayName

/-- A space before every ASCII capital, and in the place of every underscore. -/
def spaced (s : List Char) : List Char :=
  s.flatMap fun c => if c.isUpper then [' ', c] else if c = '_' then [' '] else [c]

/-- Each character in upper case that stands first or after a space. -/
def titled (first : Bool) : List Char → List Char
  | [] => []
  | c :: rest => (if first then Text.upperCase c else [c]) ++ titled (c == ' ') rest

def displayChars (name : List Char) : List Char :=
  Text.trim (titled true (spaced name))

end DisplayName

def displayName (name : String) : String :=
  String.ofList (DisplayName.displayChars name.toList)

/-! ### Parameters -/

/-- The knob that drives a parameter. -/
inductive Knob where
  | none
  | index (i : Int)
  /-- A value of a library file that is no whole number, kept as it is. -/
  | other (value : Json)
  deriving Inhabited

namespace Knob

def ofJson : Json → Knob
  | .null => none
  | .int i => index i
  | value => other value

def toJson : Knob → Json
  | none => .null
  | index i => .int i
  | other value => value

def isIndex (knob : Knob) (i : Int) : Bool :=
  match knob with
  | none => false
  | index j => j == i
  | other value => value.whole? == some i

def ofIndex? : Option Int → Knob
  | .none => none
  | some i => index i

end Knob

/-- How the names of parameters are told apart, and how a parameter is labelled that is given no
label. -/
class Naming (Name : Type) where
  Key : Type
  [distinguish : DecidableEq Key]
  key : Name → Key
  label : Name → String

attribute [reducible, instance] Naming.distinguish

instance : Naming String where
  Key := String
  key name := name
  label := displayName

/-- A library file may hold other values in the place of names. -/
instance : Naming Label where
  Key := Option Json.Key
  key name := name.toJson.key?
  label name := name.text?.elim "" displayName

/-- A parameter. What is named by texts can be played. -/
structure Parameter (Name : Type := String) where
  /-- The placeholder's identifier. -/
  name : Name
  value : Float
  range : Range
  knob : Knob
  label : Label
  deriving Inhabited

namespace Parameter

/-- A parameter with its value brought into the range, and labelled after its name if it is given no
label. -/
def create {Name : Type} [Naming Name] (name : Name) (value : Float) (range : Range)
    (knob : Knob := .none) (label : Label := "") : Parameter Name :=
  { name, value := range.clamp value, range, knob
    label := if label.isVoid then Naming.label name else label }

def withValue (p : Parameter) (value : Float) : Parameter :=
  { p with value := p.range.clamp value }

def withRange (p : Parameter) (range : Range) : Parameter :=
  { p with range, value := range.clamp p.value }

def withKnob (p : Parameter) (knob : Knob) : Parameter :=
  { p with knob }

end Parameter

end PatternDeck
