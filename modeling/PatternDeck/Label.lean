import PatternDeck.Json.Basic
import PatternDeck.Number.Notation
import PatternDeck.Text.Quoted

/-!
Values that are shown and stored and never looked into.
-/
namespace PatternDeck

namespace Json

/-- The whole number that a value counts as: truth counts as one, untruth as zero. -/
def whole? : Json → Option Int
  | .int n => some n
  | .bool b => some (if b then 1 else 0)
  | .float x =>
    let exact := Binary.ofFloat x
    if exact.isWhole then exact.truncate.toOption else none
  | _ => none

/-- What values are told apart by. Numbers of different kinds are not told apart if they are equal. -/
inductive Key where
  | null
  | whole (n : Int)
  | number (x : Float)
  | text (s : String)
  deriving DecidableEq

/-- An array or an object has nothing that it could be told apart by. -/
def key? : Json → Option Key
  | .null => some .null
  | .str s => some (.text s)
  | .float x => some (((Json.float x).whole?.map .whole).getD (.number x))
  | value => value.whole?.map .whole

mutual

/-- A document as messages show it. -/
def shown : Json → String
  | .null => "None"
  | .bool b => if b then "True" else "False"
  | .int n => intText n
  | .float x => floatText x
  | .str s => Text.quoted s
  | .arr items => "[" ++ ", ".intercalate (shownItems items) ++ "]"
  | .obj fields => "\x7b" ++ ", ".intercalate (shownFields fields) ++ "\x7d"

def shownItems : List Json → List String
  | [] => []
  | item :: rest => item.shown :: shownItems rest

def shownFields : List (String × Json) → List String
  | [] => []
  | (key, value) :: rest => (Text.quoted key ++ ": " ++ value.shown) :: shownFields rest

end

end Json

/-- A text for people to read. A library file may hold any other value in its place, which is kept
and written back as it is. -/
inductive Label where
  | text (s : String)
  | other (value : Json)
  deriving Inhabited

namespace Label

instance : Coe String Label := ⟨text⟩

def ofJson : Json → Label
  | .str s => text s
  | value => other value

def toJson : Label → Json
  | text s => .str s
  | other value => value

def isVoid (label : Label) : Bool := label.toJson.isVoid

def text? : Label → Option String
  | text s => some s
  | other _ => none

theorem toJson_ofJson (value : Json) : (ofJson value).toJson = value := by
  cases value <;> rfl

end Label

end PatternDeck
