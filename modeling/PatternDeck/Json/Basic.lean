/-!
JSON documents. Whole numbers and doubles are kept apart, and the fields of an object keep the order
in which their keys first came.
-/
namespace PatternDeck

inductive Json where
  | null
  | bool (b : Bool)
  | int (n : Int)
  | float (x : Float)
  | str (s : String)
  | arr (items : List Json)
  | obj (fields : List (String × Json))
  deriving Inhabited

namespace Json

/-- The fields with one more. A key that is there already keeps its place and takes the value. -/
def putField (key : String) (value : Json) : List (String × Json) → List (String × Json)
  | [] => [(key, value)]
  | (k, v) :: rest => if k = key then (k, value) :: rest else (k, v) :: putField key value rest

def field? : List (String × Json) → String → Option Json
  | [], _ => none
  | (k, v) :: rest, key => if k = key then some v else field? rest key

/-- The value under a key of an object. -/
def get? : Json → String → Option Json
  | .obj fields, key => field? fields key
  | _, _ => none

/-- Null, false, zero, and the empty text, array and object are void. -/
def isVoid : Json → Bool
  | .null => true
  | .bool b => !b
  | .int n => n == 0
  | .float x => x == 0
  | .str s => s == ""
  | .arr items => items.isEmpty
  | .obj fields => fields.isEmpty

mutual

/-- The whole numbers anywhere in a document. -/
def wholes : Json → List Int
  | .int n => [n]
  | .arr items => itemWholes items
  | .obj fields => fieldWholes fields
  | _ => []

def itemWholes : List Json → List Int
  | [] => []
  | item :: rest => item.wholes ++ itemWholes rest

def fieldWholes : List (String × Json) → List Int
  | [] => []
  | (_, item) :: rest => item.wholes ++ fieldWholes rest

end

end Json

end PatternDeck
