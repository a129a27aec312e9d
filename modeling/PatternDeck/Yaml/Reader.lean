import PatternDeck.Json.Writer
import PatternDeck.Yaml.Node
import PatternDeck.Yaml.Scalar

/-!
Reading YAML, as far as configurations need it: block mappings with plain and double-quoted scalars,
and comments. Of two entries with one key the later wins. Of several faults among values the one in
the outermost mapping is told.
-/
namespace PatternDeck.Yaml

namespace Node

/-- The entries of a mapping with those of the mappings that it takes in before them. -/
def flat : Nat → Entries → Except Fault Entries
  | 0, _ => .error .meaningless
  | depth + 1, entries => do
    let (taken, own) := entries.partition fun
      | (.scalar text, _) => text.merges
      | _ => false
    let merged ← taken.mapM fun
      | (_, .mapping entries) => flat depth entries
      | _ => .error .meaningless
    return merged.flatten ++ own

/-- The value of a key. A mapping cannot be one. -/
def key : Node → Except Fault Json
  | .scalar text => text.key
  | .mapping _ => .error .meaningless

/-- Looks for faults among the entries of a mapping, without those of the mappings in it, which are
given back. -/
def check (depth : Nat) (entries : Entries) : Except Fault (List Entries) := do
  let found ← (← flat depth entries).mapM fun (name, content) => do
    let _ ← name.key
    match content with
    | .scalar text =>
      let _ ← text.value
      return none
    | .mapping entries => return some entries
  return found.filterMap id

/-- Looks for faults in mappings, then in the mappings in them, and so on. -/
def checkAll : Nat → List Entries → Except Fault Unit
  | _, [] => .ok ()
  | 0, _ => .error .meaningless
  | depth + 1, mappings => do
    checkAll depth (← mappings.mapM (check (depth + 1))).flatten

/-- A number that is whole counts as that whole number, and truth as one. -/
def canonical : Json → Json
  | .bool b => .int (if b then 1 else 0)
  | .float x =>
    match (Binary.ofFloat x).truncate with
    | .ok n => if Float.ofInt n == x then .int n else .float x
    | .error _ => .float x
  | value => value

/-- A key with its value, and with the text by which the key is told from others. -/
structure Field where
  identity : String
  key : Json
  value : Json

def Field.of (key value : Json) : Field := ⟨(canonical key).write .oneLine, key, value⟩

/-- The fields with one more. A key that is there already stays as it is and takes the value. -/
def putField (field : Field) : List Field → List Field
  | [] => [field]
  | found :: rest =>
    if found.identity = field.identity then { found with value := field.value } :: rest
    else found :: putField field rest

/-- The name of a key. -/
def name : Json → String
  | .str text => text
  | key => key.write .oneLine

def object (entries : List (Json × Json)) : Json :=
  let distinct := entries.foldl (fun found (key, value) => putField (.of key value) found) []
  .obj (distinct.foldl (fun found field => Json.putField (name field.key) field.value found) [])

/-- The value of a node so deep at most. -/
def value : Nat → Node → Except Fault Json
  | _, .scalar text => text.value
  | 0, .mapping _ => .error .meaningless
  | depth + 1, .mapping entries => do
    let entries ← flat (depth + 1) entries
    return object (← entries.mapM fun (name, content) => do
      return (← name.key, ← value depth content))

end Node

/-- The document of a text: a mapping, a scalar, or null if there is nothing. -/
def read (text : String) : Except Fault Json := do
  match ← Node.ofExtract (.ofText text) with
  | none => return .null
  | some (.scalar text) => text.value
  | some (.mapping entries) =>
    Node.checkAll (Node.depthLimit + 1) [entries]
    Node.value (Node.depthLimit + 1) (.mapping entries)

end PatternDeck.Yaml
