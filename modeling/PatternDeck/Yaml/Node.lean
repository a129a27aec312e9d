import PatternDeck.Yaml.Token

/-!
The nodes of a document: scalars, and mappings with an entry for each key. A key or value that is not
there is an empty scalar.
-/
namespace PatternDeck.Yaml

inductive Node where
  | scalar (scalar : Scalar)
  | mapping (entries : List (Node × Node))
  deriving Inhabited

abbrev Entries := List (Node × Node)

namespace Node

def empty : Node := .scalar ⟨false, ""⟩

/-- How deep mappings may be nested. -/
def depthLimit : Nat := 488

mutual

/-- The node at the head of some tokens, and the tokens after it. Each step takes one from the fuel and
at least one token, or goes on to a smaller part of the same; where the tokens end too early, what
ended them is the fault. No more than so many mappings may be nested. -/
def read (ending : Fault) : Nat → Nat → List Token → Except Fault (Node × List Token)
  | 0, _, _ | _, _, [] => .error ending
  | fuel + 1, depth, token :: rest =>
    match token, depth with
    | .scalar text, _ => .ok (.scalar text, rest)
    | .openMapping, 0 => .error .tooDeep
    | .openMapping, depth + 1 =>
      (entries ending fuel depth rest).map fun (found, rest) => (.mapping found, rest)
    | _, _ => .error .misplaced

/-- The node at the head, or the empty one if something of the mapping around it stands there. -/
def part (ending : Fault) : Nat → Nat → List Token → Except Fault (Node × List Token)
  | 0, _, _ => .error ending
  | fuel + 1, depth, tokens =>
    match tokens with
    | .key :: _ | .value :: _ | .closeMapping :: _ => .ok (.empty, tokens)
    | _ => read ending fuel depth tokens

/-- The entries up to the end of their mapping. -/
def entries (ending : Fault) : Nat → Nat → List Token → Except Fault (Entries × List Token)
  | 0, _, _ | _, _, [] => .error ending
  | fuel + 1, depth, token :: rest =>
    match token with
    | .closeMapping => .ok ([], rest)
    | .key => do
      let (key, rest) ← part ending fuel depth rest
      let (value, rest) ←
        match rest with
        | .value :: rest => part ending fuel depth rest
        | [] => .error ending
        | _ => .ok (.empty, rest)
      let (more, rest) ← entries ending fuel depth rest
      return ((key, value) :: more, rest)
    | _ => .error .misplaced

end

/-- The one node of a text, or none if there is nothing in it. -/
def ofExtract (extract : Extract) : Except Fault (Option Node) := do
  let (tokens, fault) := tokens extract
  if tokens.isEmpty && fault.isNone then return none
  match ← read (fault.getD .misplaced) (2 * tokens.length + 2) depthLimit tokens, fault with
  | (node, []), none => return some node
  | (_, []), some fault => throw fault
  | _, _ => throw .misplaced

end Node

end PatternDeck.Yaml
