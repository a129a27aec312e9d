import PatternDeck.Yaml.Plain
import PatternDeck.Yaml.Quoted

/-!
The tokens of a document. A mapping opens where a key stands further to the right than those of the
mapping around it, and ends before the next token that does not. Only the colon behind a scalar tells
that it is a key, so the tokens from a scalar on are held back until it is known whether one comes.
-/
namespace PatternDeck.Yaml

/-- The text of a scalar. Between quotes it stands for itself. -/
structure Scalar where
  quoted : Bool
  text : String
  deriving DecidableEq, Repr

inductive Token where
  | openMapping
  | key
  | value
  | closeMapping
  | scalar (scalar : Scalar)
  /-- A mark that has no place in a document without lists and braces. -/
  | stray
  deriving DecidableEq, Repr

/-- A scalar that is a key if a colon follows it. -/
structure Candidate where
  spot : Spot
  /-- Whether nothing but a key may stand there. -/
  required : Bool
  /-- The tokens from the scalar on, the latest first. -/
  tokens : List Token := []

/-- Marks whose meaning the character behind them decides. -/
def openMarks : List Char := "-?:%@\x60\t".toList

/-- How far a key may lie from its colon. -/
def keyLimit : Nat := 1024

structure Lexer extends Extract where
  /-- The columns of the open mappings, the innermost first. -/
  columns : List Nat := []
  keyAllowed : Bool := true
  candidate : Option Candidate := none
  /-- The tokens before the candidate, the latest first. -/
  tokens : List Token := []

namespace Lexer

def put (token : Token) (lexer : Lexer) : Lexer :=
  match lexer.candidate with
  | some candidate =>
    { lexer with candidate := some { candidate with tokens := token :: candidate.tokens } }
  | none => { lexer with tokens := token :: lexer.tokens }

/-- The candidate is no key, which it must not be required to be. -/
def giveUp (lexer : Lexer) : Except Fault Lexer :=
  match lexer.candidate with
  | none => .ok lexer
  | some candidate =>
    if candidate.required then .error .badToken
    else .ok { lexer with candidate := none, tokens := candidate.tokens ++ lexer.tokens }

/-- A candidate is given up once its line has ended, or too many characters lie behind it. -/
def settle (lexer : Lexer) : Except Fault Lexer := do
  lexer.lookAhead 1
  match lexer.candidate with
  | some candidate =>
    let place := lexer.place
    if candidate.spot.line ≠ place.line ∨ candidate.spot.index + keyLimit < place.index then
      lexer.giveUp
    else return lexer
  | none => return lexer

/-- Closes the mappings that stand further to the right than a column. -/
def close (column : Nat) (lexer : Lexer) : Lexer :=
  let (inner, outer) := lexer.columns.span (column < ·)
  inner.foldl (fun lexer _ => lexer.put .closeMapping) { lexer with columns := outer }

/-- Opens a mapping at a column that lies to the right of the open ones. -/
def openAt (column : Nat) (lexer : Lexer) : Lexer :=
  if lexer.columns.head?.all (· < column) then
    { lexer with columns := column :: lexer.columns }.put .openMapping
  else lexer

/-- At the end of the text all mappings end. -/
def finish (lexer : Lexer) : Except Fault Lexer := do
  let lexer ← lexer.giveUp
  return { lexer with
    columns := []
    tokens := lexer.columns.map (fun _ => .closeMapping) ++ lexer.tokens }

/-- A scalar starts at a spot. It may be a key where one is allowed. -/
def nominate (spot : Spot) (lexer : Lexer) : Except Fault Lexer := do
  if lexer.keyAllowed then
    let lexer ← lexer.giveUp
    let required := lexer.columns.head? == some spot.column
    return { lexer with keyAllowed := false, candidate := some { spot, required } }
  else return lexer

/-- A question mark sets a key apart that may be longer than a line. -/
def readKey (spot : Spot) (rest : Source) (lexer : Lexer) : Except Fault Lexer := do
  if !lexer.keyAllowed then throw .badToken
  let lexer ← (lexer.openAt spot.column).giveUp
  return { lexer with source := rest }.put .key

/-- A colon makes the candidate a key. Without one it may stand where a key may. -/
def readValue (spot : Spot) (rest : Source) (lexer : Lexer) : Except Fault Lexer := do
  match lexer.candidate with
  | some candidate =>
    let before := ({ lexer with candidate := none }.openAt candidate.spot.column).put .key
    return { before with
      source := rest
      keyAllowed := false
      tokens := .value :: candidate.tokens ++ before.tokens }
  | none =>
    if !lexer.keyAllowed then throw .badToken
    return { lexer.openAt spot.column with source := rest }.put .value

def readQuoted (spot : Spot) (rest : Source) (lexer : Lexer) : Except Fault Lexer := do
  let lexer ← lexer.nominate spot
  match quoted rest with
  | .ok (text, rest) => return { lexer with source := rest }.put (.scalar ⟨true, text⟩)
  | .error .unclosed => throw (if lexer.whole then .unclosed else .unprintable)
  | .error fault => throw fault

/-- A plain scalar stands to the right of the keys of its mapping. After its last line a key may
stand. Behind it are looked at: what follows a colon, and the head of a line, where documents might be
set apart. -/
def readPlain (spot : Spot) (lexer : Lexer) : Except Fault Lexer := do
  let lexer ← lexer.nominate spot
  let found := plainScalar (lexer.columns.head?.elim 0 (· + 1)) lexer.source
  let lexer := { lexer with source := found.rest, keyAllowed := found.lineEnds }
  if found.rest.head?.any (·.char == ':') then lexer.lookAhead 2
  if found.lineEnds then lexer.lookAhead (Source.separatorWidth - lexer.place.column)
  return lexer.put (.scalar ⟨false, String.ofList found.text⟩)

def readStray (rest : Source) (lexer : Lexer) : Except Fault Lexer := do
  return { ← lexer.giveUp with source := rest }.put .stray

/-- Reads what a spot starts. What some marks stand for depends on the character behind them. -/
def readFrom (spot : Spot) (rest : Source) (lexer : Lexer) : Except Fault Lexer := do
  if spot.char ∈ openMarks then lexer.lookAhead 2
  let lexer := lexer.close spot.column
  let atGap := Source.atGap rest
  match spot.char with
  | '"' => lexer.readQuoted spot rest
  | '?' => if atGap then lexer.readKey spot rest else lexer.readPlain spot
  | ':' => if atGap then lexer.readValue spot rest else lexer.readPlain spot
  | ']' | '}' | ',' => lexer.readStray rest
  | '-' =>
    if !atGap then lexer.readPlain spot
    else if lexer.keyAllowed then .error .notRead
    else .error .badToken
  | '[' | '{' | '&' | '*' | '!' | '|' | '>' | '\x27' => .error .notRead
  | '%' => if spot.column = 0 then .error .notRead else .error .badToken
  | _ => if startsPlain lexer.source then lexer.readPlain spot else .error .badToken

/-- Reads the next token, or none at the end. -/
def step (lexer : Lexer) : Except Fault (Lexer × Bool) := do
  let (newLine, source) := lexer.source.skip false
  let lexer ← { lexer with source, keyAllowed := lexer.keyAllowed || newLine }.settle
  match lexer.source with
  | [] => return (← lexer.finish, false)
  | spot :: rest =>
    if spot.column = 0 ∧ spot.char ∈ Source.separatorMarks then lexer.lookAhead Source.separatorWidth
    if lexer.source.atSeparator then
      lexer.lookAhead (Source.separatorWidth + 1)
      throw .notRead
    return (← (← lexer.readFrom spot rest).settle, true)

/-- The tokens up to the end or to a fault. What is held back at a fault is not given out. Each step
takes one from the fuel and at least one character. -/
def run : Nat → Lexer → List Token × Option Fault
  | 0, lexer => (lexer.tokens.reverse, none)
  | fuel + 1, lexer =>
    match lexer.step with
    | .error fault => (lexer.tokens.reverse, some fault)
    | .ok (next, true) => run fuel next
    | .ok (next, false) => (next.tokens.reverse, none)

end Lexer

/-- The tokens of what can be read, and what ends them if it is not the end of the text. -/
def tokens (extract : Extract) : List Token × Option Fault :=
  Lexer.run (extract.source.length + 1) { toExtract := extract }

end PatternDeck.Yaml
