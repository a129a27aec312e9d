import PatternDeck.Number.Notation
import PatternDeck.Text.Basic
import PatternDeck.Text.Quoted

/-!
The structure of a program: its brackets nest, and its strings and block comments end. The pattern
language itself belongs to the renderer; this check keeps from it what no program can be. Programs
played together are one program of the language: a `stack` of them.
-/
namespace PatternDeck.Program

inductive Bracket where
  | round
  | square
  | curly
  deriving DecidableEq, Repr

namespace Bracket

def opener : Bracket → Char
  | round => '('
  | square => '['
  | curly => '{'

def closer : Bracket → Char
  | round => ')'
  | square => ']'
  | curly => '}'

def ofOpener? (c : Char) : Option Bracket :=
  [round, square, curly].find? (·.opener == c)

def ofCloser? (c : Char) : Option Bracket :=
  [round, square, curly].find? (·.closer == c)

end Bracket

def isQuote (c : Char) : Bool :=
  c == '"' || c == '\'' || c == '`'

/-- What is wrong with a program's structure, and where, in characters from its start. -/
inductive Flaw where
  | blank
  | unterminatedComment (position : Nat)
  | unexpectedCloser (found : Bracket) (position : Nat)
  | wrongCloser (expected found : Bracket) (position : Nat)
  | unterminatedString (quote : Char) (position : Nat)
  | missingCloser (opened : Bracket) (position : Nat)
  deriving DecidableEq, Repr

namespace Flaw

def position : Flaw → Nat
  | blank => 0
  | unterminatedComment position => position
  | unexpectedCloser _ position => position
  | wrongCloser _ _ position => position
  | unterminatedString _ position => position
  | missingCloser _ position => position

private def shown (c : Char) : String := Text.quoted (String.singleton c)

def description : Flaw → String
  | blank => "Empty program"
  | unterminatedComment _ => "Unterminated comment"
  | unexpectedCloser found _ => "Unexpected " ++ shown found.closer
  | wrongCloser expected found _ =>
    "Expected " ++ shown expected.closer ++ " but found " ++ shown found.closer
  | unterminatedString quote _ => "Unterminated string starting with " ++ String.singleton quote
  | missingCloser opened _ => "Missing " ++ shown opened.closer ++ " for " ++ shown opened.opener

def message (flaw : Flaw) : String :=
  flaw.description ++ " at position " ++ intText flaw.position

end Flaw

/-- What the text before a place means for the character there. -/
inductive Mode where
  | code
  /-- Code that ends in a slash, which may start a comment. -/
  | slash
  | lineComment
  /-- Inside a block comment, with the place where it started. -/
  | blockComment (start : Nat)
  /-- Inside a block comment, after a star that may end it. -/
  | star (start : Nat)
  /-- Inside a string, with its quote and the place where it started. -/
  | string (quote : Char) (start : Nat)
  /-- Inside a string, after a backslash: the next character is plain. -/
  | escape (quote : Char) (start : Nat)
  deriving DecidableEq, Repr

/-- How far a text has been read. -/
structure Scan where
  mode : Mode := .code
  /-- The brackets opened and not yet closed, the innermost first, each with its place. -/
  opened : List (Bracket × Nat) := []
  position : Nat := 0
  deriving DecidableEq, Repr

namespace Scan

/-- The same scan one character on, in a mode. -/
def turn (scan : Scan) (mode : Mode) : Scan :=
  { scan with mode, position := scan.position + 1 }

/-- Reads one character of code. -/
def code (scan : Scan) (c : Char) : Except Flaw Scan :=
  if isQuote c then .ok (scan.turn (.string c scan.position))
  else
    match Bracket.ofOpener? c, Bracket.ofCloser? c, scan.opened with
    | some bracket, _, opened =>
      .ok { scan.turn .code with opened := (bracket, scan.position) :: opened }
    | none, none, _ => .ok (scan.turn (if c = '/' then .slash else .code))
    | none, some found, [] => .error (.unexpectedCloser found scan.position)
    | none, some found, (expected, _) :: rest =>
      if expected = found then .ok { scan.turn .code with opened := rest }
      else .error (.wrongCloser expected found scan.position)

/-- Reads one character. A line comment ends with its line or with the text. -/
def step (scan : Scan) (c : Char) : Except Flaw Scan :=
  match scan.mode with
  | .code => scan.code c
  | .slash =>
    if c = '/' then .ok (scan.turn .lineComment)
    else if c = '*' then .ok (scan.turn (.blockComment (scan.position - 1)))
    else scan.code c
  | .lineComment => .ok (scan.turn (if c = '\n' then .code else .lineComment))
  | .blockComment start => .ok (scan.turn (if c = '*' then .star start else .blockComment start))
  | .star start =>
    .ok (scan.turn (if c = '/' then .code else if c = '*' then .star start else .blockComment start))
  | .string quote start =>
    .ok (scan.turn
      (if c = '\\' then .escape quote start
       else if c = quote then .code
       else .string quote start))
  | .escape quote start => .ok (scan.turn (.string quote start))

def run (scan : Scan) (s : List Char) : Except Flaw Scan :=
  s.foldlM step scan

theorem run_append (scan : Scan) (s t : List Char) :
    scan.run (s ++ t) = scan.run s >>= fun scan => scan.run t :=
  List.foldlM_append

/-- What is wrong with a text that ends here. -/
def finish (scan : Scan) : Except Flaw Unit :=
  match scan.mode, scan.opened with
  | .blockComment start, _ | .star start, _ => .error (.unterminatedComment start)
  | .string quote start, _ | .escape quote start, _ => .error (.unterminatedString quote start)
  | _, (bracket, position) :: _ => .error (.missingCloser bracket position)
  | _, [] => .ok ()

end Scan

def checkChars (s : List Char) : Except Flaw Unit :=
  if s.all Text.isBlank then .error .blank else Scan.run {} s >>= Scan.finish

def check (program : String) : Except Flaw Unit :=
  checkChars program.toList

def stackText (programs : List String) : String :=
  "stack(" ++ ", ".intercalate programs ++ ")"

/-- One program that plays all of them. A single program stands for itself, and there is no program
that plays none. -/
def stack? : List String → Option String
  | [] => none
  | [program] => some program
  | programs => some (stackText programs)

end PatternDeck.Program
