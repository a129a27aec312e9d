import PatternDeck.Number.Notation
import PatternDeck.Text.Word

/-!
Placeholders: a `$` and an identifier of ASCII letters, digits and underscores stand for a number.
They are found by one scan of the program, and filled in by one pass for each name.
-/
namespace PatternDeck.Program

def isNameStart (c : Char) : Bool := c.isAlpha || c == '_'

def isNamePart (c : Char) : Bool := c.isAlphanum || c == '_'

/-- The identifier at the head of a text, empty if there is none. -/
def nameAt : List Char → List Char
  | [] => []
  | c :: rest => if isNameStart c then c :: rest.takeWhile isNamePart else []

/-- The names of all placeholders, in the order in which they stand. No part of a name starts
another placeholder, so the scan need not pass over it. -/
def occurrences : List Char → List (List Char)
  | [] => []
  | c :: rest =>
    if c = '$' ∧ nameAt rest ≠ [] then nameAt rest :: occurrences rest else occurrences rest

/-- Each placeholder's name once, in the order in which they first stand. -/
def detectChars (s : List Char) : List (List Char) :=
  (occurrences s).eraseDups

def detect (program : String) : List String :=
  (detectChars program.toList).map String.ofList

/-- Whether a word ends, or starts, between a placeholder's last character and the text after it. -/
def boundary (name after : List Char) : Bool :=
  let last := name.getLast?.getD '$'
  Text.isWord last != (after.head?.map Text.isWord).getD false

/-- Whether a text continues with the given name and a boundary. -/
def namedHere (name rest : List Char) : Bool :=
  name.isPrefixOf rest && boundary name (rest.drop name.length)

/-- The text with a literal in the place of every placeholder of one name, after so many characters
that are passed over. -/
def fillFrom (name literal : List Char) : Nat → List Char → List Char
  | _, [] => []
  | skip + 1, _ :: rest => fillFrom name literal skip rest
  | 0, c :: rest =>
    if c = '$' ∧ namedHere name rest then literal ++ fillFrom name literal name.length rest
    else c :: fillFrom name literal 0 rest

def fill (name literal s : List Char) : List Char :=
  fillFrom name literal 0 s

/-- A number as a program writes it: a whole one without point and exponent. -/
def literalChars (value : Float) : List Char :=
  let exact := Binary.ofFloat value
  match exact.isWhole, exact.truncate with
  | true, .ok n => intDigits n
  | _, _ => exact.render .plain

def literal (value : Float) : String :=
  String.ofList (literalChars value)

/-- One pass for each name, in the order given, each over the result of the one before. -/
def injectChars (values : List (List Char × Float)) (s : List Char) : List Char :=
  values.foldl (fun s (name, value) => fill name (literalChars value) s) s

def inject (values : List (String × Float)) (program : String) : String :=
  String.ofList <|
    injectChars (values.map fun (name, value) => (name.toList, value)) program.toList

end PatternDeck.Program
