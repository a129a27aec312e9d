import PatternDeck.Json.Basic
import PatternDeck.Number.Notation
import PatternDeck.Text.Quoted

/-!
Writing JSON. Every character outside printable ASCII is written by its UTF-16 units. A document
is laid out with two spaces for each level, or on one line.
-/
namespace PatternDeck.Json

def unicodeEscape (unit : Nat) : List Char :=
  '\\' :: 'u' :: Text.hex 4 unit

def escaped (c : Char) : List Char :=
  match c with
  | '"' => ['\\', '"']
  | '\\' => ['\\', '\\']
  | '\n' => ['\\', 'n']
  | '\r' => ['\\', 'r']
  | '\t' => ['\\', 't']
  | '\x08' => ['\\', 'b']
  | '\x0c' => ['\\', 'f']
  | _ =>
    let n := c.toNat
    if 32 ≤ n ∧ n < 127 then [c]
    else if n < 0x10000 then unicodeEscape n
    else
      unicodeEscape (0xd800 + (n - 0x10000) / 0x400)
        ++ unicodeEscape (0xdc00 + (n - 0x10000) % 0x400)

def stringText (s : String) : List Char :=
  '"' :: s.toList.flatMap escaped ++ ['"']

/-- Infinities and NaN are written as the words that the reader knows. -/
def layout : Layout :=
  { Layout.plain with infinity := "Infinity".toList, nan := "NaN".toList }

/-- How the items of an array or object are set apart. -/
inductive Style where
  | indented
  | oneLine
  deriving DecidableEq, Repr

/-- What stands before an item at a depth. -/
def Style.lead (depth : Nat) : Style → List Char
  | .indented => '\n' :: List.replicate (2 * depth) ' '
  | .oneLine => []

def enclosed (style : Style) (depth : Nat) (first last : Char) (items : List (List Char)) :
    List Char :=
  if items.isEmpty then [first, last]
  else
    let separator := if style = .oneLine then [',', ' '] else [',']
    first :: separator.intercalate (items.map (style.lead (depth + 1) ++ ·))
      ++ style.lead depth ++ [last]

mutual

def valueText (style : Style) (depth : Nat) : Json → List Char
  | .null => "null".toList
  | .bool true => "true".toList
  | .bool false => "false".toList
  | .int n => intDigits n
  | .float x => (Binary.ofFloat x).render layout
  | .str s => stringText s
  | .arr items => enclosed style depth '[' ']' (itemTexts style (depth + 1) items)
  | .obj fields => enclosed style depth '{' '}' (fieldTexts style (depth + 1) fields)

def itemTexts (style : Style) (depth : Nat) : List Json → List (List Char)
  | [] => []
  | item :: rest => valueText style depth item :: itemTexts style depth rest

def fieldTexts (style : Style) (depth : Nat) : List (String × Json) → List (List Char)
  | [] => []
  | (key, item) :: rest =>
    (stringText key ++ ':' :: ' ' :: valueText style depth item) :: fieldTexts style depth rest

end

def write (style : Style) (document : Json) : String :=
  String.ofList (valueText style 0 document)

end PatternDeck.Json
