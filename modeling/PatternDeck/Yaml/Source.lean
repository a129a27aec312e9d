import PatternDeck.Text.Basic
import PatternDeck.Yaml.Fault

/-!
The source of a document: its characters, each with its place. A document is read by columns, and a
key has to stand on one line with its colon, so places matter and not characters alone.

A text is taken in by blocks. A character that no document may hold spoils its block, which shows only
when the reading comes to it: what is wrong before that is told first.
-/
namespace PatternDeck.Yaml

/-- Whether a document may hold a character. -/
def isPrintable (c : Char) : Bool :=
  let n := c.toNat
  n = 0x9 || n = 0xa || n = 0xd || n = 0x85 || 0x20 ≤ n && n ≤ 0x7e
    || 0xa0 ≤ n && n ≤ 0xd7ff || 0xe000 ≤ n && n ≤ 0xfffd || 0x10000 ≤ n

/-- The two separators of lines and paragraphs are kept where a line feed would count as a space. -/
def isBreak (c : Char) : Bool := c == '\n' || c == '\u2028' || c == '\u2029'

def isBlank (c : Char) : Bool := c == ' ' || c == '\t'

/-- The mark of the order of bytes, which takes no column. -/
def orderMark : Char := '\ufeff'

/-- A place in a text. -/
structure Place where
  index : Nat := 0
  line : Nat := 0
  column : Nat := 0
  deriving DecidableEq, Repr

/-- The place behind a character. -/
def Place.after (place : Place) (c : Char) : Place :=
  if isBreak c then { index := place.index + 1, line := place.line + 1, column := 0 }
  else
    { place with
      index := place.index + 1
      column := if c = orderMark then place.column else place.column + 1 }

/-- A character with its place. -/
structure Spot extends Place where
  char : Char

abbrev Source := List Spot

/-- How many characters of a text are taken in at first. -/
def firstBlock : Nat := 8192

/-- How many more are taken in at a time. -/
def nextBlock : Nat := 4096

/-- How many characters of a text can be read: those before the block that a character spoils. -/
def readable (s : List Char) : Nat :=
  let sound := (s.takeWhile isPrintable).length
  if sound = s.length then sound
  else if sound < firstBlock then 0
  else firstBlock + (sound - firstBlock) / nextBlock * nextBlock

/-- What of a text can be read. -/
structure Extract where
  source : Source
  /-- The place behind the source. -/
  stop : Place
  /-- Whether the text ends there. -/
  whole : Bool

namespace Source

/-- The characters with their places, from a place on. -/
def ofChars (place : Place) : List Char → Source
  | [] => []
  | c :: rest => { place with char := c } :: ofChars (place.after c) rest

def text (s : Source) : List Char := s.map (·.char)

/-- Whether a blank, a line break or the end stands here. -/
def atGap (s : Source) : Bool := s.head?.all fun spot => isBlank spot.char || isBreak spot.char

def atBreak (s : Source) : Bool := s.head?.any fun spot => isBreak spot.char

/-- The marks, of which three in a line set documents apart. -/
def separatorMarks : List Char := ['-', '.']

def separatorWidth : Nat := 3

/-- Whether a line that sets documents apart stands here. -/
def atSeparator : Source → Bool
  | a :: b :: c :: rest =>
    a.column == 0 && a.char == b.char && b.char == c.char && a.char ∈ separatorMarks && atGap rest
  | _ => false

/-- The line breaks among the blanks at the head of a source, and the rest of it. -/
def breaks (blank : Char → Bool) : Source → List Char × Source
  | [] => ([], [])
  | spot :: rest =>
    if blank spot.char then breaks blank rest
    else if isBreak spot.char then
      let (more, after) := breaks blank rest
      (spot.char :: more, after)
    else ([], spot :: rest)

/-- The rest of a source after spaces, comments and line breaks, and whether it is on a line of its
own. -/
def skip (comment : Bool) : Source → Bool × Source
  | [] => (false, [])
  | spot :: rest =>
    if isBreak spot.char then (true, (skip false rest).2)
    else if comment || spot.char == ' ' then skip comment rest
    else if spot.char == '#' then skip true rest
    else (false, spot :: rest)

end Source

namespace Extract

/-- What of a text can be read, with one character for each way to end a line. A mark of the order of
bytes may stand before everything. -/
def ofText (text : String) : Extract :=
  let s := Text.unifyBreaks text.toList
  let kept := s.take (readable s)
  let chars := (if kept.head? = some orderMark then kept.drop 1 else kept).map fun c =>
    if c = '\u0085' then '\n' else c
  { source := Source.ofChars {} chars
    stop := chars.foldl Place.after {}
    whole := readable s = s.length }

/-- The place of the next character, or the one behind all. -/
def place (extract : Extract) : Place := extract.source.head?.elim extract.stop (·.toPlace)

/-- Looks so many characters ahead, which must be there if the text does not end before. -/
def lookAhead (count : Nat) (extract : Extract) : Except Fault Unit :=
  if extract.whole || count ≤ extract.source.length then .ok () else .error .unprintable

end Extract

/-- What line breaks in a scalar stand for: a lone line feed for a space, the first of several for
nothing. -/
def folded : List Char → List Char
  | ['\n'] => [' ']
  | '\n' :: more => more
  | breaks => breaks

end PatternDeck.Yaml
