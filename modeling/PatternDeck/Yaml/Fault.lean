import PatternDeck.Number.Literal
import PatternDeck.Text.Quoted

/-!
What can be wrong with a document.
-/
namespace PatternDeck.Yaml

inductive Fault where
  /-- A character that no document may hold. -/
  | unprintable
  /-- No token can begin, go on or end where it would. -/
  | badToken
  /-- The text ends between quotes. -/
  | unclosed
  /-- A token stands where another is needed. -/
  | misplaced
  /-- A part that stands for nothing in its place. -/
  | meaningless
  /-- A number in a base, without any digits. -/
  | noDigits (base : Nat)
  | tooManyDigits (count : Nat)
  /-- An escape names a number that no character has. -/
  | noCharacter
  /-- An escape names a number that is too large to look a character up by it. -/
  | tooLarge
  /-- Mappings are nested too deep. -/
  | tooDeep
  /-- A form of documents that is not read here: a list, braces, a tag and the like. -/
  | notRead
  deriving DecidableEq, Repr

def Fault.message : Fault → String
  | unprintable => "the document holds a character that cannot be printed"
  | badToken => "the document breaks off in the middle of something"
  | unclosed => "the document ends between quotes"
  | misplaced => "the document has something in the wrong place"
  | meaningless => "the document has a value that stands for nothing"
  | noDigits base =>
    "invalid literal for int() with base " ++ intText base ++ ": " ++ Text.quoted ""
  | tooManyDigits count => Literal.tooManyDigitsText count
  | noCharacter => "chr() arg not in range(0x110000)"
  | tooLarge => "the document has a number that is too large"
  | tooDeep => "the document is nested too deep"
  | notRead => "the document has a form that is not read"

end PatternDeck.Yaml
