import PatternDeck.Label
import PatternDeck.Number.Literal

/-!
Failures of operations. Each belongs to the one operation that met it and leaves the deck usable.
-/
namespace PatternDeck

/-- Slots stand on a grid of this many positions, numbered from zero. -/
def slotCount : Int := 40

/-- Knobs are numbered from zero. -/
def knobCount : Int := 8

inductive Failure where
  | slotMissing (slot : Int)
  | parameterMissing (slot : Int) (name : String) (available : List String)
  | entryMissing (name : String) (available : List String)
  /-- The renderer refused a program, or failed to start it. -/
  | rejected (message program : String)
  /-- Live code is for slots that play. -/
  | notPlaying (slot : Int)
  /-- The renderer refused live code by itself. -/
  | invalidCode (message program : String)
  | knobOutOfRange (knob : Int)
  | emptyRange (lo hi : Float)
  | parameterRange (name : Label) (lo hi : Float)
  | slotOutOfGrid (slot : Int)
  | slotTwice (slot : Int)
  | entryTwice (name : String)
  | entryWithoutPlaceholder (name : String)
  /-- NaN has no whole number near it. -/
  | notANumber
  /-- The number lies beyond all doubles, or beyond all whole numbers. -/
  | tooLarge
  /-- The number is too long to be written. -/
  | tooManyDigits
  /-- A controller's message names a channel that does not exist. -/
  | channelOutOfRange
  /-- A controller's message holds a number that does not fit into seven bits. -/
  | dataOutOfRange

namespace Failure

/-- What a failure says about the cause. -/
inductive Kind where
  | notFound
  | evaluation
  | validation
  | value
  | overflow
  deriving DecidableEq, Repr

def kind : Failure → Kind
  | slotMissing _ | parameterMissing .. | entryMissing .. => .notFound
  | rejected .. => .evaluation
  | notPlaying _ | invalidCode .. => .validation
  | tooLarge => .overflow
  | _ => .value

/-- Whether the failure belongs to the deck, and so is announced on its error channel. -/
def isOwn (failure : Failure) : Bool :=
  match failure.kind with
  | .notFound | .evaluation | .validation => true
  | .value | .overflow => false

/-- The program that a failure is about. -/
def program? : Failure → Option String
  | rejected _ program | invalidCode _ program => some program
  | _ => none

private def lastOf (count : Int) : String := intText (count - 1)

private def bounds (lo hi : Float) : String :=
  "min_value (" ++ floatText lo ++ ") must be less than max_value (" ++ floatText hi ++ ")"

def message : Failure → String
  | slotMissing slot => "Slot " ++ intText slot ++ " not found"
  | parameterMissing slot name available =>
    "Slot " ++ intText slot ++ " has no parameter " ++ Text.quoted name ++ ". Available: "
      ++ Text.quotedList available
  | entryMissing name available =>
    "Catalog has no parameter " ++ Text.quoted name ++ ". Available: " ++ Text.quotedList available
  | rejected message _ | invalidCode message _ => message
  | notPlaying slot =>
    "Slot " ++ intText slot ++ " is not playing; live code can only be applied to a playing slot"
  | knobOutOfRange knob =>
    "Control index " ++ intText knob ++ " out of range (0-" ++ lastOf knobCount ++ ")"
  | emptyRange lo hi => bounds lo hi
  | parameterRange name lo hi => "Parameter " ++ name.toJson.shown ++ ": " ++ bounds lo hi
  | slotOutOfGrid slot =>
    "Slot id " ++ intText slot ++ " out of range (0-" ++ lastOf slotCount ++ ")"
  | slotTwice slot => "Duplicate slot id " ++ intText slot
  | entryTwice name => "Duplicate catalog entry: " ++ Text.quoted name
  | entryWithoutPlaceholder name =>
    "Catalog entry " ++ Text.quoted name ++ " syntax must contain $" ++ name
  | notANumber => "cannot convert float NaN to integer"
  | tooLarge => "number too large"
  | tooManyDigits => Literal.tooLongText
  | channelOutOfRange => "channel must be in range 0..15"
  | dataOutOfRange => "data byte must be in range 0..127"

end Failure

end PatternDeck
