import PatternDeck.Json.Basic
import PatternDeck.Number.Literal
import PatternDeck.Text.Quoted
import PatternDeck.Text.UpperCase

/-!
Log levels, as a configuration names them.
-/
namespace PatternDeck.Startup

inductive LogLevel where
  | unset
  | debug
  | info
  | warning
  | error
  | critical
  deriving DecidableEq, Repr

namespace LogLevel

def number : LogLevel → Int
  | unset => 0
  | debug => 10
  | info => 20
  | warning => 30
  | error => 40
  | critical => 50

def names : List (String × LogLevel) :=
  [("NOTSET", unset), ("DEBUG", debug), ("INFO", info), ("WARNING", warning), ("WARN", warning),
   ("ERROR", error), ("CRITICAL", critical), ("FATAL", critical)]

/-- Why a setting is refused as a level. -/
inductive Refusal where
  /-- It names the layout of a line. -/
  | lineFormat
  /-- It names the styles in which a layout can be written. -/
  | styles
  /-- It has a number that is too long for a name. -/
  | tooManyDigits
  deriving DecidableEq, Repr

/-- Names that mean something else to the log than a level. -/
def misnomers : List (String × Refusal) :=
  [("BASIC_FORMAT", .lineFormat), ("_STYLES", .styles)]

/-- The layout of a line, whose name is refused as a level together with it. -/
def lineLayout : String := "%(levelname)s:%(name)s:%(message)s"

def Refusal.message : Refusal → String
  | .lineFormat => "Unknown level: " ++ Text.quoted lineLayout
  | .styles => "Level not an integer or a valid string"
  | .tooManyDigits => Literal.tooLongText

/-- The level of a name in any case. A setting that names nothing leaves the level as it is without
one. -/
def ofSetting (setting : Json) : Except Refusal LogLevel :=
  match setting with
  | .str name =>
    let name := String.ofList (name.toList.flatMap Text.upperCase)
    match names.lookup name, misnomers.lookup name with
    | some level, _ => .ok level
    | none, some refusal => .error refusal
    | none, none => .ok info
  | other => if other.wholes.any Literal.isTooLong then .error .tooManyDigits else .ok info

end LogLevel

end PatternDeck.Startup
