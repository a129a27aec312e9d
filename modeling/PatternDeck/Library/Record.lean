import PatternDeck.Folder
import PatternDeck.Json.Reader
import PatternDeck.Json.Writer
import PatternDeck.Slot

/-!
Libraries as documents: what a library file holds, and how slots are read from it and written to it.
A slot read from a file does not play. A file may hold other values in the place of a program's text
and of a parameter's name; such slots are read and written like all others, but they cannot be played.
-/
namespace PatternDeck

structure Library (Text : Type := String) [Naming Text] where
  name : Label
  version : Label
  slots : List (Slot Text)
  deriving Inhabited

/-! ### In a file and out of it -/

namespace Parameter

/-- The parameter as a file holds it. -/
def stored (p : Parameter) : Parameter Label := { p with name := p.name }

/-- The parameter that a file holds, if its name is a text. -/
def ofStored? (p : Parameter Label) : Option Parameter :=
  p.name.text?.map fun name => { p with name }

end Parameter

namespace Parameters

def stored (ps : Parameters) : Parameters Label where
  toList := ps.toList.map Parameter.stored
  distinct := by
    rw [List.map_map]
    refine List.pairwise_map.2 ((List.pairwise_map.1 ps.distinct).imp fun differ same => differ ?_)
    exact Json.Key.text.inj (Option.some.inj same)

def ofStored? (ps : Parameters Label) : Option Parameters :=
  (ps.toList.mapM Parameter.ofStored?).map .ofList

end Parameters

namespace Slot

def stored (slot : Slot) : Slot Label :=
  { slot with code := slot.code, parameters := slot.parameters.stored }

/-- The slot that a file holds, if all of its texts are texts. -/
def ofStored? (slot : Slot Label) : Option Slot := do
  return { slot with code := ← slot.code.text?, parameters := ← Parameters.ofStored? slot.parameters }

end Slot

namespace Library

def stored (library : Library) : Library Label :=
  { library with slots := library.slots.map Slot.stored }

def ofStored? (library : Library Label) : Option Library := do
  return { library with slots := ← library.slots.mapM Slot.ofStored? }

/-- Why a library could not be read or written. -/
inductive Fault where
  | notJson
  | tooManyDigits (count : Nat)
  | tooDeep
  | badFormat
  | badStructure
  | fieldMissing (key : String)
  /-- A value is of a kind that cannot stand in its place. -/
  | wrongKind
  /-- A slot is no object. -/
  | notARecord
  | notAFloat (text : String)
  | notAnInt (text : String)
  | refused (failure : Failure)
  /-- The library's file cannot be opened. -/
  | file (fault : Folder.Fault)

namespace Fault

/-- How much of a quoted text is shown that is no whole number. -/
def shownLimit : Nat := 200

def message : Fault → String
  | notJson => "Failed to load library file"
  | tooManyDigits count => Literal.tooManyDigitsText count
  | tooDeep => "nested too deep"
  | badFormat => "Invalid library file format"
  | badStructure => "Invalid library structure"
  | fieldMissing key => Text.quoted key
  | wrongKind => "wrong kind of value"
  | notARecord => "not an object"
  | notAFloat text => "could not convert string to float: " ++ Text.quoted text
  | notAnInt text =>
    "invalid literal for int() with base 10: " ++ ((Text.quoted text).take shownLimit).toString
  | refused failure => failure.message
  | file fault => fault.message

end Fault

/-- The double that a value stands for. -/
def float : Json → Except Fault Float
  | .int n =>
    match Binary.toFloat? n with
    | some x => .ok x
    | none => .error (.refused .tooLarge)
  | .float x => .ok x
  | .bool b => .ok (if b then 1 else 0)
  | .str s =>
    match Literal.float? s.toList with
    | some x => .ok x
    | none => .error (.notAFloat s)
  | _ => .error .wrongKind

/-- The whole number that a value stands for; a fraction is dropped. -/
def int : Json → Except Fault Int
  | .int n => .ok n
  | .float x =>
    match (Binary.ofFloat x).truncate with
    | .ok n => .ok n
    | .error .nan => .error (.refused .notANumber)
    | .error .infinite => .error (.refused .tooLarge)
  | .bool b => .ok (if b then 1 else 0)
  | .str s =>
    match Literal.int s.toList with
    | .ok n => .ok n
    | .error .malformed => .error (.notAnInt s)
    | .error (.tooManyDigits count) => .error (.tooManyDigits count)
  | _ => .error .wrongKind

def required (record : List (String × Json)) (key : String) : Except Fault Json :=
  match Json.field? record key with
  | some value => .ok value
  | none => .error (.fieldMissing key)

/-- A label that is empty when it is missing or void. -/
def labelOf (record : List (String × Json)) (key : String) : Label :=
  match Json.field? record key with
  | some value => if value.isVoid then "" else .ofJson value
  | none => ""

/-- Whether a parameter can be made under a name: it has to be told apart, and only a text can stand
in for a label. -/
def canName (name label : Label) : Bool :=
  name.toJson.key?.isSome && (!label.isVoid || name.text?.isSome)

def parameterOf : Json → Except Fault (Parameter Label)
  | .obj record => do
    let name := Label.ofJson (← required record "name")
    let value ← float (← required record "value")
    let lo ← float (← required record "minValue")
    let hi ← float (← required record "maxValue")
    let knob := Knob.ofJson ((Json.field? record "assignedKnob").getD .null)
    let label := labelOf record "displayName"
    match Range.of? lo hi with
    | some range => if canName name label then return .create name value range knob label
                    else throw .wrongKind
    | none => throw (.refused (.parameterRange name lo hi))
  | _ => .error .wrongKind

/-- The parameters of a record. What is void stands for none. -/
def parametersOf (value : Json) : Except Fault (Parameters Label) :=
  if value.isVoid then .ok .empty
  else
    match value with
    | .arr items => (items.mapM parameterOf).map .ofList
    | _ => .error .wrongKind

/-- A slot from its record. The first bad field decides the fault: the parameters come first, then
the id, the code and the color. -/
def slotOf : Json → Except Fault (Slot Label)
  | .obj record => do
    let parameters ← parametersOf ((Json.field? record "dynamicParameters").getD .null)
    let id ← int (← required record "id")
    let code := Label.ofJson (← required record "code")
    let name := (Json.field? record "name").map Label.ofJson |>.getD ""
    let color ← int ((Json.field? record "ledColor").getD (.int 0))
    return {
      id, code, name
      category := labelOf record "category"
      color, parameters
      modified := .ofJson ((Json.field? record "lastModified").getD .null) }
  | _ => .error .notARecord

/-- The version of the format, which is written and not insisted on. -/
def formatVersion : String := "1.0"

def ofDocument (document : Json) : Except Fault (Library Label) :=
  match document.get? "version", document.get? "library" with
  | some _, some (.obj record) =>
    match (Json.field? record "name").getD .null, Json.field? record "slots" with
    | name, some (.arr items) =>
      if name.isVoid then .error .badStructure
      else do
        let version := (Json.field? record "version").map Label.ofJson |>.getD "1.0.0"
        return { name := .ofJson name, version, slots := ← items.mapM slotOf }
    | _, _ => .error .badStructure
  | some _, some _ => .error .badStructure
  | _, _ => .error .badFormat

def decode (text : String) : Except Fault (Library Label) :=
  match Json.read text with
  | .ok document => ofDocument document
  | .error .malformed => .error .notJson
  | .error (.tooManyDigits count) => .error (.tooManyDigits count)
  | .error .tooDeep => .error .tooDeep

def parameterRecord (p : Parameter Label) : Json :=
  .obj
    [("name", p.name.toJson), ("value", .float p.value), ("minValue", .float p.range.lo),
     ("maxValue", .float p.range.hi), ("assignedKnob", p.knob.toJson),
     ("displayName", p.label.toJson)]

def slotRecord (slot : Slot Label) : Json :=
  .obj
    [("id", .int slot.id), ("code", slot.code.toJson), ("name", slot.name.toJson),
     ("category", slot.category.toJson), ("ledColor", .int slot.color),
     ("lastModified", slot.modified.toJson),
     ("dynamicParameters", .arr (slot.parameters.toList.map parameterRecord))]

/-- The document of a library, with the time at which it is written. -/
def toDocument (library : Library Label) (timestamp : String) : Json :=
  .obj
    [("version", .str formatVersion), ("timestamp", .str timestamp),
     ("library",
       .obj
        [("name", library.name.toJson), ("version", library.version.toJson),
         ("slots", .arr (library.slots.map slotRecord))])]

def encode (library : Library Label) (timestamp : String) : String :=
  (library.toDocument timestamp).write .indented

end Library

end PatternDeck
