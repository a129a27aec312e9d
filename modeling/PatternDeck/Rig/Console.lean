import PatternDeck.Json.Writer
import PatternDeck.Rig.World

/-!
The rig at a console: messages come in as lines, and what goes out is shown as lines.
-/
namespace PatternDeck.Rig.Console

/-- A message of a line: its address, and what follows the first space as one text. -/
def message (line : String) : String × List Osc.Argument :=
  let (address, rest) := line.toList.span (· != ' ')
  let argument := rest.drop 1
  (String.ofList address, if argument.isEmpty then [] else [.text (String.ofList argument)])

/-- A value on one line. -/
def shown (value : Json) : String := value.write .oneLine

def argumentShown : Osc.Argument → String
  | .text s => shown (.str s)
  | argument => argument.shown

def payloadShown : Osc.Payload → List String
  | .one argument => [argumentShown argument]
  | .many arguments => arguments.map argumentShown

/-- The words of a line for something done to the outside. -/
def words : Output → List String
  | .compile program => ["compile", shown (.str program)]
  | .refuse program => ["refuse", shown (.str program)]
  | .start program failed => [if failed then "start failed" else "start", shown (.str program)]
  | .stop program failed => [if failed then "stop failed" else "stop", shown (.str program)]
  | .hush failed => [if failed then "hush failed" else "hush"]
  | .save slot failed => [if failed then "save failed" else "save", intText slot.id]
  | .sender host port => ["send to", shown host, shown port]
  | .send message => message.address :: payloadShown message.payload
  | .sendFailed address => ["lost", address]
  | .openOutput port => ["open output", shown (.str port)]
  | .openInput port => ["open input", shown (.str port)]
  | .light light => ["light", intText light.note, intText light.color]
  | .closeOutput => ["close output"]
  | .closeInput => ["close input"]
  | .listen port => ["listen at", shown port]
  | .stopListening => ["stop listening"]
  | .awaitSignal name => ["await", name]

def line (output : Output) : String := " ".intercalate (words output)

end PatternDeck.Rig.Console
