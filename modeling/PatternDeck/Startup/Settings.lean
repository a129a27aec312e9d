import PatternDeck.Library.Store
import PatternDeck.Yaml.Reader

/-!
Settings: what a configuration says, and what holds when it says nothing.
-/
namespace PatternDeck.Startup

/-- Why the program cannot start. -/
inductive Fault where
  /-- The configuration cannot be opened. -/
  | file (fault : Folder.Fault)
  /-- The configuration cannot be read. -/
  | configuration (fault : Yaml.Fault)
  /-- Named settings were expected where the configuration has something else. -/
  | noSettings
  /-- The path of the library is no text. -/
  | pathUnusable
  | library (fault : Library.Fault)
  | refused (failure : Failure)

def Fault.message : Fault → String
  | file fault => fault.message
  | configuration fault => fault.message
  | noSettings => "the configuration has a value in the place of settings"
  | pathUnusable => "the library's path is no text"
  | library fault => fault.message
  | refused failure => failure.message

def configurationPath : String := "config.yaml"

/-- The configuration of a text. One with nothing in it has no settings. -/
def configurationOf (text : String) : Except Fault Json :=
  match Yaml.read text with
  | .error fault => .error (.configuration fault)
  | .ok document => .ok (if document.isVoid then .obj [] else document)

/-- The configuration that a path leads to. Without it there are no settings. -/
def readConfiguration (folder : Folder) (path : String) : Except Fault Json :=
  if folder.contains path then
    match folder.read path with
    | .ok text => configurationOf text
    | .error fault => .error (.file fault)
  else .ok (.obj [])

/-- Named settings. -/
abbrev Settings := List (String × Json)

namespace Settings

def ofDocument : Json → Except Fault Settings
  | .obj fields => .ok fields
  | _ => .error .noSettings

/-- The settings of one part of a configuration. -/
def ofPart (configuration : Json) (name : String) : Except Fault Settings := do
  match Json.field? (← ofDocument configuration) name with
  | some part => ofDocument part
  | none => return []

def get (settings : Settings) (name : String) (default : Json) : Json :=
  (Json.field? settings name).getD default

end Settings

end PatternDeck.Startup
