import PatternDeck.Text.Basic

/-!
A folder of text files, and what paths lead to from it. A path goes up by `..`, stays by `.` and by
doubled slashes, and names a file by its last part. The folder holds no folders; those around it hold
nothing but what is put there.
-/
namespace PatternDeck

/-- The files by their paths, each in its shortest form, and their texts. -/
structure Folder where
  files : List (String × String) := []
  deriving Inhabited

namespace Folder

/-- Why a file cannot be opened or replaced. -/
inductive Fault where
  | missing
  /-- The path leads to a folder. -/
  | isFolder
  /-- The path goes on behind a file. -/
  | notAFolder
  | nameTooLong
  /-- The path holds a null character. -/
  | nullInside
  /-- A folder on the path to itself cannot be replaced. -/
  | inUse
  deriving DecidableEq, Repr

def Fault.message : Fault → String
  | missing => "no such file"
  | isFolder => "is a folder"
  | notAFolder => "not a folder"
  | nameTooLong => "name too long"
  | nullInside => "embedded null byte"
  | inUse => "in use"

/-- What a path leads to. -/
inductive Place where
  /-- The folder, or one around it. -/
  | folder
  /-- A file, there or not, by the shortest path to it. -/
  | file (path : String)
  deriving DecidableEq, Repr

/-- The most bytes of a path, and of a part of one. -/
def pathLimit : Nat := 4095

def nameLimit : Nat := 255

/-- The parts of a path between its slashes. -/
def parts : List Char → List (List Char)
  | [] => [[]]
  | c :: rest =>
    match c, parts rest with
    | '/', found => [] :: found
    | _, first :: more => (c :: first) :: more
    | _, [] => [[c]]

/-- The shortest path from the folder to one around that of a shortest path. Above the root there is
nothing. -/
def above (base : String) : String := if base = "/" then base else base ++ "../"

/-- Where the parts of a path lead from a folder, which is given by the shortest path to it. -/
def walk (folder : Folder) (base : String) : List String → Except Fault Place
  | [] => .ok .folder
  | part :: rest =>
    if part = "" ∨ part = "." then folder.walk base rest
    else if part = ".." then folder.walk (above base) rest
    else if nameLimit < part.utf8ByteSize then .error .nameTooLong
    else if rest.isEmpty then .ok (.file (base ++ part))
    else if (folder.files.lookup (base ++ part)).isSome then .error .notAFolder
    else .error .missing

/-- Where a path leads. -/
def locate (folder : Folder) (path : String) : Except Fault Place :=
  if '\x00' ∈ path.toList then .error .nullInside
  else if path = "" then .error .missing
  else if pathLimit < path.utf8ByteSize then .error .nameTooLong
  else
    folder.walk (if path.toList.head? = some '/' then "/" else "")
      ((parts path.toList).map String.ofList)

/-- The text of a file, with its line breaks unified. -/
def read (folder : Folder) (path : String) : Except Fault String := do
  match ← folder.locate path with
  | .folder => throw .isFolder
  | .file path =>
    match folder.files.lookup path with
    | some text => return String.ofList (Text.unifyBreaks text.toList)
    | none => throw .missing

/-- Whether a path leads to something that is there. -/
def contains (folder : Folder) (path : String) : Bool :=
  match folder.locate path with
  | .ok .folder => true
  | .ok (.file path) => (folder.files.lookup path).isSome
  | .error _ => false

def put (folder : Folder) (path text : String) : Folder :=
  ⟨folder.files.filter (·.1 != path) ++ [(path, text)]⟩

def remove (folder : Folder) (path : String) : Folder :=
  ⟨folder.files.filter (·.1 != path)⟩

/-- Writes a file, in the place of the one that is there. -/
def write (folder : Folder) (path text : String) : Except Fault Folder := do
  match ← folder.locate path with
  | .folder => throw .isFolder
  | .file path => return folder.put path text

/-- Puts one file in the place of another. -/
def move (folder : Folder) (source target : String) : Except Fault Folder := do
  match ← folder.locate source, ← folder.locate target with
  | .file source, .file target =>
    match folder.files.lookup source with
    | some text => return (folder.remove source).put target text
    | none => throw .missing
  | _, _ => throw .inUse

/-- The files in the folder itself, without those around it. -/
def inside (folder : Folder) : List (String × String) :=
  folder.files.filter fun (path, _) => '/' ∉ path.toList

end Folder

end PatternDeck
