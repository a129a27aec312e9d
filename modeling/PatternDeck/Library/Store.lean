import PatternDeck.Library.Record

/-!
Library files. A library is written beside its file first and then put in the file's place, so the
file holds the old library or the new one and nothing between. Saving a slot replaces its record and
keeps the others.
-/
namespace PatternDeck.Library

def load (folder : Folder) (path : String) : Except Fault (Library Label) :=
  match folder.read path with
  | .ok text => decode text
  | .error fault => .error (.file fault)

/-- Writes a library to a file. -/
def save (library : Library Label) (timestamp path : String) (folder : Folder) :
    Except Fault Unit × Folder :=
  let beside := path ++ ".tmp"
  match folder.write beside (library.encode timestamp) with
  | .error fault => (.error (.file fault), folder)
  | .ok written =>
    match written.move beside path with
    | .error fault => (.error (.file fault), written)
    | .ok folder => (.ok (), folder)

section Latest

variable {Text : Type} [Naming Text]

/-- The slots with one more, in the place of the one with its id or at its place by id. -/
def putSlot (slot : Slot Text) : List (Slot Text) → List (Slot Text)
  | [] => [slot]
  | first :: rest =>
    if slot.id < first.id then slot :: first :: rest
    else if slot.id = first.id then slot :: rest
    else first :: putSlot slot rest

/-- The last slot of each id, in the order of their ids. -/
def latest (slots : List (Slot Text)) : List (Slot Text) :=
  slots.foldl (fun found slot => putSlot slot found) []

end Latest

/-- A library file, and what a library is called that is new there. -/
structure Store where
  path : String
  name : Label := "Untitled"
  version : Label := "1.0.0"

namespace Store

def load (store : Store) (folder : Folder) : Except Fault (Library Label) :=
  Library.load folder store.path

/-- The library to which a slot is saved: the file's, or a new one. -/
def current (store : Store) (folder : Folder) : Except Fault (Library Label) :=
  if folder.contains store.path then store.load folder
  else .ok { name := store.name, version := store.version, slots := [] }

def saveSlot (store : Store) (slot : Slot Label) (timestamp : String) (folder : Folder) :
    Except Fault Unit × Folder :=
  match store.current folder with
  | .error fault => (.error fault, folder)
  | .ok library =>
    { library with slots := latest (library.slots ++ [slot]) }.save timestamp store.path folder

end Store

end PatternDeck.Library
