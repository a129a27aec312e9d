import PatternDeck.Failure
import PatternDeck.Parameter.Defaults

/-!
The catalog: well-known parameters, each with a fragment of code that makes a program use it.
-/
namespace PatternDeck

namespace Catalog

structure Entry where
  /-- The placeholder's identifier. -/
  name : String
  label : String
  category : String
  lo : Float
  hi : Float
  default : Float
  description : String
  /-- The code that is put after a program. -/
  fragment : String
  deriving Inhabited

/-- Whether the fragment holds the entry's name after a `$`. -/
def Entry.isUsable (entry : Entry) : Bool :=
  Text.occursIn ('$' :: entry.name.toList) entry.fragment.toList

end Catalog

open Catalog

structure Catalog where
  entries : List Entry
  distinct : (entries.map (·.name)).Nodup
  usable : ∀ entry ∈ entries, entry.isUsable

namespace Catalog

def empty : Catalog := ⟨[], by simp, by simp⟩

instance : Inhabited Catalog := ⟨empty⟩

def names (catalog : Catalog) : List String := catalog.entries.map (·.name)

/-- Puts an entry at the end. -/
def add (catalog : Catalog) (entry : Entry) : Except Failure Catalog :=
  if taken : entry.name ∈ catalog.names then .error (.entryTwice entry.name)
  else if usable : entry.isUsable then
    .ok
      { entries := catalog.entries ++ [entry]
        distinct := by
          simp only [List.map_append, List.map_cons, List.map_nil]
          exact List.nodup_append.2 ⟨catalog.distinct, by simp, by
            intro a here b there equal
            simp only [List.mem_singleton] at there
            exact taken (there ▸ equal ▸ here)⟩
        usable := by
          intro other member
          rcases List.mem_append.1 member with there | there
          · exact catalog.usable other there
          · rw [List.mem_singleton.1 there]
            exact usable }
  else .error (.entryWithoutPlaceholder entry.name)

def ofEntries (entries : List Entry) : Except Failure Catalog :=
  entries.foldlM add empty

def find? (catalog : Catalog) (name : String) : Option Entry :=
  catalog.entries.find? (·.name == name)

def get (catalog : Catalog) (name : String) : Except Failure Entry :=
  match catalog.find? name with
  | some entry => .ok entry
  | none => .error (.entryMissing name catalog.names)

def inCategory (catalog : Catalog) (category : String) : List Entry :=
  catalog.entries.filter (·.category == category)

/-- Each category once, in alphabetical order. -/
def categories (catalog : Catalog) : List String :=
  (catalog.entries.map (·.category)).eraseDups.mergeSort fun a b => decide (a ≤ b)

end Catalog

end PatternDeck
