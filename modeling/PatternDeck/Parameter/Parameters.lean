import PatternDeck.Parameter.Defaults

/-!
A slot's parameters: at most one for a name, in the order in which the names were first seen.
-/
namespace PatternDeck

structure Parameters (Name : Type := String) [Naming Name] where
  toList : List (Parameter Name)
  distinct : (toList.map fun p => Naming.key p.name).Nodup

namespace Parameters

section Naming

variable {Name : Type} [Naming Name]

def empty : Parameters Name := ⟨[], by simp⟩

instance : Inhabited (Parameters Name) := ⟨empty⟩

/-- Changes every parameter but its name. -/
def map (ps : Parameters Name) (change : Parameter Name → Parameter Name) : Parameters Name where
  toList := ps.toList.map fun p => { change p with name := p.name }
  distinct := by simpa [Function.comp_def] using ps.distinct

/-- The parameters with one more, in the place of the one with its name if there is one. -/
def putIn (p : Parameter Name) : List (Parameter Name) → List (Parameter Name)
  | [] => [p]
  | first :: rest =>
    if Naming.key first.name = Naming.key p.name then p :: rest else first :: putIn p rest

theorem keys_putIn (p : Parameter Name) (items : List (Parameter Name)) :
    (putIn p items).map (fun p => Naming.key p.name) =
      if Naming.key p.name ∈ items.map (fun p => Naming.key p.name) then
        items.map fun p => Naming.key p.name
      else items.map (fun p => Naming.key p.name) ++ [Naming.key p.name] := by
  induction items with
  | nil => simp [putIn]
  | cons first rest ih =>
    by_cases same : Naming.key first.name = Naming.key p.name
    · simp [putIn, same]
    · rw [putIn, if_neg same, List.map_cons, ih]
      by_cases taken : Naming.key p.name ∈ rest.map fun p => Naming.key p.name
      · simp [taken]
      · simp [taken, Ne.symm same]

def put (ps : Parameters Name) (p : Parameter Name) : Parameters Name where
  toList := putIn p ps.toList
  distinct := by
    rw [keys_putIn]
    split
    · exact ps.distinct
    next free => exact List.nodup_append.2 ⟨ps.distinct, by simp, by
        intro key there other last same
        exact free (List.mem_singleton.1 last ▸ same ▸ there)⟩

def ofList (ps : List (Parameter Name)) : Parameters Name := ps.foldl put empty

end Naming

def names (ps : Parameters) : List String := ps.toList.map (·.name)

def get? (ps : Parameters) (name : String) : Option Parameter :=
  ps.toList.find? (·.name == name)

/-- The first parameter that a knob drives. -/
def drivenBy? (ps : Parameters) (knob : Int) : Option Parameter :=
  ps.toList.find? (·.knob.isIndex knob)

/-- Changes the parameter of one name. -/
def modify (ps : Parameters) (name : String) (change : Parameter → Parameter) : Parameters :=
  ps.map fun p => if p.name = name then change p else p

/-- Adds a parameter at the end, unless its name is taken. -/
def add (ps : Parameters) (p : Parameter) : Parameters :=
  if taken : p.name ∈ ps.names then ps
  else
    { toList := ps.toList ++ [p]
      distinct := by
        have apart : ((ps.toList ++ [p]).map (·.name)).Nodup := by
          simp only [List.map_append, List.map_cons, List.map_nil]
          exact List.nodup_append.2 ⟨ps.distinct, by simp, by
            intro a here b there equal
            simp only [List.mem_singleton] at there
            exact taken (there ▸ equal ▸ here)⟩
        exact apart }

/-- The parameters with fresh ones for the names that have none. -/
def merge (ps : Parameters) (detected : List String) : Parameters :=
  detected.foldl (fun ps name => ps.add (.fresh name)) ps

/-- Each name with its value. -/
def values (ps : Parameters) : List (String × Float) :=
  ps.toList.map fun p => (p.name, p.value)

end Parameters

end PatternDeck
