import PatternDeck.Slot

/-!
The bank: the slots of one library, each at a grid position of its own.
-/
namespace PatternDeck

structure Bank (Text : Type := String) [Naming Text] where
  slots : List (Slot Text)
  name : Label
  version : Label
  /-- Slots stand in the order of their ids, and no two have one id. -/
  ordered : (slots.map (·.id)).Pairwise (· < ·)
  onGrid : ∀ id ∈ slots.map (·.id), 0 ≤ id ∧ id < slotCount

namespace Bank

section Filling

variable {Text : Type} [Naming Text]

def empty (name version : Label) : Bank Text :=
  { slots := [], name, version, ordered := .nil, onGrid := by simp }

instance : Inhabited (Bank Text) := ⟨empty "" ""⟩

def ids (bank : Bank Text) : List Int := bank.slots.map (·.id)

/-- The slots with one more, before the first with a greater id. -/
def insertOrdered (slot : Slot Text) : List (Slot Text) → List (Slot Text)
  | [] => [slot]
  | first :: rest =>
    if slot.id < first.id then slot :: first :: rest else first :: insertOrdered slot rest

theorem mem_insertOrdered {slot other : Slot Text} {slots : List (Slot Text)} :
    other ∈ insertOrdered slot slots ↔ other = slot ∨ other ∈ slots := by
  induction slots with
  | nil => simp [insertOrdered]
  | cons first rest ih =>
    by_cases before : slot.id < first.id
    · simp [insertOrdered, before]
    · simp only [insertOrdered, before, if_false, List.mem_cons, ih]
      exact or_left_comm

theorem insertOrdered_ordered {slot : Slot Text} {slots : List (Slot Text)}
    (ordered : (slots.map (·.id)).Pairwise (· < ·)) (fresh : slot.id ∉ slots.map (·.id)) :
    ((insertOrdered slot slots).map (·.id)).Pairwise (· < ·) := by
  induction slots with
  | nil => simp [insertOrdered]
  | cons first rest ih =>
    simp only [List.map_cons, List.mem_cons, not_or] at fresh
    simp only [List.map_cons, List.pairwise_cons] at ordered
    by_cases before : slot.id < first.id
    · simp only [insertOrdered, before, if_true, List.map_cons, List.pairwise_cons]
      refine ⟨fun id member => ?_, ordered⟩
      rcases List.mem_cons.1 member with rfl | member
      · exact before
      · exact Int.lt_trans before (ordered.1 id member)
    · simp only [insertOrdered, before, if_false, List.map_cons, List.pairwise_cons]
      refine ⟨fun id member => ?_, ih ordered.2 fresh.2⟩
      obtain ⟨other, there, rfl⟩ := List.mem_map.1 member
      rcases mem_insertOrdered.1 there with rfl | there
      · have : other.id ≠ first.id := fresh.1
        omega
      · exact ordered.1 _ (List.mem_map_of_mem there)

/-- Puts a slot at its place, which must be on the grid and free. -/
def insert (bank : Bank Text) (slot : Slot Text) : Except Failure (Bank Text) :=
  if place : 0 ≤ slot.id ∧ slot.id < slotCount then
    if taken : slot.id ∈ bank.ids then .error (.slotTwice slot.id)
    else
      .ok
        { bank with
          slots := insertOrdered slot bank.slots
          ordered := insertOrdered_ordered bank.ordered taken
          onGrid := by
            intro id member
            obtain ⟨other, there, rfl⟩ := List.mem_map.1 member
            rcases mem_insertOrdered.1 there with rfl | there
            · exact place
            · exact bank.onGrid _ (List.mem_map_of_mem there) }
  else .error (.slotOutOfGrid slot.id)

/-- A bank of the given slots. -/
def ofSlots (slots : List (Slot Text)) (name version : Label) : Except Failure (Bank Text) :=
  slots.foldlM insert (empty name version)

/-- A bank of other slots, which keeps the name and version that are not given. -/
def replaced (bank : Bank Text) (slots : List (Slot Text)) (name version : Option Label) :
    Except Failure (Bank Text) :=
  ofSlots slots (name.getD bank.name) (version.getD bank.version)

end Filling

def find? (bank : Bank) (id : Int) : Option Slot :=
  bank.slots.find? (·.id == id)

def get (bank : Bank) (id : Int) : Except Failure Slot :=
  match bank.find? id with
  | some slot => .ok slot
  | none => .error (.slotMissing id)

def playing (bank : Bank) : List Slot := bank.slots.filter (·.playing)

/-- Changes every slot but its id. -/
def map (bank : Bank) (change : Slot → Slot) : Bank :=
  { bank with
    slots := bank.slots.map fun slot => { change slot with id := slot.id }
    ordered := by simpa [Function.comp_def] using bank.ordered
    onGrid := by simpa [Function.comp_def] using bank.onGrid }

/-- Changes the slot of one id. -/
def modify (bank : Bank) (id : Int) (change : Slot → Slot) : Bank :=
  bank.map fun slot => if slot.id = id then change slot else slot

end Bank

end PatternDeck
