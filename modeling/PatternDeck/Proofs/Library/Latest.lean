import Mathlib.Data.List.Induction
import PatternDeck.Library.Store
import PatternDeck.Proofs.Bank

/-!
The latest slots. Of several slots with one id a library keeps the one that came last, so what is
looked up in the slots that it keeps is what came last of all.
-/
namespace PatternDeck.Library

variable {Text : Type} [Naming Text]

/-- The last slot that has an id. -/
def lastOf (id : Int) (slots : List (Slot Text)) : Option (Slot Text) :=
  (slots.filter (·.id == id)).getLast?

section LastOf

variable {id : Int} {slot : Slot Text} {slots more : List (Slot Text)}

theorem lastOf_append (id : Int) (slots more : List (Slot Text)) :
    lastOf id (slots ++ more) = (lastOf id more).or (lastOf id slots) := by
  rw [lastOf, List.filter_append, List.getLast?_append]
  rfl

theorem lastOf_singleton (id : Int) (slot : Slot Text) :
    lastOf id [slot] = if slot.id = id then some slot else none := by
  by_cases own : slot.id = id
  · simp [lastOf, own]
  · simp [lastOf, own]

theorem lastOf_cons (id : Int) (slot : Slot Text) (rest : List (Slot Text)) :
    lastOf id (slot :: rest) = (lastOf id rest).or (lastOf id [slot]) :=
  lastOf_append id [slot] rest

theorem lastOf_map {Other : Type} [Naming Other] (change : Slot Text → Slot Other)
    (kept : ∀ slot, (change slot).id = slot.id) (id : Int) (slots : List (Slot Text)) :
    lastOf id (slots.map change) = (lastOf id slots).map change := by
  have same : (fun slot => slot.id == id) ∘ change = fun slot : Slot Text => slot.id == id := by
    funext slot
    rw [Function.comp_apply, kept]
  rw [lastOf, List.filter_map, same, List.getLast?_map]
  rfl

theorem mem_of_lastOf (last : lastOf id slots = some slot) : slot ∈ slots ∧ slot.id = id := by
  have member := List.mem_of_getLast? last
  simpa using List.mem_filter.1 member

theorem isSome_lastOf : (lastOf id slots).isSome ↔ id ∈ slots.map (·.id) := by
  rw [← not_iff_not, Bool.not_eq_true, Option.isSome_eq_false_iff, Option.isNone_iff_eq_none, lastOf,
    List.getLast?_eq_none_iff, List.filter_eq_nil_iff]
  simp

/-- Where no two slots have one id, the last slot with an id is the only one. -/
theorem lastOf_eq_some_iff (distinct : (slots.map (·.id)).Nodup) :
    lastOf id slots = some slot ↔ slot ∈ slots ∧ slot.id = id := by
  constructor
  · exact mem_of_lastOf
  · rintro ⟨member, rfl⟩
    obtain ⟨other, last⟩ :=
      Option.isSome_iff_exists.1 (isSome_lastOf.2 (List.mem_map_of_mem member))
    obtain ⟨there, same⟩ := mem_of_lastOf last
    rw [last, List.inj_on_of_nodup_map distinct there member same]

/-- A bank of slots finds what is looked up in them. -/
theorem find?_of_ofSlots {slots : List Slot} {name version : Label} {bank : Bank}
    (taken : Bank.ofSlots slots name version = .ok bank) (id : Int) :
    bank.find? id = lastOf id slots := by
  have same := Bank.perm_of_ofSlots taken
  have distinct : (slots.map Slot.id).Nodup := (same.map Slot.id).nodup_iff.1 bank.nodup_ids
  ext slot
  rw [Bank.find?_eq_some_iff, lastOf_eq_some_iff distinct, same.mem_iff]

end LastOf

section Latest

variable {slot other : Slot Text} {slots : List (Slot Text)}

theorem mem_putSlot_iff (ordered : (slots.map (·.id)).Pairwise (· < ·)) :
    other ∈ putSlot slot slots ↔ other = slot ∨ other ∈ slots ∧ other.id ≠ slot.id := by
  induction slots with
  | nil => simp [putSlot]
  | cons first rest ih =>
    rw [List.map_cons, List.pairwise_cons] at ordered
    obtain ⟨least, ordered⟩ := ordered
    have above : ∀ later ∈ rest, first.id < later.id :=
      fun later there => least later.id (List.mem_map_of_mem there)
    rw [putSlot]
    split_ifs with before same
    -- every slot that is there has a greater id
    · have differ : other ∈ first :: rest → other.id ≠ slot.id := by
        intro there
        rcases List.mem_cons.1 there with rfl | later
        · omega
        · have := above other later
          omega
      simp only [List.mem_cons] at differ ⊢
      tauto
    · have differ : other ∈ rest → other.id ≠ slot.id := by
        intro later
        have := above other later
        omega
      have gone : other = first → ¬other.id ≠ slot.id := by
        rintro rfl
        simp [same]
      simp only [List.mem_cons]
      tauto
    · have differ : other = first → other.id ≠ slot.id := by
        rintro rfl
        exact Ne.symm same
      simp only [List.mem_cons, ih ordered]
      tauto

theorem ordered_putSlot (slot : Slot Text) (ordered : (slots.map (·.id)).Pairwise (· < ·)) :
    ((putSlot slot slots).map (·.id)).Pairwise (· < ·) := by
  induction slots with
  | nil => simp [putSlot]
  | cons first rest ih =>
    rw [List.map_cons, List.pairwise_cons] at ordered
    obtain ⟨least, ordered⟩ := ordered
    rw [putSlot]
    split_ifs with before same
    · simp only [List.map_cons, List.pairwise_cons]
      refine ⟨?_, least, ordered⟩
      intro id there
      rcases List.mem_cons.1 there with rfl | later
      · exact before
      · exact Int.lt_trans before (least id later)
    · simp only [List.map_cons, List.pairwise_cons]
      exact ⟨same ▸ least, ordered⟩
    · simp only [List.map_cons, List.pairwise_cons]
      refine ⟨?_, ih ordered⟩
      intro id there
      obtain ⟨later, member, rfl⟩ := List.mem_map.1 there
      rcases (mem_putSlot_iff ordered).1 member with rfl | ⟨member, -⟩
      · omega
      · exact least _ (List.mem_map_of_mem member)

theorem latest_concat (slots : List (Slot Text)) (slot : Slot Text) :
    latest (slots ++ [slot]) = putSlot slot (latest slots) := by
  rw [latest, List.foldl_append]
  rfl

theorem ordered_latest (slots : List (Slot Text)) : ((latest slots).map (·.id)).Pairwise (· < ·) := by
  -- slots are put in one by one, the last of them last
  induction slots using List.reverseRecOn with
  | nil => exact .nil
  | append_singleton slots slot ih =>
    rw [latest_concat]
    exact ordered_putSlot slot ih

theorem nodup_latest (slots : List (Slot Text)) : ((latest slots).map (·.id)).Nodup :=
  (ordered_latest slots).imp Int.ne_of_lt

theorem mem_latest_iff : slot ∈ latest slots ↔ lastOf slot.id slots = some slot := by
  induction slots using List.reverseRecOn with
  | nil => simp [latest, lastOf]
  | append_singleton slots next ih =>
    rw [latest_concat, mem_putSlot_iff (ordered_latest slots), ih, lastOf_append, lastOf_singleton]
    split_ifs with same
    · simp [same, eq_comm]
    · have differs : slot ≠ next := fun equal => same (equal ▸ rfl)
      simp [differs, Ne.symm same]

/-- Nothing that was looked up before is lost among the latest. -/
theorem lastOf_latest (id : Int) (slots : List (Slot Text)) :
    lastOf id (latest slots) = lastOf id slots := by
  ext slot
  rw [lastOf_eq_some_iff (nodup_latest slots), mem_latest_iff]
  constructor
  · rintro ⟨last, rfl⟩
    exact last
  · intro last
    obtain ⟨-, rfl⟩ := mem_of_lastOf last
    exact ⟨last, rfl⟩

end Latest

end PatternDeck.Library
