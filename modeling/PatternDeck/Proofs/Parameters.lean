import Mathlib.Tactic.SplitIfs
import PatternDeck.Binding

/-!
Merging: a parameter that is there stays as it is, and one that is not comes last. Refreshing twice
is therefore refreshing once, and the text that a slot plays hangs on names and values alone.
-/
namespace PatternDeck

namespace Parameters

variable (ps : Parameters)

theorem add_of_mem {p : Parameter} (taken : p.name ∈ ps.names) : ps.add p = ps := by
  simp [add, taken]

theorem toList_add_of_notMem {p : Parameter} (free : p.name ∉ ps.names) :
    (ps.add p).toList = ps.toList ++ [p] := by
  simp [add, free]

theorem mem_names_add (p : Parameter) (name : String) :
    name ∈ (ps.add p).names ↔ name ∈ ps.names ∨ name = p.name := by
  -- a name that is taken was among them before
  by_cases taken : p.name ∈ ps.names
  · rw [add_of_mem ps taken]
    constructor
    · exact Or.inl
    · rintro (there | rfl)
      · exact there
      · exact taken
  · simp [names, toList_add_of_notMem ps taken]

@[simp] theorem merge_nil : ps.merge [] = ps := rfl

@[simp] theorem merge_cons (name : String) (rest : List String) :
    ps.merge (name :: rest) = (ps.add (.fresh name)).merge rest := rfl

@[simp] theorem name_fresh (name : String) : (Parameter.fresh name).name = name := rfl

/-- A merge adds the names detected and no others. -/
theorem mem_names_merge (detected : List String) (name : String) :
    name ∈ (ps.merge detected).names ↔ name ∈ ps.names ∨ name ∈ detected := by
  induction detected generalizing ps with
  | nil => simp
  | cons first rest ih =>
    rw [merge_cons, ih, mem_names_add, name_fresh, List.mem_cons, or_assoc]

theorem toList_prefix_add (p : Parameter) : ps.toList <+: (ps.add p).toList := by
  by_cases taken : p.name ∈ ps.names
  · simp only [add_of_mem ps taken, List.prefix_refl]
  · simp only [toList_add_of_notMem ps taken, List.prefix_append]

theorem toList_prefix_merge (detected : List String) :
    ps.toList <+: (ps.merge detected).toList := by
  induction detected generalizing ps with
  | nil => exact List.prefix_refl _
  | cons name rest ih => exact (toList_prefix_add ps (.fresh name)).trans (ih _)

theorem merge_eq_self {detected : List String} (known : ∀ name ∈ detected, name ∈ ps.names) :
    ps.merge detected = ps := by
  induction detected with
  | nil => rfl
  | cons first rest ih =>
    rw [merge_cons, add_of_mem ps (known first List.mem_cons_self)]
    exact ih fun name there => known name (List.mem_cons_of_mem first there)

theorem merge_merge (detected : List String) :
    (ps.merge detected).merge detected = ps.merge detected :=
  merge_eq_self _ fun name there => (mem_names_merge ps detected name).2 (Or.inr there)

theorem names_eq_map_values : ps.names = ps.values.map (·.1) := by
  simp [names, values]

/-- Parameters with the same names and values still have them after a merge. -/
theorem values_merge_congr {ps qs : Parameters} (same : ps.values = qs.values)
    (detected : List String) : (ps.merge detected).values = (qs.merge detected).values := by
  induction detected generalizing ps qs with
  | nil => exact same
  | cons first rest ih =>
    rw [merge_cons, merge_cons]
    apply ih
    have names : ps.names = qs.names := by
      rw [names_eq_map_values, names_eq_map_values, same]
    -- the same names are taken in both, so both grow or neither does
    by_cases taken : first ∈ ps.names
    · rw [add_of_mem ps taken, add_of_mem qs (names ▸ taken), same]
    · have free : first ∉ qs.names := names ▸ taken
      simp only [values] at same ⊢
      rw [toList_add_of_notMem ps taken, toList_add_of_notMem qs free, List.map_append,
        List.map_append, same]

/-- Knobs do not show in a program. -/
theorem values_assigned (name : String) (knob : Option Int) :
    (Binding.assigned ps name knob).values = ps.values := by
  simp only [Binding.assigned, values, map, List.map_map]
  apply List.map_congr_left
  intro p _
  simp only [Function.comp_apply]
  split_ifs <;> rfl

end Parameters

namespace Slot

/-- The text that a slot plays: its code with the values of its parameters, of which those that are
missing are made up first. -/
def text (slot : Slot) : String :=
  Program.inject (slot.parameters.merge (Program.detect slot.code)).values slot.code

theorem resolved_refreshed (slot : Slot) : slot.refreshed.resolved = slot.text := rfl

theorem refreshed_refreshed (slot : Slot) : slot.refreshed.refreshed = slot.refreshed := by
  simp only [refreshed, Parameters.merge_merge]

theorem text_congr {slot other : Slot} (code : slot.code = other.code)
    (values : slot.parameters.values = other.parameters.values) : slot.text = other.text := by
  rw [text, text, code, Parameters.values_merge_congr values]

theorem text_refreshed (slot : Slot) : slot.refreshed.text = slot.text := by
  simp only [text, refreshed, Parameters.merge_merge]

end Slot

end PatternDeck
