import Mathlib.Data.List.Nodup
import PatternDeck.Proofs.Parameters

/-!
Looking parameters up. A name leads to at most one parameter, and no change of a slot's parameters
takes a name away or renames one, so a look-up after a change is the look-up before it, changed.
-/
namespace PatternDeck.Parameters

variable {ps : Parameters} {p q : Parameter} {name : String}

theorem eq_of_key_eq {Name : Type} [Naming Name] {ps : Parameters Name} {p q : Parameter Name}
    (here : p ∈ ps.toList) (there : q ∈ ps.toList)
    (same : Naming.key p.name = Naming.key q.name) : p = q :=
  List.inj_on_of_nodup_map ps.distinct here there same

theorem eq_of_name_eq (here : p ∈ ps.toList) (there : q ∈ ps.toList) (same : p.name = q.name) :
    p = q := eq_of_key_eq here there same

theorem get?_eq_some_iff : ps.get? name = some p ↔ p ∈ ps.toList ∧ p.name = name := by
  constructor
  · intro found
    exact ⟨List.mem_of_find?_eq_some found, by simpa using List.find?_some found⟩
  · rintro ⟨member, rfl⟩
    obtain ⟨q, found⟩ : ∃ q, ps.get? p.name = some q := by
      rw [← Option.isSome_iff_exists, get?, List.find?_isSome]
      exact ⟨p, member, by simp⟩
    have same : q.name = p.name := by simpa using List.find?_some found
    rw [found, eq_of_name_eq (List.mem_of_find?_eq_some found) member same]

theorem isSome_get? : (ps.get? name).isSome ↔ name ∈ ps.names := by
  simp [get?, names, List.find?_isSome]

theorem mem_names_of_get? (found : ps.get? name = some p) : p.name ∈ ps.names :=
  List.mem_map_of_mem (get?_eq_some_iff.1 found).1

theorem get?_eq_none_iff : ps.get? name = none ↔ name ∉ ps.names := by
  rw [← isSome_get?, Bool.not_eq_true, Option.isSome_eq_false_iff, Option.isNone_iff_eq_none]

@[simp] theorem names_map (ps : Parameters) (change : Parameter → Parameter) :
    (ps.map change).names = ps.names := by
  simp [names, map, Function.comp_def]

@[simp] theorem names_modify (ps : Parameters) (name : String) (change : Parameter → Parameter) :
    (ps.modify name change).names = ps.names := names_map ps _

@[simp] theorem names_assigned (ps : Parameters) (name : String) (knob : Option Int) :
    (Binding.assigned ps name knob).names = ps.names := names_map ps _

theorem mem_toList_map {change : Parameter → Parameter} :
    q ∈ (ps.map change).toList ↔ ∃ p ∈ ps.toList, { change p with name := p.name } = q :=
  List.mem_map

theorem get?_map (ps : Parameters) (change : Parameter → Parameter) (name : String) :
    (ps.map change).get? name = (ps.get? name).map fun p => { change p with name := p.name } := by
  simp only [get?, map, List.find?_map]
  rfl

/-- Parameters that come later hide none that is there. -/
theorem get?_of_grown {more : Parameters} (grown : ps.toList <+: more.toList)
    (found : ps.get? name = some p) : more.get? name = some p := by
  obtain ⟨member, named⟩ := get?_eq_some_iff.1 found
  exact get?_eq_some_iff.2 ⟨grown.subset member, named⟩

theorem names_prefix {more : Parameters} (grown : ps.toList <+: more.toList) :
    ps.names <+: more.names :=
  grown.map _

end PatternDeck.Parameters
