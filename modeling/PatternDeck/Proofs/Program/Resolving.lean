import PatternDeck.Proofs.Parameters
import PatternDeck.Proofs.Program.Spacing

/-!
Resolving: a program is filled in by parameters that are merged with its placeholders. Every
placeholder has a pass then, but not every pass meets its placeholder. Programs whose placeholders
stand apart are filled in whatever the parameters; of every other program some parameters leave a
placeholder.
-/
namespace PatternDeck.Program

/-- Parameters that are named like placeholders and have finite values. -/
def Writable (ps : Parameters) : Prop :=
  ∀ p ∈ ps.toList, IsName p.name.toList ∧ p.value.isFinite = true

/-- The passes that fill in a program by parameters. -/
def passes (ps : Parameters) : List (List Char × Float) :=
  ps.toList.map fun p => (p.name.toList, p.value)

/-- A program filled in by parameters, those that it lacks made up first. -/
def resolve (existing : Parameters) (code : String) : String :=
  inject (existing.merge (detect code)).values code

variable {ps : Parameters} {code : String} {s t : List Char}

theorem proper_passes (writable : Writable ps) : Proper (passes ps) := by
  intro p there
  obtain ⟨q, member, rfl⟩ := List.mem_map.1 there
  exact writable q member

theorem finite_fresh (name : String) : (Parameter.fresh name).value.isFinite = true := by
  have rules : ∀ rule ∈ rangeRules, (rule.range.clamp rule.range.middle).isFinite = true := by
    decide +kernel
  have unit : (Range.unit.clamp Range.unit.middle).isFinite = true := by decide +kernel
  simp only [Parameter.fresh, Parameter.create, defaultRange]
  split
  next rule found => exact rules rule (List.mem_of_find?_eq_some found)
  next => exact unit

theorem writable_merge (writable : Writable ps) {detected : List String}
    (names : ∀ name ∈ detected, IsName name.toList) : Writable (ps.merge detected) := by
  induction detected generalizing ps with
  | nil => exact writable
  | cons name rest ih =>
    obtain ⟨isName, others⟩ := List.forall_mem_cons.1 names
    rw [Parameters.merge_cons]
    refine ih ?_ others
    by_cases taken : (Parameter.fresh name).name ∈ ps.names
    · rw [Parameters.add_of_mem ps taken]
      exact writable
    · intro p there
      rw [Parameters.toList_add_of_notMem ps taken, List.mem_append, List.mem_singleton] at there
      rcases there with there | rfl
      · exact writable p there
      · exact ⟨isName, finite_fresh name⟩

theorem mem_occurrences_iff {name : List Char} :
    name ∈ occurrences s ↔ ∃ t, '$' :: t <:+ s ∧ nameAt t ≠ [] ∧ name = nameAt t := by
  induction s with
  | nil => simp [occurrences]
  | cons c rest ih =>
    simp only [List.suffix_cons_iff, List.cons.injEq]
    by_cases mark : c = '$' ∧ nameAt rest ≠ []
    · obtain ⟨rfl, some⟩ := mark
      simp only [occurrences, some, ne_eq, not_false_eq_true, and_self, if_true, List.mem_cons, ih]
      constructor
      · rintro (rfl | ⟨t, later, found⟩)
        · exact ⟨rest, .inl ⟨trivial, rfl⟩, some, rfl⟩
        · exact ⟨t, .inr later, found⟩
      · rintro ⟨t, ⟨-, rfl⟩ | later, found⟩
        · exact .inl found.2
        · exact .inr ⟨t, later, found⟩
    · rw [occurrences, if_neg mark, ih]
      constructor
      · rintro ⟨t, later, found⟩
        exact ⟨t, .inr later, found⟩
      · rintro ⟨t, ⟨rfl, rfl⟩ | later, found⟩
        · exact absurd ⟨rfl, found.1⟩ mark
        · exact ⟨t, later, found⟩

theorem mem_detect_iff {name : String} :
    name ∈ detect code ↔
      ∃ t, '$' :: t <:+ code.toList ∧ nameAt t ≠ [] ∧ name.toList = nameAt t := by
  simp only [detect, detectChars, List.mem_map, List.mem_eraseDups, ← mem_occurrences_iff]
  constructor
  · rintro ⟨chars, there, rfl⟩
    rwa [String.toList_ofList]
  · intro there
    exact ⟨name.toList, there, String.ofList_toList⟩

theorem detect_eq_nil_iff : detect code = [] ↔ occurrences code.toList = [] := by
  rw [detect, List.map_eq_nil_iff, detectChars]
  constructor
  · intro none
    rw [List.eq_nil_iff_forall_not_mem] at none ⊢
    exact fun name there => none name (List.mem_eraseDups.2 there)
  · intro none
    rw [none]
    rfl

theorem proper_merge (writable : Writable ps) (code : String) :
    Proper (passes (ps.merge (detect code))) := by
  refine proper_passes (writable_merge writable fun name there => ?_)
  obtain ⟨t, -, some, equal⟩ := mem_detect_iff.1 there
  exact equal ▸ isName_nameAt some

theorem detect_resolve_eq_nil_iff (writable : Writable ps) :
    detect (resolve ps code) = [] ↔
      ∀ t, '$' :: t <:+ code.toList → nameAt t ≠ [] → Met (passes (ps.merge (detect code))) t := by
  rw [detect_eq_nil_iff, ← occurrences_injectChars_eq_nil_iff (proper_merge writable code), resolve,
    inject, String.toList_ofList, Parameters.values, List.map_map]
  rfl

/-- Every placeholder of a program has a pass. -/
theorem known_of_suffix (ps : Parameters) (mark : '$' :: t <:+ code.toList) (some : nameAt t ≠ []) :
    nameAt t ∈ (passes (ps.merge (detect code))).map (·.1) := by
  have detected : String.ofList (nameAt t) ∈ detect code :=
    mem_detect_iff.2 ⟨t, mark, some, String.toList_ofList⟩
  have known := (Parameters.mem_names_merge ps (detect code) _).2 (.inr detected)
  obtain ⟨p, there, name⟩ := List.mem_map.1 known
  rw [passes, List.map_map]
  exact List.mem_map.2 ⟨p, there, by simp [name]⟩

section Unspaced

theorem signs_proper : ¬(1 : Float) ≤ -1 := by decide

/-- A parameter of a range that takes both signs. -/
def signedParameter (name : String) (value : Float) : Parameter where
  name
  value
  range := ⟨-1, 1, signs_proper⟩
  knob := .none
  label := ""

theorem literalChars_half : literalChars 0.5 = ['0', '.', '5'] := by decide +kernel

theorem literalChars_minus : literalChars (-1) = ['-', '1'] := by decide +kernel

/-- A parameter at one half that is filled in first, but for one that is to have had its pass by
then. -/
def early (name spared : String) : Parameters :=
  (if spared = name then .empty else Parameters.empty.add (signedParameter spared (-1))).add
    (signedParameter name 0.5)

theorem toList_early (name spared : String) :
    (early name spared).toList =
      (if spared = name then [] else [signedParameter spared (-1)]) ++ [signedParameter name 0.5] := by
  unfold early
  by_cases same : spared = name
  · simp only [same, if_true]
    rfl
  · have free : (signedParameter name 0.5).name ∉
        (Parameters.empty.add (signedParameter spared (-1))).names := by
      rw [Parameters.mem_names_add]
      rintro (none | equal)
      · cases none
      · exact same equal.symm
    simp only [same, if_false]
    rw [Parameters.toList_add_of_notMem _ free]
    rfl

theorem writable_early {name spared : String} (isName : IsName name.toList)
    (isSpared : IsName spared.toList) : Writable (early name spared) := by
  have minus : (-1 : Float).isFinite = true := by decide +kernel
  have half : (0.5 : Float).isFinite = true := by decide +kernel
  intro p there
  rw [toList_early, List.mem_append, List.mem_singleton] at there
  rcases there with there | rfl
  · split at there
    · cases there
    · rw [List.mem_singleton.1 there]
      exact ⟨isSpared, minus⟩
  · exact ⟨isName, half⟩

theorem mem_names_early (name spared : String) : spared ∈ (early name spared).names := by
  rw [Parameters.names, toList_early]
  by_cases same : spared = name
  · simp [same, signedParameter]
  · simp [same, signedParameter]

/-- Parameters that fill in a placeholder before the one in front of it leave that one. -/
theorem exists_unresolved_of_adjacent (mark : '$' :: t <:+ code.toList) (some : nameAt t ≠ [])
    {next : List Char} (follows : behind t = '$' :: next) (named : nameAt next ≠ [])
    (different : nameAt next ≠ nameAt t) (boundary : goesOn (behind next) = false) :
    ∃ existing, Writable existing ∧ detect (resolve existing code) ≠ [] := by
  let name := String.ofList (nameAt next)
  let spared := String.ofList (nameAt t ++ ['0'])
  have nameList : name.toList = nameAt next := String.toList_ofList
  have sparedList : spared.toList = nameAt t ++ ['0'] := String.toList_ofList
  have writable : Writable (early name spared) :=
    writable_early (nameList ▸ isName_nameAt named)
      (sparedList ▸ isName_append_zero (isName_nameAt some))
  refine ⟨_, writable, fun resolved => ?_⟩
  have met := (detect_resolve_eq_nil_iff writable).1 resolved t mark some
  have proper := proper_merge writable code
  obtain ⟨more, split⟩ := (early name spared).toList_prefix_merge (detect code)
  have unique := ((early name spared).merge (detect code)).distinct
  rw [← split, List.map_append, List.nodup_append] at unique
  -- the longer name is one of the first parameters, so none of the others has it
  have free : ∀ p ∈ more, p.name.toList ≠ nameAt t ++ ['0'] := by
    intro p there equal
    have same : spared = p.name := String.toList_inj.1 (sparedList.trans equal.symm)
    exact unique.2.2 _ (mem_names_early name spared) _ (List.mem_map_of_mem there) same
  rw [passes, ← split, toList_early, List.append_assoc, List.map_append, List.map_append] at met proper
  have half : (signedParameter name 0.5).name.toList = nameAt next := nameList
  simp only [List.map_cons, List.map_nil, List.singleton_append, half] at met proper
  -- the only pass before it, if any, writes a sign, which is no word character
  have before : ∀ p ∈ (if spared = name then [] else [signedParameter spared (-1)]).map
      fun (p : Parameter) => (p.name.toList, p.value),
      p = (nameAt t ++ ['0'], -1) ∧ p.1 ≠ nameAt next := by
    intro p there
    obtain ⟨q, member, rfl⟩ := List.mem_map.1 there
    split at member
    next => cases member
    next other =>
      rw [List.mem_singleton.1 member]
      refine ⟨Prod.ext sparedList rfl, fun equal => other ?_⟩
      exact String.toList_inj.1 (equal.trans nameList.symm)
  refine not_met_of_adjacent proper literalChars_half some follows named different boundary
    ?_ ?_ ?_ met
  · intro p there
    rw [(before p there).1, literalChars_minus]
    rfl
  · intro p there
    refine ⟨fun equal => ?_, (before p there).2⟩
    rw [(before p there).1] at equal
    simp at equal
  · intro p there
    obtain ⟨q, member, rfl⟩ := List.mem_map.1 there
    exact free q member

/-- A letter of another script behind a placeholder keeps every pass from it. -/
theorem unresolved_of_goesOn (mark : '$' :: t <:+ code.toList) (some : nameAt t ≠ [])
    (word : goesOn (behind t) = true) (writable : Writable ps) : detect (resolve ps code) ≠ [] := by
  intro resolved
  have met := (detect_resolve_eq_nil_iff writable).1 resolved t mark some
  rcases follows : behind t with _ | ⟨c, rest⟩
  · rw [follows] at word
    cases word
  · rw [follows] at word
    have letter : Text.isWord c = true := word
    -- no mark is a word character
    have other : c ≠ '$' := by
      rintro rfl
      exact absurd letter (by decide)
    exact not_met_of_plain (proper_merge writable code) some follows other (.inl letter) met

theorem writable_empty : Writable .empty := fun _ there => by cases there

theorem spaced_of_resolved
    (resolved : ∀ existing, Writable existing → detect (resolve existing code) = []) :
    Spaced code.toList := by
  have ends : ∀ t, '$' :: t <:+ code.toList → nameAt t ≠ [] → goesOn (behind t) = false := by
    intro t mark some
    by_contra word
    exact unresolved_of_goesOn mark some (by simpa using word) writable_empty
      (resolved _ writable_empty)
  intro t mark some
  refine ⟨ends t mark some, fun next follows named => ?_⟩
  by_contra different
  -- a boundary stands behind the second placeholder too, or that one would be left
  have later : '$' :: next <:+ code.toList :=
    (follows ▸ behind_suffix t).trans ((List.suffix_cons '$' t).trans mark)
  obtain ⟨existing, writable, left⟩ :=
    exists_unresolved_of_adjacent mark some follows named different (ends next later named)
  exact left (resolved existing writable)

end Unspaced

/-- A program is left without placeholders by some parameters exactly if a pass meets each of its
placeholders, and by all parameters exactly if its placeholders stand apart. -/
theorem resolved_iff (code : String) :
    (∀ existing, Writable existing →
      (detect (resolve existing code) = [] ↔
        ∀ t, '$' :: t <:+ code.toList → nameAt t ≠ [] →
          Met (passes (existing.merge (detect code))) t)) ∧
    ((∀ existing, Writable existing → detect (resolve existing code) = []) ↔
      Spaced code.toList) := by
  refine ⟨fun existing writable => detect_resolve_eq_nil_iff writable, spaced_of_resolved, ?_⟩
  intro spaced existing writable
  refine (detect_resolve_eq_nil_iff writable).2 fun t mark some => ?_
  -- every placeholder has a pass, and apart from its neighbours it is met by it
  have own : Spaced ('$' :: t) := fun u there => spaced u (there.trans mark)
  exact met_of_spaced (proper_merge writable code) own some (known_of_suffix existing mark some)

/-- One character between two placeholders is enough, and no less. -/
theorem neighbours_unresolved :
    (∀ existing, Writable existing → detect (resolve existing "$a+$b") = []) ∧
    ¬∀ existing, Writable existing → detect (resolve existing "$a$b") = [] := by
  constructor
  · refine (resolved_iff _).2.2 fun t mark _ => ?_
    have suffixes : t = ['a', '+', '$', 'b'] ∨ t = ['b'] := by
      simpa [List.suffix_cons_iff] using mark
    rcases suffixes with rfl | rfl
    · exact ⟨rfl, fun next follows => by cases follows⟩
    · exact ⟨rfl, fun next follows => by cases follows⟩
  · intro resolved
    have spaced := (resolved_iff "$a$b").2.1 resolved ['a', '$', 'b'] (List.suffix_refl _) (by decide)
    exact absurd (spaced.same ['b'] rfl (by decide)) (by decide)

/-- The zero of the second literal has become part of the first name. -/
example : resolve (early "b" "b") "$a$b" = "$a0.5" := by decide +kernel

/-- No boundary stands between two letters, whatever their scripts. -/
example : resolve .empty "$aé" = "$aé" := by decide +kernel

end PatternDeck.Program
