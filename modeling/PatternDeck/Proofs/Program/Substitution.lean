import Mathlib.Data.List.Find
import Mathlib.Data.List.Infix
import Mathlib.Data.List.Nodup
import PatternDeck.Proofs.Program.Spacing

/-!
Filling in at once. Where no placeholder is directly followed by another mark, the passes over a
program, one for each name, do what a single pass with all the values does: no pass makes, changes or
takes away what a later one is to meet. So the order of the passes does not matter.
-/
namespace PatternDeck.Program

/-- The value that stands for a placeholder, by the text behind its mark: that of its name, unless a
word goes on behind it. -/
def valueHere? (values : List (List Char × Float)) (t : List Char) : Option Float :=
  if nameAt t = [] ∨ goesOn (behind t) then none
  else (values.find? (·.1 == nameAt t)).map (·.2)

/-- The text with a literal in the place of every placeholder that a value stands for. -/
def fillAll (here : List Char → Option Float) : List Char → List Char
  | [] => []
  | c :: rest =>
    match if c = '$' then here rest else none with
    | some value => literalChars value ++ fillAll here (behind rest)
    | none => c :: fillAll here rest
termination_by s => s.length
decreasing_by
  · simp only [behind, List.length_drop, List.length_cons]
    omega
  · simp

def injectAtOnceChars (values : List (List Char × Float)) (s : List Char) : List Char :=
  fillAll (valueHere? values) s

/-- A program with all values put in at once. -/
def injectAtOnce (values : List (String × Float)) (program : String) : String :=
  String.ofList <|
    injectAtOnceChars (values.map fun (name, value) => (name.toList, value)) program.toList

/-- No placeholder is directly followed by another mark. -/
def Detached (s : List Char) : Prop :=
  ∀ t, '$' :: t <:+ s → nameAt t ≠ [] → (behind t).head? ≠ some '$'

instance (s : List Char) : Decidable (Detached s) :=
  decidable_of_iff
    (∀ u ∈ s.tails, u.head? = some '$' → nameAt u.tail ≠ [] → (behind u.tail).head? ≠ some '$')
    ⟨fun all t mark => all ('$' :: t) ((List.mem_tails _ _).2 mark) rfl, fun detached u there mark => by
      obtain ⟨t, rfl⟩ := List.head?_eq_some_iff.1 mark
      exact detached t ((List.mem_tails _ _).1 there)⟩

variable {values others : List (List Char × Float)} {s t : List Char} {c : Char}

theorem Detached.suffix (detached : Detached s) (later : t <:+ s) : Detached t :=
  fun u mark => detached u (mark.trans later)

theorem valueHere?_eq_some_iff {value : Float} :
    valueHere? values t = some value ↔
      nameAt t ≠ [] ∧ goesOn (behind t) = false ∧
        ∃ before after, values = before ++ (nameAt t, value) :: after ∧
          ∀ p ∈ before, p.1 ≠ nameAt t := by
  unfold valueHere?
  by_cases plain : nameAt t = [] ∨ goesOn (behind t)
  · simp only [plain, if_true]
    grind
  · simp only [plain, if_false]
    rw [not_or, Bool.not_eq_true] at plain
    rw [and_iff_right plain.1, and_iff_right plain.2, Option.map_eq_some_iff]
    constructor
    · rintro ⟨⟨name, _⟩, found, rfl⟩
      obtain ⟨named, before, after, split, others⟩ := List.find?_eq_some_iff_append.1 found
      simp only [beq_iff_eq] at named
      subst named
      exact ⟨before, after, split, fun p there => by simpa using others p there⟩
    · rintro ⟨before, after, rfl, others⟩
      refine ⟨(nameAt t, value), List.find?_eq_some_iff_append.2 ⟨by simp, before, after, rfl, ?_⟩, rfl⟩
      exact fun p there => by simpa using others p there

section Once

variable {here : List Char → Option Float}

theorem fillAll_cons_of_ne (other : c ≠ '$') : fillAll here (c :: t) = c :: fillAll here t := by
  rw [fillAll, if_neg other]

theorem fillAll_of_none (none : here t = none) :
    fillAll here ('$' :: t) = '$' :: fillAll here t := by
  rw [fillAll, if_pos rfl, none]

theorem fillAll_of_some {value : Float} (found : here t = some value) :
    fillAll here ('$' :: t) = literalChars value ++ fillAll here (behind t) := by
  rw [fillAll, if_pos rfl, found]

end Once

section Passes

/-- The character behind a placeholder that is detached stays there through all passes. -/
theorem goesOn_injectChars_of_detached (apart : (behind t).head? ≠ some '$')
    (passes : List (List Char × Float)) :
    goesOn (injectChars passes (behind t)) = goesOn (behind t) := by
  rcases follows : behind t with _ | ⟨c, rest⟩
  · rw [injectChars_empty]
  · rw [follows, List.head?_cons, Ne, Option.some.injEq] at apart
    rw [injectChars_cons_of_ne apart]
    rfl

/-- A placeholder without a value is met by no pass. -/
theorem not_met_of_valueHere? (proper : Proper values) (none : valueHere? values t = none)
    (apart : nameAt t ≠ [] → (behind t).head? ≠ some '$') : ¬Met values t := by
  by_cases named : nameAt t = []
  · exact not_met_of_nameAt_eq_nil proper named
  · by_cases word : goesOn (behind t) = true
    · rcases follows : behind t with _ | ⟨c, rest⟩
      · rw [follows] at word
        cases word
      · have other : c ≠ '$' := fun mark => apart named (by rw [follows, mark, List.head?_cons])
        rw [follows] at word
        exact not_met_of_plain proper named follows other (.inl word)
    · rw [Bool.not_eq_true] at word
      refine not_met_of_boundary proper (fun p there equal => ?_) fun passes _ => ?_
      · -- the first pass of its name would give it a value
        have found : ¬values.find? (·.1 == nameAt t) = Option.none := fun absent =>
          absurd (List.find?_eq_none.1 absent p there) (by simp [equal])
        simp [valueHere?, named, word, found] at none
      · rw [goesOn_injectChars_of_detached (apart named), word]

theorem injectChars_passes_append (passes more : List (List Char × Float)) (s : List Char) :
    injectChars (passes ++ more) s = injectChars more (injectChars passes s) :=
  List.foldl_append

/-- A placeholder with a value is replaced by the first pass of its name, and what is behind it is
left to all of them. -/
theorem injectChars_of_valueHere? (proper : Proper values) {value : Float}
    (here : valueHere? values t = some value) (apart : (behind t).head? ≠ some '$') :
    injectChars values ('$' :: t) = literalChars value ++ injectChars values (behind t) := by
  obtain ⟨named, boundary, before, after, rfl, earlier⟩ := valueHere?_eq_some_iff.1 here
  have first : Proper before := fun p there => proper p (List.mem_append_left _ there)
  obtain ⟨isName, finite⟩ := proper (nameAt t, value) (by simp)
  have kept : ∀ passes, goesOn (injectChars passes (behind t)) = false := fun passes => by
    rw [goesOn_injectChars_of_detached apart, boundary]
  have missed : ¬Met before t := not_met_of_boundary first earlier fun passes _ => kept passes
  have stops := takeWhile_of_not_goesOn (kept before)
  have met : namedHere (nameAt t) (nameAt t ++ injectChars before (behind t)) := by
    rw [namedHere_iff isName, nameAt_append isName stops, behind_append isName stops]
    exact ⟨rfl, kept before⟩
  calc injectChars (before ++ (nameAt t, value) :: after) ('$' :: t)
      = injectChars after (fill (nameAt t) (literalChars value)
          ('$' :: (nameAt t ++ injectChars before (behind t)))) := by
        rw [injectChars_passes_append, injectChars_of_not_met missed, injectChars_eq before t,
          injectChars_cons]
    _ = injectChars after (literalChars value ++
          fill (nameAt t) (literalChars value) (injectChars before (behind t))) := by
        rw [fill_of_namedHere met, List.drop_left]
    _ = literalChars value ++ injectChars (before ++ (nameAt t, value) :: after) (behind t) := by
        rw [injectChars_append (unmarked_literal (numeral_literalChars finite)),
          injectChars_passes_append, injectChars_cons]

/-- The passes do what one pass does with all the values. -/
theorem injectChars_eq_injectAtOnceChars (proper : Proper values) (detached : Detached s) :
    injectChars values s = injectAtOnceChars values s := by
  unfold injectAtOnceChars
  -- induction on the text; a placeholder that is replaced is passed over as a whole
  induction length : s.length using Nat.strongRecOn generalizing s with
  | ind n ih =>
    subst length
    rcases s with _ | ⟨c, rest⟩
    · rw [injectChars_empty, fillAll]
    · have later : injectChars values rest = fillAll (valueHere? values) rest :=
        ih _ (by simp) (detached.suffix (List.suffix_cons c rest)) rfl
      by_cases mark : c = '$'
      · subst mark
        have apart := detached rest (List.suffix_refl _)
        cases here : valueHere? values rest with
        | none =>
          rw [injectChars_of_not_met (not_met_of_valueHere? proper here apart),
            fillAll_of_none here, later]
        | some value =>
          have named := (valueHere?_eq_some_iff.1 here).1
          have shorter : (behind rest).length < ('$' :: rest).length :=
            Nat.lt_succ_of_le (behind_suffix rest).length_le
          have beyond : injectChars values (behind rest) = fillAll (valueHere? values) (behind rest) :=
            ih _ shorter
              (detached.suffix ((behind_suffix rest).trans (List.suffix_cons _ _))) rfl
          rw [injectChars_of_valueHere? proper here (apart named), fillAll_of_some here, beyond]
      · rw [injectChars_cons_of_ne mark, fillAll_cons_of_ne mark, later]

end Passes

section Order

theorem valueHere?_of_perm (distinct : (values.map (·.1)).Nodup) (perm : values.Perm others) :
    valueHere? values = valueHere? others := by
  funext t
  have found : values.find? (·.1 == nameAt t) = others.find? (·.1 == nameAt t) := by
    refine List.find?_eq_find?_of_perm perm fun p ⟨here, named⟩ q ⟨there, named'⟩ => ?_
    rw [beq_iff_eq] at named named'
    exact List.inj_on_of_nodup_map distinct here there (named.trans named'.symm)
  rw [valueHere?, valueHere?, found]

theorem proper_of_names {values : List (String × Float)} (names : ∀ p ∈ values, IsName p.1.toList)
    (finite : ∀ p ∈ values, p.2.isFinite = true) :
    Proper (values.map fun (name, value) => (name.toList, value)) := by
  refine List.forall_mem_map.2 fun p there => ?_
  exact ⟨names p there, finite p there⟩

/-- Values are put into a program one name after another as they are all at once, so in any order,
where no placeholder is directly followed by another mark. -/
theorem inject_eq_injectAtOnce {values : List (String × Float)} {program : String}
    (names : ∀ p ∈ values, IsName p.1.toList) (finite : ∀ p ∈ values, p.2.isFinite = true)
    (distinct : (values.map (·.1)).Nodup) (detached : Detached program.toList) :
    inject values program = injectAtOnce values program ∧
      ∀ others, values.Perm others → inject others program = inject values program := by
  have once : ∀ others, values.Perm others → inject others program = injectAtOnce others program := by
    intro others perm
    have proper := proper_of_names (fun p there => names p (perm.mem_iff.2 there))
      (fun p there => finite p (perm.mem_iff.2 there))
    rw [inject, injectAtOnce, injectChars_eq_injectAtOnceChars proper detached]
  refine ⟨once values (.refl values), fun others perm => ?_⟩
  have chars : ((values.map fun (name, value) => (name.toList, value)).map (·.1)).Nodup := by
    rw [List.map_map]
    exact (List.nodup_map_iff_inj_on distinct.of_map).2 fun p here q there equal =>
      List.inj_on_of_nodup_map distinct here there (String.toList_inj.1 equal)
  rw [once others perm, once values (.refl values), injectAtOnce, injectAtOnce, injectAtOnceChars,
    injectAtOnceChars, valueHere?_of_perm chars (perm.map _)]

/-- Names that begin alike, a name without a value, and a letter of another script behind a name. -/
theorem injected_in_any_order :
    inject [("a", 2), ("ab", -0.5), ("b", 1e-7)] "$a+$ab.s($speed) $aé $$b-$" =
        "2+-0.5.s($speed) $aé $1e-07-$" ∧
      inject [("b", 1e-7), ("a", 2), ("ab", -0.5)] "$a+$ab.s($speed) $aé $$b-$" =
        "2+-0.5.s($speed) $aé $1e-07-$" := by
  have names : ∀ p ∈ [("a", 2), ("ab", -0.5), ("b", (1e-7 : Float))], IsName p.1.toList := by
    simp only [List.forall_mem_cons, List.not_mem_nil, false_imp_iff, implies_true, and_true]
    exact ⟨⟨by decide, rfl⟩, ⟨by decide, rfl⟩, ⟨by decide, rfl⟩⟩
  have finite : ∀ p ∈ [("a", 2), ("ab", -0.5), ("b", (1e-7 : Float))], p.2.isFinite = true := by
    decide +kernel
  have distinct : ([("a", 2), ("ab", -0.5), ("b", (1e-7 : Float))].map (·.1)).Nodup := by simp
  have detached : Detached "$a+$ab.s($speed) $aé $$b-$".toList := by decide +kernel
  obtain ⟨once, orders⟩ := inject_eq_injectAtOnce names finite distinct detached
  have told : inject [("a", 2), ("ab", -0.5), ("b", 1e-7)] "$a+$ab.s($speed) $aé $$b-$" =
      "2+-0.5.s($speed) $aé $1e-07-$" := by decide +kernel
  exact ⟨told, (orders _ (by decide +kernel)).trans told⟩

end Order

end PatternDeck.Program
