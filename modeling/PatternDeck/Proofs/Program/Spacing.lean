import PatternDeck.Proofs.Program.Filling

/-!
Programs that every slot can fill in. A pass does not meet a placeholder that a letter of another
script follows, nor one that the digit of a literal follows; the digit comes from a pass before it,
over a placeholder of another name that stands directly behind.
-/
namespace PatternDeck.Program

section Neighbours

variable {values : List (List Char × Float)} {t rest : List Char} {c : Char}

theorem injectChars_cons_of_ne (other : c ≠ '$') :
    injectChars values (c :: rest) = c :: injectChars values rest :=
  @injectChars_append values [c] rest (by simpa using Ne.symm other)

/-- The name at the head of a text stays there, and the passes change what is behind it. -/
theorem injectChars_eq (values : List (List Char × Float)) (t : List Char) :
    injectChars values t = nameAt t ++ injectChars values (behind t) := by
  rw [← injectChars_append (unmarked_nameAt t), nameAt_append_behind]

theorem nameAt_injectChars_eq_nil_iff (proper : Proper values) :
    nameAt (injectChars values t) = [] ↔ nameAt t = [] := by
  induction values generalizing t with
  | nil => rfl
  | cons p values ih =>
    obtain ⟨⟨-, finite⟩, others⟩ := List.forall_mem_cons.1 proper
    rw [injectChars_cons, ih others, nameAt_fill_eq_nil_iff (numeral_literalChars finite)]

theorem not_met_of_nameAt_eq_nil (proper : Proper values) (none : nameAt t = []) :
    ¬Met values t := by
  rintro ⟨before, p, after, rfl, here⟩
  obtain ⟨isName, -⟩ := proper p (by simp)
  have earlier : Proper before := fun q there => proper q (List.mem_append_left _ there)
  obtain ⟨name, -⟩ := (namedHere_iff isName).1 here
  rw [(nameAt_injectChars_eq_nil_iff earlier).2 none] at name
  exact isName.1 name.symm

/-- No pass meets a placeholder of a name that none of them has, while a boundary stays behind it. -/
theorem not_met_of_boundary (proper : Proper values) (absent : ∀ p ∈ values, p.1 ≠ nameAt t)
    (boundary : ∀ before, before <+: values → goesOn (injectChars before (behind t)) = false) :
    ¬Met values t := by
  -- a mark without a name is no placeholder, and no pass makes it one
  by_cases some : nameAt t = []
  · exact not_met_of_nameAt_eq_nil proper some
  · rintro ⟨before, p, after, rfl, here⟩
    -- at every pass the placeholder still has its own name
    have ends := takeWhile_of_not_goesOn (boundary before (List.prefix_append before _))
    obtain ⟨name, -⟩ := (namedHere_iff (proper p (by simp)).1).1 here
    rw [injectChars_eq, nameAt_append (isName_nameAt some) ends] at name
    exact absent p (by simp) name.symm

/-- A character that is no mark stays behind a name. If it is a letter of another script, or if no
pass has the name, the placeholder is not met. -/
theorem not_met_of_plain (proper : Proper values) (some : nameAt t ≠ [])
    (follows : behind t = c :: rest) (other : c ≠ '$')
    (missed : Text.isWord c = true ∨ ∀ p ∈ values, p.1 ≠ nameAt t) :
    ¬Met values t := by
  rintro ⟨before, p, after, rfl, here⟩
  have stops := takeWhile_behind some
  -- whatever comes behind the character, the name ends before it
  have ends : (c :: injectChars before rest).takeWhile isNamePart = [] := by
    rw [follows] at stops
    by_cases part : isNamePart c
    · rw [List.takeWhile_cons_of_pos part] at stops
      cases stops
    · exact List.takeWhile_cons_of_neg part
  obtain ⟨name, boundary⟩ := (namedHere_iff (proper p (by simp)).1).1 here
  rw [injectChars_eq, follows, injectChars_cons_of_ne other] at name boundary
  rw [nameAt_append (isName_nameAt some) ends] at name
  rw [behind_append (isName_nameAt some) ends] at boundary
  rcases missed with word | absent
  · have plain : Text.isWord c = false := boundary
    rw [word] at plain
    cases plain
  · exact absent p (by simp) name.symm

end Neighbours

section Spaced

variable {values : List (List Char × Float)} {s t : List Char}

/-- A placeholder is followed by a boundary, and by no placeholder of another name. -/
structure Apart (t : List Char) : Prop where
  boundary : goesOn (behind t) = false
  same : ∀ next, behind t = '$' :: next → nameAt next ≠ [] → nameAt next = nameAt t

/-- Every placeholder of a program stands apart from what follows it. -/
def Spaced (s : List Char) : Prop := ∀ t, '$' :: t <:+ s → nameAt t ≠ [] → Apart t

theorem behind_suffix (t : List Char) : behind t <:+ t := List.drop_suffix _ t

/-- Passes for other names leave the boundary behind a placeholder that stands apart, as they do not
meet the placeholders of its name behind it. -/
theorem goesOn_injectChars_behind (proper : Proper values) (spaced : Spaced ('$' :: t))
    (some : nameAt t ≠ []) (absent : ∀ p ∈ values, p.1 ≠ nameAt t) :
    goesOn (injectChars values (behind t)) = false := by
  -- induction on the text: a placeholder of the same name behind keeps its own boundary
  induction length : t.length using Nat.strongRecOn generalizing t values with
  | ind n ih =>
    obtain ⟨boundary, same⟩ := spaced t (List.suffix_refl _) some
    rcases follows : behind t with _ | ⟨c, next⟩
    · rw [injectChars_empty]
      rfl
    · by_cases mark : c = '$'
      · subst mark
        have later : '$' :: next <:+ t := follows ▸ behind_suffix t
        have missed : ¬Met values next := by
          by_cases none : nameAt next = []
          · exact not_met_of_nameAt_eq_nil proper none
          · have equal := same next follows none
            have shorter : next.length < n := by
              have := later.length_le
              rw [List.length_cons] at this
              omega
            have spaced' : Spaced ('$' :: next) := fun u there =>
              spaced u (there.trans (later.trans (List.suffix_cons '$' t)))
            refine not_met_of_boundary proper (equal ▸ absent) fun before first => ?_
            refine ih next.length shorter (fun p there => proper p (first.subset there)) spaced' none
              (fun p there => ?_) rfl
            rw [equal]
            exact absent p (first.subset there)
        rw [injectChars_of_not_met missed]
        rfl
      · rw [injectChars_cons_of_ne mark]
        rw [follows] at boundary
        exact boundary

/-- A placeholder that stands apart is met by the pass for its name. -/
theorem met_of_spaced (proper : Proper values) (spaced : Spaced ('$' :: t)) (some : nameAt t ≠ [])
    (known : nameAt t ∈ values.map (·.1)) : Met values t := by
  -- the first pass for the name is the one that meets it
  obtain ⟨q, there, name⟩ := List.mem_map.1 known
  have found : (values.find? (·.1 == nameAt t)).isSome := by
    rw [List.find?_isSome]
    exact ⟨q, there, by simp [name]⟩
  obtain ⟨p, first⟩ := Option.isSome_iff_exists.1 found
  obtain ⟨equal, before, after, rfl, others⟩ := List.find?_eq_some_iff_append.1 first
  have earlier : Proper before := fun r there => proper r (List.mem_append_left _ there)
  have boundary := goesOn_injectChars_behind earlier spaced some fun r there => by
    simpa using others r there
  have ends := takeWhile_of_not_goesOn boundary
  refine ⟨before, p, after, rfl, (namedHere_iff (proper p (by simp)).1).2 ?_⟩
  rw [injectChars_eq, nameAt_append (isName_nameAt some) ends,
    behind_append (isName_nameAt some) ends]
  exact ⟨(by simpa using equal : p.1 = nameAt t).symm, boundary⟩

end Spaced

section Adjacent

variable {values before after : List (List Char × Float)} {t next rest name : List Char}

theorem isName_append_zero (isName : IsName name) : IsName (name ++ ['0']) := by
  obtain ⟨some, own⟩ := isName
  obtain ⟨first, more, rfl⟩ := List.exists_cons_of_ne_nil some
  refine ⟨by simp, ?_⟩
  by_cases start : isNameStart first
  · rw [nameAt_cons start, List.cons.injEq, and_iff_right rfl] at own
    rw [List.cons_append, nameAt_cons start, List.takeWhile_append, own, if_pos rfl]
    rfl
  · rw [nameAt_cons_of_not (by simpa using start)] at own
    cases own

/-- Literals with a sign keep a boundary. -/
theorem goesOn_injectChars_of_signed (proper : Proper values)
    (signed : ∀ p ∈ values, goesOn (literalChars p.2) = false) (boundary : goesOn rest = false) :
    goesOn (injectChars values rest) = false := by
  induction values generalizing rest with
  | nil => exact boundary
  | cons p values ih =>
    obtain ⟨⟨-, finite⟩, others⟩ := List.forall_mem_cons.1 proper
    obtain ⟨sign, signs⟩ := List.forall_mem_cons.1 signed
    rw [injectChars_cons]
    apply ih others signs
    rcases rest with _ | ⟨c, rest⟩
    · exact boundary
    · by_cases mark : c = '$'
      · subst mark
        by_cases here : namedHere p.1 rest
        · obtain ⟨d, digits, literal, -⟩ := (numeral_literalChars finite).starts
          rw [fill_of_namedHere here, literal]
          rw [literal] at sign
          exact sign
        · rw [fill_of_not_namedHere here]
          rfl
      · rw [fill_cons_of_ne mark]
        exact boundary

/-- A placeholder loses its name to the literal of another that stands directly behind and is filled
in first. -/
theorem not_met_of_adjacent {value : Float} {digits : List Char}
    (proper : Proper (before ++ (nameAt next, value) :: after))
    (literal : literalChars value = '0' :: '.' :: digits)
    (some : nameAt t ≠ []) (follows : behind t = '$' :: next) (named : nameAt next ≠ [])
    (different : nameAt next ≠ nameAt t) (boundary : goesOn (behind next) = false)
    (signed : ∀ p ∈ before, goesOn (literalChars p.2) = false)
    (others : ∀ p ∈ before, p.1 ≠ nameAt t ∧ p.1 ≠ nameAt next)
    (free : ∀ p ∈ after, p.1 ≠ nameAt t ++ ['0']) :
    ¬Met (before ++ (nameAt next, value) :: after) t := by
  have first : Proper before := fun p there => proper p (List.mem_append_left _ there)
  have last : Proper after := fun p there => proper p (by simp [there])
  have kept : ∀ passes, passes <+: before → goesOn (injectChars passes (behind next)) = false :=
    fun passes early => goesOn_injectChars_of_signed (fun p there => first p (early.subset there))
      (fun p there => signed p (early.subset there)) boundary
  have missed : ¬Met before next :=
    not_met_of_boundary first (fun p there => (others p there).2) kept
  have marked : ∀ passes, passes <+: before →
      injectChars passes ('$' :: next) = '$' :: injectChars passes next := by
    rintro passes ⟨more, rfl⟩
    exact injectChars_of_not_met fun met => missed ((met_append _ _ _).2 (.inl met))
  have isName := isName_nameAt some
  have stops : ('$' :: injectChars before next).takeWhile isNamePart = [] := rfl
  have middle : injectChars before t = nameAt t ++ '$' :: injectChars before next := by
    rw [injectChars_eq, follows, marked before (List.prefix_refl _)]
  -- not before the pass for the placeholder behind, nor by it, nor after it
  rw [met_append, met_cons, not_or, not_or]
  refine ⟨?_, ?_, ?_⟩
  · refine not_met_of_boundary first (fun p there => (others p there).1) fun passes early => ?_
    rw [follows, marked passes early]
    rfl
  · rw [middle, namedHere_iff (isName_nameAt named), nameAt_append isName stops]
    exact fun here => different here.1.symm
  -- the passes before it left the placeholder behind as it was, so it is met now
  · have here : namedHere (nameAt next) (injectChars before next) := by
      have ends := kept before (List.prefix_refl _)
      have stops' := takeWhile_of_not_goesOn ends
      rw [namedHere_iff (isName_nameAt named), injectChars_eq,
        nameAt_append (isName_nameAt named) stops', behind_append (isName_nameAt named) stops']
      exact ⟨rfl, ends⟩
    -- from here on the name and the zero of the literal are one name, which a point ends
    have joined : ∀ rest, nameAt t ++ ('0' :: '.' :: digits ++ rest) =
        (nameAt t ++ ['0']) ++ '.' :: (digits ++ rest) := by simp
    have longer := isName_append_zero isName
    have point : ∀ rest, ('.' :: rest).takeWhile isNamePart = [] := fun _ => rfl
    rw [middle, fill_append (unmarked_nameAt t), fill_of_namedHere here, literal, joined]
    refine not_met_of_plain last ?_ (behind_append longer (point _)) (by decide) (.inr ?_)
    · rw [nameAt_append longer (point _)]
      exact longer.1
    · rw [nameAt_append longer (point _)]
      exact free

end Adjacent

end PatternDeck.Program
