import Mathlib.Data.List.TakeWhile
import PatternDeck.Proofs.Number.Literal

/-!
Passes over a program. A pass replaces the placeholders of its name that end at the boundary of a
word; everything else stays, and no pass makes up a placeholder. A placeholder is gone in the end
exactly if one of the passes meets it, by the name that it has by then.
-/
namespace PatternDeck.Program

section Names

/-- What a placeholder may be called. -/
def IsName (name : List Char) : Prop := name ≠ [] ∧ nameAt name = name

/-- The text behind the identifier at its head. -/
def behind (t : List Char) : List Char := t.drop (nameAt t).length

/-- Whether a text starts with a word character. -/
def goesOn (t : List Char) : Bool := (t.head?.map Text.isWord).getD false

variable {name rest t : List Char} {c : Char}

theorem toNat_of_isAlpha (letter : c.isAlpha) : 65 ≤ c.toNat ∧ c.toNat ≤ 122 := by
  rcases Bool.or_eq_true_iff.1 letter with upper | lower
  · have bounds : 65 ≤ c.toNat ∧ c.toNat ≤ 90 := of_decide_eq_true upper
    omega
  · obtain ⟨above, below⟩ := Bool.and_eq_true_iff.1 lower
    have first : 97 ≤ c.toNat := of_decide_eq_true above
    have last : c.toNat ≤ 122 := of_decide_eq_true below
    omega

theorem toNat_of_isDigit (digit : c.isDigit) : c.toNat ≤ 57 := (Char.isDigit_iff_toNat.1 digit).2

theorem isWord_of_isNamePart (part : isNamePart c) : Text.isWord c := by
  have ascii : c.toNat < 128 := by
    rcases Bool.or_eq_true_iff.1 part with alphanum | underscore
    · rcases Bool.or_eq_true_iff.1 alphanum with letter | digit
      · have bounds := toNat_of_isAlpha letter
        omega
      · have bound := toNat_of_isDigit digit
        omega
    · rw [beq_iff_eq.1 underscore]
      decide
  simpa [Text.isWord, ascii, isNamePart] using part

theorem isNamePart_of_isNameStart (start : isNameStart c) : isNamePart c := by
  simp only [isNameStart, isNamePart, Char.isAlphanum, Bool.or_eq_true] at start ⊢
  rcases start with letter | underscore
  · exact .inl (.inl letter)
  · exact .inr underscore

theorem nameAt_cons_of_not (other : isNameStart c = false) : nameAt (c :: rest) = [] := by
  simp [nameAt, other]

theorem nameAt_cons (start : isNameStart c) :
    nameAt (c :: rest) = c :: rest.takeWhile isNamePart := by
  simp [nameAt, start]

theorem isNamePart_of_mem_nameAt (there : c ∈ nameAt t) : isNamePart c := by
  rcases t with _ | ⟨first, rest⟩
  · cases there
  · by_cases start : isNameStart first
    · rw [nameAt_cons start] at there
      rcases List.mem_cons.1 there with rfl | there
      · exact isNamePart_of_isNameStart start
      · exact List.mem_takeWhile_imp there
    · rw [nameAt_cons_of_not (by simpa using start)] at there
      cases there

theorem nameAt_append_behind (t : List Char) : nameAt t ++ behind t = t := by
  have head : nameAt t <+: t := by
    rcases t with _ | ⟨first, rest⟩
    · exact List.nil_prefix
    · by_cases start : isNameStart first
      · rw [nameAt_cons start]
        exact (List.prefix_cons_inj first).2 (List.takeWhile_prefix _)
      · rw [nameAt_cons_of_not (by simpa using start)]
        exact List.nil_prefix
  exact List.prefix_iff_eq_append.1 head

/-- An identifier ends where no character of identifiers follows. -/
theorem nameAt_append (isName : IsName name) (ends : rest.takeWhile isNamePart = []) :
    nameAt (name ++ rest) = name := by
  obtain ⟨some, own⟩ := isName
  obtain ⟨first, more, rfl⟩ := List.exists_cons_of_ne_nil some
  by_cases start : isNameStart first
  · rw [nameAt_cons start, List.cons.injEq, and_iff_right rfl] at own
    rw [List.cons_append, nameAt_cons start, List.takeWhile_append, own, if_pos rfl, ends,
      List.append_nil]
  · rw [nameAt_cons_of_not (by simpa using start)] at own
    cases own

theorem isName_nameAt (some : nameAt t ≠ []) : IsName (nameAt t) := by
  refine ⟨some, ?_⟩
  rcases t with _ | ⟨first, more⟩
  · rfl
  · by_cases start : isNameStart first
    · rw [nameAt_cons start, nameAt_cons start, List.takeWhile_takeWhile]
      simp
    · rw [nameAt_cons_of_not (by simpa using start)]
      rfl

theorem takeWhile_behind (some : nameAt t ≠ []) : (behind t).takeWhile isNamePart = [] := by
  rcases t with _ | ⟨first, more⟩
  · rfl
  · by_cases start : isNameStart first
    · rw [behind, nameAt_cons start, List.length_cons, List.drop_succ_cons]
      have split := List.prefix_iff_eq_append.1 (@List.takeWhile_prefix _ more isNamePart)
      have whole := congrArg (List.takeWhile isNamePart) split
      rw [List.takeWhile_append_of_pos fun c there => List.mem_takeWhile_imp there] at whole
      exact List.append_right_eq_self.1 whole
    · exact absurd (nameAt_cons_of_not (by simpa using start)) some

theorem behind_append (isName : IsName name) (ends : rest.takeWhile isNamePart = []) :
    behind (name ++ rest) = rest := by
  rw [behind, nameAt_append isName ends, List.drop_left]

theorem takeWhile_of_not_goesOn (boundary : goesOn rest = false) :
    rest.takeWhile isNamePart = [] := by
  rcases rest with _ | ⟨c, rest⟩
  · rfl
  · refine List.takeWhile_cons_of_neg fun part => ?_
    have word : Text.isWord c = false := boundary
    rw [isWord_of_isNamePart part] at word
    cases word

/-- A pass replaces a placeholder that has its name and ends at the boundary of a word. -/
theorem namedHere_iff (isName : IsName name) :
    namedHere name t = true ↔ nameAt t = name ∧ goesOn (behind t) = false := by
  obtain ⟨some, own⟩ := isName
  -- the name ends in a word character, so a boundary is where none follows
  have word : Text.isWord (name.getLast?.getD '$') = true := by
    have part : name.getLast some ∈ nameAt name := by
      rw [own]
      exact List.getLast_mem some
    rw [List.getLast?_eq_some_getLast some, Option.getD_some]
    exact isWord_of_isNamePart (isNamePart_of_mem_nameAt part)
  have meets : ∀ after, boundary name after = !goesOn after := by
    intro after
    simp only [boundary, word, goesOn]
    cases (after.head?.map Text.isWord).getD false <;> rfl
  rw [namedHere, Bool.and_eq_true, meets, Bool.not_eq_true', List.isPrefixOf_iff_prefix]
  constructor
  -- the name may be shorter than the identifier, but then no boundary ends it
  · rintro ⟨⟨rest, rfl⟩, ends⟩
    rw [List.drop_left] at ends
    have stops := takeWhile_of_not_goesOn ends
    rw [nameAt_append ⟨some, own⟩ stops, behind_append ⟨some, own⟩ stops]
    exact ⟨rfl, ends⟩
  · rintro ⟨rfl, ends⟩
    exact ⟨⟨behind t, nameAt_append_behind t⟩, ends⟩

end Names

section Pass

variable {name literal s t : List Char} {c : Char}

@[simp] theorem fill_nil (name literal : List Char) : fill name literal [] = [] := rfl

theorem fill_cons_of_ne (other : c ≠ '$') : fill name literal (c :: t) = c :: fill name literal t := by
  simp [fill, fillFrom, other]

theorem fillFrom_eq (name literal : List Char) (skip : Nat) (s : List Char) :
    fillFrom name literal skip s = fill name literal (s.drop skip) := by
  induction skip generalizing s with
  | zero => rfl
  | succ skip ih =>
    rcases s with _ | ⟨c, rest⟩
    · rfl
    · rw [fillFrom, ih, List.drop_succ_cons]

theorem fill_of_namedHere (here : namedHere name t) :
    fill name literal ('$' :: t) = literal ++ fill name literal (t.drop name.length) := by
  simp only [fill, fillFrom, here, and_self, if_true]
  rw [fillFrom_eq, fill]

theorem fill_of_not_namedHere (elsewhere : ¬namedHere name t) :
    fill name literal ('$' :: t) = '$' :: fill name literal t := by
  simp [fill, fillFrom, elsewhere]

theorem fill_append (unmarked : '$' ∉ s) :
    fill name literal (s ++ t) = s ++ fill name literal t := by
  induction s with
  | nil => rfl
  | cons c rest ih =>
    rw [List.mem_cons, not_or] at unmarked
    rw [List.cons_append, fill_cons_of_ne (Ne.symm unmarked.1), ih unmarked.2, List.cons_append]

theorem occurrences_append (unmarked : '$' ∉ s) : occurrences (s ++ t) = occurrences t := by
  induction s with
  | nil => rfl
  | cons c rest ih =>
    rw [List.mem_cons, not_or] at unmarked
    simp [occurrences, Ne.symm unmarked.1, ih unmarked.2]

theorem unmarked_nameAt (t : List Char) : '$' ∉ nameAt t := fun there =>
  absurd (isNamePart_of_mem_nameAt there) (by decide)

theorem unmarked_literal (numeral : Numeral literal) : '$' ∉ literal := fun there =>
  absurd (numeral.numeric '$' there) (by decide)

theorem isNameStart_of_isDigit (digit : c.isDigit) : isNameStart c = false := by
  have below := toNat_of_isDigit digit
  rw [Bool.eq_false_iff]
  intro start
  rcases Bool.or_eq_true_iff.1 start with letter | underscore
  · have bounds := toNat_of_isAlpha letter
    omega
  · rw [beq_iff_eq.1 underscore] at below
    exact absurd below (by decide)

theorem nameAt_literal_append (numeral : Numeral literal) (t : List Char) :
    nameAt (literal ++ t) = [] := by
  obtain ⟨c, rest, rfl, digit | rfl⟩ := numeral.starts
  · exact nameAt_cons_of_not (isNameStart_of_isDigit digit)
  · exact nameAt_cons_of_not (by decide)

/-- A pass makes up no identifier behind a mark, nor takes one away. -/
theorem nameAt_fill_eq_nil_iff (numeral : Numeral literal) :
    nameAt (fill name literal t) = [] ↔ nameAt t = [] := by
  rcases t with _ | ⟨c, rest⟩
  · rfl
  · by_cases mark : c = '$'
    -- a mark or the start of a literal: neither starts an identifier
    · subst mark
      have none : ∀ rest, nameAt ('$' :: rest) = [] := fun _ => nameAt_cons_of_not (by decide)
      by_cases here : namedHere name rest
      · rw [fill_of_namedHere here, nameAt_literal_append numeral, none]
      · rw [fill_of_not_namedHere here, none, none]
    · rw [fill_cons_of_ne mark]
      cases start : isNameStart c with
      | true => simp [nameAt_cons start]
      | false => simp [nameAt_cons_of_not start]

end Pass

section Passes

variable {values : List (List Char × Float)} {s t : List Char}

/-- Passes for names of placeholders and finite numbers. -/
def Proper (values : List (List Char × Float)) : Prop :=
  ∀ p ∈ values, IsName p.1 ∧ p.2.isFinite = true

@[simp] theorem injectChars_nil (s : List Char) : injectChars [] s = s := rfl

theorem injectChars_cons (p : List Char × Float) (values : List (List Char × Float))
    (s : List Char) :
    injectChars (p :: values) s = injectChars values (fill p.1 (literalChars p.2) s) := rfl

theorem injectChars_append (unmarked : '$' ∉ s) :
    injectChars values (s ++ t) = s ++ injectChars values t := by
  induction values generalizing t with
  | nil => rfl
  | cons p values ih => rw [injectChars_cons, fill_append unmarked, ih, injectChars_cons]

@[simp] theorem injectChars_empty (values : List (List Char × Float)) :
    injectChars values [] = [] := by
  induction values with
  | nil => rfl
  | cons p values ih => rw [injectChars_cons, fill_nil, ih]

/-- One of the passes meets the placeholder whose name starts a text, by the name that it has by
then. -/
def Met (values : List (List Char × Float)) (t : List Char) : Prop :=
  ∃ before p after, values = before ++ p :: after ∧ namedHere p.1 (injectChars before t) = true

theorem not_met_nil (t : List Char) : ¬Met [] t := by
  rintro ⟨before, p, after, split, -⟩
  exact List.append_ne_nil_of_right_ne_nil before (List.cons_ne_nil p after) split.symm

theorem met_cons (p : List Char × Float) (values : List (List Char × Float)) (t : List Char) :
    Met (p :: values) t ↔
      namedHere p.1 t = true ∨ Met values (fill p.1 (literalChars p.2) t) := by
  constructor
  · rintro ⟨_ | ⟨first, before⟩, q, after, split, here⟩
    · cases split
      exact .inl here
    · cases split
      exact .inr ⟨before, q, after, rfl, here⟩
  · rintro (here | ⟨before, q, after, rfl, here⟩)
    · exact ⟨[], p, values, rfl, here⟩
    · exact ⟨p :: before, q, after, rfl, here⟩

theorem met_append (values others : List (List Char × Float)) (t : List Char) :
    Met (values ++ others) t ↔ Met values t ∨ Met others (injectChars values t) := by
  induction values generalizing t with
  | nil => simp [not_met_nil]
  | cons p values ih =>
    rw [List.cons_append, met_cons, met_cons, ih, or_assoc, injectChars_cons]

theorem injectChars_of_not_met (missed : ¬Met values t) :
    injectChars values ('$' :: t) = '$' :: injectChars values t := by
  induction values generalizing t with
  | nil => rfl
  | cons p values ih =>
    rw [met_cons, not_or] at missed
    rw [injectChars_cons, fill_of_not_namedHere missed.1, ih missed.2, injectChars_cons]

theorem occurrences_mark_eq_nil_iff :
    occurrences ('$' :: t) = [] ↔ nameAt t = [] ∧ occurrences t = [] := by
  by_cases some : nameAt t = [] <;> simp [occurrences, some]

/-- What is left of a placeholder and of the text behind its mark. -/
theorem occurrences_injectChars_mark (proper : Proper values) :
    occurrences (injectChars values ('$' :: t)) = [] ↔
      (nameAt t ≠ [] → Met values t) ∧ occurrences (injectChars values t) = [] := by
  -- induction on the passes: the first one meets the placeholder, or leaves it to the others
  induction values generalizing t with
  | nil =>
    rw [injectChars_nil, injectChars_nil, occurrences_mark_eq_nil_iff]
    simp only [not_met_nil t, imp_false, Decidable.not_not]
  | cons p values ih =>
    obtain ⟨⟨isName, finite⟩, others⟩ := List.forall_mem_cons.1 proper
    have numeral := numeral_literalChars finite
    rw [injectChars_cons, injectChars_cons, met_cons]
    by_cases here : namedHere p.1 t
    · obtain ⟨name, -⟩ := (namedHere_iff isName).1 here
      -- neither the name that goes nor the literal that comes has a mark
      have split : p.1 ++ t.drop p.1.length = t := by
        rw [← name]
        exact nameAt_append_behind t
      have unmarked : '$' ∉ p.1 := name ▸ unmarked_nameAt t
      have filled : injectChars values (fill p.1 (literalChars p.2) t) =
          p.1 ++ injectChars values (fill p.1 (literalChars p.2) (t.drop p.1.length)) := by
        rw [← injectChars_append unmarked, ← fill_append unmarked, split]
      rw [fill_of_namedHere here, injectChars_append (unmarked_literal numeral), filled,
        occurrences_append (unmarked_literal numeral), occurrences_append unmarked]
      simp [here]
    -- the pass may lengthen the name, but it leaves a name where one was
    · rw [fill_of_not_namedHere here, ih others, Ne, nameAt_fill_eq_nil_iff numeral]
      simp [here]

/-- A program is left without placeholders exactly if every one of them is met by a pass. -/
theorem occurrences_injectChars_eq_nil_iff (proper : Proper values) :
    occurrences (injectChars values s) = [] ↔
      ∀ t, '$' :: t <:+ s → nameAt t ≠ [] → Met values t := by
  induction s with
  | nil => simp [occurrences]
  | cons c rest ih =>
    simp only [List.suffix_cons_iff, List.cons.injEq]
    by_cases mark : c = '$'
    · subst mark
      rw [occurrences_injectChars_mark proper, ih]
      constructor
      · rintro ⟨first, others⟩ t (⟨-, rfl⟩ | later)
        · exact first
        · exact others t later
      · intro all
        exact ⟨all rest (.inl ⟨rfl, rfl⟩), fun t later => all t (.inr later)⟩
    · have unmarked : '$' ∉ [c] := by simpa using Ne.symm mark
      have head : injectChars values (c :: rest) = c :: injectChars values rest :=
        injectChars_append unmarked
      have elsewhere : ∀ t, ('$' = c ∧ t = rest ∨ '$' :: t <:+ rest) ↔ '$' :: t <:+ rest := by
        intro t
        simp [Ne.symm mark]
      simp only [head, elsewhere, ← ih]
      simp [occurrences, mark]

end Passes

end PatternDeck.Program
