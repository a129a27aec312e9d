import PatternDeck.Proofs.Program.Lexeme

/-!
The grammar of the check. A program passes if it is not blank, all its comments and strings end, and
its brackets are well nested; if not, the flaw named is the first that a reading from the left meets,
and at the end an unended string before an opener without its closer.
-/
namespace PatternDeck.Program

/-- The pieces that are brackets. -/
def brackets (lexemes : List Lexeme) : List Lexeme := lexemes.filter Lexeme.isBracket

/-- The characters that so many pieces take up. -/
def width (lexemes : List Lexeme) : Nat := (lexemes.flatMap Lexeme.chars).length

/-- The words of brackets in which every opener has its closer. -/
inductive WellNested : List Lexeme → Prop where
  | empty : WellNested []
  | append {word later : List Lexeme} (nested : WellNested word) (follows : WellNested later) :
      WellNested (word ++ later)
  | enclosed (bracket : Bracket) {word : List Lexeme} (nested : WellNested word) :
      WellNested (.opener bracket :: (word ++ [.closer bracket]))

/-- The start of a program without a fault so far: what begins in it ends, and its brackets may still
become well nested. -/
structure Faultless (lexemes : List Lexeme) : Prop where
  ended : ∀ lexeme ∈ lexemes, lexeme.isUnended = false
  nestable : ∃ later, WellNested (brackets lexemes ++ later)

/-- The flaw of a program that is not blank. -/
inductive Fault : List Lexeme → Flaw → Prop where
  | unterminatedComment {before : List Lexeme} (body : List Char) (sound : Faultless before) :
      Fault (before ++ [.openComment body]) (.unterminatedComment (width before))
  | unexpectedCloser {before : List Lexeme} (found : Bracket) (after : List Lexeme)
      (sound : Faultless before) (nested : WellNested (brackets before)) :
      Fault (before ++ .closer found :: after) (.unexpectedCloser found (width before))
  | wrongCloser {before inner : List Lexeme} {expected found : Bracket} (after : List Lexeme)
      (sound : Faultless (before ++ .opener expected :: inner))
      (nested : WellNested (brackets inner)) (wrong : expected ≠ found) :
      Fault (before ++ .opener expected :: inner ++ .closer found :: after)
        (.wrongCloser expected found (width (before ++ .opener expected :: inner)))
  | unterminatedString {before : List Lexeme} (quote : Char) (body : List Char)
      (sound : Faultless before) :
      Fault (before ++ [.openString quote body]) (.unterminatedString quote (width before))
  | missingCloser {before inner : List Lexeme} (opened : Bracket)
      (sound : Faultless (before ++ .opener opened :: inner))
      (nested : WellNested (brackets inner)) :
      Fault (before ++ .opener opened :: inner) (.missingCloser opened (width before))

/-- What the pieces of a text, from a place on, make of the brackets that are open there. -/
def readAll : List Lexeme → List (Bracket × Nat) → Nat → Except Flaw (List (Bracket × Nat))
  | [], opened, _ => .ok opened
  | lexeme :: lexemes, opened, position =>
    lexeme.read opened position >>= fun opened =>
      readAll lexemes opened (position + lexeme.chars.length)

/-- The openers of a text that are left without their closers, the innermost first, each with its
place. -/
inductive Unclosed : List Lexeme → List (Bracket × Nat) → Prop where
  | closed {lexemes : List Lexeme} (nested : WellNested (brackets lexemes)) : Unclosed lexemes []
  | within {before inner : List Lexeme} {opened : List (Bracket × Nat)} (bracket : Bracket)
      (outer : Unclosed before opened) (nested : WellNested (brackets inner)) :
      Unclosed (before ++ .opener bracket :: inner) ((bracket, width before) :: opened)

variable {s : List Char} {lexemes before later : List Lexeme} {lexeme : Lexeme}
  {opened after : List (Bracket × Nat)} {position : Nat} {flaw : Flaw}

@[simp] theorem brackets_append (before later : List Lexeme) :
    brackets (before ++ later) = brackets before ++ brackets later :=
  List.filter_append before later

@[simp] theorem brackets_opener (bracket : Bracket) (later : List Lexeme) :
    brackets (.opener bracket :: later) = .opener bracket :: brackets later := rfl

@[simp] theorem width_nil : width [] = 0 := rfl

@[simp] theorem width_append (before later : List Lexeme) :
    width (before ++ later) = width before + width later := by
  simp [width]

@[simp] theorem width_cons (lexeme : Lexeme) (lexemes : List Lexeme) :
    width (lexeme :: lexemes) = lexeme.chars.length + width lexemes := by
  simp [width]

section Reading

theorem readAll_append (before later : List Lexeme) (opened : List (Bracket × Nat))
    (position : Nat) :
    readAll (before ++ later) opened position =
      readAll before opened position >>= fun opened =>
        readAll later opened (position + width before) := by
  induction before generalizing opened position with
  | nil => rfl
  | cons lexeme before ih =>
    rw [List.cons_append, readAll, readAll]
    cases lexeme.read opened position with
    | error flaw => rfl
    | ok opened =>
      refine (ih opened _).trans ?_
      rw [width_cons, Nat.add_assoc]
      rfl

theorem readAll_append_of_ok (read : readAll before opened position = .ok after)
    (later : List Lexeme) :
    readAll (before ++ later) opened position = readAll later after (position + width before) := by
  rw [readAll_append, read]
  rfl

/-- The scan sees what the pieces make of the brackets. -/
theorem verdict_of_reading (reading : Reading s lexemes) :
    Scan.verdict ⟨.code, opened, position⟩ s =
      readAll lexemes opened position >>= fun opened =>
        Scan.finish ⟨.code, opened, position + width lexemes⟩ := by
  induction reading generalizing opened position with
  | nil => rfl
  | @cons lexeme rest lexemes fits reading ih =>
    rw [Scan.verdict_lexeme fits, readAll]
    cases lexeme.read opened position with
    | error flaw => rfl
    | ok opened =>
      refine ih.trans ?_
      rw [width_cons, Nat.add_assoc]
      rfl

theorem reading_nil (reading : Reading [] lexemes) : lexemes = [] := by
  generalize empty : [] = s at reading
  cases reading with
  | nil => rfl
  | cons fits later =>
    rename_i lexeme rest _
    exact absurd (List.append_eq_nil_iff.1 empty.symm).1 lexeme.chars_ne_nil

/-- Behind a piece that does not end there is none. -/
theorem eq_nil_of_isUnended {rest : List Char} (fits : lexeme.Fits rest)
    (reading : Reading rest lexemes) (unended : lexeme.isUnended) : lexemes = [] := by
  cases lexeme with
  | openComment body =>
    obtain ⟨-, rfl⟩ := fits
    exact reading_nil reading
  | openString quote body =>
    obtain ⟨-, -, rfl⟩ := fits
    exact reading_nil reading
  | _ => cases unended

end Reading

section Nesting

theorem read_of_plain (ended : lexeme.isUnended = false) (plain : ¬lexeme.isBracket) :
    lexeme.read opened position = .ok opened := by
  cases lexeme with
  | openComment | openString => cases ended
  | opener | closer => exact absurd rfl plain
  | _ => rfl

theorem readAll_of_plain (ended : ∀ lexeme ∈ lexemes, lexeme.isUnended = false)
    (plain : ∀ lexeme ∈ lexemes, ¬lexeme.isBracket) :
    readAll lexemes opened position = .ok opened := by
  induction lexemes generalizing position with
  | nil => rfl
  | cons lexeme lexemes ih =>
    rw [List.forall_mem_cons] at ended plain
    rw [readAll, read_of_plain ended.1 plain.1]
    exact ih ended.2 plain.2

/-- Where brackets are well nested, those open before are open behind. -/
theorem readAll_of_wellNested {word : List Lexeme} (nested : WellNested word)
    (ended : ∀ lexeme ∈ lexemes, lexeme.isUnended = false) (same : brackets lexemes = word) :
    readAll lexemes opened position = .ok opened := by
  induction nested generalizing lexemes opened position with
  | empty => exact readAll_of_plain ended fun lexeme there => List.filter_eq_nil_iff.1 same lexeme there
  | append _ _ first second =>
    obtain ⟨front, back, rfl, here, there⟩ := List.filter_eq_append_iff.1 same
    rw [List.forall_mem_append] at ended
    rw [readAll_append_of_ok (first ended.1 here)]
    exact second ended.2 there
  | enclosed bracket _ inside =>
    obtain ⟨front, back, rfl, plain, -, rest⟩ := List.filter_eq_cons_iff.1 same
    obtain ⟨inner, tail, rfl, here, last⟩ := List.filter_eq_append_iff.1 rest
    obtain ⟨still, outer, rfl, plain', -, none⟩ := List.filter_eq_cons_iff.1 last
    simp only [List.forall_mem_append, List.forall_mem_cons] at ended
    obtain ⟨first, -, second, third, -, fourth⟩ := ended
    have opens (place : Nat) : Lexeme.read opened place (.opener bracket) =
        .ok ((bracket, place) :: opened) := rfl
    have closes (from' place : Nat) : Lexeme.read ((bracket, from') :: opened) place
        (.closer bracket) = .ok opened := if_pos rfl
    rw [readAll_append_of_ok (readAll_of_plain first plain), readAll, opens]
    change readAll (inner ++ _) _ _ = _
    rw [readAll_append_of_ok (inside second here),
      readAll_append_of_ok (readAll_of_plain third plain'), readAll, closes]
    exact readAll_of_plain fourth fun lexeme there => List.filter_eq_nil_iff.1 none lexeme there

theorem isBracket_of_wellNested {word : List Lexeme} (nested : WellNested word) :
    ∀ lexeme ∈ word, lexeme.isBracket := by
  induction nested with
  | empty => simp
  | append _ _ first second => exact List.forall_mem_append.2 ⟨first, second⟩
  | enclosed bracket _ inside =>
    rw [List.forall_mem_cons, List.forall_mem_append]
    exact ⟨rfl, inside, by simp [Lexeme.isBracket]⟩

theorem Faultless.exists_readAll (faultless : Faultless lexemes) :
    ∃ opened, readAll lexemes [] 0 = .ok opened := by
  obtain ⟨ended, later, nested⟩ := faultless
  have brackets' : ∀ lexeme ∈ later, lexeme.isBracket := fun lexeme there =>
    isBracket_of_wellNested nested lexeme (List.mem_append_right _ there)
  have ended' : ∀ lexeme ∈ lexemes ++ later, lexeme.isUnended = false := by
    refine List.forall_mem_append.2 ⟨ended, fun lexeme there => ?_⟩
    have := brackets' lexeme there
    cases lexeme <;> first | rfl | cases this
  have same : brackets (lexemes ++ later) = brackets lexemes ++ later := by
    rw [brackets_append, brackets, brackets, List.filter_eq_self.2 brackets']
  have read : readAll (lexemes ++ later) [] 0 = .ok [] :=
    readAll_of_wellNested nested ended' same
  rw [readAll_append] at read
  cases first : readAll lexemes [] 0 with
  | ok opened => exact ⟨opened, rfl⟩
  | error flaw =>
    rw [first] at read
    cases read

/-- An opener with a well-nested text behind it is the innermost that is open. -/
theorem Faultless.readAll_opener {inner : List Lexeme} {bracket : Bracket}
    (faultless : Faultless (before ++ .opener bracket :: inner))
    (nested : WellNested (brackets inner)) :
    ∃ outer, readAll (before ++ .opener bracket :: inner) [] 0 =
      .ok ((bracket, width before) :: outer) := by
  obtain ⟨opened, read⟩ := faultless.exists_readAll
  have ended : ∀ lexeme ∈ inner, lexeme.isUnended = false := fun lexeme there =>
    faultless.ended lexeme (List.mem_append_right _ (List.mem_cons_of_mem _ there))
  cases first : readAll before [] 0 with
  | error flaw =>
    rw [readAll_append, first] at read
    cases read
  | ok outer =>
    rw [readAll_append_of_ok first, Nat.zero_add]
    exact ⟨outer, readAll_of_wellNested nested ended rfl⟩

theorem Unclosed.append (unclosed : Unclosed lexemes opened)
    (nested : WellNested (brackets later)) : Unclosed (lexemes ++ later) opened := by
  cases unclosed with
  | closed first =>
    exact .closed (by rw [brackets_append]; exact first.append nested)
  | within bracket outer inside =>
    rw [List.append_assoc, List.cons_append]
    exact .within bracket outer (by rw [brackets_append]; exact inside.append nested)

/-- With closers for the brackets that are open, and a well-nested word before them, a text is well
nested. -/
theorem Unclosed.wellNested {word : List Lexeme} (unclosed : Unclosed lexemes opened)
    (nested : WellNested word) :
    WellNested (brackets lexemes ++ word ++ opened.map fun p => .closer p.1) := by
  induction unclosed generalizing word with
  | closed first => simpa using first.append nested
  | @within before inner opened bracket _ inside ih =>
    have completed := ih (.enclosed bracket (inside.append nested))
    simpa using completed

theorem Unclosed.faultless (unclosed : Unclosed lexemes opened)
    (ended : ∀ lexeme ∈ lexemes, lexeme.isUnended = false) : Faultless lexemes :=
  ⟨ended, _, by simpa using unclosed.wellNested .empty⟩

end Nesting

section Faults

theorem Unclosed.concat (unclosed : Unclosed lexemes opened)
    (read : lexeme.read opened (width lexemes) = .ok after) : Unclosed (lexemes ++ [lexeme]) after := by
  cases lexeme with
  | openComment | openString => cases read
  | opener bracket =>
    cases read
    exact .within bracket unclosed .empty
  | closer found =>
    cases unclosed with
    | closed nested => cases read
    | @within before inner opened bracket outer nested =>
      by_cases same : bracket = found
      · subst same
        rw [Lexeme.read, if_pos rfl, Except.ok.injEq] at read
        subst read
        rw [List.append_assoc, List.cons_append]
        refine outer.append ?_
        rw [brackets_opener, brackets_append]
        exact .enclosed bracket nested
      · rw [Lexeme.read, if_neg same] at read
        cases read
  | _ =>
    cases read
    exact unclosed.append .empty

theorem Unclosed.fault (unclosed : Unclosed before opened)
    (ended : ∀ lexeme ∈ before, lexeme.isUnended = false)
    (failed : lexeme.read opened (width before) = .error flaw)
    (last : lexeme.isUnended → later = []) : Fault (before ++ lexeme :: later) flaw := by
  have sound := unclosed.faultless ended
  cases lexeme with
  | openComment body =>
    cases failed
    rw [last rfl]
    exact .unterminatedComment body sound
  | openString quote body =>
    cases failed
    rw [last rfl]
    exact .unterminatedString quote body sound
  | closer found =>
    cases unclosed with
    | closed nested =>
      cases failed
      exact .unexpectedCloser found later sound nested
    | @within before inner opened expected _ nested =>
      by_cases same : expected = found
      · rw [Lexeme.read, if_pos same] at failed
        cases failed
      · rw [Lexeme.read, if_neg same, Except.error.injEq] at failed
        subst failed
        exact .wrongCloser later sound nested same
  | _ => cases failed

/-- The pieces leave open what has no closer, or one of them is at fault. -/
theorem readAll_cases (reading : Reading s later) (unclosed : Unclosed before opened)
    (ended : ∀ lexeme ∈ before, lexeme.isUnended = false) :
    (∃ after, readAll later opened (width before) = .ok after ∧ Unclosed (before ++ later) after ∧
        ∀ lexeme ∈ before ++ later, lexeme.isUnended = false) ∨
      ∃ flaw, readAll later opened (width before) = .error flaw ∧ Fault (before ++ later) flaw := by
  induction reading generalizing before opened with
  | nil =>
    rw [List.append_nil]
    exact .inl ⟨opened, rfl, unclosed, ended⟩
  | @cons lexeme rest later fits reading ih =>
    rw [readAll]
    cases read : lexeme.read opened (width before) with
    | error flaw =>
      exact .inr ⟨flaw, rfl, unclosed.fault ended read (eq_nil_of_isUnended fits reading)⟩
    | ok after =>
      have ends : lexeme.isUnended = false := by
        cases lexeme <;> first | rfl | cases read
      have next := ih (unclosed.concat read)
        (List.forall_mem_append.2 ⟨ended, List.forall_mem_singleton.2 ends⟩)
      rwa [← List.append_cons, width_append, width_cons, width_nil] at next

end Faults

section Check

theorem checkChars_of_reading (notBlank : ¬s.all Text.isBlank) (reading : Reading s lexemes) :
    checkChars s = readAll lexemes [] 0 >>= fun opened =>
      Scan.finish ⟨.code, opened, width lexemes⟩ := by
  rw [checkChars, if_neg notBlank, ← Nat.zero_add (width lexemes), ← verdict_of_reading reading]
  rfl

theorem checkChars_of_wellNested (notBlank : ¬s.all Text.isBlank) (reading : Reading s lexemes)
    (ended : ∀ lexeme ∈ lexemes, lexeme.isUnended = false)
    (nested : WellNested (brackets lexemes)) : checkChars s = .ok () := by
  rw [checkChars_of_reading notBlank reading, readAll_of_wellNested nested ended rfl]
  rfl

/-- A program at fault is told so. -/
theorem checkChars_of_fault (notBlank : ¬s.all Text.isBlank) (reading : Reading s lexemes)
    (fault : Fault lexemes flaw) : checkChars s = .error flaw := by
  rw [checkChars_of_reading notBlank reading]
  cases fault with
  | @unterminatedComment before body sound =>
    obtain ⟨opened, read⟩ := sound.exists_readAll
    rw [readAll_append_of_ok read, Nat.zero_add]
    rfl
  | @unexpectedCloser before found after sound nested =>
    rw [readAll_append_of_ok (readAll_of_wellNested nested sound.ended rfl), Nat.zero_add]
    rfl
  | @wrongCloser before inner expected found after sound nested wrong =>
    obtain ⟨outer, read⟩ := sound.readAll_opener nested
    rw [readAll_append_of_ok read, Nat.zero_add, readAll, Lexeme.read, if_neg wrong]
    rfl
  | @unterminatedString before quote body sound =>
    obtain ⟨opened, read⟩ := sound.exists_readAll
    rw [readAll_append_of_ok read, Nat.zero_add]
    rfl
  | @missingCloser before inner bracket sound nested =>
    obtain ⟨outer, read⟩ := sound.readAll_opener nested
    rw [read]
    rfl

/-- A program that is not blank passes the check or is at fault. -/
theorem checkChars_cases (notBlank : ¬s.all Text.isBlank) (reading : Reading s lexemes) :
    (checkChars s = .ok () ∧ (∀ lexeme ∈ lexemes, lexeme.isUnended = false) ∧
        WellNested (brackets lexemes)) ∨
      ∃ flaw, checkChars s = .error flaw ∧ Fault lexemes flaw := by
  rw [checkChars_of_reading notBlank reading]
  have nothing : Unclosed [] [] := .closed .empty
  rcases readAll_cases reading nothing (List.forall_mem_nil _) with
    ⟨opened, read, unclosed, ended⟩ | ⟨flaw, read, fault⟩
  · rw [List.nil_append] at unclosed ended
    rw [width_nil] at read
    rw [read]
    have sound := unclosed.faultless ended
    cases unclosed with
    | closed nested => exact .inl ⟨rfl, ended, nested⟩
    | within bracket outer nested => exact .inr ⟨_, rfl, .missingCloser bracket sound nested⟩
  · rw [width_nil] at read
    rw [read]
    exact .inr ⟨flaw, rfl, fault⟩

/-- Every program can be read as pieces, and however it is read, the check lets it pass just if it is
not blank, its comments and strings end and its brackets are well nested, and else names its flaw. -/
theorem check_iff_grammar (program : String) :
    (∃ lexemes, Reading program.toList lexemes) ∧
      ∀ lexemes, Reading program.toList lexemes →
        (check program = .ok () ↔
          ¬program.toList.all Text.isBlank ∧ (∀ lexeme ∈ lexemes, lexeme.isUnended = false) ∧
            WellNested (brackets lexemes)) ∧
        ∀ flaw, check program = .error flaw ↔
          if program.toList.all Text.isBlank then flaw = .blank else Fault lexemes flaw := by
  refine ⟨exists_reading _, fun lexemes reading => ?_⟩
  by_cases blank : program.toList.all Text.isBlank
  · have told : check program = .error .blank := by rw [check, checkChars, if_pos blank]
    rw [told]
    refine ⟨⟨fun passed => (nomatch passed), fun grammar => absurd blank grammar.1⟩, fun flaw => ?_⟩
    rw [if_pos blank, Except.error.injEq, eq_comm]
  · refine ⟨⟨fun passed => ?_, fun ⟨_, ended, nested⟩ =>
      checkChars_of_wellNested blank reading ended nested⟩, fun flaw => ?_⟩
    · rcases checkChars_cases blank reading with ⟨-, grammar⟩ | ⟨flaw, failed, -⟩
      · exact ⟨blank, grammar⟩
      · cases passed.symm.trans failed
    · rw [if_neg blank]
      refine ⟨fun failed => ?_, checkChars_of_fault blank reading⟩
      rcases checkChars_cases blank reading with ⟨passed, -⟩ | ⟨told, failed', fault⟩
      · cases passed.symm.trans failed
      · cases failed.symm.trans failed'
        exact fault

example : check "s(`(`) /* [ */ // )" = .ok () := by decide +kernel
example : check "s([/*/)" = .error (.unterminatedComment 3) := by decide +kernel

end Check

end PatternDeck.Program
