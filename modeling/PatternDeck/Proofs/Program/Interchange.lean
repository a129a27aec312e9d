import PatternDeck.Proofs.Outcome
import PatternDeck.Proofs.Program.Filling
import PatternDeck.Proofs.Program.Stacking
import PatternDeck.Renderer.Remote

/-!
Programs that differ in their numbers alone. Placeholders and numbers are made of characters that
mean nothing to the structure of a program, so where one of them stands for another, whatever it is
and however long, the text around it is read as before. Filling in a program changes nothing else.
-/
namespace PatternDeck.Program

/-- A character of placeholders and of numbers. -/
def isInert (c : Char) : Bool := isNamePart c || c == '$' || isNumeric c

/-- A text of such characters, at least one of them. -/
structure Inert (s : List Char) : Prop where
  some : s ≠ []
  each : ∀ c ∈ s, isInert c

section Characters

variable {c : Char} {s name : List Char}

theorem ne_of_isInert {d : Char} (inert : isInert c) (other : isInert d = false) : c ≠ d := by
  rintro rfl
  rw [inert] at other
  cases other

/-- All of them stand behind the blanks of ASCII and before every other blank. -/
theorem toNat_of_isInert (inert : isInert c) : 36 ≤ c.toNat ∧ c.toNat ≤ 122 := by
  have alphanum : c.isAlphanum → 36 ≤ c.toNat ∧ c.toNat ≤ 122 := by
    intro alphanum
    rcases Bool.or_eq_true_iff.1 alphanum with letter | digit
    · have bounds := toNat_of_isAlpha letter
      omega
    · have least : 48 ≤ c.toNat := (Char.isDigit_iff_toNat.1 digit).1
      have greatest := toNat_of_isDigit digit
      omega
  simp only [isInert, isNamePart, isNumeric, Bool.or_eq_true, beq_iff_eq] at inert
  rcases inert with ((named | rfl) | rfl) | (((digit | rfl) | rfl) | rfl) | rfl
  · exact alphanum named
  · decide
  · decide
  · exact alphanum (Bool.or_eq_true_iff.2 (.inr digit))
  · decide
  · decide
  · decide
  · decide

theorem isBlank_of_isInert (inert : isInert c) : Text.isBlank c = false := by
  obtain ⟨least, greatest⟩ := toNat_of_isInert inert
  simp only [Text.isBlank, Text.inRanges, Text.blankRanges, List.any_cons, List.any_nil,
    Bool.or_false, Bool.or_eq_false_iff, Bool.and_eq_false_iff, decide_eq_false_iff_not]
  omega

theorem inert_of_numeral (numeral : Numeral s) : Inert s := by
  obtain ⟨⟨c, rest, rfl, -⟩, numeric⟩ := numeral
  refine ⟨List.cons_ne_nil c rest, fun d there => ?_⟩
  simp [isInert, numeric d there]

/-- What a number is written as, infinities and NaN among them. -/
theorem inert_literalChars (value : Float) : Inert (literalChars value) := by
  rcases Binary.ofFloat_cases value with ⟨_, _, _, read, bound⟩ | ⟨negative, read⟩ | read
  · exact inert_of_numeral (numeral_of_ofFloat read bound)
  · rw [literalChars, read]
    cases negative
    all_goals exact ⟨by decide, List.all_eq_true.1 (by decide)⟩
  · rw [literalChars, read]
    exact ⟨by decide, List.all_eq_true.1 (by decide)⟩

theorem inert_mark (isName : IsName name) : Inert ('$' :: name) := by
  refine ⟨List.cons_ne_nil _ _, List.forall_mem_cons.2 ⟨rfl, fun c there => ?_⟩⟩
  rw [← isName.2] at there
  simp [isInert, isNamePart_of_mem_nameAt there]

end Characters

section Peers

/-- A string is opened by a quote. -/
def Mode.IsQuoted : Mode → Prop
  | .string quote _ | .escape quote _ => isQuote quote
  | _ => True

/-- The mode behind characters that mean nothing. -/
def Mode.past : Mode → Mode
  | .slash => .code
  | .star start => .blockComment start
  | .escape quote start => .string quote start
  | mode => mode

variable {own outer after : Scan} {c : Char} {s : List Char}

theorem Mode.past_past (mode : Mode) : mode.past.past = mode.past := by
  cases mode <;> rfl

theorem Mode.IsQuoted.past {mode : Mode} (quoted : mode.IsQuoted) : mode.past.IsQuoted := by
  cases mode <;> exact quoted

theorem Mode.Alike.trans {own middle outer : Mode} (first : own.Alike middle)
    (second : middle.Alike outer) : own.Alike outer := by
  cases first <;> cases second <;> constructor

namespace Scan

theorem code_isQuoted (read : own.code c = .ok after) : after.mode.IsQuoted := by
  unfold code at read
  by_cases quoted : isQuote c
  · rw [if_pos quoted, Except.ok.injEq] at read
    exact read ▸ quoted
  · rw [if_neg quoted] at read
    split at read
    · cases read
      trivial
    · cases read
      simp only [turn]
      split <;> trivial
    · cases read
    · split at read
      · cases read
        trivial
      · cases read

theorem step_isQuoted (quoted : own.mode.IsQuoted) (read : own.step c = .ok after) :
    after.mode.IsQuoted := by
  have code : own.code c = .ok after → after.mode.IsQuoted := code_isQuoted
  obtain ⟨mode, opened, position⟩ := own
  cases mode with
  | code => exact code read
  | slash =>
    simp only [step] at read
    split at read
    · cases read
      trivial
    · split at read
      · cases read
        trivial
      · exact code read
  | lineComment | blockComment | star =>
    cases read
    simp only [turn]
    split_ifs <;> trivial
  | string quote start =>
    cases read
    simp only [turn]
    split_ifs
    · exact quoted
    · trivial
    · exact quoted
  | escape quote start =>
    cases read
    exact quoted

theorem run_isQuoted (quoted : own.mode.IsQuoted) (read : own.run s = .ok after) :
    after.mode.IsQuoted := by
  induction s generalizing own with
  | nil =>
    cases read
    exact quoted
  | cons c rest ih =>
    rw [run_cons] at read
    cases stepped : own.step c with
    | error flaw =>
      rw [stepped] at read
      cases read
    | ok middle =>
      rw [stepped] at read
      exact ih (step_isQuoted quoted stepped) read

/-- Scans in alike modes with the same brackets open, wherever they are. -/
structure Peers (own outer : Scan) : Prop extends Above [] own outer where
  quoted : own.mode.IsQuoted

theorem Peers.refl (quoted : own.mode.IsQuoted) : Peers own own := ⟨.refl own, quoted⟩

theorem Peers.trans {middle : Scan} (first : Peers own middle) (second : Peers middle outer) :
    Peers own outer :=
  ⟨⟨first.mode.trans second.mode, by rw [second.kinds, first.kinds, List.append_nil]⟩, first.quoted⟩

theorem Peers.run (peers : Peers own outer) (read : own.run s = .ok after) :
    ∃ later, outer.run s = .ok later ∧ Peers after later := by
  obtain ⟨later, ran, above⟩ := run_above peers.toAbove read
  exact ⟨later, ran, above, run_isQuoted peers.quoted read⟩

theorem Peers.finish (peers : Peers own outer) (finished : own.finish = .ok ()) :
    outer.finish = .ok () := by
  rw [finish_eq_ok_iff] at finished ⊢
  obtain ⟨⟨alike, kinds⟩, -⟩ := peers
  obtain ⟨mode, closed⟩ := finished
  rw [kinds_eq_nil closed] at kinds
  refine ⟨?_, List.map_eq_nil_iff.1 kinds⟩
  rw [alike.isPlain]
  refine mode.imp_right fun comment => ?_
  rw [comment] at alike
  generalize outer.mode = mode' at alike
  cases alike
  rfl

end Scan

end Peers

section Inert

variable {c : Char} {s : List Char}

namespace Scan

theorem code_of_isInert (scan : Scan) (inert : isInert c) : scan.code c = .ok (scan.turn .code) := by
  have signs : ['"', '\'', '`', '(', ')', '[', ']', '{', '}', '/'].all (!isInert ·) := by decide
  rw [List.all_eq_true] at signs
  have others := fun d there => ne_of_isInert inert (by simpa using signs d there)
  simp only [List.forall_mem_cons] at others
  obtain ⟨double, single, tick, round, roundEnd, square, squareEnd, curly, curlyEnd, slash, -⟩ :=
    others
  have quote : isQuote c = false := by simp [isQuote, double, single, tick]
  have opens : Bracket.ofOpener? c = none := by
    simp [Bracket.ofOpener?, Bracket.opener, round.symm, square.symm, curly.symm]
  have closes : Bracket.ofCloser? c = none := by
    simp [Bracket.ofCloser?, Bracket.closer, roundEnd.symm, squareEnd.symm, curlyEnd.symm]
  simp [code, quote, opens, closes, slash]

theorem step_of_isInert (scan : Scan) (quoted : scan.mode.IsQuoted) (inert : isInert c) :
    scan.step c = .ok (scan.turn scan.mode.past) := by
  have slash : c ≠ '/' := ne_of_isInert inert (by decide)
  have star : c ≠ '*' := ne_of_isInert inert (by decide)
  have line : c ≠ '\n' := ne_of_isInert inert (by decide)
  have backslash : c ≠ '\\' := ne_of_isInert inert (by decide)
  have code := scan.code_of_isInert inert
  obtain ⟨mode, opened, position⟩ := scan
  cases mode with
  | code => exact code
  | slash =>
    rw [step, if_neg slash, if_neg star]
    exact code
  | lineComment => simp only [step, if_neg line, Mode.past]
  | blockComment start => simp only [step, if_neg star, Mode.past]
  | star start => simp only [step, if_neg slash, if_neg star, Mode.past]
  | string quote start =>
    -- a string is opened by a quote, so what means nothing does not close it
    have open' : c ≠ quote := by
      rintro rfl
      simp only [Mode.IsQuoted, isQuote, Bool.or_eq_true, beq_iff_eq] at quoted
      rcases quoted with (rfl | rfl) | rfl
      all_goals exact absurd inert (by decide)
    simp only [step, if_neg backslash, if_neg open', Mode.past]
  | escape quote start => rfl

/-- However many such characters there are, they are passed over. -/
theorem run_of_inert (scan : Scan) (quoted : scan.mode.IsQuoted) (inert : Inert s) :
    scan.run s =
      .ok { scan with mode := scan.mode.past, position := scan.position + s.length } := by
  obtain ⟨some, each⟩ := inert
  induction s generalizing scan with
  | nil => exact absurd rfl some
  | cons c rest ih =>
    obtain ⟨first, others⟩ := List.forall_mem_cons.1 each
    rw [run_cons, step_of_isInert scan quoted first]
    by_cases last : rest = []
    · subst last
      rfl
    · refine (ih (scan.turn scan.mode.past) quoted.past last others).trans ?_
      simp only [turn, Mode.past_past, List.length_cons, Nat.add_assoc, Nat.add_comm 1]

end Scan

end Inert

section Interchange

/-- Wherever one text is read without a flaw, the other is, and the same is open behind it. -/
def ReadLike (s t : List Char) : Prop :=
  ∀ ⦃scan after : Scan⦄, scan.mode.IsQuoted → scan.run s = .ok after →
    ∃ later, scan.run t = .ok later ∧ after.Peers later

/-- Two texts of which either may stand for the other in every program. -/
structure Interchangeable (s t : List Char) : Prop where
  blank : s.all Text.isBlank = t.all Text.isBlank
  forth : ReadLike s t
  back : ReadLike t s

variable {s t u s' t' name literal : List Char}

theorem ReadLike.trans (first : ReadLike s t) (second : ReadLike t u) : ReadLike s u := by
  intro scan after quoted read
  obtain ⟨middle, read', peers⟩ := first quoted read
  obtain ⟨later, read'', peers'⟩ := second quoted read'
  exact ⟨later, read'', peers.trans peers'⟩

theorem ReadLike.append (first : ReadLike s t) (second : ReadLike s' t') :
    ReadLike (s ++ s') (t ++ t') := by
  intro scan after quoted read
  rw [Scan.run_append] at read
  obtain ⟨middle, read, rest⟩ := bind_eq_ok_iff.1 read
  obtain ⟨middle', read', peers⟩ := first quoted read
  obtain ⟨end', rest', peers'⟩ := second peers.quoted rest
  -- the second text is read from a peer of the place where it was read before
  obtain ⟨later, rest'', last⟩ := peers.run rest'
  refine ⟨later, ?_, peers'.trans last⟩
  rw [Scan.run_append_of_ok read', rest'']

theorem ReadLike.of_inert (first : Inert s) (second : Inert t) : ReadLike s t := by
  intro scan after quoted read
  rw [scan.run_of_inert quoted first, Except.ok.injEq] at read
  subst read
  exact ⟨_, scan.run_of_inert quoted second, ⟨.refl _, by simp [Scan.kinds]⟩, quoted.past⟩

namespace Interchangeable

theorem refl (s : List Char) : Interchangeable s s :=
  have same : ReadLike s s := fun _ _ quoted read =>
    ⟨_, read, .refl (Scan.run_isQuoted quoted read)⟩
  ⟨rfl, same, same⟩

theorem symm (same : Interchangeable s t) : Interchangeable t s :=
  ⟨same.blank.symm, same.back, same.forth⟩

theorem trans (first : Interchangeable s t) (second : Interchangeable t u) : Interchangeable s u :=
  ⟨first.blank.trans second.blank, first.forth.trans second.forth, second.back.trans first.back⟩

theorem append (first : Interchangeable s t) (second : Interchangeable s' t') :
    Interchangeable (s ++ s') (t ++ t') where
  blank := by rw [List.all_append, List.all_append, first.blank, second.blank]
  forth := first.forth.append second.forth
  back := first.back.append second.back

theorem of_inert (first : Inert s) (second : Inert t) : Interchangeable s t := by
  have shown : ∀ {s}, Inert s → s.all Text.isBlank = false := by
    rintro s ⟨some, each⟩
    obtain ⟨c, rest, rfl⟩ := List.exists_cons_of_ne_nil some
    rw [List.all_cons, isBlank_of_isInert (each c List.mem_cons_self), Bool.false_and]
  exact ⟨(shown first).trans (shown second).symm, .of_inert first second, .of_inert second first⟩

/-- One pass over a program puts numbers in the place of placeholders. -/
theorem fill (isName : IsName name) (inert : Inert literal) (s : List Char) :
    Interchangeable s (Program.fill name literal s) := by
  -- induction on the length, since a placeholder is passed over as a whole
  induction hs : s.length using Nat.strongRecOn generalizing s with
  | ind length ih =>
    subst hs
    rcases s with _ | ⟨c, rest⟩
    · exact refl []
    · by_cases here : c = '$' ∧ namedHere name rest
      · obtain ⟨rfl, named⟩ := here
        have split : rest = name ++ rest.drop name.length := by
          obtain ⟨isPrefix, -⟩ := Bool.and_eq_true_iff.1 named
          exact (List.prefix_iff_eq_append.1 (List.isPrefixOf_iff_prefix.1 isPrefix)).symm
        have shorter : (rest.drop name.length).length < ('$' :: rest).length := by
          rw [List.length_drop, List.length_cons]
          omega
        have later := ih _ shorter _ rfl
        rw [fill_of_namedHere named]
        have whole := (of_inert (inert_mark isName) inert).append later
        rwa [List.cons_append, ← split] at whole
      · have same : Program.fill name literal (c :: rest) = c :: Program.fill name literal rest := by
          by_cases mark : c = '$'
          · subst mark
            exact fill_of_not_namedHere fun named => here ⟨rfl, named⟩
          · exact fill_cons_of_ne mark
        rw [same]
        exact (refl [c]).append (ih rest.length (by simp) rest rfl)

theorem injectChars {values : List (List Char × Float)} (names : ∀ p ∈ values, IsName p.1)
    (s : List Char) : Interchangeable s (Program.injectChars values s) := by
  induction values generalizing s with
  | nil => exact refl s
  | cons p values ih =>
    obtain ⟨first, others⟩ := List.forall_mem_cons.1 names
    exact (fill first (inert_literalChars p.2) s).trans (ih others _)

theorem inject {values : List (String × Float)} (names : ∀ p ∈ values, IsName p.1.toList)
    (code : String) : Interchangeable code.toList (Program.inject values code).toList := by
  rw [Program.inject, String.toList_ofList]
  apply injectChars
  intro p there
  obtain ⟨q, member, rfl⟩ := List.mem_map.1 there
  exact names q member

theorem intercalate {texts others : List (List Char)} (separator : List Char)
    (each : List.Forall₂ Interchangeable texts others) :
    Interchangeable (separator.intercalate texts) (separator.intercalate others) := by
  induction each with
  | nil => exact refl _
  | @cons s t texts others first rest ih =>
    cases rest with
    | nil => simpa using first
    | cons second rest =>
      rw [List.intercalate_cons_cons, List.intercalate_cons_cons]
      exact (first.append (refl separator)).append ih

/-- A stack of texts is read as a stack of those that stand for them. -/
theorem stack? {codes others : List String} (some : codes ≠ [])
    (each : List.Forall₂ (fun code other => Interchangeable code.toList other.toList) codes others) :
    ∃ text text', Program.stack? codes = .some text ∧ Program.stack? others = .some text' ∧
      Interchangeable text.toList text'.toList := by
  cases each with
  | nil => exact absurd rfl some
  | @cons code other codes others first rest =>
    cases rest with
    | nil => exact ⟨code, other, rfl, rfl, first⟩
    | @cons code' other' codes others second rest =>
      refine ⟨_, _, rfl, rfl, ?_⟩
      have texts : List.Forall₂ (fun code other => Interchangeable code.toList other.toList)
          (code :: code' :: codes) (other :: other' :: others) := .cons first (.cons second rest)
      have joined := intercalate ", ".toList
        (List.forall₂_map_left_iff.2 (List.forall₂_map_right_iff.2 texts))
      simp only [stackText, String.toList_append, String.toList_intercalate]
      exact ((refl _).append joined).append (refl _)

theorem accepted {program other : String} (same : Interchangeable program.toList other.toList)
    (valid : check program = .ok ()) : check other = .ok () := by
  rw [check_eq_ok_iff] at valid ⊢
  obtain ⟨shown, scan, ran, finished⟩ := valid
  have start : ({} : Scan).mode.IsQuoted := trivial
  obtain ⟨later, ran', peers⟩ := same.forth start ran
  exact ⟨same.blank ▸ shown, later, ran', peers.finish finished⟩

theorem check_iff {program other : String}
    (same : Interchangeable program.toList other.toList) :
    check program = .ok () ↔ check other = .ok () :=
  ⟨same.accepted, same.symm.accepted⟩

end Interchangeable

end Interchange

section Values

variable {codes : List String} {first second : List (List (String × Float))}

/-- Codes filled in, each by values of its own. -/
theorem interchangeable_filled (length : first.length = codes.length)
    (names : ∀ values ∈ first, ∀ p ∈ values, IsName p.1.toList) :
    List.Forall₂ (fun code other => Interchangeable code.toList other.toList) codes
      (List.zipWith inject first codes) := by
  induction codes generalizing first with
  | nil => simp
  | cons code codes ih =>
    rcases first with _ | ⟨values, first⟩
    · cases length
    · obtain ⟨own, others⟩ := List.forall_mem_cons.1 names
      exact .cons (.inject own code) (ih (Nat.succ.inj length) others)

/-- Two ways to fill in the same placeholders of some codes, with any numbers: the stack is accepted
with the ones exactly if it is with the others, and exactly if it is with the placeholders in place.
So the remote renderer does not refuse for its numbers what it took with others. -/
theorem accepted_whatever_values (some : codes ≠ []) (length : first.length = codes.length)
    (alike : first.map (·.map Prod.fst) = second.map (·.map Prod.fst))
    (names : ∀ values ∈ first, ∀ p ∈ values, IsName p.1.toList) :
    ∃ text one other, stack? codes = .some text ∧
      stack? (List.zipWith inject first codes) = .some one ∧
      stack? (List.zipWith inject second codes) = .some other ∧
      (check one = .ok () ↔ check other = .ok ()) ∧ (check other = .ok () ↔ check text = .ok ()) ∧
      ∀ remote later : Renderer.Remote, (∃ handle, (remote.compile one).1 = .ok handle) →
        ∃ handle, (later.compile other).1 = .ok handle := by
  have length' : second.length = codes.length := by
    rw [← length, ← List.length_map, ← alike, List.length_map]
  have names' : ∀ values ∈ second, ∀ p ∈ values, IsName p.1.toList := by
    -- the second way has the names of the first
    intro values there p member
    have same : values.map Prod.fst ∈ first.map (·.map Prod.fst) := alike ▸ List.mem_map_of_mem there
    obtain ⟨values', there', equal⟩ := List.mem_map.1 same
    have name : p.1 ∈ values'.map Prod.fst := equal ▸ List.mem_map_of_mem member
    obtain ⟨q, member', name⟩ := List.mem_map.1 name
    exact name ▸ names values' there' q member'
  obtain ⟨text, one, stacked, stacked', same⟩ :=
    Interchangeable.stack? some (interchangeable_filled length names)
  obtain ⟨text', other, again, stacked'', same'⟩ :=
    Interchangeable.stack? some (interchangeable_filled length' names')
  obtain rfl : text = text' := Option.some.inj (stacked.symm.trans again)
  have both := same.symm.trans same'
  refine ⟨text, one, other, stacked, stacked', stacked'', both.check_iff, same'.symm.check_iff, ?_⟩
  intro remote later ⟨handle, taken⟩
  have valid : check one = .ok () := by
    unfold Renderer.Remote.compile at taken
    split at taken
    · cases taken
    next valid => exact valid
  refine ⟨⟨later.next, other⟩, ?_⟩
  rw [Renderer.Remote.compile, both.accepted valid]

/-- Placeholders behind a backslash, behind one another and behind what may open a comment, filled
in with infinities and NaN. -/
theorem accepted_at_infinity :
    ∃ text, stack? (List.zipWith inject [[("a", 1 / 0), ("b", 0 / 0)], [("b", -1 / 0)]]
      ["'\\$b$a' // $a\n", "(/$b/*$*/)"]) = some text ∧ check text = .ok () := by
  have names : ∀ values ∈ [[("a", 0.5), ("b", 2)], [("b", (-3 : Float))]],
      ∀ p ∈ values, IsName p.1.toList := by
    intro values there p member
    simp only [List.mem_cons, List.not_mem_nil, or_false] at there
    rcases there with rfl | rfl <;> simp only [List.mem_cons, List.not_mem_nil, or_false] at member
    · rcases member with rfl | rfl <;> exact ⟨by decide, rfl⟩
    · exact member ▸ ⟨by decide, rfl⟩
  have alike : [[("a", 0.5), ("b", 2)], [("b", (-3 : Float))]].map (·.map Prod.fst) =
      [[("a", 1 / 0), ("b", 0 / 0)], [("b", (-1 / 0 : Float))]].map (·.map Prod.fst) := by
    simp only [List.map_cons, List.map_nil]
  obtain ⟨text, -, other, stacked, -, filled, -, valid, -⟩ :=
    @accepted_whatever_values ["'\\$b$a' // $a\n", "(/$b/*$*/)"] _ _
      (List.cons_ne_nil _ _) rfl alike names
  simp only [stack?, Option.some.injEq] at stacked
  exact ⟨other, filled, valid.2 (stacked ▸ rfl)⟩

end Values

end PatternDeck.Program
