import PatternDeck.Program.Structure

/-!
Scans of a text that stands inside another. What a scan does to a text hangs on its mode and on the
brackets that the text itself opened: neither the place of the text nor the brackets opened around it
matter, as long as the text by itself is read without a flaw.
-/
namespace PatternDeck.Program

/-- The same mode, begun at perhaps another place. -/
inductive Mode.Alike : Mode → Mode → Prop where
  | code : Alike .code .code
  | slash : Alike .slash .slash
  | lineComment : Alike .lineComment .lineComment
  | blockComment (here there : Nat) : Alike (.blockComment here) (.blockComment there)
  | star (here there : Nat) : Alike (.star here) (.star there)
  | string (quote : Char) (here there : Nat) : Alike (.string quote here) (.string quote there)
  | escape (quote : Char) (here there : Nat) : Alike (.escape quote here) (.escape quote there)

/-- Whether what follows is read as code. -/
def Mode.isPlain : Mode → Bool
  | .code | .slash => true
  | _ => false

theorem Mode.Alike.isPlain {own outer : Mode} (alike : own.Alike outer) :
    outer.isPlain = own.isPlain := by
  cases alike <;> rfl

theorem Mode.Alike.refl (mode : Mode) : mode.Alike mode := by
  cases mode <;> constructor

namespace Scan

/-- The kinds of the brackets that are open. -/
def kinds (scan : Scan) : List Bracket := scan.opened.map (·.1)

/-- A scan that reads the same text as another, inside brackets that were open before. -/
structure Above (base : List Bracket) (own outer : Scan) : Prop where
  mode : own.mode.Alike outer.mode
  kinds : outer.kinds = own.kinds ++ base

theorem Above.refl (scan : Scan) : Above [] scan scan :=
  ⟨.refl scan.mode, by simp⟩

/-- Where code goes on, a text is read as at the start. -/
theorem above_start (scan : Scan) (starts : scan.mode = .code) : Above scan.kinds {} scan :=
  ⟨starts ▸ .code, rfl⟩

theorem kinds_eq_nil {scan : Scan} (closed : scan.opened = []) : scan.kinds = [] := by
  rw [kinds, closed, List.map_nil]

variable {base : List Bracket} {own outer after : Scan} {c : Char}

theorem run_cons (scan : Scan) (c : Char) (s : List Char) :
    scan.run (c :: s) = scan.step c >>= fun scan => scan.run s :=
  List.foldlM_cons

theorem run_append_of_ok {scan : Scan} {s : List Char} (ran : scan.run s = .ok after)
    (t : List Char) : scan.run (s ++ t) = after.run t := by
  rw [run_append, ran]
  rfl

private theorem code_above (kinds : outer.kinds = own.kinds ++ base)
    (read : own.code c = .ok after) : ∃ later, outer.code c = .ok later ∧ Above base after later := by
  obtain ⟨mode, opened, position⟩ := own
  obtain ⟨mode', opened', position'⟩ := outer
  simp only [Scan.kinds] at kinds
  unfold code at read ⊢
  by_cases quoted : isQuote c
  · simp only [quoted, if_true, Except.ok.injEq] at read ⊢
    subst read
    exact ⟨_, rfl, .string c position position', kinds⟩
  · simp only [quoted, Bool.false_eq_true, if_false] at read ⊢
    cases opens : Bracket.ofOpener? c with
    | some bracket =>
      simp only [opens, Except.ok.injEq] at read ⊢
      subst read
      exact ⟨_, rfl, .code, by simp [Scan.kinds, kinds]⟩
    | none =>
      simp only [opens] at read ⊢
      cases closes : Bracket.ofCloser? c with
      | none =>
        simp only [closes, Except.ok.injEq] at read ⊢
        subst read
        refine ⟨_, rfl, ?_, kinds⟩
        simp only [turn]
        split
        · exact .slash
        · exact .code
      | some found =>
        simp only [closes] at read ⊢
        cases opened with
        | nil => cases read
        | cons innermost rest =>
          obtain ⟨expected, place⟩ := innermost
          by_cases matches' : expected = found
          · simp only [matches', if_true, Except.ok.injEq] at read
            subst read
            -- the outer scan has the same bracket innermost, whatever is open below it
            obtain ⟨outermost, rest', rfl, same, below⟩ := List.map_eq_cons_iff.1 kinds
            obtain ⟨expected', place'⟩ := outermost
            simp only at same
            subst same
            simp only [matches', if_true]
            exact ⟨_, rfl, .code, below⟩
          · simp only [matches', if_false] at read
            cases read

/-- A step inside is a step outside. -/
theorem step_above (above : Above base own outer) (read : own.step c = .ok after) :
    ∃ later, outer.step c = .ok later ∧ Above base after later := by
  obtain ⟨alike, kinds⟩ := above
  have code : own.code c = .ok after →
      ∃ later, outer.code c = .ok later ∧ Above base after later := code_above kinds
  obtain ⟨mode, opened, position⟩ := own
  obtain ⟨mode', opened', position'⟩ := outer
  simp only at alike
  cases alike with
  | code => exact code read
  | slash =>
    simp only [step] at read ⊢
    by_cases line : c = '/'
    · simp only [line, if_true, Except.ok.injEq] at read ⊢
      subst read
      exact ⟨_, rfl, .lineComment, kinds⟩
    · by_cases block : c = '*'
      · rw [if_neg line, if_pos block, Except.ok.injEq] at read
        rw [if_neg line, if_pos block]
        subst read
        exact ⟨_, rfl, .blockComment _ _, kinds⟩
      · simp only [line, block, if_false] at read ⊢
        exact code read
  | lineComment =>
    cases read
    refine ⟨_, rfl, ?_, kinds⟩
    simp only [turn]
    split
    · exact .code
    · exact .lineComment
  | blockComment here there =>
    cases read
    refine ⟨_, rfl, ?_, kinds⟩
    simp only [turn]
    split
    · exact .star here there
    · exact .blockComment here there
  | star here there =>
    cases read
    refine ⟨_, rfl, ?_, kinds⟩
    simp only [turn]
    split
    · exact .code
    · split
      · exact .star here there
      · exact .blockComment here there
  | string quote here there =>
    cases read
    refine ⟨_, rfl, ?_, kinds⟩
    simp only [turn]
    split
    · exact .escape quote here there
    · split
      · exact .code
      · exact .string quote here there
  | escape quote here there =>
    cases read
    exact ⟨_, rfl, .string quote here there, kinds⟩

/-- A text that is read without a flaw by itself is read so inside another. -/
theorem run_above {s : List Char} (above : Above base own outer) (read : own.run s = .ok after) :
    ∃ later, outer.run s = .ok later ∧ Above base after later := by
  induction s generalizing own outer with
  | nil =>
    cases read
    exact ⟨outer, rfl, above⟩
  | cons c rest ih =>
    rw [run_cons] at read
    cases stepped : own.step c with
    | error flaw =>
      rw [stepped] at read
      cases read
    | ok middle =>
      rw [stepped] at read
      obtain ⟨middle', stepped', above'⟩ := step_above above stepped
      obtain ⟨later, ran, last⟩ := ih above' read
      refine ⟨later, ?_, last⟩
      rw [run_cons, stepped']
      exact ran

end Scan

end PatternDeck.Program
