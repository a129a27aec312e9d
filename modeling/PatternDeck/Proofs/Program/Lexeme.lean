import Mathlib.Data.List.Infix
import PatternDeck.Proofs.Program.Scanning

/-!
The pieces of a program: comments, strings, brackets and other characters. Every program is read as a
list of them from the left, and to the scan each piece is one step: it opens a bracket, closes one,
leaves the program unended, or matters nothing.
-/
namespace PatternDeck.Program

/-- A piece of a program. -/
inductive Lexeme where
  | lineComment (body : List Char)
  /-- A line comment that ends with the text. -/
  | lastLine (body : List Char)
  | blockComment (body : List Char)
  /-- A block comment that does not end. -/
  | openComment (body : List Char)
  | string (quote : Char) (body : List Char)
  /-- A string that does not end. -/
  | openString (quote : Char) (body : List Char)
  | opener (bracket : Bracket)
  | closer (bracket : Bracket)
  | other (c : Char)
  deriving DecidableEq, Repr

/-- What may stand between two quotes: a backslash is followed by any one character. -/
inductive Quoted (quote : Char) : List Char → Prop where
  | nil : Quoted quote []
  | plain {c : Char} {body : List Char} (other : c ≠ quote) (unescaped : c ≠ '\\')
      (later : Quoted quote body) : Quoted quote (c :: body)
  | escaped (c : Char) {body : List Char} (later : Quoted quote body) :
      Quoted quote ('\\' :: c :: body)

namespace Lexeme

def chars : Lexeme → List Char
  | lineComment body => '/' :: '/' :: (body ++ ['\n'])
  | lastLine body => '/' :: '/' :: body
  | blockComment body => '/' :: '*' :: (body ++ ['*', '/'])
  | openComment body => '/' :: '*' :: body
  | string quote body => quote :: (body ++ [quote])
  | openString quote body => quote :: body
  | opener bracket => [bracket.opener]
  | closer bracket => [bracket.closer]
  | other c => [c]

/-- Whether a text that goes on so may start with this piece. -/
def Fits (rest : List Char) : Lexeme → Prop
  | lineComment body => '\n' ∉ body
  | lastLine body => '\n' ∉ body ∧ rest = []
  | blockComment body => ¬['*', '/'] <:+: body
  | openComment body => ¬['*', '/'] <:+: body ∧ rest = []
  | string quote body => isQuote quote ∧ Quoted quote body
  | openString quote body =>
    isQuote quote ∧ (Quoted quote body ∨ ∃ before, body = before ++ ['\\'] ∧ Quoted quote before) ∧
      rest = []
  | opener _ | closer _ => True
  | other c =>
    ¬isQuote c ∧ (∀ bracket : Bracket, c ≠ bracket.opener ∧ c ≠ bracket.closer) ∧
      (c = '/' → rest.head? ≠ some '/' ∧ rest.head? ≠ some '*')

def isBracket : Lexeme → Bool
  | opener _ | closer _ => true
  | _ => false

/-- Whether the piece is a comment or a string that does not end. -/
def isUnended : Lexeme → Bool
  | openComment _ | openString _ _ => true
  | _ => false

end Lexeme

/-- How a text is read from the left. -/
inductive Reading : List Char → List Lexeme → Prop where
  | nil : Reading [] []
  | cons {lexeme : Lexeme} {rest : List Char} {lexemes : List Lexeme} (fits : lexeme.Fits rest)
      (later : Reading rest lexemes) : Reading (lexeme.chars ++ rest) (lexeme :: lexemes)

section Existence

/-- The first end of a block comment. -/
theorem exists_first_end : {s : List Char} → ['*', '/'] <:+: s →
    ∃ body rest, s = body ++ '*' :: '/' :: rest ∧ ¬['*', '/'] <:+: body
  | [], inside => absurd (List.infix_nil.1 inside) (by simp)
  | c :: s, inside => by
    rcases List.infix_cons_iff.1 inside with ⟨rest, here⟩ | later
    · exact ⟨[], rest, here.symm, by simp⟩
    · obtain ⟨body, rest, rfl, first⟩ := exists_first_end later
      by_cases here : ['*', '/'] <+: c :: (body ++ '*' :: '/' :: rest)
      · obtain ⟨rest, equal⟩ := here
        exact ⟨[], rest, equal.symm, by simp⟩
      · refine ⟨c :: body, rest, rfl, fun infixed => ?_⟩
        rcases List.infix_cons_iff.1 infixed with start | within
        · exact here (start.trans (List.prefix_append (c :: body) _))
        · exact first within

/-- A string ends, or the text does. -/
theorem string_or_openString (quote : Char) : (s : List Char) →
    (∃ body rest, s = body ++ quote :: rest ∧ Quoted quote body) ∨
      Quoted quote s ∨ ∃ before, s = before ++ ['\\'] ∧ Quoted quote before
  | [] => .inr (.inl .nil)
  | c :: s => by
    by_cases ends : c = quote
    · exact .inl ⟨[], s, by rw [ends, List.nil_append], .nil⟩
    · by_cases escape : c = '\\'
      · subst escape
        match s with
        | [] => exact .inr (.inr ⟨[], rfl, .nil⟩)
        | d :: s =>
          rcases string_or_openString quote s with
            ⟨body, rest, rfl, quoted⟩ | quoted | ⟨before, rfl, quoted⟩
          · exact .inl ⟨'\\' :: d :: body, rest, rfl, .escaped d quoted⟩
          · exact .inr (.inl (.escaped d quoted))
          · exact .inr (.inr ⟨'\\' :: d :: before, rfl, .escaped d quoted⟩)
      · rcases string_or_openString quote s with
          ⟨body, rest, rfl, quoted⟩ | quoted | ⟨before, rfl, quoted⟩
        · exact .inl ⟨c :: body, rest, rfl, .plain ends escape quoted⟩
        · exact .inr (.inl (.plain ends escape quoted))
        · exact .inr (.inr ⟨c :: before, rfl, .plain ends escape quoted⟩)

/-- A text that is not empty starts with a piece. -/
theorem exists_lexeme (c : Char) (s : List Char) :
    ∃ (lexeme : Lexeme) (rest : List Char), c :: s = lexeme.chars ++ rest ∧ lexeme.Fits rest := by
  by_cases quoted : isQuote c
  · rcases string_or_openString c s with ⟨body, rest, rfl, inside⟩ | unended
    · exact ⟨.string c body, rest, by simp [Lexeme.chars], quoted, inside⟩
    · exact ⟨.openString c s, [], by simp [Lexeme.chars], quoted, unended, rfl⟩
  · by_cases bracket : ∀ bracket : Bracket, c ≠ bracket.opener ∧ c ≠ bracket.closer
    · by_cases comment : c = '/' → s.head? ≠ some '/' ∧ s.head? ≠ some '*'
      · exact ⟨.other c, s, rfl, quoted, bracket, comment⟩
      · rw [Classical.not_imp, not_and_or, not_not, not_not] at comment
        obtain ⟨rfl, line | block⟩ := comment
        · obtain ⟨s, rfl⟩ := List.head?_eq_some_iff.1 line
          by_cases ends : '\n' ∈ s
          · obtain ⟨body, rest, rfl, first⟩ := List.eq_append_cons_of_mem ends
            exact ⟨.lineComment body, rest, by simp [Lexeme.chars], first⟩
          · exact ⟨.lastLine s, [], by simp [Lexeme.chars], ends, rfl⟩
        · obtain ⟨s, rfl⟩ := List.head?_eq_some_iff.1 block
          by_cases ends : ['*', '/'] <:+: s
          · obtain ⟨body, rest, rfl, first⟩ := exists_first_end ends
            exact ⟨.blockComment body, rest, by simp [Lexeme.chars], first⟩
          · exact ⟨.openComment s, [], by simp [Lexeme.chars], ends, rfl⟩
    · rw [not_forall] at bracket
      obtain ⟨bracket, either⟩ := bracket
      rw [not_and_or, not_not, not_not] at either
      rcases either with rfl | rfl
      · exact ⟨.opener bracket, s, rfl, trivial⟩
      · exact ⟨.closer bracket, s, rfl, trivial⟩

theorem Lexeme.chars_ne_nil (lexeme : Lexeme) : lexeme.chars ≠ [] := by
  cases lexeme <;> simp [chars]

theorem exists_reading (s : List Char) : ∃ lexemes, Reading s lexemes := by
  induction length : s.length using Nat.strongRecOn generalizing s with
  | ind n ih =>
    subst length
    rcases s with _ | ⟨c, s⟩
    · exact ⟨[], .nil⟩
    · obtain ⟨lexeme, rest, split, fits⟩ := exists_lexeme c s
      have shorter : rest.length < (c :: s).length := by
        have := List.length_pos_iff.2 lexeme.chars_ne_nil
        rw [split, List.length_append]
        omega
      obtain ⟨lexemes, later⟩ := ih _ shorter rest rfl
      exact ⟨lexeme :: lexemes, split ▸ .cons fits later⟩

end Existence

namespace Scan

variable {opened : List (Bracket × Nat)} {position start : Nat} {quote : Char} {s : List Char}

/-- What is found wrong with a text that is read from here to its end. -/
def verdict (scan : Scan) (s : List Char) : Except Flaw Unit := scan.run s >>= finish

theorem verdict_cons (scan : Scan) (c : Char) (s : List Char) :
    scan.verdict (c :: s) = scan.step c >>= fun scan => scan.verdict s := by
  rw [verdict, run_cons]
  cases scan.step c <;> rfl

theorem verdict_append_of_ok {scan after : Scan} (ran : scan.run s = .ok after) (t : List Char) :
    scan.verdict (s ++ t) = after.verdict t := by
  rw [verdict, run_append_of_ok ran, verdict]

/-- A slash is read as any other character of code if it starts no comment. -/
theorem verdict_slash (line : s.head? ≠ some '/') (block : s.head? ≠ some '*') :
    verdict ⟨.slash, opened, position⟩ s = verdict ⟨.code, opened, position⟩ s := by
  rcases s with _ | ⟨c, s⟩
  · cases opened <;> rfl
  · rw [List.head?_cons, Ne, Option.some.injEq] at line block
    have same : step ⟨.slash, opened, position⟩ c = step ⟨.code, opened, position⟩ c := by
      simp only [step, if_neg line, if_neg block]
      rfl
    rw [verdict_cons, verdict_cons, same]

theorem run_lineComment (within : '\n' ∉ s) :
    run ⟨.lineComment, opened, position⟩ s = .ok ⟨.lineComment, opened, position + s.length⟩ := by
  induction s generalizing position with
  | nil => rfl
  | cons c s ih =>
    rw [List.mem_cons, not_or] at within
    have stepped : step ⟨.lineComment, opened, position⟩ c =
        .ok ⟨.lineComment, opened, position + 1⟩ := by
      rw [step, if_neg (Ne.symm within.1)]
      rfl
    rw [run_cons, stepped]
    exact (ih within.2).trans (by rw [List.length_cons, Nat.add_assoc, Nat.add_comm 1])

/-- Inside a block comment only a star just read is remembered. -/
theorem run_blockComment (within : ¬['*', '/'] <:+: s) :
    run ⟨.blockComment start, opened, position⟩ s =
      .ok ⟨if s.getLast? = some '*' then .star start else .blockComment start, opened,
        position + s.length⟩ := by
  induction s using List.reverseRecOn with
  | nil => rfl
  | append_singleton s c ih =>
    have before := ih fun infixed => within (infixed.trans (List.infix_append' [] s [c]))
    rw [run_append_of_ok before, run_cons, List.getLast?_concat, List.length_append]
    by_cases star : s.getLast? = some '*'
    · -- the comment would end here
      have goes : c ≠ '/' := by
        rintro rfl
        obtain ⟨front, rfl⟩ := List.getLast?_eq_some_iff.1 star
        exact within ⟨front, [], by simp⟩
      by_cases again : c = '*' <;> simp [star, step, turn, goes, again] <;> rfl
    · by_cases begins : c = '*' <;> simp [star, step, turn, begins] <;> rfl

theorem run_string (quoted : Quoted quote s) :
    run ⟨.string quote start, opened, position⟩ s =
      .ok ⟨.string quote start, opened, position + s.length⟩ := by
  induction quoted generalizing position with
  | nil => rfl
  | @plain c s other unescaped later ih =>
    have stepped : step ⟨.string quote start, opened, position⟩ c =
        .ok ⟨.string quote start, opened, position + 1⟩ := by
      simp [step, turn, other, unescaped]
    rw [run_cons, stepped]
    exact ih.trans (by rw [List.length_cons, Nat.add_assoc, Nat.add_comm 1])
  | @escaped c s later ih =>
    have stepped : run ⟨.string quote start, opened, position⟩ ['\\', c] =
        .ok ⟨.string quote start, opened, position + 2⟩ := rfl
    refine (run_append_of_ok stepped s).trans ?_
    exact ih.trans (by simp only [List.length_cons]; rw [Nat.add_assoc, Nat.add_comm 2])

end Scan

/-- What a piece makes of the brackets that are open at its place. -/
def Lexeme.read (opened : List (Bracket × Nat)) (position : Nat) :
    Lexeme → Except Flaw (List (Bracket × Nat))
  | openComment _ => .error (.unterminatedComment position)
  | openString quote _ => .error (.unterminatedString quote position)
  | opener bracket => .ok ((bracket, position) :: opened)
  | closer found =>
    match opened with
    | [] => .error (.unexpectedCloser found position)
    | (expected, _) :: outer =>
      if expected = found then .ok outer else .error (.wrongCloser expected found position)
  | _ => .ok opened

section Verdict

variable {opened : List (Bracket × Nat)} {position : Nat} {s rest body : List Char} {quote c : Char}

theorem Scan.step_quote (quoted : isQuote quote) :
    Scan.step ⟨.code, opened, position⟩ quote = .ok ⟨.string quote position, opened, position + 1⟩ := by
  rw [step, code, if_pos quoted]
  rfl

theorem Scan.step_other (plain : ¬isQuote c)
    (outside : ∀ bracket : Bracket, c ≠ bracket.opener ∧ c ≠ bracket.closer) :
    Scan.step ⟨.code, opened, position⟩ c =
      .ok ⟨if c = '/' then .slash else .code, opened, position + 1⟩ := by
  have opens : Bracket.ofOpener? c = none :=
    List.find?_eq_none.2 fun bracket _ => by simpa using (outside bracket).1.symm
  have closes : Bracket.ofCloser? c = none :=
    List.find?_eq_none.2 fun bracket _ => by simpa using (outside bracket).2.symm
  rw [step, code, if_neg plain, opens, closes]
  rfl

theorem Scan.run_comment_line (within : '\n' ∉ body) :
    Scan.run ⟨.code, opened, position⟩ (Lexeme.lastLine body).chars =
      .ok ⟨.lineComment, opened, position + (Lexeme.lastLine body).chars.length⟩ := by
  have begun : Scan.run ⟨.code, opened, position⟩ ['/', '/'] =
      .ok ⟨.lineComment, opened, position + 2⟩ := rfl
  refine (run_append_of_ok begun body).trans ((run_lineComment within).trans ?_)
  rw [Nat.add_assoc, Nat.add_comm 2]
  rfl

theorem Scan.run_comment_block (within : ¬['*', '/'] <:+: body) :
    Scan.run ⟨.code, opened, position⟩ (Lexeme.openComment body).chars =
      .ok ⟨if body.getLast? = some '*' then .star position else .blockComment position, opened,
        position + (Lexeme.openComment body).chars.length⟩ := by
  have begun : Scan.run ⟨.code, opened, position⟩ ['/', '*'] =
      .ok ⟨.blockComment position, opened, position + 2⟩ := rfl
  refine (run_append_of_ok begun body).trans ((run_blockComment within).trans ?_)
  rw [Nat.add_assoc, Nat.add_comm 2]
  rfl

theorem Scan.run_open_string (quoted : isQuote quote) (within : Quoted quote body) :
    Scan.run ⟨.code, opened, position⟩ (Lexeme.openString quote body).chars =
      .ok ⟨.string quote position, opened,
        position + (Lexeme.openString quote body).chars.length⟩ := by
  rw [Lexeme.chars, run_cons, step_quote quoted]
  refine (run_string within).trans ?_
  rw [Nat.add_assoc, Nat.add_comm 1]
  rfl

/-- To the scan a piece is one step. -/
theorem Scan.verdict_lexeme {lexeme : Lexeme} (fits : lexeme.Fits rest) :
    Scan.verdict ⟨.code, opened, position⟩ (lexeme.chars ++ rest) =
      lexeme.read opened position >>= fun opened =>
        Scan.verdict ⟨.code, opened, position + lexeme.chars.length⟩ rest := by
  cases lexeme with
  | lineComment body =>
    have ran : Scan.run ⟨.code, opened, position⟩ (Lexeme.lineComment body).chars =
        .ok ⟨.code, opened, position + (Lexeme.lineComment body).chars.length⟩ := by
      refine (run_append_of_ok (run_comment_line fits) ['\n']).trans ?_
      simp only [Lexeme.chars, List.length_cons, List.length_append, List.length_nil]
      rfl
    exact verdict_append_of_ok ran rest
  | lastLine body =>
    obtain ⟨within, rfl⟩ := fits
    rw [verdict_append_of_ok (run_comment_line within)]
    cases opened <;> rfl
  | blockComment body =>
    have ran : Scan.run ⟨.code, opened, position⟩ (Lexeme.blockComment body).chars =
        .ok ⟨.code, opened, position + (Lexeme.blockComment body).chars.length⟩ := by
      refine (run_append_of_ok (run_comment_block fits) ['*', '/']).trans ?_
      simp only [Lexeme.chars, List.length_cons, List.length_append, List.length_nil]
      split <;> rfl
    exact verdict_append_of_ok ran rest
  | openComment body =>
    obtain ⟨within, rfl⟩ := fits
    rw [verdict_append_of_ok (run_comment_block within)]
    split <;> rfl
  | string quote body =>
    obtain ⟨quoted, within⟩ := fits
    have ended : quote ≠ '\\' := by
      rintro rfl
      cases quoted
    have ran : Scan.run ⟨.code, opened, position⟩ (Lexeme.string quote body).chars =
        .ok ⟨.code, opened, position + (Lexeme.string quote body).chars.length⟩ := by
      refine (run_append_of_ok (run_open_string quoted within) [quote]).trans ?_
      simp only [run_cons, step, if_neg ended, if_true, Lexeme.chars, List.length_cons,
        List.length_append, List.length_nil]
      rfl
    exact verdict_append_of_ok ran rest
  | openString quote body =>
    obtain ⟨quoted, within | ⟨before, rfl, within⟩, rfl⟩ := fits
    · rw [verdict_append_of_ok (run_open_string quoted within)]
      rfl
    · rw [List.append_nil]
      refine (verdict_append_of_ok (run_open_string quoted within) _).trans ?_
      rfl
  | opener bracket =>
    cases bracket <;> rfl
  | closer bracket =>
    rcases opened with _ | ⟨⟨expected, place⟩, outer⟩
    · cases bracket <;> rfl
    · cases expected <;> cases bracket <;> rfl
  | other c =>
    obtain ⟨plain, outside, comment⟩ := fits
    refine (verdict_cons _ c rest).trans ?_
    rw [step_other plain outside]
    by_cases slash : c = '/'
    · obtain ⟨line, block⟩ := comment slash
      rw [if_pos slash]
      exact verdict_slash line block
    · rw [if_neg slash]
      rfl

end Verdict

end PatternDeck.Program
