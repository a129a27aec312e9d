import PatternDeck.Program.Structure
import PatternDeck.Proofs.Program.Scanning

/-!
Stacks of programs that are each accepted alone. The separators and the last bracket of a stack are
read as code exactly after a fragment that does not end in a line comment; a line comment that the
end of the text closes in the fragment goes on in the stack, over the separator and into the next
fragment.
-/
namespace PatternDeck.Program

theorem Scan.finish_eq_ok_iff (scan : Scan) :
    scan.finish = .ok () ↔ (scan.mode.isPlain ∨ scan.mode = .lineComment) ∧ scan.opened = [] := by
  obtain ⟨mode, opened, position⟩ := scan
  cases mode <;> cases opened <;> simp [finish, Mode.isPlain]

theorem check_eq_ok_iff (program : String) :
    check program = .ok () ↔ ¬program.toList.all Text.isBlank ∧
      ∃ scan, Scan.run {} program.toList = .ok scan ∧ scan.finish = .ok () := by
  unfold check checkChars
  split
  next blank => simp [blank]
  next shown =>
    rw [and_iff_right shown]
    cases Scan.run {} program.toList with
    | error flaw => simp [bind, Except.bind]
    | ok scan => simp [bind, Except.bind]

/-- Whether a text, read by itself, ends inside a line comment. -/
def EndsInComment (fragment : String) : Prop :=
  ∃ scan, Scan.run {} fragment.toList = .ok scan ∧ scan.mode = .lineComment

/-- The text of a stack through the end of its first fragments. -/
def through (fragments : List String) (count : Nat) : String :=
  match fragments with
  | [fragment] => fragment
  | _ => "stack(" ++ ", ".intercalate (fragments.take count)

section Fragments

variable {base : List Bracket}

/-- A text that by itself is read to its end, where code goes on and no bracket is open. -/
def Closes (fragment : List Char) : Prop :=
  ∃ own, Scan.run {} fragment = .ok own ∧ own.mode.isPlain ∧ own.opened = []

/-- A text that is accepted closes, unless it ends in a line comment. -/
theorem read_of_check {fragment : String} (valid : check fragment = .ok ()) :
    ∃ own, Scan.run {} fragment.toList = .ok own ∧ own.opened = [] ∧
      (own.mode.isPlain ∨ own.mode = .lineComment) := by
  obtain ⟨-, own, ran, finished⟩ := (check_eq_ok_iff fragment).1 valid
  obtain ⟨mode, closed⟩ := own.finish_eq_ok_iff.1 finished
  exact ⟨own, ran, closed, mode⟩

theorem closes_of_check {fragment : String} (valid : check fragment = .ok ())
    (code : ¬EndsInComment fragment) : Closes fragment.toList := by
  obtain ⟨own, ran, closed, plain | comment⟩ := read_of_check valid
  · exact ⟨own, ran, plain, closed⟩
  · exact absurd ⟨own, ran, comment⟩ code

/-- From the end of a fragment in plain code, the separator is read as code. -/
theorem run_separator {scan : Scan} (plain : scan.mode.isPlain) :
    scan.run ", ".toList =
      .ok { mode := .code, opened := scan.opened, position := scan.position + 2 } := by
  obtain ⟨mode, opened, position⟩ := scan
  cases mode with
  | code | slash => rfl
  | _ => cases plain

/-- Behind fragments that each close, a fragment is read as it is by itself. -/
theorem run_joined {before : List (List Char)} {fragment : List Char} {own scan : Scan}
    (closes : ∀ other ∈ before, Closes other) (ran : Scan.run {} fragment = .ok own)
    (starts : scan.mode = .code) :
    ∃ later, scan.run (", ".toList.intercalate (before ++ [fragment])) = .ok later ∧
      Scan.Above scan.kinds own later := by
  -- induction on the fragments before it, from any place where code goes on
  induction before generalizing scan with
  | nil =>
    rw [List.nil_append, List.intercalate_singleton]
    exact Scan.run_above (scan.above_start starts) ran
  | cons first rest ih =>
    obtain ⟨own', ran', plain, closed⟩ := closes first List.mem_cons_self
    obtain ⟨middle, reached, above⟩ := Scan.run_above (scan.above_start starts) ran'
    have separated := run_separator (above.mode.isPlain ▸ plain)
    -- the first fragment left the brackets as they were, so the others start as it did
    have kinds : middle.kinds = scan.kinds := by
      rw [above.kinds, Scan.kinds_eq_nil closed, List.nil_append]
    let next : Scan := { mode := .code, opened := middle.opened, position := middle.position + 2 }
    have same : next.kinds = scan.kinds := kinds
    obtain ⟨later, ends, last⟩ :=
      @ih next (fun other there => closes other (List.mem_cons_of_mem _ there)) rfl
    refine ⟨later, ?_, same ▸ last⟩
    rw [List.cons_append, List.intercalate_cons_of_ne_nil (by simp), List.append_assoc,
      Scan.run_append_of_ok reached, Scan.run_append_of_ok separated]
    exact ends

end Fragments

section Stack

/-- What is open behind the head of a stack. -/
private def opened : Scan := { mode := .code, opened := [(.round, 5)], position := 6 }

private theorem run_head (s : List Char) : Scan.run {} ("stack(".toList ++ s) = opened.run s :=
  Scan.run_append_of_ok rfl s

theorem through_of_length {fragments : List String} (several : 2 ≤ fragments.length) (count : Nat) :
    through fragments count = "stack(" ++ ", ".intercalate (fragments.take count) := by
  match fragments with
  | [] | [_] => simp at several
  | _ :: _ :: _ => rfl

private theorem isPrefix_intercalate_take (separator : List Char) (texts : List (List Char))
    (count : Nat) : separator.intercalate (texts.take count) <+: separator.intercalate texts := by
  induction texts generalizing count with
  | nil => simp
  | cons first rest ih =>
    cases count with
    | zero => exact List.nil_prefix
    | succ count =>
      rw [List.take_succ_cons]
      rcases rest with _ | ⟨second, others⟩
      · simp
      · rw [List.intercalate_cons_cons]
        cases count with
        | zero =>
          rw [List.take_zero, List.intercalate_singleton, List.append_assoc]
          exact List.prefix_append first _
        | succ count =>
          have later := ih (count + 1)
          rw [List.take_succ_cons] at later ⊢
          rw [List.intercalate_cons_cons]
          exact (List.prefix_append_right_inj _).2 later

/-- The text through the end of some fragments is where the text of the stack begins. -/
theorem isPrefix_through {fragments : List String} {text : String} (count : Nat)
    (stacked : stack? fragments = some text) :
    (through fragments count).toList <+: text.toList := by
  match fragments with
  | [] => cases stacked
  | [fragment] =>
    cases stacked
    exact List.prefix_refl _
  | first :: second :: rest =>
    cases stacked
    rw [through_of_length (by simp)]
    simp only [stackText, String.toList_append, String.toList_intercalate, List.map_take]
    rw [List.append_assoc]
    apply (List.prefix_append_right_inj _).2
    exact (isPrefix_intercalate_take _ _ count).trans (List.prefix_append _ _)

/-- Behind fragments that close, a stack reads a fragment as it is read by itself. -/
theorem run_through {fragments : List String} {count : Nat} {fragment : String} {own : Scan}
    (there : fragments[count]? = some fragment)
    (closes : ∀ other ∈ fragments.take count, Closes other.toList)
    (ran : Scan.run {} fragment.toList = .ok own) :
    ∃ base later, Scan.run {} (through fragments (count + 1)).toList = .ok later ∧
      Scan.Above base own later := by
  -- a single fragment is played as it is, without a stack around it
  by_cases several : 2 ≤ fragments.length
  · have split : fragments.take (count + 1) = fragments.take count ++ [fragment] := by
      rw [List.take_add_one, there, Option.toList_some]
    have closes' : ∀ other ∈ (fragments.take count).map String.toList, Closes other := by
      intro other member
      obtain ⟨text, taken, rfl⟩ := List.mem_map.1 member
      exact closes text taken
    obtain ⟨later, reached, above⟩ := @run_joined _ _ _ opened closes' ran rfl
    refine ⟨_, later, ?_, above⟩
    rw [through_of_length several, split, String.toList_append, String.toList_intercalate, run_head,
      List.map_append]
    exact reached
  · have short : fragments.length = 1 := by
      have := (List.getElem?_eq_some_iff.1 there).1
      omega
    obtain ⟨only, rfl⟩ := List.length_eq_one_iff.1 short
    obtain ⟨bound, rfl⟩ := List.getElem?_eq_some_iff.1 there
    obtain rfl : count = 0 := by simpa using bound
    exact ⟨[], own, ran, .refl own⟩

/-- The last bracket closes a stack that is read as code up to it. -/
private theorem run_closer {scan : Scan} (plain : scan.mode.isPlain) (kinds : scan.kinds = [.round]) :
    ∃ last, scan.run ")".toList = .ok last ∧ last.finish = .ok () := by
  -- only the bracket of the stack is open, and this closes it
  obtain ⟨mode, opened, position⟩ := scan
  obtain ⟨⟨kind, place⟩, rest, rfl, same, closed⟩ := List.map_eq_cons_iff.1 kinds
  simp only at same
  subst same
  obtain rfl := List.map_eq_nil_iff.1 closed
  cases mode with
  | code | slash => exact ⟨_, rfl, rfl⟩
  | _ => cases plain

/-- A stack of fragments that close is accepted. -/
theorem check_stackText {fragments : List String} (some : fragments ≠ [])
    (closes : ∀ fragment ∈ fragments, Closes fragment.toList) :
    check (stackText fragments) = .ok () := by
  obtain ⟨own, ran, plain, closed⟩ := closes _ (List.getLast_mem some)
  -- the fragments before the last are joined, and the last is read behind them
  have closes' : ∀ other ∈ fragments.dropLast.map String.toList, Closes other := by
    intro other member
    obtain ⟨text, kept, rfl⟩ := List.mem_map.1 member
    exact closes text (List.dropLast_subset fragments kept)
  obtain ⟨later, reached, above⟩ := @run_joined _ _ _ opened closes' ran rfl
  have kinds : later.kinds = [.round] := by
    rw [above.kinds, Scan.kinds_eq_nil closed]
    rfl
  obtain ⟨last, ends, finished⟩ := run_closer (above.mode.isPlain ▸ plain) kinds
  refine (check_eq_ok_iff _).2 ⟨?_, last, ?_, finished⟩
  -- a stack is not blank: it starts with its own name
  · rw [List.all_eq_true]
    intro blank
    have head : 's' ∈ (stackText fragments).toList := by simp [stackText]
    exact absurd (blank 's' head) (by decide)
  · rw [stackText, String.toList_append, String.toList_append, List.append_assoc, run_head,
      String.toList_intercalate, ← fragments.dropLast_concat_getLast some, List.map_append]
    exact (Scan.run_append_of_ok reached _).trans ends

/-- Stacks of fragments that are each accepted alone: the stack is accepted, and code goes on at the
end of every fragment in it, exactly if no fragment ends in a line comment. -/
theorem stack_accepted_iff {fragments : List String} (some : fragments ≠ [])
    (valid : ∀ fragment ∈ fragments, check fragment = .ok ()) :
    (∃ text, stack? fragments = .some text ∧ check text = .ok () ∧
      ∀ count, 0 < count → count ≤ fragments.length →
        ∃ scan, Scan.run {} (through fragments count).toList = .ok scan ∧ scan.mode.isPlain) ↔
      ∀ fragment ∈ fragments, ¬EndsInComment fragment := by
  constructor
  · rintro ⟨text, -, -, plain⟩
    -- up to the end of a fragment, every fragment before it was read as it is by itself
    have closes : ∀ count ≤ fragments.length, ∀ fragment ∈ fragments.take count,
        Closes fragment.toList := by
      intro count
      induction count with
      | zero => simp
      | succ count ih =>
        intro bound fragment taken
        have there : fragments[count]? = .some fragments[count] := List.getElem?_eq_getElem bound
        rw [List.take_add_one, there, Option.toList_some, List.mem_append, List.mem_singleton]
          at taken
        have earlier := ih (Nat.le_of_succ_le bound)
        rcases taken with taken | rfl
        · exact earlier fragment taken
        · obtain ⟨own, ran, closed, -⟩ := read_of_check (valid _ (List.getElem_mem bound))
          obtain ⟨base, later, reached, above⟩ := run_through there earlier ran
          obtain ⟨scan, reached', isPlain⟩ := plain (count + 1) (Nat.succ_pos count) bound
          -- the fragment alone and the fragment in the stack end in alike modes
          rw [reached, Except.ok.injEq] at reached'
          exact ⟨own, ran, above.mode.isPlain ▸ reached' ▸ isPlain, closed⟩
    rintro fragment there ⟨scan, ran, comment⟩
    obtain ⟨own, ran', isPlain, -⟩ := closes _ (Nat.le_refl _) fragment (by rwa [List.take_length])
    rw [ran, Except.ok.injEq] at ran'
    rw [← ran', comment] at isPlain
    cases isPlain
  · intro code
    -- an accepted fragment that ends in no comment closes all that it opened
    have closes : ∀ fragment ∈ fragments, Closes fragment.toList := fun fragment there =>
      closes_of_check (valid fragment there) (code fragment there)
    have plain : ∀ count, 0 < count → count ≤ fragments.length →
        ∃ scan, Scan.run {} (through fragments count).toList = .ok scan ∧ scan.mode.isPlain := by
      intro count positive bound
      obtain ⟨last, rfl⟩ := Nat.exists_eq_succ_of_ne_zero (Nat.ne_of_gt positive)
      have there : fragments[last]? = .some fragments[last] := List.getElem?_eq_getElem bound
      obtain ⟨own, ran, plain, -⟩ := closes _ (List.getElem_mem bound)
      obtain ⟨base, later, reached, above⟩ := run_through there
        (fun other taken => closes other (List.mem_of_mem_take taken)) ran
      exact ⟨later, reached, above.mode.isPlain ▸ plain⟩
    match fragments with
    | [] => exact absurd rfl some
    | [fragment] => exact ⟨fragment, rfl, valid fragment List.mem_cons_self, plain⟩
    | first :: second :: rest => exact ⟨_, rfl, check_stackText some closes, plain⟩

/-- A comment at the end of a fragment runs over the separator and the next fragment. -/
theorem comment_runs_on :
    (∀ fragment ∈ ["a // x", "b"], check fragment = .ok ()) ∧
    ¬∃ text, stack? ["a // x", "b"] = some text ∧ check text = .ok () ∧
      ∀ count, 0 < count → count ≤ 2 →
        ∃ scan, Scan.run {} (through ["a // x", "b"] count).toList = .ok scan ∧
          scan.mode.isPlain := by
  have valid : ∀ fragment ∈ ["a // x", "b"], check fragment = .ok () := by
    intro fragment there
    simp only [List.mem_cons, List.not_mem_nil, or_false] at there
    rcases there with rfl | rfl <;> rfl
  refine ⟨valid, fun accepted => ?_⟩
  have code := (stack_accepted_iff (by simp) valid).1 accepted
  exact code "a // x" List.mem_cons_self ⟨_, rfl, rfl⟩

/-- The stack is refused for the bracket that the comment hides, or accepted without the fragment. -/
example : check (stackText ["a // x", "b"]) = .error (.missingCloser .round 5) := rfl

example : check (stackText ["a // x", "b\n"]) = .ok () := rfl

end Stack

end PatternDeck.Program
