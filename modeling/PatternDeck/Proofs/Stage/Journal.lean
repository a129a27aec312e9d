import Mathlib.Data.List.Induction
import PatternDeck.Proofs.Outcome
import PatternDeck.Proofs.Stage.History

/-!
Reading a journal: which entries are calls that can be heard, what a single step wrote down, and
properties that every entry has by what stands before it.
-/
namespace PatternDeck

namespace Entry

variable {Handle : Type}

/-- The renderer is told to start a program, or to stop one. -/
def isSwitch : Entry Handle → Bool
  | started .. | stopped .. => true
  | _ => false

def isStop : Entry Handle → Bool
  | stopped .. => true
  | _ => false

/-- The call reaches what sounds. Compiling does not. -/
def isHeard : Entry Handle → Bool
  | started .. | stopped .. | hushed _ => true
  | _ => false

def isRefusal : Entry Handle → Bool
  | compiled _ (.error _) => true
  | _ => false

def isSave : Entry Handle → Bool
  | saved .. => true
  | _ => false

def isQuiet : Entry Handle → Bool
  | compiled _ (.ok _) | saved .. | touched _ | announced _ => true
  | _ => false

/-- What came of a start. -/
def began? : Entry Handle → Option (Except Fault Unit)
  | started _ outcome => some outcome
  | _ => none

/-- The handle that a compile gave out. -/
def issued? : Entry Handle → Option Handle
  | compiled _ (.ok handle) => some handle
  | _ => none

section Quiet

variable {entry : Entry Handle}

theorem isHeard_of_isQuiet (quiet : entry.isQuiet) : entry.isHeard = false := by
  cases entry <;> simp_all [isHeard, isQuiet]

theorem isRefusal_of_isQuiet (quiet : entry.isQuiet) : entry.isRefusal = false := by
  rcases entry with ⟨program, fault | handle⟩ <;> simp_all [isRefusal, isQuiet]

theorem began?_of_isHeard (unheard : entry.isHeard = false) : entry.began? = none := by
  cases entry <;> simp_all [isHeard, began?]

end Quiet

section Stop

variable {entry : Entry Handle} (stop : entry.isStop)
include stop

theorem isRefusal_of_isStop : entry.isRefusal = false := by
  cases entry <;> simp_all [isStop, isRefusal]

theorem isSave_of_isStop : entry.isSave = false := by
  cases entry <;> simp_all [isStop, isSave]

theorem event?_of_isStop : entry.event? = none := by
  cases entry <;> simp_all [isStop, event?]

end Stop

end Entry

section LastStart

variable {Handle : Type} {journal more : List (Entry Handle)}

/-- What came of the last start, if any. -/
def lastStart (journal : List (Entry Handle)) : Option (Except Fault Unit) :=
  (journal.filterMap Entry.began?).getLast?

theorem lastStart_append (journal more : List (Entry Handle)) :
    lastStart (journal ++ more) = (lastStart more).or (lastStart journal) := by
  rw [lastStart, List.filterMap_append, List.getLast?_append]
  rfl

theorem lastStart_of_unheard (unheard : ∀ entry ∈ journal, entry.isHeard = false) :
    lastStart journal = none := by
  have none : journal.filterMap Entry.began? = [] :=
    List.filterMap_eq_nil_iff.2 fun entry there => Entry.began?_of_isHeard (unheard entry there)
  rw [lastStart, none]
  rfl

end LastStart

def Step.entries {Handle Listener World : Type} (step : Step Handle Listener World) :
    List (Entry Handle) :=
  step.after.journal.drop step.before.journal.length

theorem Step.entries_eq {Handle Listener World : Type} {step : Step Handle Listener World}
    {entries : List (Entry Handle)} (grown : step.after.journal = step.before.journal ++ entries) :
    step.entries = entries := by
  rw [Step.entries, grown, List.drop_left]

section Throughout

variable {α : Type} {fits : List α → α → Prop} {list : List α}

/-- Each member of a list fits those before it. -/
def Throughout (fits : List α → α → Prop) (list : List α) : Prop :=
  ∀ earlier a later, list = earlier ++ a :: later → fits earlier a

theorem throughout_nil : Throughout fits [] := by
  intro earlier a later split
  simp at split

theorem Throughout.concat {a : α} (rest : Throughout fits list) (last : fits list a) :
    Throughout fits (list ++ [a]) := by
  intro earlier b later split
  rcases split_of_concat split with ⟨rfl, rfl, -⟩ | ⟨middle, inner, -⟩
  · exact last
  · -- what comes last is not the member in question
    exact rest earlier b middle inner

theorem Throughout.append_of {more : List α} (rest : Throughout fits list)
    (last : ∀ earlier a later, more = earlier ++ a :: later → fits (list ++ earlier) a) :
    Throughout fits (list ++ more) := by
  -- by induction on the end of the list, since members hang on what stands before them
  induction more using List.reverseRecOn with
  | nil => simpa using rest
  | append_singleton more a ih =>
    have first := ih fun earlier b later split => last earlier b (later ++ [a]) (by simp [split])
    have whole := first.concat (last more a [] rfl)
    rwa [List.append_assoc] at whole

theorem Throughout.append {more : List α} (rest : Throughout fits list)
    (free : ∀ a ∈ more, ∀ earlier, fits earlier a) : Throughout fits (list ++ more) :=
  rest.append_of fun earlier a later split => free a (by simp [split]) (list ++ earlier)

/-- Two members of a list are the same one, or one stands before the other. -/
theorem split_trichotomy {first rest first' rest' : List α} {a b : α}
    (same : first ++ a :: rest = first' ++ b :: rest') :
    (first = first' ∧ a = b ∧ rest = rest') ∨
      (∃ middle, first = first' ++ b :: middle ∧ rest' = middle ++ a :: rest) ∨
      ∃ middle, first' = first ++ a :: middle ∧ rest = middle ++ b :: rest' := by
  -- one of the fronts is the other and some of its rest
  rcases List.append_eq_append_iff.1 same with ⟨middle, split, later⟩ | ⟨middle, split, later⟩
  all_goals rcases middle with _ | ⟨c, middle⟩
  · simp_all
  · cases later
    exact .inr (.inr ⟨middle, split, rfl⟩)
  · simp_all
  · cases later
    exact .inr (.inl ⟨middle, split, rfl⟩)

/-- Where a key comes up once, its place in the list is known. -/
theorem split_of_nodup {β : Type} {key : α → Option β} {c : β} {first rest first' rest' : List α}
    {a b : α} (once : (list.filterMap key).Nodup) (split : list = first ++ a :: rest)
    (split' : list = first' ++ b :: rest') (keyed : key a = some c) (keyed' : key b = some c) :
    first = first' ∧ a = b ∧ rest = rest' := by
  have twice : ∀ {x y : α} (before between after : List α),
      list = before ++ x :: between ++ y :: after → key x = some c → key y = some c → False := by
    intro x y before between after both first second
    rw [both] at once
    simp [List.nodup_append, first, second] at once
  rcases split_trichotomy (split.symm.trans split') with same | ⟨middle, inner, -⟩ | ⟨middle, inner, -⟩
  · exact same
  · exact (twice first' middle rest (by simp [split, inner]) keyed' keyed).elim
  · exact (twice first middle rest' (by simp [split', inner]) keyed keyed').elim

end Throughout

end PatternDeck
