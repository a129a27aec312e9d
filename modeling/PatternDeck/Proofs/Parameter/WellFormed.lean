import PatternDeck.Parameter.Motion
import PatternDeck.Proofs.Number.Order
import PatternDeck.Proofs.Parameter.Lookup

/-!
Well-formed parameters: the range is open between two numbers, the value lies in it, and a knob drives
one parameter at most. A value is kept in by the clamp, in whose argument order NaN yields a bound; a
whole number that a value lands on is one that the range allows.
-/
namespace PatternDeck

/-- A range of numbers, the first less than the last. -/
def Range.Open (range : Range) : Prop := range.lo < range.hi

def Range.Holds (range : Range) (value : Float) : Prop := range.lo ≤ value ∧ value ≤ range.hi

/-- No knob, or one of those that there are. -/
def Knob.Known (knob : Knob) : Prop :=
  knob = .none ∨ ∃ i, 0 ≤ i ∧ i < knobCount ∧ knob.isIndex i

structure Parameter.WellFormed (p : Parameter) : Prop where
  range : p.range.Open
  value : p.range.Holds p.value
  knob : p.knob.Known

/-- Each name leads to the parameter that has it, each parameter is well formed, and no knob drives
two of them. -/
structure Parameters.WellFormed (ps : Parameters) : Prop where
  keyed : ∀ name p, ps.get? name = some p ↔ p ∈ ps.toList ∧ p.name = name
  each : ∀ p ∈ ps.toList, p.WellFormed
  apart : ∀ p ∈ ps.toList, ∀ q ∈ ps.toList, ∀ i, p.knob.isIndex i → q.knob.isIndex i → p = q

def Slot.WellFormed (slot : Slot) : Prop := slot.parameters.WellFormed

namespace Range

variable {range : Range}

theorem open_of_numbers (lo_number : range.lo.isNaN = false) (hi_number : range.hi.isNaN = false) :
    range.Open :=
  Number.lt_of_not_le lo_number hi_number range.proper

theorem Open.numbers (ordered : range.Open) : range.lo.isNaN = false ∧ range.hi.isNaN = false :=
  Number.isNaN_of_le (Number.le_of_lt ordered)

theorem holds_clamp (ordered : range.Open) (value : Float) : range.Holds (range.clamp value) := by
  have bounds : range.lo ≤ range.hi := Number.le_of_lt ordered
  obtain ⟨lo_number, hi_number⟩ := ordered.numbers
  simp only [clamp, PatternDeck.clamp, greater, lesser]
  by_cases below : value < range.hi
  · simp only [below, if_true]
    -- a value below the last number is one, and so is above the first or at most that
    by_cases above : range.lo < value
    · simp only [above, if_true]
      exact ⟨Number.le_of_lt above, Number.le_of_lt below⟩
    · simp only [above, if_false]
      exact ⟨Number.le_refl lo_number, bounds⟩
  · have less : range.lo < range.hi := ordered
    simp only [below, less, if_true, if_false]
    exact ⟨bounds, Number.le_refl hi_number⟩

theorem of?_eq_some {lo hi : Float} (taken : of? lo hi = some range) :
    range.lo = lo ∧ range.hi = hi := by
  unfold of? at taken
  split at taken
  · cases taken
  · cases taken
    exact ⟨rfl, rfl⟩

theorem open_of_of? {lo hi : Float} (taken : of? lo hi = some range) (lo_number : lo.isNaN = false)
    (hi_number : hi.isNaN = false) : range.Open := by
  obtain ⟨rfl, rfl⟩ := of?_eq_some taken
  exact open_of_numbers lo_number hi_number

theorem open_rule : ∀ rule ∈ rangeRules, rule.range.Open := by
  unfold Open
  decide

theorem open_default (name : String) : (defaultRange name).Open := by
  unfold defaultRange
  split
  next rule found => exact open_rule rule (List.mem_of_find?_eq_some found)
  next =>
    unfold Open
    decide

end Range

/-- A move to a whole number stays in the range: a number that compares with nothing is not near. -/
theorem holds_snap {range : Range} (ordered : range.Open) {old new landed : Float}
    (held : range.Holds new)
    (landing : snap old new snapThreshold (some range.lo) (some range.hi) = .ok landed) :
    range.Holds landed := by
  unfold snap at landing
  split at landing
  · cases landing
  next n _ =>
    cases landing
    split
    next near =>
      obtain ⟨lo_number, hi_number⟩ := ordered.numbers
      simp only [Bool.and_eq_true, decide_eq_true_eq] at near
      obtain ⟨⟨inside, close⟩, -⟩ := near
      have number : (Float.ofInt n).isNaN = false := by
        by_contra nan
        rw [Bool.not_eq_false] at nan
        have far : (Rounding.abs (new - Rounding.ofInt n)).isNaN :=
          Number.isNaN_abs (Number.isNaN_sub nan)
        rw [(Number.isNaN_of_le close).1] at far
        cases far
      simp only [allowed, Option.any_some, Bool.and_eq_true, Bool.not_eq_true',
        decide_eq_false_iff_not] at inside
      exact ⟨Number.le_of_not_lt lo_number number inside.1,
        Number.le_of_not_lt number hi_number inside.2⟩
    next => exact held

namespace Parameter

variable {p : Parameter}

theorem wellFormed_create {range : Range} (ordered : range.Open) (name : String) (value : Float)
    (label : Label) : (create name value range .none label).WellFormed where
  range := ordered
  value := Range.holds_clamp ordered value
  knob := .inl rfl

theorem wellFormed_fresh (name : String) : (fresh name).WellFormed :=
  wellFormed_create (Range.open_default name) name _ _

theorem WellFormed.withValue (well : p.WellFormed) (value : Float) :
    (p.withValue value).WellFormed where
  range := well.range
  value := Range.holds_clamp well.range value
  knob := well.knob

theorem WellFormed.withRange (well : p.WellFormed) {range : Range} (ordered : range.Open) :
    (p.withRange range).WellFormed where
  range := ordered
  value := Range.holds_clamp ordered p.value
  knob := well.knob

theorem WellFormed.withKnob (well : p.WellFormed) {knob : Knob} (known : knob.Known) :
    (p.withKnob knob).WellFormed where
  range := well.range
  value := well.value
  knob := known

theorem WellFormed.turned (well : p.WellFormed) {ticks : Ticks} {new : Float}
    (reached : p.turned ticks = .ok new) : ({ p with value := new } : Parameter).WellFormed := by
  refine ⟨well.range, ?_, well.knob⟩
  cases counted : ticks.toFloat with
  | error fault =>
    simp only [Parameter.turned, counted] at reached
    cases reached
  | ok count =>
    simp only [Parameter.turned, counted] at reached
    exact holds_snap well.range (Range.holds_clamp well.range _) reached

end Parameter

theorem Knob.known_ofIndex? {knob : Option Int} (inRange : ∀ i ∈ knob, 0 ≤ i ∧ i < knobCount) :
    (Knob.ofIndex? knob).Known := by
  cases knob with
  | none => exact .inl rfl
  | some i => exact .inr ⟨i, (inRange i rfl).1, (inRange i rfl).2, by simp [ofIndex?, isIndex]⟩

theorem Knob.isIndex_ofIndex? {knob : Option Int} {i : Int} :
    (Knob.ofIndex? knob).isIndex i ↔ knob = some i := by
  cases knob <;> simp [ofIndex?, isIndex]

namespace Parameters

variable {ps : Parameters}

theorem wellFormed_of (each : ∀ p ∈ ps.toList, p.WellFormed)
    (apart : ∀ p ∈ ps.toList, ∀ q ∈ ps.toList, ∀ i,
      p.knob.isIndex i → q.knob.isIndex i → p.name = q.name) : ps.WellFormed where
  keyed _ _ := get?_eq_some_iff
  each := each
  apart p here q there i first second := eq_of_name_eq here there (apart p here q there i first second)

theorem wellFormed_empty : empty.WellFormed :=
  wellFormed_of (fun _ here => by cases here) (fun _ here => by cases here)

/-- A parameter that no knob drives joins any others. -/
theorem WellFormed.add (well : ps.WellFormed) {p : Parameter} (joins : p.WellFormed)
    (free : p.knob = .none) : (ps.add p).WellFormed := by
  by_cases taken : p.name ∈ ps.names
  · rwa [add_of_mem ps taken]
  · have undriven : ∀ i, p.knob.isIndex i = false := by simp [free, Knob.isIndex]
    apply wellFormed_of
    · simp only [toList_add_of_notMem ps taken, List.forall_mem_append, List.forall_mem_singleton]
      exact ⟨well.each, joins⟩
    · intro q here r there i first second
      simp only [toList_add_of_notMem ps taken, List.mem_append, List.mem_singleton] at here there
      rcases here with here | rfl
      · rcases there with there | rfl
        · rw [well.apart q here r there i first second]
        · simp [undriven] at second
      · simp [undriven] at first

theorem WellFormed.merge (well : ps.WellFormed) (detected : List String) :
    (ps.merge detected).WellFormed := by
  induction detected generalizing ps with
  | nil => exact well
  | cons name rest ih => exact ih (well.add (Parameter.wellFormed_fresh name) rfl)

/-- A change of one parameter that leaves its knob alone. -/
theorem WellFormed.modify (well : ps.WellFormed) (name : String)
    {change : Parameter → Parameter} (knob : ∀ p, (change p).knob = p.knob)
    (kept : ∀ p, ps.get? name = some p → p.WellFormed → (change p).WellFormed) :
    (ps.modify name change).WellFormed := by
  have knobs : ∀ p : Parameter, (if p.name = name then change p else p).knob = p.knob := by
    intro p
    split
    · exact knob p
    · rfl
  apply wellFormed_of
  · intro q here
    obtain ⟨p, there, rfl⟩ := mem_toList_map.1 here
    split
    next named =>
      obtain ⟨range, value, known⟩ := kept p (get?_eq_some_iff.2 ⟨there, named⟩) (well.each p there)
      exact ⟨range, value, known⟩
    next => exact well.each p there
  · intro q here r there i first second
    obtain ⟨p, member, rfl⟩ := mem_toList_map.1 here
    obtain ⟨p', member', rfl⟩ := mem_toList_map.1 there
    simp only [knobs] at first second
    rw [well.apart p member p' member' i first second]

/-- What a knob drives after one was given to a parameter: that parameter, if it is this knob, and
else what it drove before. -/
theorem driven_assigned {name : String} {knob : Option Int} {q : Parameter} {i : Int}
    (there : q ∈ (Binding.assigned ps name knob).toList) (drives : q.knob.isIndex i) :
    q.name = name ∧ knob = some i ∨
      knob ≠ some i ∧ ∃ p ∈ ps.toList, p.name = q.name ∧ p.knob.isIndex i := by
  obtain ⟨p, member, rfl⟩ := mem_toList_map.1 there
  simp only at drives
  split_ifs at drives with named taken
  · exact .inl ⟨named, Knob.isIndex_ofIndex?.1 drives⟩
  · cases drives
  · refine .inr ⟨?_, p, member, rfl, drives⟩
    rintro rfl
    exact taken drives

/-- A knob that is given to one parameter is taken from the others. -/
theorem WellFormed.assigned (well : ps.WellFormed) (name : String) {knob : Option Int}
    (inRange : ∀ i ∈ knob, 0 ≤ i ∧ i < knobCount) :
    (Binding.assigned ps name knob).WellFormed := by
  apply wellFormed_of
  · intro q here
    obtain ⟨p, there, rfl⟩ := mem_toList_map.1 here
    have before := well.each p there
    split_ifs
    · exact before.withKnob (Knob.known_ofIndex? inRange)
    · exact before.withKnob (.inl rfl)
    · exact before
  · intro q here r there i first second
    rcases driven_assigned here first with ⟨named, given⟩ | ⟨other, p, member, kept, drives⟩
    · rcases driven_assigned there second with ⟨named', -⟩ | ⟨other, -⟩
      · exact named.trans named'.symm
      · exact absurd given other
    · rcases driven_assigned there second with ⟨-, given⟩ | ⟨-, p', member', kept', drives'⟩
      · exact absurd given other
      · rw [← kept, ← kept', well.apart p member p' member' i drives drives']

end Parameters

end PatternDeck
