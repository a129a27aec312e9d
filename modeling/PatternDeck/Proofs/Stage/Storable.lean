import PatternDeck.Proofs.Library.Storable
import PatternDeck.Proofs.Stage.Trail

/-!
What a deck holds can be stored. Whatever changes a parameter clamps its value or lands on a whole
number of its range, and gives it a knob or none, so no operation makes a parameter that a library
file would not give back.
-/
namespace PatternDeck

/-- Where a bound is NaN the clamp settles on the first bound, whatever it is given. -/
theorem Range.clamp_of_not_open {range : Range} (shut : ¬range.Open) (value : Float) :
    range.clamp value = range.lo := by
  have first {x : Float} (less : range.lo < x) : range.hi.isNaN := by
    by_contra number
    have lo_number := (Number.isNaN_of_le (Number.le_of_lt less)).1
    exact shut (open_of_numbers lo_number (Bool.eq_false_iff.2 number))
  simp only [clamp, PatternDeck.clamp, greater, lesser]
  split_ifs with below above above
  · have nan := first above
    rw [(Number.isNaN_of_le (Number.le_of_lt below)).2] at nan
    cases nan
  · rfl
  · have nan := first above
    rw [(Number.isNaN_of_le (Number.le_of_lt above)).2] at nan
    cases nan
  · rfl

namespace Parameter

variable {p : Parameter}

theorem Storable.withKnob (storable : p.Storable) {knob : Knob} (canonical : knob.Canonical) :
    (p.withKnob knob).Storable where
  established := ⟨storable.established.value, storable.established.label⟩
  knob := canonical
  label := storable.label

theorem Storable.withRange (storable : p.Storable) (range : Range) : (p.withRange range).Storable where
  established := ⟨.inr (range.clamp_clamp p.value), storable.established.label⟩
  knob := storable.knob
  label := storable.label

theorem Storable.withValue (storable : p.Storable) (value : Float) : (p.withValue value).Storable where
  established := ⟨.inr (p.range.clamp_clamp value), storable.established.label⟩
  knob := storable.knob
  label := storable.label

/-- A value that was settled on in an empty range is the first bound, and no turn moves it. -/
theorem Established.turned (made : p.Established) {ticks : Ticks} {new : Float}
    (reached : p.turned ticks = .ok new) : p.range.Holds new ∨ p.range.clamp new = new := by
  cases counted : ticks.toFloat with
  | error fault =>
    simp only [Parameter.turned, counted] at reached
    cases reached
  | ok count =>
    have landing : snap p.value (p.range.clamp (p.value + count * p.range.step)) snapThreshold
        (some p.range.lo) (some p.range.hi) = .ok new := by
      simp only [Parameter.turned, counted] at reached
      exact reached
    by_cases ordered : p.range.Open
    · exact .inl (holds_snap ordered (Range.holds_clamp ordered _) landing)
    · have settled := Range.clamp_of_not_open ordered
      have start : p.value = p.range.lo := by
        rcases made.value with ⟨above, below⟩ | same
        · have numbers :=
            Range.open_of_numbers (Number.isNaN_of_le above).1 (Number.isNaN_of_le below).2
          exact absurd numbers ordered
        · rw [← same, settled]
      rw [settled, start] at landing
      unfold snap at landing
      split at landing
      · cases landing
      · cases landing
        split
        -- what does not move comes no nearer to a whole number
        next near =>
          simp only [Bool.and_eq_true, decide_eq_true_eq] at near
          exact absurd near.2 (Number.lt_irrefl _)
        next => exact .inr (settled _)

theorem Storable.turned (storable : p.Storable) {ticks : Ticks} {new : Float}
    (reached : p.turned ticks = .ok new) : ({ p with value := new } : Parameter).Storable where
  established := ⟨storable.established.turned reached, storable.established.label⟩
  knob := storable.knob
  label := storable.label

theorem storable_fresh (name : String) : (fresh name).Storable :=
  storable_create _ _ _ (Knob.canonical_ofIndex? none) (Label.canonical_text "")

end Parameter

namespace Parameters

variable {ps : Parameters}

def Storable (ps : Parameters) : Prop := ∀ p ∈ ps.toList, p.Storable

theorem Storable.add (storable : ps.Storable) {p : Parameter} (joins : p.Storable) :
    (ps.add p).Storable := by
  by_cases taken : p.name ∈ ps.names
  · rwa [add_of_mem ps taken]
  · rw [Storable, toList_add_of_notMem ps taken, List.forall_mem_append, List.forall_mem_singleton]
    exact ⟨storable, joins⟩

theorem Storable.merge (storable : ps.Storable) (detected : List String) :
    (ps.merge detected).Storable := by
  induction detected generalizing ps with
  | nil => exact storable
  | cons name rest ih => exact ih (storable.add (Parameter.storable_fresh name))

theorem Storable.map (storable : ps.Storable) {change : Parameter → Parameter}
    (kept : ∀ p ∈ ps.toList, p.Storable → { change p with name := p.name }.Storable) :
    (ps.map change).Storable := by
  intro q there
  obtain ⟨p, member, rfl⟩ := mem_toList_map.1 there
  exact kept p member (storable p member)

theorem Storable.modify (storable : ps.Storable) {name : String} {change : Parameter → Parameter}
    (kept : ∀ p, ps.get? name = some p → p.Storable → { change p with name := p.name }.Storable) :
    (ps.modify name change).Storable := by
  refine storable.map fun p member good => ?_
  split
  next named => exact kept p (get?_eq_some_iff.2 ⟨member, named⟩) good
  next => exact good

theorem Storable.assigned (storable : ps.Storable) (name : String) (knob : Option Int) :
    (Binding.assigned ps name knob).Storable := by
  refine storable.map fun p _ good => ?_
  split_ifs
  · exact good.withKnob (Knob.canonical_ofIndex? knob)
  · exact good.withKnob (Knob.canonical_ofIndex? none)
  · exact good

end Parameters

/-- Every parameter in the bank can be stored. -/
def Bank.Storable (bank : Bank) : Prop := ∀ slot ∈ bank.slots, slot.parameters.Storable

section Change

variable {Handle Listener : Type} {origin before after : Deck Handle Listener}
variable {operation : Operation} {slot changed : Slot}

theorem Slot.Change.storable (change : Slot.Change origin operation slot changed)
    (storable : slot.parameters.Storable) : changed.parameters.Storable := by
  cases change with
  | flagged | stamped | recoded | appended => exact storable
  | refreshed => exact storable.merge _
  | assigned => exact storable.assigned _ _
  | ranged => exact storable.modify fun p _ good => good.withRange _
  | valued => exact storable.modify fun p _ good => good.withValue _
  | @turned p _ _ _ _ driven reached =>
    obtain ⟨-, -, -, first⟩ := Selection.driven?_eq_some driven
    have member : p ∈ slot.parameters.toList := List.mem_of_find?_eq_some first
    refine storable.modify fun q found good => ?_
    rw [Parameters.get?_eq_some_iff.2 ⟨member, rfl⟩] at found
    cases found
    exact good.turned reached
  | seeded _ _ seed =>
    obtain ⟨range, -, rfl⟩ := Binding.seed_eq_ok seed
    apply storable.add
    exact Parameter.storable_create _ _ _ (Knob.canonical_ofIndex? none) (Label.canonical_text _)

theorem Slot.Changed.storable (changes : Slot.Changed origin operation slot changed)
    (storable : slot.parameters.Storable) : changed.parameters.Storable := by
  induction changes with
  | refl => exact storable
  | tail _ change ih => exact change.storable ih

theorem Bank.Storable.evolved (storable : before.bank.Storable)
    (evolved : Deck.Evolved origin operation before after) : after.bank.Storable :=
  evolved.forall_slots (fun _ _ changes good => changes.storable good) storable

end Change

theorem Stage.Runs.storable {Handle Listener World : Type} {around : Surroundings Handle Listener World}
    {may : World → World → Prop} {origin last : Stage Handle Listener World}
    {steps : List (Step Handle Listener World)} (run : origin.Runs around may steps last)
    (placed : origin.deck.Placed) (marked : origin.deck.Marked) (storable : origin.deck.bank.Storable)
    (stays : ∀ step ∈ steps, ∀ slots name version, step.operation ≠ .loadLibrary slots name version) :
    last.deck.bank.Storable := by
  obtain ⟨-, steady⟩ := run.steady placed marked
  refine (run.invariant (fun stage => stage.deck.bank.Storable) storable ?_ ?_).1
  · intro before after pause held
    rwa [pause.deck]
  · intro step taken performed held
    obtain ⟨⟨placed, -⟩, -⟩ := steady step taken
    have evolved := evolved_of_operation around step.before step.operation placed (stays step taken)
    rw [performed] at evolved
    exact held.evolved evolved

end PatternDeck
