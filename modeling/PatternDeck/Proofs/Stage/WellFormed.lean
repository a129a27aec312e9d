import PatternDeck.Catalog.Builtin
import PatternDeck.Number.Literal
import PatternDeck.Proofs.Parameter.WellFormed
import PatternDeck.Proofs.Stage.Evolution

/-!
Parameters stay well formed through every history. Each change of a slot keeps them so, as long as no
bound that comes from outside is NaN: values may be any, since every value is clamped.
-/
namespace PatternDeck

/-- Bounds that are numbers. -/
def Bounds (lo hi : Float) : Prop := lo.isNaN = false ∧ hi.isNaN = false

def Catalog.Numbers (catalog : Catalog) : Prop :=
  ∀ entry ∈ catalog.entries, Bounds entry.lo entry.hi

def Bank.WellFormed (bank : Bank) : Prop := ∀ slot ∈ bank.slots, slot.WellFormed

section Change

variable {Handle Listener : Type} {origin before after : Deck Handle Listener}
variable {operation : Operation}

/-- What is outside of an operation's control is as it should be: the bounds that it is given, and
those of the catalog. -/
structure Operation.Sound (operation : Operation) (catalog : Catalog) : Prop where
  catalog : catalog.Numbers
  bounds : ∀ id name lo hi, operation = .setParameterRange id name lo hi → Bounds lo hi

theorem Slot.WellFormed.change {slot changed : Slot} (sound : operation.Sound origin.catalog)
    (change : Slot.Change origin operation slot changed) (well : slot.WellFormed) :
    changed.WellFormed := by
  cases change with
  | flagged | stamped | recoded | appended => exact well
  | refreshed => exact well.merge _
  | assigned _ inRange => exact well.assigned _ inRange
  | ranged asked proper =>
    obtain ⟨lo_number, hi_number⟩ := sound.bounds _ _ _ _ asked
    have ordered := Range.open_of_of? proper lo_number hi_number
    exact Parameters.WellFormed.modify well _ (fun _ => rfl) fun p _ good => good.withRange ordered
  | valued => exact Parameters.WellFormed.modify well _ (fun _ => rfl) fun p _ good => good.withValue _
  | @turned p _ _ _ _ driven reached =>
    obtain ⟨-, -, -, first⟩ := Selection.driven?_eq_some driven
    have member : p ∈ slot.parameters.toList := List.mem_of_find?_eq_some first
    refine Parameters.WellFormed.modify well _ (fun _ => rfl) ?_
    -- the parameter that is moved is the one that the knob was found to drive
    intro q found good
    rw [Parameters.get?_eq_some_iff.2 ⟨member, rfl⟩] at found
    cases found
    exact good.turned reached
  | seeded _ listed seed =>
    obtain ⟨lo_number, hi_number⟩ := sound.catalog _ listed
    obtain ⟨range, proper, rfl⟩ := Binding.seed_eq_ok seed
    have ordered := Range.open_of_of? proper lo_number hi_number
    exact Parameters.WellFormed.add well (Parameter.wellFormed_create ordered _ _ _) rfl

theorem Slot.WellFormed.changed {slot changed : Slot} (sound : operation.Sound origin.catalog)
    (changes : Slot.Changed origin operation slot changed) (well : slot.WellFormed) :
    changed.WellFormed := by
  induction changes with
  | refl => exact well
  | tail _ change ih => exact ih.change sound change

theorem Bank.WellFormed.evolved (sound : operation.Sound origin.catalog)
    (evolved : Deck.Evolved origin operation before after) (well : before.bank.WellFormed) :
    after.bank.WellFormed :=
  evolved.forall_slots (fun _ _ changes good => good.changed sound changes) well

end Change

namespace Stage

variable {Handle Listener World : Type} (around : Surroundings Handle Listener World)
variable (stage : Stage Handle Listener World)

theorem wellFormed_of_load {slots : List Slot} {name version : Option Label}
    {outcome : Except Failure Unit} {after : Stage Handle Listener World}
    (sound : stage.deck.catalog.Numbers) (well : stage.deck.bank.WellFormed)
    (given : ∀ slot ∈ slots, slot.WellFormed)
    (loads : Loads around stage slots name version outcome after) :
    after.deck.catalog = stage.deck.catalog ∧ after.deck.bank.WellFormed := by
  have stops : ∀ {stopped}, perform (stopAll around) stage = (.ok (), stopped) →
      stage.deck.Evolved .stopAll stage.deck stopped.deck := fun performed =>
    evolved_stopAll around stage performed
  cases loads with
  | refused stopped =>
    have evolved := stops stopped
    exact ⟨evolved.catalog, well.evolved ⟨sound, by simp⟩ evolved⟩
  | loaded stopped taken =>
    refine ⟨(stops stopped).catalog, fun slot member => ?_⟩
    exact given slot ((Bank.perm_of_ofSlots taken).mem_iff.1 member)

theorem wellFormed_of_operation {operation : Operation}
    (sound : operation.Sound stage.deck.catalog) (placed : stage.deck.Placed)
    (well : stage.deck.bank.WellFormed)
    (given : ∀ slots name version, operation = .loadLibrary slots name version →
      ∀ slot ∈ slots, slot.WellFormed) :
    (perform (operation.act around) stage).2.deck.catalog = stage.deck.catalog ∧
      (perform (operation.act around) stage).2.deck.bank.WellFormed := by
  by_cases load : ∃ slots name version, operation = .loadLibrary slots name version
  · obtain ⟨slots, name, version, rfl⟩ := load
    have loads := perform_ends (perform_loadLibrary around stage slots name version)
    exact wellFormed_of_load around stage sound.catalog well (given slots name version rfl) loads
  · have evolved := evolved_of_operation around stage operation placed
      fun slots name version same => load ⟨slots, name, version, same⟩
    exact ⟨evolved.catalog, well.evolved sound evolved⟩

section History

variable (bank : Bank) (catalog : Catalog) (listeners : Listeners Topic Listener) (world : World)
variable (operations : List Operation)

/-- If the slots that come into a deck are well formed, and no bound of the catalog or of a range that
is set is NaN, then all slots are well formed after every operation, whatever else was asked and
whatever failed. -/
theorem wellFormed_of_history (opened : bank.WellFormed)
    (loads : ∀ slots name version, .loadLibrary slots name version ∈ operations →
      ∀ slot ∈ slots, slot.WellFormed)
    (numbers : catalog.Numbers)
    (bounds : ∀ id name lo hi, .setParameterRange id name lo hi ∈ operations → Bounds lo hi) :
    ∀ step ∈ history around (fresh bank catalog listeners world) operations,
      step.after.deck.bank.WellFormed := by
  have placed := placed_of_history around bank catalog listeners world operations
  intro step taken
  refine (invariant_of_history around _ operations
    (fun stage => stage.deck.catalog = catalog ∧ stage.deck.bank.WellFormed)
    ⟨rfl, opened⟩ ?_ step taken).2.2
  intro step taken ⟨same, well⟩
  have asked := operation_of_mem_history around _ operations taken
  have sound : step.operation.Sound step.before.deck.catalog := by
    rw [same]
    exact ⟨numbers, fun id name lo hi wanted => bounds id name lo hi (wanted ▸ asked)⟩
  have kept := wellFormed_of_operation around step.before sound (placed step taken).1 well
    fun slots name version wanted => loads slots name version (wanted ▸ asked)
  rw [perform_of_mem_history around _ operations taken] at kept
  exact ⟨kept.1.trans same, kept.2⟩

private def tunings : List Operation :=
  [.updatePatternCode 3 "s($a)", .assignParameter 3 "a" (some 2),
    .addCatalogParameter 3 "crush" (some 2), .setParameterValue 3 "a" Literal.nan,
    .setParameterRange 3 "a" 0.25 0.75, .setParameterRange 3 "a" (-Literal.infinity) 0.5,
    .assignParameter 3 "a" (some 8), .select (some 3), .turnKnob 2 (-1000)]

private def tunedSteps : List (Step Nat Empty Nat) :=
  history (.refusing fun _ => false) (fresh .pair .builtin {} 0) tunings

/-- A knob that two parameters want, a value that is NaN, a range without a lower end, a knob that is
not there, which is refused, and a long turn. -/
theorem wellFormed_after_tunings :
    (tunedSteps.map (·.outcome.isOk)) =
        [true, true, true, true, true, true, false, true, true] ∧
      ∀ step ∈ tunedSteps, step.after.deck.bank.WellFormed := by
  constructor
  · decide +kernel
  apply wellFormed_of_history
  · intro slot member
    simp only [Bank.pair, List.mem_cons, List.not_mem_nil, or_false] at member
    rcases member with rfl | rfl
    all_goals exact Parameters.wellFormed_empty
  · simp [tunings]
  · unfold Catalog.Numbers Bounds
    decide +kernel
  · simp only [tunings, List.mem_cons, reduceCtorEq, Operation.setParameterRange.injEq, false_or,
      List.not_mem_nil, or_false]
    unfold Bounds
    rintro id name lo hi (⟨-, -, rfl, rfl⟩ | ⟨-, -, rfl, rfl⟩)
    all_goals decide +kernel

end History

end Stage

end PatternDeck
