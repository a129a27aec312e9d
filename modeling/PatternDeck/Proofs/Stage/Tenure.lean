import PatternDeck.Proofs.Stage.Evolution

/-!
What is tuned stays tuned. Between any two moments of a run each slot keeps its parameters in their
order, and where its code or one of them differs, an operation in between was asked to change it. Most
changes only add parameters at the end; the others map the list that is there.
-/
namespace PatternDeck

/-- Why a slot may differ from what it was: in its code, and in the range, the value and the knob of
the parameter of a name. -/
structure Reasons where
  code : Prop
  range : String → Prop
  value : String → Prop
  knob : Prop

/-- There is no reason but has its like among the others. -/
structure Reasons.Among (reasons more : Reasons) : Prop where
  code : reasons.code → more.code
  range : ∀ name, reasons.range name → more.range name
  value : ∀ name, reasons.value name → more.value name
  knob : reasons.knob → more.knob

section Kept

variable {reasons : Reasons}

/-- Where a parameter differs there is a reason. -/
structure Parameter.Kept (reasons : Reasons) (old new : Parameter) : Prop where
  name : new.name = old.name
  label : new.label = old.label
  range : new.range ≠ old.range → reasons.range old.name
  value : new.value ≠ old.value → reasons.value old.name
  knob : new.knob ≠ old.knob → reasons.knob

/-- Where a slot differs there is a reason. The parameters that it had come first, in their order. -/
structure Slot.Kept (reasons : Reasons) (old new : Slot) : Prop where
  code : new.code ≠ old.code → reasons.code
  names : old.parameters.names <+: new.parameters.names
  each : ∀ name p, old.parameters.get? name = some p →
    ∃ q, new.parameters.get? name = some q ∧ p.Kept reasons q

theorem Parameter.Kept.refl (p : Parameter) : p.Kept reasons p := by
  constructor <;> simp

theorem Parameter.Kept.trans {p q r : Parameter} (first : p.Kept reasons q)
    (second : q.Kept reasons r) : p.Kept reasons r where
  name := second.name.trans first.name
  label := second.label.trans first.label
  -- what differs in the end differs already in the middle, or comes to differ after it
  range differs := by
    by_cases same : q.range = p.range
    · exact first.name ▸ second.range (same ▸ differs)
    · exact first.range same
  value differs := by
    by_cases same : q.value = p.value
    · exact first.name ▸ second.value (same ▸ differs)
    · exact first.value same
  knob differs := by
    by_cases same : q.knob = p.knob
    · exact second.knob (same ▸ differs)
    · exact first.knob same

theorem Slot.Kept.trans {slot middle new : Slot} (first : slot.Kept reasons middle)
    (second : middle.Kept reasons new) : slot.Kept reasons new where
  code differs := by
    by_cases same : middle.code = slot.code
    · exact second.code (same ▸ differs)
    · exact first.code same
  names := first.names.trans second.names
  each name p found := by
    obtain ⟨q, between, one⟩ := first.each name p found
    obtain ⟨r, there, two⟩ := second.each name q between
    exact ⟨r, there, one.trans two⟩

theorem Slot.Kept.mono {more : Reasons} {old new : Slot} (among : reasons.Among more)
    (kept : old.Kept reasons new) : old.Kept more new where
  code differs := among.code (kept.code differs)
  names := kept.names
  each name p found := by
    obtain ⟨q, there, same⟩ := kept.each name p found
    refine ⟨q, there, same.name, same.label, ?_, ?_, ?_⟩
    · exact fun differs => among.range _ (same.range differs)
    · exact fun differs => among.value _ (same.value differs)
    · exact fun differs => among.knob (same.knob differs)

/-- Nothing is lost where parameters come later. -/
theorem Slot.Kept.of_grown {old new : Slot} (code : new.code ≠ old.code → reasons.code)
    (grown : old.parameters.toList <+: new.parameters.toList) : old.Kept reasons new where
  code := code
  names := Parameters.names_prefix grown
  each _ p found := ⟨p, Parameters.get?_of_grown grown found, .refl p⟩

theorem Slot.Kept.of_map {old : Slot} {change : Parameter → Parameter}
    (each : ∀ p ∈ old.parameters.toList, p.Kept reasons { change p with name := p.name }) :
    old.Kept reasons { old with parameters := old.parameters.map change } where
  code differs := absurd rfl differs
  names := by simp only [Parameters.names_map, List.prefix_refl]
  each name p found := by
    refine ⟨_, ?_, each p (Parameters.get?_eq_some_iff.1 found).1⟩
    rw [Parameters.get?_map, found, Option.map_some]

/-- A change of the parameter of one name, with a reason for it. -/
theorem Slot.Kept.of_modify {old : Slot} {name : String} {change : Parameter → Parameter}
    (each : ∀ p ∈ old.parameters.toList, p.name = name →
      p.Kept reasons { change p with name := p.name }) :
    old.Kept reasons { old with parameters := old.parameters.modify name change } := by
  refine .of_map fun p member => ?_
  split
  next named => exact each p member named
  next => exact .refl p

end Kept

section Reasons

variable {Handle Listener World : Type}

/-- What an operation that is asked of a deck is for, as far as one slot is concerned. -/
def Operation.reasons (operation : Operation) (deck : Deck Handle Listener) (id : Int) : Reasons where
  code :=
    (∃ code, operation = .updateLiveCode id code) ∨ (∃ code, operation = .updatePatternCode id code) ∨
      ∃ name knob, operation = .addCatalogParameter id name knob
  range name := ∃ lo hi, operation = .setParameterRange id name lo hi
  value name :=
    (∃ lo hi, operation = .setParameterRange id name lo hi) ∨
      (∃ value, operation = .setParameterValue id name value) ∨
      ∃ knob ticks, operation = .turnKnob knob ticks ∧ deck.selected = some id ∧
        ∃ slot p, deck.bank.find? id = some slot ∧ slot.parameters.drivenBy? knob = some p ∧
          p.name = name
  knob :=
    (∃ name knob, operation = .assignParameter id name knob) ∨
      ∃ name knob, operation = .addCatalogParameter id name knob

/-- What the steps of a run were for, as far as one slot is concerned. -/
def reasons (steps : List (Step Handle Listener World)) (id : Int) : Reasons where
  code := ∃ step ∈ steps, (step.operation.reasons step.before.deck id).code
  range name := ∃ step ∈ steps, (step.operation.reasons step.before.deck id).range name
  value name := ∃ step ∈ steps, (step.operation.reasons step.before.deck id).value name
  knob := ∃ step ∈ steps, (step.operation.reasons step.before.deck id).knob

theorem among_of_mem {steps : List (Step Handle Listener World)} (step : Step Handle Listener World)
    (member : step ∈ steps) (id : Int) :
    (step.operation.reasons step.before.deck id).Among (reasons steps id) where
  code reason := ⟨step, member, reason⟩
  range _ reason := ⟨step, member, reason⟩
  value _ reason := ⟨step, member, reason⟩
  knob reason := ⟨step, member, reason⟩

theorem among_of_subset {steps more : List (Step Handle Listener World)} (subset : steps ⊆ more)
    (id : Int) : (reasons steps id).Among (reasons more id) where
  code := fun ⟨step, member, reason⟩ => ⟨step, subset member, reason⟩
  range := fun _ ⟨step, member, reason⟩ => ⟨step, subset member, reason⟩
  value := fun _ ⟨step, member, reason⟩ => ⟨step, subset member, reason⟩
  knob := fun ⟨step, member, reason⟩ => ⟨step, subset member, reason⟩

variable {origin : Deck Handle Listener} {operation : Operation} {slot changed : Slot}

theorem Slot.Change.kept (change : Slot.Change origin operation slot changed) :
    slot.Kept (operation.reasons origin slot.id) changed := by
  cases change with
  | flagged | stamped => exact .of_grown (absurd rfl) (List.prefix_refl _)
  | refreshed => exact .of_grown (absurd rfl) (slot.parameters.toList_prefix_merge _)
  | seeded => exact .of_grown (absurd rfl) (slot.parameters.toList_prefix_add _)
  -- only the two updates of code recode a slot
  | @recoded code asked =>
    refine .of_grown (fun _ => ?_) (List.prefix_refl _)
    cases operation <;> cases asked
    · exact .inl ⟨_, rfl⟩
    · exact .inr (.inl ⟨_, rfl⟩)
  | appended entry asked =>
    exact .of_grown (fun _ => .inr (.inr ⟨_, _, asked⟩)) (List.prefix_refl _)
  | assigned asked =>
    have reason : (operation.reasons origin slot.id).knob := by
      cases operation <;> cases asked
      · exact .inl ⟨_, _, rfl⟩
      · exact .inr ⟨_, _, rfl⟩
    refine .of_map fun p _ => ?_
    split_ifs
    all_goals exact ⟨rfl, rfl, absurd rfl, absurd rfl, fun _ => reason⟩
  | ranged asked =>
    refine .of_modify fun p _ named => ?_
    subst named
    exact ⟨rfl, rfl, fun _ => ⟨_, _, asked⟩, fun _ => .inl ⟨_, _, asked⟩, absurd rfl⟩
  | valued asked =>
    refine .of_modify fun p _ named => ?_
    subst named
    exact ⟨rfl, rfl, absurd rfl, fun _ => .inr (.inl ⟨_, asked⟩), absurd rfl⟩
  | @turned p _ _ _ asked driven =>
    obtain ⟨id, chosen, found, first⟩ := Selection.driven?_eq_some driven
    obtain rfl := Bank.id_of_find? found
    refine .of_modify fun q _ named => ?_
    -- the parameter of that name is the first that the knob drives
    have reason : (operation.reasons origin slot.id).value q.name :=
      .inr (.inr ⟨_, _, asked, chosen, slot, p, found, first, named.symm⟩)
    exact ⟨rfl, rfl, absurd rfl, fun _ => reason, absurd rfl⟩

theorem Slot.Changed.kept (changes : Slot.Changed origin operation slot changed) :
    slot.Kept (operation.reasons origin slot.id) changed := by
  induction changes with
  | refl => exact .of_grown (absurd rfl) (List.prefix_refl _)
  | tail before change ih =>
    have later := change.kept
    -- the reasons are those for the slot's id, which no change touches
    rw [Slot.Changed.id_eq before] at later
    exact ih.trans later

end Reasons

namespace Stage

variable {Handle Listener World : Type} (around : Surroundings Handle Listener World)
variable (stage : Stage Handle Listener World)

/-- The stage that operations leave, done one after another. -/
def afterAll (stage : Stage Handle Listener World) : List Operation → Stage Handle Listener World
  | [] => stage
  | operation :: rest => afterAll (perform (operation.act around) stage).2 rest

theorem afterAll_append (earlier later : List Operation) :
    stage.afterAll around (earlier ++ later) = (stage.afterAll around earlier).afterAll around later := by
  induction earlier generalizing stage with
  | nil => rfl
  | cons operation rest ih => exact ih _

theorem history_append (earlier later : List Operation) :
    history around stage (earlier ++ later) =
      history around stage earlier ++ history around (stage.afterAll around earlier) later := by
  induction earlier generalizing stage with
  | nil => rfl
  | cons operation rest ih => exact congrArg (List.cons _) (ih _)

theorem length_history (operations : List Operation) :
    (history around stage operations).length = operations.length := by
  induction operations generalizing stage with
  | nil => rfl
  | cons operation rest ih => exact congrArg (· + 1) (ih _)

theorem placed_afterAll (operations : List Operation) (placed : stage.deck.Placed) :
    (stage.afterAll around operations).deck.Placed := by
  induction operations generalizing stage with
  | nil => exact placed
  | cons operation rest ih => exact ih _ (placed_of_operation around stage operation placed)

theorem kept_of_afterAll {operations : List Operation} {id : Int} {slot : Slot}
    (placed : stage.deck.Placed)
    (stays : ∀ slots name version, .loadLibrary slots name version ∉ operations)
    (found : stage.deck.bank.find? id = some slot) :
    ∃ after, (stage.afterAll around operations).deck.bank.find? id = some after ∧
      slot.Kept (reasons (history around stage operations) id) after := by
  induction operations generalizing stage slot with
  | nil => exact ⟨slot, found, .of_grown (absurd rfl) (List.prefix_refl _)⟩
  | cons operation rest ih =>
    -- what the first operation does to the slot, and then what the others do
    have evolved := evolved_of_operation around stage operation placed
      fun slots name version same => stays slots name version (same ▸ List.mem_cons_self)
    have here := evolved.slots id
    rw [found] at here
    generalize seen : (perform (operation.act around) stage).2.deck.bank.find? id = now at here
    rcases here with @⟨_, middle, changes⟩ | _
    have first := changes.kept
    rw [Bank.id_of_find? found] at first
    obtain ⟨after, there, later⟩ := ih _ (placed_of_operation around stage operation placed)
      (fun slots name version member =>
        stays slots name version (List.mem_cons_of_mem operation member)) seen
    let step : Step Handle Listener World :=
      ⟨stage, operation, (perform (operation.act around) stage).1,
        (perform (operation.act around) stage).2⟩
    refine ⟨after, there, .trans (first.mono ?_) (later.mono ?_)⟩
    · exact among_of_mem step List.mem_cons_self id
    · exact among_of_subset (List.subset_cons_self step _) id

section Run

variable (bank : Bank) (catalog : Catalog) (listeners : Listeners Topic Listener) (world : World)
variable (earlier between : List Operation)

/-- Between two moments of a run with no load of a library between them, a slot keeps its parameters
in their order. Where its code, or the range, the value or the knob of one of them differs, there is a
step in between that was asked for it. -/
theorem kept_between_moments
    (stays : ∀ slots name version, .loadLibrary slots name version ∉ between) :
    ∀ id slot,
      ((fresh bank catalog listeners world).afterAll around earlier).deck.bank.find? id = some slot →
      ∃ later,
        ((fresh bank catalog listeners world).afterAll around (earlier ++ between)).deck.bank.find? id =
          some later ∧
        slot.Kept (reasons
          ((history around (fresh bank catalog listeners world) (earlier ++ between)).drop
            earlier.length) id) later := by
  intro id slot found
  have placed := placed_afterAll around _ earlier (placed_fresh bank catalog listeners world)
  rw [afterAll_append, history_append, List.drop_left' (length_history around _ earlier)]
  exact kept_of_afterAll around _ placed stays found

private def tuned : List Operation :=
  [.setParameterValue 3 "a" 0.25, .assignParameter 3 "a" (some 2)]

private def edits : List Operation :=
  [.start 3, .updateLiveCode 3 "s($b)", .updateLiveCode 3 "?", .updatePatternCode 3 "s($a, $b)",
    .stop 3]

private def single : Bank := ⟨[{ id := 3, code := "s($a)" }], "", "", by decide, by decide⟩

/-- A parameter whose placeholder goes away and comes back, with an edit that is refused in between. -/
theorem kept_while_edited :
    ∃ old new p q,
      ((fresh single .empty {} 0).afterAll (.refusing (· = "?")) tuned).deck.bank.find? 3 = some old ∧
      ((fresh single .empty {} 0).afterAll (.refusing (· = "?")) (tuned ++ edits)).deck.bank.find? 3 =
        some new ∧
      old.parameters.get? "a" = some p ∧ new.parameters.get? "a" = some q ∧
      q.range = p.range ∧ q.value = p.value ∧ q.knob = p.knob := by
  have known :
      (((fresh single .empty {} 0).afterAll (.refusing (· = "?")) tuned).deck.bank.find? 3).any
        (·.parameters.get? "a" |>.isSome) := by decide +kernel
  obtain ⟨old, before, has⟩ := Option.any_eq_true _ _ |>.1 known
  obtain ⟨p, tunedTo⟩ := Option.isSome_iff_exists.1 has
  obtain ⟨new, after, kept⟩ := kept_between_moments (.refusing (· = "?")) single .empty {} 0 tuned
    edits (by simp [edits]) 3 old before
  obtain ⟨q, stillThere, same⟩ := kept.each "a" p tunedTo
  -- none of the edits is for a parameter
  have only : ∀ step ∈ (history (.refusing (· = "?")) (fresh single .empty {} 0)
      (tuned ++ edits)).drop tuned.length, step.operation ∈ edits := by
    intro step member
    rw [history_append, List.drop_left' (length_history _ _ tuned)] at member
    exact operation_of_mem_history _ _ edits member
  refine ⟨old, new, p, q, before, after, tunedTo, stillThere, ?_, ?_, ?_⟩
  · by_contra differs
    obtain ⟨step, member, lo, hi, asked⟩ := same.range differs
    simpa [asked, edits] using only step member
  · by_contra differs
    obtain ⟨step, member, reason⟩ := same.value differs
    rcases reason with ⟨lo, hi, asked⟩ | ⟨value, asked⟩ | ⟨knob, ticks, asked, -⟩
    all_goals simpa [asked, edits] using only step member
  · by_contra differs
    obtain ⟨step, member, ⟨name, knob, asked⟩ | ⟨name, knob, asked⟩⟩ := same.knob differs
    all_goals simpa [asked, edits] using only step member

end Run

end Stage

end PatternDeck
