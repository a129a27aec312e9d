import PatternDeck.Proofs.Stage.Consistency
import PatternDeck.Proofs.Stage.Evolution
import PatternDeck.Proofs.Stage.Excerpt
import PatternDeck.Proofs.Stage.Handover

/-!
The error channel. When an operation fails with a failure of the deck's own, its listeners were told
of that failure once, with the slot that was addressed; of any other outcome they were told nothing
there. Operations are made of one another, and only the one that meets a failure tells of it.
-/
namespace PatternDeck

/-- The failure that the listeners are told of, after the slot that it is told of. -/
def Entry.failure? {Handle : Type} : Entry Handle → Option (Option Int × Failure)
  | announced (.error id failure) => some (id, failure)
  | _ => none

/-- The slot that an operation is about. A knob is turned for the slot that is selected. -/
def Operation.addressee? {Handle Listener : Type} (deck : Deck Handle Listener) :
    Operation → Option Int
  | start id | stop id | toggle id | updateLiveCode id _ | updatePatternCode id _ | parameters id
  | assignParameter id .. | setParameterRange id .. | setParameterValue id ..
  | addCatalogParameter id .. | pressButton id _ => some id
  | select id => id
  | turnKnob .. => deck.selected
  | stopAll | loadLibrary .. => none

/-- What is told on the error channel when an operation that addresses a slot has an outcome. -/
inductive Answered {α : Type} (addressed : Option Int) :
    Except Failure α → List (Option Int × Failure) → Prop where
  | own {id : Int} {failure : Failure} (own : failure.isOwn) (addressee : addressed = some id) :
      Answered addressed (.error failure) [(some id, failure)]
  | foreign {failure : Failure} (foreign : failure.isOwn = false) :
      Answered addressed (.error failure) []
  | worked (a : α) : Answered addressed (.ok a) []

theorem Answered.map {α β : Type} {addressed : Option Int} {outcome : Except Failure α}
    {told : List (Option Int × Failure)} (answered : Answered addressed outcome told) (f : α → β) :
    Answered addressed (outcome.map f) told := by
  cases answered with
  | own own addressee => exact .own own addressee
  | foreign foreign => exact .foreign foreign
  | worked a => exact .worked (f a)

section Refusals

variable {failure : Failure}

theorem Bank.not_isOwn_of_insert {bank : Bank} {slot : Slot}
    (refused : bank.insert slot = .error failure) : failure.isOwn = false := by
  unfold Bank.insert at refused
  split_ifs at refused
  all_goals
    cases refused
    rfl

/-- Slots are refused for their places, which is no failure of the deck's own. -/
theorem Bank.not_isOwn_of_replaced {bank : Bank} {slots : List Slot} {name version : Option Label}
    (refused : bank.replaced slots name version = .error failure) : failure.isOwn = false := by
  unfold Bank.replaced Bank.ofSlots at refused
  generalize (Bank.empty (name.getD bank.name) (version.getD bank.version) : Bank) = filled at refused
  induction slots generalizing filled with
  | nil => cases refused
  | cons slot rest ih =>
    rw [List.foldlM_cons] at refused
    rcases inserted : filled.insert slot with other | more
    · rw [inserted] at refused
      cases refused
      exact not_isOwn_of_insert inserted
    · rw [inserted] at refused
      exact ih more refused

variable {now : Float} {selected : Option Int} {knob : Int} {ticks : Ticks} {draft : Draft}

/-- A knob is refused for numbers alone. -/
theorem Selection.not_isOwn_of_turn
    (refused : (perform (turn now selected knob ticks) draft).1 = .error failure) :
    failure.isOwn = false := by
  obtain ⟨outcome, after, performed, ends⟩ := perform_turn now selected knob ticks draft
  rw [performed] at refused
  subst refused
  cases ends <;> rfl

theorem Selection.selected_of_turn {turned : Turn}
    (driven : (perform (turn now selected knob ticks) draft).1 = .ok (some turned)) :
    selected = some turned.slot := by
  obtain ⟨outcome, after, performed, ends⟩ := perform_turn now selected knob ticks draft
  rw [performed] at driven
  subst driven
  cases ends with
  | turned drives =>
    obtain ⟨id, chosen, found, -⟩ := driven?_eq_some drives
    rw [chosen, Bank.id_of_find? found]

end Refusals

namespace Stage

open Act

variable {Handle Listener World : Type} (around : Surroundings Handle Listener World)

/-- The failures that the listeners were told of, in order. -/
def reports (stage : Stage Handle Listener World) : List (Option Int × Failure) :=
  stage.journal.filterMap Entry.failure?

/-- What the listeners were told of failures between two stages answers an outcome. -/
def Answers {α : Type} (addressed : Option Int) (outcome : Except Failure α)
    (before after : Stage Handle Listener World) : Prop :=
  ∃ told, after.reports = before.reports ++ told ∧ Answered addressed outcome told

section Answers

variable {α : Type} {addressed : Option Int} {outcome : Except Failure α} {failure : Failure}
variable {before middle after : Stage Handle Listener World} {id : Int}

theorem Answers.worked (a : α) (same : after.reports = before.reports) :
    Answers addressed (.ok a) before after :=
  ⟨[], by rw [same, List.append_nil], .worked a⟩

theorem Answers.foreign (foreign : failure.isOwn = false) (same : after.reports = before.reports) :
    Answers addressed (.error failure : Except Failure α) before after :=
  ⟨[], by rw [same, List.append_nil], .foreign foreign⟩

theorem Answers.since (same : middle.reports = before.reports)
    (answers : Answers addressed outcome middle after) : Answers addressed outcome before after := by
  obtain ⟨told, grown, answered⟩ := answers
  exact ⟨told, by rw [grown, same], answered⟩

theorem Answers.until (answers : Answers addressed outcome before middle)
    (same : after.reports = middle.reports) : Answers addressed outcome before after := by
  obtain ⟨told, grown, answered⟩ := answers
  exact ⟨told, by rw [same, grown], answered⟩

/-- An operation ends by telling of its failure. -/
theorem answers_told (own : failure.isOwn) (same : middle.reports = before.reports) :
    Answers (some id) (.error failure : Except Failure α) before
      (middle.told around (.error (some id) failure)) := by
  refine ⟨[(some id, failure)], ?_, .own own rfl⟩
  rw [← same, reports, journal_told, List.filterMap_append]
  rfl

end Answers

section Blocks

variable (stage : Stage Handle Listener World) (id : Int)

instance : Entry.Narrow (Entry.failure? : Entry Handle → _) where
  passes := by
    intro entry calm
    unfold Entry.failure?
    split
    · cases calm
    · rfl

@[simp] theorem reports_stamped : (stage.stamped around id).reports = stage.reports :=
  excerpt_stamped around _ stage id

@[simp] theorem reports_toldState : (stage.toldState around id).reports = stage.reports :=
  excerpt_toldState around _ stage id

@[simp] theorem reports_toldPlaying : (stage.toldPlaying around id).reports = stage.reports := by
  rw [toldPlaying_eq, ← reports_toldState around stage id]
  exact excerpt_told_of_unseen around _ _ rfl

@[simp] theorem reports_saved : (stage.saved around id).reports = stage.reports :=
  excerpt_saved around _ stage id

@[simp] theorem reports_rewritten (code : String) :
    (stage.rewritten around id code).reports = stage.reports :=
  excerpt_rewritten around _ stage id code

@[simp] theorem reports_toldStopped (ids : List Int) :
    (stage.toldStopped around ids).reports = stage.reports := by
  induction ids generalizing stage with
  | nil => rfl
  | cons id rest ih => rw [toldStopped, ih, reports_toldPlaying, reports_stamped]

variable {stage} in
theorem reports_rebuilt {outcome : Except Failure Unit} {after : Stage Handle Listener World}
    (present : stage.deck.Present) (rebuilt : perform (rebuild around) stage = (outcome, after)) :
    after.reports = stage.reports :=
  excerpt_rebuilt around _ present rebuilt

end Blocks

section Ends

variable {stage after : Stage Handle Listener World} {outcome : Except Failure Unit} {id : Int}

theorem Starts.answers (present : stage.deck.Present)
    (starts : Starts around stage id outcome after) : Answers (some id) outcome stage after := by
  cases starts with
  | missing => exact answers_told around rfl rfl
  | playing => exact .worked () rfl
  | @failed failure ended loaded idle rebuilt =>
    have here := present.joined loaded
    have told := reports_rebuilt around here rebuilt
    exact answers_told around (isOwn_of_perform_rebuild around _ here rebuilt) told
  | started loaded idle rebuilt =>
    have told := reports_rebuilt around (present.joined loaded) rebuilt
    refine .worked () ?_
    rw [reports_saved, reports_toldPlaying, reports_stamped]
    exact told

theorem Stops.answers (present : stage.deck.Present)
    (stops : Stops around stage id outcome after) : Answers (some id) outcome stage after := by
  cases stops with
  | missing => exact answers_told around rfl rfl
  | idle => exact .worked () rfl
  | failed loaded active rebuilt =>
    have here := present.left id
    have told := reports_rebuilt around here rebuilt
    exact answers_told around (isOwn_of_perform_rebuild around _ here rebuilt) told
  | stopped loaded active rebuilt =>
    have told := reports_rebuilt around (present.left id) rebuilt
    refine .worked () ?_
    rw [reports_toldPlaying, reports_stamped]
    exact told

theorem answers_of_toggle (present : stage.deck.Present)
    (performed : perform (toggle around id) stage = (outcome, after)) :
    Answers (some id) outcome stage after := by
  rw [perform_toggle] at performed
  split at performed
  · exact (ends_of_perform (perform_stop around stage id present) performed).answers around present
  · exact (ends_of_perform (perform_start around stage id present) performed).answers around present

theorem LiveEdits.answers {code : String} (present : stage.deck.Present)
    (edits : LiveEdits around stage id code outcome after) :
    Answers (some id) outcome stage after := by
  have compiled : ∀ (deck : Deck Handle Listener) (world : World) (program : String)
      (outcome : Except Fault Handle),
      reports ⟨deck, world, stage.journal ++ [.compiled program outcome]⟩ = stage.reports :=
    excerpt_compiled _
  cases edits with
  | missing | idle => exact answers_told around rfl rfl
  | refused => exact answers_told around rfl (compiled _ _ _ _)
  | @failed slot handle world failure ended found active taken rebuilt =>
    have here := present.recoded id code { slot with code }.refreshed.parameters
    exact answers_told around (isOwn_of_perform_rebuild around _ here rebuilt)
      ((reports_rebuilt around here rebuilt).trans (compiled _ _ _ _))
  | @edited slot handle world ended found active taken rebuilt =>
    have here := present.recoded id code { slot with code }.refreshed.parameters
    refine .worked () ?_
    rw [reports_saved, reports_toldState, reports_stamped]
    exact (reports_rebuilt around here rebuilt).trans (compiled _ _ _ _)

theorem Edits.answers {code : String} (placed : stage.deck.Placed)
    (edits : Edits around stage id code outcome after) : Answers (some id) outcome stage after := by
  have present := placed.present
  have halts : ∀ {outcome middle}, perform (stop around id) stage = (outcome, middle) →
      Stops around stage id outcome middle :=
    fun stopped => ends_of_perform (perform_stop around stage id present) stopped
  cases edits with
  | missing => exact answers_told around rfl rfl
  | halted loaded active stopped => exact (halts stopped).answers around present
  | silent =>
    refine .worked () ?_
    rw [reports_saved, reports_toldState, reports_rewritten]
  | @restarted _ middle restarted loaded active stopped started =>
    have moved := ((halts stopped).moved around stage present).tail
      (.kept (standing_rewritten around middle id code))
    have still := (placed.moved moved).present
    have starts := ends_of_perform (perform_start around _ id still) started
    -- the stop worked, so nothing was told before the start
    have told : (middle.rewritten around id code).reports = stage.reports := by
      rw [reports_rewritten]
      obtain ⟨told, grown, answered⟩ := (halts stopped).answers around present
      cases answered
      rw [grown, List.append_nil]
    refine ((starts.answers around still).since told).until ?_
    rw [reports_saved, reports_toldState]

theorem Selects.answers {selected : Option Int}
    (selects : Selects around stage selected outcome after) :
    Answers selected outcome stage after := by
  cases selects with
  | missing => exact answers_told around rfl rfl
  | selected => exact .worked () rfl

theorem answers_of_pressButton {pressed : Bool} (present : stage.deck.Present)
    (performed : perform (pressButton around id pressed) stage = (outcome, after)) :
    Answers (some id) outcome stage after := by
  cases pressed with
  | false =>
    cases performed
    exact .worked () rfl
  | true =>
    rw [perform_pressButton] at performed
    rcases selected : perform (select around (some id)) stage with ⟨failure | ⟨⟩, middle⟩
    all_goals
      have selects := ends_of_perform (perform_select around stage (some id)) selected
      simp only [selected] at performed
    · cases performed
      exact selects.answers around
    · -- a selection that works tells nothing, and which slots there are stays
      cases selects
      let chosen : Stage Handle Listener World :=
        { stage with deck := { stage.deck with selected := some id } }
      have toggles : Answers (some id) outcome chosen after :=
        answers_of_toggle around present performed
      exact toggles.since rfl

theorem Follows.answers {p : Parameter} {rebuilds : Bool} (present : stage.deck.Present)
    (follows : Follows around stage id p rebuilds outcome after) :
    Answers (some id) outcome stage after := by
  have told : (stage.toldParameter around id p).reports = stage.reports :=
    excerpt_toldParameter around _ stage id p
  rw [← deck_toldParameter around stage id p] at present
  cases follows with
  | quiet => exact .worked () told
  | failed _ _ rebuilt =>
    exact answers_told around (isOwn_of_perform_rebuild around _ present rebuilt)
      ((reports_rebuilt around present rebuilt).trans told)
  | rebuilt _ _ rebuilt =>
    exact .worked () ((reports_rebuilt around present rebuilt).trans told)

theorem answers_of_changeParameter {rebuilds : Bool} {change : Float → Edit Parameter}
    (keeps : ∀ now, Keeps flags (change now)) (present : stage.deck.Present)
    (performed : perform (discard (changeParameter around id rebuilds change)) stage =
      (outcome, after)) : Answers (some id) outcome stage after := by
  obtain ⟨came, ended, changes, adjusts⟩ :=
    perform_changeParameter around stage id rebuilds change
  rw [perform_discard, changes, Prod.mk.injEq] at performed
  obtain ⟨rfl, rfl⟩ := performed
  have adjusted : (stage.adjusted around id change).reports = stage.reports :=
    excerpt_edited _ _ _
  cases adjusts with
  | missing => exact answers_told around rfl rfl
  | refused _ own => exact answers_told around own adjusted
  | rejected _ foreign => exact .foreign foreign adjusted
  | @changed p outcome _ loaded changed follows =>
    have still := present_of_standing present (standing_adjusted around stage id keeps)
    have ends := ends_of_perform (perform_parameterChanged around _ id p rebuilds still) follows
    obtain ⟨told, grown, answered⟩ := (ends.answers around still).since adjusted
    exact ⟨told, grown, (answered.map _).map _⟩

theorem answers_of_parameters
    (performed : perform (discard (parameters around id)) stage = (outcome, after)) :
    Answers (some id) outcome stage after := by
  rw [perform_discard] at performed
  by_cases loaded : id ∈ stage.deck.bank.ids
  · obtain ⟨ps, refreshed⟩ := perform_parameters_of_mem around stage id loaded
    rw [refreshed] at performed
    cases performed
    exact .worked () rfl
  · rw [perform_parameters_of_notMem around stage id loaded] at performed
    cases performed
    exact answers_told around rfl rfl

theorem Turns.answers {knob ticks : Int} (present : stage.deck.Present)
    (turns : Turns around stage knob ticks outcome after) :
    Answers stage.deck.selected outcome stage after := by
  have edited : (stage.edited (stage.turn around knob ticks)).reports = stage.reports :=
    excerpt_edited _ stage _
  cases turns with
  | refused refusal => exact .foreign (Selection.not_isOwn_of_turn refusal) edited
  | idle => exact .worked () edited
  | @turned turned _ _ driven follows =>
    have still := present_of_standing present (standing_turned around stage knob ticks)
    have ends := ends_of_perform
      (perform_parameterChanged around _ turned.slot turned.parameter true still) follows
    rw [Selection.selected_of_turn driven]
    exact (ends.answers around still).since edited

theorem reports_of_stopAll (stopped : perform (stopAll around) stage = (outcome, after)) :
    outcome = .ok () ∧ after.reports = stage.reports := by
  obtain ⟨quiet, -, same, silenced⟩ := perform_stopAll_excerpt around Entry.failure? stage
  rw [silenced, Prod.mk.injEq] at stopped
  obtain ⟨rfl, rfl⟩ := stopped
  refine ⟨rfl, ?_⟩
  have told := reports_toldStopped around quiet stage.deck.audible
  exact (excerpt_told_of_unseen around _ _ rfl).trans (told.trans same)

theorem Loads.answers {slots : List Slot} {name version : Option Label}
    (loads : Loads around stage slots name version outcome after) :
    Answers none outcome stage after := by
  cases loads with
  | refused stopped refusal =>
    exact .foreign (Bank.not_isOwn_of_replaced refusal) (reports_of_stopAll around stopped).2
  | loaded stopped taken => exact .worked () (reports_of_stopAll around stopped).2

end Ends

section Operations

variable {stage after : Stage Handle Listener World} {outcome : Except Failure Unit}

theorem answers_of_operation {operation : Operation} (placed : stage.deck.Placed)
    (performed : perform (operation.act around) stage = (outcome, after)) :
    Answers (operation.addressee? stage.deck) outcome stage after := by
  have present := placed.present
  cases operation with
  | start id =>
    exact (ends_of_perform (perform_start around stage id present) performed).answers around present
  | stop id =>
    exact (ends_of_perform (perform_stop around stage id present) performed).answers around present
  | toggle id => exact answers_of_toggle around present performed
  | stopAll =>
    obtain ⟨rfl, same⟩ := reports_of_stopAll around performed
    exact .worked () same
  | updateLiveCode id code =>
    have ends := perform_updateLiveCode around stage id code present
    exact (ends_of_perform ends performed).answers around present
  | updatePatternCode id code =>
    have ends := perform_updatePatternCode around stage id code present
    exact (ends_of_perform ends performed).answers around placed
  | select id => exact (ends_of_perform (perform_select around stage id) performed).answers around
  | parameters id => exact answers_of_parameters around performed
  | assignParameter id name knob =>
    exact answers_of_changeParameter around
      (fun now => (unseen_flags id).keeps_assign now name knob) present performed
  | setParameterRange id name lo hi =>
    exact answers_of_changeParameter around
      (fun now => (unseen_flags id).keeps_setRange now name lo hi) present performed
  | setParameterValue id name value =>
    exact answers_of_changeParameter around
      (fun now => (unseen_flags id).keeps_setValue now name value) present performed
  | addCatalogParameter id name knob =>
    rw [Operation.act, perform_discard, perform_addCatalogParameter, ← perform_discard] at performed
    exact answers_of_changeParameter around
      (fun now => (unseen_flags id).keeps_addFromCatalog stage.deck.catalog now name knob) present
      performed
  | pressButton id pressed => exact answers_of_pressButton around present performed
  | turnKnob knob ticks =>
    exact (ends_of_perform (perform_turnKnob around stage knob ticks) performed).answers
      around present
  | loadLibrary slots name version =>
    have ends := perform_loadLibrary around stage slots name version
    exact (ends_of_perform ends performed).answers around

/-- Asking for the slots that play never fails, since all of them are in the bank. -/
theorem perform_playingSlots (placed : stage.deck.Placed) :
    ∃ slots, perform playingSlots stage = (.ok slots, stage) := by
  have found : ∀ ids : List Int, (∀ id ∈ ids, id ∈ stage.deck.bank.ids) →
      ∃ slots, ids.mapM stage.deck.bank.get = .ok slots := by
    intro ids there
    induction ids with
    | nil => exact ⟨[], rfl⟩
    | cons id rest ih =>
      obtain ⟨first, others⟩ := List.forall_mem_cons.1 there
      obtain ⟨slot, seen⟩ := Option.isSome_iff_exists.1 (Bank.isSome_find?.2 first)
      obtain ⟨slots, gotten⟩ := ih others
      exact ⟨slot :: slots, by rw [List.mapM_cons, Bank.get_of_find? seen, gotten]; rfl⟩
  obtain ⟨slots, gotten⟩ := found stage.deck.active placed.present
  refine ⟨slots, ?_⟩
  simp only [playingSlots, perform_bind, perform_getDeck, gotten, perform_pure]

variable (bank : Bank) (catalog : Catalog) (listeners : Listeners Topic Listener) (world : World)
variable (operations : List Operation)

/-- An operation that fails with a failure of the deck's own has told of that failure, once and with
the slot that it addressed. Any other operation has told of no failure. -/
theorem reported_iff_of_history :
    ∀ step ∈ history around (fresh bank catalog listeners world) operations,
      step.after.journal = step.before.journal ++ step.entries ∧
      (∀ failure, step.outcome = .error failure → failure.isOwn →
        ∃ id, step.operation.addressee? step.before.deck = some id ∧
          step.entries.filterMap Entry.failure? = [(some id, failure)]) ∧
      ((∀ failure, step.outcome = .error failure → failure.isOwn = false) →
        step.entries.filterMap Entry.failure? = []) ∧
      ∃ slots, perform playingSlots step.before = (.ok slots, step.before) := by
  intro step taken
  have placed := (placed_of_history around bank catalog listeners world operations step taken).1
  have performed := perform_of_mem_history around _ operations taken
  obtain ⟨grown, -⟩ := ordered_of_history bank catalog listeners world operations step taken
  obtain ⟨told, reported, answered⟩ := answers_of_operation around placed performed
  have only : step.entries.filterMap Entry.failure? = told := by
    rw [reports, grown, List.filterMap_append] at reported
    exact List.append_cancel_left reported
  refine ⟨grown, ?_, ?_, perform_playingSlots placed⟩
  all_goals
    rw [only]
    generalize step.outcome = outcome at answered
  · rintro failure rfl isOwn
    cases answered with
    | own own addressee => exact ⟨_, addressee, rfl⟩
    | foreign foreign =>
      rw [isOwn] at foreign
      cases foreign
  · intro foreign
    cases answered with
    | own isOwn addressee =>
      rw [foreign _ rfl] at isOwn
      cases isOwn
    | foreign | worked => rfl

private def restarts : List (Step Nat Empty Nat) :=
  history (.refusing (· = "?")) (fresh .pair .empty {} 0) [.start 3, .updatePatternCode 3 "?"]

private def restart : Step Nat Empty Nat := restarts.get ⟨1, by decide +kernel⟩

/-- A slot is stopped for its new code and is not started again: the start has told of that. -/
theorem told_once_when_restart_refused :
    ∃ failure, restart.outcome = .error failure ∧ restart.after.deck.active = [] ∧
      restart.entries.filterMap Entry.failure? = [(some 3, failure)] := by
  have own : (match restart.outcome with
      | .error failure => failure.isOwn
      | .ok _ => false) = true := by decide +kernel
  have addressed : restart.operation.addressee? restart.before.deck = some 3 := by decide +kernel
  have stopped : restart.after.deck.active = [] := by decide +kernel
  rcases outcome : restart.outcome with failure | ⟨⟩
  all_goals rw [outcome] at own
  · obtain ⟨-, answer, -⟩ := reported_iff_of_history _ _ _ _ _ _ restart (List.get_mem restarts _)
    obtain ⟨id, addressee, told⟩ := answer failure outcome own
    obtain rfl : id = 3 := Option.some.inj (addressee.symm.trans addressed)
    exact ⟨failure, rfl, stopped, told⟩
  · cases own

end Operations

end Stage

end PatternDeck
