import PatternDeck.Proofs.Stage.Lockstep
import PatternDeck.Proofs.Stage.Tenure

/-!
What may fail unnoticed. Saving, stopping a handle, hushing the renderer and telling listeners may
fail at any call. Two runs that differ in nothing else go through the same decks by the same calls,
and every operation comes to the same in both.
-/
namespace PatternDeck

open Act Stage

/-- The operation with the parameters that it gives back. -/
def Operation.giving {Handle Listener World : Type} (around : Surroundings Handle Listener World) :
    Operation → Act Handle Listener World (List Parameter)
  | parameters id => Stage.parameters around id
  | assignParameter id name knob => do return [← Stage.assignParameter around id name knob]
  | setParameterRange id name lo hi => do return [← Stage.setParameterRange around id name lo hi]
  | setParameterValue id name value => do return [← Stage.setParameterValue around id name value]
  | addCatalogParameter id name knob => do return [← Stage.addCatalogParameter around id name knob]
  | operation => do
    operation.act around
    return []

/-- The turn of a knob ends with what its one edit answers. -/
theorem Stage.turnKnob_eq_elim {Handle Listener World : Type}
    (around : Surroundings Handle Listener World) (knob ticks : Int) :
    turnKnob around knob ticks = (do
      let stage ← get
      let turned ← Act.edit
        (Selection.turn (around.clock stage.world) stage.deck.selected knob (.whole ticks))
      turned.elim (return) fun turned =>
        parameterChanged around turned.slot turned.parameter true) := by
  refine bind_congr fun stage => bind_congr fun turned => ?_
  cases turned <;> rfl

theorem Operation.perform_act {Handle Listener World : Type}
    (around : Surroundings Handle Listener World) (operation : Operation)
    (stage : Stage Handle Listener World) :
    perform (operation.act around) stage =
      ((perform (operation.giving around) stage).1.map fun _ => (),
        (perform (operation.giving around) stage).2) := by
  have single : ∀ {α : Type} (action : Act Handle Listener World α) (f : α → List Parameter),
      perform (discard action) stage =
        ((perform (do return f (← action)) stage).1.map fun _ => (),
          (perform (do return f (← action)) stage).2) := by
    intro α action f
    rw [perform_discard, perform_bind]
    rcases perform action stage with ⟨_ | _, after⟩ <;> rfl
  have none : ∀ action : Act Handle Listener World Unit,
      perform action stage = ((perform (do action; return []) stage).1.map fun (_ : List Parameter) => (),
        (perform (do action; return ([] : List Parameter)) stage).2) := by
    intro action
    rw [perform_bind]
    rcases perform action stage with ⟨_ | _, after⟩ <;> rfl
  cases operation with
  | parameters id => exact perform_discard _ stage
  | assignParameter | setParameterRange | setParameterValue | addCatalogParameter =>
    exact single _ fun p => [p]
  | _ => exact none _

namespace Surroundings.Alike

variable {Handle Listener World World' : Type}
variable {first : Surroundings Handle Listener World}
variable {second : Surroundings Handle Listener World'} {alike : World → World' → Prop}
variable (pair : first.Alike second alike)

section Parts

theorem inStep_setPlaying (id : Int) (playing : Bool) :
    InStep alike (setPlaying id playing : Act Handle Listener World Unit)
      (setPlaying id playing : Act Handle Listener World' Unit) :=
  .changeSlot id _

theorem inStep_resolveAll (ids : List Int) :
    InStep alike (resolveAll ids : Act Handle Listener World _)
      (resolveAll ids : Act Handle Listener World' _) := by
  induction ids with
  | nil => exact .pure _
  | cons id rest ih => exact .bind (.edit _) fun program => .bind ih fun programs => .pure _

include pair

theorem composite_eq (programs : List String) :
    composite first programs = composite second programs := by
  unfold composite
  rw [pair.stack]

theorem inStep_rebuild : InStep alike (rebuild first) (rebuild second) := by
  refine .bind .getDeck fun deck => ?_
  refine .ite (.bind pair.inStep_stopCurrent fun _ => pair.inStep_announce _) ?_
  refine .bind (inStep_resolveAll _) fun programs => ?_
  rw [pair.composite_eq]
  refine .bind (pair.inStep_compiled _) fun compiled => ?_
  cases compiled with
  | error fault => exact .throw _
  | ok handle =>
    refine .bind pair.inStep_stopCurrent fun _ => .bind (pair.inStep_started handle) fun started => ?_
    cases started with
    | error fault => exact .throw _
    | ok => exact .bind (.changeDeck _) fun _ => pair.inStep_announce _

theorem inStep_start (id : Int) : InStep alike (Stage.start first id) (Stage.start second id) := by
  refine .bind (pair.inStep_slot id) fun _ => ?_
  refine .bind .getDeck fun deck => ?_
  refine .ite (.pure _) ?_
  refine .bind (.changeDeck _) fun _ => ?_
  refine .bind (inStep_setPlaying id true) fun _ => ?_
  refine .bind (.orElseOwn pair.inStep_rebuild fun failure => ?_) fun _ => ?_
  · refine .bind (.changeDeck _) fun _ => ?_
    exact .bind (inStep_setPlaying id false) fun _ => pair.inStep_report _ _
  · refine .bind (pair.inStep_touch id) fun _ => ?_
    exact .bind (pair.inStep_announcePlaying id) fun _ => pair.inStep_persist id

theorem inStep_stop (id : Int) : InStep alike (Stage.stop first id) (Stage.stop second id) := by
  refine .bind (pair.inStep_slot id) fun _ => ?_
  refine .bind .getDeck fun deck => ?_
  refine .ite (.pure _) ?_
  refine .bind (.changeDeck _) fun _ => ?_
  refine .bind (inStep_setPlaying id false) fun _ => ?_
  refine .bind (.orElseOwn pair.inStep_rebuild fun failure => ?_) fun _ => ?_
  · refine .bind (.changeDeck _) fun _ => ?_
    exact .bind (inStep_setPlaying id true) fun _ => pair.inStep_report _ _
  · exact .bind (pair.inStep_touch id) fun _ => pair.inStep_announcePlaying id

theorem inStep_toggle (id : Int) : InStep alike (toggle first id) (toggle second id) :=
  .bind .getDeck fun _ => .ite (pair.inStep_stop id) (pair.inStep_start id)

theorem inStep_announceStopped (ids : List Int) :
    InStep alike (announceStopped first ids) (announceStopped second ids) := by
  induction ids with
  | nil => exact .pure _
  | cons id rest ih =>
    refine .bind (pair.inStep_touch id) fun _ => ?_
    exact .bind (pair.inStep_announcePlaying id) fun _ => ih

theorem inStep_stopAll : InStep alike (stopAll first) (stopAll second) := by
  refine .bind pair.inStep_stopCurrent fun _ => ?_
  refine .attempt (fun _ _ => rfl) pair.hush ?_
  refine .bind .getDeck fun deck => ?_
  refine .bind (.changeDeck _) fun _ => ?_
  exact .bind (pair.inStep_announceStopped _) fun _ => pair.inStep_announce _

theorem inStep_loadLibrary (slots : List Slot) (name version : Option Label) :
    InStep alike (loadLibrary first slots name version) (loadLibrary second slots name version) := by
  refine .bind pair.inStep_stopAll fun _ => ?_
  refine .bind .getDeck fun deck => ?_
  cases deck.bank.replaced slots name version with
  | error failure => exact .throw _
  | ok bank => exact .changeDeck _

theorem inStep_updateLiveCode (id : Int) (code : String) :
    InStep alike (updateLiveCode first id code) (updateLiveCode second id code) := by
  refine .bind (pair.inStep_slot id) fun before => ?_
  refine .bind .getDeck fun deck => ?_
  refine .ite (.bind (pair.inStep_report _ _) fun _ => .bind (.throw _) fun _ => ?_) ?_
  all_goals
    refine .bind (pair.inStep_compiled _) fun outcome => ?_
    cases outcome with
    | error fault => exact .bind (pair.inStep_report _ _) fun _ => .throw _
    | ok handle =>
      refine .bind (.changeSlot id _) fun _ => ?_
      refine .bind (.orElseOwn pair.inStep_rebuild fun failure => ?_) fun _ => ?_
      · exact .bind (.changeSlot id _) fun _ => pair.inStep_report _ _
      · refine .bind (pair.inStep_touch id) fun _ => ?_
        exact .bind (pair.inStep_announceState id) fun _ => pair.inStep_persist id

theorem inStep_updatePatternCode (id : Int) (code : String) :
    InStep alike (updatePatternCode first id code) (updatePatternCode second id code) := by
  refine .bind (pair.inStep_slot id) fun _ => ?_
  refine .bind .getDeck fun deck => ?_
  -- the same follows whether the slot was stopped for it or not
  refine .ite (.bind (pair.inStep_stop id) fun _ => ?_) ?_
  all_goals
    refine .bind (.changeSlot id _) fun _ => ?_
    refine .bind (pair.inStep_touch id) fun _ => ?_
    refine .bind (.edit _) fun _ => ?_
    refine .andFinally (.ite (pair.inStep_start id) (.pure _)) ?_
    exact .bind (pair.inStep_announceState id) fun _ => pair.inStep_persist id

theorem inStep_select (id : Option Int) : InStep alike (select first id) (select second id) := by
  have chosen : InStep alike
      (Act.changeDeck fun deck => { deck with selected := id } : Act Handle Listener World Unit)
      (Act.changeDeck fun deck => { deck with selected := id }) := .changeDeck _
  cases id with
  | none => exact chosen
  | some id => exact .bind (pair.inStep_slot id) fun _ => chosen

theorem inStep_parameters (id : Int) :
    InStep alike (Stage.parameters first id) (Stage.parameters second id) := by
  refine .bind (pair.inStep_slot id) fun _ => ?_
  exact .bind (.edit _) fun _ => .pure _

theorem inStep_parameterChanged (id : Int) (p : Parameter) (rebuilds : Bool) :
    InStep alike (parameterChanged first id p rebuilds) (parameterChanged second id p rebuilds) := by
  refine .bind (pair.inStep_announce _) fun _ => ?_
  refine .bind (pair.inStep_announceState id) fun _ => ?_
  refine .bind (pair.inStep_persist id) fun _ => ?_
  refine .bind .getDeck fun deck => ?_
  exact .ite (.orElseOwn pair.inStep_rebuild fun failure => pair.inStep_report _ _) (.pure _)

theorem inStep_changeParameter (id : Int) (rebuilds : Bool) (change : Float → Edit Parameter) :
    InStep alike (changeParameter first id rebuilds change)
      (changeParameter second id rebuilds change) := by
  refine .bind (pair.inStep_slot id) fun _ => ?_
  refine .bind (.edit _) fun _ => ?_
  have changes : ∀ (_ : Deck Handle Listener) (now : Float), InStep alike
      (do
        let p ← orElseOwn (Act.edit (change now)) fun failure => report first (some id) failure
        parameterChanged first id p rebuilds
        return p)
      (do
        let p ← orElseOwn (Act.edit (change now)) fun failure => report second (some id) failure
        parameterChanged second id p rebuilds
        return p) := by
    intro _ now
    refine .bind (.orElseOwn (.edit _) fun failure => pair.inStep_report _ _) fun p => ?_
    exact .bind (pair.inStep_parameterChanged id p rebuilds) fun _ => .pure _
  have timed := InStep.timed pair changes
  exact timed

theorem inStep_pressButton (id : Int) (pressed : Bool) :
    InStep alike (pressButton first id pressed) (pressButton second id pressed) :=
  .ite (.bind (pair.inStep_select (some id)) fun _ => pair.inStep_toggle id) (.pure _)

theorem inStep_turnKnob (knob ticks : Int) :
    InStep alike (turnKnob first knob ticks) (turnKnob second knob ticks) := by
  have turns : ∀ (deck : Deck Handle Listener) (now : Float), InStep alike
      (do
        let turned ← Act.edit (Selection.turn now deck.selected knob (.whole ticks))
        turned.elim (return) fun turned =>
          parameterChanged first turned.slot turned.parameter true)
      (do
        let turned ← Act.edit (Selection.turn now deck.selected knob (.whole ticks))
        turned.elim (return) fun turned =>
          parameterChanged second turned.slot turned.parameter true) := by
    intro deck now
    refine .bind (.edit _) fun turned => ?_
    cases turned with
    | none => exact .pure _
    | some turned => exact pair.inStep_parameterChanged _ _ _
  rw [turnKnob_eq_elim, turnKnob_eq_elim]
  exact InStep.timed pair turns

/-- Every operation is in step with itself. -/
theorem inStep_giving (operation : Operation) :
    InStep alike (operation.giving first) (operation.giving second) := by
  have silent : ∀ {action : Act Handle Listener World Unit} {action' : Act Handle Listener World' Unit},
      InStep alike action action' →
      InStep alike (do action; return ([] : List Parameter)) (do action'; return []) :=
    fun inStep => .bind inStep fun _ => .pure _
  have single : ∀ {action : Act Handle Listener World Parameter}
      {action' : Act Handle Listener World' Parameter}, InStep alike action action' →
      InStep alike (do return [← action]) (do return [← action']) :=
    fun inStep => .bind inStep fun _ => .pure _
  cases operation with
  | start id => exact silent (pair.inStep_start id)
  | stop id => exact silent (pair.inStep_stop id)
  | toggle id => exact silent (pair.inStep_toggle id)
  | stopAll => exact silent pair.inStep_stopAll
  | updateLiveCode id code => exact silent (pair.inStep_updateLiveCode id code)
  | updatePatternCode id code => exact silent (pair.inStep_updatePatternCode id code)
  | select id => exact silent (pair.inStep_select id)
  | parameters id => exact pair.inStep_parameters id
  | assignParameter id name knob => exact single (pair.inStep_changeParameter id false _)
  | setParameterRange id name lo hi => exact single (pair.inStep_changeParameter id true _)
  | setParameterValue id name value => exact single (pair.inStep_changeParameter id true _)
  | addCatalogParameter id name knob =>
    exact single (.bind .getDeck fun _ => pair.inStep_changeParameter id true _)
  | pressButton id pressed => exact silent (pair.inStep_pressButton id pressed)
  | turnKnob knob ticks => exact silent (pair.inStep_turnKnob knob ticks)
  | loadLibrary slots name version => exact silent (pair.inStep_loadLibrary slots name version)

end Parts

end Surroundings.Alike

namespace Stage

variable {Handle Listener World World' : Type}
variable {first : Surroundings Handle Listener World}
variable {second : Surroundings Handle Listener World'} {alike : World → World' → Prop}

/-- Two steps that differ in their worlds at most, and in what came of calls that may fail
unnoticed. -/
structure SameStep (first : Surroundings Handle Listener World)
    (second : Surroundings Handle Listener World') (step : Step Handle Listener World)
    (step' : Step Handle Listener World') : Prop where
  operation : step.operation = step'.operation
  outcome : step.outcome = step'.outcome
  given : (perform (step.operation.giving first) step.before).1 =
    (perform (step'.operation.giving second) step'.before).1
  deck : step.after.deck = step'.after.deck
  attempts : step.after.journal.map Entry.attempt = step'.after.journal.map Entry.attempt

theorem grown_afterAll {around : Surroundings Handle Listener World}
    (grows : ∀ operation : Operation, Grows (operation.act around))
    (stage : Stage Handle Listener World) (operations : List Operation) :
    stage.journal <+: (stage.afterAll around operations).journal := by
  induction operations generalizing stage with
  | nil => exact List.prefix_refl _
  | cons operation rest ih => exact ((grows operation).grown stage).trans (ih _)

theorem sameStep_of_history (pair : first.Alike second alike) {stage : Stage Handle Listener World}
    {stage' : Stage Handle Listener World'} (operations : List Operation)
    (matched : Matches alike stage stage')
    (agree : Agree (stage.afterAll first operations).journal
      (stage'.afterAll second operations).journal) :
    List.Forall₂ (SameStep first second) (history first stage operations)
      (history second stage' operations) := by
  have grows : ∀ operation : Operation, Grows (operation.act first) := fun operation base stage =>
    by simpa only [Operation.perform_act] using (pair.inStep_giving operation).grows base stage
  have grows' : ∀ operation : Operation, Grows (operation.act second) := fun operation base stage =>
    by simpa only [Operation.perform_act] using (pair.inStep_giving operation).grows' base stage
  induction operations generalizing stage stage' with
  | nil => exact .nil
  | cons operation rest ih =>
    have now := Operation.perform_act first operation stage
    have now' := Operation.perform_act second operation stage'
    -- what the renderer answers until the end of the run, it answers in the first operation
    have here : Agree (perform (operation.giving first) stage).2.journal
        (perform (operation.giving second) stage').2.journal := by
      refine agree.of_prefix ?_ ?_
      · rw [afterAll, now]
        exact grown_afterAll grows _ rest
      · rw [afterAll, now']
        exact grown_afterAll grows' _ rest
    obtain ⟨given, after⟩ := (pair.inStep_giving operation).same matched here
    rw [afterAll, afterAll, now, now'] at agree
    refine .cons ?_ ?_
    · refine ⟨rfl, ?_, given, ?_, ?_⟩
      · change (perform (operation.act first) stage).1 = (perform (operation.act second) stage').1
        rw [now, now', given]
      · change (perform (operation.act first) stage).2.deck =
          (perform (operation.act second) stage').2.deck
        rw [now, now', after.deck]
      · change (perform (operation.act first) stage).2.journal.map Entry.attempt =
          (perform (operation.act second) stage').2.journal.map Entry.attempt
        rw [now, now', after.attempts]
    · change List.Forall₂ _ (history first (perform (operation.act first) stage).2 rest)
        (history second (perform (operation.act second) stage').2 rest)
      rw [now, now']
      exact ih after agree

/-- Two runs from the same deck, in which the renderer answers alike whenever it is to compile or to
start: every operation comes to the same, gives back the same and leaves the same deck behind, and
the same calls were made and the same was told, whatever failed besides. -/
theorem same_whatever_fails (pair : first.Alike second alike) (deck : Deck Handle Listener)
    (world : World) (world' : World') (related : alike world world') (operations : List Operation)
    (agree : Agree (afterAll first ⟨deck, world, []⟩ operations).journal
      (afterAll second ⟨deck, world', []⟩ operations).journal) :
    List.Forall₂ (SameStep first second) (history first ⟨deck, world, []⟩ operations)
      (history second ⟨deck, world', []⟩ operations) :=
  sameStep_of_history pair operations ⟨rfl, related, rfl⟩ agree

/-- Surroundings that refuse one program, and in which all calls that may fail unnoticed work, or
none of them. -/
private def flaky (works : Bool) : Surroundings Nat Unit Nat :=
  let come : Except Fault Unit := if works then .ok () else .error ⟨"OSError", "gone"⟩
  { compile := fun program world =>
      if program = "?" then (.error ⟨"SyntaxError", "refused"⟩, world) else (.ok world, world + 1)
    start := fun _ world => (.ok (), world)
    stop := fun _ world => (come, world)
    hush := fun world => (come, world)
    stack := Program.stackText
    save := some fun _ world => (come, world)
    hear := fun _ _ _ world => (come, world)
    clock := Nat.toFloat }

private def attended : Stage Nat Unit Nat :=
  fresh .pair .empty ⟨Topic.all.map fun topic => (topic, ())⟩ 0

private def unnoticed : Entry Nat → Bool
  | .stopped _ (.error _) | .hushed (.error _) | .saved _ (.error _) => true
  | _ => false

private def flakyRun : List Operation := [.start 3, .updatePatternCode 3 "?", .start 5, .stopAll]

/-- Saves, stops and listeners that fail every time, beside a run in which nothing does; the renderer
refuses the same program in both. -/
theorem same_when_all_else_fails :
    List.Forall₂ (SameStep (flaky true) (flaky false)) (history (flaky true) attended flakyRun)
        (history (flaky false) attended flakyRun) ∧
      (attended.afterAll (flaky true) flakyRun).journal.countP unnoticed = 0 ∧
      (attended.afterAll (flaky false) flakyRun).journal.countP unnoticed = 6 := by
  have pair : (flaky true).Alike (flaky false) (· = ·) := by
    refine ⟨?_, rfl, ?_, ?_, ?_, ?_, .some ?_, ?_⟩
    all_goals
      intros
      subst_vars
      rfl
  have answered : answers (attended.afterAll (flaky true) flakyRun).journal =
      answers (attended.afterAll (flaky false) flakyRun).journal := by decide +kernel
  refine ⟨same_whatever_fails pair attended.deck 0 0 rfl flakyRun ?_, by decide +kernel,
    by decide +kernel⟩
  exact .of_answers answered

end Stage

end PatternDeck
