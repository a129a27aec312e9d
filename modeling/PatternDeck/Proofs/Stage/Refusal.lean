import PatternDeck.Proofs.Stage.Interruption

/-!
A refused program interrupts nothing. The program is compiled before the old composite is stopped, and
the operation puts back what it had changed for the rebuild.
-/
namespace PatternDeck

namespace Deck

variable {Handle Listener : Type} {deck other : Deck Handle Listener}

/-- The slots that play are flagged so. Others may be flagged too, when they came into the bank so. -/
def Marked (deck : Deck Handle Listener) : Prop :=
  ∀ id ∈ deck.active, deck.bank.view Slot.playing id = some true

theorem Marked.congr (same : deck.standing = other.standing) (marked : deck.Marked) :
    other.Marked := by
  simp only [standing, Prod.mk.injEq] at same
  obtain ⟨active, -, -, flags⟩ := same
  rwa [Marked, active, flags] at marked

theorem Marked.joined {id : Int} (marked : deck.Marked) (loaded : id ∈ deck.bank.ids) :
    (deck.joined id).Marked := by
  intro other there
  rw [Deck.joined, view_flag]
  split
  next same =>
    obtain ⟨flag, seen⟩ := Option.isSome_iff_exists.1 ((Bank.isSome_view Slot.playing).2 loaded)
    rw [same, seen]
    rfl
  next differs =>
    rcases List.mem_append.1 there with there | there
    · exact marked other there
    · exact absurd (List.mem_singleton.1 there) differs

theorem Marked.left (marked : deck.Marked) (placed : deck.Placed) (id : Int) :
    (deck.left id).Marked := by
  intro other there
  -- an id that stood in the list twice would still be there
  obtain ⟨differs, there⟩ := placed.distinct.mem_erase_iff.1 there
  rw [Deck.left, view_flag, if_neg differs]
  exact marked other there

theorem Marked.putBack (marked : deck.Marked) (id : Int) : (deck.putBack id deck.active).Marked := by
  intro other there
  rw [Deck.putBack, view_flag, marked other there]
  split <;> rfl

theorem Marked.moves (placed : deck.Placed) (marked : deck.Marked) (moves : Moves deck other) :
    other.Marked := by
  cases moves with
  | kept same => exact marked.congr same.symm
  | joined loaded idle same => exact (marked.joined loaded).congr same.symm
  | left id same => exact (marked.left placed id).congr same.symm
  | @putBack id active same => exact (marked.putBack id).congr same.symm
  | @selected selected loaded same =>
    have chosen : ({ deck with selected } : Deck Handle Listener).Marked := marked
    exact chosen.congr same.symm
  | silenced same =>
    have none : deck.silent.Marked := fun id there => by cases there
    exact none.congr same.symm

theorem Marked.moved (placed : deck.Placed) (marked : deck.Marked) (moved : Moved deck other) :
    other.Marked := by
  induction moved with
  | refl => exact marked
  | tail first moves ih => exact ih.moves (placed.moved first) moves

/-- All flags are as before, but that of a slot which was asked to start: if it was set without the slot
playing, it is off. -/
def FlagsRestored (asked : Option Int) (before after : Deck Handle Listener) : Prop :=
  ∀ id, after.bank.view Slot.playing id =
    if asked = some id ∧ id ∉ before.active ∧ before.bank.view Slot.playing id = some true then
      some false
    else before.bank.view Slot.playing id

/-- Flags are restored by leaving them alone, if the slot that was asked to start plays already or is not
there. -/
theorem FlagsRestored.of_flags {asked : Option Int}
    (same : other.bank.view Slot.playing = deck.bank.view Slot.playing)
    (settled : ∀ id, asked = some id → id ∈ deck.active ∨ id ∉ deck.bank.ids) :
    FlagsRestored asked deck other := by
  intro id
  rw [same, if_neg]
  rintro ⟨own, idle, set⟩
  rcases settled id own with active | missing
  · exact idle active
  · exact missing ((Bank.isSome_view Slot.playing).1 (set ▸ rfl))

theorem FlagsRestored.of_standing (same : other.standing = deck.standing) :
    FlagsRestored none deck other := by
  simp only [standing, Prod.mk.injEq] at same
  exact .of_flags same.2.2.2 (by simp)

theorem FlagsRestored.of_missing {id : Int} (missing : id ∉ deck.bank.ids)
    (same : other.bank = deck.bank) : FlagsRestored (some id) deck other := by
  refine .of_flags (by rw [same]) ?_
  rintro _ ⟨⟩
  exact .inr missing

end Deck

/-- The slot that an operation may start. -/
def Operation.starts? : Operation → Option Int
  | start id | toggle id | pressButton id _ => some id
  | _ => none

namespace Stage

open Act

variable {Handle Listener World : Type} (around : Surroundings Handle Listener World)
variable (stage : Stage Handle Listener World)
variable {after : Stage Handle Listener World} {failure : Failure} {id : Int}

theorem Starts.flagsRestored (present : stage.deck.Present)
    (starts : Starts around stage id (.error failure) after) :
    Deck.FlagsRestored (some id) stage.deck after.deck := by
  cases starts with
  | missing missing => exact .of_missing missing rfl
  | @failed failure ended loaded idle rebuilt =>
    have same := standing_rebuilt around _ (present.joined loaded) rebuilt
    simp only [Deck.standing, Prod.mk.injEq] at same
    intro other
    rw [deck_told, Deck.left, Deck.view_flag, same.2.2.2, Deck.joined, Deck.view_flag]
    by_cases own : other = id
    · subst own
      -- the flag was set for the rebuild and is taken off after it
      simp only [if_true, idle, not_false_eq_true, true_and]
      rcases stage.deck.bank.view Slot.playing other with _ | _ | _
      all_goals rfl
    · have differs : ¬some id = some other := fun same => own (Option.some.inj same).symm
      simp only [own, differs, if_false, false_and]

/-- A slot that could not be stopped is flagged again. -/
theorem Stops.flags_eq (present : stage.deck.Present) (marked : stage.deck.Marked)
    (stops : Stops around stage id (.error failure) after) :
    after.deck.bank.view Slot.playing = stage.deck.bank.view Slot.playing := by
  cases stops with
  | missing => rfl
  | @failed failure ended loaded active rebuilt =>
    have same := Deck.standing_putBack (standing_rebuilt around _ (present.left id) rebuilt)
      stage.deck.active
    simp only [Deck.standing, Prod.mk.injEq] at same
    funext other
    rw [deck_told, same.2.2.2, Deck.putBack, Deck.view_flag]
    split
    next own =>
      rw [own, marked id active]
      rfl
    next => rfl

theorem flagsRestored_of_toggle (present : stage.deck.Present) (marked : stage.deck.Marked)
    (failed : perform (toggle around id) stage = (.error failure, after)) :
    Deck.FlagsRestored (some id) stage.deck after.deck := by
  rw [perform_toggle] at failed
  split at failed
  next active =>
    have stops := ends_of_perform (perform_stop around stage id present) failed
    refine .of_flags (stops.flags_eq around stage present marked) ?_
    rintro _ ⟨⟩
    exact .inl active
  next =>
    have starts := ends_of_perform (perform_start around stage id present) failed
    exact starts.flagsRestored around stage present

theorem flagsRestored_of_pressButton {pressed : Bool} (placed : stage.deck.Placed)
    (marked : stage.deck.Marked)
    (failed : perform (pressButton around id pressed) stage = (.error failure, after)) :
    Deck.FlagsRestored (some id) stage.deck after.deck := by
  cases pressed with
  | false => cases failed
  | true =>
    rw [perform_pressButton] at failed
    rcases selected : perform (select around (some id)) stage with ⟨refusal | ⟨⟩, after⟩
    all_goals
      have selects := ends_of_perform (perform_select around stage (some id)) selected
      simp only [selected] at failed
      cases selects
    next missing =>
      cases failed
      exact .of_missing missing rfl
    · let chosen : Stage Handle Listener World :=
        { stage with deck := { stage.deck with selected := some id } }
      have restored := flagsRestored_of_toggle around chosen placed.present marked failed
      exact restored

theorem flagsRestored_of_changeParameter {rebuilds : Bool}
    {change : Float → Edit Parameter} (keeps : ∀ now, Keeps flags (change now))
    (present : stage.deck.Present)
    (failed : perform (discard (changeParameter around id rebuilds change)) stage =
      (.error failure, after)) : Deck.FlagsRestored none stage.deck after.deck := by
  rw [perform_discard, Prod.mk.injEq] at failed
  obtain ⟨-, rfl⟩ := failed
  have ends := perform_ends (perform_changeParameter around stage id rebuilds change)
  exact .of_standing (ends.standing around stage keeps present)

theorem flagsRestored_of_operation {operation : Operation} (once : operation.rebuildsOnce)
    (placed : stage.deck.Placed) (marked : stage.deck.Marked)
    (failed : perform (operation.act around) stage = (.error failure, after)) :
    Deck.FlagsRestored operation.starts? stage.deck after.deck := by
  have present := placed.present
  -- only a start can lose a flag; whatever leaves the standing of the deck leaves its flags
  cases operation with
  | start id =>
    exact (ends_of_perform (perform_start around stage id present) failed).flagsRestored
      around stage present
  | stop id =>
    have stops := ends_of_perform (perform_stop around stage id present) failed
    exact .of_flags (stops.flags_eq around stage present marked) (by simp [Operation.starts?])
  | toggle id => exact flagsRestored_of_toggle around stage present marked failed
  | stopAll =>
    obtain ⟨world, stops, hushed, halts, stopped⟩ := perform_stopAll around stage
    rw [Operation.act, stopped] at failed
    cases failed
  | updateLiveCode id code =>
    have edits := ends_of_perform (perform_updateLiveCode around stage id code present) failed
    exact .of_standing (edits.standing around stage present)
  | select id =>
    cases ends_of_perform (perform_select around stage id) failed
    exact .of_standing rfl
  | parameters id =>
    rw [Operation.act, perform_discard, Prod.mk.injEq] at failed
    obtain ⟨-, rfl⟩ := failed
    by_cases loaded : id ∈ stage.deck.bank.ids
    · obtain ⟨ps, refreshed⟩ := perform_parameters_of_mem around stage id loaded
      rw [refreshed]
      exact .of_standing (standing_refreshed stage.deck id)
    · rw [perform_parameters_of_notMem around stage id loaded]
      exact .of_standing rfl
  | assignParameter id name knob =>
    exact flagsRestored_of_changeParameter around stage
      (fun now => (unseen_flags id).keeps_assign now name knob) present failed
  | setParameterRange id name lo hi =>
    exact flagsRestored_of_changeParameter around stage
      (fun now => (unseen_flags id).keeps_setRange now name lo hi) present failed
  | setParameterValue id name value =>
    exact flagsRestored_of_changeParameter around stage
      (fun now => (unseen_flags id).keeps_setValue now name value) present failed
  | addCatalogParameter id name knob =>
    rw [Operation.act, perform_discard, perform_addCatalogParameter, ← perform_discard] at failed
    exact flagsRestored_of_changeParameter around stage
      (fun now => (unseen_flags id).keeps_addFromCatalog stage.deck.catalog now name knob) present
      failed
  | pressButton id pressed => exact flagsRestored_of_pressButton around stage placed marked failed
  | turnKnob knob ticks =>
    have turns := ends_of_perform (perform_turnKnob around stage knob ticks) failed
    exact .of_standing (turns.standing around stage present)
  | updatePatternCode | loadLibrary => cases once

theorem marked_of_operation {operation : Operation} (placed : stage.deck.Placed)
    (marked : stage.deck.Marked) : (perform (operation.act around) stage).2.deck.Marked := by
  by_cases load : ∃ slots name version, operation = .loadLibrary slots name version
  · obtain ⟨slots, name, version, rfl⟩ := load
    -- nothing plays after a load
    have idle : ∀ {outcome stopped}, perform (stopAll around) stage = (outcome, stopped) →
        stopped.deck.active = [] := by
      intro outcome stopped performed
      exact congrArg Prod.fst (silenced_of_stopAll around stage performed)
    obtain ⟨outcome, after, performed, loads⟩ := perform_loadLibrary around stage slots name version
    rw [Operation.act, performed]
    cases loads with
    | refused stopped =>
      intro id there
      rw [idle stopped] at there
      cases there
    | loaded stopped =>
      intro id there
      rw [idle stopped] at there
      cases there
  · have moved := moved_of_operation around stage operation placed
      (fun slots name version same => load ⟨slots, name, version, same⟩)
    exact marked.moved placed moved

theorem marked_of_history (bank : Bank) (catalog : Catalog)
    (listeners : Listeners Topic Listener) (world : World) (operations : List Operation) :
    ∀ step ∈ history around (fresh bank catalog listeners world) operations,
      step.before.deck.Marked := by
  have placed := placed_of_history around bank catalog listeners world operations
  have initial : (fresh bank catalog listeners world : Stage Handle Listener World).deck.Marked :=
    fun id there => by cases there
  intro step taken
  refine (invariant_of_history around _ operations
    (fun stage => stage.deck.Marked) initial ?_ step taken).1
  intro step taken marked
  have kept : (perform (step.operation.act around) step.before).2.deck.Marked :=
    marked_of_operation around step.before (placed step taken).1 marked
  rwa [perform_of_mem_history around _ operations taken] at kept

theorem Leaves.of_refused {before after : Stage Handle Listener World}
    {outcome : Except Failure Unit} (leaves : Leaves before outcome after) {program : String}
    {fault : Fault} {entries : List (Entry Handle)}
    (grown : after.journal = before.journal ++ entries)
    (refused : .compiled program (.error fault) ∈ entries) :
    (∃ failure ∈ refusals program fault, outcome = .error failure) ∧
      (∀ entry ∈ entries, entry.isHeard = false) ∧ after.deck.running = before.deck.running ∧
      after.deck.active = before.deck.active := by
  have same : ∀ {others}, after.journal = before.journal ++ others → others = entries := by
    intro others grown'
    exact List.append_cancel_left (grown'.symm.trans grown)
  cases leaves with
  | spared others grown' active running unheard answered =>
    cases same grown'
    exact ⟨answered program fault refused, unheard, running, active⟩
  | unstarted others grown' _ _ accepted | started others grown' _ _ accepted
  | silenced others grown' _ _ accepted =>
    -- the other ends come after a program that was accepted
    cases same grown'
    cases accepted _ refused

/-- An operation whose program is refused fails with the refusal. Nothing was started, stopped or
hushed, and the same composite plays for the same slots in the same order. All flags are as before, but
that of the slot which was to start: if it was set without the slot playing, it is off. -/
theorem spared_of_refusal (bank : Bank) (catalog : Catalog)
    (listeners : Listeners Topic Listener) (world : World) (operations : List Operation) :
    ∀ step ∈ history around (fresh bank catalog listeners world) operations,
      step.operation.rebuildsOnce →
      ∀ program fault, .compiled program (.error fault) ∈ step.entries →
        step.after.journal = step.before.journal ++ step.entries ∧
        (∃ failure ∈ refusals program fault, step.outcome = .error failure) ∧
        (∀ entry ∈ step.entries, entry.isHeard = false) ∧
        step.after.deck.running = step.before.deck.running ∧
        step.after.deck.active = step.before.deck.active ∧
        Deck.FlagsRestored step.operation.starts? step.before.deck step.after.deck := by
  intro step taken once program fault refused
  have placed := (placed_of_history around bank catalog listeners world operations step taken).1
  have marked := marked_of_history around bank catalog listeners world operations step taken
  have performed := perform_of_mem_history around _ operations taken
  have leaves := leaves_of_operation around step.before once placed performed
  obtain ⟨entries, grown⟩ := leaves.grown
  rw [Step.entries_eq grown] at refused ⊢
  obtain ⟨answer, unheard, running, active⟩ := leaves.of_refused grown refused
  refine ⟨grown, answer, unheard, running, active, ?_⟩
  obtain ⟨failure, -, failed⟩ := answer
  rw [failed] at performed
  exact flagsRestored_of_operation around step.before once placed marked performed

private theorem exists_refused {Handle Listener World : Type} {step : Step Handle Listener World}
    (some : step.entries.any Entry.isRefusal) :
    ∃ program fault, .compiled program (.error fault) ∈ step.entries := by
  obtain ⟨entry, there, refusal⟩ := List.any_eq_true.1 some
  rcases entry with ⟨program, fault | handle⟩ | _
  all_goals try cases refusal
  exact ⟨program, fault, there⟩

private def refusedStop : List (Step Nat Empty (List Bool)) :=
  history .scripted (fresh .pair .empty {} [true, true, true, true, true, false])
    [.start 3, .start 5, .stop 3]

private def refusedStep : Step Nat Empty (List Bool) := refusedStop.get ⟨2, by decide +kernel⟩

/-- The first of two slots is to stop, and the renderer refuses the program of the other. -/
theorem spared_when_stop_refused :
    ∃ step ∈ refusedStop, (∃ failure, step.outcome = .error failure) ∧
      step.before.deck.active = [3, 5] ∧ step.after.deck.active = [3, 5] ∧
      step.after.deck.running = step.before.deck.running ∧
      step.after.deck.program? = some "stack(a, b)" ∧
      (∀ entry ∈ step.entries, entry.isHeard = false) ∧
      Deck.FlagsRestored none step.before.deck step.after.deck := by
  have taken : refusedStep ∈ refusedStop := List.get_mem _ _
  have played : refusedStep.before.deck.active = [3, 5] := by decide +kernel
  have sounds : refusedStep.after.deck.program? = some "stack(a, b)" := by decide +kernel
  have some : refusedStep.entries.any Entry.isRefusal := by decide +kernel
  obtain ⟨program, fault, refused⟩ := exists_refused some
  have once : refusedStep.operation.rebuildsOnce := by decide +kernel
  have asked : refusedStep.operation.starts? = none := by decide +kernel
  obtain ⟨-, ⟨failure, -, failed⟩, unheard, running, active, restored⟩ :=
    spared_of_refusal _ _ _ _ _ _ _ taken once program fault refused
  rw [asked] at restored
  exact ⟨_, taken, ⟨failure, failed⟩, played, active.trans played, running, sounds, unheard, restored⟩

private def flaggedBank : Bank :=
  ⟨[{ id := 3, code := "a", playing := true }], "", "", by decide, by decide⟩

private def flaggedStart : List (Step Nat Empty Nat) :=
  history (.refusing fun _ => true) (fresh flaggedBank .empty {} 0) [.start 3]

private def flaggedStep : Step Nat Empty Nat := flaggedStart.get ⟨0, by decide +kernel⟩

/-- The flag of a slot that came in flagged is not kept when its program is refused. -/
theorem flag_lost_by_refusal :
    ¬ ∀ step ∈ flaggedStart, step.operation.rebuildsOnce →
      ∀ program fault, .compiled program (.error fault) ∈ step.entries →
        ∀ id, step.after.deck.bank.view Slot.playing id =
          step.before.deck.bank.view Slot.playing id := by
  intro kept
  have taken : flaggedStep ∈ flaggedStart := List.get_mem _ _
  have once : flaggedStep.operation.rebuildsOnce := by decide +kernel
  have some : flaggedStep.entries.any Entry.isRefusal := by decide +kernel
  obtain ⟨program, fault, refused⟩ := exists_refused some
  have same := kept _ taken once program fault refused 3
  have lost : flaggedStep.after.deck.bank.view Slot.playing 3 ≠
      flaggedStep.before.deck.bank.view Slot.playing 3 := by decide +kernel
  exact lost same

end Stage

end PatternDeck
