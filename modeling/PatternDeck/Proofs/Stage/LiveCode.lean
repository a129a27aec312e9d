import PatternDeck.Proofs.Stage.Consistency
import PatternDeck.Proofs.Stage.Journal

/-!
Live code is taken whole or not at all. A rebuild refreshes the parameters of every slot that plays,
also those of the slot whose code is on trial; what is put back after a failure stands over that.
-/
namespace PatternDeck

/-- The slot says and plays the same, and has the parameters that it had, and maybe more. -/
structure Slot.Extends (old new : Slot) : Prop where
  code : new.code = old.code
  playing : new.playing = old.playing
  parameters : old.parameters.toList <+: new.parameters.toList

theorem Slot.Extends.refl (slot : Slot) : slot.Extends slot :=
  ⟨rfl, rfl, List.prefix_refl _⟩

theorem Slot.extends_refreshed (slot : Slot) : slot.Extends slot.refreshed :=
  ⟨rfl, rfl, slot.parameters.toList_prefix_merge _⟩

theorem Bank.find?_refreshed (bank : Bank) (ids : List Int) (id : Int) :
    (bank.refreshed ids).find? id =
      (bank.find? id).map fun slot => if id ∈ ids then slot.refreshed else slot := by
  rw [refreshed, find?_map]
  cases found : bank.find? id with
  | none => rfl
  | some slot =>
    obtain rfl := id_of_find? found
    simp only [Option.map_some]
    split <;> rfl

namespace Stage

open Act

variable {Handle Listener World : Type} (around : Surroundings Handle Listener World)
variable (stage : Stage Handle Listener World)
variable {outcome : Except Failure Unit} {after : Stage Handle Listener World} {failure : Failure}
variable {id : Int} {code : String}

section Rebuild

variable (present : stage.deck.Present)
include present

/-- A rebuild refreshes the slots that play, and leaves the others as they are. -/
theorem bank_rebuilt (rebuilt : perform (rebuild around) stage = (outcome, after)) :
    after.deck.bank = stage.deck.bank.refreshed stage.deck.active := by
  obtain ⟨entries, -, rebuilds⟩ := rebuilds_of_perform around stage present rebuilt
  generalize after.deck = deck at rebuilds ⊢
  cases rebuilds with
  | silenced idle => rw [idle, Bank.refreshed_nil]
  | refused | unstarted | started => rfl

theorem find?_rebuilt {slot : Slot} (rebuilt : perform (rebuild around) stage = (outcome, after))
    (found : stage.deck.bank.find? id = some slot) :
    after.deck.bank.find? id = some (if id ∈ stage.deck.active then slot.refreshed else slot) := by
  rw [bank_rebuilt around stage present rebuilt, Bank.find?_refreshed, found, Option.map_some]

/-- A rebuild that fails tells nobody. -/
theorem untold_of_failed (rebuilt : perform (rebuild around) stage = (.error failure, after)) :
    ∃ entries, after.journal = stage.journal ++ entries ∧
      (∀ entry ∈ entries, entry.isSave = false) ∧ entries.filterMap Entry.event? = [] := by
  obtain ⟨entries, grown, rebuilds⟩ := rebuilds_of_perform around stage present rebuilt
  refine ⟨entries, grown, ?_⟩
  generalize after.deck = deck at rebuilds
  cases rebuilds with
  | refused => simp [Entry.isSave, Entry.event?]
  | @unstarted stops handle fault busy stopped =>
    have unsaved : ∀ entry ∈ stops, entry.isSave = false :=
      fun entry there => Entry.isSave_of_isStop (stopped.isStop entry there)
    have untold := List.filterMap_eq_nil_iff.2 fun entry there =>
      Entry.event?_of_isStop (stopped.isStop entry there)
    simp only [List.filterMap_append, List.filterMap_cons, Entry.event?, untold]
    refine ⟨List.forall_mem_append.2 ⟨List.forall_mem_cons.2 ⟨rfl, unsaved⟩, ?_⟩, rfl⟩
    exact List.forall_mem_singleton.2 rfl

end Rebuild

/-- Once the composite was rebuilt with live code, well or not, the slot has the code and the
parameters for it. The others only gained parameters. -/
theorem find?_tried {slot : Slot} {world : World} {journal : List (Entry Handle)}
    (present : stage.deck.Present) (found : stage.deck.bank.find? id = some slot)
    (active : id ∈ stage.deck.active)
    (rebuilt : perform (rebuild around)
      ⟨stage.deck.recoded id code { slot with code }.refreshed.parameters, world, journal⟩ =
        (outcome, after)) :
    after.deck.bank.find? id =
        some { slot with code, parameters := slot.parameters.merge (Program.detect code) } ∧
      ∀ other, other ≠ id →
        Option.Rel Slot.Extends (stage.deck.bank.find? other) (after.deck.bank.find? other) := by
  have present := present.recoded id code { slot with code }.refreshed.parameters
  rw [bank_rebuilt around _ present rebuilt]
  simp only [Bank.find?_refreshed]
  constructor
  · obtain rfl := Bank.id_of_find? found
    rw [Deck.recoded, Bank.find?_modify_self found, Option.map_some, if_pos active]
    -- the refresh finds nothing that the code did not have when it was tried alone
    simp only [Slot.refreshed, Parameters.merge_merge]
  · intro other differs
    rw [Deck.recoded, Bank.find?_modify_ne _ differs]
    cases stage.deck.bank.find? other with
    | none => exact .none
    | some slot =>
      refine .some ?_
      split
      · exact slot.extends_refreshed
      · exact .refl slot

/-- Live code that fails leaves the slot as it was, saves nothing, and tells of the failure. -/
theorem LiveEdits.undone (present : stage.deck.Present)
    (edits : LiveEdits around stage id code (.error failure) after) :
    after.deck.bank.find? id = stage.deck.bank.find? id ∧
      ∃ entries, after.journal = stage.journal ++ entries ∧
        (∀ entry ∈ entries, entry.isSave = false) ∧
        entries.filterMap Entry.event? = [.error (some id) failure] := by
  cases edits with
  | missing | idle => exact ⟨rfl, [_], rfl, by simp [Entry.isSave], rfl⟩
  | @refused slot fault world found active compiled =>
    let failure : Failure := .invalidCode fault.message { slot with code }.text
    refine ⟨rfl, [.compiled { slot with code }.text (.error fault),
      .announced (.error (some id) failure)], by simp [failure], ?_, rfl⟩
    simp [Entry.isSave]
  | @failed slot handle world failure ended found active compiled rebuilt =>
    obtain ⟨tried, -⟩ := find?_tried around stage present found active rebuilt
    obtain ⟨entries, grown, unsaved, untold⟩ :=
      untold_of_failed around _ (present.recoded id code _) rebuilt
    constructor
    · obtain rfl := Bank.id_of_find? found
      exact (Bank.find?_modify_self tried _).trans found.symm
    · refine ⟨.compiled { slot with code }.text (.ok handle) :: entries ++
        [.announced (.error (some id) failure)], by simp [grown], ?_, ?_⟩
      · simp only [List.cons_append, List.forall_mem_cons, List.forall_mem_append]
        exact ⟨rfl, unsaved, by simp [Entry.isSave]⟩
      · simp only [List.filterMap_append, List.filterMap_cons, Entry.event?, untold]
        rfl

/-- Live code that is taken leaves the other slots their code, their flags and their parameters. -/
theorem LiveEdits.done (present : stage.deck.Present)
    (edits : LiveEdits around stage id code (.ok ()) after) :
    (∃ old new, stage.deck.bank.find? id = some old ∧ after.deck.bank.find? id = some new ∧
      new.code = code ∧ new.parameters = old.parameters.merge (Program.detect code)) ∧
    ∀ other, other ≠ id →
      Option.Rel Slot.Extends (stage.deck.bank.find? other) (after.deck.bank.find? other) := by
  cases edits with
  | @edited slot handle world ended found active compiled rebuilt =>
    obtain ⟨tried, others⟩ := find?_tried around stage present found active rebuilt
    rw [deck_saved, deck_toldState, deck_stamped]
    constructor
    · exact ⟨slot, _, found, Bank.find?_modify_self tried _, rfl, rfl⟩
    · intro other differs
      rw [Bank.find?_modify_ne _ differs]
      exact others other differs

/-- A change of live code is done or not done. If it fails the slot is as it was, nothing is saved, and
the failure is all that is told. If it works the slot has the new code and the parameters merged for
it. Either way the same slots play, in the same order. -/
theorem live_code_all_or_nothing (bank : Bank) (catalog : Catalog)
    (listeners : Listeners Topic Listener) (world : World) (operations : List Operation) :
    ∀ step ∈ history around (fresh bank catalog listeners world) operations,
      ∀ id code, step.operation = .updateLiveCode id code →
        step.after.deck.active = step.before.deck.active ∧
        (∀ failure, step.outcome = .error failure →
          step.after.deck.bank.find? id = step.before.deck.bank.find? id ∧
          step.after.journal = step.before.journal ++ step.entries ∧
          (∀ entry ∈ step.entries, entry.isSave = false) ∧
          step.entries.filterMap Entry.event? = [.error (some id) failure]) ∧
        (step.outcome = .ok () →
          (∃ old new, step.before.deck.bank.find? id = some old ∧
            step.after.deck.bank.find? id = some new ∧ new.code = code ∧
            new.parameters = old.parameters.merge (Program.detect code)) ∧
          ∀ other, other ≠ id → Option.Rel Slot.Extends
            (step.before.deck.bank.find? other) (step.after.deck.bank.find? other)) := by
  intro step taken id code asked
  have placed := (placed_of_history around bank catalog listeners world operations step taken).1
  have present := placed.present
  have performed := perform_of_mem_history around _ operations taken
  rw [asked] at performed
  have edits := ends_of_perform (perform_updateLiveCode around step.before id code present) performed
  refine ⟨congrArg Prod.fst (edits.standing around step.before present), ?_, ?_⟩
  · intro failure failed
    rw [failed] at edits
    obtain ⟨same, entries, grown, unsaved, told⟩ := edits.undone around step.before present
    rw [Step.entries_eq grown]
    exact ⟨same, grown, unsaved, told⟩
  · intro returned
    rw [returned] at edits
    exact edits.done around step.before present

private def liveSteps : List (Step Nat Empty (List Bool)) :=
  history .scripted (fresh .pair .empty {} [true, true, true, true, true, false])
    [.start 3, .start 5, .updateLiveCode 3 "c", .updateLiveCode 3 "d($g)"]

private def refusedEdit : Step Nat Empty (List Bool) := liveSteps.get ⟨2, by decide +kernel⟩

private def takenEdit : Step Nat Empty (List Bool) := liveSteps.get ⟨3, by decide +kernel⟩

/-- Live code that is refused, and then live code that is taken. -/
theorem live_code_after_refusal :
    (∃ step ∈ liveSteps, ∃ failure, step.operation = .updateLiveCode 3 "c" ∧
      step.outcome = .error failure ∧
      step.after.deck.bank.find? 3 = step.before.deck.bank.find? 3 ∧
      step.entries.filterMap Entry.event? = [.error (some 3) failure]) ∧
    ∃ step ∈ liveSteps, ∃ old new, step.operation = .updateLiveCode 3 "d($g)" ∧
      step.outcome = .ok () ∧ step.after.deck.active = [3, 5] ∧
      step.before.deck.bank.find? 3 = some old ∧ step.after.deck.bank.find? 3 = some new ∧
      new.code = "d($g)" ∧ new.parameters = old.parameters.merge (Program.detect "d($g)") := by
  constructor
  · have taken : refusedEdit ∈ liveSteps := List.get_mem _ _
    have asked : refusedEdit.operation = .updateLiveCode 3 "c" := operation_get _ _ _ _ rfl
    have refused : refusedEdit.outcome.isOk = false := by decide +kernel
    obtain ⟨-, undone, -⟩ := live_code_all_or_nothing _ _ _ _ _ _ _ taken 3 "c" asked
    rcases failed : refusedEdit.outcome with failure | ⟨⟩
    · obtain ⟨same, -, -, told⟩ := undone failure failed
      exact ⟨_, taken, failure, asked, failed, same, told⟩
    · rw [failed] at refused
      cases refused
  · have taken : takenEdit ∈ liveSteps := List.get_mem _ _
    have asked : takenEdit.operation = .updateLiveCode 3 "d($g)" := operation_get _ _ _ _ rfl
    have worked : takenEdit.outcome.isOk := by decide +kernel
    have active : takenEdit.before.deck.active = [3, 5] := by decide +kernel
    obtain ⟨plays, -, done⟩ := live_code_all_or_nothing _ _ _ _ _ _ _ taken 3 "d($g)" asked
    rcases returned : takenEdit.outcome with failure | ⟨⟩
    · rw [returned] at worked
      cases worked
    · obtain ⟨⟨old, new, before, after, code, parameters⟩, -⟩ := done returned
      exact ⟨_, taken, old, new, asked, returned, plays.trans active, before, after, code, parameters⟩

end Stage

end PatternDeck
