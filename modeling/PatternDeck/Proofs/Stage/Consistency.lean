import PatternDeck.Proofs.Stage.Control
import PatternDeck.Proofs.Stage.History
import PatternDeck.Proofs.Stage.Standing

/-!
The list of the slots that play, their flags and the selection agree after every operation, whether it
failed or not: every end of every operation is a sequence of moves that keep the agreement.
-/
namespace PatternDeck

namespace Stage

variable {Handle Listener World : Type} (around : Surroundings Handle Listener World)
variable (stage : Stage Handle Listener World)

theorem Rebuilds.standing {deck after : Deck Handle Listener} {outcome : Except Failure Unit}
    {entries : List (Entry Handle)} (rebuilt : Rebuilds around deck outcome after entries) :
    after.standing = deck.standing := by
  cases rebuilt
  case silenced => rfl
  all_goals
    simp only [Deck.standing, Bank.ids_refreshed]
    rw [Bank.view_refreshed deck.bank _ fun _ => rfl]

theorem standing_rebuilt {outcome : Except Failure Unit} {after : Stage Handle Listener World}
    (present : stage.deck.Present) (rebuilt : perform (rebuild around) stage = (outcome, after)) :
    after.deck.standing = stage.deck.standing := by
  obtain ⟨entries, -, rebuilds⟩ := rebuilds_of_perform around stage present rebuilt
  exact rebuilds.standing

@[simp] theorem standing_stamped (id : Int) :
    (stage.stamped around id).deck.standing = stage.deck.standing := by
  rw [deck_stamped]
  exact Deck.standing_modify _ id fun _ => rfl

theorem standing_refreshed (deck : Deck Handle Listener) (id : Int) :
    (deck.refreshed id).standing = deck.standing :=
  deck.standing_modify id fun _ => rfl

theorem Starts.moved {id : Int} {outcome : Except Failure Unit}
    {after : Stage Handle Listener World} (present : stage.deck.Present)
    (starts : Starts around stage id outcome after) : Deck.Moved stage.deck after.deck := by
  cases starts with
  | missing | playing => exact .refl
  | failed loaded idle rebuilt =>
    have same := standing_rebuilt around _ (present.joined loaded) rebuilt
    -- it joined for the rebuild and left again
    exact .tail (.single (.joined loaded idle same)) (.left id rfl)
  | started loaded idle rebuilt =>
    have same := standing_rebuilt around _ (present.joined loaded) rebuilt
    refine .tail (.single (.joined loaded idle same)) (.kept ?_)
    simp only [deck_saved, toldPlaying_eq, deck_told, deck_toldState, standing_stamped]

theorem Stops.moved {id : Int} {outcome : Except Failure Unit}
    {after : Stage Handle Listener World} (present : stage.deck.Present)
    (stops : Stops around stage id outcome after) : Deck.Moved stage.deck after.deck := by
  cases stops with
  | missing | idle => exact .refl
  | failed loaded active rebuilt =>
    have same := standing_rebuilt around _ (present.left id) rebuilt
    -- the saved list comes back, not the slot at its end
    exact .single (.putBack active (Deck.standing_putBack same stage.deck.active))
  | stopped loaded active rebuilt =>
    have same := standing_rebuilt around _ (present.left id) rebuilt
    refine .tail (.single (.left id same)) (.kept ?_)
    simp only [toldPlaying_eq, deck_told, deck_toldState, standing_stamped]

/-- A slot that was stopped does not play. -/
theorem Stops.notMem {id : Int} {after : Stage Handle Listener World} (placed : stage.deck.Placed)
    (stops : Stops around stage id (.ok ()) after) : id ∉ after.deck.active := by
  cases stops with
  | idle loaded idle => exact idle
  | @stopped after loaded active rebuilt =>
    have same := standing_rebuilt around _ (placed.present.left id) rebuilt
    have others : after.deck.active = stage.deck.active.erase id := congrArg Prod.fst same
    simp only [toldPlaying_eq, deck_told, deck_toldState, deck_stamped, others]
    exact placed.distinct.not_mem_erase

theorem standing_toldStopped (ids : List Int) :
    (stage.toldStopped around ids).deck.standing = stage.deck.standing := by
  induction ids generalizing stage with
  | nil => rfl
  | cons id rest ih =>
    rw [toldStopped, ih]
    simp only [toldPlaying_eq, deck_told, deck_toldState, standing_stamped]

theorem silenced_of_stopAll {outcome : Except Failure Unit} {after : Stage Handle Listener World}
    (stopped : perform (stopAll around) stage = (outcome, after)) :
    after.deck.standing = stage.deck.silent.standing := by
  obtain ⟨world, stops, hushed, -, performed⟩ := perform_stopAll around stage
  rw [stopped, Prod.mk.injEq] at performed
  obtain ⟨-, rfl⟩ := performed
  rw [deck_told, standing_toldStopped]

/-- Live code has no part in what plays, whether it is taken or put back. -/
theorem LiveEdits.standing {id : Int} {code : String} {outcome : Except Failure Unit}
    {after : Stage Handle Listener World} (present : stage.deck.Present)
    (edits : LiveEdits around stage id code outcome after) :
    after.deck.standing = stage.deck.standing := by
  have recoded : ∀ (deck : Deck Handle Listener) (code : String) (parameters : Parameters),
      (deck.recoded id code parameters).standing = deck.standing :=
    fun deck _ _ => deck.standing_modify id fun _ => rfl
  cases edits with
  | missing | idle | refused => rfl
  | failed found active compiled rebuilt =>
    have same := standing_rebuilt around _ (present.recoded id code _) rebuilt
    rw [deck_told, recoded, same, recoded]
  | edited found active compiled rebuilt =>
    have same := standing_rebuilt around _ (present.recoded id code _) rebuilt
    rw [deck_saved, deck_toldState, standing_stamped, same, recoded]

theorem standing_rewritten (id : Int) (code : String) :
    (stage.rewritten around id code).deck.standing = stage.deck.standing := by
  let recoded : Stage Handle Listener World := { stage with
    deck := { stage.deck with bank := stage.deck.bank.modify id fun slot => { slot with code } } }
  calc (stage.rewritten around id code).deck.standing
      = (recoded.stamped around id).deck.standing := standing_refreshed _ id
    _ = recoded.deck.standing := standing_stamped around recoded id
    _ = stage.deck.standing := stage.deck.standing_modify id fun _ => rfl

theorem Edits.moved {id : Int} {code : String} {outcome : Except Failure Unit}
    {after : Stage Handle Listener World} (placed : stage.deck.Placed)
    (edits : Edits around stage id code outcome after) : Deck.Moved stage.deck after.deck := by
  have halts : ∀ {outcome middle}, perform (stop around id) stage = (outcome, middle) →
      Deck.Moved stage.deck middle.deck := by
    intro outcome middle stopped
    have stops := ends_of_perform (perform_stop around stage id placed.present) stopped
    exact stops.moved around stage placed.present
  cases edits with
  | missing => exact .refl
  | halted loaded active stopped => exact halts stopped
  | silent loaded idle =>
    apply Deck.Moved.kept
    rw [deck_saved, deck_toldState, standing_rewritten]
  | @restarted _ middle _ loaded active stopped started =>
    -- the start sees the deck that the stop left, with the new code
    have moved : Deck.Moved stage.deck (middle.rewritten around id code).deck :=
      (halts stopped).tail (.kept (standing_rewritten around middle id code))
    have present := (placed.moved moved).present
    have starts := ends_of_perform (perform_start around _ id present) started
    rw [deck_saved, deck_toldState]
    exact moved.trans (starts.moved around _ present)

theorem Selects.moved {selected : Option Int} {outcome : Except Failure Unit}
    {after : Stage Handle Listener World} (selects : Selects around stage selected outcome after) :
    Deck.Moved stage.deck after.deck := by
  cases selects with
  | missing => exact .refl
  | selected loaded => exact .single (.selected loaded rfl)

/-- What an edit of the bank may show for the standing to be as it was. -/
def flags (draft : Draft) : List Int × (Int → Option Bool) :=
  (draft.bank.ids, draft.bank.view Slot.playing)

theorem unseen_flags (id : Int) : Edit.Unseen flags id where
  change f same draft := by
    simp only [Edit.perform_change, flags, Bank.ids_modify]
    rw [Bank.view_modify draft.bank id same]
  touched _ _ := rfl

theorem standing_edited {α : Type} {change : Edit α} (keeps : Keeps flags change) :
    (stage.edited change).deck.standing = stage.deck.standing := by
  have kept := keeps { bank := stage.deck.bank }
  simp only [flags, Prod.mk.injEq] at kept
  simp only [edited, Deck.standing, kept]

theorem Follows.standing {id : Int} {p : Parameter} {rebuilds : Bool}
    {outcome : Except Failure Unit} {after : Stage Handle Listener World}
    (present : stage.deck.Present)
    (follows : Follows around stage id p rebuilds outcome after) :
    after.deck.standing = stage.deck.standing := by
  cases follows with
  | quiet => rw [deck_toldParameter]
  | failed _ _ rebuilt | rebuilt _ _ rebuilt =>
    have same := standing_rebuilt around _ (by rwa [deck_toldParameter]) rebuilt
    rwa [deck_toldParameter] at same

/-- Slots that play are there as long as the standing is as it was. -/
theorem present_of_standing {deck other : Deck Handle Listener} (present : deck.Present)
    (same : other.standing = deck.standing) : other.Present := by
  simp only [Deck.standing, Prod.mk.injEq] at same
  obtain ⟨active, -, ids, -⟩ := same
  rwa [Deck.Present, active, ids]

theorem standing_adjusted (id : Int) {change : Float → Edit Parameter}
    (keeps : ∀ now, Keeps flags (change now)) :
    (stage.adjusted around id change).deck.standing = stage.deck.standing := by
  rw [adjusted, standing_edited _ (keeps _), standing_refreshed]

theorem standing_turned (knob ticks : Int) :
    (stage.edited (stage.turn around knob ticks)).deck.standing = stage.deck.standing :=
  standing_edited stage (Selection.keeps_turn unseen_flags _ _ _ _)

theorem Adjusts.standing {id : Int} {rebuilds : Bool} {change : Float → Edit Parameter}
    {outcome : Except Failure Parameter} {after : Stage Handle Listener World}
    (keeps : ∀ now, Keeps flags (change now)) (present : stage.deck.Present)
    (adjusts : Adjusts around stage id rebuilds change outcome after) :
    after.deck.standing = stage.deck.standing := by
  have adjusted := standing_adjusted around stage id keeps
  cases adjusts with
  | missing => rfl
  | refused | rejected => exact adjusted
  | @changed p _ _ loaded changed follows =>
    -- what follows starts from the changed bank, where the same slots play
    have still := present_of_standing present adjusted
    have ends := ends_of_perform (perform_parameterChanged around _ id p rebuilds still) follows
    exact (ends.standing around _ still).trans adjusted

theorem Turns.standing {knob ticks : Int} {outcome : Except Failure Unit}
    {after : Stage Handle Listener World} (present : stage.deck.Present)
    (turns : Turns around stage knob ticks outcome after) :
    after.deck.standing = stage.deck.standing := by
  have turned := standing_turned around stage knob ticks
  cases turns with
  | refused | idle => exact turned
  | @turned turn _ _ driven follows =>
    have still := present_of_standing present turned
    have ends := ends_of_perform
      (perform_parameterChanged around _ turn.slot turn.parameter true still) follows
    exact (ends.standing around _ still).trans turned

theorem moved_of_changeParameter {id : Int} {rebuilds : Bool} {change : Float → Edit Parameter}
    (keeps : ∀ now, Keeps flags (change now)) (present : stage.deck.Present) :
    Deck.Moved stage.deck (perform (changeParameter around id rebuilds change) stage).2.deck := by
  have ends := perform_ends (perform_changeParameter around stage id rebuilds change)
  exact .kept (ends.standing around stage keeps present)

theorem moved_of_parameters (id : Int) :
    Deck.Moved stage.deck (perform (parameters around id) stage).2.deck := by
  by_cases loaded : id ∈ stage.deck.bank.ids
  · obtain ⟨ps, performed⟩ := perform_parameters_of_mem around stage id loaded
    rw [performed]
    exact .kept (standing_refreshed stage.deck id)
  · rw [perform_parameters_of_notMem around stage id loaded]
    exact .refl

theorem moved_of_toggle (id : Int) (present : stage.deck.Present) :
    Deck.Moved stage.deck (perform (toggle around id) stage).2.deck := by
  rw [perform_toggle]
  split
  · exact (perform_ends (perform_stop around stage id present)).moved around stage present
  · exact (perform_ends (perform_start around stage id present)).moved around stage present

theorem moved_of_pressButton (id : Int) (pressed : Bool) (placed : stage.deck.Placed) :
    Deck.Moved stage.deck (perform (pressButton around id pressed) stage).2.deck := by
  cases pressed with
  | false => exact .refl
  | true =>
    have moved := (perform_ends (perform_select around stage (some id))).moved around stage
    rw [perform_pressButton]
    rcases selected : perform (select around (some id)) stage with ⟨failure | ⟨⟩, after⟩
    all_goals rw [selected] at moved
    · exact moved
    · exact moved.trans (moved_of_toggle around after id (placed.moved moved).present)

/-- Each operation does parts of the known kinds, except that loading a library takes other slots in
the end. -/
theorem moved_of_operation (operation : Operation) (placed : stage.deck.Placed)
    (keeps : ∀ slots name version, operation ≠ .loadLibrary slots name version) :
    Deck.Moved stage.deck (perform (operation.act around) stage).2.deck := by
  have present := placed.present
  cases operation with
  | start id =>
    exact (perform_ends (perform_start around stage id present)).moved around stage present
  | stop id =>
    exact (perform_ends (perform_stop around stage id present)).moved around stage present
  | toggle id => exact moved_of_toggle around stage id present
  | stopAll => exact .single (.silenced (silenced_of_stopAll around stage rfl))
  | updateLiveCode id code =>
    exact .kept ((perform_ends (perform_updateLiveCode around stage id code present)).standing
      around stage present)
  | updatePatternCode id code =>
    exact (perform_ends (perform_updatePatternCode around stage id code present)).moved
      around stage placed
  | select id => exact (perform_ends (perform_select around stage id)).moved around stage
  | parameters id =>
    rw [Operation.act, perform_discard]
    exact moved_of_parameters around stage id
  | assignParameter id name knob =>
    rw [Operation.act, perform_discard]
    exact moved_of_changeParameter around stage
      (fun now => (unseen_flags id).keeps_assign now name knob) present
  | setParameterRange id name lo hi =>
    rw [Operation.act, perform_discard]
    exact moved_of_changeParameter around stage
      (fun now => (unseen_flags id).keeps_setRange now name lo hi) present
  | setParameterValue id name value =>
    rw [Operation.act, perform_discard]
    exact moved_of_changeParameter around stage
      (fun now => (unseen_flags id).keeps_setValue now name value) present
  | addCatalogParameter id name knob =>
    rw [Operation.act, perform_discard, perform_addCatalogParameter]
    exact moved_of_changeParameter around stage
      (fun now => (unseen_flags id).keeps_addFromCatalog stage.deck.catalog now name knob) present
  | pressButton id pressed => exact moved_of_pressButton around stage id pressed placed
  | turnKnob knob ticks =>
    exact .kept ((perform_ends (perform_turnKnob around stage knob ticks)).standing
      around stage present)
  | loadLibrary slots name version => exact absurd rfl (keeps slots name version)

section Library

variable {slots : List Slot} {name version : Option Label} {outcome : Except Failure Unit}
variable {after : Stage Handle Listener World}

theorem Loads.placed (placed : stage.deck.Placed)
    (loads : Loads around stage slots name version outcome after) : after.deck.Placed := by
  cases loads with
  | refused stopped => exact placed.moves (.silenced (silenced_of_stopAll around stage stopped))
  | @loaded bank middle stopped taken =>
    have silenced := silenced_of_stopAll around stage stopped
    simp only [Deck.standing, Prod.mk.injEq] at silenced
    refine ⟨?_, ?_, ?_⟩
    · simp [silenced, Deck.silent]
    · simp [Deck.Present, silenced, Deck.silent]
    · intro id chosen
      exact Bank.isSome_find?.1 (Option.mem_filter_iff.1 chosen).2

/-- Once slots at rest are taken in all agrees, whatever was there before. -/
theorem Loads.consistent_of_taken (placed : stage.deck.Placed)
    (quiet : ∀ slot ∈ slots, slot.playing = false)
    (loads : Loads around stage slots name version (.ok ()) after) : after.deck.Consistent := by
  refine ⟨loads.placed around stage placed, ?_⟩
  cases loads with
  | @loaded bank middle stopped taken =>
    have silenced := silenced_of_stopAll around stage stopped
    simp only [Deck.standing, Prod.mk.injEq] at silenced
    intro slot member
    have given := (Bank.perm_of_ofSlots taken).mem_iff.1 member
    -- nothing plays, and no slot of the new bank says that it does
    simp [silenced, Deck.silent, quiet slot given]

theorem Loads.consistent (consistent : stage.deck.Consistent)
    (quiet : ∀ slot ∈ slots, slot.playing = false)
    (loads : Loads around stage slots name version outcome after) : after.deck.Consistent := by
  cases loads with
  | refused stopped => exact consistent.moves (.silenced (silenced_of_stopAll around stage stopped))
  | loaded stopped taken =>
    exact Loads.consistent_of_taken around stage consistent.toPlaced quiet (.loaded stopped taken)

end Library

theorem placed_of_operation (operation : Operation) (placed : stage.deck.Placed) :
    (perform (operation.act around) stage).2.deck.Placed := by
  cases operation with
  | loadLibrary slots name version =>
    exact (perform_ends (perform_loadLibrary around stage slots name version)).placed
      around stage placed
  | _ => exact placed.moved (moved_of_operation around stage _ placed (by simp))

theorem consistent_of_operation (operation : Operation) (consistent : stage.deck.Consistent)
    (quiet : ∀ slots name version, operation = .loadLibrary slots name version →
      ∀ slot ∈ slots, slot.playing = false) :
    (perform (operation.act around) stage).2.deck.Consistent := by
  cases operation with
  | loadLibrary slots name version =>
    exact (perform_ends (perform_loadLibrary around stage slots name version)).consistent
      around stage consistent (quiet slots name version rfl)
  | _ => exact consistent.moved (moved_of_operation around stage _ consistent.toPlaced (by simp))

section History

variable {slots : List Slot} {name version : Label} (bank : Bank) (catalog : Catalog)
variable (listeners : Listeners Topic Listener) (world : World) (operations : List Operation)

theorem placed_fresh :
    (fresh bank catalog listeners world : Stage Handle Listener World).deck.Placed :=
  ⟨List.nodup_nil, by simp [fresh, Deck.Present], by simp [fresh]⟩

/-- What plays is placed in every state that a history meets. -/
theorem placed_of_history :
    ∀ step ∈ history around (fresh bank catalog listeners world) operations,
      step.before.deck.Placed ∧ step.after.deck.Placed := by
  apply invariant_of_history around _ operations fun stage => stage.deck.Placed
  · exact placed_fresh bank catalog listeners world
  · intro step taken placed
    have performed := perform_of_mem_history around _ operations taken
    have placed := placed_of_operation around step.before step.operation placed
    rwa [performed] at placed

/-- If no slot comes into a bank with its flag set, then the list of the slots that play, the flags
and the selection agree after every operation, whatever fails. -/
theorem consistent_of_history (opened : Bank.ofSlots slots name version = .ok bank)
    (quiet : ∀ slot ∈ slots, slot.playing = false)
    (quietLoads : ∀ slots name version, .loadLibrary slots name version ∈ operations →
      ∀ slot ∈ slots, slot.playing = false) :
    ∀ step ∈ history around (fresh bank catalog listeners world) operations,
      step.after.deck.Consistent := by
  have initial :
      (fresh bank catalog listeners world : Stage Handle Listener World).deck.Consistent := by
    refine ⟨placed_fresh bank catalog listeners world, fun slot member => ?_⟩
    have given := (Bank.perm_of_ofSlots opened).mem_iff.1 member
    simp [fresh, quiet slot given]
  intro step taken
  refine (invariant_of_history around _ operations
    (fun stage => stage.deck.Consistent) initial ?_ step taken).2
  intro step taken consistent
  have performed := perform_of_mem_history around _ operations taken
  have asked := operation_of_mem_history around _ operations taken
  -- the slots of a load that is asked for are at rest
  have consistent := consistent_of_operation around step.before step.operation consistent (by
    intro slots name version same
    exact quietLoads slots name version (same ▸ asked))
  rwa [performed] at consistent

private def slotsAtRest : List Slot := [{ id := 3, code := "a" }, { id := 5, code := "b" }]

private def refusedStart : List Operation :=
  [.start 3, .start 5, .select (some 3), .stop 3, .loadLibrary [{ id := 50, code := "c" }] none none]

/-- A history with a start that the renderer refuses, and with a library that has a slot outside the
grid. -/
theorem consistent_after_refusals :
    ∃ bank, Bank.ofSlots slotsAtRest "" "" = .ok bank ∧
      ∀ step ∈ history (.refusing (· = "stack(a, b)")) (fresh bank .empty {} 0) refusedStart,
        step.after.deck.Consistent := by
  have opened : Bank.ofSlots slotsAtRest "" "" = .ok _ := rfl
  refine ⟨_, opened, ?_⟩
  apply consistent_of_history _ _ _ _ _ _ opened
  · decide
  · intro slots name version asked slot member
    simp only [refusedStart, List.mem_cons, reduceCtorEq, Operation.loadLibrary.injEq, false_or,
      List.not_mem_nil, or_false] at asked
    obtain ⟨rfl, -, -⟩ := asked
    rw [List.mem_singleton.1 member]

end History

end Stage

end PatternDeck
