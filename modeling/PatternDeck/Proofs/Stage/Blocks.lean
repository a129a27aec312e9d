import PatternDeck.Proofs.Bank
import PatternDeck.Proofs.Execution
import PatternDeck.Stage.History

/-!
The building blocks of the operations: what each block yields, and what it does to the deck and to
the journal. Telling listeners, saving and noting the time never fail, and none of them changes what
plays.
-/
namespace PatternDeck

namespace Stage

open Act

variable {Handle Listener World : Type} (around : Surroundings Handle Listener World)
variable (stage : Stage Handle Listener World)

/-- The stage once the listeners were told of an event. -/
def told (event : Event) : Stage Handle Listener World :=
  (perform (announce around event) stage).2

/-- The stage once a slot was saved, if it is saved anywhere. -/
def saved (id : Int) : Stage Handle Listener World :=
  (perform (persist around id) stage).2

/-- The stage once it was noted when a slot changed. -/
def stamped (id : Int) : Stage Handle Listener World :=
  (perform (touch around id) stage).2

def toldState (id : Int) : Stage Handle Listener World :=
  (perform (announceState around id) stage).2

def toldPlaying (id : Int) : Stage Handle Listener World :=
  (perform (announcePlaying around id) stage).2

@[simp] theorem perform_getDeck :
    perform (getDeck : Act Handle Listener World _) stage = (.ok stage.deck, stage) := rfl

@[simp] theorem perform_changeDeck (change : Deck Handle Listener → Deck Handle Listener) :
    perform (changeDeck change) stage = (.ok (), { stage with deck := change stage.deck }) := rfl

@[simp] theorem perform_changeSlot (id : Int) (change : Slot → Slot) :
    perform (changeSlot id change) stage =
      (.ok (), { stage with
        deck := { stage.deck with bank := stage.deck.bank.modify id change } }) := rfl

@[simp] theorem perform_setPlaying (id : Int) (playing : Bool) :
    perform (setPlaying id playing) stage =
      (.ok (), { stage with
        deck := { stage.deck with
          bank := stage.deck.bank.modify id fun slot => { slot with playing } } }) := rfl

@[simp] theorem perform_ask {α : Type} (call : World → Except Fault α × World)
    (entry : Except Fault α → Entry Handle) :
    perform (ask call entry : Act Handle Listener World _) stage =
      (.ok (call stage.world).1,
        { stage with
          world := (call stage.world).2
          journal := stage.journal ++ [entry (call stage.world).1] }) := rfl

@[simp] theorem perform_announce (event : Event) :
    perform (announce around event) stage = (.ok (), stage.told around event) := rfl

@[simp] theorem deck_told (event : Event) : (stage.told around event).deck = stage.deck := rfl

@[simp] theorem journal_told (event : Event) :
    (stage.told around event).journal = stage.journal ++ [.announced event] := rfl

@[simp] theorem perform_report (id : Option Int) (failure : Failure) :
    perform (report around id failure) stage = (.ok (), stage.told around (.error id failure)) :=
  rfl

@[simp] theorem perform_touch (id : Int) :
    perform (touch around id) stage = (.ok (), stage.stamped around id) := rfl

@[simp] theorem deck_stamped (id : Int) :
    (stage.stamped around id).deck =
      { stage.deck with
        bank := stage.deck.bank.modify id fun slot =>
          { slot with modified := .at (around.clock stage.world) } } := rfl

@[simp] theorem journal_stamped (id : Int) :
    (stage.stamped around id).journal = stage.journal ++ [.touched id] := rfl

@[simp] theorem perform_announceState (id : Int) :
    perform (announceState around id) stage = (.ok (), stage.toldState around id) := by
  simp only [toldState, announceState, perform_bind, perform_getDeck]
  split <;> rfl

@[simp] theorem deck_toldState (id : Int) : (stage.toldState around id).deck = stage.deck := by
  simp only [toldState, announceState, perform_bind, perform_getDeck]
  split <;> rfl

theorem toldState_of_find? {id : Int} {slot : Slot} (found : stage.deck.bank.find? id = some slot) :
    stage.toldState around id = stage.told around (.stateChange slot) := by
  simp only [toldState, announceState, perform_bind, perform_getDeck, found, perform_announce]

theorem toldState_of_missing {id : Int} (missing : stage.deck.bank.find? id = none) :
    stage.toldState around id = stage := by
  simp only [toldState, announceState, perform_bind, perform_getDeck, missing, perform_pure]

@[simp] theorem perform_announcePlaying (id : Int) :
    perform (announcePlaying around id) stage = (.ok (), stage.toldPlaying around id) := by
  simp only [toldPlaying, announcePlaying, perform_bind, perform_announceState, perform_getDeck,
    perform_announce]

@[simp] theorem toldPlaying_eq (id : Int) :
    stage.toldPlaying around id =
      (stage.toldState around id).told around (.indicator id (stage.deck.color id)) := by
  simp only [toldPlaying, announcePlaying, perform_bind, perform_announceState, perform_getDeck,
    perform_announce, deck_toldState]

@[simp] theorem perform_persist (id : Int) :
    perform (persist around id) stage = (.ok (), stage.saved around id) := by
  simp only [saved, persist, perform_bind, perform_getDeck]
  split <;> rfl

@[simp] theorem deck_saved (id : Int) : (stage.saved around id).deck = stage.deck := by
  simp only [saved, persist, perform_bind, perform_getDeck]
  split <;> rfl

/-- Saving adds what came of the save to the journal, and nothing else. -/
theorem journal_saved (id : Int) :
    ∃ saves : List (Entry Handle), (stage.saved around id).journal = stage.journal ++ saves ∧
      ∀ entry ∈ saves, ∃ slot outcome, entry = .saved slot outcome ∧
        stage.deck.bank.find? id = some slot := by
  simp only [saved, persist, perform_bind, perform_getDeck]
  split
  next save slot _ found =>
    refine ⟨[.saved slot (save slot stage.world).1], rfl, fun entry there => ?_⟩
    exact ⟨slot, _, List.mem_singleton.1 there, found⟩
  · exact ⟨[], (List.append_nil _).symm, by simp⟩

section Prefix

/-- The journal only grows. -/
theorem prefix_told (event : Event) : stage.journal <+: (stage.told around event).journal :=
  List.prefix_append _ _

theorem prefix_stamped (id : Int) : stage.journal <+: (stage.stamped around id).journal :=
  List.prefix_append _ _

theorem prefix_toldState (id : Int) : stage.journal <+: (stage.toldState around id).journal := by
  -- a slot that is missing is not told of
  rcases found : stage.deck.bank.find? id with _ | slot
  · exact (toldState_of_missing around stage found).symm ▸ List.prefix_refl stage.journal
  · rw [toldState_of_find? around stage found]
    exact prefix_told around stage _

theorem prefix_toldPlaying (id : Int) : stage.journal <+: (stage.toldPlaying around id).journal := by
  rw [toldPlaying_eq]
  exact (prefix_toldState around stage id).trans (prefix_told around _ _)

theorem prefix_saved (id : Int) : stage.journal <+: (stage.saved around id).journal := by
  obtain ⟨saves, grown, -⟩ := journal_saved around stage id
  exact grown ▸ List.prefix_append _ _

end Prefix

/-- The stage once an edit of its bank was done, whether it failed or not. -/
def edited {α : Type} (change : Edit α) : Stage Handle Listener World :=
  let draft := (perform change { bank := stage.deck.bank }).2
  { stage with
    deck := { stage.deck with bank := draft.bank }
    journal := stage.journal ++ draft.touched.map Entry.touched }

@[simp] theorem perform_edit {α : Type} (change : Edit α) :
    perform (edit change : Act Handle Listener World α) stage =
      ((perform change { bank := stage.deck.bank }).1, stage.edited change) := by
  -- what was touched is written down whether the edit failed or not
  simp only [edit, perform_bind, perform_get]
  unfold edited perform
  rcases change.run.run { bank := stage.deck.bank } with ⟨_ | _, draft⟩ <;> rfl

theorem perform_slot_of_mem {id : Int} (loaded : id ∈ stage.deck.bank.ids) :
    ∃ slot, stage.deck.bank.find? id = some slot ∧
      perform (Act.slot around id) stage = (.ok slot, stage) := by
  obtain ⟨slot, found⟩ := Option.isSome_iff_exists.1 (Bank.isSome_find?.2 loaded)
  refine ⟨slot, found, ?_⟩
  simp only [Act.slot, perform_bind, perform_getDeck, Bank.get_of_find? found, perform_pure]

theorem perform_slot_of_notMem {id : Int} (missing : id ∉ stage.deck.bank.ids) :
    perform (Act.slot around id) stage =
      (.error (.slotMissing id), stage.told around (.error (some id) (.slotMissing id))) := by
  simp only [Act.slot, perform_bind, perform_getDeck, Bank.get_of_notMem missing, perform_report,
    perform_throw]

variable {stage}

theorem perform_orElseOwn_of_ok {α : Type} {action : Act Handle Listener World α} {a : α}
    {after : Stage Handle Listener World} (answer : Failure → Act Handle Listener World Unit)
    (returned : perform action stage = (.ok a, after)) :
    perform (orElseOwn action answer) stage = (.ok a, after) := by
  simp only [orElseOwn, perform_tryCatch, returned]

theorem perform_orElseOwn_of_isOwn {α : Type} {action : Act Handle Listener World α}
    {failure : Failure} {after : Stage Handle Listener World}
    (answer : Failure → Act Handle Listener World Unit)
    (failed : perform action stage = (.error failure, after)) (own : failure.isOwn) :
    perform (orElseOwn action answer) stage =
      perform (do answer failure; throw failure : Act Handle Listener World α) after := by
  simp only [orElseOwn, perform_tryCatch, failed, own, if_true]

theorem perform_orElseOwn_of_not_isOwn {α : Type} {action : Act Handle Listener World α}
    {failure : Failure} {after : Stage Handle Listener World}
    (answer : Failure → Act Handle Listener World Unit)
    (failed : perform action stage = (.error failure, after)) (foreign : failure.isOwn = false) :
    perform (orElseOwn action answer) stage = (.error failure, after) := by
  simp only [orElseOwn, perform_tryCatch, failed, foreign, Bool.false_eq_true, if_false,
    perform_throw]

theorem perform_dropOwn (action : Act Handle Listener World Unit)
    (stage : Stage Handle Listener World) :
    perform (dropOwn action) stage =
      match perform action stage with
      | (.ok (), after) => (.ok (), after)
      | (.error failure, after) =>
        if failure.isOwn then (.ok (), after) else (.error failure, after) := by
  rw [dropOwn, perform_tryCatch]
  rcases perform action stage with ⟨failure | ⟨⟩, after⟩
  · by_cases own : failure.isOwn <;> simp [own]
  · rfl

end Stage

end PatternDeck
