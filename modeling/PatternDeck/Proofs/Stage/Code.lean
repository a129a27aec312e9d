import PatternDeck.Proofs.Binding
import PatternDeck.Proofs.Parameter.Lookup
import PatternDeck.Proofs.Stage.Playback

/-!
What changing the code of a slot can come to. Live code is put back when the renderer refuses it, by
itself or in the composite; an edit that stops the slot and starts it again is not.
-/
namespace PatternDeck

/-- The slot with another code, and with the parameters that the code asks for. -/
def Slot.recoded (slot : Slot) (code : String) : Slot :=
  { slot with code, parameters := slot.parameters.merge (Program.detect code) }

theorem Slot.names_recoded (slot : Slot) (code : String) :
    slot.parameters.names ⊆ (slot.recoded code).parameters.names :=
  (Parameters.names_prefix (slot.parameters.toList_prefix_merge _)).subset

namespace Deck

variable {Handle Listener : Type} (deck : Deck Handle Listener)

/-- The deck with another text for a slot. -/
def recoded (id : Int) (code : String) (parameters : Parameters) : Deck Handle Listener :=
  { deck with bank := deck.bank.modify id fun slot => { slot with code, parameters } }

/-- The deck with the parameters of a slot refreshed. -/
def refreshed (id : Int) : Deck Handle Listener :=
  { deck with bank := deck.bank.modify id Slot.refreshed }

variable {deck} in
theorem Present.recoded (present : deck.Present) (id : Int) (code : String)
    (parameters : Parameters) : (deck.recoded id code parameters).Present := by
  simpa [Deck.recoded, Deck.Present] using present

end Deck

namespace Stage

open Act

variable {Handle Listener World : Type} (around : Surroundings Handle Listener World)
variable (stage : Stage Handle Listener World)
variable (id : Int) (code : String)

/-- The ends of an edit of live code. -/
inductive LiveEdits : Except Failure Unit → Stage Handle Listener World → Prop where
  | missing (missing : id ∉ stage.deck.bank.ids) :
      LiveEdits (.error (.slotMissing id))
        (stage.told around (.error (some id) (.slotMissing id)))
  | idle (loaded : id ∈ stage.deck.bank.ids) (idle : id ∉ stage.deck.active) :
      LiveEdits (.error (.notPlaying id))
        (stage.told around (.error (some id) (.notPlaying id)))
  | refused {slot : Slot} {fault : Fault} {world : World}
      (found : stage.deck.bank.find? id = some slot) (active : id ∈ stage.deck.active)
      (compiled : around.compile { slot with code }.text stage.world = (.error fault, world)) :
      LiveEdits (.error (.invalidCode fault.message { slot with code }.text))
        ({ stage with
            world
            journal := stage.journal ++ [Entry.compiled { slot with code }.text (.error fault)] }.told
          around (.error (some id) (.invalidCode fault.message { slot with code }.text)))
  | failed {slot : Slot} {handle : Handle} {world : World} {failure : Failure}
      {after : Stage Handle Listener World}
      (found : stage.deck.bank.find? id = some slot) (active : id ∈ stage.deck.active)
      (compiled : around.compile { slot with code }.text stage.world = (.ok handle, world))
      (rebuilt : perform (rebuild around)
        ⟨stage.deck.recoded id code { slot with code }.refreshed.parameters, world,
          stage.journal ++ [.compiled { slot with code }.text (.ok handle)]⟩ =
          (.error failure, after)) :
      LiveEdits (.error failure)
        ({ after with deck := after.deck.recoded id slot.code slot.parameters }.told around
          (.error (some id) failure))
  | edited {slot : Slot} {handle : Handle} {world : World} {after : Stage Handle Listener World}
      (found : stage.deck.bank.find? id = some slot) (active : id ∈ stage.deck.active)
      (compiled : around.compile { slot with code }.text stage.world = (.ok handle, world))
      (rebuilt : perform (rebuild around)
        ⟨stage.deck.recoded id code { slot with code }.refreshed.parameters, world,
          stage.journal ++ [.compiled { slot with code }.text (.ok handle)]⟩ = (.ok (), after)) :
      LiveEdits (.ok ()) (((after.stamped around id).toldState around id).saved around id)

theorem perform_updateLiveCode (present : stage.deck.Present) :
    ∃ outcome after, perform (updateLiveCode around id code) stage = (outcome, after) ∧
      LiveEdits around stage id code outcome after := by
  by_cases loaded : id ∈ stage.deck.bank.ids
  · obtain ⟨slot, found, there⟩ := perform_slot_of_mem around stage loaded
    by_cases active : id ∈ stage.deck.active
    · rcases compiled : around.compile { slot with code }.text stage.world with
        ⟨fault | handle, world⟩
      · refine ⟨_, _, ?_, .refused found active compiled⟩
        simp only [updateLiveCode, Slot.resolved_refreshed, perform_bind, there, perform_getDeck,
          active, not_true, if_false, perform_ask, compiled, perform_report, perform_throw]
      · rcases rebuilt : perform (rebuild around)
          ⟨stage.deck.recoded id code { slot with code }.refreshed.parameters, world,
            stage.journal ++ [.compiled { slot with code }.text (.ok handle)]⟩ with
          ⟨failure | ⟨⟩, after⟩
        · refine ⟨_, _, ?_, .failed found active compiled rebuilt⟩
          -- the program alone was accepted, but the composite was not or did not start
          have own := isOwn_of_perform_rebuild around _ (by
            intro other there
            simpa [Deck.recoded] using present other there) rebuilt
          simp only [Deck.recoded] at rebuilt
          simp only [updateLiveCode, Slot.resolved_refreshed, perform_bind, there, perform_getDeck,
            active, not_true, if_false, perform_ask, compiled, perform_changeSlot,
            perform_orElseOwn_of_isOwn _ rebuilt own, perform_report, perform_throw, Deck.recoded]
        · refine ⟨_, _, ?_, .edited found active compiled rebuilt⟩
          simp only [Deck.recoded] at rebuilt
          simp only [updateLiveCode, Slot.resolved_refreshed, perform_bind, there, perform_getDeck,
            active, not_true, if_false, perform_ask, compiled, perform_changeSlot,
            perform_orElseOwn_of_ok _ rebuilt, perform_touch, perform_announceState,
            perform_persist]
    · refine ⟨_, _, ?_, .idle loaded active⟩
      simp only [updateLiveCode, perform_bind, there, perform_getDeck, active, not_false_eq_true,
        if_true, perform_report, perform_throw]
  · refine ⟨_, _, ?_, .missing loaded⟩
    simp only [updateLiveCode, perform_bind, perform_slot_of_notMem around stage loaded]

/-- The stage with the code of a slot replaced, whether it plays or not. -/
def rewritten : Stage Handle Listener World :=
  let recoded : Stage Handle Listener World := { stage with
    deck := { stage.deck with bank := stage.deck.bank.modify id fun slot => { slot with code } } }
  let stamped := recoded.stamped around id
  { stamped with deck := stamped.deck.refreshed id }

/-- The ends of an edit of code. A slot that plays is stopped first, and started again. -/
inductive Edits : Except Failure Unit → Stage Handle Listener World → Prop where
  | missing (missing : id ∉ stage.deck.bank.ids) :
      Edits (.error (.slotMissing id)) (stage.told around (.error (some id) (.slotMissing id)))
  | halted {failure : Failure} {after : Stage Handle Listener World}
      (loaded : id ∈ stage.deck.bank.ids) (active : id ∈ stage.deck.active)
      (stopped : perform (stop around id) stage = (.error failure, after)) :
      Edits (.error failure) after
  | silent (loaded : id ∈ stage.deck.bank.ids) (idle : id ∉ stage.deck.active) :
      Edits (.ok ()) (((stage.rewritten around id code).toldState around id).saved around id)
  | restarted {outcome : Except Failure Unit} {middle after : Stage Handle Listener World}
      (loaded : id ∈ stage.deck.bank.ids) (active : id ∈ stage.deck.active)
      (stopped : perform (stop around id) stage = (.ok (), middle))
      (started : perform (start around id) (middle.rewritten around id code) = (outcome, after)) :
      Edits outcome ((after.toldState around id).saved around id)

theorem perform_andFinally {α : Type} (action : Act Handle Listener World α)
    {closing : Act Handle Listener World Unit}
    {closed : Stage Handle Listener World → Stage Handle Listener World}
    (closes : ∀ stage, perform closing stage = (.ok (), closed stage)) :
    perform (andFinally action closing) stage =
      ((perform action stage).1, closed (perform action stage).2) := by
  simp only [andFinally, perform_bind, perform_tryCatch]
  rcases perform action stage with ⟨failure | a, after⟩
  · simp only [closes, perform_throw]
  · simp only [closes, perform_pure]

/-- Refreshing a slot notes no time. -/
theorem perform_edit_refresh (loaded : id ∈ stage.deck.bank.ids) :
    ∃ parameters, perform (edit (Binding.refresh id) : Act Handle Listener World _) stage =
      (.ok parameters, { stage with deck := stage.deck.refreshed id }) := by
  obtain ⟨slot, found⟩ := Option.isSome_iff_exists.1 (Bank.isSome_find?.2 loaded)
  have refreshed := Binding.perform_refresh { bank := stage.deck.bank } found
  refine ⟨slot.refreshed.parameters, ?_⟩
  simp only [perform_edit, edited, refreshed, Binding.refreshed, Deck.refreshed, List.map_nil,
    List.append_nil]

private theorem perform_rewrite (closing : Act Handle Listener World Unit)
    (loaded : id ∈ stage.deck.bank.ids) :
    perform (do
        changeSlot id fun slot => { slot with code }
        touch around id
        let _ ← edit (Binding.refresh id)
        closing) stage = perform closing (stage.rewritten around id code) := by
  let recoded : Stage Handle Listener World := { stage with
    deck := { stage.deck with bank := stage.deck.bank.modify id fun slot => { slot with code } } }
  obtain ⟨parameters, refreshed⟩ := perform_edit_refresh (recoded.stamped around id) id (by
    simpa [recoded] using loaded)
  simp only [recoded] at refreshed
  simp only [perform_bind, perform_changeSlot, perform_touch, refreshed, rewritten]

theorem perform_updatePatternCode (present : stage.deck.Present) :
    ∃ outcome after, perform (updatePatternCode around id code) stage = (outcome, after) ∧
      Edits around stage id code outcome after := by
  have closes : ∀ stage : Stage Handle Listener World,
      perform (do announceState around id; persist around id) stage =
        (.ok (), (stage.toldState around id).saved around id) := by
    intro stage
    simp only [perform_bind, perform_announceState, perform_persist]
  by_cases loaded : id ∈ stage.deck.bank.ids
  · obtain ⟨slot, found, there⟩ := perform_slot_of_mem around stage loaded
    by_cases active : id ∈ stage.deck.active
    · obtain ⟨outcome, middle, stopped, stops⟩ := perform_stop around stage id present
      rcases outcome with failure | ⟨⟩
      · refine ⟨_, _, ?_, .halted loaded active stopped⟩
        -- a failed stop ends the edit before the code is touched
        simp only [updatePatternCode, perform_bind, there, perform_getDeck, Deck.isPlaying, active,
          decide_true, if_true, stopped]
      · rcases started : perform (start around id) (middle.rewritten around id code) with
          ⟨outcome, after⟩
        refine ⟨_, _, ?_, .restarted loaded active stopped started⟩
        -- stopping does not change which slots there are
        have still : id ∈ middle.deck.bank.ids := (stops.ids around stage id present).symm ▸ loaded
        have rewrite := perform_rewrite around middle id code
          (andFinally (start around id) do announceState around id; persist around id) still
        rw [perform_andFinally _ _ closes, started] at rewrite
        simp only [updatePatternCode, perform_bind _ _ stage, there, perform_getDeck, Deck.isPlaying,
          active, decide_true, if_true, stopped]
        exact rewrite
    · refine ⟨_, _, ?_, .silent loaded active⟩
      -- a slot that does not play is edited in place
      have rewrite := perform_rewrite around stage id code
        (andFinally (pure ()) do announceState around id; persist around id) loaded
      rw [perform_andFinally _ _ closes, perform_pure] at rewrite
      simp only [updatePatternCode, perform_bind _ _ stage, there, perform_getDeck, Deck.isPlaying,
        active, decide_false, Bool.false_eq_true, if_false]
      exact rewrite
  · refine ⟨_, _, ?_, .missing loaded⟩
    simp only [updatePatternCode, perform_bind, perform_slot_of_notMem around stage loaded]

end Stage

end PatternDeck
