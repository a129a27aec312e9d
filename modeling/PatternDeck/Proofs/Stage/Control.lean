import PatternDeck.Proofs.Stage.Code

/-!
What the operations on parameters, the selection and the control surface can come to.
-/
namespace PatternDeck

namespace Stage

open Act

variable {Handle Listener World : Type} (around : Surroundings Handle Listener World)
variable (stage : Stage Handle Listener World)

/-- The ends of a selection. -/
inductive Selects : Option Int → Except Failure Unit → Stage Handle Listener World → Prop where
  | missing {id : Int} (missing : id ∉ stage.deck.bank.ids) :
      Selects (some id) (.error (.slotMissing id))
        (stage.told around (.error (some id) (.slotMissing id)))
  | selected {selected : Option Int} (loaded : ∀ id ∈ selected, id ∈ stage.deck.bank.ids) :
      Selects selected (.ok ()) { stage with deck := { stage.deck with selected } }

theorem perform_select (selected : Option Int) :
    ∃ outcome after, perform (select around selected) stage = (outcome, after) ∧
      Selects around stage selected outcome after := by
  cases selected with
  | none => exact ⟨_, _, rfl, .selected (by simp)⟩
  | some id =>
    by_cases loaded : id ∈ stage.deck.bank.ids
    · obtain ⟨slot, -, there⟩ := perform_slot_of_mem around stage loaded
      refine ⟨_, _, ?_, .selected (by simpa using loaded)⟩
      simp only [select, perform_bind, there, perform_changeDeck]
    · refine ⟨_, _, ?_, .missing loaded⟩
      simp only [select, perform_bind, perform_slot_of_notMem around stage loaded]

/-- A press selects the slot and then toggles it, unless it is missing. -/
theorem perform_pressButton (id : Int) :
    perform (pressButton around id true) stage =
      match perform (select around (some id)) stage with
      | (.ok _, after) => perform (toggle around id) after
      | (.error failure, after) => (.error failure, after) := by
  simp only [pressButton, if_true, perform_bind]
  rcases perform (select around (some id)) stage with ⟨_ | _, after⟩ <;> rfl

section Parameter

variable (id : Int)

/-- The stage once a changed parameter was told of and saved, but not yet played. -/
def toldParameter (p : Parameter) : Stage Handle Listener World :=
  ((stage.told around (.parameterChange id p)).toldState around id).saved around id

/-- What follows a change of a parameter. -/
inductive Follows (p : Parameter) (rebuilds : Bool) :
    Except Failure Unit → Stage Handle Listener World → Prop where
  | quiet (unheard : ¬(rebuilds = true ∧ id ∈ stage.deck.active)) :
      Follows p rebuilds (.ok ()) (stage.toldParameter around id p)
  | failed {failure : Failure} {after : Stage Handle Listener World} (heard : rebuilds = true)
      (active : id ∈ stage.deck.active)
      (rebuilt : perform (rebuild around) (stage.toldParameter around id p) =
        (.error failure, after)) :
      Follows p rebuilds (.error failure) (after.told around (.error (some id) failure))
  | rebuilt {after : Stage Handle Listener World} (heard : rebuilds = true)
      (active : id ∈ stage.deck.active)
      (rebuilt : perform (rebuild around) (stage.toldParameter around id p) = (.ok (), after)) :
      Follows p rebuilds (.ok ()) after

@[simp] theorem deck_toldParameter (p : Parameter) :
    (stage.toldParameter around id p).deck = stage.deck := by
  simp only [toldParameter, deck_saved, deck_toldState, deck_told]

theorem perform_parameterChanged (p : Parameter) (rebuilds : Bool) (present : stage.deck.Present) :
    ∃ outcome after, perform (parameterChanged around id p rebuilds) stage = (outcome, after) ∧
      Follows around stage id p rebuilds outcome after := by
  have told : perform (parameterChanged around id p rebuilds) stage =
      perform (if rebuilds ∧ id ∈ stage.deck.active then
        orElseOwn (rebuild around) fun failure => report around (some id) failure
        else pure ()) (stage.toldParameter around id p) := by
    simp only [parameterChanged, perform_bind, perform_announce, perform_announceState,
      perform_persist, perform_getDeck, toldParameter, deck_saved, deck_toldState, deck_told]
  rw [told, perform_ite]
  -- a parameter is heard if it is one that sounds, of a slot that plays
  by_cases heard : rebuilds = true ∧ id ∈ stage.deck.active
  · rw [if_pos heard]
    rcases rebuilt : perform (rebuild around) (stage.toldParameter around id p) with
      ⟨failure | ⟨⟩, after⟩
    · have own := isOwn_of_perform_rebuild around _ (by
        rwa [deck_toldParameter]) rebuilt
      refine ⟨_, _, ?_, .failed heard.1 heard.2 rebuilt⟩
      simp only [perform_orElseOwn_of_isOwn _ rebuilt own, perform_bind, perform_report,
        perform_throw]
    · exact ⟨_, _, perform_orElseOwn_of_ok _ rebuilt, .rebuilt heard.1 heard.2 rebuilt⟩
  · rw [if_neg heard]
    exact ⟨_, _, rfl, .quiet heard⟩

variable (rebuilds : Bool) (change : Float → Edit Parameter)

/-- The stage once a parameter of a refreshed slot was changed, or could not be. -/
def adjusted : Stage Handle Listener World :=
  edited { stage with deck := stage.deck.refreshed id } (change (around.clock stage.world))

/-- The ends of a change of a parameter. -/
inductive Adjusts : Except Failure Parameter → Stage Handle Listener World → Prop where
  | missing (missing : id ∉ stage.deck.bank.ids) :
      Adjusts (.error (.slotMissing id)) (stage.told around (.error (some id) (.slotMissing id)))
  | refused {failure : Failure} (loaded : id ∈ stage.deck.bank.ids) (own : failure.isOwn)
      (refusal : (perform (change (around.clock stage.world))
        { bank := (stage.deck.refreshed id).bank }).1 = .error failure) :
      Adjusts (.error failure)
        ((stage.adjusted around id change).told around (.error (some id) failure))
  | rejected {failure : Failure} (loaded : id ∈ stage.deck.bank.ids)
      (foreign : failure.isOwn = false)
      (refusal : (perform (change (around.clock stage.world))
        { bank := (stage.deck.refreshed id).bank }).1 = .error failure) :
      Adjusts (.error failure) (stage.adjusted around id change)
  | changed {p : Parameter} {outcome : Except Failure Unit} {after : Stage Handle Listener World}
      (loaded : id ∈ stage.deck.bank.ids)
      (changed : (perform (change (around.clock stage.world))
        { bank := (stage.deck.refreshed id).bank }).1 = .ok p)
      (follows : perform (parameterChanged around id p rebuilds)
        (stage.adjusted around id change) = (outcome, after)) :
      Adjusts (outcome.map fun _ => p) after

theorem perform_changeParameter :
    ∃ outcome after, perform (changeParameter around id rebuilds change) stage = (outcome, after) ∧
      Adjusts around stage id rebuilds change outcome after := by
  by_cases loaded : id ∈ stage.deck.bank.ids
  · obtain ⟨slot, -, there⟩ := perform_slot_of_mem around stage loaded
    obtain ⟨parameters, refreshed⟩ := perform_edit_refresh stage id loaded
    have begun : perform (changeParameter around id rebuilds change) stage =
        perform (do
          let p ← orElseOwn (edit (change (around.clock stage.world))) fun failure =>
            report around (some id) failure
          parameterChanged around id p rebuilds
          return p) { stage with deck := stage.deck.refreshed id } := by
      simp only [changeParameter, perform_bind, there, refreshed, perform_get]
    rw [begun]
    -- what the edit changed before it failed stays changed
    have edits := perform_edit { stage with deck := stage.deck.refreshed id }
      (change (around.clock stage.world))
    rcases changed : (perform (change (around.clock stage.world))
        { bank := (stage.deck.refreshed id).bank }).1 with failure | p
    · rw [changed] at edits
      -- a failure that is not the engine's own goes on untold
      cases own : failure.isOwn with
      | true =>
        refine ⟨_, _, ?_, .refused loaded own changed⟩
        simp only [perform_bind, perform_orElseOwn_of_isOwn _ edits own, perform_report,
          perform_throw, adjusted]
      | false =>
        refine ⟨_, _, ?_, .rejected loaded own changed⟩
        simp only [perform_bind, perform_orElseOwn_of_not_isOwn _ edits own, adjusted]
    · rw [changed] at edits
      rcases follows : perform (parameterChanged around id p rebuilds)
          (stage.adjusted around id change) with ⟨outcome, after⟩
      refine ⟨_, _, ?_, .changed loaded changed follows⟩
      rw [adjusted] at follows
      simp only [perform_bind, perform_orElseOwn_of_ok _ edits, follows]
      cases outcome <;> rfl
  · refine ⟨_, _, ?_, .missing loaded⟩
    simp only [changeParameter, perform_bind, perform_slot_of_notMem around stage loaded]

end Parameter

section Refresh

variable (id : Int)

theorem perform_parameters_of_mem (loaded : id ∈ stage.deck.bank.ids) :
    ∃ ps, perform (parameters around id) stage =
      (.ok ps, { stage with deck := stage.deck.refreshed id }) := by
  obtain ⟨slot, -, there⟩ := perform_slot_of_mem around stage loaded
  obtain ⟨ps, refreshed⟩ := perform_edit_refresh stage id loaded
  refine ⟨ps.toList, ?_⟩
  simp only [parameters, perform_bind, there, refreshed, perform_pure]

theorem perform_parameters_of_notMem (missing : id ∉ stage.deck.bank.ids) :
    perform (parameters around id) stage =
      (.error (.slotMissing id), stage.told around (.error (some id) (.slotMissing id))) := by
  simp only [parameters, perform_bind, perform_slot_of_notMem around stage missing]

theorem perform_addCatalogParameter (name : String) (knob : Option Int) :
    perform (addCatalogParameter around id name knob) stage =
      perform (changeParameter around id true fun now =>
        Binding.addFromCatalog stage.deck.catalog now id name knob) stage := by
  simp only [addCatalogParameter, perform_bind, perform_getDeck]

end Refresh

section Knob

variable (knob ticks : Int)

/-- A knob's turn in the bank of a stage. -/
def turn : Edit (Option Turn) :=
  Selection.turn (around.clock stage.world) stage.deck.selected knob (.whole ticks)

/-- The ends of a knob's turn. -/
inductive Turns : Except Failure Unit → Stage Handle Listener World → Prop where
  | refused {failure : Failure}
      (refusal : (perform (stage.turn around knob ticks) { bank := stage.deck.bank }).1 =
        .error failure) :
      Turns (.error failure) (stage.edited (stage.turn around knob ticks))
  | idle
      (undriven : (perform (stage.turn around knob ticks) { bank := stage.deck.bank }).1 =
        .ok none) :
      Turns (.ok ()) (stage.edited (stage.turn around knob ticks))
  | turned {turned : Turn} {outcome : Except Failure Unit} {after : Stage Handle Listener World}
      (driven : (perform (stage.turn around knob ticks) { bank := stage.deck.bank }).1 =
        .ok (some turned))
      (follows : perform (parameterChanged around turned.slot turned.parameter true)
        (stage.edited (stage.turn around knob ticks)) = (outcome, after)) :
      Turns outcome after

theorem perform_turnKnob :
    ∃ outcome after, perform (turnKnob around knob ticks) stage = (outcome, after) ∧
      Turns around stage knob ticks outcome after := by
  have edits := perform_edit stage (stage.turn around knob ticks)
  rw [turn] at edits
  rcases driven : (perform (stage.turn around knob ticks) { bank := stage.deck.bank }).1 with
    failure | (_ | turned)
  all_goals have driven' := driven; rw [turn] at driven'; rw [driven'] at edits
  · refine ⟨_, _, ?_, .refused driven⟩
    simp only [turnKnob, perform_bind, perform_get, edits, turn]
  · refine ⟨_, _, ?_, .idle driven⟩
    simp only [turnKnob, perform_bind, perform_get, edits, turn, perform_pure]
  · rcases follows : perform (parameterChanged around turned.slot turned.parameter true)
        (stage.edited (stage.turn around knob ticks)) with ⟨outcome, after⟩
    refine ⟨_, _, ?_, .turned driven follows⟩
    rw [turn] at follows
    simp only [turnKnob, perform_bind, perform_get, edits, follows]

end Knob

end Stage

end PatternDeck
