import PatternDeck.Proofs.Stage.Adjustment

/-!
Whose failures. What a surface asks of a deck fails with the deck's own failures alone, but for a knob
that would turn its parameter to where no number is; and that changes nothing.
-/
namespace PatternDeck

/-- The failure of a turn that leads nowhere. -/
def Binary.Unbounded.failure : Binary.Unbounded → Failure
  | nan => .notANumber
  | infinite => .tooLarge

section Edits

variable {failure : Failure} {draft : Draft} {id : Int} {name : String}

theorem Edit.isOwn_of_parameter
    (refused : (perform (Edit.parameter id name) draft).1 = .error failure) : failure.isOwn := by
  simp only [Edit.parameter, Edit.slot, perform_bind, perform_get, Bank.get] at refused
  cases found : draft.bank.find? id with
  | none =>
    simp only [found, perform_throw] at refused
    cases refused
    rfl
  | some slot =>
    simp only [found, perform_pure, Slot.parameter] at refused
    cases named : slot.parameters.get? name with
    | none =>
      simp only [named, perform_throw] at refused
      cases refused
      rfl
    | some p =>
      simp only [named, perform_pure] at refused
      cases refused

theorem Binding.isOwn_of_setValue {now value : Float}
    (refused : (perform (setValue now id name value) draft).1 = .error failure) : failure.isOwn := by
  simp only [setValue, Edit.changeParameter, perform_bind, Edit.perform_change] at refused
  rcases first : perform (Edit.parameter id name) draft with ⟨failure | p, after⟩
  · rw [first] at refused
    cases refused
    exact Edit.isOwn_of_parameter (by rw [first])
  · rw [first] at refused
    exact Edit.isOwn_of_parameter refused

end Edits

/-- Whether a surface can ask for an operation. -/
def Operation.isRemote : Operation → Bool
  | start _ | stop _ | toggle _ | stopAll | updateLiveCode .. | select _ | setParameterValue ..
  | pressButton .. | turnKnob .. => true
  | updatePatternCode .. | parameters _ | assignParameter .. | setParameterRange ..
  | addCatalogParameter .. | loadLibrary .. => false

namespace Stage

open Act

variable {Handle Listener World : Type} (around : Surroundings Handle Listener World)
variable {stage after : Stage Handle Listener World} {failure : Failure} {id : Int}

theorem Starts.isOwn (present : stage.deck.Present)
    (starts : Starts around stage id (.error failure) after) : failure.isOwn := by
  cases starts with
  | missing => rfl
  | failed loaded _ rebuilt => exact isOwn_of_perform_rebuild around _ (present.joined loaded) rebuilt

theorem Stops.isOwn (present : stage.deck.Present)
    (stops : Stops around stage id (.error failure) after) : failure.isOwn := by
  cases stops with
  | missing => rfl
  | failed _ _ rebuilt => exact isOwn_of_perform_rebuild around _ (present.left id) rebuilt

theorem isOwn_of_toggle (present : stage.deck.Present)
    (failed : perform (toggle around id) stage = (.error failure, after)) : failure.isOwn := by
  rw [perform_toggle] at failed
  split at failed
  · exact (ends_of_perform (perform_stop around stage id present) failed).isOwn around present
  · exact (ends_of_perform (perform_start around stage id present) failed).isOwn around present

theorem LiveEdits.isOwn {code : String} (present : stage.deck.Present)
    (edits : LiveEdits around stage id code (.error failure) after) : failure.isOwn := by
  cases edits with
  | missing | idle | refused => rfl
  | @failed slot _ _ _ _ _ _ _ rebuilt =>
    have here := present.recoded id code { slot with code }.refreshed.parameters
    exact isOwn_of_perform_rebuild around _ here rebuilt

theorem isOwn_of_select {selected : Option Int}
    (failed : perform (select around selected) stage = (.error failure, after)) : failure.isOwn := by
  cases ends_of_perform (perform_select around stage selected) failed with
  | missing => rfl

theorem isOwn_of_pressButton {pressed : Bool} (present : stage.deck.Present)
    (failed : perform (pressButton around id pressed) stage = (.error failure, after)) :
    failure.isOwn := by
  cases pressed with
  | false => cases failed
  | true =>
    rw [perform_pressButton] at failed
    rcases selected : perform (select around (some id)) stage with ⟨refusal | ⟨⟩, middle⟩
    all_goals
      simp only [selected] at failed
    · cases failed
      exact isOwn_of_select around selected
    · cases ends_of_perform (perform_select around stage (some id)) selected
      let chosen : Stage Handle Listener World :=
        { stage with deck := { stage.deck with selected := some id } }
      have present : chosen.deck.Present := present
      exact isOwn_of_toggle around present failed

theorem Follows.isOwn {p : Parameter} {rebuilds : Bool} (present : stage.deck.Present)
    (follows : Follows around stage id p rebuilds (.error failure) after) : failure.isOwn := by
  cases follows with
  | failed _ _ rebuilt =>
    rw [← deck_toldParameter around stage id p] at present
    exact isOwn_of_perform_rebuild around _ present rebuilt

theorem Adjusts.isOwn {name : String} {value : Float} {outcome : Except Failure Parameter}
    (present : stage.deck.Present)
    (adjusts : Adjusts around stage id true (fun now => Binding.setValue now id name value) outcome
      after) (failed : outcome = .error failure) : failure.isOwn := by
  cases adjusts with
  | missing =>
    cases failed
    rfl
  | refused _ own =>
    cases failed
    exact own
  | rejected _ _ refusal =>
    cases failed
    exact Binding.isOwn_of_setValue refusal
  | @changed p outcome _ _ _ follows =>
    have keeps := fun now => (unseen_flags id).keeps_setValue now name value
    have still := present_of_standing present (standing_adjusted around stage id keeps)
    have ends := ends_of_perform (perform_parameterChanged around _ id p true still) follows
    cases outcome with
    | ok => cases failed
    | error other =>
      cases failed
      exact ends.isOwn around still

/-- A knob's turn leads nowhere and changes nothing, or it fails with the deck's own failures alone. -/
theorem turnKnob_cases {knob ticks : Int} {outcome : Except Failure Unit} (present : stage.deck.Present)
    (performed : perform (turnKnob around knob ticks) stage = (outcome, after)) :
    (∃ slot p fault, Selection.driven? stage.deck.bank stage.deck.selected knob = some (slot, p) ∧
        p.turned (.whole ticks) = .error fault ∧ outcome = .error fault.failure ∧ after = stage) ∨
      (∀ slot p, Selection.driven? stage.deck.bank stage.deck.selected knob = some (slot, p) →
        ∃ new, p.turned (.whole ticks) = .ok new) ∧
      ∀ failure, outcome = .error failure → failure.isOwn := by
  have turns := ends_of_perform (perform_turnKnob around stage knob ticks) performed
  obtain ⟨came, draft, came_eq, ends⟩ := Selection.perform_turn (around.clock stage.world)
    stage.deck.selected knob (.whole ticks) { bank := stage.deck.bank }
  cases turns with
  | refused refusal =>
    -- a draft that is the bank itself puts nothing else in its place
    have same : draft = { bank := stage.deck.bank } →
        stage.edited (stage.turn around knob ticks) = stage := by
      rintro rfl
      rw [edited, turn, came_eq]
      simp
    rw [turn, came_eq] at refusal
    subst refusal
    cases ends with
    | notANumber driven outside => exact .inl ⟨_, _, _, driven, outside, rfl, same rfl⟩
    | tooLarge driven outside => exact .inl ⟨_, _, _, driven, outside, rfl, same rfl⟩
  | idle undriven =>
    rw [turn, came_eq] at undriven
    subst undriven
    cases ends with
    | idle undriven =>
      refine .inr ⟨fun slot p drives => ?_, fun failure failed => ?_⟩
      · cases undriven.symm.trans drives
      · cases failed
  | turned driven follows =>
    have still := present_of_standing present (standing_turned around stage knob ticks)
    rw [turn, came_eq] at driven
    subst driven
    cases ends with
    | turned driven reached =>
      refine .inr ⟨fun slot p drives => ?_, fun failure failed => ?_⟩
      · cases driven.symm.trans drives
        exact ⟨_, reached⟩
      · subst failed
        exact (ends_of_perform (perform_parameterChanged around _ _ _ true still) follows).isOwn
          around still

end Stage

end PatternDeck
