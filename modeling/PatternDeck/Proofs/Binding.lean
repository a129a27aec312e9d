import PatternDeck.Proofs.Bank
import PatternDeck.Proofs.Execution
import PatternDeck.Selection

/-!
Edits of a bank, run one by one.
-/
namespace PatternDeck

namespace Edit

variable (draft : Draft)

theorem perform_slot_of_find? {id : Int} {slot : Slot} (found : draft.bank.find? id = some slot) :
    perform (Edit.slot id) draft = (.ok slot, draft) := by
  simp only [Edit.slot, perform_bind, perform_get, Bank.get, found, perform_pure]

@[simp] theorem perform_change (id : Int) (f : Slot → Slot) :
    perform (Edit.change id f) draft = (.ok (), { draft with bank := draft.bank.modify id f }) :=
  rfl

/-- An observation of the bank in which no edit of a slot shows, unless it is of the flag that the
slot plays. -/
structure Unseen {Seen : Type} (observe : Draft → Seen) (id : Int) : Prop where
  change : ∀ f : Slot → Slot, (∀ slot, (f slot).playing = slot.playing) →
    Keeps observe (Edit.change id f)
  touched : ∀ draft touched, observe { draft with touched } = observe draft

namespace Unseen

variable {Seen : Type} {observe : Draft → Seen} {id : Int} (unseen : Unseen observe id)

theorem keeps_slot (id : Int) : Keeps observe (Edit.slot id) := by
  apply Keeps.get.bind
  intro draft
  split
  · exact .pure _
  · exact .throw _

theorem keeps_parameter (id : Int) (name : String) : Keeps observe (Edit.parameter id name) := by
  apply (keeps_slot id).bind
  intro slot
  split
  · exact .pure _
  · exact .throw _

/-- What shows neither when a knob is bound nor when the time is noted does not show in a binding. -/
theorem keeps_assign_of (now : Float) (name : String) (knob : Option Int)
    (assigned : Keeps observe (Edit.change id fun slot =>
      { slot with parameters := Binding.assigned slot.parameters name knob }))
    (touch : Keeps observe (Edit.touch now id)) :
    Keeps observe (Binding.assign now id name knob) := by
  -- the knob is checked first; what follows is the same with and without one
  have bind : Keeps observe (do
      let _ ← Edit.parameter id name
      Edit.change id fun slot =>
        { slot with parameters := Binding.assigned slot.parameters name knob }
      Edit.touch now id
      Edit.parameter id name) := by
    refine .bind (keeps_parameter id name) fun _ => ?_
    refine .bind assigned fun _ => ?_
    exact .bind touch fun _ => keeps_parameter id name
  unfold Binding.assign
  split
  · split
    · exact .bind (.throw _) fun _ => bind
    · exact bind
  · exact bind

include unseen

theorem keeps_touch (now : Float) : Keeps observe (Edit.touch now id) := by
  unfold Edit.touch
  refine .bind (unseen.change _ fun _ => rfl) fun _ => ?_
  exact .modify fun draft => unseen.touched draft _

theorem keeps_changeParameter (now : Float) (name : String) (f : Parameter → Parameter) :
    Keeps observe (Edit.changeParameter now id name f) := by
  unfold Edit.changeParameter
  refine .bind (keeps_parameter id name) fun _ => ?_
  refine .bind (unseen.change _ fun _ => rfl) fun _ => ?_
  exact .bind (unseen.keeps_touch now) fun _ => keeps_parameter id name

theorem keeps_refresh : Keeps observe (Binding.refresh id) := by
  unfold Binding.refresh
  refine .bind (keeps_slot id) fun _ => ?_
  refine .bind (unseen.change _ fun _ => rfl) fun _ => ?_
  exact .bind (keeps_slot id) fun _ => .pure _

theorem keeps_assign (now : Float) (name : String) (knob : Option Int) :
    Keeps observe (Binding.assign now id name knob) :=
  keeps_assign_of now name knob (unseen.change _ fun _ => rfl) (unseen.keeps_touch now)

theorem keeps_setRange (now : Float) (name : String) (lo hi : Float) :
    Keeps observe (Binding.setRange now id name lo hi) := by
  unfold Binding.setRange
  split
  · exact .throw _
  · exact unseen.keeps_changeParameter now name _

theorem keeps_setValue (now : Float) (name : String) (value : Float) :
    Keeps observe (Binding.setValue now id name value) :=
  unseen.keeps_changeParameter now name _

theorem keeps_append (now : Float) (entry : Catalog.Entry) :
    Keeps observe (Binding.append now id entry) := by
  unfold Binding.append
  -- the code has grown by now, even if the catalog has no range for the parameter
  refine .bind (unseen.change _ fun _ => rfl) fun _ => ?_
  refine .bind (keeps_slot id) fun slot => ?_
  split
  · split
    · exact .bind (.throw _) fun _ => unseen.keeps_touch now
    · exact .bind (unseen.change _ fun _ => rfl) fun _ => unseen.keeps_touch now
  · exact unseen.keeps_touch now

theorem keeps_addFromCatalog (catalog : Catalog) (now : Float) (name : String)
    (knob : Option Int) : Keeps observe (Binding.addFromCatalog catalog now id name knob) := by
  unfold Binding.addFromCatalog
  split
  · exact .throw _
  next entry _ =>
    -- the placeholder is there already or is added, and then it is bound or not
    refine .bind (keeps_slot id) fun slot => ?_
    cases knob with
    | some knob =>
      refine .ite (.bind unseen.keeps_refresh fun _ => ?_)
        (.bind (unseen.keeps_append now entry) fun _ => ?_)
      all_goals exact unseen.keeps_assign now entry.name (some knob)
    | none =>
      refine .ite (.bind unseen.keeps_refresh fun _ => ?_)
        (.bind (unseen.keeps_append now entry) fun _ => ?_)
      all_goals exact keeps_parameter id entry.name

end Unseen

/-- An edit of one slot does not show in another. -/
theorem unseen_other {id other : Int} (differs : other ≠ id) :
    Unseen (fun draft => draft.bank.find? other) id where
  change f _ draft := Bank.find?_modify_ne draft.bank differs f
  touched _ _ := rfl

/-- A binding of a knob is not heard. -/
theorem keeps_texts_assign (now : Float) (id : Int) (name : String) (knob : Option Int) :
    Keeps (fun draft => draft.bank.view Slot.text) (Binding.assign now id name knob) := by
  apply Unseen.keeps_assign_of
  -- the text hangs on names and values, and a knob is neither
  · intro draft
    simp only [perform_change]
    rw [Bank.view_modify draft.bank id]
    exact fun slot => Slot.text_congr rfl (Parameters.values_assigned slot.parameters name knob)
  · unfold Edit.touch
    refine .bind (fun draft => ?_) fun _ => .modify fun _ => rfl
    simp only [perform_change]
    rw [Bank.view_modify draft.bank id]
    exact fun slot => Slot.text_congr rfl rfl

end Edit

namespace Selection

section Turn

variable (now : Float) (selected : Option Int) (knob : Int) (ticks : Ticks) (draft : Draft)

/-- The draft with a parameter of a slot moved to another value. -/
def moved (slot : Slot) (p : Parameter) (new : Float) : Draft where
  bank := (draft.bank.modify slot.id fun slot =>
      { slot with parameters := slot.parameters.modify p.name fun p => { p with value := new } }).modify
    slot.id fun slot => { slot with modified := .at now }
  touched := draft.touched ++ [slot.id]

/-- The ends of a knob's turn. -/
inductive Turns : Except Failure (Option Turn) → Draft → Prop where
  | idle (undriven : driven? draft.bank selected knob = none) : Turns (.ok none) draft
  | notANumber {slot : Slot} {p : Parameter}
      (driven : driven? draft.bank selected knob = some (slot, p))
      (outside : p.turned ticks = .error .nan) : Turns (.error .notANumber) draft
  | tooLarge {slot : Slot} {p : Parameter}
      (driven : driven? draft.bank selected knob = some (slot, p))
      (outside : p.turned ticks = .error .infinite) : Turns (.error .tooLarge) draft
  | turned {slot : Slot} {p : Parameter} {new : Float}
      (driven : driven? draft.bank selected knob = some (slot, p))
      (reached : p.turned ticks = .ok new) :
      Turns (.ok (some ⟨slot.id, { p with value := new }, p.value, new⟩)) (moved now draft slot p new)

theorem perform_turn :
    ∃ outcome after, perform (turn now selected knob ticks) draft = (outcome, after) ∧
      Turns now selected knob ticks draft outcome after := by
  rcases driven : driven? draft.bank selected knob with _ | ⟨slot, p⟩
  · refine ⟨_, _, ?_, .idle driven⟩
    simp only [turn, perform_bind, perform_get, driven, perform_pure]
  · rcases reached : p.turned ticks with (_ | _) | new
    · refine ⟨_, _, ?_, .notANumber driven reached⟩
      simp only [turn, perform_bind, perform_get, driven, reached, perform_throw]
    · refine ⟨_, _, ?_, .tooLarge driven reached⟩
      simp only [turn, perform_bind, perform_get, driven, reached, perform_throw]
    · refine ⟨_, _, ?_, .turned driven reached⟩
      simp only [turn, perform_bind, perform_get, driven, reached, Edit.perform_change, Edit.touch,
        perform_modify, perform_pure, moved]

end Turn

variable {Seen : Type} {observe : Draft → Seen}

/-- What no edit of any slot shows in, no turn of a knob shows in. -/
theorem keeps_turn (unseen : ∀ id, Edit.Unseen observe id) (now : Float) (selected : Option Int)
    (knob : Int) (ticks : Ticks) : Keeps observe (turn now selected knob ticks) := by
  unfold turn
  refine .bind .get fun draft => ?_
  split
  · exact .pure _
  next slot p _ =>
    split
    · exact .throw _
    · exact .throw _
    · refine .bind ((unseen slot.id).change _ fun _ => rfl) fun _ => ?_
      exact .bind ((unseen slot.id).keeps_touch now) fun _ => .pure _

end Selection

namespace Binding

variable (draft : Draft)

/-- The draft with the parameters of one slot refreshed. -/
def refreshed (id : Int) : Draft :=
  { draft with bank := draft.bank.modify id Slot.refreshed }

private theorem find?_refreshed {id : Int} {slot : Slot} (found : draft.bank.find? id = some slot) :
    (refreshed draft id).bank.find? id = some slot.refreshed := by
  obtain rfl := Bank.id_of_find? found
  exact Bank.find?_modify_self found Slot.refreshed

theorem perform_refresh {id : Int} {slot : Slot} (found : draft.bank.find? id = some slot) :
    perform (refresh id) draft = (.ok slot.refreshed.parameters, refreshed draft id) := by
  have later := Edit.perform_slot_of_find? (refreshed draft id) (find?_refreshed draft found)
  rw [refreshed] at later ⊢
  simp only [refresh, perform_bind, Edit.perform_slot_of_find? draft found, Edit.perform_change,
    later, perform_pure]

theorem perform_resolve {id : Int} {slot : Slot} (found : draft.bank.find? id = some slot) :
    perform (resolve id) draft = (.ok slot.text, refreshed draft id) := by
  have later := Edit.perform_slot_of_find? (refreshed draft id) (find?_refreshed draft found)
  simp only [resolve, perform_bind, perform_refresh draft found, later, perform_pure]
  rfl

end Binding

end PatternDeck
