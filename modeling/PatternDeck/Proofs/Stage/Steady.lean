import PatternDeck.Proofs.Stage.Blocks
import PatternDeck.Proofs.Stage.Journal

/-!
Properties that no operation breaks because none of its parts does. `Steady` lists the parts; they
are all there is to operations, so a property that hangs on the composite, the listeners, the world
and the journal alone has to be checked for these few.
-/
namespace PatternDeck.Stage

open Act

variable {Handle Listener World : Type} {around : Surroundings Handle Listener World}
variable {P : Stage Handle Listener World → Prop}

/-- The parts of operations keep a property. It does not hang on the deck, but for the composite and
the listeners. -/
structure Steady (around : Surroundings Handle Listener World)
    (P : Stage Handle Listener World → Prop) : Prop where
  deck : ∀ {stage : Stage Handle Listener World} {deck : Deck Handle Listener},
    deck.running = stage.deck.running → deck.listeners = stage.deck.listeners → P stage →
    P { stage with deck }
  touched : ∀ (id : Int) (stage : Stage Handle Listener World), P stage →
    P { stage with journal := stage.journal ++ [.touched id] }
  announce : ∀ event, Preserves P (Act.announce around event)
  save : ∀ {save}, around.save = some save → ∀ slot, Preserves P (ask (save slot) (.saved slot))
  compile : ∀ program, Preserves P (ask (around.compile program) (.compiled program))
  stopCurrent : Preserves P (Stage.stopCurrent around)
  hush : Preserves P (ask around.hush .hushed)
  rebuild : Preserves P (Stage.rebuild around)

theorem preserves_getDeck :
    Preserves P (getDeck : Act Handle Listener World (Deck Handle Listener)) :=
  fun _ holds => holds

theorem preserves_orElseOwn {α : Type} {action : Act Handle Listener World α}
    {answer : Failure → Act Handle Listener World Unit} (first : Preserves P action)
    (answered : ∀ failure, Preserves P (answer failure)) :
    Preserves P (orElseOwn action answer) := by
  refine first.tryCatch fun failure => ?_
  exact .ite ((answered failure).bind fun _ => .throw _) (.throw _)

theorem preserves_andFinally {α : Type} {action : Act Handle Listener World α}
    {closing : Act Handle Listener World Unit} (first : Preserves P action)
    (closes : Preserves P closing) : Preserves P (andFinally action closing) := by
  refine .bind (first.tryCatch fun failure => ?_) fun _ => ?_
  · exact .bind closes fun _ => .throw _
  · exact .bind closes fun _ => .pure _

section Edit

variable (deck : ∀ {stage : Stage Handle Listener World} {deck : Deck Handle Listener},
  deck.running = stage.deck.running → deck.listeners = stage.deck.listeners → P stage →
  P { stage with deck })
variable (touched : ∀ (id : Int) (stage : Stage Handle Listener World), P stage →
  P { stage with journal := stage.journal ++ [.touched id] })
include deck touched

theorem preserves_edit {α : Type} (change : Edit α) :
    Preserves P (edit change : Act Handle Listener World α) := by
  intro stage holds
  rw [perform_edit]
  -- the touched slots are written down one after another
  have written : ∀ (ids : List Int) (stage : Stage Handle Listener World), P stage →
      P { stage with journal := stage.journal ++ ids.map Entry.touched } := by
    intro ids
    induction ids with
    | nil =>
      intro stage holds
      simpa using holds
    | cons id rest ih =>
      intro stage holds
      simpa using ih _ (touched id stage holds)
  have changed : P { stage with deck := (stage.edited change).deck } := deck rfl rfl holds
  exact written _ _ changed

theorem preserves_resolveAll (ids : List Int) :
    Preserves P (resolveAll ids : Act Handle Listener World _) := by
  induction ids with
  | nil => exact .pure _
  | cons id rest ih =>
    refine .bind (preserves_edit deck touched _) fun program => ?_
    exact .bind ih fun programs => .pure _

end Edit

section Calls

variable (deck : ∀ (stage : Stage Handle Listener World) (deck : Deck Handle Listener),
  deck.listeners = stage.deck.listeners → P stage → P { stage with deck })
include deck

theorem preserves_changeDeck {change : Deck Handle Listener → Deck Handle Listener}
    (same : ∀ deck, (change deck).listeners = deck.listeners) : Preserves P (changeDeck change) :=
  fun stage holds => deck stage (change stage.deck) (same stage.deck) holds

theorem preserves_stopCurrent
    (stop : ∀ handle, Preserves P (ask (around.stop handle) (.stopped handle))) :
    Preserves P (Stage.stopCurrent around) := by
  refine preserves_getDeck.bind fun now => ?_
  split
  · exact .pure _
  · refine .bind (preserves_changeDeck deck fun _ => rfl) fun _ => ?_
    exact .bind (stop _) fun _ => .pure _

/-- A property that does not hang on the deck, but for the listeners, is kept if every call on the
world keeps it. -/
theorem Steady.of_calls
    (touched : ∀ (id : Int) (stage : Stage Handle Listener World), P stage →
      P { stage with journal := stage.journal ++ [.touched id] })
    (announce : ∀ event, Preserves P (Act.announce around event))
    (save : ∀ {save}, around.save = some save → ∀ slot, Preserves P (ask (save slot) (.saved slot)))
    (compile : ∀ program, Preserves P (ask (around.compile program) (.compiled program)))
    (start : ∀ handle, Preserves P (ask (around.start handle) (.started handle)))
    (stop : ∀ handle, Preserves P (ask (around.stop handle) (.stopped handle)))
    (hush : Preserves P (ask around.hush .hushed)) : Steady around P where
  deck := fun _ same holds => deck _ _ same holds
  touched := touched
  announce := announce
  save := save
  compile := compile
  stopCurrent := preserves_stopCurrent deck stop
  hush := hush
  rebuild := by
    have halted := preserves_stopCurrent deck stop
    refine preserves_getDeck.bind fun now => ?_
    refine .ite (.bind halted fun _ => announce _) ?_
    refine .bind (preserves_resolveAll (fun _ same holds => deck _ _ same holds) touched _) fun programs => ?_
    refine .bind (compile _) fun compiled => ?_
    cases compiled with
    | error fault => exact .throw _
    | ok handle =>
      refine .bind halted fun _ => .bind (start handle) fun started => ?_
      cases started with
      | error fault => exact .throw _
      | ok => exact .bind (preserves_changeDeck deck fun _ => rfl) fun _ => announce _

end Calls

namespace Steady

variable (steady : Steady around P)
include steady

theorem changeDeck {change : Deck Handle Listener → Deck Handle Listener}
    (same : ∀ deck, (change deck).running = deck.running)
    (ears : ∀ deck, (change deck).listeners = deck.listeners) : Preserves P (Act.changeDeck change) :=
  fun stage holds => steady.deck (same stage.deck) (ears stage.deck) holds

theorem changeSlot (id : Int) (f : Slot → Slot) :
    Preserves P (Act.changeSlot id f : Act Handle Listener World Unit) :=
  steady.changeDeck (fun _ => rfl) fun _ => rfl

theorem edit {α : Type} (change : Edit α) :
    Preserves P (Act.edit change : Act Handle Listener World α) :=
  preserves_edit steady.deck steady.touched change

theorem touch (id : Int) : Preserves P (Act.touch around id) := by
  intro stage holds
  exact steady.touched id _ (steady.deck rfl rfl holds)

theorem announceState (id : Int) : Preserves P (Act.announceState around id) := by
  refine preserves_getDeck.bind fun deck => ?_
  split
  · exact steady.announce _
  · exact .pure _

theorem announcePlaying (id : Int) : Preserves P (Act.announcePlaying around id) := by
  refine (steady.announceState id).bind fun _ => ?_
  exact preserves_getDeck.bind fun deck => steady.announce _

theorem report (id : Option Int) (failure : Failure) :
    Preserves P (Act.report around id failure) :=
  steady.announce _

theorem persist (id : Int) : Preserves P (Act.persist around id) := by
  refine preserves_getDeck.bind fun deck => ?_
  split
  next save slot saves _ => exact (steady.save saves slot).bind fun _ => .pure _
  · exact .pure _

theorem slot (id : Int) : Preserves P (Act.slot around id) := by
  refine preserves_getDeck.bind fun deck => ?_
  split
  · exact .pure _
  · exact (steady.report _ _).bind fun _ => .throw _

theorem setPlaying (id : Int) (playing : Bool) :
    Preserves P (Stage.setPlaying id playing : Act Handle Listener World Unit) :=
  steady.changeSlot id _

theorem start (id : Int) : Preserves P (Stage.start around id) := by
  refine .bind (steady.slot id) fun _ => ?_
  refine .bind preserves_getDeck fun deck => ?_
  refine .ite (.pure _) ?_
  refine .bind (steady.changeDeck (fun _ => rfl) fun _ => rfl) fun _ => ?_
  refine .bind (steady.setPlaying id true) fun _ => ?_
  refine .bind (preserves_orElseOwn steady.rebuild fun failure => ?_) fun _ => ?_
  · refine .bind (steady.changeDeck (fun _ => rfl) fun _ => rfl) fun _ => ?_
    exact .bind (steady.setPlaying id false) fun _ => steady.report _ _
  · refine .bind (steady.touch id) fun _ => ?_
    exact .bind (steady.announcePlaying id) fun _ => steady.persist id

theorem stop (id : Int) : Preserves P (Stage.stop around id) := by
  refine .bind (steady.slot id) fun _ => ?_
  refine .bind preserves_getDeck fun deck => ?_
  refine .ite (.pure _) ?_
  refine .bind (steady.changeDeck (fun _ => rfl) fun _ => rfl) fun _ => ?_
  refine .bind (steady.setPlaying id false) fun _ => ?_
  refine .bind (preserves_orElseOwn steady.rebuild fun failure => ?_) fun _ => ?_
  · refine .bind (steady.changeDeck (fun _ => rfl) fun _ => rfl) fun _ => ?_
    exact .bind (steady.setPlaying id true) fun _ => steady.report _ _
  · exact .bind (steady.touch id) fun _ => steady.announcePlaying id

theorem toggle (id : Int) : Preserves P (Stage.toggle around id) := by
  refine .bind preserves_getDeck fun deck => ?_
  exact .ite (steady.stop id) (steady.start id)

theorem announceStopped (ids : List Int) : Preserves P (Stage.announceStopped around ids) := by
  induction ids with
  | nil => exact .pure _
  | cons id rest ih =>
    refine .bind (steady.touch id) fun _ => ?_
    exact .bind (steady.announcePlaying id) fun _ => ih

theorem stopAll : Preserves P (Stage.stopAll around) := by
  refine .bind steady.stopCurrent fun _ => ?_
  refine .bind steady.hush fun _ => ?_
  refine .bind preserves_getDeck fun deck => ?_
  refine .bind (steady.changeDeck (fun _ => rfl) fun _ => rfl) fun _ => ?_
  exact .bind (steady.announceStopped _) fun _ => steady.announce _

theorem loadLibrary (slots : List Slot) (name version : Option Label) :
    Preserves P (Stage.loadLibrary around slots name version) := by
  refine .bind steady.stopAll fun _ => ?_
  refine .bind preserves_getDeck fun deck => ?_
  split
  · exact .throw _
  · exact steady.changeDeck (fun _ => rfl) fun _ => rfl

theorem updateLiveCode (id : Int) (code : String) :
    Preserves P (Stage.updateLiveCode around id code) := by
  refine .bind (steady.slot id) fun before => ?_
  refine .bind preserves_getDeck fun deck => ?_
  refine .ite (.bind (steady.report _ _) fun _ => .bind (.throw _) fun _ => ?_) ?_
  all_goals
    refine .bind (steady.compile _) fun outcome => ?_
    cases outcome with
    | error fault => exact .bind (steady.report _ _) fun _ => .throw _
    | ok handle =>
      refine .bind (steady.changeSlot id _) fun _ => ?_
      refine .bind (preserves_orElseOwn steady.rebuild fun failure => ?_) fun _ => ?_
      · exact .bind (steady.changeSlot id _) fun _ => steady.report _ _
      · refine .bind (steady.touch id) fun _ => ?_
        exact .bind (steady.announceState id) fun _ => steady.persist id

theorem updatePatternCode (id : Int) (code : String) :
    Preserves P (Stage.updatePatternCode around id code) := by
  -- the same follows whether the slot was stopped for it or not
  have rest : ∀ wasPlaying : Bool, Preserves P (do
      Act.changeSlot id fun slot => { slot with code }
      Act.touch around id
      let _ ← Act.edit (Binding.refresh id)
      Stage.andFinally (if wasPlaying then Stage.start around id else return) do
        Act.announceState around id
        Act.persist around id) := by
    intro wasPlaying
    refine .bind (steady.changeSlot id _) fun _ => ?_
    refine .bind (steady.touch id) fun _ => ?_
    refine .bind (steady.edit _) fun _ => ?_
    refine preserves_andFinally (.ite (steady.start id) (.pure _)) ?_
    exact .bind (steady.announceState id) fun _ => steady.persist id
  refine .bind (steady.slot id) fun _ => ?_
  refine .bind preserves_getDeck fun deck => ?_
  exact .ite (.bind (steady.stop id) fun _ => rest _) (rest _)

theorem select (id : Option Int) : Preserves P (Stage.select around id) := by
  have chosen : Preserves P (Act.changeDeck fun deck => { deck with selected := id } :
      Act Handle Listener World Unit) := steady.changeDeck (fun _ => rfl) fun _ => rfl
  cases id with
  | none => exact chosen
  | some id => exact .bind (steady.slot id) fun _ => chosen

theorem parameters (id : Int) : Preserves P (Stage.parameters around id) := by
  refine .bind (steady.slot id) fun _ => ?_
  exact .bind (steady.edit _) fun _ => .pure _

theorem parameterChanged (id : Int) (p : Parameter) (rebuilds : Bool) :
    Preserves P (Stage.parameterChanged around id p rebuilds) := by
  refine .bind (steady.announce _) fun _ => ?_
  refine .bind (steady.announceState id) fun _ => ?_
  refine .bind (steady.persist id) fun _ => ?_
  refine .bind preserves_getDeck fun deck => ?_
  exact .ite (preserves_orElseOwn steady.rebuild fun failure => steady.report _ _) (.pure _)

theorem changeParameter (id : Int) (rebuilds : Bool) (change : Float → Edit Parameter) :
    Preserves P (Stage.changeParameter around id rebuilds change) := by
  refine .bind (steady.slot id) fun _ => ?_
  refine .bind (steady.edit _) fun _ => ?_
  refine .bind .get fun stage => ?_
  refine .bind (preserves_orElseOwn (steady.edit _) fun failure => steady.report _ _) fun p => ?_
  exact .bind (steady.parameterChanged id p rebuilds) fun _ => .pure _

theorem addCatalogParameter (id : Int) (name : String) (knob : Option Int) :
    Preserves P (Stage.addCatalogParameter around id name knob) :=
  .bind preserves_getDeck fun _ => steady.changeParameter id true _

theorem pressButton (id : Int) (pressed : Bool) :
    Preserves P (Stage.pressButton around id pressed) :=
  .ite (.bind (steady.select (some id)) fun _ => steady.toggle id) (.pure _)

theorem turnKnob (knob ticks : Int) : Preserves P (Stage.turnKnob around knob ticks) := by
  refine .bind .get fun stage => ?_
  refine .bind (steady.edit _) fun turned => ?_
  cases turned with
  | none => exact .pure _
  | some turned => exact steady.parameterChanged _ _ _

/-- What all parts keep, every operation keeps. -/
theorem operation (operation : Operation) : Preserves P (operation.act around) := by
  cases operation with
  | start id => exact steady.start id
  | stop id => exact steady.stop id
  | toggle id => exact steady.toggle id
  | stopAll => exact steady.stopAll
  | updateLiveCode id code => exact steady.updateLiveCode id code
  | updatePatternCode id code => exact steady.updatePatternCode id code
  | select id => exact steady.select id
  | parameters id => exact (steady.parameters id).discard
  | assignParameter id name knob => exact (steady.changeParameter id false _).discard
  | setParameterRange id name lo hi => exact (steady.changeParameter id true _).discard
  | setParameterValue id name value => exact (steady.changeParameter id true _).discard
  | addCatalogParameter id name knob => exact (steady.addCatalogParameter id name knob).discard
  | pressButton id pressed => exact steady.pressButton id pressed
  | turnKnob knob ticks => exact steady.turnKnob knob ticks
  | loadLibrary slots name version => exact steady.loadLibrary slots name version

end Steady

end PatternDeck.Stage
