import PatternDeck.Proofs.Stage.Composite

/-!
The running program is the composite of the slots that play, as long as no program fails to start. An
operation that changes their texts or their order rebuilds, and when the renderer refuses the new
composite the slots are put back, so that the old one is theirs again.
-/
namespace PatternDeck

namespace Stage

open Act

variable {Handle Listener World : Type} (around : Surroundings Handle Listener World)
variable (stage : Stage Handle Listener World)

section Playback

/-- No flag is heard. -/
theorem sound_flagged (id : Int) (playing : Bool) (active : List Int) :
    sound { stage with
      deck := { stage.deck with
        active
        bank := stage.deck.bank.modify id fun slot => { slot with playing } } } =
      (active, stage.sound.2) := by
  simp only [sound, Deck.program?]
  rw [Bank.view_modify stage.deck.bank id]
  · rfl
  · exact fun slot => Slot.text_congr rfl rfl

theorem sound_joined (id : Int) :
    sound { stage with deck := stage.deck.joined id } =
      (stage.deck.active ++ [id], stage.sound.2) :=
  sound_flagged stage id true _

theorem sound_left (id : Int) :
    sound { stage with deck := stage.deck.left id } =
      (stage.deck.active.erase id, stage.sound.2) :=
  sound_flagged stage id false _

theorem sound_putBack (id : Int) (active : List Int) :
    sound { stage with deck := stage.deck.putBack id active } = (active, stage.sound.2) :=
  sound_flagged stage id true active

variable {stage} {id : Int} {outcome : Except Failure Unit} {after : Stage Handle Listener World}

theorem Starts.inTune (present : stage.deck.Present) (inTune : stage.InTune around)
    (reliable : after.Reliable) (starts : Starts around stage id outcome after) :
    after.InTune around := by
  cases starts with
  | missing => exact inTune.of_sound around (sound_told around stage rfl)
  | playing => exact inTune
  | @failed failure after loaded idle rebuilt =>
    have trusted : after.Reliable := reliable.of_prefix (List.prefix_append _ _)
    have same := sound_of_refused around (present.joined loaded) trusted rebuilt
    rw [sound_joined, Prod.ext_iff] at same
    obtain ⟨active, same⟩ := same
    apply inTune.of_sound around
    rw [sound_told around _ rfl, sound_left, same]
    -- the slot stood last and nowhere else, so the order is the old one
    have back : after.deck.active.erase id = stage.deck.active := by
      rw [show after.deck.active = stage.deck.active ++ [id] from active,
        List.erase_append_right _ idle, List.erase_cons_head, List.append_nil]
    rw [back]
    rfl
  | started loaded idle rebuilt =>
    apply (inTune_of_rebuilt around (present.joined loaded) rebuilt).of_sound around
    rw [sound_saved, sound_toldPlaying, sound_stamped]

theorem Stops.inTune (present : stage.deck.Present) (inTune : stage.InTune around)
    (reliable : after.Reliable) (stops : Stops around stage id outcome after) :
    after.InTune around := by
  cases stops with
  | missing => exact inTune.of_sound around (sound_told around stage rfl)
  | idle => exact inTune
  | @failed failure after loaded active rebuilt =>
    have trusted : after.Reliable := reliable.of_prefix (List.prefix_append _ _)
    have same := sound_of_refused around (present.left id) trusted rebuilt
    -- the saved list is the order from before
    rw [sound_left, Prod.ext_iff] at same
    apply inTune.of_sound around
    rw [sound_told around _ rfl, sound_putBack, same.2]
    rfl
  | stopped loaded active rebuilt =>
    apply (inTune_of_rebuilt around (present.left id) rebuilt).of_sound around
    rw [sound_toldPlaying, sound_stamped]

end Playback

section Library

variable {stage} {outcome : Except Failure Unit} {after : Stage Handle Listener World}

theorem sound_toldStopped (stage : Stage Handle Listener World) (ids : List Int) :
    (stage.toldStopped around ids).sound = stage.sound := by
  induction ids generalizing stage with
  | nil => rfl
  | cons id rest ih => rw [toldStopped, ih, sound_toldPlaying, sound_stamped]

theorem inTune_of_stopAll (stopped : perform (stopAll around) stage = (outcome, after)) :
    after.InTune around ∧ after.deck.active = [] ∧ after.deck.program? = none := by
  obtain ⟨world, stops, hushed, -, performed⟩ := perform_stopAll around stage
  rw [stopped, Prod.mk.injEq] at performed
  obtain ⟨-, rfl⟩ := performed
  have silent := sound_toldStopped around
    ⟨stage.deck.silent, world, stage.journal ++ stops ++ [.hushed hushed]⟩ stage.deck.audible
  simp only [sound, Prod.mk.injEq] at silent
  obtain ⟨active, -, running, -⟩ := silent
  refine ⟨⟨?_, ?_⟩, active, running⟩
  · rw [deck_told, running, texts, deck_told, active]
    rfl
  · rw [deck_told, running]
    exact lastRebuild_of_append_rebuild (journal_told around _ _)

theorem Loads.inTune {slots : List Slot} {name version : Option Label}
    (loads : Loads around stage slots name version outcome after) : after.InTune around := by
  cases loads with
  | refused stopped => exact (inTune_of_stopAll around stopped).1
  | @loaded bank middle stopped taken =>
    obtain ⟨inTune, active, -⟩ := inTune_of_stopAll around stopped
    refine inTune.congr around rfl (fun id there => ?_) rfl rfl
    rw [active] at there
    cases there

end Library

section Code

variable {stage} {id : Int} {code : String} {outcome : Except Failure Unit}
variable {after : Stage Handle Listener World}

/-- Another text of a slot is seen under its id, and nowhere else. -/
theorem view_recoded (deck : Deck Handle Listener) (id : Int) (code : String)
    (parameters : Parameters) (other : Int) :
    (deck.recoded id code parameters).bank.view Slot.text other =
      if other = id then (deck.bank.view Slot.text other).map fun _ => Slot.text { id, code, parameters }
      else deck.bank.view Slot.text other := by
  apply Bank.view_modify_eq
  exact fun _ => Slot.text_congr rfl rfl

theorem LiveEdits.inTune (present : stage.deck.Present) (inTune : stage.InTune around)
    (reliable : after.Reliable) (edits : LiveEdits around stage id code outcome after) :
    after.InTune around := by
  have compiles : ∀ (deck : Deck Handle Listener) (world : World) (program : String)
      (outcome : Except Fault Handle),
      lastRebuild ⟨deck, world, stage.journal ++ [.compiled program outcome]⟩ =
        stage.lastRebuild := by
    intro deck world program outcome
    apply lastRebuild_of_append rfl
    simp [Entry.event?]
  cases edits with
  | missing | idle => exact inTune.of_sound around (sound_told around stage rfl)
  | refused found active compiled =>
    apply inTune.of_sound around
    rw [sound_told around _ rfl]
    simp only [sound, compiles]
  | @failed slot handle world failure after found active compiled rebuilt =>
    have trusted : after.Reliable := reliable.of_prefix (List.prefix_append _ _)
    have same := sound_of_refused around (present.recoded id code _) trusted rebuilt
    simp only [sound, compiles, Prod.mk.injEq] at same
    obtain ⟨active', texts, running, told⟩ := same
    apply inTune.of_sound around
    rw [sound_told around _ rfl]
    -- the old text goes over the new one, and other slots never changed theirs
    have back : (after.deck.recoded id slot.code slot.parameters).bank.view Slot.text =
        stage.deck.bank.view Slot.text := by
      funext other
      rw [view_recoded, texts, view_recoded]
      split
      next same =>
        subst same
        rw [Option.map_map, Bank.view_of_find? Slot.text found]
        rfl
      · rfl
    have running' : (after.deck.recoded id slot.code slot.parameters).program? =
        stage.deck.program? := running
    simp only [sound, back, running']
    exact Prod.ext active' (Prod.ext rfl (Prod.ext rfl told))
  | edited found active compiled rebuilt =>
    have rebuilds := inTune_of_rebuilt around (present.recoded id code _) rebuilt
    apply rebuilds.of_sound around
    rw [sound_saved, sound_toldState, sound_stamped]

/-- The code of a slot that does not play is not heard. -/
theorem InTune.rewritten (inTune : stage.InTune around) (code : String)
    (idle : id ∉ stage.deck.active) :
    (stage.rewritten around id code).InTune around := by
  refine inTune.congr around rfl (fun other there => ?_) rfl ?_
  · have differs : other ≠ id := fun same => idle (same ▸ there)
    simp only [Stage.rewritten, Deck.refreshed, deck_stamped]
    rw [Bank.view_modify_ne _ differs, Bank.view_modify_ne _ differs,
      Bank.view_modify_ne _ differs]
  · have grown : (stage.rewritten around id code).journal = stage.journal ++ [.touched id] := rfl
    apply lastRebuild_of_append grown
    simp [Entry.event?]

theorem Edits.inTune (placed : stage.deck.Placed) (inTune : stage.InTune around)
    (reliable : after.Reliable) (edits : Edits around stage id code outcome after) :
    after.InTune around := by
  cases edits with
  | missing => exact inTune.of_sound around (sound_told around stage rfl)
  | halted loaded active stopped =>
    have stops := ends_of_perform (perform_stop around stage id placed.present) stopped
    exact stops.inTune around placed.present inTune reliable
  | silent loaded idle =>
    apply (inTune.rewritten around code idle).of_sound around
    rw [sound_saved, sound_toldState]
  | @restarted _ middle after loaded active stopped started =>
    -- between the two the slot does not play, so its new code is not heard yet
    have stops := ends_of_perform (perform_stop around stage id placed.present) stopped
    have placed' := placed.moved ((stops.moved around stage placed.present).tail
      (.kept (standing_rewritten around middle id code)))
    have starts := ends_of_perform (perform_start around _ id placed'.present) started
    have trusted : after.Reliable := reliable.of_prefix
      ((prefix_toldState around after id).trans (prefix_saved around _ id))
    have grown : middle.journal <+: after.journal :=
      (List.prefix_append _ _).trans (starts.prefix_journal around _ id placed'.present)
    have halted := stops.inTune around placed.present inTune (trusted.of_prefix grown)
    have rewritten := halted.rewritten around code (stops.notMem around stage placed)
    apply (starts.inTune around placed'.present rewritten trusted).of_sound around
    rw [sound_saved, sound_toldState]

end Code

section Control

variable {stage} {id : Int} {after : Stage Handle Listener World}

theorem sound_refreshed (stage : Stage Handle Listener World) (id : Int) :
    sound { stage with deck := stage.deck.refreshed id } = stage.sound := by
  simp only [sound, Deck.refreshed, Deck.program?]
  rw [Bank.view_modify stage.deck.bank id]
  · rfl
  · exact Slot.text_refreshed

/-- What an edit of one slot leaves of the composite. -/
theorem InTune.edited {α : Type} {change : Edit α} (inTune : stage.InTune around)
    (idle : id ∉ stage.deck.active)
    (kept : ∀ other, other ≠ id →
      (perform change { bank := stage.deck.bank }).2.bank.find? other =
        stage.deck.bank.find? other) : (stage.edited change).InTune around := by
  refine inTune.congr around rfl (fun other there => ?_) rfl ?_
  · have differs : other ≠ id := fun same => idle (same ▸ there)
    simp only [Stage.edited, Bank.view, kept other differs]
  · apply lastRebuild_of_append rfl
    intro entry there
    obtain ⟨id, -, rfl⟩ := List.mem_map.1 there
    rfl

/-- What follows a change that is heard puts the composite in tune again, unless the slot does not
play. -/
theorem Follows.inTune {p : Parameter} (present : stage.deck.Present)
    (inTune : id ∉ stage.deck.active → stage.InTune around)
    (follows : Follows around stage id p true (.ok ()) after) : after.InTune around := by
  cases follows with
  | quiet unheard =>
    apply (inTune (by simpa using unheard)).of_sound around
    rw [toldParameter, sound_saved, sound_toldState, sound_told around _ rfl]
  | rebuilt heard active rebuilt =>
    exact inTune_of_rebuilt around (by rwa [deck_toldParameter]) rebuilt

/-- A change of a parameter that works leaves the composite in tune. -/
theorem Adjusts.inTune {change : Float → Edit Parameter} {p : Parameter}
    (present : stage.deck.Present) (inTune : stage.InTune around)
    (flags : ∀ now, Keeps flags (change now))
    (keeps : ∀ now other, other ≠ id → Keeps (fun draft => draft.bank.find? other) (change now))
    (adjusts : Adjusts around stage id true change (.ok p) after) : after.InTune around := by
  have adjusted := standing_adjusted around stage id flags
  generalize same : (Except.ok p : Except Failure Parameter) = outcome at adjusts
  cases adjusts with
  | missing | refused | rejected => cases same
  | @changed q outcome after loaded changed follows =>
    -- what is said of a change that works needs its rebuild to work too
    obtain ⟨⟩ : outcome = .ok () := by
      cases outcome with
      | error => cases same
      | ok => rfl
    have still := present_of_standing present adjusted
    have ends := ends_of_perform (perform_parameterChanged around _ id q true still) follows
    -- a slot that plays is rebuilt, and one that does not is changed unheard
    refine ends.inTune around still fun idle => ?_
    have active : (stage.adjusted around id change).deck.active = stage.deck.active :=
      congrArg Prod.fst adjusted
    rw [active] at idle
    rw [Stage.adjusted]
    exact InTune.edited around (inTune.of_sound around (sound_refreshed stage id)) idle
      fun other differs => keeps _ other differs _

/-- A change that is not heard needs no rebuild, whether it works or not. -/
theorem Adjusts.inTune_of_unheard {change : Float → Edit Parameter}
    {outcome : Except Failure Parameter} (present : stage.deck.Present)
    (inTune : stage.InTune around) (flags : ∀ now, Keeps flags (change now))
    (keeps : ∀ now, Keeps (fun draft => draft.bank.view Slot.text) (change now))
    (adjusts : Adjusts around stage id false change outcome after) : after.InTune around := by
  have standing := standing_adjusted around stage id flags
  have adjusted : (stage.adjusted around id change).sound = stage.sound := by
    rw [Stage.adjusted, sound_edited _ _ (keeps _ _), sound_refreshed]
  apply inTune.of_sound around
  cases adjusts with
  | missing => exact sound_told around stage rfl
  | refused => rw [sound_told around _ rfl, adjusted]
  | rejected => exact adjusted
  | @changed p _ _ loaded changed follows =>
    have still := present_of_standing present standing
    have ends := ends_of_perform (perform_parameterChanged around _ id p false still) follows
    cases ends with
    | quiet =>
      rw [toldParameter, sound_saved, sound_toldState, sound_told around _ rfl, adjusted]
    | failed heard | rebuilt heard => cases heard

theorem Turns.inTune {knob ticks : Int} (present : stage.deck.Present)
    (inTune : stage.InTune around) (turns : Turns around stage knob ticks (.ok ()) after) :
    after.InTune around := by
  have standing := standing_turned around stage knob ticks
  -- a turn changes one parameter of the slot that the knob drives, or nothing
  obtain ⟨outcome, draft, performed, ends⟩ := Selection.perform_turn (around.clock stage.world)
    stage.deck.selected knob (.whole ticks) { bank := stage.deck.bank }
  cases turns with
  | idle undriven =>
    rw [turn, performed] at undriven
    cases undriven
    cases ends
    apply inTune.of_sound around
    apply sound_edited
    rw [turn, performed]
  | @turned turned outcome after driven follows =>
    rw [turn, performed] at driven
    cases driven
    cases ends with
    | @turned slot p new driven reached =>
      have still := present_of_standing present standing
      have ends := ends_of_perform (perform_parameterChanged around _ slot.id _ true still) follows
      refine ends.inTune around still fun idle => ?_
      have active : (stage.edited (stage.turn around knob ticks)).deck.active = stage.deck.active :=
        congrArg Prod.fst standing
      rw [active] at idle
      refine inTune.edited around idle fun other differs => ?_
      rw [turn, performed]
      simp only [Selection.moved]
      rw [Bank.find?_modify_ne _ differs, Bank.find?_modify_ne _ differs]

end Control

section History

theorem inTune_of_toggle {id : Int} {outcome : Except Failure Unit}
    {after : Stage Handle Listener World} (present : stage.deck.Present)
    (inTune : stage.InTune around)
    (toggled : perform (toggle around id) stage = (outcome, after)) (reliable : after.Reliable) :
    after.InTune around := by
  rw [perform_toggle] at toggled
  split at toggled
  · have stops := ends_of_perform (perform_stop around stage id present) toggled
    exact stops.inTune around present inTune reliable
  · have starts := ends_of_perform (perform_start around stage id present) toggled
    exact starts.inTune around present inTune reliable

theorem inTune_of_pressButton {id : Int} {pressed : Bool} {outcome : Except Failure Unit}
    {after : Stage Handle Listener World} (placed : stage.deck.Placed)
    (inTune : stage.InTune around)
    (done : perform (pressButton around id pressed) stage = (outcome, after))
    (reliable : after.Reliable) : after.InTune around := by
  cases pressed with
  | false =>
    cases done
    exact inTune
  | true =>
    obtain ⟨chosen, middle, selected, selects⟩ := perform_select around stage (some id)
    rw [perform_pressButton, selected] at done
    have placed' := placed.moved (selects.moved around stage)
    cases selects with
    | missing =>
      cases done
      exact inTune.of_sound around (sound_told around stage rfl)
    | selected loaded =>
      exact inTune_of_toggle around _ placed'.present (inTune.of_sound around rfl) done reliable

theorem inTune_of_parameters {id : Int} {outcome : Except Failure Unit}
    {after : Stage Handle Listener World} (inTune : stage.InTune around)
    (done : perform (discard (parameters around id)) stage = (outcome, after)) :
    after.InTune around := by
  rw [perform_discard] at done
  by_cases loaded : id ∈ stage.deck.bank.ids
  · obtain ⟨ps, performed⟩ := perform_parameters_of_mem around stage id loaded
    rw [performed] at done
    cases done
    exact inTune.of_sound around (sound_refreshed stage id)
  · rw [perform_parameters_of_notMem around stage id loaded] at done
    cases done
    exact inTune.of_sound around (sound_told around stage rfl)

theorem inTune_of_changeParameter {id : Int} {change : Float → Edit Parameter}
    {after : Stage Handle Listener World} (present : stage.deck.Present)
    (inTune : stage.InTune around)
    (keeps : ∀ {Seen : Type} {observe : Draft → Seen}, Edit.Unseen observe id →
      ∀ now, Keeps observe (change now))
    (done : perform (discard (changeParameter around id true change)) stage = (.ok (), after)) :
    after.InTune around := by
  rw [perform_discard, Prod.mk.injEq] at done
  obtain ⟨worked, rfl⟩ := done
  have adjusts := perform_ends (perform_changeParameter around stage id true change)
  rcases returned : (perform (changeParameter around id true change) stage).1 with failure | p
  · rw [returned] at worked
    cases worked
  · rw [returned] at adjusts
    exact adjusts.inTune around present inTune (keeps (unseen_flags id))
      fun now other differs => keeps (Edit.unseen_other differs) now

/-- Each operation leaves the composite in tune, if no program fails to start, and if it does not fail
where it changes a value. -/
theorem inTune_of_operation (operation : Operation) {outcome : Except Failure Unit}
    {after : Stage Handle Listener World} (placed : stage.deck.Placed)
    (inTune : stage.InTune around)
    (performed : perform (operation.act around) stage = (outcome, after))
    (reliable : after.Reliable) (tuned : operation.tunes → outcome = .ok ()) :
    after.InTune around := by
  have present := placed.present
  cases operation with
  | start id =>
    have starts := ends_of_perform (perform_start around stage id present) performed
    exact starts.inTune around present inTune reliable
  | stop id =>
    have stops := ends_of_perform (perform_stop around stage id present) performed
    exact stops.inTune around present inTune reliable
  | toggle id => exact inTune_of_toggle around stage present inTune performed reliable
  | stopAll => exact (inTune_of_stopAll around performed).1
  | updateLiveCode id code =>
    have edits := ends_of_perform (perform_updateLiveCode around stage id code present) performed
    exact edits.inTune around present inTune reliable
  | updatePatternCode id code =>
    have edits := ends_of_perform (perform_updatePatternCode around stage id code present) performed
    exact edits.inTune around placed inTune reliable
  | select id =>
    have selects := ends_of_perform (perform_select around stage id) performed
    cases selects with
    | missing => exact inTune.of_sound around (sound_told around stage rfl)
    | selected loaded => exact inTune.of_sound around rfl
  | parameters id => exact inTune_of_parameters around stage inTune performed
  | assignParameter id name knob =>
    rw [Operation.act, perform_discard, Prod.mk.injEq] at performed
    obtain ⟨-, rfl⟩ := performed
    have adjusts := perform_ends (perform_changeParameter around stage id false fun now =>
      Binding.assign now id name knob)
    exact adjusts.inTune_of_unheard around present inTune
      (fun now => (unseen_flags id).keeps_assign now name knob)
      (fun now => Edit.keeps_texts_assign now id name knob)
  | setParameterRange id name lo hi =>
    -- a range stays changed when its rebuild fails, so only a change that works is in tune
    rw [tuned rfl] at performed
    exact inTune_of_changeParameter around stage present inTune
      (fun unseen now => unseen.keeps_setRange now name lo hi) performed
  | setParameterValue id name value =>
    rw [tuned rfl] at performed
    exact inTune_of_changeParameter around stage present inTune
      (fun unseen now => unseen.keeps_setValue now name value) performed
  | addCatalogParameter id name knob =>
    rw [tuned rfl, Operation.act, perform_discard, perform_addCatalogParameter,
      ← perform_discard] at performed
    exact inTune_of_changeParameter around stage present inTune
      (fun unseen now => unseen.keeps_addFromCatalog stage.deck.catalog now name knob) performed
  | pressButton id pressed =>
    exact inTune_of_pressButton around stage placed inTune performed reliable
  | turnKnob knob ticks =>
    have turns := ends_of_perform (perform_turnKnob around stage knob ticks) performed
    rw [tuned rfl] at turns
    exact turns.inTune around present inTune
  | loadLibrary slots name version =>
    have loads := ends_of_perform (perform_loadLibrary around stage slots name version) performed
    exact loads.inTune around

/-- What sounds is the composite of what plays: of each slot once, in the order in which they were
started, the code with the values of its parameters. -/
structure Sounding : Prop where
  distinct : stage.deck.active.Nodup
  composite : ∃ programs,
    List.Forall₂ (fun id program => ∃ slot, stage.deck.bank.find? id = some slot ∧
      program = Program.inject (slot.parameters.merge (Program.detect slot.code)).values slot.code)
      stage.deck.active programs ∧
    stage.deck.program? = together around programs
  told : stage.lastRebuild = stage.deck.program?

theorem InTune.sounding (inTune : stage.InTune around) (placed : stage.deck.Placed) :
    stage.Sounding around where
  distinct := placed.distinct
  composite := ⟨stage.texts, stage.deck.bank.forall₂_texts placed.present, inTune.playing⟩
  told := inTune.told

/-- The running program is the composite of the slots that play, after every operation of a history in
which no program fails to start, and no change of a value or a range fails. -/
theorem sounding_of_history (bank : Bank) (catalog : Catalog) (listeners : Listeners Topic Listener)
    (world : World) (operations : List Operation)
    (reliable : ∀ step ∈ history around (fresh bank catalog listeners world) operations,
      step.after.Reliable)
    (tuned : ∀ step ∈ history around (fresh bank catalog listeners world) operations,
      step.operation.tunes → step.outcome = .ok ()) :
    ∀ step ∈ history around (fresh bank catalog listeners world) operations,
      step.after.Sounding around := by
  have placed := placed_of_history around bank catalog listeners world operations
  -- at first nothing plays and nothing was told
  have initial : (fresh bank catalog listeners world).InTune around := ⟨rfl, rfl⟩
  intro step taken
  refine InTune.sounding around _ ?_ (placed step taken).2
  refine (invariant_of_history around _ operations
    (fun stage => stage.InTune around) initial ?_ step taken).2
  intro step taken inTune
  have performed := perform_of_mem_history around _ operations taken
  exact inTune_of_operation around step.before step.operation (placed step taken).1 inTune performed
    (reliable step taken) (tuned step taken)

private def bankToPlay : Bank :=
  ⟨[{ id := 3, code := "a($g)" }, { id := 5, code := "b" }], "", "", by decide, by decide⟩

private def playedBank : List Operation :=
  [.start 3, .setParameterValue 3 "g" 0.75, .start 5, .updateLiveCode 3 "x", .stop 3, .start 3,
    .updatePatternCode 3 "y", .stopAll]

private def played : List (Step Nat Empty Nat) :=
  history (.refusing (· = "x")) (fresh bankToPlay .empty {} 0) playedBank

/-- A history with a value that is changed while it is heard, and with live code that the renderer
refuses. -/
theorem sounding_after_refused_edit :
    played.map (fun step => step.after.deck.program?) =
      [some "a(0.5)", some "a(0.75)", some "stack(a(0.75), b)", some "stack(a(0.75), b)", some "b",
        some "stack(b, a(0.75))", some "stack(b, y)", none] ∧
    ∀ step ∈ played, step.after.Sounding (.refusing (· = "x")) := by
  refine ⟨by decide +kernel, ?_⟩
  apply sounding_of_history
  · have started : ∀ step ∈ played, step.after.Reliable := by
      unfold Reliable
      decide +kernel
    exact started
  · have worked : ∀ step ∈ played, step.operation.tunes → step.outcome.isOk := by decide +kernel
    intro step taken tunes
    have ok := worked step taken tunes
    rcases returned : step.outcome with failure | ⟨⟩
    · rw [returned] at ok
      cases ok
    · rfl

end History

end Stage

end PatternDeck
