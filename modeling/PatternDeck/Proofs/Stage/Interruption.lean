import PatternDeck.Proofs.Stage.Consistency
import PatternDeck.Proofs.Stage.Journal

/-!
What an operation does to the composite. A program that the renderer refuses leaves it alone; one
that does not start has already cost the old one. Around a rebuild operations only do what nobody
hears, so how the rebuild came out is how the operation does.
-/
namespace PatternDeck.Stage

open Act

variable {Handle Listener World : Type} (around : Surroundings Handle Listener World)
variable (stage : Stage Handle Listener World)

/-- The same slots and the same composite play, and nothing was heard or refused. -/
structure Quiet (before after : Stage Handle Listener World) : Prop where
  active : after.deck.active = before.deck.active
  running : after.deck.running = before.deck.running
  grown : ∃ entries, after.journal = before.journal ++ entries ∧ ∀ entry ∈ entries, entry.isQuiet

section Quiet

variable {before middle after : Stage Handle Listener World}

theorem Quiet.of_deck (active : after.deck.active = before.deck.active)
    (running : after.deck.running = before.deck.running) (journal : after.journal = before.journal) :
    Quiet before after :=
  ⟨active, running, [], by rw [journal, List.append_nil], by simp⟩

theorem Quiet.trans (first : Quiet before middle) (second : Quiet middle after) :
    Quiet before after := by
  obtain ⟨active, running, entries, grown, idle⟩ := first
  obtain ⟨active', running', more, grown', idle'⟩ := second
  refine ⟨active'.trans active, running'.trans running, entries ++ more, ?_, ?_⟩
  · rw [grown', grown, List.append_assoc]
  · intro entry there
    exact (List.mem_append.1 there).elim (idle entry) (idle' entry)

theorem quiet_told (event : Event) : Quiet stage (stage.told around event) :=
  ⟨rfl, rfl, [.announced event], rfl, by simp [Entry.isQuiet]⟩

theorem quiet_stamped (id : Int) : Quiet stage (stage.stamped around id) :=
  ⟨rfl, rfl, [.touched id], rfl, by simp [Entry.isQuiet]⟩

theorem quiet_toldState (id : Int) : Quiet stage (stage.toldState around id) := by
  rcases found : stage.deck.bank.find? id with _ | slot
  · rw [toldState_of_missing around stage found]
    exact .of_deck rfl rfl rfl
  · rw [toldState_of_find? around stage found]
    exact quiet_told around stage _

theorem quiet_toldPlaying (id : Int) : Quiet stage (stage.toldPlaying around id) := by
  rw [toldPlaying_eq]
  exact (quiet_toldState around stage id).trans (quiet_told around _ _)

theorem quiet_saved (id : Int) : Quiet stage (stage.saved around id) := by
  obtain ⟨saves, grown, saved⟩ := journal_saved around stage id
  refine ⟨by rw [deck_saved], by rw [deck_saved], saves, grown, fun entry there => ?_⟩
  obtain ⟨slot, outcome, rfl, -⟩ := saved entry there
  rfl

theorem quiet_edited {α : Type} (change : Edit α) : Quiet stage (stage.edited change) := by
  refine ⟨rfl, rfl, _, rfl, fun entry there => ?_⟩
  obtain ⟨id, -, rfl⟩ := List.mem_map.1 there
  rfl

theorem quiet_refreshed (id : Int) : Quiet stage { stage with deck := stage.deck.refreshed id } :=
  .of_deck rfl rfl rfl

theorem quiet_toldStopped (ids : List Int) : Quiet stage (stage.toldStopped around ids) := by
  induction ids generalizing stage with
  | nil => exact .of_deck rfl rfl rfl
  | cons id rest ih =>
    have told := (quiet_stamped around stage id).trans (quiet_toldPlaying around _ id)
    exact told.trans (ih _)

theorem quiet_rewritten (id : Int) (code : String) :
    Quiet stage (stage.rewritten around id code) :=
  ⟨rfl, rfl, [.touched id], rfl, by simp [Entry.isQuiet]⟩

theorem quiet_toldParameter (id : Int) (p : Parameter) :
    Quiet stage (stage.toldParameter around id p) :=
  ((quiet_told around stage _).trans (quiet_toldState around _ id)).trans (quiet_saved around _ id)

end Quiet

/-- The answer to a refused program. -/
def refusals (program : String) (fault : Fault) : List Failure :=
  [.rejected fault.message program, .invalidCode fault.message program]

/-- How an operation leaves the composite: alone, gone because the new one did not start, replaced, or
stopped. -/
inductive Leaves (before : Stage Handle Listener World) :
    Except Failure Unit → Stage Handle Listener World → Prop where
  | spared {outcome : Except Failure Unit} {after : Stage Handle Listener World}
      (entries : List (Entry Handle))
      (grown : after.journal = before.journal ++ entries)
      (active : after.deck.active = before.deck.active)
      (running : after.deck.running = before.deck.running)
      (unheard : ∀ entry ∈ entries, entry.isHeard = false)
      (answered : ∀ program fault, .compiled program (.error fault) ∈ entries →
        ∃ failure ∈ refusals program fault, outcome = .error failure) :
      Leaves before outcome after
  | unstarted {failure : Failure} {after : Stage Handle Listener World}
      (entries : List (Entry Handle))
      (grown : after.journal = before.journal ++ entries)
      (active : after.deck.active = before.deck.active)
      (silent : after.deck.running = none)
      (accepted : ∀ entry ∈ entries, entry.isRefusal = false)
      (fault : Fault) (failed : lastStart entries = some (.error fault)) :
      Leaves before (.error failure) after
  | started {after : Stage Handle Listener World} (entries : List (Entry Handle))
      (grown : after.journal = before.journal ++ entries)
      (busy : after.deck.active ≠ []) (plays : after.deck.running.isSome)
      (accepted : ∀ entry ∈ entries, entry.isRefusal = false)
      (worked : lastStart entries = some (.ok ())) :
      Leaves before (.ok ()) after
  | silenced {after : Stage Handle Listener World} (entries : List (Entry Handle))
      (grown : after.journal = before.journal ++ entries)
      (idle : after.deck.active = []) (silent : after.deck.running = none)
      (accepted : ∀ entry ∈ entries, entry.isRefusal = false) :
      Leaves before (.ok ()) after

section Leaves

variable {before middle after : Stage Handle Listener World} {outcome : Except Failure Unit}

theorem Leaves.grown (leaves : Leaves before outcome after) :
    ∃ entries, after.journal = before.journal ++ entries := by
  cases leaves with
  | spared entries grown | unstarted entries grown | started entries grown
  | silenced entries grown => exact ⟨entries, grown⟩

theorem Quiet.leaves (quiet : Quiet before after) (outcome : Except Failure Unit) :
    Leaves before outcome after := by
  obtain ⟨active, running, entries, grown, idle⟩ := quiet
  refine .spared entries grown active running ?_ ?_
  · exact fun entry there => Entry.isHeard_of_isQuiet (idle entry there)
  · intro program fault there
    cases idle _ there

theorem Leaves.quietly (leaves : Leaves before outcome middle) (quiet : Quiet middle after) :
    Leaves before outcome after := by
  obtain ⟨active, running, more, grown, idle⟩ := quiet
  have unheard : ∀ entry ∈ more, entry.isHeard = false :=
    fun entry there => Entry.isHeard_of_isQuiet (idle entry there)
  have unrefused : ∀ entry ∈ more, entry.isRefusal = false :=
    fun entry there => Entry.isRefusal_of_isQuiet (idle entry there)
  -- nothing is started in what follows, so the last start is still the last
  have last : ∀ entries : List (Entry Handle), lastStart (entries ++ more) = lastStart entries := by
    intro entries
    rw [lastStart_append, lastStart_of_unheard unheard, Option.none_or]
  have join : ∀ {entries : List (Entry Handle)}, middle.journal = before.journal ++ entries →
      after.journal = before.journal ++ (entries ++ more) := by
    intro entries grown'
    rw [grown, grown', List.append_assoc]
  cases leaves with
  | spared entries grown same kept silent answered =>
    refine .spared (entries ++ more) (join grown) (active.trans same) (running.trans kept)
      (List.forall_mem_append.2 ⟨silent, unheard⟩) ?_
    intro program fault there
    rcases List.mem_append.1 there with there | there
    · exact answered program fault there
    · cases idle _ there
  | unstarted entries grown same silent accepted fault failed =>
    exact .unstarted (entries ++ more) (join grown) (active.trans same) (running.trans silent)
      (List.forall_mem_append.2 ⟨accepted, unrefused⟩) fault ((last entries).trans failed)
  | started entries grown busy plays accepted worked =>
    exact .started (entries ++ more) (join grown) (active ▸ busy) (running ▸ plays)
      (List.forall_mem_append.2 ⟨accepted, unrefused⟩) ((last entries).trans worked)
  | silenced entries grown idle silent accepted =>
    exact .silenced (entries ++ more) (join grown) (active.trans idle) (running.trans silent)
      (List.forall_mem_append.2 ⟨accepted, unrefused⟩)

theorem Quiet.then_leaves (quiet : Quiet before middle) (leaves : Leaves middle outcome after) :
    Leaves before outcome after := by
  obtain ⟨active, running, first, grown, idle⟩ := quiet
  have unrefused : ∀ entry ∈ first, entry.isRefusal = false :=
    fun entry there => Entry.isRefusal_of_isQuiet (idle entry there)
  have join : ∀ {entries : List (Entry Handle)}, after.journal = middle.journal ++ entries →
      after.journal = before.journal ++ (first ++ entries) := by
    intro entries grown'
    rw [grown', grown, List.append_assoc]
  cases leaves with
  | spared entries grown same kept unheard answered =>
    have unheard' : ∀ entry ∈ first, entry.isHeard = false :=
      fun entry there => Entry.isHeard_of_isQuiet (idle entry there)
    refine .spared (first ++ entries) (join grown) (same.trans active) (kept.trans running)
      (List.forall_mem_append.2 ⟨unheard', unheard⟩) ?_
    intro program fault there
    rcases List.mem_append.1 there with there | there
    · cases idle _ there
    · exact answered program fault there
  | unstarted entries grown same silent accepted fault failed =>
    refine .unstarted (first ++ entries) (join grown) (same.trans active) silent
      (List.forall_mem_append.2 ⟨unrefused, accepted⟩) fault ?_
    rw [lastStart_append, failed, Option.some_or]
  | started entries grown busy plays accepted worked =>
    refine .started (first ++ entries) (join grown) busy plays
      (List.forall_mem_append.2 ⟨unrefused, accepted⟩) ?_
    rw [lastStart_append, worked, Option.some_or]
  | silenced entries grown idle silent accepted =>
    exact .silenced (first ++ entries) (join grown) idle silent
      (List.forall_mem_append.2 ⟨unrefused, accepted⟩)

theorem Halts.unrefused {running : Option (Running Handle)} {stops : List (Entry Handle)}
    (halts : Halts running stops) : ∀ entry ∈ stops, entry.isRefusal = false :=
  fun entry there => Entry.isRefusal_of_isStop (halts.isStop entry there)

variable {ended : Stage Handle Listener World}

/-- After a rebuild that failed, the slots are put back as they were before. -/
theorem leaves_of_failed {failure : Failure} (present : middle.deck.Present)
    (rebuilt : perform (rebuild around) middle = (.error failure, ended))
    (begun : middle.journal = before.journal) (playing : middle.deck.running = before.deck.running)
    (journal : after.journal = ended.journal) (running : after.deck.running = ended.deck.running)
    (active : after.deck.active = before.deck.active) : Leaves before (.error failure) after := by
  obtain ⟨entries, grown, rebuilds⟩ := rebuilds_of_perform around middle present rebuilt
  rw [begun, ← journal] at grown
  generalize final : ended.deck = deck at rebuilds running
  cases rebuilds with
  | refused fault busy =>
    -- the old composite was not stopped yet
    refine .spared _ grown active (running.trans playing) (List.forall_mem_singleton.2 rfl) ?_
    intro program fault' there
    cases List.mem_singleton.1 there
    exact ⟨_, List.mem_cons_self, rfl⟩
  | unstarted handle fault busy stopped =>
    refine .unstarted _ grown active running (List.forall_mem_append.2
      ⟨List.forall_mem_cons.2 ⟨rfl, stopped.unrefused⟩, List.forall_mem_singleton.2 rfl⟩) fault ?_
    rw [lastStart_append]
    rfl

theorem active_rebuilt (present : stage.deck.Present)
    (rebuilt : perform (rebuild around) stage = (outcome, ended)) :
    ended.deck.active = stage.deck.active :=
  congrArg Prod.fst (standing_rebuilt around stage present rebuilt)

theorem leaves_of_rebuilt (present : middle.deck.Present)
    (rebuilt : perform (rebuild around) middle = (.ok (), ended))
    (begun : middle.journal = before.journal) : Leaves before (.ok ()) ended := by
  have active := active_rebuilt around middle present rebuilt
  obtain ⟨entries, grown, rebuilds⟩ := rebuilds_of_perform around middle present rebuilt
  rw [begun] at grown
  generalize final : ended.deck = deck at rebuilds active
  cases rebuilds with
  | silenced idle stopped =>
    exact .silenced _ grown (final ▸ active.trans idle) (final ▸ rfl)
      (List.forall_mem_append.2 ⟨stopped.unrefused, List.forall_mem_singleton.2 rfl⟩)
  | started handle busy stopped =>
    refine .started _ grown (final ▸ active.symm ▸ busy) (final ▸ rfl)
      (List.forall_mem_append.2 ⟨List.forall_mem_cons.2 ⟨rfl, stopped.unrefused⟩,
        List.forall_mem_cons.2 ⟨rfl, List.forall_mem_singleton.2 rfl⟩⟩) ?_
    rw [lastStart_append]
    rfl

end Leaves

section Operations

variable {outcome : Except Failure Unit} {after : Stage Handle Listener World} {id : Int}

theorem Starts.leaves (present : stage.deck.Present)
    (starts : Starts around stage id outcome after) : Leaves stage outcome after := by
  cases starts with
  | missing => exact (quiet_told around stage _).leaves _
  | playing => exact (Quiet.of_deck rfl rfl rfl).leaves _
  | @failed failure ended loaded idle rebuilt =>
    have active := active_rebuilt around _ (present.joined loaded) rebuilt
    -- it joined at the end of the list, so taking it out restores the list
    have left : (ended.deck.left id).active = stage.deck.active := by
      simp [Deck.left, active, Deck.joined, List.erase_append_right _ idle]
    have leaves : Leaves stage (.error failure) { ended with deck := ended.deck.left id } :=
      leaves_of_failed around (present.joined loaded) rebuilt rfl rfl rfl rfl left
    exact leaves.quietly (quiet_told around _ _)
  | @started ended loaded idle rebuilt =>
    have leaves : Leaves stage (.ok ()) ended :=
      leaves_of_rebuilt around (present.joined loaded) rebuilt rfl
    have told := (quiet_stamped around ended id).trans (quiet_toldPlaying around _ id)
    exact leaves.quietly (told.trans (quiet_saved around _ id))

theorem Stops.leaves (present : stage.deck.Present)
    (stops : Stops around stage id outcome after) : Leaves stage outcome after := by
  cases stops with
  | missing => exact (quiet_told around stage _).leaves _
  | idle => exact (Quiet.of_deck rfl rfl rfl).leaves _
  | @failed failure ended loaded active rebuilt =>
    have leaves : Leaves stage (.error failure)
        { ended with deck := ended.deck.putBack id stage.deck.active } :=
      leaves_of_failed around (present.left id) rebuilt rfl rfl rfl rfl rfl
    exact leaves.quietly (quiet_told around _ _)
  | @stopped ended loaded active rebuilt =>
    have leaves : Leaves stage (.ok ()) ended :=
      leaves_of_rebuilt around (present.left id) rebuilt rfl
    exact leaves.quietly ((quiet_stamped around ended id).trans (quiet_toldPlaying around _ id))

theorem leaves_of_toggle (id : Int) (present : stage.deck.Present)
    (performed : perform (toggle around id) stage = (outcome, after)) :
    Leaves stage outcome after := by
  rw [perform_toggle] at performed
  split at performed
  · have stops := ends_of_perform (perform_stop around stage id present) performed
    exact stops.leaves around stage present
  · have starts := ends_of_perform (perform_start around stage id present) performed
    exact starts.leaves around stage present

theorem LiveEdits.leaves {code : String} (present : stage.deck.Present)
    (edits : LiveEdits around stage id code outcome after) : Leaves stage outcome after := by
  -- compiling the code alone is not heard
  have tried : ∀ (slot : Slot) (handle : Handle) (world : World), Quiet stage
      ⟨stage.deck.recoded id code { slot with code }.refreshed.parameters, world,
        stage.journal ++ [.compiled { slot with code }.text (.ok handle)]⟩ :=
    fun slot handle world => ⟨rfl, rfl, _, rfl, List.forall_mem_singleton.2 rfl⟩
  cases edits with
  | missing | idle => exact (quiet_told around stage _).leaves _
  | @refused slot fault world found active compiled =>
    -- the code alone was refused, before anything was rebuilt
    have refused : Leaves stage (.error (.invalidCode fault.message { slot with code }.text))
        { stage with
          world
          journal := stage.journal ++ [.compiled { slot with code }.text (.error fault)] } := by
      refine .spared [.compiled { slot with code }.text (.error fault)] rfl rfl rfl
        (List.forall_mem_singleton.2 rfl) ?_
      intro program fault' there
      cases List.mem_singleton.1 there
      exact ⟨_, List.mem_cons_of_mem _ List.mem_cons_self, rfl⟩
    exact refused.quietly (quiet_told around _ _)
  | @failed slot handle world failure ended found active compiled rebuilt =>
    have present := present.recoded id code { slot with code }.refreshed.parameters
    have active := active_rebuilt around _ present rebuilt
    have leaves : Leaves _ (.error failure)
        { ended with deck := ended.deck.recoded id slot.code slot.parameters } :=
      leaves_of_failed around present rebuilt rfl rfl rfl rfl active
    exact ((tried slot handle world).then_leaves leaves).quietly (quiet_told around _ _)
  | @edited slot handle world ended found active compiled rebuilt =>
    have present := present.recoded id code { slot with code }.refreshed.parameters
    have leaves := leaves_of_rebuilt around present rebuilt rfl
    have told := (quiet_stamped around ended id).trans (quiet_toldState around _ id)
    exact ((tried slot handle world).then_leaves leaves).quietly
      (told.trans (quiet_saved around _ id))

theorem Follows.leaves {p : Parameter} {rebuilds : Bool} (present : stage.deck.Present)
    (follows : Follows around stage id p rebuilds outcome after) : Leaves stage outcome after := by
  have told := quiet_toldParameter around stage id p
  have still : (stage.toldParameter around id p).deck.Present := by rwa [deck_toldParameter]
  cases follows with
  | quiet => exact told.leaves _
  | failed heard active rebuilt =>
    have active := active_rebuilt around _ still rebuilt
    have leaves := leaves_of_failed around still rebuilt rfl rfl rfl rfl active
    exact (told.then_leaves leaves).quietly (quiet_told around _ _)
  | rebuilt heard active rebuilt =>
    exact told.then_leaves (leaves_of_rebuilt around still rebuilt rfl)

theorem Adjusts.leaves {rebuilds : Bool} {change : Float → Edit Parameter}
    {outcome : Except Failure Parameter} (keeps : ∀ now, Keeps flags (change now))
    (present : stage.deck.Present)
    (adjusts : Adjusts around stage id rebuilds change outcome after) :
    Leaves stage (outcome.map fun _ => ()) after := by
  have edits : Quiet stage (stage.adjusted around id change) :=
    (quiet_refreshed stage id).trans (quiet_edited _ _)
  cases adjusts with
  | missing => exact (quiet_told around stage _).leaves _
  | refused => exact (edits.trans (quiet_told around _ _)).leaves _
  | rejected => exact edits.leaves _
  | @changed p result _ loaded changed follows =>
    have still := present_of_standing present (standing_adjusted around stage id keeps)
    have ends := ends_of_perform (perform_parameterChanged around _ id p rebuilds still) follows
    have same : ((result.map fun _ => p).map fun _ => ()) = result := by
      rcases result with failure | ⟨⟩ <;> rfl
    rw [same]
    exact edits.then_leaves (ends.leaves around _ still)

theorem Turns.leaves {knob ticks : Int} (present : stage.deck.Present)
    (turns : Turns around stage knob ticks outcome after) : Leaves stage outcome after := by
  have edits := quiet_edited stage (stage.turn around knob ticks)
  cases turns with
  | refused | idle => exact edits.leaves _
  | @turned turn _ _ driven follows =>
    have still := present_of_standing present (standing_turned around stage knob ticks)
    have ends := ends_of_perform
      (perform_parameterChanged around _ turn.slot turn.parameter true still) follows
    exact edits.then_leaves (ends.leaves around _ still)

theorem leaves_of_stopAll (performed : perform (stopAll around) stage = (outcome, after)) :
    Leaves stage outcome after := by
  obtain ⟨world, stops, hushed, halts, stopped⟩ := perform_stopAll around stage
  rw [stopped, Prod.mk.injEq] at performed
  obtain ⟨rfl, rfl⟩ := performed
  let silent : Stage Handle Listener World :=
    ⟨stage.deck.silent, world, stage.journal ++ stops ++ [.hushed hushed]⟩
  have silenced : Leaves stage (.ok ()) silent :=
    .silenced (stops ++ [.hushed hushed]) (by simp [silent]) rfl rfl
      (List.forall_mem_append.2 ⟨halts.unrefused, List.forall_mem_singleton.2 rfl⟩)
  exact silenced.quietly ((quiet_toldStopped around silent _).trans (quiet_told around _ _))

theorem leaves_of_changeParameter {rebuilds : Bool} {change : Float → Edit Parameter}
    (keeps : ∀ now, Keeps flags (change now)) (present : stage.deck.Present)
    (performed : perform (discard (changeParameter around id rebuilds change)) stage =
      (outcome, after)) : Leaves stage outcome after := by
  rw [perform_discard, Prod.mk.injEq] at performed
  obtain ⟨rfl, rfl⟩ := performed
  have ends := perform_ends (perform_changeParameter around stage id rebuilds change)
  exact ends.leaves around stage keeps present

theorem Selects.quiet {selected : Option Int}
    (selects : Selects around stage selected outcome after) : Quiet stage after := by
  cases selects with
  | missing => exact quiet_told around stage _
  | selected => exact .of_deck rfl rfl rfl

theorem leaves_of_pressButton {pressed : Bool} (placed : stage.deck.Placed)
    (performed : perform (pressButton around id pressed) stage = (outcome, after)) :
    Leaves stage outcome after := by
  cases pressed with
  | false =>
    cases performed
    exact (Quiet.of_deck rfl rfl rfl).leaves _
  | true =>
    rw [perform_pressButton] at performed
    have selects := perform_ends (perform_select around stage (some id))
    have moved := selects.moved around stage
    have quiet := selects.quiet around stage
    rcases selected : perform (select around (some id)) stage with ⟨failure | ⟨⟩, chosen⟩
    all_goals
      rw [selected] at moved quiet
      simp only [selected] at performed
    · cases performed
      exact quiet.leaves _
    · exact quiet.then_leaves (leaves_of_toggle around _ id (placed.moved moved).present performed)

theorem leaves_of_parameters (performed : perform (discard (parameters around id)) stage =
    (outcome, after)) : Leaves stage outcome after := by
  rw [perform_discard, Prod.mk.injEq] at performed
  obtain ⟨rfl, rfl⟩ := performed
  by_cases loaded : id ∈ stage.deck.bank.ids
  · obtain ⟨ps, refreshed⟩ := perform_parameters_of_mem around stage id loaded
    rw [refreshed]
    exact (quiet_refreshed stage id).leaves _
  · rw [perform_parameters_of_notMem around stage id loaded]
    exact (quiet_told around stage _).leaves _

end Operations

end PatternDeck.Stage

namespace PatternDeck

/-- Operations that rebuild once at most and keep the library. -/
def Operation.rebuildsOnce : Operation → Bool
  | updatePatternCode .. | loadLibrary .. => false
  | _ => true

namespace Stage

variable {Handle Listener World : Type} (around : Surroundings Handle Listener World)
variable (stage : Stage Handle Listener World)
variable {outcome : Except Failure Unit} {after : Stage Handle Listener World}

theorem leaves_of_operation {operation : Operation} (once : operation.rebuildsOnce)
    (placed : stage.deck.Placed)
    (performed : perform (operation.act around) stage = (outcome, after)) :
    Leaves stage outcome after := by
  have present := placed.present
  cases operation with
  | start id =>
    exact (ends_of_perform (perform_start around stage id present) performed).leaves
      around stage present
  | stop id =>
    exact (ends_of_perform (perform_stop around stage id present) performed).leaves
      around stage present
  | toggle id => exact leaves_of_toggle around stage id present performed
  | stopAll => exact leaves_of_stopAll around stage performed
  | updateLiveCode id code =>
    exact (ends_of_perform (perform_updateLiveCode around stage id code present) performed).leaves
      around stage present
  | select id =>
    exact ((ends_of_perform (perform_select around stage id) performed).quiet around stage).leaves _
  | parameters id => exact leaves_of_parameters around stage performed
  | assignParameter id name knob =>
    exact leaves_of_changeParameter around stage
      (fun now => (unseen_flags id).keeps_assign now name knob) present performed
  | setParameterRange id name lo hi =>
    exact leaves_of_changeParameter around stage
      (fun now => (unseen_flags id).keeps_setRange now name lo hi) present performed
  | setParameterValue id name value =>
    exact leaves_of_changeParameter around stage
      (fun now => (unseen_flags id).keeps_setValue now name value) present performed
  | addCatalogParameter id name knob =>
    rw [Operation.act, perform_discard, perform_addCatalogParameter, ← perform_discard] at performed
    exact leaves_of_changeParameter around stage
      (fun now => (unseen_flags id).keeps_addFromCatalog stage.deck.catalog now name knob) present
      performed
  | pressButton id pressed => exact leaves_of_pressButton around stage placed performed
  | turnKnob knob ticks =>
    exact (ends_of_perform (perform_turnKnob around stage knob ticks) performed).leaves
      around stage present
  | updatePatternCode | loadLibrary => cases once

end Stage

end PatternDeck
