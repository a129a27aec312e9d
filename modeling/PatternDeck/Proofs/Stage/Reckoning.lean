import PatternDeck.Proofs.Stage.Account
import PatternDeck.Proofs.Stage.Adjustment

/-!
No change is silent: how every slot fares in changes of parameters, and from there in every operation
but the load of a library.
-/
namespace PatternDeck

namespace Stage

open Act

variable {Handle Listener World : Type} (around : Surroundings Handle Listener World)
variable (stage : Stage Handle Listener World)

section Parameter

variable {origin : Deck Handle Listener} {operation : Operation} {p : Parameter} {rebuilds : Bool}
variable {outcome : Except Failure Unit} {after : Stage Handle Listener World} {id : Int}

/-- A change of a parameter that is made is noted, told and saved, whatever the rebuild comes to. -/
theorem accounts_of_changeParameter {change : Float → Edit Parameter}
    (comes : ∀ bank slot, slot.id = id → slot.id ∈ bank.ids → ∀ now,
      Binding.Comes bank slot [] (change now) (slot.Tidy now))
    (keeps : ∀ now, Keeps flags (change now)) (other : operation.starts? = none)
    (present : stage.deck.Present)
    (settled : ∀ failure, outcome = .error failure → failure.kind = .evaluation)
    (performed : perform (discard (changeParameter around id rebuilds change)) stage =
      (outcome, after)) : Accounts around origin operation outcome stage after := by
  obtain ⟨slot, p, tuned, noted, found, tidy, there, journal, confined, still, follows⟩ :=
    follows_of_changeParameter around stage comes (fun tidy => tidy) keeps present settled performed
  have loaded : id ∈ stage.deck.bank.ids := Bank.isSome_find?.1 (found ▸ rfl)
  have whole := confined.trans (follows.confined around _ still)
  refine whole.accounts_of (absurd loaded) fun old found' => ?_
  rw [found] at found'
  cases found'
  obtain rfl := Bank.id_of_find? found
  obtain ⟨new, entries, found', grown, gains, current, filed⟩ :=
    follows.known around _ still there (tidy.seen p rfl)
  have names : slot.parameters.names ⊆ tuned.parameters.names :=
    fun name there => tidy.names ((Slot.Gains.refreshed slot).names there)
  have filed : slot.Filed around (noted.map .touched ++ entries) new :=
    filed.after_mute names (mute_touched noted)
  refine ⟨new, noted.map .touched ++ entries, found', by rw [grown, journal, List.append_assoc], ?_⟩
  rcases tidy.done p rfl with ⟨same, -⟩ | ⟨member, stamped⟩
  · exact .viewed ((Slot.Gains.refreshed slot).trans (same.trans gains)) filed
  · refine .edited (by simp [other]) ⟨?_, ⟨stage.world, ?_⟩, (current.of_subset names).after _⟩ filed
    · rw [gains.id_eq, tidy.id_eq]
      exact List.mem_append_left _ (List.mem_map_of_mem member)
    · rw [gains.modified, stamped]

theorem Refused.accounts {failure : Failure} {change : Slot → Slot} {noted : List Int}
    (refused : stage.Refused id failure change noted after) (own : ∀ other ∈ noted, other = id)
    (loaded : noted ⊆ stage.deck.bank.ids)
    (fares : ∀ old entries, stage.deck.bank.find? id = some old →
      after.journal = stage.journal ++ entries → (∀ entry ∈ entries, entry.Mute id) →
      (noted = [] → ∀ entry ∈ entries, entry.subject? ≠ some id) →
      old.Fares around origin operation outcome entries (change old)) :
    Accounts around origin operation outcome stage after := by
  let report : List (Entry Handle) :=
    if failure.isOwn then [.announced (.error (some id) failure)] else []
  have reports : ∀ entry ∈ report, entry.subject? = none := by
    intro entry there
    simp only [report] at there
    split at there
    · rw [List.mem_singleton.1 there]
      rfl
    · cases there
  have journal : after.journal = stage.journal ++ (noted.map .touched ++ report) := by
    rw [refused.journal, List.append_assoc]
  have within : Within stage.deck.bank.ids (noted.map Entry.touched ++ report) := by
    refine .append (within_touched loaded) fun entry there id about => ?_
    rw [reports entry there] at about
    cases about
  refine ⟨_, journal, within, fun other old found => ?_⟩
  by_cases same : other = id
  · subst same
    refine ⟨change old, by rw [refused.slot, found]; rfl, fares old _ found journal ?_ ?_⟩
    · refine List.forall_mem_append.2 ⟨mute_touched noted, fun entry there => ?_⟩
      exact Entry.mute_of_other (by simp [reports entry there])
    · rintro rfl entry there
      simp [reports entry (by simpa using there)]
  · refine ⟨old, by rw [refused.others other same, found], .passed (.refl old) ?_⟩
    obtain rfl := Bank.id_of_find? found
    refine List.forall_mem_append.2 ⟨?_, fun entry there => by simp [reports entry there]⟩
    exact (within_touched (List.Subset.refl noted)).subject?_ne fun there => same (own _ there)

theorem Refuses.accounts {failure : Failure} (asked : operation.tunes? = some id)
    (refuses : Refuses around stage operation id failure after) :
    Accounts around stage.deck operation (.error failure) stage after := by
  cases refuses with
  | spared whole refused =>
    refine refused.accounts around stage (by simp) (by simp) fun old entries found _ _ silent => ?_
    obtain rfl := Bank.id_of_find? found
    exact .passed (.refreshed old) (silent rfl)
  | unseeded appended found refusal refused =>
    refine refused.accounts around stage (by simp) (by simp) fun old entries found' _ mute _ => ?_
    obtain rfl := Bank.id_of_find? found'
    have foreign : failure.isOwn = false := by simp [Failure.isOwn, Slot.kind_of_seeded refusal]
    refine .halfDone asked appended rfl foreign rfl rfl ?_ mute
    exact old.parameters.toList_prefix_merge _
  | @unbound entry slot parameters index appended found seeded knob refused =>
    have loaded : id ∈ stage.deck.bank.ids := Bank.isSome_find?.1 (found ▸ rfl)
    refine refused.accounts around stage (by simp) (List.cons_subset.2 ⟨loaded, List.nil_subset _⟩)
      fun old entries found' _ mute _ => ?_
    rw [found] at found'
    cases found'
    obtain rfl := Bank.id_of_find? found
    refine .halfDone asked appended rfl (by rw [knob]; rfl) rfl rfl ?_ mute
    have merged := slot.parameters.toList_prefix_merge (Program.detect slot.code)
    rcases slot.refreshed.seeded_eq_ok seeded with ⟨-, rfl⟩ | ⟨p, -, rfl⟩
    · exact merged
    · exact merged.trans (Parameters.toList_prefix_add _ p)

/-- Every change of a parameter by its name, whether it is made or refused. -/
theorem accounts_of_tuning (asked : operation.tunes? = some id) (present : stage.deck.Present)
    (performed : perform (operation.act around) stage = (outcome, after)) :
    Accounts around stage.deck operation outcome stage after := by
  by_cases settled : ∀ failure, outcome = .error failure → failure.kind = .evaluation
  · cases operation with
    | assignParameter id name knob =>
      refine accounts_of_changeParameter around stage ?_
        (fun now => (unseen_flags id).keeps_assign now name knob) rfl present settled performed
      rintro bank slot rfl member now
      apply (Binding.perform_assign member [] now name knob).mono
      exact Slot.tidy_of_binding
    | setParameterRange id name lo hi =>
      refine accounts_of_changeParameter around stage ?_
        (fun now => (unseen_flags id).keeps_setRange now name lo hi) rfl present settled performed
      rintro bank slot rfl member now
      apply (Binding.perform_setRange member [] now name lo hi).mono
      exact Slot.tidy_of_ranging
    | setParameterValue id name value =>
      refine accounts_of_changeParameter around stage ?_
        (fun now => (unseen_flags id).keeps_setValue now name value) rfl present settled performed
      rintro bank slot rfl member now
      apply (Binding.perform_setValue member [] now name value).mono
      exact Slot.tidy_of_valuing
    | addCatalogParameter id name knob =>
      rw [Operation.act, perform_discard, perform_addCatalogParameter, ← perform_discard] at performed
      refine accounts_of_changeParameter around stage ?_
        (fun now => (unseen_flags id).keeps_addFromCatalog stage.deck.catalog now name knob) rfl present
        settled performed
      rintro bank slot rfl member now
      apply (Binding.perform_addFromCatalog member [] now name stage.deck.catalog knob).mono
      exact fun adds => adds.tidy
    | start | stop | toggle | stopAll | updateLiveCode | updatePatternCode | select | parameters
    | pressButton | turnKnob | loadLibrary => cases asked
  · push Not at settled
    obtain ⟨failure, failed, other⟩ := settled
    rw [failed] at performed ⊢
    exact (refuses_of_operation around stage present asked other performed).accounts around stage asked

section Knob

variable {knob ticks : Int}

theorem Turns.accounts (other : operation.starts? = none) (present : stage.deck.Present)
    (turns : Turns around stage knob ticks outcome after) :
    Accounts around origin operation outcome stage after := by
  have still := present_of_standing present (standing_turned around stage knob ticks)
  rcases perform_edit_turn around stage knob ticks with
    ⟨unmoved, -, same⟩ | ⟨slot, p, new, driven', -, moved, found, journal, confined⟩
  · cases turns with
    | refused | idle =>
      rw [same]
      exact Confined.refl.accounts
    | turned driven => exact absurd driven (unmoved _)
  · cases turns with
    | refused refusal =>
      rw [moved] at refusal
      cases refusal
    | idle undriven =>
      rw [moved] at undriven
      cases undriven
    | turned driven follows =>
      rw [moved] at driven
      cases driven
      have follows := ends_of_perform
        (perform_parameterChanged around _ slot.id { p with value := new } true still) follows
      have confined := confined.trans (follows.confined around _ still)
      have before' := Selection.find?_of_driven? driven'
      have loaded : slot.id ∈ stage.deck.bank.ids := Bank.isSome_find?.1 (before' ▸ rfl)
      refine confined.accounts_of (absurd loaded) fun old before => ?_
      obtain ⟨-, -, -, first⟩ := Selection.driven?_eq_some driven'
      have known : p.name ∈ slot.parameters.names :=
        List.mem_map_of_mem (List.mem_of_find?_eq_some first)
      have names : (slot.parameters.modify p.name fun p => { p with value := new }).names =
        slot.parameters.names := Parameters.names_modify _ _ _
      have kept := fun name (there : name ∈ slot.parameters.names) => names.symm ▸ there
      obtain ⟨changed, entries, found', grown, gains, current, filed⟩ :=
        follows.known around _ still found (names.symm ▸ known)
      rw [before] at before'
      cases before'
      refine ⟨changed, .touched slot.id :: entries, found', ?_, .edited (by simp [other])
        ⟨?_, ⟨stage.world, ?_⟩, ?_⟩ ?_⟩
      · rw [grown, journal, List.append_assoc]
        rfl
      · rw [gains.id_eq]
        exact List.mem_cons_self
      · exact gains.modified
      · exact (current.of_subset kept).after [_]
      · exact filed.after_mute kept (mute_touched [slot.id])

end Knob

end Parameter

section Operation

variable {operation : Operation} {outcome : Except Failure Unit} {after : Stage Handle Listener World}

theorem accounts_of_pressButton {id : Int} {pressed : Bool} (placed : stage.deck.Placed)
    (marked : stage.deck.Marked)
    (performed : perform (pressButton around id pressed) stage = (outcome, after)) :
    Accounts around stage.deck (.pressButton id pressed) outcome stage after := by
  cases pressed with
  | false =>
    cases performed
    exact Confined.refl.accounts
  | true =>
    rw [perform_pressButton] at performed
    have selects := perform_ends (perform_select around stage (some id))
    rcases selected : perform (select around (some id)) stage with ⟨failure | ⟨⟩, middle⟩
    all_goals rw [selected] at performed selects
    · cases performed
      exact (selects.confined around stage).accounts
    · have moved := selects.moved around stage
      have same : stage.deck.active = middle.deck.active := by
        cases selects
        rfl
      have accounts : Accounts around stage.deck (.pressButton id true) outcome middle after :=
        accounts_of_toggle around middle rfl same (placed.moved moved).present
          (marked.moved placed moved) performed
      -- a selection does not show in the slots, so the toggle tells how they fare
      cases selects
      exact accounts

theorem accounts_of_parameters {id : Int}
    (performed : perform (discard (parameters around id)) stage = (outcome, after)) :
    Accounts around stage.deck operation outcome stage after := by
  rw [perform_discard, Prod.mk.injEq] at performed
  obtain ⟨-, rfl⟩ := performed
  by_cases loaded : id ∈ stage.deck.bank.ids
  · obtain ⟨ps, performed⟩ := perform_parameters_of_mem around stage id loaded
    rw [performed]
    have refreshed : Confined [id] stage { stage with deck := stage.deck.refreshed id } :=
      .of_modify rfl rfl
    refine refreshed.accounts_of (absurd loaded) fun old found => ?_
    obtain rfl := Bank.id_of_find? found
    exact ⟨old.refreshed, [], Bank.find?_modify_self found Slot.refreshed,
      (List.append_nil _).symm, .passed (.refreshed old) (by simp)⟩
  · rw [perform_parameters_of_notMem around stage id loaded]
    exact Confined.accounts (confined_told around stage (by simp [Entry.subject?]))

/-- How every slot fares in every operation but the load of a library. -/
theorem accounts_of_operation (placed : stage.deck.Placed) (marked : stage.deck.Marked)
    (stays : ∀ slots name version, operation ≠ .loadLibrary slots name version)
    (performed : perform (operation.act around) stage = (outcome, after)) :
    Accounts around stage.deck operation outcome stage after := by
  have present := placed.present
  cases operation with
  | start id =>
    have starts := ends_of_perform (perform_start around stage id present) performed
    exact starts.accounts around stage rfl rfl present
  | stop id =>
    have stops := ends_of_perform (perform_stop around stage id present) performed
    exact stops.accounts around stage present marked
  | toggle id => exact accounts_of_toggle around stage rfl rfl present marked performed
  | stopAll => exact accounts_of_stopAll around stage performed
  | updateLiveCode id code =>
    have edits := ends_of_perform (perform_updateLiveCode around stage id code present) performed
    exact edits.accounts around stage rfl present
  | updatePatternCode id code =>
    have edits := ends_of_perform (perform_updatePatternCode around stage id code present) performed
    exact edits.accounts around stage rfl placed marked
  | select id =>
    have selects := ends_of_perform (perform_select around stage id) performed
    exact (selects.confined around stage).accounts
  | parameters id => exact accounts_of_parameters around stage performed
  | assignParameter | setParameterRange | setParameterValue | addCatalogParameter =>
    exact accounts_of_tuning around stage rfl present performed
  | pressButton id pressed => exact accounts_of_pressButton around stage placed marked performed
  | turnKnob knob ticks =>
    have turns := ends_of_perform (perform_turnKnob around stage knob ticks) performed
    exact turns.accounts around stage rfl present
  | loadLibrary slots name version => exact absurd rfl (stays slots name version)

variable {around} {stage}

/-- The same, of what a step wrote down. -/
theorem accounts_of_step {step : Step Handle Listener World} (placed : step.before.deck.Placed)
    (marked : step.before.deck.Marked)
    (performed : perform (step.operation.act around) step.before = (step.outcome, step.after))
    (stays : ∀ slots name version, step.operation ≠ .loadLibrary slots name version) :
    step.after.journal = step.before.journal ++ step.entries ∧
      Within step.before.deck.bank.ids step.entries ∧
      ∀ id old, step.before.deck.bank.find? id = some old →
        ∃ new, step.after.deck.bank.find? id = some new ∧
          old.Fares around step.before.deck step.operation step.outcome step.entries new := by
  obtain ⟨entries, grown, accounts⟩ :=
    accounts_of_operation around step.before placed marked stays performed
  rw [Step.entries_eq grown]
  exact ⟨grown, accounts⟩

end Operation

end Stage

end PatternDeck
