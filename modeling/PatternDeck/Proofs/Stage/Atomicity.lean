import PatternDeck.Catalog.Builtin
import PatternDeck.Proofs.Stage.Evolution

/-!
What a refused change of a parameter leaves behind. Binding a knob and setting a range or a value
leave the slot as a look at its parameters would. So does adding from the catalog, unless the entry's
fragment has to be put after the code: that is done before the entry's range and the knob are looked
at, and stays.
-/
namespace PatternDeck

/-- The slot in which an operation changes a parameter that is named. -/
def Operation.tunes? : Operation → Option Int
  | assignParameter id .. | setParameterRange id .. | setParameterValue id ..
  | addCatalogParameter id .. => some id
  | _ => none

/-- The entry whose fragment an operation has to put after the code of a slot. -/
def Operation.appends? {Handle Listener : Type} (operation : Operation)
    (deck : Deck Handle Listener) : Option Catalog.Entry :=
  match operation with
  | addCatalogParameter id name _ => do
    let entry ← deck.catalog.find? name
    let slot ← deck.bank.find? id
    if entry.name ∈ Program.detect slot.code then none else some entry
  | _ => none

theorem Operation.appends?_addCatalogParameter {Handle Listener : Type}
    {deck : Deck Handle Listener} {id : Int} {name : String} {entry : Catalog.Entry} {slot : Slot}
    (listed : deck.catalog.find? name = some entry) (found : deck.bank.find? id = some slot)
    (knob : Option Int) : (addCatalogParameter id name knob).appends? deck =
      if entry.name ∈ Program.detect slot.code then none else some entry := by
  simp [appends?, listed, found]

namespace Slot

variable {slot after : Slot} {now : Float} {name : String} {outcome : Except Failure Parameter}
variable {touched : List Int} {failure : Failure}

/-- A change that is refused is not begun. -/
theorem Tunes.unchanged {change : Except Failure (Parameters → Parameters)}
    (tunes : slot.Tunes now name change (.error failure) after touched) :
    after = slot ∧ touched = [] := by
  cases tunes <;> exact ⟨rfl, rfl⟩

/-- A parameter that is there can only be refused a knob that is not. -/
theorem Binds.refused {knob : Option Int} (known : name ∈ slot.parameters.names)
    (binds : slot.Binds now name knob (.error failure) after touched) :
    after = slot ∧ touched = [] ∧ ∃ index, failure = .knobOutOfRange index := by
  cases binds with
  | bound given tunes =>
    refine ⟨tunes.unchanged.1, tunes.unchanged.2, ?_⟩
    -- the name is known, so only the knob is left to refuse
    cases tunes with
    | refused refusal =>
      rcases knob with _ | index
      · cases refusal
      · simp only [Binding.binding] at refusal
        split at refusal
        · cases refusal
          exact ⟨index, rfl⟩
        · cases refusal
    | unknown _ unknown => exact absurd known unknown

end Slot

namespace Stage

open Act

variable {Handle Listener World : Type} (around : Surroundings Handle Listener World)
variable (stage : Stage Handle Listener World)
variable {after : Stage Handle Listener World} {failure : Failure} {id : Int}

/-- All that a refusal did: it changed one slot, noted when, and told of the failure if it is the
deck's own. -/
structure Refused (before : Stage Handle Listener World) (id : Int) (failure : Failure)
    (change : Slot → Slot) (noted : List Int) (after : Stage Handle Listener World) : Prop where
  slot : after.deck.bank.find? id = (before.deck.bank.find? id).map change
  others : ∀ other, other ≠ id → after.deck.bank.find? other = before.deck.bank.find? other
  deck : { after.deck with bank := before.deck.bank } = before.deck
  journal : after.journal = before.journal ++ noted.map .touched ++
    if failure.isOwn then [.announced (.error (some id) failure)] else []

theorem kind_of_rebuilt (present : stage.deck.Present)
    (rebuilt : perform (rebuild around) stage = (.error failure, after)) :
    failure.kind = .evaluation := by
  obtain ⟨entries, -, rebuilds⟩ := rebuilds_of_perform around stage present rebuilt
  generalize after.deck = deck at rebuilds
  cases rebuilds <;> rfl

/-- The stage as an edit left it, once it is told why the edit was refused. -/
theorem refused_of_edit {slot changed : Slot} {noted : List Int} {change : Float → Edit Parameter}
    (found : stage.deck.bank.find? slot.id = some slot) (same : changed.id = slot.id)
    (performed : perform (change (around.clock stage.world))
      { bank := (stage.deck.refreshed slot.id).bank } =
        (.error failure, .of (stage.deck.refreshed slot.id).bank changed noted))
    (told : after = if failure.isOwn then
        (stage.adjusted around slot.id change).told around (.error (some slot.id) failure)
      else stage.adjusted around slot.id change) :
    stage.Refused slot.id failure (fun _ => changed) noted after := by
  have bank : after.deck.bank = (stage.deck.refreshed slot.id).bank.put changed := by
    rw [told]
    split
    all_goals simp only [deck_told, adjusted, edited, performed, Draft.of]
  have loaded : changed.id ∈ (stage.deck.refreshed slot.id).bank.ids := by
    rw [same, Deck.refreshed, Bank.ids_modify]
    exact Bank.isSome_find?.1 (found ▸ rfl)
  have there := Bank.find?_put_self loaded
  rw [same] at there
  constructor
  · rw [bank, found, there]
    rfl
  · intro other differs
    rw [bank, Bank.find?_put_ne _ _ (same ▸ differs), Deck.refreshed, Bank.find?_modify_ne _ differs]
  · rw [told]
    split <;> rfl
  · rw [told]
    split
    all_goals simp [journal_told, adjusted, edited, performed, Draft.of]

section Adjust

variable {rebuilds : Bool} {change : Float → Edit Parameter}

/-- A change of a parameter that fails before the rebuild was refused: the slot is missing, or the edit
failed. -/
theorem Adjusts.told_of_error {outcome : Except Failure Parameter} (present : stage.deck.Present)
    (keeps : ∀ now, Keeps flags (change now)) (other : failure.kind ≠ .evaluation)
    (adjusts : Adjusts around stage id rebuilds change outcome after)
    (failed : outcome = .error failure) :
    id ∉ stage.deck.bank.ids ∧ failure = .slotMissing id ∧
        after = stage.told around (.error (some id) failure) ∨
      id ∈ stage.deck.bank.ids ∧
        (perform (change (around.clock stage.world))
          { bank := (stage.deck.refreshed id).bank }).1 = .error failure ∧
        after = if failure.isOwn then
            (stage.adjusted around id change).told around (.error (some id) failure)
          else stage.adjusted around id change := by
  cases adjusts with
  | missing missing =>
    cases failed
    exact .inl ⟨missing, rfl, rfl⟩
  | refused loaded own refusal =>
    cases failed
    exact .inr ⟨loaded, refusal, by rw [if_pos own]⟩
  | rejected loaded foreign refusal =>
    cases failed
    refine .inr ⟨loaded, refusal, ?_⟩
    simp only [foreign, Bool.false_eq_true, if_false]
  | @changed p ended _ loaded _ follows =>
    -- after the edit only a rebuild can fail
    have still := present_of_standing present (standing_adjusted around stage id keeps)
    have ends := ends_of_perform (perform_parameterChanged around _ id p rebuilds still) follows
    cases ends with
    | quiet | rebuilt => cases failed
    | failed _ _ rebuilt =>
      cases failed
      have kind := kind_of_rebuilt around _ (by rwa [deck_toldParameter]) rebuilt
      exact absurd kind other

theorem Adjusts.refusal {outcome : Except Failure Parameter} (present : stage.deck.Present)
    (keeps : ∀ now, Keeps flags (change now)) (other : failure.kind ≠ .evaluation)
    (adjusts : Adjusts around stage id rebuilds change outcome after)
    (failed : outcome = .error failure)
    (ends : Slot → Except Failure Parameter → Slot → List Int → Prop)
    (comes : ∀ slot, stage.deck.bank.find? id = some slot →
      Binding.Comes (stage.deck.refreshed id).bank slot.refreshed [] (change (around.clock stage.world))
        (ends slot))
    (same : ∀ {slot outcome changed noted}, ends slot outcome changed noted → changed.id = slot.id) :
    (stage.deck.bank.find? id = none ∧ stage.Refused id failure Slot.refreshed [] after) ∨
      ∃ slot changed noted, stage.deck.bank.find? id = some slot ∧
        ends slot (.error failure) changed noted ∧
        stage.Refused id failure (fun _ => changed) noted after := by
  rcases adjusts.told_of_error around stage present keeps other failed with
    ⟨missing, rfl, told⟩ | ⟨loaded, refusal, told⟩
  · have none := Bank.find?_eq_none_iff.2 missing
    subst told
    refine .inl ⟨none, ?_, fun _ _ => rfl, rfl, ?_⟩
    · rw [deck_told, none]
      rfl
    · simp [journal_told, Failure.isOwn, Failure.kind]
  · obtain ⟨slot, found⟩ := Option.isSome_iff_exists.1 (Bank.isSome_find?.2 loaded)
    obtain ⟨ended, changed, noted, performed, end_⟩ := comes slot found
    obtain rfl := Bank.id_of_find? found
    have again : (stage.deck.refreshed slot.id).bank.find? slot.refreshed.id = some slot.refreshed :=
      Bank.find?_modify_self found Slot.refreshed
    rw [Draft.of_eq again, List.nil_append] at performed
    -- the edit comes to one end, which is the failure
    obtain rfl : ended = .error failure := by
      rw [← refusal, performed]
    exact .inr ⟨slot, changed, noted, found, end_,
      refused_of_edit around stage found (same end_) performed told⟩

theorem adjusts_of_discard
    (failed : perform (discard (changeParameter around id rebuilds change)) stage =
      (.error failure, after)) :
    Adjusts around stage id rebuilds change
        (perform (changeParameter around id rebuilds change) stage).1 after ∧
      (perform (changeParameter around id rebuilds change) stage).1 = .error failure := by
  have ends := perform_ends (perform_changeParameter around stage id rebuilds change)
  rw [perform_discard, Prod.mk.injEq] at failed
  obtain ⟨outcome, rfl⟩ := failed
  refine ⟨ends, ?_⟩
  generalize (perform (changeParameter around id rebuilds change) stage).1 = came at outcome
  cases came with
  | error other =>
    cases outcome
    rfl
  | ok p => cases outcome

theorem Refused.of_found {slot : Slot} {change : Slot → Slot} {noted : List Int}
    (found : stage.deck.bank.find? id = some slot)
    (refused : stage.Refused id failure (fun _ => change slot) noted after) :
    stage.Refused id failure change noted after := by
  refine ⟨?_, refused.others, refused.deck, refused.journal⟩
  rw [refused.slot, found]
  rfl

theorem mem_ids_refreshed {slot : Slot} (found : stage.deck.bank.find? slot.id = some slot) :
    slot.refreshed.id ∈ (stage.deck.refreshed slot.id).bank.ids := by
  rw [Deck.refreshed, Bank.ids_modify]
  exact Bank.isSome_find?.1 (found ▸ rfl)

/-- A change that checks first leaves nothing behind when it is refused. -/
theorem refused_of_tunes (name : String)
    (guard : Except Failure (Parameters → Parameters)) (present : stage.deck.Present)
    (keeps : ∀ now, Keeps flags (change now)) (other : failure.kind ≠ .evaluation)
    (comes : ∀ bank slot, slot.id = id → slot.id ∈ bank.ids → ∀ now,
      Binding.Comes bank slot [] (change now) (slot.Tunes now name guard))
    (failed : perform (discard (changeParameter around id rebuilds change)) stage =
      (.error failure, after)) : stage.Refused id failure Slot.refreshed [] after := by
  obtain ⟨adjusts, failed⟩ := adjusts_of_discard around stage failed
  have ends := adjusts.refusal around stage present keeps other failed
    (fun slot => slot.refreshed.Tunes (around.clock stage.world) name guard)
    (fun slot found => by
      obtain rfl := Bank.id_of_find? found
      exact comes _ slot.refreshed rfl (mem_ids_refreshed stage found) _)
    (fun tunes => tunes.id_eq)
  rcases ends with ⟨-, refused⟩ | ⟨slot, changed, noted, found, tunes, refused⟩
  · exact refused
  · obtain ⟨rfl, rfl⟩ := tunes.unchanged
    exact refused.of_found stage found

/-- The ends of a change of a parameter that is refused. A fragment that was put after the code by
then stays there. -/
inductive Refuses (operation : Operation) (id : Int) (failure : Failure)
    (after : Stage Handle Listener World) : Prop where
  | spared (whole : operation.appends? stage.deck = none)
      (refused : stage.Refused id failure Slot.refreshed [] after)
  | unseeded {entry : Catalog.Entry} {slot : Slot}
      (appended : operation.appends? stage.deck = some entry)
      (found : stage.deck.bank.find? id = some slot)
      (refusal : slot.refreshed.seeded entry = .error failure)
      (refused : stage.Refused id failure
        (fun slot => { slot.refreshed with code := slot.code ++ entry.fragment }) [] after)
  | unbound {entry : Catalog.Entry} {slot : Slot} {parameters : Parameters} {index : Int}
      (appended : operation.appends? stage.deck = some entry)
      (found : stage.deck.bank.find? id = some slot)
      (seeded : slot.refreshed.seeded entry = .ok parameters)
      (knob : failure = .knobOutOfRange index)
      (refused : stage.Refused id failure
        (fun slot => { slot.refreshed with
          code := slot.code ++ entry.fragment
          parameters
          modified := .at (around.clock stage.world) }) [id] after)

theorem refuses_of_addFromCatalog {name : String} {knob : Option Int}
    (present : stage.deck.Present) (other : failure.kind ≠ .evaluation)
    (failed : perform (discard (changeParameter around id rebuilds fun now =>
      Binding.addFromCatalog stage.deck.catalog now id name knob)) stage = (.error failure, after)) :
    Refuses around stage (.addCatalogParameter id name knob) id failure after := by
  obtain ⟨adjusts, failed⟩ := adjusts_of_discard around stage failed
  have keeps := fun now => (unseen_flags id).keeps_addFromCatalog stage.deck.catalog now name knob
  have ends := adjusts.refusal around stage present keeps other failed
    (fun slot => slot.refreshed.Adds (around.clock stage.world) name stage.deck.catalog knob)
    (fun slot found => by
      obtain rfl := Bank.id_of_find? found
      exact Binding.perform_addFromCatalog (mem_ids_refreshed stage found) _ _ name _ knob)
    (fun adds => adds.id_eq)
  rcases ends with ⟨missing, refused⟩ | ⟨slot, changed, noted, found, adds, refused⟩
  · exact .spared (by simp [Operation.appends?, missing]) refused
  · cases adds with
    | unlisted missing =>
      exact .spared (by simp [Operation.appends?, missing]) (refused.of_found stage found)
    | used listed used binds =>
      have whole := (Operation.appends?_addCatalogParameter listed found knob).trans (if_pos used)
      have known := (Parameters.mem_names_merge slot.refreshed.parameters _ _).2 (.inr used)
      obtain ⟨rfl, rfl, -⟩ := binds.refused known
      rw [slot.refreshed_refreshed] at refused
      exact .spared whole (refused.of_found stage found)
    | unseeded listed unused refusal =>
      have appended := (Operation.appends?_addCatalogParameter listed found knob).trans
        (if_neg unused)
      exact .unseeded appended found refusal (refused.of_found stage found)
    | appended listed unused seeded binds =>
      have appended := (Operation.appends?_addCatalogParameter listed found knob).trans
        (if_neg unused)
      obtain ⟨rfl, rfl, index, outside⟩ := binds.refused (Slot.mem_names_seeded _ seeded)
      obtain rfl := Bank.id_of_find? found
      exact .unbound appended found seeded outside (refused.of_found stage found)

end Adjust

theorem refuses_of_operation {operation : Operation} (present : stage.deck.Present)
    (asked : operation.tunes? = some id) (other : failure.kind ≠ .evaluation)
    (failed : perform (operation.act around) stage = (.error failure, after)) :
    Refuses around stage operation id failure after := by
  cases operation with
  | assignParameter id name knob =>
    cases asked
    apply Refuses.spared rfl
    refine refused_of_tunes around stage name (Binding.binding name knob) present ?_ other ?_ failed
    · exact fun now => (unseen_flags id).keeps_assign now name knob
    · rintro bank slot rfl present now
      exact Binding.perform_assign present [] now name knob
  | setParameterRange id name lo hi =>
    cases asked
    apply Refuses.spared rfl
    refine refused_of_tunes around stage name (Binding.ranging name lo hi) present ?_ other ?_ failed
    · exact fun now => (unseen_flags id).keeps_setRange now name lo hi
    · rintro bank slot rfl present now
      exact Binding.perform_setRange present [] now name lo hi
  | setParameterValue id name value =>
    cases asked
    apply Refuses.spared rfl
    refine refused_of_tunes around stage name (Binding.valuing name value) present ?_ other ?_ failed
    · exact fun now => (unseen_flags id).keeps_setValue now name value
    · rintro bank slot rfl present now
      exact Binding.perform_setValue present [] now name value
  | addCatalogParameter id name knob =>
    cases asked
    rw [Operation.act, perform_discard, perform_addCatalogParameter, ← perform_discard] at failed
    exact refuses_of_addFromCatalog around stage present other failed
  | start | stop | toggle | stopAll | updateLiveCode | updatePatternCode | select | parameters
  | pressButton | turnKnob | loadLibrary => cases asked

/-- A fragment has a placeholder in it, so it is never empty. -/
theorem append_fragment_ne (catalog : Catalog) {entry : Catalog.Entry}
    (listed : entry ∈ catalog.entries) (code : String) : code ++ entry.fragment ≠ code := by
  intro same
  have empty : entry.fragment.toList = [] := by
    simpa using congrArg String.toList same
  have usable := catalog.usable entry listed
  rw [Catalog.Entry.isUsable, empty] at usable
  cases usable

theorem listed_of_appends? {operation : Operation} {deck : Deck Handle Listener}
    {entry : Catalog.Entry} (appended : operation.appends? deck = some entry) :
    entry ∈ deck.catalog.entries := by
  cases operation with
  | addCatalogParameter id name knob =>
    simp only [Operation.appends?, Option.bind_eq_bind, Option.bind_eq_some_iff] at appended
    obtain ⟨found, listed, slot, -, chosen⟩ := appended
    split at chosen
    · cases chosen
    · cases chosen
      exact Catalog.mem_of_find? listed
  | _ => cases appended

/-- A refused change leaves the slot as it was, but for parameters that its code has placeholders for,
if and only if no fragment had to be put after the code. -/
theorem Refuses.spared_iff {operation : Operation}
    (refuses : Refuses around stage operation id failure after) :
    stage.Refused id failure Slot.refreshed [] after ↔ operation.appends? stage.deck = none := by
  have grown : ∀ {entry slot change}, operation.appends? stage.deck = some entry →
      stage.deck.bank.find? id = some slot → (change slot).code = slot.code ++ entry.fragment →
      ∀ {noted}, stage.Refused id failure change noted after →
      ¬stage.Refused id failure Slot.refreshed [] after := by
    intro entry slot change appended found code noted refused spared
    -- the code that was spared would be the code with the fragment
    have both := refused.slot.symm.trans spared.slot
    rw [found, Option.map_some, Option.map_some, Option.some.injEq] at both
    have same : (change slot).code = slot.refreshed.code := congrArg Slot.code both
    rw [code] at same
    exact append_fragment_ne stage.deck.catalog (listed_of_appends? appended) slot.code same
  cases refuses with
  | spared whole refused => exact ⟨fun _ => whole, fun _ => refused⟩
  | unseeded appended found _ refused =>
    exact ⟨fun spared => absurd spared (grown appended found rfl refused), by simp [appended]⟩
  | unbound appended found _ _ refused =>
    exact ⟨fun spared => absurd spared (grown appended found rfl refused), by simp [appended]⟩

section History

variable (bank : Bank) (catalog : Catalog) (listeners : Listeners Topic Listener) (world : World)
variable (operations : List Operation)

/-- A change of a parameter that fails, other than by a rebuild, asks nothing of the renderer, saves
nothing, and tells of the failure alone, if that is the deck's own. The slot is as a look at its
parameters leaves it if and only if no fragment had to be put after its code; else the fragment is
there, and, if only the knob was refused, the entry's parameter and the time too. -/
theorem refused_tuning :
    ∀ step ∈ history around (fresh bank catalog listeners world) operations,
      ∀ id failure, step.operation.tunes? = some id → step.outcome = .error failure →
        failure.kind ≠ .evaluation →
        (step.before.Refused id failure Slot.refreshed [] step.after ↔
          step.operation.appends? step.before.deck = none) ∧
        Refuses around step.before step.operation id failure step.after := by
  intro step taken id failure asked failed other
  have placed := (placed_of_history around bank catalog listeners world operations step taken).1
  have performed := perform_of_mem_history around _ operations taken
  rw [failed] at performed
  have refuses := refuses_of_operation around step.before placed.present asked other performed
  exact ⟨refuses.spared_iff, refuses⟩

private def refusedTunings : List (Step Nat Empty Nat) :=
  history (.refusing fun _ => false) (fresh .pair .builtin {} 0)
    [.setParameterRange 3 "crush" 1 0, .addCatalogParameter 3 "crush" (some 8)]

private def emptyRange : Step Nat Empty Nat := refusedTunings.get ⟨0, by decide +kernel⟩

private def unknownKnob : Step Nat Empty Nat := refusedTunings.get ⟨1, by decide +kernel⟩

private def kind? (step : Step Nat Empty Nat) : Option Failure.Kind :=
  match step.outcome with
  | .error failure => some failure.kind
  | .ok () => none

private theorem failed_of_kind? {step : Step Nat Empty Nat} {kind : Failure.Kind}
    (shown : kind? step = some kind) : ∃ failure, step.outcome = .error failure ∧ failure.kind = kind := by
  unfold kind? at shown
  split at shown
  next failure failed => exact ⟨failure, failed, Option.some.inj shown⟩
  next => cases shown

/-- A range that is empty, and then a knob that is not there for a parameter that the code lacks. -/
theorem fragment_left_by_refused_knob :
    (∃ failure, emptyRange.outcome = .error failure ∧
      emptyRange.before.Refused 3 failure Slot.refreshed [] emptyRange.after) ∧
    ∃ failure, unknownKnob.outcome = .error failure ∧
      ¬unknownKnob.before.Refused 3 failure Slot.refreshed [] unknownKnob.after ∧
      (unknownKnob.before.deck.bank.find? 3).map Slot.code = some "a" ∧
      (unknownKnob.after.deck.bank.find? 3).map Slot.code = some "a.crush($crush)" := by
  constructor
  · have taken : emptyRange ∈ refusedTunings := List.get_mem _ _
    have asked : emptyRange.operation.tunes? = some 3 := by decide +kernel
    have whole : (emptyRange.operation.appends? emptyRange.before.deck).isNone := by decide +kernel
    obtain ⟨failure, failed, kind⟩ : ∃ failure, emptyRange.outcome = .error failure ∧
        failure.kind = .value := failed_of_kind? (by decide +kernel)
    have refused := refused_tuning _ _ _ _ _ _ _ taken 3 failure asked failed (by simp [kind])
    exact ⟨failure, failed, refused.1.2 (Option.isNone_iff_eq_none.1 whole)⟩
  · have taken : unknownKnob ∈ refusedTunings := List.get_mem _ _
    have asked : unknownKnob.operation.tunes? = some 3 := by decide +kernel
    have appended : (unknownKnob.operation.appends? unknownKnob.before.deck).isSome := by
      decide +kernel
    obtain ⟨failure, failed, kind⟩ : ∃ failure, unknownKnob.outcome = .error failure ∧
        failure.kind = .value := failed_of_kind? (by decide +kernel)
    have refused := refused_tuning _ _ _ _ _ _ _ taken 3 failure asked failed (by simp [kind])
    refine ⟨failure, failed, fun spared => ?_, by decide +kernel, by decide +kernel⟩
    rw [refused.1.1 spared] at appended
    cases appended

end History

end Stage

end PatternDeck
