import PatternDeck.Proofs.Outcome
import PatternDeck.Proofs.Stage.Consistency

/-!
What a library's load comes to. Everything is stopped first, and then the bank is swapped as a
whole or stays as a whole. The slots that are taken come in as they are given, and that includes the
flag that says that they play: nothing resets it, so nothing plays after a load, but a slot may say
that it does.
-/
namespace PatternDeck

namespace Bank

variable {slots : List Slot} {name version : Label} {failure : Failure}

/-- The same slots under the same labels, but for the times of those of some ids. -/
structure Restamped (before after : Bank) (stamped : List Int) : Prop where
  labels : (after.name, after.version) = (before.name, before.version)
  ids : after.ids = before.ids
  slots : ∀ id slot, before.find? id = some slot →
    ∃ modified, after.find? id = some { slot with modified } ∧
      (id ∉ stamped → modified = slot.modified)

theorem Restamped.refl (bank : Bank) : Restamped bank bank [] :=
  ⟨rfl, rfl, fun _ slot found => ⟨slot.modified, found, fun _ => rfl⟩⟩

theorem Restamped.cons {before after : Bank} {id : Int} {rest : List Int} (moment : Moment)
    (later : Restamped (before.modify id fun slot => { slot with modified := moment }) after rest) :
    Restamped before after (id :: rest) where
  labels := later.labels
  ids := later.ids.trans (ids_modify before id _)
  slots := by
    intro other slot found
    by_cases same : other = id
    · subst same
      obtain rfl := id_of_find? found
      obtain ⟨modified, there, -⟩ := later.slots _ _ (find?_modify_self found _)
      exact ⟨modified, there, by simp⟩
    · obtain ⟨modified, there, kept⟩ :=
        later.slots _ _ ((find?_modify_ne before same _).trans found)
      refine ⟨modified, there, fun spared => kept fun late => ?_⟩
      exact spared (List.mem_cons_of_mem id late)

/-- The same slots at rest: no flag is set, and only slots of some ids have another time. -/
structure Silenced (before after : Bank) (stopped : List Int) : Prop where
  labels : (after.name, after.version) = (before.name, before.version)
  ids : after.ids = before.ids
  slots : ∀ id slot, before.find? id = some slot →
    ∃ modified, after.find? id = some { slot with playing := false, modified } ∧
      (id ∉ stopped → modified = slot.modified)

theorem Silenced.of_restamped {before after : Bank} {stopped : List Int}
    (restamped : Restamped (before.map fun slot => { slot with playing := false }) after stopped) :
    Silenced before after stopped where
  labels := restamped.labels
  ids := restamped.ids.trans (ids_map before _)
  slots := by
    intro id slot found
    have flagless : (before.map fun slot => { slot with playing := false }).find? id =
        some { slot with playing := false } := by
      rw [find?_map, found, Option.map_some]
    exact restamped.slots id _ flagless

theorem Silenced.quiet {before after : Bank} {stopped : List Int}
    (silenced : Silenced before after stopped) :
    ∀ slot ∈ after.slots, slot.playing = false := by
  intro slot member
  have found := find?_eq_some_iff.2 ⟨member, rfl⟩
  -- it stands for a slot that was there before
  have loaded : slot.id ∈ before.ids := silenced.ids ▸ isSome_find?.1 (found ▸ rfl)
  obtain ⟨old, was⟩ := Option.isSome_iff_exists.1 (isSome_find?.2 loaded)
  obtain ⟨modified, is, -⟩ := silenced.slots _ _ was
  obtain rfl := Option.some.inj (found.symm.trans is)
  rfl

end Bank

section Lights

variable {Handle Listener : Type} {deck : Deck Handle Listener}

/-- The light of a slot shows its color when its flag is set. -/
theorem Deck.color_of_mem {slot : Slot} (member : slot ∈ deck.bank.slots) :
    deck.color slot.id = if slot.playing then slot.color else Led.off := by
  rw [color, Bank.find?_eq_some_iff.2 ⟨member, rfl⟩]

theorem Deck.dark_iff :
    (∀ id, deck.color id = Led.off) ↔
      ∀ slot ∈ deck.bank.slots, slot.playing → slot.color = Led.off := by
  constructor
  · intro dark slot member playing
    have shown := dark slot.id
    rwa [color_of_mem member, if_pos playing] at shown
  · intro dark id
    cases found : deck.bank.find? id with
    | none => rw [color, found]
    | some slot =>
      obtain ⟨member, rfl⟩ := Bank.find?_eq_some_iff.1 found
      rw [color_of_mem member]
      split
      next playing => exact dark slot member playing
      next => rfl

end Lights

namespace Stage

variable {Handle Listener World : Type} (around : Surroundings Handle Listener World)
variable (stage : Stage Handle Listener World)

theorem deck_toldStopped (ids : List Int) :
    ∃ bank, (stage.toldStopped around ids).deck = { stage.deck with bank } ∧
      stage.deck.bank.Restamped bank ids := by
  -- each slot that is told of is stamped first, on the stage that the one before left
  induction ids generalizing stage with
  | nil => exact ⟨stage.deck.bank, rfl, .refl _⟩
  | cons id rest ih =>
    obtain ⟨bank, told, restamped⟩ := ih ((stage.stamped around id).toldPlaying around id)
    simp only [toldPlaying_eq, deck_told, deck_toldState, deck_stamped] at restamped
    refine ⟨bank, ?_, restamped.cons (.at (around.clock stage.world))⟩
    rw [toldStopped, told]
    simp only [toldPlaying_eq, deck_told, deck_toldState, deck_stamped]

theorem deck_of_stopAll {outcome : Except Failure Unit} {after : Stage Handle Listener World}
    (stopped : perform (stopAll around) stage = (outcome, after)) :
    ∃ bank, after.deck = { stage.deck with bank, active := [], running := none } ∧
      stage.deck.bank.Silenced bank stage.deck.audible := by
  obtain ⟨world, stops, hushed, -, performed⟩ := perform_stopAll around stage
  rw [stopped, Prod.mk.injEq] at performed
  obtain ⟨-, rfl⟩ := performed
  obtain ⟨bank, told, restamped⟩ := deck_toldStopped around
    ⟨stage.deck.silent, world, stage.journal ++ stops ++ [.hushed hushed]⟩ stage.deck.audible
  refine ⟨bank, ?_, .of_restamped restamped⟩
  rw [deck_told, told]
  rfl

variable {slots : List Slot} {name version : Option Label} {after : Stage Handle Listener World}

/-- The bank of a load that was refused, and its selection, are those of before, at rest. -/
theorem Loads.of_error {failure : Failure}
    (loads : Loads around stage slots name version (.error failure) after) :
    Bank.Misfits slots failure ∧ ∃ bank,
      after.deck = { stage.deck with bank, active := [], running := none } ∧
        stage.deck.bank.Silenced bank stage.deck.audible := by
  cases loads with
  | refused stopped refusal =>
    exact ⟨Bank.misfits_of_ofSlots refusal, deck_of_stopAll around stage stopped⟩

theorem Loads.of_ok (loads : Loads around stage slots name version (.ok ()) after) :
    ∃ bank,
      Bank.ofSlots slots (name.getD stage.deck.bank.name) (version.getD stage.deck.bank.version) =
        .ok bank ∧
      after.deck =
        { stage.deck with
          bank
          active := []
          running := none
          selected := stage.deck.selected.filter fun id => (bank.find? id).isSome } := by
  cases loads with
  | @loaded bank middle stopped taken =>
    obtain ⟨old, silent, silenced⟩ := deck_of_stopAll around stage stopped
    obtain ⟨sameName, sameVersion⟩ := Prod.mk.inj silenced.labels
    refine ⟨bank, ?_, ?_⟩
    · rw [← sameName, ← sameVersion]
      rw [silent] at taken
      exact taken
    · rw [silent]

variable {outcome : Except Failure Unit}

/-- A load swaps the bank as a whole, or leaves it as it is but for what was stopped, and nothing
plays after it. Slots that are refused leave a bank at rest; slots that are taken keep their flags,
so the bank is at rest, and its lights are off, exactly if they came in that way. -/
theorem swapped_of_loadLibrary
    (performed : perform (loadLibrary around slots name version) stage = (outcome, after)) :
    (after.deck.active = [] ∧ after.deck.running = none) ∧
    ((∃ failure, outcome = .error failure) ↔ ¬Bank.Fits slots) ∧
    (∀ failure, outcome = .error failure →
      failure.kind = .value ∧ Bank.Misfits slots failure ∧
        stage.deck.bank.Silenced after.deck.bank stage.deck.audible ∧
        after.deck.selected = stage.deck.selected) ∧
    (outcome = .ok () →
      after.deck.bank.slots.Perm slots ∧
        (after.deck.bank.slots.map (·.id)).Pairwise (· < ·) ∧
        after.deck.bank.name = name.getD stage.deck.bank.name ∧
        after.deck.bank.version = version.getD stage.deck.bank.version ∧
        ∀ id, after.deck.selected = some id ↔
          stage.deck.selected = some id ∧ id ∈ slots.map (·.id)) ∧
    ((∀ slot ∈ after.deck.bank.slots, slot.playing = false) ↔
      (Bank.Fits slots → ∀ slot ∈ slots, slot.playing = false)) ∧
    ((∀ id, after.deck.color id = Led.off) ↔
      (Bank.Fits slots → ∀ slot ∈ slots, slot.playing → slot.color = Led.off)) := by
  have loads := ends_of_perform (perform_loadLibrary around stage slots name version) performed
  rw [Deck.dark_iff]
  rcases outcome with failure | ⟨⟩
  · -- the bank of before, in which nothing is flagged any more
    obtain ⟨misfits, bank, deck, silenced⟩ := loads.of_error
    have unfit := misfits.not_fits
    have quiet := silenced.quiet
    rw [deck]
    refine ⟨⟨rfl, rfl⟩, by simp [unfit], ?_, by simp, ?_, ?_⟩
    · rintro _ ⟨⟩
      exact ⟨misfits.kind, misfits, silenced, rfl⟩
    · simpa [unfit] using quiet
    · simp only [unfit, false_imp_iff, iff_true]
      intro slot member playing
      rw [quiet slot member] at playing
      cases playing
  · -- the slots that were given, each with the flag that it was given with
    obtain ⟨bank, opened, deck⟩ := loads.of_ok
    have fits := Bank.fits_of_ofSlots opened
    have same := Bank.perm_of_ofSlots opened
    obtain ⟨sameName, sameVersion⟩ := Prod.mk.inj (Bank.labels_of_foldlM_insert opened)
    rw [deck]
    refine ⟨⟨rfl, rfl⟩, by simp [fits], by simp, ?_, ?_, ?_⟩
    · refine fun _ => ⟨same, bank.ordered, sameName, sameVersion, fun id => ?_⟩
      rw [Option.filter_eq_some_iff, Bank.isSome_find?, Bank.ids, (same.map Slot.id).mem_iff]
    · simp only [fits, true_imp_iff, same.mem_iff]
    · simp only [fits, true_imp_iff, same.mem_iff]

private def flaggedSlots : List Slot := [{ id := 3, code := "a", color := 5, playing := true }]

private def straySlots : List Slot :=
  [{ id := 5, code := "a", playing := true }, { id := 40, code := "b" }]

private def sounding : Stage Nat Empty Nat :=
  (perform (start (.refusing fun _ => false) 3) (fresh Bank.pair .empty {} 0)).2

/-- A slot that comes in with its flag set is lit though nothing plays. With a slot outside the grid
the whole list is refused, and all lights go out. -/
theorem lit_after_load :
    (∃ after, perform (loadLibrary (.refusing fun _ => false) flaggedSlots none none) sounding =
        (.ok (), after) ∧
      after.deck.active = [] ∧ (¬∀ slot ∈ after.deck.bank.slots, slot.playing = false) ∧
        ¬∀ id, after.deck.color id = Led.off) ∧
    ∃ failure after,
      perform (loadLibrary (.refusing fun _ => false) straySlots none none) sounding =
          (.error failure, after) ∧
        after.deck.active = [] ∧ ∀ id, after.deck.color id = Led.off := by
  have fits : Bank.Fits flaggedSlots := ⟨by decide, by decide⟩
  have unfit : ¬Bank.Fits straySlots := fun fits => absurd fits.onGrid (by decide)
  constructor
  · rcases performed :
      perform (loadLibrary (.refusing fun _ => false) flaggedSlots none none) sounding with
      ⟨failure | ⟨⟩, after⟩
    · have swapped := swapped_of_loadLibrary _ _ performed
      exact absurd fits (swapped.2.1.1 ⟨failure, rfl⟩)
    · obtain ⟨silent, -, -, -, flags, lights⟩ := swapped_of_loadLibrary _ _ performed
      refine ⟨after, rfl, silent.1, fun quiet => ?_, fun dark => ?_⟩
      · exact absurd (flags.1 quiet fits) (by decide)
      · exact absurd (lights.1 dark fits) (by decide)
  · rcases performed :
      perform (loadLibrary (.refusing fun _ => false) straySlots none none) sounding with
      ⟨outcome, after⟩
    obtain ⟨silent, refused, -, -, -, lights⟩ := swapped_of_loadLibrary _ _ performed
    obtain ⟨failure, rfl⟩ := refused.2 unfit
    exact ⟨failure, after, rfl, silent.1, lights.2 fun fits => absurd fits unfit⟩

end Stage

end PatternDeck
