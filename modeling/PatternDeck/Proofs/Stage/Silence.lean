import PatternDeck.Proofs.Stage.Interruption

/-!
When slots play and nothing is heard. The old composite is stopped before the new one is started, so
a start that fails leaves silence behind, whichever slots are listed as playing; and that is the only
way to it.
-/
namespace PatternDeck.Stage

open Act

variable {Handle Listener World : Type} (around : Surroundings Handle Listener World)
variable {stage before after : Stage Handle Listener World} {outcome : Except Failure Unit}

/-- Nothing sounds exactly if no slot plays, or the last start failed. -/
def SilenceExplained (stage : Stage Handle Listener World) : Prop :=
  stage.deck.running = none ↔
    stage.deck.active = [] ∨ ∃ fault, lastStart stage.journal = some (.error fault)

theorem Leaves.silenceExplained (leaves : Leaves before outcome after)
    (silent : before.SilenceExplained) : after.SilenceExplained := by
  unfold SilenceExplained at silent ⊢
  cases leaves with
  | spared entries grown active running unheard =>
    rw [active, running, grown, lastStart_append, lastStart_of_unheard unheard, Option.none_or]
    exact silent
  | unstarted entries grown active silent accepted fault failed =>
    have last : lastStart after.journal = some (.error fault) := by
      rw [grown, lastStart_append, failed, Option.some_or]
    -- the old composite had been stopped by the time the new one failed
    exact iff_of_true silent (.inr ⟨fault, last⟩)
  | started entries grown busy plays accepted worked =>
    have last : lastStart after.journal = some (.ok ()) := by
      rw [grown, lastStart_append, worked, Option.some_or]
    refine iff_of_false (Option.isSome_iff_ne_none.1 plays) ?_
    rintro (idle | ⟨fault, failed⟩)
    · exact busy idle
    · rw [last] at failed
      cases failed
  | silenced entries grown idle silent => exact iff_of_true silent (.inl idle)

theorem Edits.silenceExplained {id : Int} {code : String} (placed : stage.deck.Placed)
    (silent : stage.SilenceExplained) (edits : Edits around stage id code outcome after) :
    after.SilenceExplained := by
  have close : ∀ stage : Stage Handle Listener World,
      Quiet stage ((stage.toldState around id).saved around id) :=
    fun stage => (quiet_toldState around stage id).trans (quiet_saved around _ id)
  have halts : ∀ {outcome middle}, perform (stop around id) stage = (outcome, middle) →
      Leaves stage outcome middle ∧ Deck.Moved stage.deck middle.deck := by
    intro outcome middle stopped
    have stops := ends_of_perform (perform_stop around stage id placed.present) stopped
    exact ⟨stops.leaves around stage placed.present, stops.moved around stage placed.present⟩
  cases edits with
  | missing => exact ((quiet_told around stage _).leaves (.ok ())).silenceExplained silent
  | halted loaded active stopped => exact (halts stopped).1.silenceExplained silent
  | silent loaded idle =>
    have quiet := (quiet_rewritten around stage id code).trans (close _)
    exact (quiet.leaves (.ok ())).silenceExplained silent
  | @restarted outcome middle restarted loaded active stopped started =>
    -- two rebuilds: the one of the stop, and the one of the start on what it left
    obtain ⟨leaves, moved⟩ := halts stopped
    have rewritten := (quiet_rewritten around middle id code).leaves (.ok ())
    have present : (middle.rewritten around id code).deck.Present :=
      present_of_standing (placed.moved moved).present (standing_rewritten around middle id code)
    have starts := ends_of_perform (perform_start around _ id present) started
    have again := (starts.leaves around _ present).quietly (close restarted)
    exact again.silenceExplained (rewritten.silenceExplained (leaves.silenceExplained silent))

theorem Loads.silenceExplained {slots : List Slot} {name version : Option Label}
    (silent : stage.SilenceExplained) (loads : Loads around stage slots name version outcome after) :
    after.SilenceExplained := by
  cases loads with
  | refused stopped => exact (leaves_of_stopAll around stage stopped).silenceExplained silent
  | @loaded bank middle stopped taken =>
    have stopped := (leaves_of_stopAll around stage stopped).silenceExplained silent
    exact stopped

theorem silenceExplained_of_operation {operation : Operation} (placed : stage.deck.Placed)
    (silent : stage.SilenceExplained)
    (performed : perform (operation.act around) stage = (outcome, after)) :
    after.SilenceExplained := by
  by_cases once : operation.rebuildsOnce
  · exact (leaves_of_operation around stage once placed performed).silenceExplained silent
  · cases operation with
    | updatePatternCode id code =>
      have ends := perform_updatePatternCode around stage id code placed.present
      exact (ends_of_perform ends performed).silenceExplained around placed silent
    | loadLibrary slots name version =>
      have ends := perform_loadLibrary around stage slots name version
      exact (ends_of_perform ends performed).silenceExplained around silent
    | _ => exact absurd rfl once

/-- After every operation nothing sounds exactly if no slot plays or the last start failed. A start or
a stop that fails because of the renderer restores which slots play; what sounded before sounds on if
the program was refused, and nothing sounds if it did not start. -/
theorem silent_iff_of_history (bank : Bank) (catalog : Catalog)
    (listeners : Listeners Topic Listener) (world : World) (operations : List Operation) :
    ∀ step ∈ history around (fresh bank catalog listeners world) operations,
      (step.after.deck.program? = none ↔ step.after.deck.active = [] ∨
        ∃ fault, lastStart step.after.journal = some (.error fault)) ∧
      ∀ id, step.operation = .start id ∨ step.operation = .stop id →
        ∀ message program, step.outcome = .error (.rejected message program) →
          step.after.deck.active = step.before.deck.active ∧
          ((∃ fault, lastStart step.entries = some (.error fault)) ∧
              step.after.deck.program? = none ∨
            (∀ entry ∈ step.entries, entry.isHeard = false) ∧
              step.after.deck.running = step.before.deck.running) := by
  have placed := placed_of_history around bank catalog listeners world operations
  have initial :
      (fresh bank catalog listeners world : Stage Handle Listener World).SilenceExplained :=
    iff_of_true rfl (.inl rfl)
  intro step taken
  have performed := perform_of_mem_history around _ operations taken
  constructor
  · have silent := (invariant_of_history around _ operations SilenceExplained initial
      (fun step taken silent => silenceExplained_of_operation around (placed step taken).1 silent
        (perform_of_mem_history around _ operations taken)) step taken).2
    rw [Deck.program?, Option.map_eq_none_iff]
    exact silent
  · intro id asked message program failed
    have once : step.operation.rebuildsOnce := by
      rcases asked with asked | asked <;> rw [asked] <;> rfl
    have leaves := leaves_of_operation around step.before once (placed step taken).1 performed
    rw [failed] at leaves
    cases leaves with
    | spared entries grown active running unheard =>
      rw [Step.entries_eq grown]
      exact ⟨active, .inr ⟨unheard, running⟩⟩
    | unstarted entries grown active silent accepted fault failed =>
      rw [Step.entries_eq grown, Deck.program?, silent]
      exact ⟨active, .inl ⟨⟨fault, failed⟩, rfl⟩⟩

private def unstarted : List (Step Nat Empty (List Bool)) :=
  history .scripted (fresh .pair .empty {} [true, true, true, true, false]) [.start 3, .start 5]

private def unstartedStep : Step Nat Empty (List Bool) := unstarted.get ⟨1, by decide +kernel⟩

private def rejection? : Except Failure Unit → Option (String × String)
  | .error (.rejected message program) => some (message, program)
  | _ => none

/-- A second slot that does not start takes the first one's sound with it. -/
theorem silent_after_failed_start :
    ∃ step ∈ unstarted, step.operation = .start 5 ∧
      step.outcome = .error (.rejected "engine down" "stack(a, b)") ∧
      step.before.deck.program? = some "a" ∧ step.after.deck.active = [3] ∧
      step.after.deck.program? = none ∧ ∃ fault, lastStart step.entries = some (.error fault) := by
  have taken : unstartedStep ∈ unstarted := List.get_mem _ _
  have sounded : unstartedStep.before.deck.program? = some "a" := by decide +kernel
  have plays : unstartedStep.after.deck.active = [3] := by decide +kernel
  have silent : unstartedStep.after.deck.program? = none := by decide +kernel
  have failed : unstartedStep.outcome = .error (.rejected "engine down" "stack(a, b)") := by
    have shown : rejection? unstartedStep.outcome = some ("engine down", "stack(a, b)") := by
      decide +kernel
    unfold rejection? at shown
    split at shown
    next message program same =>
      cases shown
      exact same
    · cases shown
  refine ⟨_, taken, rfl, failed, sounded, plays, silent, ?_⟩
  obtain ⟨-, answered⟩ := silent_iff_of_history _ _ _ _ _ _ _ taken
  obtain ⟨-, ⟨unstarted, -⟩ | ⟨-, same⟩⟩ := answered 5 (.inl rfl) _ _ failed
  · exact unstarted
  · -- had the program been refused, the first slot would still sound
    rw [Deck.program?, same, ← Deck.program?, sounded] at silent
    cases silent

end PatternDeck.Stage
