import PatternDeck.Proofs.Stage.Reckoning

/-!
No change of a slot is silent. An operation that works, or fails with a failure of the deck, notes the
time of every change, tells the listeners of the slot as it ends, and saves it so if its code or a
parameter changed. The one change that is neither noted nor told is that of a flag which a slot had when
it came into the bank, without playing, and which it loses when it is to start and the renderer fails.
-/
namespace PatternDeck

/-- The slot has the code that it had, and each parameter that it had has its value, its range and its
knob. -/
structure Slot.SaysSame (old new : Slot) : Prop where
  code : new.code = old.code
  each : ∀ p ∈ old.parameters.toList, ∃ q ∈ new.parameters.toList,
    q.name = p.name ∧ q.value = p.value ∧ q.range = p.range ∧ q.knob = p.knob

theorem Slot.Gains.saysSame {old new : Slot} (gains : old.Gains new) : old.SaysSame new :=
  ⟨gains.code, fun p member => ⟨p, gains.parameters.subset member, rfl, rfl, rfl, rfl⟩⟩

theorem Slot.Gains.saysSame_of_set {old new : Slot} {playing : Bool} {modified : Moment}
    (gains : Slot.Gains { old with playing, modified } new) : old.SaysSame new := by
  obtain ⟨code, each⟩ := gains.saysSame
  exact ⟨code, each⟩

/-- A slot that was flagged without playing was to start, and the renderer failed. -/
def Step.Unflags {Handle Listener World : Type} (step : Step Handle Listener World) (old : Slot) :
    Prop :=
  step.operation.starts? = some old.id ∧ old.id ∉ step.before.deck.active ∧ old.playing ∧
    ∃ failure, step.outcome = .error failure ∧ failure.kind = .evaluation

namespace Stage

variable {Handle Listener World : Type} (around : Surroundings Handle Listener World)

/-- Where a slot differs in its code, its flag or a parameter that it had, the time was noted, then the
listeners were told of it as it is, and if the difference is not in the flag alone it was saved so; if
and only if the slot did not just lose a flag that it had without playing. -/
theorem disclosed_iff_of_history (bank : Bank) (catalog : Catalog)
    (listeners : Listeners Topic Listener) (world : World) (operations : List Operation) :
    ∀ step ∈ history around (fresh bank catalog listeners world) operations,
      (∀ slots name version, step.operation ≠ .loadLibrary slots name version) →
      (∀ failure, step.outcome = .error failure → failure.isOwn) →
      step.after.journal = step.before.journal ++ step.entries ∧
      ∀ id old, step.before.deck.bank.find? id = some old →
        ∃ new, step.after.deck.bank.find? id = some new ∧
          (¬(old.SaysSame new ∧ new.playing = old.playing) →
            (old.Disclosed around step.entries new ∧
                (¬old.SaysSame new → old.Filed around step.entries new) ↔ ¬step.Unflags old) ∧
            (step.Unflags old → old.SaysSame new ∧ new.playing = false ∧
              ∀ entry ∈ step.entries, entry.subject? ≠ some id)) := by
  intro step taken stays own
  have placed := (placed_of_history around bank catalog listeners world operations step taken).1
  have marked := marked_of_history around bank catalog listeners world operations step taken
  have performed := perform_of_mem_history around _ operations taken
  obtain ⟨grown, -, accounts⟩ := accounts_of_step placed marked performed stays
  refine ⟨grown, fun id old found => ?_⟩
  obtain ⟨new, found', fares⟩ := accounts id old found
  obtain rfl := Bank.id_of_find? found
  refine ⟨new, found', fun differs => ?_⟩
  -- a slot that was changed and told of is not one whose start failed
  have kept : (step.operation.starts? = some old.id → step.outcome = .ok ()) → ¬step.Unflags old := by
    rintro done ⟨asked, -, -, failure, failed, -⟩
    rw [done asked] at failed
    cases failed
  cases fares with
  | passed gains | viewed gains => exact absurd ⟨gains.saysSame, gains.playing⟩ differs
  | switched gains done disclosed =>
    have same := gains.saysSame_of_set
    exact ⟨iff_of_true ⟨disclosed, fun changed => absurd same changed⟩ (kept done),
      fun unflags => absurd unflags (kept done)⟩
  | edited done disclosed filed =>
    exact ⟨iff_of_true ⟨disclosed, fun _ => filed⟩ (kept done),
      fun unflags => absurd unflags (kept done)⟩
  | unflagged asked idle flagged failed kind gains silent =>
    have unflags : step.Unflags old := ⟨asked, idle, flagged, _, failed, kind⟩
    have undisclosed : ¬old.Disclosed around step.entries new := by
      intro disclosed
      refine silent _ disclosed.noted ?_
      rw [Entry.subject?, gains.id_eq]
    refine ⟨iff_of_false (fun disclosed => undisclosed disclosed.1) (not_not_intro unflags), ?_⟩
    have rest : Slot.Gains { old with playing := false, modified := old.modified } new := gains
    exact fun _ => ⟨rest.saysSame_of_set, gains.playing, silent⟩
  | halfDone _ _ refused foreign =>
    rw [own _ refused] at foreign
    cases foreign

private def storing (refused : String → Bool) : Surroundings Nat Empty Nat :=
  { Surroundings.refusing refused with save := some fun _ world => (.ok (), world) }

private def editedStep : Step Nat Empty Nat :=
  (history (storing fun _ => false) (fresh .pair .empty {} 0) [.updatePatternCode 3 "c"]).get
    ⟨0, by decide +kernel⟩

private def flaggedAlready : Bank :=
  ⟨[{ id := 3, code := "b", playing := true }], "", "", by decide, by decide⟩

private def unflaggingStep : Step Nat Empty Nat :=
  (history (storing fun _ => true) (fresh flaggedAlready .empty {} 0) [.start 3]).get
    ⟨0, by decide +kernel⟩

private def failedKind? : Except Failure Unit → Option Failure.Kind
  | .ok () => none
  | .error failure => some failure.kind

private theorem kind_of_failedKind? {outcome : Except Failure Unit} {kind : Failure.Kind}
    (shown : failedKind? outcome = some kind) :
    ∃ failure, outcome = .error failure ∧ failure.kind = kind := by
  cases outcome with
  | ok => cases shown
  | error failure => exact ⟨failure, rfl, Option.some.inj shown⟩

/-- Code that is replaced is told of and saved; a flag that a slot had without playing goes without a
word. -/
theorem disclosed_edit_and_silent_flag :
    (∃ old new, editedStep.before.deck.bank.find? 3 = some old ∧
      editedStep.after.deck.bank.find? 3 = some new ∧ old.code = "a" ∧ new.code = "c" ∧
      old.Disclosed (storing fun _ => false) editedStep.entries new ∧
      old.Filed (storing fun _ => false) editedStep.entries new) ∧
    ∃ old new, unflaggingStep.before.deck.bank.find? 3 = some old ∧
      unflaggingStep.after.deck.bank.find? 3 = some new ∧ old.playing = true ∧
      new.playing = false ∧ ∀ entry ∈ unflaggingStep.entries, entry.subject? ≠ some 3 := by
  constructor
  · have asked : editedStep.operation = .updatePatternCode 3 "c" := rfl
    have worked : editedStep.outcome = .ok () := eq_ok_of_isOk (by decide +kernel)
    obtain ⟨-, each⟩ := disclosed_iff_of_history (storing fun _ => false) .pair .empty {} 0
      [.updatePatternCode 3 "c"] editedStep (List.get_mem _ _) (by simp [asked]) (by simp [worked])
    obtain ⟨old, before⟩ : ∃ old, editedStep.before.deck.bank.find? 3 = some old :=
      Option.isSome_iff_exists.1 (by decide +kernel)
    obtain ⟨new, after, disclosed⟩ := each 3 old before
    have had : editedStep.before.deck.bank.view Slot.code 3 = some "a" := by decide +kernel
    have has : editedStep.after.deck.bank.view Slot.code 3 = some "c" := by decide +kernel
    rw [Bank.view_of_find? Slot.code before, Option.some.injEq] at had
    rw [Bank.view_of_find? Slot.code after, Option.some.injEq] at has
    have differs : ¬old.SaysSame new := by
      intro same
      have code := same.code
      rw [had, has] at code
      exact absurd code (by decide)
    have kept : ¬editedStep.Unflags old := by simp [Step.Unflags, Operation.starts?, asked]
    obtain ⟨shown, filed⟩ := (disclosed fun same => differs same.1).1.2 kept
    exact ⟨old, new, before, after, had, has, shown, filed differs⟩
  · have asked : unflaggingStep.operation = .start 3 := rfl
    obtain ⟨failure, failed, kind⟩ : ∃ failure, unflaggingStep.outcome = .error failure ∧
        failure.kind = .evaluation := kind_of_failedKind? (by decide +kernel)
    obtain ⟨-, each⟩ := disclosed_iff_of_history (storing fun _ => true) flaggedAlready .empty {} 0
      [.start 3] unflaggingStep (List.get_mem _ _) (by simp [asked])
      (by simp [failed, Failure.isOwn, kind])
    obtain ⟨old, before⟩ : ∃ old, unflaggingStep.before.deck.bank.find? 3 = some old :=
      Option.isSome_iff_exists.1 (by decide +kernel)
    obtain ⟨new, after, disclosed⟩ := each 3 old before
    have had : unflaggingStep.before.deck.bank.view Slot.playing 3 = some true := by decide +kernel
    have has : unflaggingStep.after.deck.bank.view Slot.playing 3 = some false := by decide +kernel
    rw [Bank.view_of_find? Slot.playing before, Option.some.injEq] at had
    rw [Bank.view_of_find? Slot.playing after, Option.some.injEq] at has
    have unflags : unflaggingStep.Unflags old := by
      refine ⟨?_, List.not_mem_nil, had, failure, failed, kind⟩
      rw [asked, Bank.id_of_find? before]
      rfl
    have differs : ¬(old.SaysSame new ∧ new.playing = old.playing) := by
      rintro ⟨-, same⟩
      rw [had, has] at same
      cases same
    obtain ⟨-, -, silent⟩ := (disclosed differs).2 unflags
    exact ⟨old, new, before, after, had, has, silent⟩

end Stage

end PatternDeck
