import PatternDeck.Proofs.Stage.Account

/-!
What replacing a slot's code comes to. A slot that plays is stopped for it and started again, and
each of the two may fail. A stop that fails puts everything back, so nothing was replaced. Once the
slot is stopped the code is replaced, told of and saved whatever becomes of the start, and only the
slot's place among those that play tells the outcomes apart.
-/
namespace PatternDeck

namespace Stage

open Act

variable {Handle Listener World : Type} (around : Surroundings Handle Listener World)
variable (stage : Stage Handle Listener World)
variable {outcome : Except Failure Unit} {after : Stage Handle Listener World} {failure : Failure}
variable {id : Int} {code : String} {slot : Slot}

section Found

theorem find?_rebuilt_left (placed : stage.deck.Placed)
    (found : stage.deck.bank.find? id = some slot)
    (rebuilt : perform (rebuild around) { stage with deck := stage.deck.left id } =
      (outcome, after)) :
    after.deck.bank.find? id = some { slot with playing := false } := by
  obtain rfl := Bank.id_of_find? found
  have gone : slot.id ∉ (stage.deck.left slot.id).active := placed.distinct.not_mem_erase
  have flagged : (stage.deck.left slot.id).bank.find? slot.id =
      some { slot with playing := false } := Bank.find?_modify_self found _
  rw [find?_rebuilt around _ (placed.present.left slot.id) rebuilt flagged, if_neg gone]

theorem find?_rebuilt_joined (present : stage.deck.Present)
    (found : stage.deck.bank.find? id = some slot)
    (rebuilt : perform (rebuild around) { stage with deck := stage.deck.joined id } =
      (outcome, after)) :
    after.deck.bank.find? id = some { slot.refreshed with playing := true } := by
  obtain rfl := Bank.id_of_find? found
  have loaded : slot.id ∈ stage.deck.bank.ids := Bank.isSome_find?.1 (found ▸ rfl)
  have there : slot.id ∈ (stage.deck.joined slot.id).active := by simp [Deck.joined]
  have flagged : (stage.deck.joined slot.id).bank.find? slot.id =
      some { slot with playing := true } := Bank.find?_modify_self found _
  rw [find?_rebuilt around _ (present.joined loaded) rebuilt flagged, if_pos there]
  rfl

theorem find?_toldPlaying : (stage.toldPlaying around id).deck.bank.find? id =
    stage.deck.bank.find? id := by
  rw [toldPlaying_eq, deck_told, deck_toldState]

/-- A stop that fails changes nothing of a slot that is flagged as it should be. -/
theorem Stops.restored (placed : stage.deck.Placed) (found : stage.deck.bank.find? id = some slot)
    (flagged : id ∈ stage.deck.active → slot.playing = true)
    (stops : Stops around stage id (.error failure) after) :
    failure.kind = .evaluation ∧ after.deck.bank.find? id = some slot ∧
      after.deck.active = stage.deck.active := by
  obtain rfl := Bank.id_of_find? found
  cases stops with
  | missing missing => exact absurd (Bank.isSome_find?.1 (found ▸ rfl)) missing
  | @failed failure ended loaded active rebuilt =>
    have left := placed.present.left slot.id
    have tried := find?_rebuilt_left around stage placed found rebuilt
    refine ⟨kind_of_rebuilt around _ left rebuilt, ?_, rfl⟩
    rw [deck_told, Deck.putBack, Bank.find?_modify_self tried, ← flagged active]

/-- A slot that was stopped has lost its flag, and its place. -/
theorem Stops.found (placed : stage.deck.Placed) (found : stage.deck.bank.find? id = some slot)
    (active : id ∈ stage.deck.active) (stops : Stops around stage id (.ok ()) after) :
    (∃ modified, after.deck.bank.find? id = some { slot with playing := false, modified }) ∧
      after.deck.active = stage.deck.active.erase id := by
  obtain rfl := Bank.id_of_find? found
  cases stops with
  | idle _ idle => exact absurd active idle
  | @stopped ended loaded _ rebuilt =>
    have left := placed.present.left slot.id
    have tried := find?_rebuilt_left around stage placed found rebuilt
    refine ⟨⟨.at (around.clock ended.world), ?_⟩, ?_⟩
    · rw [find?_toldPlaying, find?_stamped around ended tried]
    · rw [toldPlaying_eq, deck_told, deck_toldState, deck_stamped]
      exact active_rebuilt around _ left rebuilt

/-- A slot that was started has its flag, and is the last of those that play. -/
theorem Starts.found (present : stage.deck.Present) (found : stage.deck.bank.find? id = some slot)
    (idle : id ∉ stage.deck.active) (starts : Starts around stage id (.ok ()) after) :
    (∃ modified, after.deck.bank.find? id =
        some { slot.refreshed with playing := true, modified }) ∧
      after.deck.active = stage.deck.active ++ [id] := by
  obtain rfl := Bank.id_of_find? found
  cases starts with
  | playing _ active => exact absurd active idle
  | @started ended loaded _ rebuilt =>
    have joined := present.joined loaded
    have tried := find?_rebuilt_joined around stage present found rebuilt
    have active := active_rebuilt around _ joined rebuilt
    refine ⟨⟨.at (around.clock ended.world), ?_⟩, ?_⟩
    · rw [deck_saved, find?_toldPlaying, find?_stamped around ended tried]
    · rw [deck_saved, toldPlaying_eq, deck_told, deck_toldState, deck_stamped]
      exact active

/-- A slot whose start failed does not play, whatever its flag said before. -/
theorem Starts.unstarted (present : stage.deck.Present)
    (found : stage.deck.bank.find? id = some slot) (idle : id ∉ stage.deck.active)
    (starts : Starts around stage id (.error failure) after) :
    failure.kind = .evaluation ∧
      after.deck.bank.find? id = some { slot.refreshed with playing := false } ∧
      after.deck.active = stage.deck.active := by
  obtain rfl := Bank.id_of_find? found
  cases starts with
  | missing missing => exact absurd (Bank.isSome_find?.1 (found ▸ rfl)) missing
  | @failed failure ended loaded _ rebuilt =>
    have joined := present.joined loaded
    have tried := find?_rebuilt_joined around stage present found rebuilt
    have active := active_rebuilt around _ joined rebuilt
    refine ⟨kind_of_rebuilt around _ joined rebuilt, ?_, ?_⟩
    · rw [deck_told, Deck.left]
      exact Bank.find?_modify_self tried _
    · -- the slot was put at the end, and is taken out there
      rw [deck_told, Deck.left, active, Deck.joined, List.erase_append_right _ idle]
      simp

/-- What is written down when a slot is told of and saved. -/
theorem journal_closed (found : stage.deck.bank.find? id = some slot) :
    ∃ outcome, ((stage.toldState around id).saved around id).journal =
      stage.journal ++ .announced (.stateChange slot) ::
        if around.save.isSome then [.saved slot outcome] else [] := by
  rw [toldState_of_find? around stage found]
  have still : (stage.told around (.stateChange slot)).deck.bank.find? id = some slot := found
  rw [saved, persist, perform_bind, perform_getDeck]
  simp only [still]
  cases around.save with
  | none =>
    exact ⟨.ok (), journal_told around stage _⟩
  | some save =>
    refine ⟨(save slot (stage.told around (.stateChange slot)).world).1, ?_⟩
    simp only [perform_bind, perform_ask, perform_pure, journal_told, List.append_assoc]
    rfl

end Found

/-- The slot has the new code, with its flag as given. The last that was told, and saved if slots
are saved anywhere, is the slot as it is now. -/
def Replaced (before after : Stage Handle Listener World) (slot : Slot) (code : String)
    (playing : Bool) (meanwhile : List (Entry Handle)) : Prop :=
  ∃ modified outcome,
    after.deck.bank.find? slot.id = some { slot.recoded code with playing, modified } ∧
    after.journal = before.journal ++ meanwhile ++
      .announced (.stateChange { slot.recoded code with playing, modified }) ::
        if around.save.isSome then
          [.saved { slot.recoded code with playing, modified } outcome]
        else []

/-- What the replacement of a slot's code comes to. -/
inductive Replaces (before : Stage Handle Listener World) (slot : Slot) (code : String) :
    Except Failure Unit → Stage Handle Listener World → Prop where
  /-- The slot could not be stopped, and nothing was replaced. -/
  | halted {failure : Failure} {after : Stage Handle Listener World}
      (active : slot.id ∈ before.deck.active)
      (stop : (perform (stop around slot.id) before).1 = .error failure)
      (kind : failure.kind = .evaluation)
      (restored : after.deck.bank.find? slot.id = some slot)
      (order : after.deck.active = before.deck.active) :
      Replaces before slot code (.error failure) after
  /-- The slot did not play, and the renderer was not asked for anything. -/
  | idle {after : Stage Handle Listener World} (idle : slot.id ∉ before.deck.active)
      (replaced : Replaced around before after slot code slot.playing [.touched slot.id])
      (order : after.deck.active = before.deck.active)
      (running : after.deck.running = before.deck.running) :
      Replaces before slot code (.ok ()) after
  /-- The slot was stopped and started again: it is the last of those that play. -/
  | restarted {after : Stage Handle Listener World} {meanwhile : List (Entry Handle)}
      (active : slot.id ∈ before.deck.active)
      (stop : (perform (stop around slot.id) before).1 = .ok ())
      (replaced : Replaced around before after slot code true meanwhile)
      (order : after.deck.active = before.deck.active.erase slot.id ++ [slot.id]) :
      Replaces before slot code (.ok ()) after
  /-- The slot was stopped and could not be started: the others play on. -/
  | unstarted {failure : Failure} {after : Stage Handle Listener World}
      {meanwhile : List (Entry Handle)} (active : slot.id ∈ before.deck.active)
      (stop : (perform (stop around slot.id) before).1 = .ok ())
      (kind : failure.kind = .evaluation)
      (replaced : Replaced around before after slot code false meanwhile)
      (order : after.deck.active = before.deck.active.erase slot.id) :
      Replaces before slot code (.error failure) after

theorem replaced_of_closed {before ended : Stage Handle Listener World} {playing : Bool}
    {modified : Moment} {meanwhile : List (Entry Handle)}
    (found : ended.deck.bank.find? slot.id = some { slot.recoded code with playing, modified })
    (grown : ended.journal = before.journal ++ meanwhile) :
    Replaced around before ((ended.toldState around slot.id).saved around slot.id) slot code playing
      meanwhile := by
  obtain ⟨outcome, closed⟩ := journal_closed around ended found
  refine ⟨modified, outcome, ?_, ?_⟩
  · rwa [deck_saved, deck_toldState]
  · rw [closed, grown]

theorem Edits.replaces (placed : stage.deck.Placed) (marked : stage.deck.Marked)
    (found : stage.deck.bank.find? id = some slot)
    (edits : Edits around stage id code outcome after) :
    Replaces around stage slot code outcome after := by
  obtain rfl := Bank.id_of_find? found
  have present := placed.present
  have flagged : slot.id ∈ stage.deck.active → slot.playing = true := by
    intro active
    have seen := marked slot.id active
    rw [Bank.view_of_find? Slot.playing found] at seen
    exact Option.some.inj seen
  cases edits with
  | missing missing => exact absurd (Bank.isSome_find?.1 (found ▸ rfl)) missing
  | halted loaded active stopped =>
    have stops := ends_of_perform (perform_stop around stage slot.id present) stopped
    obtain ⟨kind, restored, order⟩ := stops.restored around stage placed found flagged
    exact .halted active (congrArg Prod.fst stopped) kind restored order
  | silent loaded idle =>
    obtain ⟨rewrittenAt, rewritten⟩ := find?_rewritten around stage code found
    refine .idle idle (replaced_of_closed around rewritten rfl) ?_ ?_
    · rw [deck_saved, deck_toldState]
      rfl
    · rw [deck_saved, deck_toldState]
      rfl
  | @restarted _ middle restarted loaded active stopped started =>
    have stops := ends_of_perform (perform_stop around stage slot.id present) stopped
    obtain ⟨⟨stoppedAt, halfway⟩, left⟩ := stops.found around stage placed found active
    obtain ⟨rewrittenAt, rewritten⟩ := find?_rewritten around middle code halfway
    have moved := (stops.moved around stage present).tail
      (.kept (standing_rewritten around middle slot.id code))
    have still := (placed.moved moved).present
    have stopped' : slot.id ∉ middle.deck.active := stops.notMem around stage placed
    have idle : slot.id ∉ (middle.rewritten around slot.id code).deck.active := stopped'
    have starts := ends_of_perform (perform_start around _ slot.id still) started
    -- everything that the stop and the start wrote down comes before the end
    have stopping := (stops.confined around stage present).trans
      (confined_rewritten around middle slot.id code)
    obtain ⟨meanwhile, grown, -⟩ := (stopping.trans (starts.confined around _ still)).grown
    rcases outcome with failure | ⟨⟩
    · obtain ⟨kind, found', order⟩ := starts.unstarted around _ still rewritten idle
      have known : restarted.deck.bank.find? slot.id = some { slot.recoded code with
          playing := false
          modified := .at (around.clock rewrittenAt) } := by
        rw [found']
        simp [Slot.recoded, Slot.refreshed, Parameters.merge_merge]
      refine .unstarted active (congrArg Prod.fst stopped) kind
        (replaced_of_closed around known grown) ?_
      · rw [deck_saved, deck_toldState, order]
        exact left
    · obtain ⟨⟨startedAt, found'⟩, order⟩ := starts.found around _ still rewritten idle
      have known : restarted.deck.bank.find? slot.id =
          some { slot.recoded code with playing := true, modified := startedAt } := by
        rw [found']
        simp [Slot.recoded, Slot.refreshed, Parameters.merge_merge]
      refine .restarted active (congrArg Prod.fst stopped)
        (replaced_of_closed around known grown) ?_
      · rw [deck_saved, deck_toldState, order]
        exact congrArg (· ++ [slot.id]) left

/-- Replacing the code of a slot that is there has exactly four ends, whatever the renderer does:
the slot that plays could not be stopped and all is as before; the slot was at rest and has the new
code without a call on the renderer; it was stopped, has the new code, and plays again as the last
of all; or it was stopped, has the new code, and could not be started, while the others keep their
order. -/
theorem replaces_of_history (bank : Bank) (catalog : Catalog) (listeners : Listeners Topic Listener)
    (world : World) (operations : List Operation) :
    ∀ step ∈ history around (fresh bank catalog listeners world) operations, ∀ id code slot,
      step.operation = .updatePatternCode id code → step.before.deck.bank.find? id = some slot →
        Replaces around step.before slot code step.outcome step.after := by
  intro step taken id code slot asked found
  have placed := (placed_of_history around bank catalog listeners world operations step taken).1
  have marked := marked_of_history around bank catalog listeners world operations step taken
  have performed := perform_of_mem_history around _ operations taken
  rw [asked] at performed
  have edits := ends_of_perform
    (perform_updatePatternCode around step.before id code placed.present) performed
  exact edits.replaces around step.before placed marked found

private def refusingTogether : Surroundings Nat Empty Nat :=
  { Surroundings.refusing (· = "stack(b, c)") with save := some fun _ world => (.ok (), world) }

private def refusedRestart : Step Nat Empty Nat :=
  (history refusingTogether (fresh .pair .empty {} 0)
    [.start 3, .start 5, .updatePatternCode 3 "c"]).get ⟨2, by decide +kernel⟩

/-- The first of two slots gets code with which the two are refused. -/
theorem code_stays_after_refused_restart :
    ∃ slot, refusedRestart.before.deck.bank.find? 3 = some slot ∧
      Replaces refusingTogether refusedRestart.before slot "c" refusedRestart.outcome
        refusedRestart.after ∧
      refusedRestart.outcome.isOk = false ∧ refusedRestart.before.deck.active = [3, 5] ∧
        refusedRestart.after.deck.active = [5] ∧
          refusedRestart.after.deck.bank.view Slot.code 3 = some "c" := by
  obtain ⟨slot, found⟩ : ∃ slot, refusedRestart.before.deck.bank.find? 3 = some slot :=
    Option.isSome_iff_exists.1 (by decide +kernel)
  have asked : refusedRestart.operation = .updatePatternCode 3 "c" := operation_get _ _ _ _ rfl
  have replaces := replaces_of_history refusingTogether .pair .empty {} 0
    [.start 3, .start 5, .updatePatternCode 3 "c"] refusedRestart (List.get_mem _ _)
    3 "c" slot asked found
  exact ⟨slot, found, replaces, by decide +kernel, by decide +kernel, by decide +kernel,
    by decide +kernel⟩

end Stage

end PatternDeck
