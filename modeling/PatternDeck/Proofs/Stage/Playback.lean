import PatternDeck.Proofs.Stage.Rebuild

/-!
What starting and stopping can come to. An operation that rebuilds has an end for every way in which
it can fail, and each of them puts back what was changed for the rebuild. Invariants and the theorems
about single operations are read off these ends.
-/
namespace PatternDeck

namespace Deck

variable {Handle Listener : Type} (deck : Deck Handle Listener)

/-- The deck with one more slot playing, after the others. -/
def joined (id : Int) : Deck Handle Listener :=
  { deck with
    active := deck.active ++ [id]
    bank := deck.bank.modify id fun slot => { slot with playing := true } }

/-- The deck without one of the slots that play. -/
def left (id : Int) : Deck Handle Listener :=
  { deck with
    active := deck.active.erase id
    bank := deck.bank.modify id fun slot => { slot with playing := false } }

/-- The deck with a slot back among those that play. -/
def putBack (id : Int) (active : List Int) : Deck Handle Listener :=
  { deck with
    active
    bank := deck.bank.modify id fun slot => { slot with playing := true } }

/-- The slots that play, and those that are flagged so. -/
def audible : List Int :=
  (deck.bank.slots.filter fun slot => slot.playing || deck.isPlaying slot.id).map (·.id)

/-- The deck with nothing playing. -/
def silent : Deck Handle Listener :=
  { deck with
    active := []
    running := none
    bank := deck.bank.map fun slot => { slot with playing := false } }

variable {deck}

theorem Present.joined {id : Int} (present : deck.Present) (loaded : id ∈ deck.bank.ids) :
    (deck.joined id).Present := by
  intro other there
  rw [Deck.joined, Bank.ids_modify]
  rcases List.mem_append.1 there with there | there
  · exact present other there
  · exact List.mem_singleton.1 there ▸ loaded

theorem Present.left (id : Int) (present : deck.Present) : (deck.left id).Present := by
  intro other there
  rw [Deck.left, Bank.ids_modify]
  exact present other (List.mem_of_mem_erase there)

end Deck

namespace Stage

open Act

variable {Handle Listener World : Type} (around : Surroundings Handle Listener World)
variable (stage : Stage Handle Listener World)

/-- A rebuild that came to an end came to one of the four. -/
theorem rebuilds_of_perform {outcome : Except Failure Unit} {after : Stage Handle Listener World}
    (present : stage.deck.Present) (performed : perform (rebuild around) stage = (outcome, after)) :
    ∃ entries, after.journal = stage.journal ++ entries ∧
      Rebuilds around stage.deck outcome after.deck entries := by
  obtain ⟨outcome', deck, world, entries, same, rebuilt⟩ := perform_rebuild around stage present
  rw [performed, Prod.mk.injEq] at same
  obtain ⟨rfl, rfl⟩ := same
  exact ⟨entries, rfl, rebuilt⟩

theorem prefix_of_rebuild {outcome : Except Failure Unit} {after : Stage Handle Listener World}
    (present : stage.deck.Present) (performed : perform (rebuild around) stage = (outcome, after)) :
    stage.journal <+: after.journal := by
  obtain ⟨entries, grown, -⟩ := rebuilds_of_perform around stage present performed
  exact grown ▸ List.prefix_append _ _

theorem isOwn_of_perform_rebuild {failure : Failure} {after : Stage Handle Listener World}
    (present : stage.deck.Present)
    (failed : perform (rebuild around) stage = (.error failure, after)) : failure.isOwn := by
  obtain ⟨entries, -, rebuilt⟩ := rebuilds_of_perform around stage present failed
  exact rebuilt.isOwn

section Slot

variable (id : Int)

/-- The ends of a start. -/
inductive Starts : Except Failure Unit → Stage Handle Listener World → Prop where
  | missing (missing : id ∉ stage.deck.bank.ids) :
      Starts (.error (.slotMissing id)) (stage.told around (.error (some id) (.slotMissing id)))
  | playing (loaded : id ∈ stage.deck.bank.ids) (active : id ∈ stage.deck.active) :
      Starts (.ok ()) stage
  | failed {failure : Failure} {after : Stage Handle Listener World}
      (loaded : id ∈ stage.deck.bank.ids) (idle : id ∉ stage.deck.active)
      (rebuilt : perform (rebuild around) { stage with deck := stage.deck.joined id } =
        (.error failure, after)) :
      Starts (.error failure)
        ({ after with deck := after.deck.left id }.told around (.error (some id) failure))
  | started {after : Stage Handle Listener World}
      (loaded : id ∈ stage.deck.bank.ids) (idle : id ∉ stage.deck.active)
      (rebuilt : perform (rebuild around) { stage with deck := stage.deck.joined id } =
        (.ok (), after)) :
      Starts (.ok ()) (((after.stamped around id).toldPlaying around id).saved around id)

theorem perform_start (present : stage.deck.Present) :
    ∃ outcome after, perform (start around id) stage = (outcome, after) ∧
      Starts around stage id outcome after := by
  by_cases loaded : id ∈ stage.deck.bank.ids
  · obtain ⟨slot, found, there⟩ := perform_slot_of_mem around stage loaded
    by_cases active : id ∈ stage.deck.active
    · refine ⟨_, _, ?_, .playing loaded active⟩
      simp only [start, perform_bind, there, perform_getDeck, active, if_true, perform_pure]
    · rcases rebuilt : perform (rebuild around) { stage with deck := stage.deck.joined id } with
        ⟨failure | ⟨⟩, after⟩
      · refine ⟨_, _, ?_, .failed loaded active rebuilt⟩
        -- the failure is one of the engine's own, so the slot is taken out before it goes on
        have own := isOwn_of_perform_rebuild around _ (present.joined loaded) rebuilt
        simp only [Deck.joined] at rebuilt
        simp only [start, perform_bind, there, perform_getDeck, active, if_false, perform_changeDeck,
          perform_setPlaying, perform_orElseOwn_of_isOwn _ rebuilt own, perform_report, Deck.left,
          perform_throw]
      · refine ⟨_, _, ?_, .started loaded active rebuilt⟩
        simp only [Deck.joined] at rebuilt
        simp only [start, perform_bind, there, perform_getDeck, active, if_false, perform_changeDeck,
          perform_setPlaying, perform_orElseOwn_of_ok _ rebuilt, perform_touch,
          perform_announcePlaying, perform_persist]
  · refine ⟨_, _, ?_, .missing loaded⟩
    simp only [start, perform_bind, perform_slot_of_notMem around stage loaded]

theorem Starts.prefix_journal {outcome : Except Failure Unit} {after : Stage Handle Listener World}
    (present : stage.deck.Present) (starts : Starts around stage id outcome after) :
    stage.journal <+: after.journal := by
  cases starts with
  | missing => exact prefix_told around stage _
  | playing => exact List.prefix_refl _
  | failed loaded _ rebuilt =>
    have grown := prefix_of_rebuild around _ (present.joined loaded) rebuilt
    exact grown.trans (List.prefix_append _ _)
  | @started after loaded _ rebuilt =>
    have grown := prefix_of_rebuild around _ (present.joined loaded) rebuilt
    exact (grown.trans (prefix_stamped around after id)).trans
      ((prefix_toldPlaying around _ id).trans (prefix_saved around _ id))

/-- The ends of a stop. -/
inductive Stops : Except Failure Unit → Stage Handle Listener World → Prop where
  | missing (missing : id ∉ stage.deck.bank.ids) :
      Stops (.error (.slotMissing id)) (stage.told around (.error (some id) (.slotMissing id)))
  | idle (loaded : id ∈ stage.deck.bank.ids) (idle : id ∉ stage.deck.active) :
      Stops (.ok ()) stage
  | failed {failure : Failure} {after : Stage Handle Listener World}
      (loaded : id ∈ stage.deck.bank.ids) (active : id ∈ stage.deck.active)
      (rebuilt : perform (rebuild around) { stage with deck := stage.deck.left id } =
        (.error failure, after)) :
      Stops (.error failure)
        ({ after with deck := after.deck.putBack id stage.deck.active }.told around
          (.error (some id) failure))
  | stopped {after : Stage Handle Listener World}
      (loaded : id ∈ stage.deck.bank.ids) (active : id ∈ stage.deck.active)
      (rebuilt : perform (rebuild around) { stage with deck := stage.deck.left id } =
        (.ok (), after)) :
      Stops (.ok ()) ((after.stamped around id).toldPlaying around id)

theorem perform_stop (present : stage.deck.Present) :
    ∃ outcome after, perform (stop around id) stage = (outcome, after) ∧
      Stops around stage id outcome after := by
  by_cases loaded : id ∈ stage.deck.bank.ids
  · obtain ⟨slot, found, there⟩ := perform_slot_of_mem around stage loaded
    by_cases active : id ∈ stage.deck.active
    · rcases rebuilt : perform (rebuild around) { stage with deck := stage.deck.left id } with
        ⟨failure | ⟨⟩, after⟩
      · refine ⟨_, _, ?_, .failed loaded active rebuilt⟩
        -- the list is put back whole, so the slot is where it was among the others
        have own := isOwn_of_perform_rebuild around _ (present.left id) rebuilt
        simp only [Deck.left] at rebuilt
        simp only [stop, perform_bind, there, perform_getDeck, active, not_true, if_false,
          perform_changeDeck, perform_setPlaying, perform_orElseOwn_of_isOwn _ rebuilt own,
          perform_report, Deck.putBack, perform_throw]
      · refine ⟨_, _, ?_, .stopped loaded active rebuilt⟩
        simp only [Deck.left] at rebuilt
        simp only [stop, perform_bind, there, perform_getDeck, active, not_true, if_false,
          perform_changeDeck, perform_setPlaying, perform_orElseOwn_of_ok _ rebuilt, perform_touch,
          perform_announcePlaying]
    · refine ⟨_, _, ?_, .idle loaded active⟩
      simp only [stop, perform_bind, there, perform_getDeck, active, not_false_eq_true, if_true,
        perform_pure]
  · refine ⟨_, _, ?_, .missing loaded⟩
    simp only [stop, perform_bind, perform_slot_of_notMem around stage loaded]

theorem Stops.ids {outcome : Except Failure Unit} {after : Stage Handle Listener World}
    (present : stage.deck.Present) (stops : Stops around stage id outcome after) :
    after.deck.bank.ids = stage.deck.bank.ids := by
  cases stops with
  | missing | idle => rfl
  | failed _ _ rebuilt =>
    obtain ⟨entries, -, rebuilds⟩ := rebuilds_of_perform around _ (present.left id) rebuilt
    simpa [Deck.putBack, Deck.left] using rebuilds.ids
  | stopped _ _ rebuilt =>
    obtain ⟨entries, -, rebuilds⟩ := rebuilds_of_perform around _ (present.left id) rebuilt
    simpa [Deck.left] using rebuilds.ids

theorem perform_toggle :
    perform (toggle around id) stage =
      if id ∈ stage.deck.active then perform (stop around id) stage
      else perform (start around id) stage := by
  simp only [toggle, perform_bind, perform_getDeck, perform_ite]

end Slot

section Library

/-- The stage once it was told of slots that were stopped. -/
def toldStopped (stage : Stage Handle Listener World) : List Int → Stage Handle Listener World
  | [] => stage
  | id :: rest => ((stage.stamped around id).toldPlaying around id).toldStopped rest

@[simp] theorem perform_announceStopped (ids : List Int) :
    perform (announceStopped around ids) stage = (.ok (), stage.toldStopped around ids) := by
  -- each of them is told of on the stage that telling of the one before left
  induction ids generalizing stage with
  | nil => rfl
  | cons id rest ih =>
    simp only [announceStopped, perform_bind, perform_touch, perform_announcePlaying, ih,
      toldStopped]

/-- Stopping everything always works. It ends with telling that no composite plays. -/
theorem perform_stopAll :
    ∃ world stops outcome, Halts stage.deck.running stops ∧
      perform (stopAll around) stage =
        (.ok (), ((⟨stage.deck.silent, world, stage.journal ++ stops ++ [.hushed outcome]⟩ :
          Stage Handle Listener World).toldStopped around stage.deck.audible).told around
            (.rebuild none)) := by
  obtain ⟨quiet, stops, halted, halts⟩ := perform_stopCurrent around stage
  let hushed := around.hush quiet
  refine ⟨hushed.2, stops, hushed.1, halted, ?_⟩
  simp only [stopAll, perform_bind, halts, perform_ask, perform_getDeck, perform_changeDeck,
    perform_announceStopped, perform_announce, Deck.silent, hushed]
  rfl

variable (slots : List Slot) (name version : Option Label)

/-- The ends of a library's load: everything was stopped, and the slots could be taken or not. -/
inductive Loads : Except Failure Unit → Stage Handle Listener World → Prop where
  | refused {failure : Failure} {after : Stage Handle Listener World}
      (stopped : perform (stopAll around) stage = (.ok (), after))
      (refusal : after.deck.bank.replaced slots name version = .error failure) :
      Loads (.error failure) after
  | loaded {bank : Bank} {after : Stage Handle Listener World}
      (stopped : perform (stopAll around) stage = (.ok (), after))
      (taken : after.deck.bank.replaced slots name version = .ok bank) :
      Loads (.ok ())
        { after with
          deck := { after.deck with
            bank
            selected := after.deck.selected.filter fun id => (bank.find? id).isSome } }

theorem perform_loadLibrary :
    ∃ outcome after, perform (loadLibrary around slots name version) stage = (outcome, after) ∧
      Loads around stage slots name version outcome after := by
  -- everything is stopped by the time the slots can be refused
  obtain ⟨after, stopped⟩ : ∃ after, perform (stopAll around) stage = (.ok (), after) := by
    obtain ⟨world, stops, outcome, -, stopped⟩ := perform_stopAll around stage
    exact ⟨_, stopped⟩
  rcases taken : after.deck.bank.replaced slots name version with failure | bank
  · refine ⟨_, _, ?_, .refused stopped taken⟩
    simp only [loadLibrary, perform_bind, stopped, perform_getDeck, taken, perform_throw]
  · refine ⟨_, _, ?_, .loaded stopped taken⟩
    simp only [loadLibrary, perform_bind, stopped, perform_getDeck, taken, perform_changeDeck]

end Library

end Stage

end PatternDeck
