import PatternDeck.Proofs.Binding
import PatternDeck.Proofs.Stage.Blocks
import PatternDeck.Proofs.Stage.Journal

/-!
What a rebuild can come to. There are four ways: nothing plays and the composite is stopped; the
renderer refuses the new composite, and the old one plays on; the old one was stopped and the new
one does not start; the new one plays. Everything that is proved of rebuilds is read off these.
-/
namespace PatternDeck

namespace Bank

/-- The bank with the parameters of some slots refreshed. -/
def refreshed (bank : Bank) (ids : List Int) : Bank :=
  bank.map fun slot => if slot.id ∈ ids then slot.refreshed else slot

@[simp] theorem ids_refreshed (bank : Bank) (ids : List Int) : (bank.refreshed ids).ids = bank.ids :=
  ids_map bank _

/-- A refresh shows in the parameters of slots and in nothing else. -/
theorem view_refreshed {Seen : Type} {look : Slot → Seen} (bank : Bank) (ids : List Int)
    (same : ∀ slot : Slot, look slot.refreshed = look slot) :
    (bank.refreshed ids).view look = bank.view look := by
  apply view_map
  intro slot
  split
  · exact same slot
  · rfl

theorem refreshed_nil (bank : Bank) : bank.refreshed [] = bank := by
  simp [refreshed, map]

theorem refreshed_modify (bank : Bank) (id : Int) (ids : List Int) :
    (bank.modify id Slot.refreshed).refreshed ids = bank.refreshed (id :: ids) := by
  simp only [refreshed, modify, map, List.map_map, mk.injEq, and_self, and_true]
  apply List.map_congr_left
  intro slot _
  -- a slot that comes up twice is refreshed twice, which is once
  by_cases first : slot.id = id <;> by_cases later : slot.id ∈ ids
  all_goals simp [first, later, Slot.refreshed, Parameters.merge_merge]

/-- The texts of slots, in order. -/
def texts (bank : Bank) (ids : List Int) : List String := ids.filterMap (bank.view Slot.text)

end Bank

/-- Every slot that plays is in the bank. -/
def Deck.Present {Handle Listener : Type} (deck : Deck Handle Listener) : Prop :=
  ∀ id ∈ deck.active, id ∈ deck.bank.ids

namespace Stage

open Act

variable {Handle Listener World : Type} (around : Surroundings Handle Listener World)
variable (stage : Stage Handle Listener World)

/-- What stopping the composite writes down: nothing, if none plays. -/
inductive Halts : Option (Running Handle) → List (Entry Handle) → Prop where
  | none : Halts none []
  | some (running : Running Handle) (outcome : Except Fault Unit) :
      Halts (some running) [.stopped running.handle outcome]

theorem Halts.isStop {running : Option (Running Handle)} {stops : List (Entry Handle)}
    (halts : Halts running stops) : ∀ entry ∈ stops, entry.isStop := by
  cases halts with
  | none => simp
  | some running outcome => simp [Entry.isStop]

/-- The composite is gone, whether the renderer could stop it or not. -/
theorem perform_stopCurrent : ∃ world stops, Halts stage.deck.running stops ∧
    perform (stopCurrent around) stage =
      (.ok (), ⟨{ stage.deck with running := none }, world, stage.journal ++ stops⟩) := by
  obtain ⟨⟨bank, catalog, selected, active, running, listeners⟩, world, journal⟩ := stage
  simp only [stopCurrent, perform_bind, perform_getDeck]
  cases running with
  | none => exact ⟨world, [], .none, by simp only [perform_pure, List.append_nil]⟩
  | some running =>
    let asked := around.stop running.handle world
    refine ⟨asked.2, [.stopped running.handle asked.1], .some running asked.1, ?_⟩
    simp only [perform_bind, perform_changeDeck, perform_ask, perform_pure, asked]

/-- A text for every slot, and nothing but their parameters is changed. -/
theorem perform_resolveAll (ids : List Int) (present : ∀ id ∈ ids, id ∈ stage.deck.bank.ids) :
    perform (resolveAll ids) stage =
      (.ok (stage.deck.bank.texts ids),
        { stage with deck := { stage.deck with bank := stage.deck.bank.refreshed ids } }) := by
  -- each slot is refreshed before the next is resolved, and that changes no text
  induction ids generalizing stage with
  | nil => simp [resolveAll, Bank.texts, Bank.refreshed_nil]
  | cons id rest ih =>
    obtain ⟨slot, found⟩ := Option.isSome_iff_exists.1
      (Bank.isSome_find?.2 (present id List.mem_cons_self))
    have resolved := Binding.perform_resolve { bank := stage.deck.bank } found
    have after : stage.edited (Binding.resolve id) =
        { stage with
          deck := { stage.deck with bank := stage.deck.bank.modify id Slot.refreshed } } := by
      simp [edited, resolved, Binding.refreshed]
    have recursion := ih (stage.edited (Binding.resolve id)) (by
      intro other there
      simpa [after] using present other (List.mem_cons_of_mem id there))
    have texts : (stage.deck.bank.modify id Slot.refreshed).texts rest = stage.deck.bank.texts rest := by
      rw [Bank.texts, Bank.texts, Bank.view_modify _ _ Slot.text_refreshed]
    have first := Bank.view_of_find? Slot.text found
    rw [after] at recursion
    simp only [Bank.refreshed_modify, texts] at recursion
    simp only [resolveAll, perform_bind, perform_edit, resolved, after, recursion, perform_pure]
    rw [Bank.texts, Bank.texts, List.filterMap_cons, first]

/-- The program of a deck that plays something. -/
def program (deck : Deck Handle Listener) : String :=
  composite around (deck.bank.texts deck.active)

/-- From a deck, a rebuild comes to an outcome, another deck, and entries of the journal. -/
inductive Rebuilds (deck : Deck Handle Listener) :
    Except Failure Unit → Deck Handle Listener → List (Entry Handle) → Prop where
  | silenced {stops : List (Entry Handle)} (idle : deck.active = [])
      (stopped : Halts deck.running stops) :
      Rebuilds deck (.ok ()) { deck with running := none } (stops ++ [.announced (.rebuild none)])
  | refused (fault : Fault) (busy : deck.active ≠ []) :
      Rebuilds deck (.error (.rejected fault.message (program around deck)))
        { deck with bank := deck.bank.refreshed deck.active }
        [.compiled (program around deck) (.error fault)]
  | unstarted {stops : List (Entry Handle)} (handle : Handle) (fault : Fault)
      (busy : deck.active ≠ []) (stopped : Halts deck.running stops) :
      Rebuilds deck (.error (.rejected fault.message (program around deck)))
        { deck with bank := deck.bank.refreshed deck.active, running := none }
        (.compiled (program around deck) (.ok handle) :: stops ++ [.started handle (.error fault)])
  | started {stops : List (Entry Handle)} (handle : Handle) (busy : deck.active ≠ [])
      (stopped : Halts deck.running stops) :
      Rebuilds deck (.ok ())
        { deck with
          bank := deck.bank.refreshed deck.active
          running := some ⟨handle, program around deck⟩ }
        (.compiled (program around deck) (.ok handle) :: stops ++
          [.started handle (.ok ()), .announced (.rebuild (some (program around deck)))])

theorem Rebuilds.isOwn {deck after : Deck Handle Listener} {failure : Failure}
    {entries : List (Entry Handle)} (rebuilt : Rebuilds around deck (.error failure) after entries) :
    failure.isOwn := by
  cases rebuilt <;> rfl

theorem Rebuilds.ids {deck after : Deck Handle Listener} {outcome : Except Failure Unit}
    {entries : List (Entry Handle)} (rebuilt : Rebuilds around deck outcome after entries) :
    after.bank.ids = deck.bank.ids := by
  cases rebuilt
  case silenced => rfl
  all_goals exact Bank.ids_refreshed _ _

/-- Every rebuild of slots that are there goes one of the four ways. -/
theorem perform_rebuild (present : stage.deck.Present) :
    ∃ outcome deck world entries,
      perform (rebuild around) stage = (outcome, ⟨deck, world, stage.journal ++ entries⟩) ∧
      Rebuilds around stage.deck outcome deck entries := by
  by_cases idle : stage.deck.active = []
  · obtain ⟨world, stops, stopped, halts⟩ := perform_stopCurrent around stage
    -- nothing plays, so nothing is compiled
    have empty : stage.deck.active.isEmpty = true := List.isEmpty_iff.2 idle
    let quiet : Stage Handle Listener World :=
      ⟨{ stage.deck with running := none }, world, stage.journal ++ stops⟩
    refine ⟨_, _, (quiet.told around (.rebuild none)).world, _, ?_, .silenced idle stopped⟩
    rw [← List.append_assoc]
    simp only [rebuild, perform_bind, perform_getDeck, empty, if_true, halts, perform_announce]
    rfl
  · have busy : stage.deck.active.isEmpty = false := by simpa using idle
    have resolved := perform_resolveAll stage stage.deck.active present
    -- the old composite plays on until the new one is compiled
    rcases compiled : around.compile (program around stage.deck) stage.world with
      ⟨fault | handle, world⟩
    · refine ⟨_, _, world, _, ?_, .refused fault idle⟩
      rw [program] at compiled ⊢
      simp only [rebuild, perform_bind, perform_getDeck, busy, Bool.false_eq_true, if_false,
        resolved, perform_ask, compiled, perform_throw]
    · let middle : Stage Handle Listener World :=
        ⟨{ stage.deck with bank := stage.deck.bank.refreshed stage.deck.active }, world,
          stage.journal ++ [.compiled (program around stage.deck) (.ok handle)]⟩
      -- from here on it is gone, whether the new one starts or not
      obtain ⟨quiet, stops, stopped, halts⟩ := perform_stopCurrent around middle
      rcases started : around.start handle quiet with ⟨fault | ⟨⟩, later⟩
      · refine ⟨_, _, later, _, ?_, .unstarted handle fault idle stopped⟩
        rw [program] at compiled ⊢
        simp only [middle, program] at halts
        simp only [rebuild, perform_bind, perform_getDeck, busy, Bool.false_eq_true, if_false,
          resolved, perform_ask, compiled, halts, started, perform_throw, List.append_assoc,
          List.cons_append, List.nil_append]
      · let playing : Stage Handle Listener World :=
          ⟨{ middle.deck with running := some ⟨handle, program around stage.deck⟩ }, later,
            middle.journal ++ stops ++ [.started handle (.ok ())]⟩
        have written : stage.journal ++ (.compiled (program around stage.deck) (.ok handle) ::
            stops ++ [.started handle (.ok ()),
              .announced (.rebuild (some (program around stage.deck)))]) =
            playing.journal ++ [.announced (.rebuild (some (program around stage.deck)))] := by
          simp [playing, middle]
        refine ⟨_, _, (playing.told around (.rebuild (some (program around stage.deck)))).world, _,
          ?_, .started handle idle stopped⟩
        rw [written]
        simp only [playing, middle]
        rw [program] at compiled ⊢
        simp only [middle, program] at halts
        simp only [rebuild, perform_bind, perform_getDeck, busy, Bool.false_eq_true, if_false,
          resolved, perform_ask, compiled, halts, started, perform_changeDeck, perform_announce]
        rfl

end Stage

end PatternDeck
