import PatternDeck.Proofs.Stage.Control
import PatternDeck.Proofs.Stage.Journal

/-!
Excerpts of a journal: what shows in one who looks for a few kinds of entries alone. Of most parts of
operations nothing shows to a look for failures, or for lights.
-/
namespace PatternDeck

namespace Entry

variable {Handle α : Type}

/-- Listeners are told that something failed, or that a light changes. -/
def isAlert : Entry Handle → Bool
  | announced (.error ..) | announced (.indicator ..) => true
  | _ => false

/-- A look that passes over everything but alerts. -/
class Narrow (look : Entry Handle → Option α) : Prop where
  passes : ∀ {entry}, entry.isAlert = false → look entry = none

theorem isAlert_of_isStop {entry : Entry Handle} (stop : entry.isStop) : entry.isAlert = false := by
  cases entry <;> simp_all [isStop, isAlert]

end Entry

namespace Stage

open Act

variable {Handle Listener World α : Type} (around : Surroundings Handle Listener World)
variable (look : Entry Handle → Option α) (stage : Stage Handle Listener World) (id : Int)

def excerpt : List α := stage.journal.filterMap look

theorem excerpt_told (event : Event) :
    (stage.told around event).excerpt look =
      stage.excerpt look ++ (look (.announced event)).toList := by
  rw [excerpt, journal_told, List.filterMap_append]
  cases shown : look (.announced event) <;> simp [excerpt, shown]

theorem excerpt_told_of_unseen {event : Event} (unseen : look (.announced event) = none) :
    (stage.told around event).excerpt look = stage.excerpt look := by
  rw [excerpt_told, unseen]
  exact List.append_nil _

variable [Entry.Narrow look]

section Grown

variable {stage look}

theorem excerpt_of_grown {after : Stage Handle Listener World} {entries : List (Entry Handle)}
    (grown : after.journal = stage.journal ++ entries)
    (calm : ∀ entry ∈ entries, entry.isAlert = false) : after.excerpt look = stage.excerpt look := by
  have unseen : entries.filterMap look = [] :=
    List.filterMap_eq_nil_iff.2 fun entry there => Entry.Narrow.passes (calm entry there)
  rw [excerpt, grown, List.filterMap_append, unseen, List.append_nil, excerpt]

end Grown

@[simp] theorem excerpt_stamped :
    (stage.stamped around id).excerpt look = stage.excerpt look :=
  excerpt_of_grown (journal_stamped around stage id) (by simp [Entry.isAlert])

@[simp] theorem excerpt_toldState :
    (stage.toldState around id).excerpt look = stage.excerpt look := by
  rcases found : stage.deck.bank.find? id with _ | slot
  · rw [toldState_of_missing around stage found]
  · rw [toldState_of_find? around stage found]
    exact excerpt_of_grown (journal_told around stage _) (by simp [Entry.isAlert])

@[simp] theorem excerpt_saved : (stage.saved around id).excerpt look = stage.excerpt look := by
  obtain ⟨saves, grown, saved⟩ := journal_saved around stage id
  refine excerpt_of_grown grown fun entry there => ?_
  obtain ⟨slot, outcome, rfl, -⟩ := saved entry there
  rfl

@[simp] theorem excerpt_toldParameter (p : Parameter) :
    (stage.toldParameter around id p).excerpt look = stage.excerpt look := by
  rw [toldParameter, excerpt_saved, excerpt_toldState]
  exact excerpt_of_grown (journal_told around _ _) (by simp [Entry.isAlert])

@[simp] theorem excerpt_edited {β : Type} (change : Edit β) :
    (stage.edited change).excerpt look = stage.excerpt look :=
  excerpt_of_grown rfl (by simp [Entry.isAlert])

@[simp] theorem excerpt_rewritten (code : String) :
    (stage.rewritten around id code).excerpt look = stage.excerpt look := by
  have grown : (stage.rewritten around id code).journal = stage.journal ++ [.touched id] := rfl
  exact excerpt_of_grown grown (by simp [Entry.isAlert])

variable {stage} in
/-- A rebuild leaves it to the operation to tell of its failure. -/
theorem excerpt_rebuilt {outcome : Except Failure Unit} {after : Stage Handle Listener World}
    (present : stage.deck.Present) (rebuilt : perform (rebuild around) stage = (outcome, after)) :
    after.excerpt look = stage.excerpt look := by
  obtain ⟨entries, grown, rebuilds⟩ := rebuilds_of_perform around stage present rebuilt
  obtain ⟨deck, world, journal⟩ := after
  have quiet : ∀ {stops : List (Entry Handle)}, Halts stage.deck.running stops →
      ∀ entry ∈ stops, entry.isAlert = false :=
    fun halts entry there => Entry.isAlert_of_isStop (halts.isStop entry there)
  refine excerpt_of_grown grown ?_
  cases rebuilds with
  | silenced idle stopped =>
    exact List.forall_mem_append.2 ⟨quiet stopped, by simp [Entry.isAlert]⟩
  | refused => simp [Entry.isAlert]
  | unstarted handle fault busy stopped | started handle busy stopped =>
    refine List.forall_mem_append.2 ⟨List.forall_mem_cons.2 ⟨rfl, quiet stopped⟩, ?_⟩
    simp [Entry.isAlert]

variable {stage} in
/-- The program by itself is compiled before live code is played. -/
theorem excerpt_compiled (deck : Deck Handle Listener) (world : World) (program : String)
    (outcome : Except Fault Handle) :
    excerpt look ⟨deck, world, stage.journal ++ [.compiled program outcome]⟩ = stage.excerpt look :=
  excerpt_of_grown rfl (by simp [Entry.isAlert])

/-- Stopping everything tells of each slot that was heard, in the end. -/
theorem perform_stopAll_excerpt :
    ∃ quiet : Stage Handle Listener World, quiet.deck = stage.deck.silent ∧
      quiet.excerpt look = stage.excerpt look ∧
      perform (stopAll around) stage =
        (.ok (), (quiet.toldStopped around stage.deck.audible).told around (.rebuild none)) := by
  obtain ⟨world, stops, hushed, halts, silenced⟩ := perform_stopAll around stage
  refine ⟨⟨stage.deck.silent, world, stage.journal ++ stops ++ [.hushed hushed]⟩, rfl, ?_, silenced⟩
  refine excerpt_of_grown (List.append_assoc ..) (List.forall_mem_append.2 ⟨?_, ?_⟩)
  · exact fun entry there => Entry.isAlert_of_isStop (halts.isStop entry there)
  · simp [Entry.isAlert]

end Stage

end PatternDeck
