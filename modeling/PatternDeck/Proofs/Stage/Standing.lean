import Mathlib.Logic.Relation
import PatternDeck.Proofs.Stage.Playback

/-!
What plays is told three times: by the list of the slots that play, by the flag of each slot, and by
the selection, which names a slot of the same bank. `Consistent` says that the three agree, and
`Placed` leaves out the flags. Operations are made of a few kinds of moves, each of which keeps both.
-/
namespace PatternDeck

namespace Deck

variable {Handle Listener : Type}

/-- The active list is one of slots of the bank, each once, and so is the selection. -/
structure Placed (deck : Deck Handle Listener) : Prop where
  distinct : deck.active.Nodup
  present : deck.Present
  chosen : ∀ id ∈ deck.selected, id ∈ deck.bank.ids

/-- The list, the flags and the selection agree. -/
structure Consistent (deck : Deck Handle Listener) : Prop extends Placed deck where
  flagged : ∀ slot ∈ deck.bank.slots, slot.playing ↔ slot.id ∈ deck.active

/-- What the agreement is about. -/
def standing (deck : Deck Handle Listener) :
    List Int × Option Int × List Int × (Int → Option Bool) :=
  (deck.active, deck.selected, deck.bank.ids, deck.bank.view Slot.playing)

variable {deck other : Deck Handle Listener}

theorem Placed.congr (same : deck.standing = other.standing) (placed : deck.Placed) :
    other.Placed := by
  simp only [standing, Prod.mk.injEq] at same
  obtain ⟨active, selected, ids, -⟩ := same
  obtain ⟨distinct, present, chosen⟩ := placed
  rw [Present, active, ids] at present
  rw [selected, ids] at chosen
  exact ⟨active ▸ distinct, present, chosen⟩

/-- The flag of a slot is the one that is seen under its id. -/
theorem flagged_iff (deck : Deck Handle Listener) :
    (∀ slot ∈ deck.bank.slots, slot.playing ↔ slot.id ∈ deck.active) ↔
      ∀ id playing, deck.bank.view Slot.playing id = some playing →
        (playing = true ↔ id ∈ deck.active) := by
  constructor
  -- a slot and its id determine each other in a bank
  · intro flagged id playing seen
    obtain ⟨slot, found, rfl⟩ := Option.map_eq_some_iff.1 seen
    obtain ⟨member, rfl⟩ := Bank.find?_eq_some_iff.1 found
    exact flagged slot member
  · intro flagged slot member
    have found := Bank.find?_eq_some_iff.2 ⟨member, rfl⟩
    exact flagged slot.id slot.playing (Bank.view_of_find? Slot.playing found)

theorem Consistent.congr (same : deck.standing = other.standing) (consistent : deck.Consistent) :
    other.Consistent := by
  refine ⟨consistent.toPlaced.congr same, ?_⟩
  simp only [standing, Prod.mk.injEq] at same
  obtain ⟨active, -, -, flags⟩ := same
  have flagged := (flagged_iff deck).1 consistent.flagged
  rw [active, flags] at flagged
  exact (flagged_iff other).2 flagged

/-- A flag that is set shows under the id of its slot. -/
theorem view_flag (bank : Bank) (id : Int) (playing : Bool) (other : Int) :
    (bank.modify id fun slot => { slot with playing }).view Slot.playing other =
      if other = id then (bank.view Slot.playing other).map fun _ => playing
      else bank.view Slot.playing other := by
  apply Bank.view_modify_eq
  exact fun _ => rfl

theorem standing_modify (deck : Deck Handle Listener) (id : Int) {change : Slot → Slot}
    (same : ∀ slot, (change slot).playing = slot.playing) :
    ({ deck with bank := deck.bank.modify id change } : Deck Handle Listener).standing =
      deck.standing := by
  simp only [standing, Bank.ids_modify]
  rw [Bank.view_modify deck.bank id same]

/-- The flags and the list agree once the flag of a slot is set, if no other slot came or went. -/
theorem flagged_modify {id : Int} {playing : Bool} {active : List Int}
    (flagged : ∀ slot ∈ deck.bank.slots, slot.playing ↔ slot.id ∈ deck.active)
    (own : playing = true ↔ id ∈ active)
    (others : ∀ other, other ≠ id → (other ∈ active ↔ other ∈ deck.active)) :
    ∀ slot ∈ (deck.bank.modify id fun slot => { slot with playing }).slots,
      slot.playing ↔ slot.id ∈ active := by
  refine (flagged_iff { deck with
    active
    bank := deck.bank.modify id fun slot => { slot with playing } }).2 ?_
  intro other flag seen
  rw [view_flag] at seen
  split at seen
  next same =>
    obtain ⟨-, -, rfl⟩ := Option.map_eq_some_iff.1 seen
    rw [same]
    exact own
  next differs =>
    rw [others other differs]
    exact (flagged_iff deck).1 flagged other flag seen

theorem Placed.joined {id : Int} (placed : deck.Placed) (loaded : id ∈ deck.bank.ids)
    (idle : id ∉ deck.active) : (deck.joined id).Placed where
  distinct := by
    have distinct := placed.distinct
    rw [Deck.joined]
    exact distinct.append (List.nodup_singleton id) (by simpa using idle)
  present := placed.present.joined loaded
  chosen := by simpa [Deck.joined] using placed.chosen

theorem Placed.left (placed : deck.Placed) (id : Int) : (deck.left id).Placed where
  distinct := placed.distinct.erase id
  present := placed.present.left id
  chosen := by simpa [Deck.left] using placed.chosen

theorem Placed.putBack (placed : deck.Placed) (id : Int) : (deck.putBack id deck.active).Placed where
  distinct := placed.distinct
  present := by simpa [Deck.putBack, Present] using placed.present
  chosen := by simpa [Deck.putBack] using placed.chosen

theorem Placed.silent (placed : deck.Placed) : deck.silent.Placed where
  distinct := List.nodup_nil
  present := by simp [Deck.silent, Present]
  chosen := by simpa [Deck.silent] using placed.chosen

theorem Consistent.joined {id : Int} (consistent : deck.Consistent) (loaded : id ∈ deck.bank.ids)
    (idle : id ∉ deck.active) : (deck.joined id).Consistent := by
  refine ⟨consistent.toPlaced.joined loaded idle, flagged_modify consistent.flagged ?_ ?_⟩
  · simp [Deck.joined]
  · intro other differs
    simp [Deck.joined, differs]

theorem Consistent.left (consistent : deck.Consistent) (id : Int) : (deck.left id).Consistent := by
  -- an id that stood in the list twice would still be there
  have once := consistent.distinct
  refine ⟨consistent.toPlaced.left id, flagged_modify consistent.flagged ?_ ?_⟩
  · simp [Deck.left, once.mem_erase_iff]
  · intro other differs
    simp [Deck.left, once.mem_erase_iff, differs]

theorem Consistent.putBack {id : Int} (consistent : deck.Consistent) (active : id ∈ deck.active) :
    (deck.putBack id deck.active).Consistent := by
  refine ⟨consistent.toPlaced.putBack id, flagged_modify consistent.flagged ?_ ?_⟩
  · simp [Deck.putBack, active]
  · exact fun _ _ => Iff.rfl

theorem Consistent.silent (consistent : deck.Consistent) : deck.silent.Consistent := by
  refine ⟨consistent.toPlaced.silent, (flagged_iff _).2 fun id playing seen => ?_⟩
  rw [Deck.silent, Bank.view_map_eq _ (fun _ => false) fun _ => rfl] at seen
  obtain ⟨-, -, rfl⟩ := Option.map_eq_some_iff.1 seen
  simp [Deck.silent]

/-- What an operation does to the list, the flags and the selection, in one of its parts. Loading a
library is not among these. -/
inductive Moves (deck after : Deck Handle Listener) : Prop where
  | kept (same : after.standing = deck.standing)
  | joined {id : Int} (loaded : id ∈ deck.bank.ids) (idle : id ∉ deck.active)
      (same : after.standing = (deck.joined id).standing)
  | left (id : Int) (same : after.standing = (deck.left id).standing)
  | putBack {id : Int} (active : id ∈ deck.active)
      (same : after.standing = (deck.putBack id deck.active).standing)
  | selected {selected : Option Int} (loaded : ∀ id ∈ selected, id ∈ deck.bank.ids)
      (same : after.standing = { deck with selected }.standing)
  | silenced (same : after.standing = deck.silent.standing)

theorem Placed.moves (placed : deck.Placed) (moves : Moves deck other) : other.Placed := by
  cases moves with
  | kept same => exact placed.congr same.symm
  | joined loaded idle same => exact (placed.joined loaded idle).congr same.symm
  | left id same => exact (placed.left id).congr same.symm
  | @putBack id active same => exact (placed.putBack id).congr same.symm
  | selected loaded same =>
    exact Placed.congr same.symm ⟨placed.distinct, placed.present, loaded⟩
  | silenced same => exact placed.silent.congr same.symm

theorem Consistent.moves (consistent : deck.Consistent) (moves : Moves deck other) :
    other.Consistent := by
  cases moves with
  | kept same => exact consistent.congr same.symm
  | joined loaded idle same => exact (consistent.joined loaded idle).congr same.symm
  | left id same => exact (consistent.left id).congr same.symm
  | putBack active same => exact (consistent.putBack active).congr same.symm
  | @selected selected loaded same =>
    have chosen : ({ deck with selected } : Deck Handle Listener).Consistent :=
      ⟨⟨consistent.distinct, consistent.present, loaded⟩, consistent.flagged⟩
    exact chosen.congr same.symm
  | silenced same => exact consistent.silent.congr same.symm

/-- A slot that left is put back to where it was. -/
theorem standing_putBack {id : Int} (same : other.standing = (deck.left id).standing)
    (active : List Int) : (other.putBack id active).standing = (deck.putBack id active).standing := by
  simp only [standing, Prod.mk.injEq] at same ⊢
  -- the flag is set over the one that was taken off
  obtain ⟨-, selected, ids, flags⟩ := same
  refine ⟨rfl, selected, by simpa [putBack, left] using ids, ?_⟩
  funext other'
  rw [putBack, putBack, view_flag, view_flag, flags, left, view_flag]
  split
  · rw [Option.map_map]
    rfl
  · rfl

/-- Several parts, one after another. -/
abbrev Moved : Deck Handle Listener → Deck Handle Listener → Prop := Relation.ReflTransGen Moves

theorem Moved.kept (same : other.standing = deck.standing) : Moved deck other := .single (.kept same)

theorem Placed.moved (placed : deck.Placed) (moved : Moved deck other) : other.Placed := by
  induction moved with
  | refl => exact placed
  | tail _ moves ih => exact ih.moves moves

theorem Consistent.moved (consistent : deck.Consistent) (moved : Moved deck other) :
    other.Consistent := by
  induction moved with
  | refl => exact consistent
  | tail _ moves ih => exact ih.moves moves

end Deck

end PatternDeck
