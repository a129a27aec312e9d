import PatternDeck.Proofs.Parameter.Lookup
import PatternDeck.Proofs.Stage.LiveCode

/-!
What a part of an operation leaves alone. Every part has the slots that it is about; of any other slot
nothing is noted, told or saved, and nothing is changed, except that a rebuild gives the slots that
play the parameters that they lack.
-/
namespace PatternDeck

/-- The slot is as it was, and maybe has more parameters after those that it had. -/
structure Slot.Gains (old new : Slot) : Prop where
  rest : { new with parameters := old.parameters } = old
  parameters : old.parameters.toList <+: new.parameters.toList

namespace Slot.Gains

variable {old middle new : Slot}

theorem refl (slot : Slot) : slot.Gains slot := ⟨rfl, List.prefix_refl _⟩

theorem refreshed (slot : Slot) : slot.Gains slot.refreshed :=
  ⟨rfl, slot.parameters.toList_prefix_merge _⟩

theorem trans (first : old.Gains middle) (second : middle.Gains new) : old.Gains new := by
  refine ⟨?_, first.parameters.trans second.parameters⟩
  have last := congrArg (fun slot => { slot with parameters := old.parameters }) second.rest
  exact last.trans first.rest

theorem id_eq (gains : old.Gains new) : new.id = old.id := by
  have same := congrArg Slot.id gains.rest
  exact same

theorem code (gains : old.Gains new) : new.code = old.code := by
  have same := congrArg Slot.code gains.rest
  exact same

theorem playing (gains : old.Gains new) : new.playing = old.playing := by
  have same := congrArg Slot.playing gains.rest
  exact same

theorem modified (gains : old.Gains new) : new.modified = old.modified := by
  have same := congrArg Slot.modified gains.rest
  exact same

theorem names (gains : old.Gains new) : old.parameters.names ⊆ new.parameters.names :=
  (Parameters.names_prefix gains.parameters).subset

theorem flagged (gains : old.Gains new) (playing : Bool) :
    Slot.Gains { old with playing } { new with playing } := by
  refine ⟨?_, gains.parameters⟩
  have same := congrArg (fun slot : Slot => { slot with playing }) gains.rest
  exact same

theorem stamped (gains : old.Gains new) (modified : Moment) :
    Slot.Gains { old with modified } { new with modified } := by
  refine ⟨?_, gains.parameters⟩
  have same := congrArg (fun slot : Slot => { slot with modified }) gains.rest
  exact same

end Slot.Gains

section Subject

variable {Handle : Type}

/-- The slot of which an entry notes, tells or saves something. -/
def Entry.subject? : Entry Handle → Option Int
  | .touched id | .announced (.parameterChange id _) => some id
  | .saved slot _ | .announced (.stateChange slot) => some slot.id
  | _ => none

/-- The entries are about no slots but those of some ids. -/
def Within (ids : List Int) (entries : List (Entry Handle)) : Prop :=
  ∀ entry ∈ entries, ∀ id, entry.subject? = some id → id ∈ ids

variable {ids : List Int} {entries more : List (Entry Handle)}

theorem Within.mono (within : Within ids entries) {all : List Int} (subset : ids ⊆ all) :
    Within all entries :=
  fun entry there id about => subset (within entry there id about)

theorem Within.append (first : Within ids entries) (second : Within ids more) :
    Within ids (entries ++ more) :=
  List.forall_mem_append.2 ⟨first, second⟩

theorem within_singleton {entry : Entry Handle}
    (about : ∀ id, entry.subject? = some id → id ∈ ids) : Within ids [entry] :=
  List.forall_mem_singleton.2 about

theorem Within.of_isStop (stops : ∀ entry ∈ entries, entry.isStop) : Within ids entries := by
  intro entry there id about
  have stop := stops entry there
  cases entry <;> simp_all [Entry.isStop, Entry.subject?]

theorem Within.subject?_ne {id : Int} (within : Within ids entries) (other : id ∉ ids) :
    ∀ entry ∈ entries, entry.subject? ≠ some id :=
  fun entry there about => other (within entry there id about)

end Subject

namespace Stage

open Act

variable {Handle Listener World : Type} (around : Surroundings Handle Listener World)
variable (stage : Stage Handle Listener World)

/-- What was done between two stages is about the slots of some ids. -/
structure Confined (ids : List Int) (before after : Stage Handle Listener World) : Prop where
  grown : ∃ entries, after.journal = before.journal ++ entries ∧ Within ids entries
  others : ∀ id, id ∉ ids →
    Option.Rel Slot.Gains (before.deck.bank.find? id) (after.deck.bank.find? id)

section Confined

variable {ids : List Int} {before middle after : Stage Handle Listener World} {id : Int} {old : Slot}

theorem option_gains_refl (slot : Option Slot) : Option.Rel Slot.Gains slot slot := by
  cases slot with
  | none => exact .none
  | some slot => exact .some (.refl slot)

theorem option_gains_trans {old between new : Option Slot}
    (first : Option.Rel Slot.Gains old between) (second : Option.Rel Slot.Gains between new) :
    Option.Rel Slot.Gains old new := by
  rcases first with one | _
  · rcases second with two | _
    exact .some (one.trans two)
  · rcases second with _ | _
    exact .none

theorem Confined.of_deck {entries : List (Entry Handle)} (bank : after.deck.bank = before.deck.bank)
    (grown : after.journal = before.journal ++ entries) (within : Within ids entries) :
    Confined ids before after := by
  refine ⟨⟨entries, grown, within⟩, fun id _ => ?_⟩
  rw [bank]
  exact option_gains_refl _

theorem Confined.of_bank (bank : after.deck.bank = before.deck.bank)
    (journal : after.journal = before.journal) : Confined ids before after :=
  .of_deck bank (by rw [journal, List.append_nil]) (by simp [Within])

theorem Confined.refl : Confined ids before before := .of_bank rfl rfl

theorem Confined.trans (first : Confined ids before middle) (second : Confined ids middle after) :
    Confined ids before after := by
  obtain ⟨entries, grown, within⟩ := first.grown
  obtain ⟨more, grown', within'⟩ := second.grown
  refine ⟨⟨entries ++ more, ?_, within.append within'⟩, fun id other => ?_⟩
  · rw [grown', grown, List.append_assoc]
  · exact option_gains_trans (first.others id other) (second.others id other)

theorem Confined.mono {more : List Int} (subset : ids ⊆ more) (confined : Confined ids before after) :
    Confined more before after := by
  obtain ⟨entries, grown, within⟩ := confined.grown
  refine ⟨⟨entries, grown, within.mono subset⟩, fun id other => ?_⟩
  exact confined.others id fun there => other (subset there)

theorem Confined.of_modify {id : Int} {change : Slot → Slot}
    (bank : after.deck.bank = before.deck.bank.modify id change)
    (journal : after.journal = before.journal) : Confined [id] before after := by
  refine ⟨⟨[], by rw [journal, List.append_nil], by simp [Within]⟩, fun other differs => ?_⟩
  rw [bank, Bank.find?_modify_ne _ fun same => differs (List.mem_singleton.2 same)]
  exact option_gains_refl _

theorem Confined.found (confined : Confined ids before after) (other : id ∉ ids)
    (found : before.deck.bank.find? id = some old) :
    ∃ new, after.deck.bank.find? id = some new ∧ old.Gains new := by
  have rel := confined.others id other
  rw [found] at rel
  generalize after.deck.bank.find? id = seen at rel
  rcases rel with @⟨_, new, gains⟩ | _
  exact ⟨new, rfl, gains⟩

end Confined

section Blocks

variable {ids : List Int}

theorem confined_told {event : Event}
    (about : ∀ id, (Entry.announced event : Entry Handle).subject? = some id → id ∈ ids) :
    Confined ids stage (stage.told around event) :=
  .of_deck rfl (journal_told around stage event) (within_singleton about)

theorem confined_stamped (id : Int) : Confined [id] stage (stage.stamped around id) := by
  refine ⟨⟨[.touched id], rfl, within_singleton ?_⟩, fun other differs => ?_⟩
  · rintro about ⟨⟩
    exact List.mem_singleton_self id
  · rw [deck_stamped, Bank.find?_modify_ne _ fun same => differs (List.mem_singleton.2 same)]
    exact option_gains_refl _

theorem confined_toldState (id : Int) : Confined [id] stage (stage.toldState around id) := by
  rcases found : stage.deck.bank.find? id with _ | slot
  · rw [toldState_of_missing around stage found]
    exact .refl
  · rw [toldState_of_find? around stage found]
    apply confined_told
    rintro about ⟨⟩
    exact List.mem_singleton.2 (Bank.id_of_find? found)

theorem confined_toldPlaying (id : Int) : Confined [id] stage (stage.toldPlaying around id) := by
  rw [toldPlaying_eq]
  exact (confined_toldState around stage id).trans (confined_told around _ (by simp [Entry.subject?]))

theorem confined_saved (id : Int) : Confined [id] stage (stage.saved around id) := by
  obtain ⟨saves, grown, saved⟩ := journal_saved around stage id
  refine .of_deck (by rw [deck_saved]) grown fun entry there about => ?_
  obtain ⟨slot, outcome, rfl, found⟩ := saved entry there
  rintro ⟨⟩
  exact List.mem_singleton.2 (Bank.id_of_find? found)

theorem confined_toldParameter (id : Int) (p : Parameter) :
    Confined [id] stage (stage.toldParameter around id p) := by
  refine Confined.trans ?_ ((confined_toldState around _ id).trans (confined_saved around _ id))
  apply confined_told
  rintro about ⟨⟩
  exact List.mem_singleton_self id

theorem confined_rewritten (id : Int) (code : String) :
    Confined [id] stage (stage.rewritten around id code) := by
  let recoded : Stage Handle Listener World := { stage with
    deck := { stage.deck with bank := stage.deck.bank.modify id fun slot => { slot with code } } }
  have first : Confined [id] stage recoded := .of_modify rfl rfl
  exact first.trans ((confined_stamped around recoded id).trans (.of_modify rfl rfl))

/-- A rebuild is about no slot. -/
theorem confined_rebuilt {outcome : Except Failure Unit} {after : Stage Handle Listener World}
    (present : stage.deck.Present) (rebuilt : perform (rebuild around) stage = (outcome, after)) :
    Confined ids stage after := by
  obtain ⟨entries, grown, rebuilds⟩ := rebuilds_of_perform around stage present rebuilt
  have refreshed : ∀ id, Option.Rel Slot.Gains (stage.deck.bank.find? id)
      ((stage.deck.bank.refreshed stage.deck.active).find? id) := by
    intro id
    rw [Bank.find?_refreshed]
    cases stage.deck.bank.find? id with
    | none => exact .none
    | some slot =>
      refine .some ?_
      split
      · exact .refreshed slot
      · exact .refl slot
  obtain ⟨deck, world, journal⟩ := after
  refine ⟨⟨entries, grown, ?_⟩, ?_⟩
  · cases rebuilds with
    | silenced idle stopped =>
      exact (Within.of_isStop stopped.isStop).append (within_singleton (by simp [Entry.subject?]))
    | refused => exact within_singleton (by simp [Entry.subject?])
    | unstarted handle fault busy stopped | started handle busy stopped =>
      refine (within_singleton ?_).append (.append (.of_isStop stopped.isStop) ?_)
      · simp [Entry.subject?]
      · simp [Within, Entry.subject?]
  · cases rebuilds with
    | silenced => exact fun id _ => option_gains_refl _
    | refused | unstarted | started => exact fun id _ => refreshed id

theorem confined_toldStopped (ids : List Int) :
    Confined ids stage (stage.toldStopped around ids) := by
  induction ids generalizing stage with
  | nil => exact .refl
  | cons id rest ih =>
    have first := (confined_stamped around stage id).trans (confined_toldPlaying around _ id)
    exact (first.mono (by simp)).trans ((ih _).mono (by simp))

end Blocks

section Ends

variable {outcome : Except Failure Unit} {after : Stage Handle Listener World} {id : Int}

theorem Starts.confined (present : stage.deck.Present)
    (starts : Starts around stage id outcome after) : Confined [id] stage after := by
  have joined : Confined [id] stage { stage with deck := stage.deck.joined id } :=
    .of_modify rfl rfl
  cases starts with
  | missing => exact confined_told around stage (by simp [Entry.subject?])
  | playing => exact .refl
  | @failed failure after loaded idle rebuilt =>
    have left : Confined [id] after { after with deck := after.deck.left id } := .of_modify rfl rfl
    refine (joined.trans (confined_rebuilt around _ (present.joined loaded) rebuilt)).trans ?_
    exact left.trans (confined_told around _ (by simp [Entry.subject?]))
  | @started after loaded idle rebuilt =>
    refine (joined.trans (confined_rebuilt around _ (present.joined loaded) rebuilt)).trans ?_
    refine (confined_stamped around after id).trans ?_
    exact (confined_toldPlaying around _ id).trans (confined_saved around _ id)

theorem Stops.confined (present : stage.deck.Present) (stops : Stops around stage id outcome after) :
    Confined [id] stage after := by
  have left : Confined [id] stage { stage with deck := stage.deck.left id } := .of_modify rfl rfl
  cases stops with
  | missing => exact confined_told around stage (by simp [Entry.subject?])
  | idle => exact .refl
  | @failed failure after loaded active rebuilt =>
    have back : Confined [id] after
        { after with deck := after.deck.putBack id stage.deck.active } := .of_modify rfl rfl
    refine (left.trans (confined_rebuilt around _ (present.left id) rebuilt)).trans ?_
    exact back.trans (confined_told around _ (by simp [Entry.subject?]))
  | @stopped after loaded active rebuilt =>
    refine (left.trans (confined_rebuilt around _ (present.left id) rebuilt)).trans ?_
    exact (confined_stamped around after id).trans (confined_toldPlaying around _ id)

theorem LiveEdits.confined {code : String} (present : stage.deck.Present)
    (edits : LiveEdits around stage id code outcome after) : Confined [id] stage after := by
  -- the slot is the one that is on trial while the composite is rebuilt
  have tried : ∀ {parameters : Parameters} {world : World} {program : String} {handle : Handle}
      {came : Except Failure Unit} {ended : Stage Handle Listener World},
      perform (rebuild around) ⟨stage.deck.recoded id code parameters, world,
        stage.journal ++ [.compiled program (.ok handle)]⟩ = (came, ended) →
      Confined [id] stage ended := by
    intro parameters world program handle came ended rebuilt
    have recoded : Confined [id] stage
        { stage with deck := stage.deck.recoded id code parameters } := .of_modify rfl rfl
    have compiled : Confined [id] { stage with deck := stage.deck.recoded id code parameters }
        ⟨stage.deck.recoded id code parameters, world,
          stage.journal ++ [.compiled program (.ok handle)]⟩ :=
      .of_deck rfl rfl (within_singleton (by simp [Entry.subject?]))
    refine recoded.trans (compiled.trans ?_)
    exact confined_rebuilt around _ (present.recoded id code parameters) rebuilt
  cases edits with
  | missing | idle => exact confined_told around stage (by simp [Entry.subject?])
  | refused found active compiled =>
    refine Confined.trans ?_ (confined_told around _ (by simp [Entry.subject?]))
    exact .of_deck rfl rfl (within_singleton (by simp [Entry.subject?]))
  | @failed slot handle world failure ended found active compiled rebuilt =>
    have undone : Confined [id] ended
        { ended with deck := ended.deck.recoded id slot.code slot.parameters } :=
      .of_modify rfl rfl
    exact (tried rebuilt).trans (undone.trans (confined_told around _ (by simp [Entry.subject?])))
  | @edited slot handle world ended found active compiled rebuilt =>
    refine (tried rebuilt).trans ((confined_stamped around ended id).trans ?_)
    exact (confined_toldState around _ id).trans (confined_saved around _ id)

theorem Edits.confined {code : String} (placed : stage.deck.Placed)
    (edits : Edits around stage id code outcome after) : Confined [id] stage after := by
  have present := placed.present
  cases edits with
  | missing => exact confined_told around stage (by simp [Entry.subject?])
  | halted loaded active stopped =>
    exact (ends_of_perform (perform_stop around stage id present) stopped).confined
      around stage present
  | silent =>
    refine (confined_rewritten around stage id code).trans ?_
    exact (confined_toldState around _ id).trans (confined_saved around _ id)
  | @restarted _ middle restarted loaded active stopped started =>
    have stops := ends_of_perform (perform_stop around stage id present) stopped
    have moved := (stops.moved around stage present).tail
      (.kept (standing_rewritten around middle id code))
    have still := (placed.moved moved).present
    have starts := ends_of_perform (perform_start around _ id still) started
    refine (stops.confined around stage present).trans ?_
    refine (confined_rewritten around middle id code).trans ?_
    refine (starts.confined around _ still).trans ?_
    exact (confined_toldState around _ id).trans (confined_saved around _ id)

theorem Follows.confined {p : Parameter} {rebuilds : Bool} (present : stage.deck.Present)
    (follows : Follows around stage id p rebuilds outcome after) : Confined [id] stage after := by
  have told := confined_toldParameter around stage id p
  rw [← deck_toldParameter around stage id p] at present
  cases follows with
  | quiet => exact told
  | failed _ _ rebuilt =>
    refine told.trans ((confined_rebuilt around _ present rebuilt).trans ?_)
    exact confined_told around _ (by simp [Entry.subject?])
  | rebuilt _ _ rebuilt => exact told.trans (confined_rebuilt around _ present rebuilt)

theorem Selects.confined {selected : Option Int}
    (selects : Selects around stage selected outcome after) :
    Confined [] stage after := by
  cases selects with
  | missing => exact confined_told around stage (by simp [Entry.subject?])
  | selected => exact .of_bank rfl rfl

end Ends

end Stage

end PatternDeck
