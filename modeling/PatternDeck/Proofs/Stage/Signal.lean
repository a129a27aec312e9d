import PatternDeck.Controller.Gesture
import PatternDeck.Proofs.Stage.Evolution
import PatternDeck.Proofs.Stage.Excerpt
import PatternDeck.Proofs.Stage.Trail

/-!
The lights that listeners are told of. They are told of a slot's color when the slot starts or stops,
and at no other time. Whoever gives lights the colors that are told has the colors of the deck after
every operation, whether it failed or not.
-/
namespace PatternDeck

/-- The light that listeners are told of, as its slot and its color. -/
def Entry.signal? {Handle : Type} : Entry Handle → Option (Int × Int)
  | announced (.indicator id color) => some (id, color)
  | _ => none

instance {Handle : Type} : Entry.Narrow (Entry.signal? : Entry Handle → _) where
  passes := by
    intro entry calm
    unfold Entry.signal?
    split
    · cases calm
    · rfl

namespace Led

/-- The color that a light was given last. -/
def last (id : Int) (given : List (Int × Int)) : Option Int := given.reverse.lookup id

theorem last_append (id : Int) (given more : List (Int × Int)) :
    last id (given ++ more) = (last id more).or (last id given) := by
  rw [last, List.reverse_append, List.lookup_append]
  rfl

theorem last_concat (id : Int) (given : List (Int × Int)) (light : Int × Int) :
    last id (given ++ [light]) = if id = light.1 then some light.2 else last id given := by
  rw [last, List.reverse_concat, List.lookup_cons]
  by_cases own : id = light.1
  · simp [own]
  · simp [own, beq_false_of_ne own, last]

theorem last_map (id : Int) (ids : List Int) (color : Int → Int) :
    last id (ids.map fun id => (id, color id)) = if id ∈ ids then some (color id) else none := by
  induction ids using List.reverseRecOn with
  | nil => rfl
  | append_singleton ids other ih =>
    rw [List.map_append, List.map_singleton, last_concat, ih]
    by_cases own : id = other
    · simp [own]
    · simp [own]

theorem last_eq_none {id : Int} {given : List (Int × Int)} (others : ∀ light ∈ given, light.1 ≠ id) :
    last id given = none := by
  induction given using List.reverseRecOn with
  | nil => rfl
  | append_singleton given light ih =>
    obtain ⟨earlier, later⟩ := List.forall_mem_append.1 others
    rw [last_concat, if_neg (later light (List.mem_singleton_self _)).symm, ih earlier]

/-- It makes no difference that a light is given its color more than once. -/
theorem last_of_repeated (id : Int) {given : List (Int × Int)} {light : Int × Int}
    (there : light ∈ given) (only : ∀ other ∈ given, other = light) :
    last id given = last id [light] := by
  rw [← List.nil_append [light], last_concat]
  by_cases own : id = light.1
  · have some := List.ne_nil_of_mem there
    rw [← List.dropLast_append_getLast some, last_concat, only _ (List.getLast_mem some)]
    simp [own]
  · rw [if_neg own]
    refine last_eq_none fun other member => ?_
    rw [only other member]
    exact Ne.symm own

end Led

namespace Slot

variable {Handle Listener : Type} {origin : Deck Handle Listener} {operation : Operation}

/-- A slot that can be loaded for its light to be shown: at rest, and of a color that can be sent. -/
structure Quiet (slot : Slot) : Prop where
  rests : slot.playing = false
  colored : Controller.isData slot.color

theorem Change.color_eq {slot after : Slot} (change : Change origin operation slot after) :
    after.color = slot.color := by
  cases change <;> rfl

theorem Changed.color_eq {slot after : Slot} (changed : Changed origin operation slot after) :
    after.color = slot.color := by
  induction changed with
  | refl => rfl
  | tail _ change ih => exact change.color_eq.trans ih

end Slot

/-- Slots that an operation loads can be shown. -/
def Operation.Quiet (operation : Operation) : Prop :=
  ∀ slots name version, operation = .loadLibrary slots name version → ∀ slot ∈ slots, slot.Quiet

namespace Deck

variable {Handle Listener : Type} {deck after origin : Deck Handle Listener} {operation : Operation}

/-- What plays and its flags agree, and every color is one that can be sent. -/
structure Showable (deck : Deck Handle Listener) : Prop extends Consistent deck where
  colored : ∀ slot ∈ deck.bank.slots, Controller.isData slot.color

/-- The slots that play have their own colors, and the others none. -/
theorem Consistent.color_eq (consistent : deck.Consistent) (id : Int) :
    deck.color id =
      if id ∈ deck.active then (deck.bank.view Slot.color id).getD Led.off else Led.off := by
  unfold color
  split
  next slot found =>
    obtain ⟨member, rfl⟩ := Bank.find?_eq_some_iff.1 found
    rw [Bank.view_of_find? _ found]
    simp only [consistent.flagged slot member, Option.getD_some]
  next missing =>
    have idle : id ∉ deck.active := fun active =>
      Bank.find?_eq_none_iff.1 missing (consistent.present id active)
    rw [if_neg idle]

theorem Consistent.color_of_idle (consistent : deck.Consistent) {id : Int}
    (idle : id ∉ deck.active) : deck.color id = Led.off := by
  rw [consistent.color_eq, if_neg idle]

theorem Evolved.view_color (evolved : Evolved origin operation deck after) :
    after.bank.view Slot.color = deck.bank.view Slot.color := by
  funext id
  have same := evolved.slots id
  rw [Bank.view, Bank.view]
  generalize deck.bank.find? id = old, after.bank.find? id = new at same
  rcases same with changed | _
  · exact congrArg some changed.color_eq
  · rfl

/-- A color changes when its slot starts or stops. -/
theorem Consistent.color_of_evolved (consistent : deck.Consistent) (later : after.Consistent)
    (evolved : Evolved origin operation deck after) {id : Int}
    (same : id ∈ after.active ↔ id ∈ deck.active) : after.color id = deck.color id := by
  rw [later.color_eq, consistent.color_eq, evolved.view_color]
  simp only [same]

namespace Showable

variable (showable : deck.Showable)
include showable

theorem evolved (consistent : after.Consistent) (evolved : Evolved origin operation deck after) :
    after.Showable :=
  ⟨consistent, evolved.forall_slots (fun _ _ changed => by rw [changed.color_eq]; exact id)
    showable.colored⟩

/-- Who listens has no part in what is shown. -/
theorem listeners (same : after = { deck with listeners := after.listeners }) : after.Showable := by
  rw [same]
  exact ⟨⟨⟨showable.distinct, showable.present, showable.chosen⟩, showable.flagged⟩,
    showable.colored⟩

theorem isData_color (id : Int) : Controller.isData (deck.color id) := by
  unfold color
  split
  next slot found =>
    split
    · exact showable.colored slot (Bank.find?_eq_some_iff.1 found).1
    · rfl
  next => rfl

end Showable

end Deck

namespace Stage

open Act Deck

variable {Handle Listener World : Type} (around : Surroundings Handle Listener World)

/-- What the listeners were told of lights between two stages leads from the colors of the one to the
colors of the other. -/
def Signals (before after : Stage Handle Listener World) : Prop :=
  ∃ told, after.excerpt Entry.signal? = before.excerpt Entry.signal? ++ told ∧
    (∀ light ∈ told, Controller.isData light.2) ∧
    ∀ id, after.deck.color id = (Led.last id told).getD (before.deck.color id)

namespace Signals

variable {before middle after : Stage Handle Listener World}
variable {origin : Deck Handle Listener} {operation : Operation}

theorem of_colors (told : after.excerpt Entry.signal? = before.excerpt Entry.signal?)
    (same : ∀ id, after.deck.color id = before.deck.color id) : Signals before after :=
  ⟨[], by rw [told, List.append_nil], by simp, same⟩

theorem refl : Signals before before := of_colors rfl fun _ => rfl

theorem trans (first : Signals before middle) (second : Signals middle after) :
    Signals before after := by
  obtain ⟨told, grown, sendable, colors⟩ := first
  obtain ⟨more, grown', sendable', colors'⟩ := second
  refine ⟨told ++ more, by rw [grown', grown, List.append_assoc], ?_, fun id => ?_⟩
  · exact List.forall_mem_append.2 ⟨sendable, sendable'⟩
  · rw [colors', colors, Led.last_append]
    cases Led.last id more <;> rfl

variable (id : Int) (showable : before.deck.Showable) (consistent : after.deck.Consistent)
variable (evolved : Evolved origin operation before.deck after.deck)
include showable consistent evolved

theorem untold (told : after.excerpt Entry.signal? = before.excerpt Entry.signal?)
    (same : after.deck.active = before.deck.active) : Signals before after :=
  of_colors told fun _ => showable.color_of_evolved consistent evolved (by rw [same])

/-- One slot started or stopped, and the listeners were told of it. -/
theorem told
    (told : after.excerpt Entry.signal? =
      before.excerpt Entry.signal? ++ [(id, after.deck.color id)])
    (same : ∀ other, other ≠ id → (other ∈ after.deck.active ↔ other ∈ before.deck.active)) :
    Signals before after := by
  refine ⟨_, told, ?_, fun other => ?_⟩
  · exact List.forall_mem_singleton.2 ((showable.evolved consistent evolved).isData_color id)
  · rw [← List.nil_append [_], Led.last_concat]
    split
    next own => rw [own, Option.getD_some]
    next differs => exact showable.color_of_evolved consistent evolved (same other differs)

end Signals

section Blocks

variable (stage : Stage Handle Listener World) (id : Int)

theorem signals_toldPlaying :
    (stage.toldPlaying around id).excerpt Entry.signal? =
      stage.excerpt Entry.signal? ++ [(id, stage.deck.color id)] := by
  rw [toldPlaying_eq, excerpt_told, excerpt_toldState]
  rfl

theorem signals_toldStopped (ids : List Int) (consistent : stage.deck.Consistent)
    (idle : stage.deck.active = []) :
    (stage.toldStopped around ids).excerpt Entry.signal? =
      stage.excerpt Entry.signal? ++ ids.map fun id => (id, Led.off) := by
  -- all that happens on the way is that times are noted
  induction ids generalizing stage with
  | nil => exact (List.append_nil _).symm
  | cons id rest ih =>
    let stamped := stage.stamped around id
    have consistent : stamped.deck.Consistent :=
      consistent.congr (standing_stamped around stage id).symm
    have idle : stamped.deck.active = [] := idle
    have first : (stamped.toldPlaying around id).excerpt Entry.signal? =
        stage.excerpt Entry.signal? ++ [(id, Led.off)] := by
      rw [signals_toldPlaying, consistent.color_of_idle (by simp [idle])]
      exact congrArg (· ++ _) (excerpt_stamped around _ stage id)
    have deck : (stamped.toldPlaying around id).deck = stamped.deck := by simp
    rw [toldStopped, ih _ (by rwa [deck]) (by rw [deck, idle]), first, List.append_assoc]
    rfl

end Blocks

section Ends

variable {stage after : Stage Handle Listener World} {outcome : Except Failure Unit} {id : Int}

theorem Starts.signals (showable : stage.deck.Showable)
    (starts : Starts around stage id outcome after) : Signals stage after := by
  have present := showable.present
  have consistent := showable.toConsistent.moved (starts.moved around stage present)
  have evolved : Evolved stage.deck .stopAll _ _ := starts.evolved around stage present
  cases starts with
  | missing => exact .of_colors (excerpt_told_of_unseen around _ _ rfl) fun _ => rfl
  | playing => exact .refl
  | @failed _ ended loaded idle rebuilt =>
    have here := present.joined loaded
    have active : ended.deck.active = stage.deck.active ++ [id] :=
      congrArg Prod.fst (standing_rebuilt around _ here rebuilt)
    have told := excerpt_rebuilt around Entry.signal? here rebuilt
    refine .untold showable consistent evolved ((excerpt_told_of_unseen around _ _ rfl).trans told) ?_
    -- it was put last, so it leaves the others as they were
    simp [Deck.left, active, List.erase_append_right _ idle]
  | @started ended loaded idle rebuilt =>
    have here := present.joined loaded
    have active : ended.deck.active = stage.deck.active ++ [id] :=
      congrArg Prod.fst (standing_rebuilt around _ here rebuilt)
    refine .told id showable consistent evolved ?_ fun other differs => ?_
    · rw [excerpt_saved, signals_toldPlaying, excerpt_stamped,
        excerpt_rebuilt around _ here rebuilt]
      simp only [deck_saved, toldPlaying_eq, deck_told, deck_toldState]
      rfl
    · simp [active, differs]

theorem Stops.signals (showable : stage.deck.Showable)
    (stops : Stops around stage id outcome after) : Signals stage after := by
  have present := showable.present
  have consistent := showable.toConsistent.moved (stops.moved around stage present)
  have evolved : Evolved stage.deck .stopAll _ _ := stops.evolved around stage present
  cases stops with
  | missing => exact .of_colors (excerpt_told_of_unseen around _ _ rfl) fun _ => rfl
  | idle => exact .refl
  | failed loaded active rebuilt =>
    have told := excerpt_rebuilt around Entry.signal? (present.left id) rebuilt
    exact .untold showable consistent evolved
      ((excerpt_told_of_unseen around _ _ rfl).trans told) rfl
  | @stopped ended loaded active rebuilt =>
    have here := present.left id
    have active : ended.deck.active = stage.deck.active.erase id :=
      congrArg Prod.fst (standing_rebuilt around _ here rebuilt)
    refine .told id showable consistent evolved ?_ fun other differs => ?_
    · rw [signals_toldPlaying, excerpt_stamped, excerpt_rebuilt around _ here rebuilt]
      simp only [toldPlaying_eq, deck_told, deck_toldState]
      rfl
    · simp [active, List.mem_erase_of_ne differs]

theorem signals_of_toggle (showable : stage.deck.Showable)
    (performed : perform (toggle around id) stage = (outcome, after)) : Signals stage after := by
  rw [perform_toggle] at performed
  split at performed
  · exact (ends_of_perform (perform_stop around stage id showable.present) performed).signals
      around showable
  · exact (ends_of_perform (perform_start around stage id showable.present) performed).signals
      around showable

theorem Edits.signals {code : String} (showable : stage.deck.Showable)
    (edits : Edits around stage id code outcome after) : Signals stage after := by
  have placed := showable.toPlaced
  have present := placed.present
  have consistent := showable.toConsistent.moved (edits.moved around stage placed)
  have evolved : Evolved stage.deck (.updatePatternCode id code) _ _ :=
    edits.evolved around stage rfl placed
  cases edits with
  | missing => exact .of_colors (excerpt_told_of_unseen around _ _ rfl) fun _ => rfl
  | halted loaded active stopped =>
    exact (ends_of_perform (perform_stop around stage id present) stopped).signals around showable
  | silent =>
    refine .untold showable consistent evolved ?_ ?_
    · rw [excerpt_saved, excerpt_toldState, excerpt_rewritten]
    · rw [deck_saved, deck_toldState]
      rfl
  | @restarted _ middle restarted loaded active stopped started =>
    have stops := ends_of_perform (perform_stop around stage id present) stopped
    have moved := stops.moved around stage present
    have changed : Evolved stage.deck (.updatePatternCode id code) _ _ :=
      stops.evolved around stage present
    -- the new code has no part in the colors
    have halted := showable.evolved (showable.toConsistent.moved moved) changed
    have recoded : Evolved stage.deck (.updatePatternCode id code) _ _ :=
      evolved_rewritten around middle rfl
    have rewritten := halted.evolved
      (halted.toConsistent.congr (standing_rewritten around middle id code).symm) recoded
    have between : Signals middle (middle.rewritten around id code) :=
      .untold halted rewritten.toConsistent recoded (excerpt_rewritten around _ _ _ _) rfl
    have starts := ends_of_perform (perform_start around _ id rewritten.present) started
    refine ((stops.signals around showable).trans between).trans
      ((starts.signals around rewritten).trans (.of_colors ?_ fun _ => ?_))
    · rw [excerpt_saved, excerpt_toldState]
    · rw [deck_saved, deck_toldState]

theorem LiveEdits.unsignalled {code : String} (present : stage.deck.Present)
    (edits : LiveEdits around stage id code outcome after) :
    after.excerpt Entry.signal? = stage.excerpt Entry.signal? := by
  cases edits with
  | missing | idle => exact excerpt_told_of_unseen around _ _ rfl
  | refused => exact (excerpt_told_of_unseen around _ _ rfl).trans (excerpt_compiled _ _ _ _ _)
  | @failed slot handle world failure ended found active taken rebuilt =>
    have here := present.recoded id code { slot with code }.refreshed.parameters
    exact (excerpt_told_of_unseen around _ _ rfl).trans
      ((excerpt_rebuilt around _ here rebuilt).trans (excerpt_compiled _ _ _ _ _))
  | @edited slot handle world ended found active taken rebuilt =>
    have here := present.recoded id code { slot with code }.refreshed.parameters
    rw [excerpt_saved, excerpt_toldState, excerpt_stamped]
    exact (excerpt_rebuilt around _ here rebuilt).trans (excerpt_compiled _ _ _ _ _)

theorem Follows.unsignalled {p : Parameter} {rebuilds : Bool} (present : stage.deck.Present)
    (follows : Follows around stage id p rebuilds outcome after) :
    after.excerpt Entry.signal? = stage.excerpt Entry.signal? := by
  have told := excerpt_toldParameter around Entry.signal? stage id p
  rw [← deck_toldParameter around stage id p] at present
  cases follows with
  | quiet => exact told
  | failed _ _ rebuilt =>
    exact (excerpt_told_of_unseen around _ _ rfl).trans
      ((excerpt_rebuilt around _ present rebuilt).trans told)
  | rebuilt _ _ rebuilt => exact (excerpt_rebuilt around _ present rebuilt).trans told

theorem Adjusts.unsignalled {rebuilds : Bool} {change : Float → Edit Parameter}
    {outcome : Except Failure Parameter} (keeps : ∀ now, Keeps flags (change now))
    (present : stage.deck.Present)
    (adjusts : Adjusts around stage id rebuilds change outcome after) :
    after.excerpt Entry.signal? = stage.excerpt Entry.signal? := by
  have adjusted : (stage.adjusted around id change).excerpt Entry.signal? =
      stage.excerpt Entry.signal? := excerpt_edited _ _ _
  cases adjusts with
  | missing => exact excerpt_told_of_unseen around _ _ rfl
  | refused => exact (excerpt_told_of_unseen around _ _ rfl).trans adjusted
  | rejected => exact adjusted
  | @changed p _ _ loaded changed follows =>
    have still := present_of_standing present (standing_adjusted around stage id keeps)
    have ends := ends_of_perform (perform_parameterChanged around _ id p rebuilds still) follows
    exact (ends.unsignalled around still).trans adjusted

theorem Turns.unsignalled {knob ticks : Int} (present : stage.deck.Present)
    (turns : Turns around stage knob ticks outcome after) :
    after.excerpt Entry.signal? = stage.excerpt Entry.signal? := by
  have edited : (stage.edited (stage.turn around knob ticks)).excerpt Entry.signal? =
      stage.excerpt Entry.signal? := excerpt_edited _ _ _
  cases turns with
  | refused | idle => exact edited
  | @turned turned _ _ driven follows =>
    have still := present_of_standing present (standing_turned around stage knob ticks)
    have ends := ends_of_perform
      (perform_parameterChanged around _ turned.slot turned.parameter true still) follows
    exact (ends.unsignalled around still).trans edited

theorem signals_of_stopAll (showable : stage.deck.Showable)
    (stopped : perform (stopAll around) stage = (outcome, after)) :
    Signals stage after ∧ after.deck.active = [] := by
  have silenced := silenced_of_stopAll around stage stopped
  have idle : after.deck.active = [] := congrArg Prod.fst silenced
  have consistent := showable.toConsistent.moves (.silenced silenced)
  obtain ⟨quiet, deck, same, performed⟩ := perform_stopAll_excerpt around Entry.signal? stage
  rw [performed, Prod.mk.injEq] at stopped
  obtain ⟨rfl, rfl⟩ := stopped
  have told := signals_toldStopped around quiet stage.deck.audible
    (deck ▸ showable.toConsistent.silent) (by rw [deck]; rfl)
  refine ⟨⟨stage.deck.audible.map fun id => (id, Led.off), ?_, ?_, fun id => ?_⟩, idle⟩
  · rw [same] at told
    exact (excerpt_told_of_unseen around _ _ rfl).trans told
  · simp [Controller.isData, Led.off]
  · rw [consistent.color_of_idle (idle ▸ List.not_mem_nil), Led.last_map id _ fun _ => Led.off]
    split
    · rfl
    next inaudible =>
      -- a slot that was not stopped was not playing
      refine (showable.color_of_idle fun active => inaudible ?_).symm
      obtain ⟨slot, member, rfl⟩ := List.mem_map.1 (showable.present id active)
      exact List.mem_map_of_mem (List.mem_filter.2 ⟨member, by simp [isPlaying, active]⟩)

theorem showable_of_stopAll (showable : stage.deck.Showable)
    (stopped : perform (stopAll around) stage = (outcome, after)) : after.deck.Showable := by
  have moves := silenced_of_stopAll around stage stopped
  have evolved : Evolved stage.deck .stopAll _ _ := evolved_stopAll around stage stopped
  exact showable.evolved (showable.toConsistent.moves (.silenced moves)) evolved

variable {slots : List Slot} {name version : Option Label}

/-- Slots that can be shown are, once they are taken in, whatever was there before. -/
theorem Loads.showable_of_taken (placed : stage.deck.Placed) (quiet : ∀ slot ∈ slots, slot.Quiet)
    (loads : Loads around stage slots name version (.ok ()) after) : after.deck.Showable := by
  refine ⟨loads.consistent_of_taken around stage placed fun slot given => (quiet slot given).rests, ?_⟩
  cases loads with
  | loaded stopped taken =>
    exact fun slot member => (quiet slot ((Bank.perm_of_ofSlots taken).mem_iff.1 member)).colored

theorem Loads.signals (showable : stage.deck.Showable) (quiet : ∀ slot ∈ slots, slot.Quiet)
    (loads : Loads around stage slots name version outcome after) :
    Signals stage after ∧ after.deck.Showable := by
  cases loads with
  | refused stopped =>
    exact ⟨(signals_of_stopAll around showable stopped).1, showable_of_stopAll around showable stopped⟩
  | @loaded bank middle stopped taken =>
    obtain ⟨signals, idle⟩ := signals_of_stopAll around showable stopped
    have silenced := showable_of_stopAll around showable stopped
    have taken := Loads.showable_of_taken around showable.toPlaced quiet (.loaded stopped taken)
    -- nothing plays, neither of the slots that were there nor of those that are taken in
    have dark : ∀ {deck : Deck Handle Listener}, deck.Consistent → deck.active = [] →
        ∀ id, deck.color id = Led.off :=
      fun consistent idle id => consistent.color_of_idle (idle ▸ List.not_mem_nil)
    refine ⟨signals.trans (.of_colors rfl fun id => ?_), taken⟩
    exact (dark taken.toConsistent idle id).trans (dark silenced.toConsistent idle id).symm

end Ends

section Operations

variable {stage : Stage Handle Listener World}

theorem Selects.signals {selected : Option Int} {outcome : Except Failure Unit}
    {after : Stage Handle Listener World}
    (selects : Selects around stage selected outcome after) : Signals stage after := by
  cases selects with
  | missing => exact .of_colors (excerpt_told_of_unseen around _ _ rfl) fun _ => rfl
  | selected => exact .of_colors rfl fun _ => rfl

theorem signals_of_pressButton (id : Int) (pressed : Bool) (showable : stage.deck.Showable) :
    Signals stage (perform (pressButton around id pressed) stage).2 := by
  cases pressed with
  | false => exact .refl
  | true =>
    have selects := perform_ends (perform_select around stage (some id))
    have moved := selects.moved around stage
    have evolved : Evolved stage.deck .stopAll _ _ := selects.evolved around stage
    have signals := selects.signals around
    rw [perform_pressButton]
    rcases selected : perform (select around (some id)) stage with ⟨failure | ⟨⟩, middle⟩
    all_goals rw [selected] at moved evolved signals
    · exact signals
    · have chosen := showable.evolved (showable.toConsistent.moved moved) evolved
      exact signals.trans (signals_of_toggle around chosen rfl)

/-- What an operation may show for nothing to be told of lights. -/
def Unseen (before after : Stage Handle Listener World) : Prop :=
  after.excerpt Entry.signal? = before.excerpt Entry.signal? ∧
    after.deck.standing = before.deck.standing

theorem unseen_of_parameters (id : Int) :
    Unseen stage (perform (discard (parameters around id)) stage).2 := by
  rw [perform_discard]
  by_cases loaded : id ∈ stage.deck.bank.ids
  · obtain ⟨ps, performed⟩ := perform_parameters_of_mem around stage id loaded
    rw [performed]
    exact ⟨rfl, standing_refreshed stage.deck id⟩
  · rw [perform_parameters_of_notMem around stage id loaded]
    exact ⟨excerpt_told_of_unseen around _ _ rfl, rfl⟩

theorem unseen_of_changeParameter (id : Int) (rebuilds : Bool) {change : Float → Edit Parameter}
    (keeps : ∀ now, Keeps flags (change now)) (present : stage.deck.Present) :
    Unseen stage (perform (discard (changeParameter around id rebuilds change)) stage).2 := by
  rw [perform_discard]
  have ends := perform_ends (perform_changeParameter around stage id rebuilds change)
  exact ⟨ends.unsignalled around keeps present, ends.standing around stage keeps present⟩

/-- Every operation tells of lights as it changes them, and of no others. -/
theorem signals_of_operation {operation : Operation} (showable : stage.deck.Showable)
    (quiet : operation.Quiet) :
    Signals stage (perform (operation.act around) stage).2 ∧
      (perform (operation.act around) stage).2.deck.Showable := by
  by_cases loads : ∃ slots name version, operation = .loadLibrary slots name version
  · obtain ⟨slots, name, version, rfl⟩ := loads
    exact (perform_ends (perform_loadLibrary around stage slots name version)).signals around
      showable (quiet slots name version rfl)
  have stays : ∀ slots name version, operation ≠ .loadLibrary slots name version :=
    fun slots name version same => loads ⟨slots, name, version, same⟩
  have present := showable.present
  have moved := moved_of_operation around stage operation showable.toPlaced stays
  have evolved := evolved_of_operation around stage operation showable.toPlaced stays
  have consistent := showable.toConsistent.moved moved
  refine ⟨?_, showable.evolved consistent evolved⟩
  have untold : Unseen stage (perform (operation.act around) stage).2 →
      Signals stage (perform (operation.act around) stage).2 := fun unseen =>
    .untold showable consistent evolved unseen.1 (congrArg Prod.fst unseen.2)
  cases operation with
  | start id => exact (perform_ends (perform_start around stage id present)).signals around showable
  | stop id => exact (perform_ends (perform_stop around stage id present)).signals around showable
  | toggle id => exact signals_of_toggle around showable rfl
  | stopAll => exact (signals_of_stopAll around showable rfl).1
  | updateLiveCode id code =>
    have ends := perform_ends (perform_updateLiveCode around stage id code present)
    exact untold ⟨ends.unsignalled around present, ends.standing around stage present⟩
  | updatePatternCode id code =>
    exact (perform_ends (perform_updatePatternCode around stage id code present)).signals
      around showable
  | select id => exact (perform_ends (perform_select around stage id)).signals around
  | parameters id => exact untold (unseen_of_parameters around id)
  | assignParameter id name knob =>
    exact untold (unseen_of_changeParameter around id _
      (fun now => (unseen_flags id).keeps_assign now name knob) present)
  | setParameterRange id name lo hi =>
    exact untold (unseen_of_changeParameter around id _
      (fun now => (unseen_flags id).keeps_setRange now name lo hi) present)
  | setParameterValue id name value =>
    exact untold (unseen_of_changeParameter around id _
      (fun now => (unseen_flags id).keeps_setValue now name value) present)
  | addCatalogParameter id name knob =>
    apply untold
    rw [Operation.act, perform_discard, perform_addCatalogParameter, ← perform_discard]
    exact unseen_of_changeParameter around id _
      (fun now => (unseen_flags id).keeps_addFromCatalog stage.deck.catalog now name knob) present
  | pressButton id pressed => exact signals_of_pressButton around id pressed showable
  | turnKnob knob ticks =>
    have ends := perform_ends (perform_turnKnob around stage knob ticks)
    exact untold ⟨ends.unsignalled around present, ends.standing around stage present⟩
  | loadLibrary slots name version => exact absurd rfl (stays slots name version)

end Operations

end Stage

section Taken

variable {Handle Listener World : Type}

/-- The slots that a step took in. -/
def Step.taken? : Step Handle Listener World → Option (List Slot)
  | ⟨_, .loadLibrary slots _ _, .ok (), _⟩ => some slots
  | _ => none

/-- The slots that were taken in last, as they were given. -/
def lastTaken (first : List Slot) (steps : List (Step Handle Listener World)) : List Slot :=
  steps.foldl (fun slots step => step.taken?.getD slots) first

variable {around : Surroundings Handle Listener World} {may : World → World → Prop}
variable {steps : List (Step Handle Listener World)} {step : Step Handle Listener World}
variable {bank : Bank} {catalog : Catalog} {listeners : Listeners Topic Listener} {world : World}
variable {last : Stage Handle Listener World}

theorem lastTaken_concat (first : List Slot) :
    lastTaken first (steps ++ [step]) = step.taken?.getD (lastTaken first steps) := by
  rw [lastTaken, List.foldl_append]
  rfl

theorem Step.taken?_eq_some_iff {slots : List Slot} :
    step.taken? = some slots ↔
      (∃ name version, step.operation = .loadLibrary slots name version) ∧ step.outcome = .ok () := by
  rcases step with ⟨before, operation, outcome, after⟩
  constructor
  · intro taken
    unfold taken? at taken
    split at taken
    next same =>
      cases same
      cases taken
      exact ⟨⟨_, _, rfl⟩, rfl⟩
    next => cases taken
  · rintro ⟨⟨name, version, rfl⟩, rfl⟩
    rfl

/-- What a step that took in no slots leaves can be shown if what it found could be. -/
theorem Step.showable_of_untaken (untaken : step.taken? = none)
    (performed : perform (step.operation.act around) step.before = (step.outcome, step.after))
    (showable : step.before.deck.Showable) : step.after.deck.Showable := by
  by_cases loads : ∃ slots name version, step.operation = .loadLibrary slots name version
  · obtain ⟨slots, name, version, same⟩ := loads
    rw [same] at performed
    have ends := ends_of_perform
      (Stage.perform_loadLibrary around step.before slots name version) performed
    generalize refused : step.outcome = outcome, step.after = after at ends
    cases ends with
    | refused stopped => exact Stage.showable_of_stopAll around showable stopped
    | loaded =>
      rw [taken?_eq_some_iff.2 ⟨⟨name, version, same⟩, refused⟩] at untaken
      cases untaken
  · have quiet : step.operation.Quiet := fun slots name version same =>
      absurd ⟨slots, name, version, same⟩ loads
    have after := (Stage.signals_of_operation around showable quiet).2
    rwa [performed] at after

theorem Step.showable_of_taken {slots : List Slot} (taken : step.taken? = some slots)
    (performed : perform (step.operation.act around) step.before = (step.outcome, step.after))
    (placed : step.before.deck.Placed) (quiet : ∀ slot ∈ slots, slot.Quiet) :
    step.after.deck.Showable := by
  obtain ⟨⟨name, version, same⟩, worked⟩ := taken?_eq_some_iff.1 taken
  rw [same, worked] at performed
  have loads := ends_of_perform
    (Stage.perform_loadLibrary around step.before slots name version) performed
  exact loads.showable_of_taken around placed quiet

/-- In every state that a run reaches slots that can be shown are shown as they should be, whatever
other slots there were before them. -/
theorem Stage.showable_of_runs
    (run : (fresh bank catalog listeners world).Runs around may steps last) :
    last.deck.Placed ∧ ((∀ slot ∈ lastTaken bank.slots steps, slot.Quiet) → last.deck.Showable) := by
  induction run with
  | begun =>
    have placed : (fresh bank catalog listeners world : Stage Handle Listener World).deck.Placed :=
      placed_fresh bank catalog listeners world
    refine ⟨placed, fun quiet => ⟨⟨placed, fun slot member => ?_⟩, fun slot member => ?_⟩⟩
    · simp [fresh, (quiet slot member).rests]
    · exact (quiet slot member).colored
  | @next steps middle before after operation outcome run pause performed ih =>
    obtain ⟨placed, showable⟩ := ih
    have placed := placed.congr pause.standing.symm
    have kept := placed_of_operation around before operation placed
    rw [performed] at kept
    refine ⟨kept, ?_⟩
    rw [lastTaken_concat]
    rcases taken : Step.taken? ⟨before, operation, outcome, after⟩ with _ | slots
    all_goals intro quiet
    · exact Step.showable_of_untaken taken performed ((showable quiet).listeners pause.deck)
    · exact Step.showable_of_taken taken performed placed quiet

end Taken

end PatternDeck
