import PatternDeck.Proofs.Stage.LiveCode
import PatternDeck.Proofs.Tuning

/-!
What an operation may do to a slot. Every end of every operation changes slots in a few ways, and each
way that shows in the code or in a parameter has its reason in what was asked. A rebuild refreshes all
slots that play; live code that is put back leaves no change at all. Loading a library is the one
operation that takes other slots.
-/
namespace PatternDeck

/-- The parameter that an operation gives a knob to, or takes it from. -/
def Operation.assigns? : Operation → Option (Int × String × Option Int)
  | assignParameter id name knob | addCatalogParameter id name knob => some (id, name, knob)
  | _ => none

/-- The slot that an operation gives another code. -/
def Operation.recodes? : Operation → Option (Int × String)
  | updateLiveCode id code | updatePatternCode id code => some (id, code)
  | _ => none

theorem Selection.driven?_eq_some {bank : Bank} {selected : Option Int} {knob : Int} {slot : Slot}
    {p : Parameter} (driven : driven? bank selected knob = some (slot, p)) :
    ∃ id, selected = some id ∧ bank.find? id = some slot ∧
      slot.parameters.drivenBy? knob = some p := by
  simp only [driven?, Option.bind_eq_bind, Option.bind_eq_some_iff, Option.pure_def,
    Option.some.injEq, Prod.mk.injEq] at driven
  obtain ⟨id, chosen, slot, found, p, first, rfl, rfl⟩ := driven
  exact ⟨id, chosen, found, first⟩

theorem Selection.find?_of_driven? {bank : Bank} {selected : Option Int} {knob : Int} {slot : Slot}
    {p : Parameter} (driven : driven? bank selected knob = some (slot, p)) :
    bank.find? slot.id = some slot := by
  obtain ⟨id, rfl, found, -⟩ := driven?_eq_some driven
  rwa [Bank.id_of_find? found]

section Change

variable {Handle Listener : Type}

/-- A change of one slot, as a part of an operation that was asked of a deck. -/
inductive Slot.Change (origin : Deck Handle Listener) (operation : Operation) : Slot → Slot → Prop where
  | flagged (slot : Slot) (playing : Bool) : Change origin operation slot { slot with playing }
  | stamped (slot : Slot) (modified : Moment) : Change origin operation slot { slot with modified }
  | refreshed (slot : Slot) : Change origin operation slot slot.refreshed
  | recoded (slot : Slot) {code : String} (asked : operation.recodes? = some (slot.id, code)) :
      Change origin operation slot { slot with code }
  | assigned (slot : Slot) {name : String} {knob : Option Int}
      (asked : operation.assigns? = some (slot.id, name, knob))
      (inRange : ∀ i ∈ knob, 0 ≤ i ∧ i < knobCount) :
      Change origin operation slot
        { slot with parameters := Binding.assigned slot.parameters name knob }
  | ranged (slot : Slot) {name : String} {lo hi : Float} {range : Range}
      (asked : operation = .setParameterRange slot.id name lo hi)
      (proper : Range.of? lo hi = some range) :
      Change origin operation slot
        { slot with parameters := slot.parameters.modify name (·.withRange range) }
  | valued (slot : Slot) {name : String} {value : Float}
      (asked : operation = .setParameterValue slot.id name value) :
      Change origin operation slot
        { slot with parameters := slot.parameters.modify name (·.withValue value) }
  | turned {slot : Slot} {p : Parameter} {knob ticks : Int} {new : Float}
      (asked : operation = .turnKnob knob ticks)
      (driven : Selection.driven? origin.bank origin.selected knob = some (slot, p))
      (reached : p.turned (.whole ticks) = .ok new) :
      Change origin operation slot
        { slot with parameters := slot.parameters.modify p.name fun p => { p with value := new } }
  | appended (slot : Slot) {name : String} {knob : Option Int} (entry : Catalog.Entry)
      (asked : operation = .addCatalogParameter slot.id name knob) :
      Change origin operation slot { slot with code := slot.code ++ entry.fragment }
  | seeded (slot : Slot) {name : String} {knob : Option Int} {entry : Catalog.Entry} {p : Parameter}
      (asked : operation = .addCatalogParameter slot.id name knob)
      (listed : entry ∈ origin.catalog.entries) (seed : Binding.seed entry = .ok p) :
      Change origin operation slot { slot with parameters := slot.parameters.add p }

/-- Several changes of one slot, one after another. -/
abbrev Slot.Changed (origin : Deck Handle Listener) (operation : Operation) : Slot → Slot → Prop :=
  Relation.ReflTransGen (Slot.Change origin operation)

variable {origin : Deck Handle Listener} {operation : Operation} {slot after : Slot}

theorem Slot.Change.id_eq (change : Slot.Change origin operation slot after) :
    after.id = slot.id := by
  cases change <;> rfl

theorem Slot.Changed.id_eq (changed : Slot.Changed origin operation slot after) :
    after.id = slot.id := by
  induction changed with
  | refl => rfl
  | tail _ change ih => exact change.id_eq.trans ih

end Change

namespace Deck

variable {Handle Listener : Type}

/-- The same slots are there, each changed in the ways that an operation may change it. -/
structure Evolved (origin : Deck Handle Listener) (operation : Operation)
    (before after : Deck Handle Listener) : Prop where
  catalog : after.catalog = before.catalog
  slots : ∀ id, Option.Rel (Slot.Changed origin operation)
    (before.bank.find? id) (after.bank.find? id)

namespace Evolved

variable {origin before middle after : Deck Handle Listener} {operation : Operation}

theorem of_bank (catalog : after.catalog = before.catalog) (bank : after.bank = before.bank) :
    Evolved origin operation before after := by
  refine ⟨catalog, fun id => ?_⟩
  rw [bank]
  cases before.bank.find? id with
  | none => exact .none
  | some slot => exact .some .refl

theorem refl : Evolved origin operation before before := of_bank rfl rfl

theorem trans (first : Evolved origin operation before middle)
    (second : Evolved origin operation middle after) : Evolved origin operation before after := by
  refine ⟨second.catalog.trans first.catalog, fun id => ?_⟩
  have here := first.slots id
  have there := second.slots id
  revert here there
  generalize before.bank.find? id = old, middle.bank.find? id = between, after.bank.find? id = new
  rintro (one | _) (two | _)
  · exact .some (one.trans two)
  · exact .none

/-- What no change takes from a slot, all slots still have. -/
theorem forall_slots (evolved : Evolved origin operation before after) {P : Slot → Prop}
    (kept : ∀ old new, Slot.Changed origin operation old new → P old → P new)
    (each : ∀ slot ∈ before.bank.slots, P slot) : ∀ slot ∈ after.bank.slots, P slot := by
  intro slot member
  have here := evolved.slots slot.id
  rw [Bank.find?_eq_some_iff.2 ⟨member, rfl⟩] at here
  rcases found : before.bank.find? slot.id with _ | old
  all_goals rw [found] at here
  · cases here
  · rcases here with changes | _
    exact kept old slot changes (each old (Bank.find?_eq_some_iff.1 found).1)

/-- What is done to the slot of one id. -/
theorem of_modify {id : Int} {change : Slot → Slot} (catalog : after.catalog = before.catalog)
    (bank : after.bank = before.bank.modify id change)
    (each : ∀ slot, before.bank.find? id = some slot →
      Slot.Changed origin operation slot { change slot with id := slot.id }) :
    Evolved origin operation before after := by
  refine ⟨catalog, fun other => ?_⟩
  rw [bank]
  by_cases own : other = id
  · subst own
    cases found : before.bank.find? other with
    | none =>
      have missing : other ∉ (before.bank.modify other change).ids := by
        simpa using Bank.find?_eq_none_iff.1 found
      rw [Bank.find?_eq_none_iff.2 missing]
      exact .none
    | some slot =>
      rw [Bank.find?_modify_self found]
      obtain rfl := Bank.id_of_find? found
      exact .some (each slot found)
  · rw [Bank.find?_modify_ne _ own]
    exact (refl : Evolved origin operation before before).slots other

/-- What is done to every slot. -/
theorem of_map {change : Slot → Slot} (catalog : after.catalog = before.catalog)
    (bank : after.bank = before.bank.map change)
    (each : ∀ slot, Slot.Changed origin operation slot { change slot with id := slot.id }) :
    Evolved origin operation before after := by
  refine ⟨catalog, fun id => ?_⟩
  rw [bank, Bank.find?_map]
  cases before.bank.find? id with
  | none => exact .none
  | some slot => exact .some (each slot)

theorem of_refreshed {ids : List Int} (catalog : after.catalog = before.catalog)
    (bank : after.bank = before.bank.refreshed ids) : Evolved origin operation before after := by
  refine of_map catalog bank fun slot => ?_
  split
  · exact .single (.refreshed slot)
  · exact .refl

theorem of_put {slot changed : Slot} (catalog : after.catalog = before.catalog)
    (found : before.bank.find? slot.id = some slot)
    (changes : Slot.Changed origin operation slot changed)
    (bank : after.bank = before.bank.put changed) : Evolved origin operation before after := by
  apply of_modify catalog bank
  intro other there
  rw [changes.id_eq, found] at there
  cases there
  have same : { changed with id := slot.id } = changed := by rw [← changes.id_eq]
  rwa [same]

theorem flagged (id : Int) (playing : Bool) (catalog : after.catalog = before.catalog)
    (bank : after.bank = before.bank.modify id fun slot => { slot with playing }) :
    Evolved origin operation before after :=
  of_modify catalog bank fun slot _ => .single (.flagged slot playing)

theorem joined (id : Int) : Evolved origin operation before (before.joined id) :=
  flagged id true rfl rfl

theorem left (id : Int) : Evolved origin operation before (before.left id) :=
  flagged id false rfl rfl

theorem putBack (id : Int) (active : List Int) :
    Evolved origin operation before (before.putBack id active) :=
  flagged id true rfl rfl

theorem silent : Evolved origin operation before before.silent :=
  of_map rfl rfl fun slot => .single (.flagged slot false)

theorem refreshed (id : Int) : Evolved origin operation before (before.refreshed id) :=
  of_modify rfl rfl fun slot _ => .single (.refreshed slot)

end Evolved

end Deck

namespace Stage

open Act Deck

variable {Handle Listener World : Type} (around : Surroundings Handle Listener World)
variable (stage : Stage Handle Listener World)
variable {origin : Deck Handle Listener} {operation : Operation}
variable {outcome : Except Failure Unit} {after : Stage Handle Listener World} {id : Int}

theorem Rebuilds.evolved {deck after : Deck Handle Listener} {entries : List (Entry Handle)}
    (rebuilds : Rebuilds around deck outcome after entries) :
    Evolved origin operation deck after := by
  cases rebuilds with
  | silenced => exact .of_bank rfl rfl
  | refused | unstarted | started => exact .of_refreshed rfl rfl

theorem evolved_rebuilt (present : stage.deck.Present)
    (rebuilt : perform (rebuild around) stage = (outcome, after)) :
    Evolved origin operation stage.deck after.deck := by
  obtain ⟨entries, -, rebuilds⟩ := rebuilds_of_perform around stage present rebuilt
  exact rebuilds.evolved

theorem evolved_stamped (id : Int) :
    Evolved origin operation stage.deck (stage.stamped around id).deck :=
  .of_modify rfl rfl fun slot _ => .single (.stamped slot _)

theorem Starts.evolved (present : stage.deck.Present)
    (starts : Starts around stage id outcome after) :
    Evolved origin operation stage.deck after.deck := by
  cases starts with
  | missing | playing => exact .refl
  | failed loaded idle rebuilt =>
    -- the slot joins, the rebuild fails, and the slot leaves again
    have tried : Evolved origin operation _ _ :=
      evolved_rebuilt around _ (present.joined loaded) rebuilt
    exact (Evolved.joined id).trans (tried.trans (.left id))
  | started loaded idle rebuilt =>
    have rebuilds : Evolved origin operation _ _ :=
      evolved_rebuilt around _ (present.joined loaded) rebuilt
    simp only [deck_saved, toldPlaying_eq, deck_told, deck_toldState]
    exact (Evolved.joined id).trans (rebuilds.trans (evolved_stamped around _ id))

theorem Stops.evolved (present : stage.deck.Present) (stops : Stops around stage id outcome after) :
    Evolved origin operation stage.deck after.deck := by
  cases stops with
  | missing | idle => exact .refl
  | failed loaded active rebuilt =>
    have tried : Evolved origin operation _ _ :=
      evolved_rebuilt around _ (present.left id) rebuilt
    exact (Evolved.left id).trans (tried.trans (.putBack id _))
  | stopped loaded active rebuilt =>
    have rebuilds : Evolved origin operation _ _ :=
      evolved_rebuilt around _ (present.left id) rebuilt
    simp only [toldPlaying_eq, deck_told, deck_toldState]
    exact (Evolved.left id).trans (rebuilds.trans (evolved_stamped around _ id))

theorem evolved_toldStopped (ids : List Int) :
    Evolved origin operation stage.deck (stage.toldStopped around ids).deck := by
  induction ids generalizing stage with
  | nil => exact .refl
  | cons id rest ih =>
    have told := ih ((stage.stamped around id).toldPlaying around id)
    rw [toldPlaying_eq, deck_told, deck_toldState, ← toldPlaying_eq] at told
    exact (evolved_stamped around stage id).trans told

theorem evolved_stopAll (stopped : perform (stopAll around) stage = (outcome, after)) :
    Evolved origin operation stage.deck after.deck := by
  obtain ⟨world, stops, hushed, -, performed⟩ := perform_stopAll around stage
  rw [stopped, Prod.mk.injEq] at performed
  obtain ⟨-, rfl⟩ := performed
  rw [deck_told]
  have told : Evolved origin operation stage.deck.silent _ := evolved_toldStopped around
    ⟨stage.deck.silent, world, stage.journal ++ stops ++ [.hushed hushed]⟩ stage.deck.audible
  exact Evolved.silent.trans told

section Code

variable {code : String}

/-- Live code that is put back leaves no trace in its slot, and a refresh in the others that play. -/
theorem LiveEdits.evolved (asked : operation.recodes? = some (id, code))
    (present : stage.deck.Present) (edits : LiveEdits around stage id code outcome after) :
    Evolved origin operation stage.deck after.deck := by
  have recoded : ∀ {slot : Slot}, stage.deck.bank.find? id = some slot →
      Evolved origin operation stage.deck
        (stage.deck.recoded id code { slot with code }.refreshed.parameters) := by
    intro slot found
    obtain rfl := Bank.id_of_find? found
    refine Evolved.of_modify rfl rfl fun other there => ?_
    rw [found] at there
    cases there
    exact .tail (.single (.recoded slot asked)) (.refreshed { slot with code })
  cases edits with
  | missing | idle | refused => exact .refl
  | @failed slot handle world failure tried found active compiled rebuilt =>
    have undone := LiveEdits.undone around stage present (.failed found active compiled rebuilt)
    have rebuilds : Evolved origin operation _ tried.deck :=
      evolved_rebuilt around _ (present.recoded id code _) rebuilt
    refine ⟨rebuilds.catalog, fun other => ?_⟩
    by_cases own : other = id
    · subst own
      rw [undone.1, found]
      exact .some .refl
    · have kept := ((recoded found).trans rebuilds).slots other
      simp only [deck_told, Deck.recoded]
      rwa [Bank.find?_modify_ne _ own]
  | edited found active compiled rebuilt =>
    have rebuilds : Evolved origin operation _ _ :=
      evolved_rebuilt around _ (present.recoded id code _) rebuilt
    rw [deck_saved, deck_toldState]
    exact (recoded found).trans (rebuilds.trans (evolved_stamped around _ id))

theorem evolved_rewritten (asked : operation.recodes? = some (id, code)) :
    Evolved origin operation stage.deck (stage.rewritten around id code).deck := by
  let recoded : Stage Handle Listener World := { stage with
    deck := { stage.deck with bank := stage.deck.bank.modify id fun slot => { slot with code } } }
  have first : Evolved origin operation stage.deck recoded.deck := by
    refine Evolved.of_modify rfl rfl fun slot found => ?_
    obtain rfl := Bank.id_of_find? found
    exact .single (.recoded slot asked)
  exact first.trans ((evolved_stamped around recoded id).trans (.refreshed id))

theorem Edits.evolved (asked : operation.recodes? = some (id, code)) (placed : stage.deck.Placed)
    (edits : Edits around stage id code outcome after) :
    Evolved origin operation stage.deck after.deck := by
  have present := placed.present
  cases edits with
  | missing => exact .refl
  | halted loaded active stopped =>
    exact (ends_of_perform (perform_stop around stage id present) stopped).evolved
      around stage present
  | silent =>
    rw [deck_saved, deck_toldState]
    exact evolved_rewritten around stage asked
  | @restarted _ middle _ loaded active stopped started =>
    have stops := ends_of_perform (perform_stop around stage id present) stopped
    have moved := (stops.moved around stage present).tail (.kept (standing_rewritten around middle id code))
    have still := (placed.moved moved).present
    have starts := ends_of_perform (perform_start around _ id still) started
    rw [deck_saved, deck_toldState]
    exact (stops.evolved around stage present).trans
      ((evolved_rewritten around middle asked).trans (starts.evolved around _ still))

end Code

section Parameter

theorem Follows.evolved {p : Parameter} {rebuilds : Bool} (present : stage.deck.Present)
    (follows : Follows around stage id p rebuilds outcome after) :
    Evolved origin operation stage.deck after.deck := by
  cases follows with
  | quiet =>
    rw [deck_toldParameter]
    exact .refl
  | failed _ _ rebuilt | rebuilt _ _ rebuilt =>
    rw [← deck_toldParameter around stage id p] at present ⊢
    have rebuilds : Evolved origin operation _ _ := evolved_rebuilt around _ present rebuilt
    exact rebuilds

/-- An edit that comes to changes of the slot, of those that an operation may make. -/
def Alters (origin : Deck Handle Listener) (operation : Operation) (id : Int)
    (change : Float → Edit Parameter) : Prop :=
  ∀ now bank slot, slot.id = id → slot.id ∈ bank.ids →
    Binding.Comes bank slot [] (change now) fun _ after _ => Slot.Changed origin operation slot after

theorem evolved_adjusted {change : Float → Edit Parameter}
    (alters : Alters origin operation id change) (loaded : id ∈ stage.deck.bank.ids) :
    Evolved origin operation stage.deck (stage.adjusted around id change).deck := by
  obtain ⟨slot, found⟩ := Option.isSome_iff_exists.1 (Bank.isSome_find?.2 loaded)
  obtain rfl := Bank.id_of_find? found
  have again : (stage.deck.refreshed slot.id).bank.find? slot.refreshed.id = some slot.refreshed :=
    Bank.find?_modify_self found Slot.refreshed
  have present : slot.refreshed.id ∈ (stage.deck.refreshed slot.id).bank.ids := by
    rw [Deck.refreshed, Bank.ids_modify]
    exact loaded
  obtain ⟨outcome, after, noted, performed, changed⟩ :=
    alters (around.clock stage.world) _ slot.refreshed rfl present
  rw [Draft.of_eq again] at performed
  have put : (stage.adjusted around slot.id change).deck.bank =
      (stage.deck.refreshed slot.id).bank.put after := by
    simp only [adjusted, edited, performed, Draft.of]
  exact (Evolved.refreshed slot.id).trans (.of_put rfl again changed put)

theorem Adjusts.evolved {rebuilds : Bool} {change : Float → Edit Parameter}
    {outcome : Except Failure Parameter} (alters : Alters origin operation id change)
    (keeps : ∀ now, Keeps flags (change now)) (present : stage.deck.Present)
    (adjusts : Adjusts around stage id rebuilds change outcome after) :
    Evolved origin operation stage.deck after.deck := by
  cases adjusts with
  | missing => exact .refl
  | refused loaded | rejected loaded => exact evolved_adjusted around stage alters loaded
  | @changed p _ _ loaded changed follows =>
    have still := present_of_standing present (standing_adjusted around stage id keeps)
    have ends := ends_of_perform (perform_parameterChanged around _ id p rebuilds still) follows
    exact (evolved_adjusted around stage alters loaded).trans (ends.evolved around _ still)

theorem evolved_of_changeParameter {rebuilds : Bool} {change : Float → Edit Parameter}
    (alters : Alters origin operation id change) (keeps : ∀ now, Keeps flags (change now))
    (present : stage.deck.Present) :
    Evolved origin operation stage.deck
      (perform (discard (changeParameter around id rebuilds change)) stage).2.deck := by
  rw [perform_discard]
  have ends := perform_ends (perform_changeParameter around stage id rebuilds change)
  exact ends.evolved around stage alters keeps present

/-- A change for one parameter is noted, if it was allowed and the parameter is there. -/
theorem changed_of_tunes {slot after : Slot} {now : Float} {name : String}
    {change : Except Failure (Parameters → Parameters)} {outcome : Except Failure Parameter}
    {touched : List Int} (tunes : slot.Tunes now name change outcome after touched)
    (each : ∀ f, change = .ok f →
      Slot.Change origin operation slot { slot with parameters := f slot.parameters }) :
    Slot.Changed origin operation slot after := by
  cases tunes with
  | refused | unknown => exact .refl
  | @tuned f p allowed => exact .tail (.single (each f allowed)) (.stamped _ _)

theorem changed_of_binding {slot after : Slot} {now : Float} {name : String} {knob : Option Int}
    {outcome : Except Failure Parameter} {touched : List Int}
    (asked : operation.assigns? = some (slot.id, name, knob))
    (tunes : slot.Tunes now name (Binding.binding name knob) outcome after touched) :
    Slot.Changed origin operation slot after := by
  apply changed_of_tunes tunes
  intro f allowed
  obtain ⟨inRange, rfl⟩ := Binding.binding_eq_ok allowed
  exact .assigned slot asked inRange

theorem alters_assign (name : String) (knob : Option Int) :
    Alters origin (.assignParameter id name knob) id fun now => Binding.assign now id name knob := by
  rintro now bank slot rfl present
  exact (Binding.perform_assign present [] now name knob).mono (changed_of_binding rfl)

theorem alters_setRange (name : String) (lo hi : Float) :
    Alters origin (.setParameterRange id name lo hi) id fun now =>
      Binding.setRange now id name lo hi := by
  rintro now bank slot rfl present
  apply (Binding.perform_setRange present [] now name lo hi).mono
  intro outcome after noted tunes
  apply changed_of_tunes tunes
  intro f allowed
  obtain ⟨range, proper, rfl⟩ := Binding.ranging_eq_ok allowed
  exact .ranged slot rfl proper

theorem alters_setValue (name : String) (value : Float) :
    Alters origin (.setParameterValue id name value) id fun now =>
      Binding.setValue now id name value := by
  rintro now bank slot rfl present
  apply (Binding.perform_setValue present [] now name value).mono
  intro outcome after noted tunes
  apply changed_of_tunes tunes
  rintro f ⟨⟩
  exact .valued slot rfl

theorem changed_of_binds {slot after : Slot} {now : Float} {name : String} {knob : Option Int}
    {outcome : Except Failure Parameter} {touched : List Int}
    (asked : operation.assigns? = some (slot.id, name, knob))
    (binds : slot.Binds now name knob outcome after touched) :
    Slot.Changed origin operation slot after := by
  cases binds with
  | unbound => exact .refl
  | bound given tunes => exact changed_of_binding asked tunes

theorem alters_addFromCatalog (name : String) (knob : Option Int) :
    Alters origin (.addCatalogParameter id name knob) id fun now =>
      Binding.addFromCatalog origin.catalog now id name knob := by
  rintro now bank slot rfl present
  apply (Binding.perform_addFromCatalog present [] now name origin.catalog knob).mono
  intro outcome after noted adds
  have appended : ∀ entry : Catalog.Entry,
      Slot.Change origin (.addCatalogParameter slot.id name knob) slot
        { slot with code := slot.code ++ entry.fragment } :=
    fun entry => .appended slot entry rfl
  cases adds with
  | unlisted => exact .refl
  | used listed used binds =>
    obtain rfl := Catalog.name_of_find? listed
    exact .head (.refreshed slot) (changed_of_binds rfl binds)
  -- the fragment stays in the code when the parameter that it needs is refused
  | @unseeded entry => exact .single (appended entry)
  | @appended entry parameters _ _ _ listed unused seeded binds =>
    obtain rfl := Catalog.name_of_find? listed
    let grown : Slot := { slot with code := slot.code ++ entry.fragment }
    have joins : Slot.Changed origin (.addCatalogParameter slot.id entry.name knob) grown
        { grown with parameters } := by
      rcases slot.seeded_eq_ok seeded with ⟨-, rfl⟩ | ⟨p, seed, rfl⟩
      · exact .refl
      · exact .single (.seeded grown rfl (Catalog.mem_of_find? listed) seed)
    have stamped := joins.tail (.stamped { grown with parameters } (.at now))
    exact (stamped.head (appended entry)).trans (changed_of_binds rfl binds)

section Knob

variable {knob ticks : Int}

theorem evolved_edited_turn : Evolved stage.deck (.turnKnob knob ticks) stage.deck
    (stage.edited (stage.turn around knob ticks)).deck := by
  have ends := perform_ends (Selection.perform_turn (around.clock stage.world) stage.deck.selected
    knob (.whole ticks) { bank := stage.deck.bank })
  rw [edited, turn]
  revert ends
  rcases perform (Selection.turn (around.clock stage.world) stage.deck.selected knob (.whole ticks))
    { bank := stage.deck.bank } with ⟨outcome, draft⟩
  intro ends
  cases ends with
  | idle | notANumber | tooLarge => exact .of_bank rfl rfl
  | @turned slot p new driven reached =>
    have found := Selection.find?_of_driven? driven
    let moved : Deck Handle Listener := { stage.deck with
      bank := stage.deck.bank.modify slot.id fun slot =>
        { slot with
          parameters := slot.parameters.modify p.name fun p => { p with value := new } } }
    have moves : Evolved stage.deck (.turnKnob knob ticks) stage.deck moved := by
      refine .of_modify rfl rfl fun other there => ?_
      rw [found] at there
      cases there
      exact .single (.turned rfl driven reached)
    exact moves.trans (.of_modify rfl rfl fun other _ => .single (.stamped other _))

theorem Turns.evolved (present : stage.deck.Present)
    (turns : Turns around stage knob ticks outcome after) :
    Evolved stage.deck (.turnKnob knob ticks) stage.deck after.deck := by
  cases turns with
  | refused | idle => exact evolved_edited_turn around stage
  | @turned turn _ _ driven follows =>
    have still := present_of_standing present (standing_turned around stage knob ticks)
    have ends := ends_of_perform
      (perform_parameterChanged around _ turn.slot turn.parameter true still) follows
    exact (evolved_edited_turn around stage).trans (ends.evolved around _ still)

end Knob

end Parameter

theorem evolved_of_toggle (id : Int) (present : stage.deck.Present) :
    Evolved origin operation stage.deck (perform (toggle around id) stage).2.deck := by
  rw [perform_toggle]
  split
  · exact (perform_ends (perform_stop around stage id present)).evolved around stage present
  · exact (perform_ends (perform_start around stage id present)).evolved around stage present

theorem Selects.evolved {selected : Option Int} (selects : Selects around stage selected outcome after) :
    Evolved origin operation stage.deck after.deck := by
  cases selects with
  | missing | selected => exact .of_bank rfl rfl

theorem evolved_of_pressButton (id : Int) (pressed : Bool) (placed : stage.deck.Placed) :
    Evolved origin operation stage.deck (perform (pressButton around id pressed) stage).2.deck := by
  cases pressed with
  | false => exact .refl
  | true =>
    have selects := perform_ends (perform_select around stage (some id))
    have evolved : Evolved origin operation _ _ := selects.evolved around stage
    have moved := selects.moved around stage
    rw [perform_pressButton]
    rcases selected : perform (select around (some id)) stage with ⟨failure | ⟨⟩, after⟩
    all_goals rw [selected] at evolved moved
    · exact evolved
    · exact evolved.trans (evolved_of_toggle around after id (placed.moved moved).present)

theorem evolved_of_parameters (id : Int) :
    Evolved origin operation stage.deck
      (perform (discard (parameters around id)) stage).2.deck := by
  rw [perform_discard]
  by_cases loaded : id ∈ stage.deck.bank.ids
  · obtain ⟨ps, performed⟩ := perform_parameters_of_mem around stage id loaded
    rw [performed]
    exact .refreshed id
  · rw [perform_parameters_of_notMem around stage id loaded]
    exact .refl

/-- Every operation but the load of a library changes slots in the ways that are known. -/
theorem evolved_of_operation (operation : Operation) (placed : stage.deck.Placed)
    (stays : ∀ slots name version, operation ≠ .loadLibrary slots name version) :
    Evolved stage.deck operation stage.deck (perform (operation.act around) stage).2.deck := by
  have present := placed.present
  cases operation with
  | start id =>
    exact (perform_ends (perform_start around stage id present)).evolved around stage present
  | stop id =>
    exact (perform_ends (perform_stop around stage id present)).evolved around stage present
  | toggle id => exact evolved_of_toggle around stage id present
  | stopAll => exact evolved_stopAll around stage rfl
  | updateLiveCode id code =>
    exact (perform_ends (perform_updateLiveCode around stage id code present)).evolved
      around stage rfl present
  | updatePatternCode id code =>
    exact (perform_ends (perform_updatePatternCode around stage id code present)).evolved
      around stage rfl placed
  | select id => exact (perform_ends (perform_select around stage id)).evolved around stage
  | parameters id => exact evolved_of_parameters around stage id
  | assignParameter id name knob =>
    exact evolved_of_changeParameter around stage (alters_assign name knob)
      (fun now => (unseen_flags id).keeps_assign now name knob) present
  | setParameterRange id name lo hi =>
    exact evolved_of_changeParameter around stage (alters_setRange name lo hi)
      (fun now => (unseen_flags id).keeps_setRange now name lo hi) present
  | setParameterValue id name value =>
    exact evolved_of_changeParameter around stage (alters_setValue name value)
      (fun now => (unseen_flags id).keeps_setValue now name value) present
  | addCatalogParameter id name knob =>
    rw [Operation.act, perform_discard, perform_addCatalogParameter, ← perform_discard]
    exact evolved_of_changeParameter around stage (alters_addFromCatalog name knob)
      (fun now => (unseen_flags id).keeps_addFromCatalog stage.deck.catalog now name knob) present
  | pressButton id pressed => exact evolved_of_pressButton around stage id pressed placed
  | turnKnob knob ticks =>
    exact (perform_ends (perform_turnKnob around stage knob ticks)).evolved around stage present
  | loadLibrary slots name version => exact absurd rfl (stays slots name version)

end Stage

end PatternDeck
