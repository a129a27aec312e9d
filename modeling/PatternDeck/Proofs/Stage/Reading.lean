import PatternDeck.Proofs.Stage.Frame

/-!
What can be read of a slot in the entries of a journal: how the listeners were told of it last, and how
it was saved last.
-/
namespace PatternDeck

section Reading

variable {Handle : Type} {entries more : List (Entry Handle)} {id : Int}

/-- The slot that listeners are told of, if it is the one of an id. -/
def Entry.shown? (id : Int) : Entry Handle → Option Slot
  | .announced (.stateChange slot) => if slot.id = id then some slot else none
  | _ => none

/-- The slot that is saved, if it is the one of an id. -/
def Entry.kept? (id : Int) : Entry Handle → Option Slot
  | .saved slot _ => if slot.id = id then some slot else none
  | _ => none

/-- The name of the parameter that listeners are told of, if its slot is the one of an id. -/
def Entry.toldName? (id : Int) : Entry Handle → Option String
  | .announced (.parameterChange other p) => if other = id then some p.name else none
  | _ => none

/-- The entry does not save the slot of an id, and tells of no parameter of it. -/
structure Entry.Mute (id : Int) (entry : Entry Handle) : Prop where
  unsaved : entry.kept? id = none
  untuned : entry.toldName? id = none

theorem Entry.shown?_of_other {entry : Entry Handle} (other : entry.subject? ≠ some id) :
    entry.shown? id = none := by
  unfold shown?
  split
  next slot => exact if_neg fun same => other (congrArg some same)
  next => rfl

theorem Entry.kept?_of_other {entry : Entry Handle} (other : entry.subject? ≠ some id) :
    entry.kept? id = none := by
  unfold kept?
  split
  next slot => exact if_neg fun same => other (congrArg some same)
  next => rfl

theorem Entry.mute_of_other {entry : Entry Handle} (other : entry.subject? ≠ some id) :
    entry.Mute id where
  unsaved := Entry.kept?_of_other other
  untuned := by
    unfold toldName?
    split
    next own _ => exact if_neg fun same => other (congrArg some same)
    next => rfl

theorem Within.mute {ids : List Int} (within : Within ids entries) (other : id ∉ ids) :
    ∀ entry ∈ entries, entry.Mute id :=
  fun entry there => Entry.mute_of_other (within.subject?_ne other entry there)

/-- The names of the parameters of a slot that listeners are told of. -/
def toldNames (id : Int) (entries : List (Entry Handle)) : List String :=
  entries.filterMap (Entry.toldName? id)

theorem toldNames_of_mute (mute : ∀ entry ∈ entries, entry.Mute id) : toldNames id entries = [] :=
  List.filterMap_eq_nil_iff.2 fun entry there => (mute entry there).untuned

/-- What the last of the entries says that say something. -/
def lastRead {α : Type} (read : Entry Handle → Option α) (entries : List (Entry Handle)) : Option α :=
  (entries.filterMap read).getLast?

theorem lastRead_append {α : Type} (read : Entry Handle → Option α)
    (entries more : List (Entry Handle)) :
    lastRead read (entries ++ more) = (lastRead read more).or (lastRead read entries) := by
  rw [lastRead, List.filterMap_append, List.getLast?_append]
  rfl

theorem lastRead_of_unread {α : Type} {read : Entry Handle → Option α}
    (unread : ∀ entry ∈ entries, read entry = none) : lastRead read entries = none := by
  rw [lastRead, List.filterMap_eq_nil_iff.2 unread]
  rfl

/-- The last that is read of a slot shows it as it is now, with the parameters of some names. -/
def Current (read : Int → Entry Handle → Option Slot) (entries : List (Entry Handle))
    (known : List String) (slot : Slot) : Prop :=
  ∃ seen, lastRead (read slot.id) entries = some seen ∧ seen.Gains slot ∧
    known ⊆ seen.parameters.names

variable {read : Int → Entry Handle → Option Slot} {slot new : Slot} {known fewer : List String}

theorem Current.later (current : Current read entries known slot) (gains : slot.Gains new)
    (unread : ∀ entry ∈ more, read slot.id entry = none) :
    Current read (entries ++ more) known new := by
  obtain ⟨seen, last, shows, names⟩ := current
  refine ⟨seen, ?_, shows.trans gains, names⟩
  rw [gains.id_eq, lastRead_append, lastRead_of_unread unread, Option.none_or, last]

theorem Current.after (current : Current read more known slot) (entries : List (Entry Handle)) :
    Current read (entries ++ more) known slot := by
  obtain ⟨seen, last, shows⟩ := current
  exact ⟨seen, by rw [lastRead_append, last, Option.some_or], shows⟩

theorem Current.of_subset (current : Current read entries known slot) (subset : fewer ⊆ known) :
    Current read entries fewer slot := by
  obtain ⟨seen, last, shows, names⟩ := current
  exact ⟨seen, last, shows, fun name there => names (subset there)⟩

theorem Current.names (current : Current read entries known slot) : known ⊆ slot.parameters.names := by
  obtain ⟨seen, -, shows, names⟩ := current
  exact fun name there => shows.names (names there)

end Reading

section Disclosure

variable {Handle Listener World : Type} (around : Surroundings Handle Listener World)
variable {entries more : List (Entry Handle)} {old slot new : Slot}

/-- The time of a slot's change was noted, and the listeners know the slot as it is now, with the
parameters that it had. -/
structure Slot.Disclosed (entries : List (Entry Handle)) (old new : Slot) : Prop where
  noted : .touched new.id ∈ entries
  stamped : ∃ world, new.modified = .at (around.clock world)
  told : Current Entry.shown? entries old.parameters.names new

/-- If slots are saved anywhere, the slot was saved last as it is now, with the parameters that it had
and those that were told of. -/
def Slot.Filed (entries : List (Entry Handle)) (old new : Slot) : Prop :=
  around.save.isSome →
    Current Entry.kept? entries (old.parameters.names ++ toldNames new.id entries) new

variable {around}

theorem Slot.Disclosed.later (disclosed : Slot.Disclosed around entries old slot)
    (gains : slot.Gains new) (silent : ∀ entry ∈ more, entry.subject? ≠ some slot.id) :
    Slot.Disclosed around (entries ++ more) old new where
  noted := List.mem_append_left _ (gains.id_eq ▸ disclosed.noted)
  stamped := gains.modified ▸ disclosed.stamped
  told := disclosed.told.later gains fun entry there => Entry.shown?_of_other (silent entry there)

theorem Slot.Filed.later (filed : Slot.Filed around entries old slot) (gains : slot.Gains new)
    (silent : ∀ entry ∈ more, entry.subject? ≠ some slot.id) :
    Slot.Filed around (entries ++ more) old new := by
  intro somewhere
  have mute : ∀ entry ∈ more, entry.Mute slot.id :=
    fun entry there => Entry.mute_of_other (silent entry there)
  have untold : toldNames new.id (entries ++ more) = toldNames slot.id entries := by
    rw [gains.id_eq, toldNames, List.filterMap_append, ← toldNames, ← toldNames,
      toldNames_of_mute mute, List.append_nil]
  rw [untold]
  exact (filed somewhere).later gains fun entry there => (mute entry there).unsaved

theorem Slot.Disclosed.after (disclosed : Slot.Disclosed around more old new)
    (entries : List (Entry Handle)) : Slot.Disclosed around (entries ++ more) old new where
  noted := List.mem_append_right _ disclosed.noted
  stamped := disclosed.stamped
  told := disclosed.told.after entries

/-- Parameters that were told of earlier are among those that were saved in the end. -/
theorem Slot.Filed.after (filed : Slot.Filed around more slot new) {entries : List (Entry Handle)}
    (names : old.parameters.names ++ toldNames new.id entries ⊆ slot.parameters.names) :
    Slot.Filed around (entries ++ more) old new := by
  intro somewhere
  refine ((filed somewhere).after entries).of_subset ?_
  intro name there
  rw [toldNames, List.filterMap_append, ← List.append_assoc] at there
  rcases List.mem_append.1 there with there | there
  · exact List.mem_append_left _ (names there)
  · exact List.mem_append_right _ there

theorem Slot.Filed.after_mute (filed : Slot.Filed around more slot new)
    {entries : List (Entry Handle)} (names : old.parameters.names ⊆ slot.parameters.names)
    (mute : ∀ entry ∈ entries, entry.Mute new.id) : Slot.Filed around (entries ++ more) old new := by
  apply filed.after
  rwa [toldNames_of_mute mute, List.append_nil]

theorem Slot.Disclosed.since (disclosed : Slot.Disclosed around entries slot new)
    (names : old.parameters.names ⊆ slot.parameters.names) :
    Slot.Disclosed around entries old new where
  noted := disclosed.noted
  stamped := disclosed.stamped
  told := disclosed.told.of_subset names

theorem Slot.Disclosed.followed (disclosed : Slot.Disclosed around entries old new)
    (unshown : ∀ entry ∈ more, entry.shown? new.id = none) :
    Slot.Disclosed around (entries ++ more) old new where
  noted := List.mem_append_left _ disclosed.noted
  stamped := disclosed.stamped
  told := disclosed.told.later (.refl new) unshown

end Disclosure

namespace Stage

open Act

variable {Handle Listener World : Type} (around : Surroundings Handle Listener World)
variable (stage : Stage Handle Listener World)

section Closing

variable {id : Int} {slot : Slot} (found : stage.deck.bank.find? id = some slot)
include found

/-- What is written down when a slot is saved. -/
theorem journal_saved_of_find? :
    ∃ saves, (stage.saved around id).journal = stage.journal ++ saves ∧
      slot.Filed around saves slot ∧ ∀ entry ∈ saves, ∃ outcome, entry = .saved slot outcome := by
  simp only [saved, persist, perform_bind, perform_getDeck, found]
  cases somewhere : around.save with
  | none => exact ⟨[], (List.append_nil _).symm, by simp [Slot.Filed, somewhere], by simp⟩
  | some save =>
    refine ⟨[.saved slot (save slot stage.world).1], rfl, fun _ => ⟨slot, ?_, .refl slot, ?_⟩, ?_⟩
    · simp [lastRead, Entry.kept?]
    · exact List.append_subset.2 ⟨fun _ there => there, List.nil_subset _⟩
    · simp

theorem current_toldState : ∃ tells,
    (stage.toldState around id).journal = stage.journal ++ tells ∧
      Current Entry.shown? tells slot.parameters.names slot ∧
      ∀ entry ∈ tells, entry = .announced (.stateChange slot) := by
  rw [toldState_of_find? around stage found]
  refine ⟨_, rfl, ⟨slot, ?_, .refl slot, fun _ there => there⟩, by simp⟩
  simp [lastRead, Entry.shown?]

/-- A slot that was told of and then saved is known as it is. -/
theorem closed : ∃ entries,
    ((stage.toldState around id).saved around id).journal = stage.journal ++ entries ∧
      Current Entry.shown? entries slot.parameters.names slot ∧ slot.Filed around entries slot := by
  obtain ⟨tells, told, current, telling⟩ := current_toldState around stage found
  obtain ⟨saves, saved, filed, only⟩ := journal_saved_of_find? around (stage.toldState around id)
    (by rwa [deck_toldState])
  have mute : ∀ entry ∈ tells, entry.Mute slot.id := by
    intro entry there
    rw [telling entry there]
    exact ⟨rfl, rfl⟩
  refine ⟨tells ++ saves, by rw [saved, told, List.append_assoc], ?_, filed.after ?_⟩
  · refine current.later (.refl slot) fun entry there => ?_
    obtain ⟨outcome, rfl⟩ := only entry there
    rfl
  · rw [toldNames_of_mute mute, List.append_nil]
    exact fun _ there => there

theorem find?_stamped : (stage.stamped around id).deck.bank.find? id =
    some { slot with modified := .at (around.clock stage.world) } := by
  obtain rfl := Bank.id_of_find? found
  rw [deck_stamped]
  exact Bank.find?_modify_self found _

/-- A slot that is told of right after the time was noted. -/
theorem disclosed_toldPlaying : ∃ entries,
    ((stage.stamped around id).toldPlaying around id).journal = stage.journal ++ entries ∧
      slot.Disclosed around entries { slot with modified := .at (around.clock stage.world) } ∧
      ∀ entry ∈ entries, entry.Mute id := by
  obtain rfl := Bank.id_of_find? found
  have stamped := find?_stamped around stage found
  obtain ⟨tells, told, current, only⟩ := current_toldState around _ stamped
  let light : Entry Handle :=
    .announced (.indicator slot.id ((stage.stamped around slot.id).deck.color slot.id))
  refine ⟨.touched slot.id :: (tells ++ [light]), ?_, ⟨List.mem_cons_self, ⟨_, rfl⟩, ?_⟩, ?_⟩
  · rw [toldPlaying_eq, journal_told, told, journal_stamped]
    simp [light]
  · exact (current.later (.refl _) (by simp [light, Entry.shown?])).after [.touched slot.id]
  · intro entry there
    rcases List.mem_cons.1 there with rfl | there
    · exact ⟨rfl, rfl⟩
    · rcases List.mem_append.1 there with there | there
      · rw [only entry there]
        exact ⟨rfl, rfl⟩
      · rw [List.mem_singleton.1 there]
        exact ⟨rfl, rfl⟩

end Closing

end Stage

end PatternDeck
