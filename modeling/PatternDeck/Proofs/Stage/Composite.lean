import PatternDeck.Proofs.Stage.Consistency

/-!
The program that the renderer plays is kept as a text, while the slots it was made of go on changing.
`InTune` says that it is still the composite of the slots that play. What it hangs on is the
`sound` of a stage: a rebuild that works puts a stage in tune, and one that the renderer refuses
leaves its sound as it was.
-/
namespace PatternDeck

/-- The texts of slots that are there are those under their ids. -/
theorem Bank.forall₂_texts (bank : Bank) {ids : List Int} (present : ∀ id ∈ ids, id ∈ bank.ids) :
    List.Forall₂ (fun id text => ∃ slot, bank.find? id = some slot ∧ text = slot.text) ids
      (bank.texts ids) := by
  induction ids with
  | nil => exact .nil
  | cons id rest ih =>
    obtain ⟨slot, found⟩ := Option.isSome_iff_exists.1
      (Bank.isSome_find?.2 (present id List.mem_cons_self))
    rw [texts, List.filterMap_cons, view_of_find? Slot.text found]
    exact .cons ⟨slot, found, rfl⟩ (ih fun other there => present other (List.mem_cons_of_mem id there))

def Event.rebuild? : Event → Option (Option String)
  | .rebuild program => some program
  | _ => none

def Entry.isFailedStart {Handle : Type} : Entry Handle → Bool
  | .started _ (.error _) => true
  | _ => false

namespace Stage

open Act

variable {Handle Listener World : Type} (around : Surroundings Handle Listener World)
variable (stage : Stage Handle Listener World)

/-- What was told of the composite last. -/
def lastRebuild : Option String :=
  (stage.announced.filterMap Event.rebuild?).getLast?.join

/-- No program failed to start so far. -/
def Reliable : Prop := ∀ entry ∈ stage.journal, entry.isFailedStart = false

/-- The one program of several texts: none, the only one, or their stack. -/
def together : List String → Option String
  | [] => none
  | [program] => some program
  | programs => some (around.stack programs)

/-- The texts of the slots that play, in order. -/
def texts : List String := stage.deck.bank.texts stage.deck.active

/-- The composite is the one of the slots that play, and the listeners know of it. -/
structure InTune : Prop where
  playing : stage.deck.program? = together around stage.texts
  told : stage.lastRebuild = stage.deck.program?

/-- What the composite hangs on, and what is known of it. -/
def sound : List Int × (Int → Option String) × Option String × Option String :=
  (stage.deck.active, stage.deck.bank.view Slot.text, stage.deck.program?, stage.lastRebuild)

section Sound

theorem together_of_ne_nil {programs : List String} (some : programs ≠ []) :
    together around programs = .some (composite around programs) := by
  rcases programs with _ | ⟨first, _ | ⟨second, rest⟩⟩
  · exact absurd rfl some
  · rfl
  · rfl

variable {stage} {other : Stage Handle Listener World}

theorem InTune.congr (inTune : stage.InTune around) (active : other.deck.active = stage.deck.active)
    (texts : ∀ id ∈ stage.deck.active,
      other.deck.bank.view Slot.text id = stage.deck.bank.view Slot.text id)
    (running : other.deck.program? = stage.deck.program?)
    (told : other.lastRebuild = stage.lastRebuild) : other.InTune around := by
  -- only the texts of the slots that play count
  have same : other.texts = stage.texts := by
    rw [Stage.texts, Stage.texts, active]
    exact List.filterMap_congr texts
  exact ⟨by rw [running, inTune.playing, same], by rw [told, inTune.told, running]⟩

theorem InTune.of_sound (inTune : stage.InTune around) (same : other.sound = stage.sound) :
    other.InTune around := by
  simp only [sound, Prod.mk.injEq] at same
  obtain ⟨active, texts, running, told⟩ := same
  exact inTune.congr around active (fun id _ => congrFun texts id) running told

theorem Reliable.of_prefix (reliable : other.Reliable) (grown : stage.journal <+: other.journal) :
    stage.Reliable :=
  fun entry there => reliable entry (grown.subset there)

/-- Only a rebuild changes what was told of the composite. -/
theorem lastRebuild_of_append {entries : List (Entry Handle)}
    (grown : other.journal = stage.journal ++ entries)
    (silent : ∀ entry ∈ entries, (entry.event?.bind Event.rebuild?) = none) :
    other.lastRebuild = stage.lastRebuild := by
  have nothing : (entries.filterMap Entry.event?).filterMap Event.rebuild? = [] := by
    rw [List.filterMap_filterMap, List.filterMap_eq_nil_iff]
    exact silent
  simp only [lastRebuild, announced, grown, List.filterMap_append, nothing, List.append_nil]

theorem lastRebuild_of_append_rebuild {entries : List (Entry Handle)} {program : Option String}
    (grown : other.journal = entries ++ [.announced (.rebuild program)]) :
    other.lastRebuild = program := by
  simp [lastRebuild, announced, grown, List.filterMap_append, Entry.event?, Event.rebuild?]

end Sound

section Blocks

/-- Nothing but a rebuild and a change of slots is heard. -/
theorem sound_told {event : Event} (silent : event.rebuild? = none) :
    (stage.told around event).sound = stage.sound := by
  have kept : (stage.told around event).lastRebuild = stage.lastRebuild := by
    apply lastRebuild_of_append (journal_told around stage event)
    simpa [Entry.event?] using silent
  simp only [sound, deck_told, kept]

theorem sound_stamped (id : Int) : (stage.stamped around id).sound = stage.sound := by
  have kept : (stage.stamped around id).lastRebuild = stage.lastRebuild := by
    apply lastRebuild_of_append (journal_stamped around stage id)
    simp [Entry.event?]
  simp only [sound, kept, deck_stamped, Deck.program?]
  rw [Bank.view_modify stage.deck.bank id]
  exact fun slot => Slot.text_congr rfl rfl

theorem sound_toldState (id : Int) : (stage.toldState around id).sound = stage.sound := by
  rcases found : stage.deck.bank.find? id with _ | slot
  · rw [toldState_of_missing around stage found]
  · rw [toldState_of_find? around stage found]
    exact sound_told around stage rfl

theorem sound_toldPlaying (id : Int) : (stage.toldPlaying around id).sound = stage.sound := by
  rw [toldPlaying_eq, sound_told around _ rfl, sound_toldState]

theorem sound_saved (id : Int) : (stage.saved around id).sound = stage.sound := by
  obtain ⟨saves, grown, entries⟩ := journal_saved around stage id
  have kept : (stage.saved around id).lastRebuild = stage.lastRebuild := by
    apply lastRebuild_of_append grown
    intro entry there
    obtain ⟨slot, outcome, rfl, -⟩ := entries entry there
    rfl
  simp only [sound, deck_saved, kept]

theorem sound_edited {α : Type} (change : Edit α)
    (kept : (perform change { bank := stage.deck.bank }).2.bank.view Slot.text =
      stage.deck.bank.view Slot.text) : (stage.edited change).sound = stage.sound := by
  have told : (stage.edited change).lastRebuild = stage.lastRebuild := by
    apply lastRebuild_of_append rfl
    intro entry there
    obtain ⟨id, -, rfl⟩ := List.mem_map.1 there
    rfl
  simp only [sound, told]
  simp only [edited, kept, Deck.program?]

end Blocks

section Rebuild

variable {stage} {after : Stage Handle Listener World}

theorem texts_ne_nil (present : stage.deck.Present) (busy : stage.deck.active ≠ []) :
    stage.texts ≠ [] := by
  obtain ⟨id, there⟩ := List.exists_mem_of_ne_nil _ busy
  obtain ⟨text, seen⟩ := Option.isSome_iff_exists.1 ((Bank.isSome_view Slot.text).2 (present id there))
  exact List.ne_nil_of_mem (List.mem_filterMap.2 ⟨id, there, seen⟩)

/-- A rebuild that works puts the composite in tune. -/
theorem inTune_of_rebuilt (present : stage.deck.Present)
    (rebuilt : perform (rebuild around) stage = (.ok (), after)) : after.InTune around := by
  obtain ⟨entries, grown, rebuilds⟩ := rebuilds_of_perform around stage present rebuilt
  obtain ⟨deck, world, journal⟩ := after
  cases rebuilds with
  | silenced idle stopped =>
    rw [← List.append_assoc] at grown
    refine ⟨?_, lastRebuild_of_append_rebuild grown⟩
    rw [texts, idle]
    rfl
  | @started stops handle busy stopped =>
    have split : ∀ first last : Entry Handle, stage.journal ++ (first :: stops ++ [last,
        .announced (.rebuild (some (program around stage.deck)))]) =
        (stage.journal ++ (first :: stops ++ [last])) ++
          [.announced (.rebuild (some (program around stage.deck)))] := by simp
    rw [split] at grown
    refine ⟨?_, lastRebuild_of_append_rebuild grown⟩
    -- the composite was made of the texts before the refresh, which are those after it
    have same : (stage.deck.bank.refreshed stage.deck.active).view Slot.text =
        stage.deck.bank.view Slot.text := Bank.view_refreshed _ _ Slot.text_refreshed
    rw [texts, Bank.texts, same]
    exact (together_of_ne_nil around (texts_ne_nil present busy)).symm

/-- A rebuild that is refused is not heard. -/
theorem sound_of_refused {failure : Failure} (present : stage.deck.Present)
    (reliable : after.Reliable)
    (refused : perform (rebuild around) stage = (.error failure, after)) :
    after.sound = stage.sound := by
  obtain ⟨entries, grown, rebuilds⟩ := rebuilds_of_perform around stage present refused
  obtain ⟨deck, world, journal⟩ := after
  obtain rfl : journal = stage.journal ++ entries := grown
  have kept : _ → lastRebuild ⟨deck, world, stage.journal ++ entries⟩ = stage.lastRebuild :=
    lastRebuild_of_append rfl
  cases rebuilds with
  | refused fault busy =>
    -- the parameters were refreshed for the compile, which changes no text
    simp only [sound, kept (by simp [Entry.event?]), Deck.program?,
      Bank.view_refreshed _ _ Slot.text_refreshed]
  | unstarted handle fault busy stopped =>
    -- the old composite was stopped, but the journal has no failed start
    cases reliable (.started handle (.error fault)) (by simp)

end Rebuild

end Stage

end PatternDeck
