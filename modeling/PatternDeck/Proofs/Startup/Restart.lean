import PatternDeck.Proofs.Library.Stored
import PatternDeck.Proofs.Rig.Saving
import PatternDeck.Proofs.Stage.Storable
import PatternDeck.Startup.Session

/-!
Restarting. A rig that is built again after a run has the slots as they were saved last, and those that
were not saved as they were in the file. A file that was not there at first begins with the first save,
and then it has the saved slots alone: the others of the built-in library are gone.
-/
namespace PatternDeck.Startup

open Rig

section Build

variable {configuration : Json} {folder : Folder} {built : Built} {store : Library.Store}
variable {library : Library}

/-- The library that is there without a file. -/
def standard : Library :=
  { name := Library.Builtin.name, version := Library.Builtin.version
    slots := Library.Builtin.slots }

theorem libraryAt_of_contains (there : folder.contains store.path = true) :
    libraryAt (some store) folder = .ok library ↔ store.load folder = .ok library.stored := by
  rcases loaded : store.load folder with fault | found
  all_goals simp only [libraryAt, there, if_true, loaded]
  · constructor
    · rintro ⟨⟩
    · rintro ⟨⟩
  · rw [Except.ok.injEq, ← Library.ofStored?_eq_some_iff]
    rcases Library.ofStored? found with _ | texts
    · constructor
      · rintro ⟨⟩
      · rintro ⟨⟩
    · constructor
      · rintro ⟨⟩
        rfl
      · rintro ⟨⟩
        rfl

theorem libraryAt_of_not_contains (absent : folder.contains store.path = false) :
    libraryAt (some store) folder = .ok standard := by
  simp only [libraryAt, absent]
  rfl

/-- What is built hangs on the library alone that is found at the path. -/
theorem build_eq_ok (made : build configuration folder = .ok built)
    (saving : built.state.world.saving = .library store) :
    built.saves = true ∧ built.state.world.folder = folder ∧
      built.state = Stage.fresh built.state.deck.bank .builtin {} built.state.world ∧
      (∃ library, libraryAt (some store) folder = .ok library ∧ store.name = library.name ∧
        Bank.ofSlots library.slots library.name library.version = .ok built.state.deck.bank) ∧
      ∀ other library bank, libraryAt (some store) other = .ok library →
        Bank.ofSlots library.slots library.name library.version = .ok bank →
        ∃ again, build configuration other = .ok again ∧ again.state.deck.bank = bank := by
  unfold build at made ⊢
  simp only [bind_eq_ok_iff] at made
  obtain ⟨renderer, readRenderer, part, readPart, place, placed, library, opened, made⟩ := made
  split at made
  · cases made
  next bank taken =>
    cases made
    cases place with
    | none => cases saving
    | some place =>
      cases saving
      refine ⟨rfl, rfl, rfl, ⟨library, opened, rfl, taken⟩, ?_⟩
      intro other found bank' opened' taken'
      have opened' : libraryAt (some place) other = .ok found := opened'
      simp only [readRenderer, readPart, placed, opened', ok_bind, taken']
      exact ⟨_, rfl, rfl⟩

end Build

section Reopening

variable {folder after : Folder} {store : Library.Store} {library : Library} {saved : List Slot}
variable {may : String → Prop} {id : Int}

/-- Each library that saves write to a file is read from its text as it was written. -/
def ReadsBack (store : Library.Store) (may : String → Prop) (folder : Folder) (saved : List Slot) :
    Prop :=
  ∀ library, store.current folder = .ok library →
    ∀ draft ∈ library.drafts (saved.map Slot.stored), ∀ timestamp, may timestamp →
      Json.read ((draft.toDocument timestamp).write .indented) = .ok (draft.toDocument timestamp)

/-- The slot of an id is there after saves: the file was there before them, or there still is none, or
the slot is among the saved ones. -/
def Outlasts (store : Library.Store) (folder : Folder) (saved : List Slot) (id : Int) : Prop :=
  folder.contains store.path = true ∨ saved = [] ∨ id ∈ saved.map (·.id)

theorem storable_of_load (loaded : store.load folder = .ok library.stored) :
    library.Settled ∧ library.name.isVoid = false ∧
      ∀ slot ∈ library.slots, slot.parameters.Storable := by
  unfold Library.Store.load Library.load at loaded
  split at loaded
  · obtain ⟨storable, -⟩ := Library.storable_of_decode loaded
    refine ⟨Library.settled_of_stored (Library.settled_of_decode loaded), storable.named, ?_⟩
    intro slot there p member
    have each := (storable.slots slot.stored (List.mem_map_of_mem there)).parameters
    exact Parameter.storable_stored_iff.1 (each p.stored (List.mem_map_of_mem member))
  · cases loaded

theorem load_of_current {found : Library Label} (there : folder.contains store.path = true)
    (current : store.current folder = .ok found) : store.load folder = .ok found := by
  rwa [Library.Store.current, if_pos there] at current

/-- What is found after saves: the slots that were saved last, and of the others those that outlast, as
they were found before. -/
structure Reopened (store : Library.Store) (folder : Folder) (saved : List Slot)
    (before after : Int → Option Slot) : Prop where
  outlasting : ∀ id, Outlasts store folder saved id →
    after id = ((Library.lastOf id saved).map Slot.reread).or (before id)
  lost : ∀ id, ¬Outlasts store folder saved id → after id = none

namespace Reopened

variable {before now : Int → Option Slot} (reopened : Reopened store folder saved before now)
include reopened

theorem of_saved {slot : Slot} (last : Library.lastOf id saved = some slot) :
    now id = some slot.reread := by
  have member : id ∈ saved.map Slot.id := by
    rw [← Library.isSome_lastOf, last]
    rfl
  rw [reopened.outlasting id (.inr (.inr member)), last]
  rfl

theorem of_unsaved {slot : Slot} (unsaved : Library.lastOf id saved = none)
    (found : now id = some slot) : before id = some slot := by
  by_cases outlasts : Outlasts store folder saved id
  · rwa [reopened.outlasting id outlasts, unsaved] at found
  · rw [reopened.lost id outlasts] at found
    cases found

theorem isSome_iff (known : ∀ slot ∈ saved, (before slot.id).isSome) :
    (now id).isSome ↔ (before id).isSome ∧ Outlasts store folder saved id := by
  by_cases outlasts : Outlasts store folder saved id
  · rw [reopened.outlasting id outlasts, Option.isSome_or, Option.isSome_map, Bool.or_eq_true,
      Library.isSome_lastOf, and_iff_left outlasts, or_iff_right_of_imp]
    -- what was saved was there before
    intro member
    obtain ⟨slot, there, rfl⟩ := List.mem_map.1 member
    exact known slot there
  · simp [reopened.lost id outlasts, outlasts]

end Reopened

theorem reopened_of_contains (there : folder.contains store.path = true)
    (opened : libraryAt (some store) folder = .ok library)
    (distinct : (library.slots.map (·.id)).Nodup)
    (saves : store.Saves may folder (saved.map Slot.stored) after)
    (inverse : ReadsBack store may folder saved) :
    ∃ found, libraryAt (some store) after = .ok found ∧ (found.slots.map (·.id)).Nodup ∧
      Reopened store folder saved (Library.lastOf · library.slots)
        (Library.lastOf · found.slots) := by
  have loaded := (libraryAt_of_contains there).1 opened
  obtain ⟨settled, nonvoid, -⟩ := storable_of_load loaded
  have current : store.current folder = .ok library.stored := by
    rw [Library.Store.current, if_pos there, loaded]
  obtain ⟨now, still⟩ := saves.current_stored current nonvoid (inverse _ current)
  have stays : after.contains store.path = true := by
    by_cases nothing : saved = []
    · rw [saves.unchanged (congrArg (List.map Slot.stored) nothing), there]
    · exact still nothing
  refine ⟨library.after saved, ?_, Library.nodup_after distinct, ⟨fun id _ => ?_, ?_⟩⟩
  · exact (libraryAt_of_contains stays).2 (load_of_current stays now)
  · exact Library.lastOf_after settled
  · exact fun _ lost => absurd (.inl there) lost

/-- The file begins with the first save, and has nothing but what is saved. -/
theorem begun_of_saves (absent : folder.contains store.path = false)
    (nonvoid : store.name.isVoid = false)
    (saves : store.Saves may folder (saved.map Slot.stored) after)
    (inverse : ReadsBack store may folder saved) (something : saved ≠ []) :
    ∃ found, libraryAt (some store) after = .ok found ∧ (found.slots.map (·.id)).Nodup ∧
      ∀ id, Library.lastOf id found.slots = (Library.lastOf id saved).map Slot.reread := by
  let begun : Library := { name := store.name, version := store.version, slots := [] }
  have current : store.current folder = .ok begun.stored := by
    rw [Library.Store.current, absent]
    rfl
  obtain ⟨now, still⟩ := saves.current_stored current nonvoid (inverse _ current)
  have stays := still something
  refine ⟨begun.after saved, (libraryAt_of_contains stays).2 (load_of_current stays now),
    Library.nodup_after .nil, fun id => ?_⟩
  rw [Library.lastOf_after fun slot there => absurd there List.not_mem_nil]
  exact Option.or_none

/-- What is opened after saves are the slots that were saved last, and the others if they outlast. -/
theorem exists_reopened (opened : libraryAt (some store) folder = .ok library)
    (named : store.name = library.name) (distinct : (library.slots.map (·.id)).Nodup)
    (saves : store.Saves may folder (saved.map Slot.stored) after)
    (inverse : ReadsBack store may folder saved) :
    ∃ found, libraryAt (some store) after = .ok found ∧ (found.slots.map (·.id)).Nodup ∧
      Reopened store folder saved (Library.lastOf · library.slots)
        (Library.lastOf · found.slots) := by
  cases there : folder.contains store.path with
  | true => exact reopened_of_contains there opened distinct saves inverse
  | false =>
    obtain rfl : standard = library :=
      Except.ok.inj ((libraryAt_of_not_contains there).symm.trans opened)
    by_cases nothing : saved = []
    -- without a save there is no file still, and the built-in library is opened again
    · subst nothing
      obtain rfl := saves.unchanged rfl
      refine ⟨standard, opened, distinct, ⟨fun _ _ => rfl, fun _ lost => ?_⟩⟩
      exact absurd (.inr (.inl rfl)) lost
    · obtain ⟨found, begins, apart, looked⟩ :=
        begun_of_saves there (named ▸ rfl) saves inverse nothing
      refine ⟨found, begins, apart, ⟨fun id outlasts => ?_, fun id lost => ?_⟩⟩
      · rcases outlasts with contained | none | member
        · cases there.symm.trans contained
        · exact absurd none nothing
        · obtain ⟨slot, last⟩ := Option.isSome_iff_exists.1 (Library.isSome_lastOf.2 member)
          rw [looked, last]
          rfl
      · have missing : Library.lastOf id saved = none := by
          rw [← Option.not_isSome_iff_eq_none, Library.isSome_lastOf]
          exact fun member => lost (.inr (.inr member))
        rw [looked, missing]
        rfl

end Reopening

section Restart

variable {configuration : Json} {folder : Folder} {built : Built} {store : Library.Store}
variable {library : Library} {steps : List (Step Renderer.Handle Ear World)} {last : State}

theorem storable_of_opened (opened : libraryAt (some store) folder = .ok library) :
    ∀ slot ∈ library.slots, slot.parameters.Storable := by
  cases there : folder.contains store.path with
  | true => exact (storable_of_load ((libraryAt_of_contains there).1 opened)).2.2
  | false =>
    obtain rfl := Except.ok.inj ((libraryAt_of_not_contains there).symm.trans opened)
    intro slot member p parameter
    -- no slot of the built-in library has a parameter yet
    obtain ⟨pattern, -, rfl⟩ := List.mem_map.1 member
    cases parameter

/-- How a slot comes back that a run left as it is `now`. -/
structure Restored (steps : List (Step Renderer.Handle Ear World)) (now : Slot) (again : Bank) :
    Prop where
  code : ∀ loaded, again.find? now.id = some loaded →
    (loaded.code = now.code ↔ ¬Lost now.id steps)
  parameters : ∀ step ∈ steps, ∀ name, step.Sets now.id name →
    ∃ loaded p q, again.find? now.id = some loaded ∧ now.parameters.get? name = some p ∧
      loaded.parameters.get? name = some q ∧ p.Reloads q
  /-- Only a refused change with a fragment of the catalog leaves code behind that is not saved. -/
  losses : ∀ step ∈ steps, step.Loses now.id → ∃ entry failure,
    step.operation.tunes? = some now.id ∧ step.operation.appends? step.before.deck = some entry ∧
      step.outcome = .error failure ∧ failure.isOwn = false

/-- The saved slot is read with the parameters that it has in the end. -/
theorem restored_of_trail {first now : Slot} {again : Bank} (trail : Trail steps first now)
    (storable : now.parameters.Storable)
    (saved : ∀ seen, lastRead (Entry.kept? now.id) (written steps) = some seen →
      again.find? now.id = some seen.reread)
    (unsaved : lastRead (Entry.kept? now.id) (written steps) = none →
      ∀ loaded, again.find? now.id = some loaded → loaded = first)
    (losses : ∀ step ∈ steps, step.Loses now.id → ∃ entry failure,
      step.operation.tunes? = some now.id ∧ step.operation.appends? step.before.deck = some entry ∧
        step.outcome = .error failure ∧ failure.isOwn = false) : Restored steps now again := by
  obtain ⟨same, ⟨fragment, code, whole⟩, parameters, sets⟩ := trail
  rw [← same] at whole sets
  refine ⟨fun loaded found => ?_, fun step taken name set => ?_, losses⟩
  · have kept : loaded.code = (lastKept first steps).code := by
      rw [lastKept, ← same]
      cases last : lastRead (Entry.kept? now.id) (written steps) with
      | none => rw [unsaved last loaded found, Option.getD_none]
      | some seen =>
        rw [saved seen last, Option.some.injEq] at found
        rw [← found, Option.getD_some]
        rfl
    rw [kept, code, ← whole, eq_comm, String.append_eq_left_iff]
  · obtain ⟨seen, last, known⟩ := sets step taken name set
    have kept : lastKept first steps = seen := by rw [lastKept, ← same, last, Option.getD_some]
    obtain ⟨p, had⟩ := Option.isSome_iff_exists.1 (Parameters.isSome_get?.2 known)
    rw [kept] at parameters
    have has := Parameters.get?_of_grown parameters had
    refine ⟨seen.reread, p, p.reread, saved seen last, has, ?_, ?_⟩
    · exact (Parameters.get?_map seen.parameters Parameter.reread name).trans (by rw [had]; rfl)
    · have storable := storable p (Parameters.get?_eq_some_iff.1 has).1
      rw [storable.reread_eq]
      exact storable.reloads

/-- A rig that is built again after saves has the slots as they were saved last, and the others, if they
outlast, as they were. -/
theorem built_again (made : build configuration folder = .ok built)
    (saving : built.state.world.saving = .library store) {may : String → Prop} {saved : List Slot}
    {after : Folder} (saves : store.Saves may folder (saved.map Slot.stored) after)
    (known : ∀ slot ∈ saved, slot.id ∈ built.state.deck.bank.ids)
    (inverse : ReadsBack store may folder saved) :
    ∃ again, build configuration after = .ok again ∧
      Reopened store folder saved built.state.deck.bank.find? again.state.deck.bank.find? := by
  obtain ⟨-, -, -, ⟨library, opened, named, taken⟩, rebuilt⟩ := build_eq_ok made saving
  have before : (Library.lastOf · library.slots) = built.state.deck.bank.find? :=
    funext fun id => (Library.find?_of_ofSlots taken id).symm
  have distinct : (library.slots.map Slot.id).Nodup :=
    ((Bank.perm_of_ofSlots taken).map Slot.id).nodup_iff.1 built.state.deck.bank.nodup_ids
  obtain ⟨found, reopens, apart, reopened⟩ := exists_reopened opened named distinct saves inverse
  rw [before] at reopened
  -- what is found was in the bank before, so its place is on the grid
  have onGrid : ∀ slot ∈ found.slots, 0 ≤ slot.id ∧ slot.id < slotCount := by
    intro slot member
    have there := Library.isSome_lastOf.2 (List.mem_map_of_mem member)
    have present := ((reopened.isSome_iff fun slot saved => Bank.isSome_find?.2 (known slot saved)).1
      there).1
    exact built.state.deck.bank.onGrid _ (Bank.isSome_find?.1 present)
  obtain ⟨bank, filled⟩ := Bank.exists_ofSlots apart onGrid found.name found.version
  obtain ⟨again, remade, rfl⟩ := rebuilt _ _ _ reopens filled
  have now : (Library.lastOf · found.slots) = again.state.deck.bank.find? :=
    funext fun id => (Library.find?_of_ofSlots filled id).symm
  exact ⟨again, remade, now ▸ reopened⟩

end Restart

section Alone

private def atPath : Json := .obj [("library", .obj [("path", .str "library.json")])]

private def place : Library.Store :=
  { path := "library.json", name := Library.Builtin.name, version := Library.Builtin.version }

private def built : Built := (build atPath {}).toOption.get (by decide +kernel)

private def stepFrom (before : State) (operation : Operation) : Step Renderer.Handle Ear World :=
  let came := perform (operation.act (around built.saves)) before
  ⟨before, operation, came.1, came.2⟩

private def viewed : Step Renderer.Handle Ear World := stepFrom built.state (.parameters 1)

private def panned : Step Renderer.Handle Ear World :=
  stepFrom viewed.after (.setParameterValue 1 "pan" 0.25)

private def refused : Step Renderer.Handle Ear World :=
  stepFrom panned.after (.addCatalogParameter 1 "speed" (some 8))

private def edited : List (Step Renderer.Handle Ear World) := [viewed, panned, refused]

private def saved : Slot := (saves (written edited)).headD default

private def pan? (stage : State) : Option Float :=
  ((stage.deck.bank.find? 1).bind (·.parameters.get? "pan")).map (·.value)

private theorem made_built : build atPath {} = .ok built := by
  have made : (build atPath {}).toOption = some built := (Option.some_get _).symm
  cases found : build atPath {} with
  | error fault =>
    rw [found] at made
    cases made
  | ok other =>
    rw [found] at made
    exact congrArg Except.ok (Option.some.inj made)

private theorem files_built : Files (around built.saves) := by
  have saving : built.state.world.saving = .library place := rfl
  obtain ⟨keeps, -⟩ := build_eq_ok made_built saving
  rw [keeps]
  exact files_around

private theorem runs_edited :
    built.state.Runs (around built.saves) Undisturbed edited refused.after := by
  have still (stage : State) : stage.Pauses Undisturbed stage := ⟨rfl, rfl, rfl⟩
  exact ((Stage.Runs.begun.next (still _) rfl).next (still _) rfl).next (still _) rfl

/-- All of it in one evaluation, since building takes the longest. -/
private theorem seen_edited :
    (1 ∈ built.state.deck.bank.ids ∧ 5 ∈ built.state.deck.bank.ids) ∧
      (∀ step ∈ edited, step.before.world.timestamp = "") ∧
      (∀ entry ∈ written edited, entry.isLoss = false) ∧
      (saves (written edited)).map (·.id) = [1] ∧
      (pan? panned.before = some 0 ∧ pan? panned.after = some 0.25 ∧ pan? refused.after = some 0.25) ∧
      refused.after.deck.bank.view Slot.code 1 ≠ refused.before.deck.bank.view Slot.code 1 ∧
      ∀ entry ∈ refused.entries, (entry.kept? 1).isNone := by
  decide +kernel

private theorem saves_edited : saves (written edited) = [saved] ∧ saved.id = 1 := by
  obtain ⟨-, -, -, ids, -⟩ := seen_edited
  obtain ⟨slot, only, own⟩ := List.map_eq_singleton_iff.1 ids
  have same : saved = slot := by rw [saved, only, List.headD_cons]
  rw [same]
  exact ⟨only, own⟩

private theorem readsBack_edited :
    ReadsBack place (fun timestamp => ∃ step ∈ edited, step.before.world.timestamp = timestamp) {}
      (saves (written edited)) := by
  obtain ⟨-, times, -⟩ := seen_edited
  rintro library current draft listed _ ⟨step, taken, rfl⟩
  have begun : library = { name := place.name, version := place.version, slots := [] } := by
    cases current
    rfl
  rw [saves_edited.1, begun] at listed
  obtain rfl := List.mem_singleton.1 listed
  rw [times step taken]
  apply (Json.read_ofList _).trans
  decide +kernel

private theorem slot_of_pan? {stage : State} {value : Float} (shown : pan? stage = some value) :
    ∃ slot p, stage.deck.bank.find? 1 = some slot ∧ slot.parameters.get? "pan" = some p ∧
      p.value = value := by
  simpa [pan?, Option.map_eq_some_iff, Option.bind_eq_some_iff] using shown

private theorem sets_panned : panned.Sets 1 "pan" := by
  obtain ⟨-, -, -, -, ⟨centred, turned, -⟩, -⟩ := seen_edited
  obtain ⟨old, p, before, had, zero⟩ := slot_of_pan? centred
  obtain ⟨new, q, after, known, raised⟩ := slot_of_pan? turned
  refine ⟨new, q, after, known, .inr ⟨old, p, before, had, ?_⟩⟩
  rintro ⟨same, -⟩
  rw [raised, zero] at same
  revert same
  decide

private theorem lost_edited : Lost 1 edited := by
  obtain ⟨-, -, -, -, -, recoded, unsaved⟩ := seen_edited
  have loses : refused.Loses 1 :=
    ⟨recoded, fun entry there => Option.isNone_iff_eq_none.1 (unsaved entry there)⟩
  exact ⟨[viewed, panned], refused, [], rfl, loses, by simp⟩

end Alone

end PatternDeck.Startup
