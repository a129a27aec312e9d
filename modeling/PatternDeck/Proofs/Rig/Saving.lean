import PatternDeck.Proofs.Library.Filing
import PatternDeck.Proofs.Rig.World
import PatternDeck.Proofs.Stage.Steady
import PatternDeck.Proofs.Stage.Trail
import PatternDeck.Rig.Operations

/-!
What a rig does to its library's file. Nothing but a save touches a file, so after an operation of
which every save succeeded the folder is as those saves left it, one after another.
-/
namespace PatternDeck

namespace Entry

variable {Handle : Type}

/-- The slot that is saved. -/
def saved? : Entry Handle → Option Slot
  | saved slot _ => some slot
  | _ => none

/-- A save that failed. -/
def isLoss : Entry Handle → Bool
  | saved _ (.error _) => true
  | _ => false

end Entry

section Saves

variable {Handle : Type}

/-- The slots that were saved, in order. -/
def saves (entries : List (Entry Handle)) : List Slot := entries.filterMap Entry.saved?

theorem saves_append (entries more : List (Entry Handle)) :
    saves (entries ++ more) = saves entries ++ saves more := List.filterMap_append

theorem saves_of_unsaved {entries : List (Entry Handle)}
    (unsaved : ∀ entry ∈ entries, entry.saved? = none) : saves entries = [] :=
  List.filterMap_eq_nil_iff.2 unsaved

theorem lastOf_saves (id : Int) (entries : List (Entry Handle)) :
    Library.lastOf id (saves entries) = lastRead (Entry.kept? id) entries := by
  have kept : (fun entry : Entry Handle => entry.saved?.filter (·.id == id)) = Entry.kept? id := by
    funext entry
    cases entry with
    | saved slot outcome => simp [Entry.saved?, Entry.kept?, Option.filter]
    | _ => rfl
  rw [Library.lastOf, saves, List.filter_filterMap, kept, lastRead]

theorem mem_of_saves {ids : List Int} {entries : List (Entry Handle)} (within : Within ids entries) :
    ∀ slot ∈ saves entries, slot.id ∈ ids := by
  intro slot there
  obtain ⟨entry, member, saved⟩ := List.mem_filterMap.1 there
  cases entry with
  | saved other outcome =>
    cases saved
    exact within _ member slot.id rfl
  | _ => cases saved

end Saves

namespace Rig

open Renderer

namespace World

variable (world : World)

/-- What files are saved by. -/
def filing : Saving × String × Folder := (world.saving, world.timestamp, world.folder)

theorem Called.filing {world after : World} (called : Called world after) :
    after.filing = world.filing := by
  obtain ⟨player, outputs, rfl, -⟩ := called
  rfl

theorem filing_hear (ear : Ear) (event : Event) (deck : Deck Handle Ear) :
    (hear ear event deck world).2.filing = world.filing := by
  rcases hear_cases ear event deck world with ⟨light, -, lit⟩ | ⟨-, called⟩
  · rw [lit]
    rfl
  · exact called.filing

section Save

variable {world} {store : Library.Store} {slot : Slot} {folder : Folder}

theorem save_of_ok (saving : world.saving = .library store)
    (written : store.saveSlot slot.stored world.timestamp world.folder = (.ok (), folder)) :
    world.save slot = (.ok (), { world with folder }) := by
  simp only [save, saving, written]

theorem save_of_error {fault : Library.Fault} (saving : world.saving = .library store)
    (failed : store.saveSlot slot.stored world.timestamp world.folder = (.error fault, folder)) :
    world.save slot = (.error notSaved, { world with folder }) := by
  simp only [save, saving, failed]

end Save

end World

/-- Surroundings that save slots as the rig does, and that leave all files to their saves. -/
structure Files (around : Surroundings Handle Ear World) : Prop where
  save : around.save = some World.save
  hear : ∀ ear event deck (world : World), (around.hear ear event deck world).2.filing = world.filing
  compile : ∀ program (world : World), (around.compile program world).2.filing = world.filing
  start : ∀ handle (world : World), (around.start handle world).2.filing = world.filing
  stop : ∀ handle (world : World), (around.stop handle world).2.filing = world.filing
  hush : ∀ world : World, (around.hush world).2.filing = world.filing

theorem files_around : Files (around true) where
  save := rfl
  hear ear event deck world := World.filing_hear world ear event deck
  compile program world := (World.Called.compile world program).filing
  start handle world := (World.Called.start world handle).filing
  stop handle world := (World.Called.stop world handle).filing
  hush world := (World.Called.hush world).filing

/-- From a base on, the folder is as the saves left it, if none of them failed. -/
structure Filed (store : Library.Store) (base stage : State) : Prop where
  saving : stage.world.saving = .library store
  timestamp : stage.world.timestamp = base.world.timestamp
  files : ∃ entries, stage.journal = base.journal ++ entries ∧
    ((∀ entry ∈ entries, entry.isLoss = false) →
      store.Saves (· = base.world.timestamp) base.world.folder ((saves entries).map Slot.stored)
        stage.world.folder)

section Filed

variable {store : Library.Store} {base stage after : State}
variable {around : Surroundings Handle Ear World}

theorem filed_refl (saving : base.world.saving = .library store) : Filed store base base where
  saving := saving
  timestamp := rfl
  files := ⟨[], by simp, fun _ => .none⟩

/-- Whatever saves nothing leaves the folder as it is. -/
theorem Filed.unsaved (filed : Filed store base stage) {more : List (Entry Handle)}
    (grown : after.journal = stage.journal ++ more) (same : after.world.filing = stage.world.filing)
    (unsaved : ∀ entry ∈ more, entry.saved? = none) : Filed store base after := by
  simp only [World.filing, Prod.mk.injEq] at same
  obtain ⟨saving, timestamp, folder⟩ := same
  obtain ⟨entries, journal, files⟩ := filed.files
  refine ⟨saving.trans filed.saving, timestamp.trans filed.timestamp, entries ++ more, ?_, ?_⟩
  · rw [grown, journal, List.append_assoc]
  · intro kept
    rw [saves_append, saves_of_unsaved unsaved, List.append_nil, folder]
    exact files (List.forall_mem_append.1 kept).1

theorem filed_ask {α : Type} {call : World → Except Fault α × World}
    {entry : Except Fault α → Entry Handle} (same : ∀ world, (call world).2.filing = world.filing)
    (unsaved : ∀ outcome, (entry outcome).saved? = none) :
    Preserves (Filed store base) (Act.ask call entry : Act Handle Ear World _) :=
  fun stage filed => filed.unsaved rfl (same stage.world) (by simp [unsaved])

theorem filed_announce (files : Files around) (event : Event) :
    Preserves (Filed store base) (Act.announce around event) := by
  intro stage filed
  refine filed.unsaved rfl ?_ (List.forall_mem_singleton.2 rfl)
  change (List.foldl _ stage.world (stage.deck.listeners.of event.topic)).filing = _
  -- one listener hears after the other
  generalize stage.deck.listeners.of event.topic = ears, stage.world = world
  induction ears generalizing world with
  | nil => rfl
  | cons ear rest ih => exact (ih _).trans (files.hear ear event stage.deck world)

theorem filed_save (slot : Slot) :
    Preserves (Filed store base)
      (Act.ask (World.save slot) (.saved slot) : Act Handle Ear World _) := by
  intro stage filed
  obtain ⟨entries, journal, files⟩ := filed.files
  rw [Stage.perform_ask]
  rcases outcome : store.saveSlot slot.stored stage.world.timestamp stage.world.folder with
    ⟨fault | ⟨⟩, folder⟩
  -- a save that fails is a loss, and after a loss nothing is said of the files
  · rw [World.save_of_error filed.saving outcome]
    refine ⟨filed.saving, filed.timestamp, entries ++ [.saved slot (.error World.notSaved)], ?_, ?_⟩
    · rw [journal, List.append_assoc]
    · intro kept
      have lost := (List.forall_mem_append.1 kept).2 _ (List.mem_singleton_self _)
      cases lost
  · rw [World.save_of_ok filed.saving outcome]
    refine ⟨filed.saving, filed.timestamp, entries ++ [.saved slot (.ok ())], ?_, ?_⟩
    · rw [journal, List.append_assoc]
    · intro kept
      rw [saves_append, List.map_append]
      exact (files (List.forall_mem_append.1 kept).1).next filed.timestamp outcome

theorem steady_filed (files : Files around) : Stage.Steady around (Filed store base) := by
  -- one case for each way in which an operation reaches outside of the deck
  apply Stage.Steady.of_calls
  · exact fun stage deck _ filed => ⟨filed.saving, filed.timestamp, filed.files⟩
  · exact fun id stage filed => filed.unsaved rfl rfl (List.forall_mem_singleton.2 rfl)
  · exact filed_announce files
  · rw [files.save]
    rintro _ ⟨⟩ slot
    exact filed_save slot
  · exact fun program => filed_ask (files.compile program) fun _ => rfl
  · exact fun handle => filed_ask (files.start handle) fun _ => rfl
  · exact fun handle => filed_ask (files.stop handle) fun _ => rfl
  · exact filed_ask files.hush fun _ => rfl

end Filed

/-- Whatever comes and goes between operations, the place where slots are saved stays, and its files. -/
def Undisturbed (before after : World) : Prop :=
  after.saving = before.saving ∧ after.folder = before.folder

/-- A run of which every save succeeds leaves the folder as its saves leave it. -/
theorem saves_of_runs {around : Surroundings Handle Ear World} (files : Files around)
    {store : Library.Store} {origin last : State} {steps : List (Step Handle Ear World)}
    (run : origin.Runs around Undisturbed steps last)
    (saving : origin.world.saving = .library store)
    (kept : ∀ entry ∈ written steps, entry.isLoss = false) :
    last.world.saving = .library store ∧
      store.Saves (fun timestamp => ∃ step ∈ steps, step.before.world.timestamp = timestamp)
        origin.world.folder ((saves (written steps)).map Slot.stored) last.world.folder := by
  induction run with
  | begun => exact ⟨saving, .none⟩
  | @next steps middle before after operation outcome _ pause performed ih =>
    rw [written_concat, List.forall_mem_append] at kept
    obtain ⟨still, earlier⟩ := ih kept.1
    obtain ⟨place, folder⟩ := pause.world
    -- the operation starts from the files that the run so far has left
    have filed := (steady_filed files).operation operation before (filed_refl (place.trans still))
    rw [performed] at filed
    obtain ⟨entries, grown, left⟩ := filed.files
    have own : (⟨before, operation, outcome, after⟩ : Step Handle Ear World).entries = entries :=
      Step.entries_eq grown
    rw [own] at kept
    have later := left kept.2
    rw [folder] at later
    refine ⟨filed.saving, ?_⟩
    rw [written_concat, own, saves_append, List.map_append]
    refine (earlier.mono ?_).append (later.mono ?_)
    · rintro timestamp ⟨step, taken, rfl⟩
      exact ⟨step, List.mem_append_left _ taken, rfl⟩
    · rintro timestamp rfl
      exact ⟨_, List.mem_append_right _ (List.mem_singleton_self _), rfl⟩

end Rig

end PatternDeck
