import PatternDeck.Proofs.Stage.Reckoning
import PatternDeck.Proofs.Stage.Tenure

/-!
What the saves of a run tell of a slot. The slot that was saved last, or the one that was there at first
if none was saved, has the code that the slot has in the end, but for fragments that refused changes
left behind it; its parameters are those of the slot in the end, but for some that were added since.
-/
namespace PatternDeck

section Runs

variable {Handle Listener World : Type} (around : Surroundings Handle Listener World)
variable (may : World → World → Prop)

/-- Between two operations listeners come and go, and the world goes on as far as it may. -/
structure Stage.Pauses (before after : Stage Handle Listener World) : Prop where
  deck : after.deck = { before.deck with listeners := after.deck.listeners }
  world : may before.world after.world

/-- The steps of operations done one after another, with pauses between. -/
inductive Stage.Runs (origin : Stage Handle Listener World) :
    List (Step Handle Listener World) → Stage Handle Listener World → Prop where
  | begun : Runs origin [] origin
  | next {steps : List (Step Handle Listener World)} {middle before after : Stage Handle Listener World}
      {operation : Operation} {outcome : Except Failure Unit} (run : Runs origin steps middle)
      (pause : middle.Pauses may before)
      (performed : perform (operation.act around) before = (outcome, after)) :
      Runs origin (steps ++ [⟨before, operation, outcome, after⟩]) after

end Runs

section Steps

variable {Handle Listener World : Type} {steps : List (Step Handle Listener World)}
variable {step : Step Handle Listener World} {id : Int}

/-- The code of a slot is not what it was, and the slot was not saved. -/
structure Step.Loses (step : Step Handle Listener World) (id : Int) : Prop where
  recoded : step.after.deck.bank.view Slot.code id ≠ step.before.deck.bank.view Slot.code id
  unsaved : ∀ entry ∈ step.entries, entry.kept? id = none

/-- Listeners were told of a parameter as it is now, or its value, its range or its knob is not what it
was. -/
def Step.Sets (step : Step Handle Listener World) (id : Int) (name : String) : Prop :=
  ∃ new q, step.after.deck.bank.find? id = some new ∧ new.parameters.get? name = some q ∧
    (.announced (.parameterChange id q) ∈ step.entries ∨
      ∃ old p, step.before.deck.bank.find? id = some old ∧ old.parameters.get? name = some p ∧
        ¬(q.value = p.value ∧ q.range = p.range ∧ q.knob = p.knob))

/-- A step lost code of a slot, and no later one saved the slot. -/
def Lost (id : Int) (steps : List (Step Handle Listener World)) : Prop :=
  ∃ earlier step later, steps = earlier ++ step :: later ∧ step.Loses id ∧
    ∀ other ∈ later, ∀ entry ∈ other.entries, entry.kept? id = none

/-- What was written down in all steps. -/
def written (steps : List (Step Handle Listener World)) : List (Entry Handle) :=
  steps.flatMap Step.entries

theorem written_concat : written (steps ++ [step]) = written steps ++ step.entries := by
  simp [written]

theorem not_lost_nil : ¬Lost id ([] : List (Step Handle Listener World)) := by
  rintro ⟨earlier, step, later, split, -⟩
  exact List.append_ne_nil_of_right_ne_nil earlier (List.cons_ne_nil step later) split.symm

theorem lost_concat_iff :
    Lost id (steps ++ [step]) ↔
      step.Loses id ∨ Lost id steps ∧ ∀ entry ∈ step.entries, entry.kept? id = none := by
  constructor
  · rintro ⟨earlier, lossy, later, split, loses, unsaved⟩
    rcases split_of_concat split with ⟨-, rfl, -⟩ | ⟨between, rfl, rfl⟩
    · exact .inl loses
    · obtain ⟨before, now⟩ := List.forall_mem_append.1 unsaved
      exact .inr ⟨⟨earlier, lossy, between, rfl, loses, before⟩, List.forall_mem_singleton.1 now⟩
  · rintro (loses | ⟨⟨earlier, lossy, later, rfl, loses, unsaved⟩, now⟩)
    · exact ⟨steps, step, [], rfl, loses, by simp⟩
    · refine ⟨earlier, lossy, later ++ [step], by simp, loses, ?_⟩
      exact List.forall_mem_append.2 ⟨unsaved, List.forall_mem_singleton.2 now⟩

theorem lastRead_eq_none_iff {α : Type} {read : Entry Handle → Option α}
    {entries : List (Entry Handle)} :
    lastRead read entries = none ↔ ∀ entry ∈ entries, read entry = none := by
  rw [lastRead, List.getLast?_eq_none_iff, List.filterMap_eq_nil_iff]

/-- The slot as it was saved last, or else as it was at first. -/
def lastKept (first : Slot) (steps : List (Step Handle Listener World)) : Slot :=
  (lastRead (Entry.kept? first.id) (written steps)).getD first

/-- What a step leaves of a slot: it was saved as it is, with all that was set; or it was not saved,
nothing was set, and its code has maybe grown. -/
inductive Step.Files (step : Step Handle Listener World) (old new : Slot) : Prop where
  | saved {seen : Slot} (last : lastRead (Entry.kept? old.id) step.entries = some seen)
      (gains : seen.Gains new) (names : old.parameters.names ⊆ seen.parameters.names)
      (sets : ∀ name, step.Sets old.id name → name ∈ seen.parameters.names)
  | unsaved {fragment : String} (unread : ∀ entry ∈ step.entries, entry.kept? old.id = none)
      (code : new.code = old.code ++ fragment)
      (parameters : old.parameters.toList <+: new.parameters.toList)
      (unset : ∀ name, ¬step.Sets old.id name)

end Steps

section Files

variable {Handle Listener World : Type} {around : Surroundings Handle Listener World}
variable {step : Step Handle Listener World} {old new : Slot}

theorem Step.Sets.mem_names {name : String} (sets : step.Sets old.id name)
    (before : step.before.deck.bank.find? old.id = some old) :
    name ∈ old.parameters.names ++ toldNames old.id step.entries := by
  obtain ⟨_, q, after', seen, told | ⟨_, p, before', known, -⟩⟩ := sets
  · refine List.mem_append_right _ (List.mem_filterMap.2 ⟨_, told, ?_⟩)
    rw [Entry.toldName?, if_pos rfl, (Parameters.get?_eq_some_iff.1 seen).2]
  · rw [before] at before'
    cases before'
    refine List.mem_append_left _ ?_
    rw [← (Parameters.get?_eq_some_iff.1 known).2]
    exact Parameters.mem_names_of_get? known

theorem Step.not_sets {name : String} (before : step.before.deck.bank.find? old.id = some old)
    (after : step.after.deck.bank.find? old.id = some new)
    (parameters : old.parameters.toList <+: new.parameters.toList)
    (mute : ∀ entry ∈ step.entries, entry.Mute old.id) : ¬step.Sets old.id name := by
  rintro ⟨_, q, after', seen, told | ⟨_, p, before', known, differs⟩⟩
  · have untuned := (mute _ told).untuned
    rw [Entry.toldName?, if_pos rfl] at untuned
    cases untuned
  · rw [before] at before'
    rw [after] at after'
    cases before'
    cases after'
    have same := Parameters.get?_of_grown parameters known
    rw [seen, Option.some.injEq] at same
    exact differs (same ▸ ⟨rfl, rfl, rfl⟩)

theorem files_of_fares (somewhere : around.save.isSome)
    (before : step.before.deck.bank.find? old.id = some old)
    (after : step.after.deck.bank.find? old.id = some new)
    (fares : old.Fares around step.before.deck step.operation step.outcome step.entries new) :
    step.Files old new := by
  have same : new.id = old.id := Bank.id_of_find? after
  have filed : old.Filed around step.entries new → step.Files old new := by
    intro filed
    obtain ⟨seen, last, gains, known⟩ := filed somewhere
    rw [same] at last known
    refine .saved last gains (fun name there => known (List.mem_append_left _ there)) ?_
    exact fun name sets => known (sets.mem_names before)
  have unsaved (fragment : String) (mute : ∀ entry ∈ step.entries, entry.Mute old.id)
      (code : new.code = old.code ++ fragment)
      (parameters : old.parameters.toList <+: new.parameters.toList) : step.Files old new :=
    .unsaved (fun entry there => (mute entry there).unsaved) code parameters
      fun _ => Step.not_sets before after parameters mute
  have other (silent : ∀ entry ∈ step.entries, entry.subject? ≠ some old.id) :
      ∀ entry ∈ step.entries, entry.Mute old.id :=
    fun entry there => Entry.mute_of_other (silent entry there)
  have same_code (code : new.code = old.code) : new.code = old.code ++ "" := by
    rw [code, String.append_empty]
  cases fares with
  | passed gains silent => exact unsaved "" (other silent) (same_code gains.code) gains.parameters
  | viewed _ inFile | edited _ _ inFile => exact filed inFile
  | switched gains _ _ mute => exact unsaved "" mute (same_code gains.code) gains.parameters
  | unflagged _ _ _ _ _ gains silent =>
    exact unsaved "" (other silent) (same_code gains.code) gains.parameters
  | halfDone _ _ _ _ code _ parameters mute => exact unsaved _ mute code parameters

/-- Code is lost where a fragment was put behind it for a change that was refused. -/
theorem refused_of_loses (somewhere : around.save.isSome)
    (before : step.before.deck.bank.find? old.id = some old)
    (after : step.after.deck.bank.find? old.id = some new)
    (fares : old.Fares around step.before.deck step.operation step.outcome step.entries new)
    (loses : step.Loses old.id) :
    ∃ entry failure, step.operation.tunes? = some old.id ∧
      step.operation.appends? step.before.deck = some entry ∧ step.outcome = .error failure ∧
      failure.isOwn = false ∧ new.code = old.code ++ entry.fragment := by
  have recoded : new.code ≠ old.code := by
    have differs := loses.recoded
    rw [Bank.view_of_find? Slot.code before, Bank.view_of_find? Slot.code after] at differs
    exact fun same => differs (congrArg some same)
  have same : new.id = old.id := Bank.id_of_find? after
  have unfiled : ¬old.Filed around step.entries new := by
    intro filed
    obtain ⟨seen, last, -⟩ := filed somewhere
    rw [same, lastRead_eq_none_iff.2 loses.unsaved] at last
    cases last
  cases fares with
  | passed gains | switched gains | unflagged _ _ _ _ _ gains => exact absurd gains.code recoded
  | viewed _ filed | edited _ _ filed => exact absurd filed unfiled
  | halfDone asked appended refused foreign code => exact ⟨_, _, asked, appended, refused, foreign, code⟩

end Files

section Trail

variable {Handle Listener World : Type} {steps : List (Step Handle Listener World)}
variable {step : Step Handle Listener World} {first old new : Slot}

/-- What the saves of a run tell of a slot, against the slot as it is in the end. -/
structure Trail (steps : List (Step Handle Listener World)) (first now : Slot) : Prop where
  same : now.id = first.id
  code : ∃ fragment, now.code = (lastKept first steps).code ++ fragment ∧
    (fragment = "" ↔ ¬Lost first.id steps)
  parameters : (lastKept first steps).parameters.toList <+: now.parameters.toList
  sets : ∀ step ∈ steps, ∀ name, step.Sets first.id name →
    ∃ seen, lastRead (Entry.kept? first.id) (written steps) = some seen ∧ name ∈ seen.parameters.names

theorem trail_nil (first : Slot) : Trail ([] : List (Step Handle Listener World)) first first where
  same := rfl
  code := ⟨"", (String.append_empty).symm, iff_of_true rfl not_lost_nil⟩
  parameters := List.prefix_refl _
  sets _ there := absurd there List.not_mem_nil

theorem Trail.concat (trail : Trail steps first old)
    (before : step.before.deck.bank.find? first.id = some old)
    (after : step.after.deck.bank.find? first.id = some new) (files : step.Files old new) :
    Trail (steps ++ [step]) first new := by
  obtain ⟨same, ⟨fragment, code, whole⟩, parameters, sets⟩ := trail
  have own : new.id = first.id := Bank.id_of_find? after
  cases files with
  | @saved seen last gains names now =>
    -- what was lost before is saved now, with every parameter that was ever set
    rw [same] at last now
    have read : lastRead (Entry.kept? first.id) (written (steps ++ [step])) = some seen := by
      rw [written_concat, lastRead_append, last, Option.some_or]
    have kept : lastKept first (steps ++ [step]) = seen := by rw [lastKept, read, Option.getD_some]
    have saves : ¬∀ entry ∈ step.entries, entry.kept? first.id = none := by
      rw [← lastRead_eq_none_iff, last]
      simp
    refine ⟨own, ⟨"", ?_, ?_⟩, ?_, fun other there name set => ⟨seen, read, ?_⟩⟩
    · rw [kept, String.append_empty, gains.code]
    · rw [lost_concat_iff]
      refine iff_of_true rfl ?_
      rintro (loses | ⟨-, unsaved⟩)
      · exact saves loses.unsaved
      · exact saves unsaved
    · rw [kept]
      exact gains.parameters
    · rcases List.mem_append.1 there with earlier | this
      · obtain ⟨old', read', known⟩ := sets other earlier name set
        have kept' : lastKept first steps = old' := by rw [lastKept, read', Option.getD_some]
        rw [kept'] at parameters
        exact names ((Parameters.names_prefix parameters).subset known)
      · rw [List.mem_singleton.1 this] at set
        exact now name set
  | @unsaved more unread recoded grown unset =>
    -- the slot that was saved last stays so, and what was put after the code comes to what was lost
    rw [same] at unread unset
    have read : lastRead (Entry.kept? first.id) (written (steps ++ [step])) =
        lastRead (Entry.kept? first.id) (written steps) := by
      rw [written_concat, lastRead_append, lastRead_of_unread unread, Option.none_or]
    have kept : lastKept first (steps ++ [step]) = lastKept first steps := by
      rw [lastKept, read, lastKept]
    have loses : step.Loses first.id ↔ more ≠ "" := by
      constructor
      · rintro ⟨differs, -⟩ rfl
        rw [Bank.view_of_find? Slot.code before, Bank.view_of_find? Slot.code after, recoded,
          String.append_empty] at differs
        exact differs rfl
      · refine fun some => ⟨?_, unread⟩
        rw [Bank.view_of_find? Slot.code before, Bank.view_of_find? Slot.code after, recoded]
        simpa [String.append_eq_left_iff] using some
    refine ⟨own, ⟨fragment ++ more, ?_, ?_⟩, ?_, fun other there name set => ?_⟩
    · rw [kept, recoded, code, String.append_assoc]
    · rw [lost_concat_iff, loses, String.append_eq_empty_iff, whole]
      tauto
    · rw [kept]
      exact parameters.trans grown
    · rw [read]
      rcases List.mem_append.1 there with earlier | this
      · exact sets other earlier name set
      · rw [List.mem_singleton.1 this] at set
        exact absurd set (unset name)

end Trail

namespace Stage

variable {Handle Listener World : Type} {around : Surroundings Handle Listener World}
variable {may : World → World → Prop} {origin last : Stage Handle Listener World}
variable {steps : List (Step Handle Listener World)} {id : Int} {first : Slot}

theorem Pauses.find? {before after : Stage Handle Listener World} (pause : before.Pauses may after)
    (id : Int) : after.deck.bank.find? id = before.deck.bank.find? id := by
  rw [pause.deck]

theorem Pauses.standing {before after : Stage Handle Listener World} (pause : before.Pauses may after) :
    after.deck.standing = before.deck.standing := by
  rw [pause.deck]
  rfl

/-- What pauses and steps keep holds throughout a run, and at its end. -/
theorem Runs.invariant (run : origin.Runs around may steps last)
    (Good : Stage Handle Listener World → Prop) (initial : Good origin)
    (paused : ∀ before after, before.Pauses may after → Good before → Good after)
    (kept : ∀ step ∈ steps,
      perform (step.operation.act around) step.before = (step.outcome, step.after) →
      Good step.before → Good step.after) :
    Good last ∧ ∀ step ∈ steps, Good step.before ∧
      perform (step.operation.act around) step.before = (step.outcome, step.after) := by
  induction run with
  | begun => exact ⟨initial, by simp⟩
  | @next steps middle before after operation outcome run pause performed ih =>
    obtain ⟨earlier, this⟩ := List.forall_mem_append.1 kept
    obtain ⟨held, each⟩ := ih earlier
    have ready : Good before := paused _ _ pause held
    refine ⟨List.forall_mem_singleton.1 this performed ready, List.forall_mem_append.2 ⟨each, ?_⟩⟩
    exact List.forall_mem_singleton.2 ⟨ready, performed⟩

/-- How slots play, and which there are, stays as it should be. -/
theorem Runs.steady (run : origin.Runs around may steps last) (placed : origin.deck.Placed)
    (marked : origin.deck.Marked) :
    (last.deck.Placed ∧ last.deck.Marked) ∧ ∀ step ∈ steps,
      (step.before.deck.Placed ∧ step.before.deck.Marked) ∧
        perform (step.operation.act around) step.before = (step.outcome, step.after) := by
  refine run.invariant (fun stage => stage.deck.Placed ∧ stage.deck.Marked) ⟨placed, marked⟩ ?_ ?_
  · rintro before after pause ⟨placed, marked⟩
    exact ⟨placed.congr pause.standing.symm, marked.congr pause.standing.symm⟩
  · rintro step - performed ⟨placed, marked⟩
    have after : step.after = (perform (step.operation.act around) step.before).2 := by rw [performed]
    rw [after]
    exact ⟨placed_of_operation around step.before step.operation placed,
      marked_of_operation around step.before placed marked⟩

section Stays

variable (run : origin.Runs around may steps last) (placed : origin.deck.Placed)
variable (marked : origin.deck.Marked)
variable (stays : ∀ step ∈ steps, ∀ slots name version,
  step.operation ≠ .loadLibrary slots name version)
include run placed marked stays

/-- A run without a load of a library has the same slots throughout. -/
theorem Runs.ids : (∀ id, id ∈ last.deck.bank.ids ↔ id ∈ origin.deck.bank.ids) ∧
    ∀ step ∈ steps, ∀ id, id ∈ step.before.deck.bank.ids ↔ id ∈ origin.deck.bank.ids := by
  obtain ⟨-, steady⟩ := run.steady placed marked
  have same : ∀ step ∈ steps, ∀ id,
      id ∈ step.after.deck.bank.ids ↔ id ∈ step.before.deck.bank.ids := by
    intro step taken id
    obtain ⟨⟨placed, -⟩, performed⟩ := steady step taken
    have evolved := evolved_of_operation around step.before step.operation placed (stays step taken)
    rw [performed] at evolved
    have here := evolved.slots id
    rw [← Bank.isSome_find?, ← Bank.isSome_find?]
    revert here
    generalize step.before.deck.bank.find? id = old, step.after.deck.bank.find? id = new
    rintro (_ | _) <;> simp
  obtain ⟨ids, each⟩ := run.invariant
    (fun stage => ∀ id, id ∈ stage.deck.bank.ids ↔ id ∈ origin.deck.bank.ids) (fun _ => Iff.rfl)
    (fun before after pause held id => by rw [pause.deck, held])
    (fun step taken _ held id => (same step taken id).trans (held id))
  exact ⟨ids, fun step taken => (each step taken).1⟩

theorem Runs.within : Within origin.deck.bank.ids (written steps) := by
  obtain ⟨-, steady⟩ := run.steady placed marked
  obtain ⟨-, ids⟩ := run.ids placed marked stays
  intro entry there id about
  obtain ⟨step, taken, member⟩ := List.mem_flatMap.1 there
  obtain ⟨⟨placed, marked⟩, performed⟩ := steady step taken
  obtain ⟨-, within, -⟩ := accounts_of_step placed marked performed (stays step taken)
  exact (ids step taken id).1 (within entry member id about)

/-- Code that a run loses is what a change left behind it that was refused. -/
theorem Runs.refused_of_loses (somewhere : around.save.isSome) (loaded : id ∈ origin.deck.bank.ids)
    {step : Step Handle Listener World} (taken : step ∈ steps) (loses : step.Loses id) :
    ∃ entry failure, step.operation.tunes? = some id ∧
      step.operation.appends? step.before.deck = some entry ∧ step.outcome = .error failure ∧
      failure.isOwn = false := by
  obtain ⟨-, steady⟩ := run.steady placed marked
  obtain ⟨⟨placed', marked'⟩, performed⟩ := steady step taken
  have present := ((run.ids placed marked stays).2 step taken id).2 loaded
  obtain ⟨old, found⟩ := Option.isSome_iff_exists.1 (Bank.isSome_find?.2 present)
  obtain rfl := Bank.id_of_find? found
  obtain ⟨-, -, accounts⟩ := accounts_of_step placed' marked' performed (stays step taken)
  obtain ⟨new, found', fares⟩ := accounts old.id old found
  obtain ⟨entry, failure, asked, appended, refused, foreign, -⟩ :=
    PatternDeck.refused_of_loses somewhere found found' fares loses
  exact ⟨entry, failure, asked, appended, refused, foreign⟩

end Stays

theorem Runs.trail (run : origin.Runs around may steps last) (somewhere : around.save.isSome)
    (placed : origin.deck.Placed) (marked : origin.deck.Marked)
    (stays : ∀ step ∈ steps, ∀ slots name version, step.operation ≠ .loadLibrary slots name version)
    (found : origin.deck.bank.find? id = some first) :
    ∃ now, last.deck.bank.find? id = some now ∧ Trail steps first now := by
  obtain rfl := Bank.id_of_find? found
  induction run with
  | begun => exact ⟨first, found, trail_nil first⟩
  | @next steps middle before after operation outcome run pause performed ih =>
    obtain ⟨earlier, this⟩ := List.forall_mem_append.1 stays
    obtain ⟨old, foundOld, trail⟩ := ih earlier
    rw [← pause.find?] at foundOld
    let step : Step Handle Listener World := ⟨before, operation, outcome, after⟩
    obtain ⟨-, each⟩ := (run.next pause performed).steady placed marked
    obtain ⟨⟨placed, marked⟩, -⟩ := each step (List.mem_append_right _ (List.mem_singleton_self _))
    obtain ⟨-, -, accounts⟩ : step.after.journal = _ ∧ _ ∧ _ :=
      accounts_of_step placed marked performed (List.forall_mem_singleton.1 this)
    have same := trail.same
    rw [← same] at foundOld
    obtain ⟨new, foundNew, fares⟩ := accounts _ old foundOld
    have files := files_of_fares somewhere foundOld foundNew fares
    rw [same] at foundOld foundNew
    exact ⟨new, foundNew, trail.concat foundOld foundNew files⟩

end Stage

end PatternDeck
