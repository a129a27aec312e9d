import PatternDeck.Proofs.Stage.Atomicity
import PatternDeck.Proofs.Stage.Reading
import PatternDeck.Proofs.Stage.Refusal

/-!
How a slot fares in an operation. Where an operation changes the code, the flag or a parameter of a slot,
it notes the time, and afterwards tells the listeners of the slot as it ends; where the code or a
parameter changed it is also saved so. There is one way past this: a slot that came into the bank
flagged, without playing, loses its flag when it is to start and does not.
-/
namespace PatternDeck

/-- How a slot fares in an operation that is asked of a deck. -/
inductive Slot.Fares {Handle Listener World : Type} (around : Surroundings Handle Listener World)
    (origin : Deck Handle Listener) (operation : Operation) (outcome : Except Failure Unit)
    (entries : List (Entry Handle)) : Slot → Slot → Prop where
  | passed {old new : Slot} (gains : old.Gains new)
      (silent : ∀ entry ∈ entries, entry.subject? ≠ some old.id) :
      Fares around origin operation outcome entries old new
  /-- The slot was told of and saved, though nothing of it differs. -/
  | viewed {old new : Slot} (gains : old.Gains new)
      (filed : old.Filed around entries new) :
      Fares around origin operation outcome entries old new
  | switched {old new : Slot} {playing : Bool} {modified : Moment}
      (gains : Slot.Gains { old with playing, modified } new)
      (done : operation.starts? = some old.id → outcome = .ok ())
      (disclosed : old.Disclosed around entries new)
      (mute : ∀ entry ∈ entries, entry.Mute old.id) :
      Fares around origin operation outcome entries old new
  | edited {old new : Slot} (done : operation.starts? = some old.id → outcome = .ok ())
      (disclosed : old.Disclosed around entries new) (filed : old.Filed around entries new) :
      Fares around origin operation outcome entries old new
  /-- The flag of a slot that did not play is gone, because the slot could not be started. -/
  | unflagged {old new : Slot} {failure : Failure} (asked : operation.starts? = some old.id)
      (idle : old.id ∉ origin.active) (flagged : old.playing)
      (failed : outcome = .error failure) (kind : failure.kind = .evaluation)
      (gains : Slot.Gains { old with playing := false } new)
      (silent : ∀ entry ∈ entries, entry.subject? ≠ some old.id) :
      Fares around origin operation outcome entries old new
  /-- A fragment was put after the code before the change was refused. -/
  | halfDone {old new : Slot} {entry : Catalog.Entry} {failure : Failure}
      (asked : operation.tunes? = some old.id) (appended : operation.appends? origin = some entry)
      (refused : outcome = .error failure) (foreign : failure.isOwn = false)
      (code : new.code = old.code ++ entry.fragment) (playing : new.playing = old.playing)
      (parameters : old.parameters.toList <+: new.parameters.toList)
      (mute : ∀ entry ∈ entries, entry.Mute old.id) :
      Fares around origin operation outcome entries old new

namespace Stage

open Act

variable {Handle Listener World : Type} (around : Surroundings Handle Listener World)
variable (stage : Stage Handle Listener World)

/-- How every slot fares in what was done between two stages, of which nothing is about other slots. -/
def Accounts (origin : Deck Handle Listener) (operation : Operation) (outcome : Except Failure Unit)
    (before after : Stage Handle Listener World) : Prop :=
  ∃ entries, after.journal = before.journal ++ entries ∧ Within before.deck.bank.ids entries ∧
    ∀ id old, before.deck.bank.find? id = some old →
      ∃ new, after.deck.bank.find? id = some new ∧
        old.Fares around origin operation outcome entries new

section Accounts

variable {around} {before middle after : Stage Handle Listener World}
variable {origin : Deck Handle Listener} {operation : Operation} {outcome : Except Failure Unit}
variable {id : Int} {old : Slot}

/-- The slots that a part is not about pass. -/
theorem Confined.accounts (confined : Confined [] before after) :
    Accounts around origin operation outcome before after := by
  obtain ⟨entries, grown, within⟩ := confined.grown
  refine ⟨entries, grown, within.mono (List.nil_subset _), fun id old found => ?_⟩
  obtain ⟨new, found', gains⟩ := confined.found List.not_mem_nil found
  exact ⟨new, found', .passed gains (within.subject?_ne List.not_mem_nil)⟩

/-- A part that is about one slot, if the slot is there. -/
theorem Confined.accounts_of (confined : Confined [id] before after)
    (missing : id ∉ before.deck.bank.ids → Confined [] before after)
    (own : ∀ old, before.deck.bank.find? id = some old →
      ∃ new entries, after.deck.bank.find? id = some new ∧
        after.journal = before.journal ++ entries ∧
        old.Fares around origin operation outcome entries new) :
    Accounts around origin operation outcome before after := by
  by_cases loaded : id ∈ before.deck.bank.ids
  · obtain ⟨entries, grown, within⟩ := confined.grown
    have there : [id] ⊆ before.deck.bank.ids := List.cons_subset.2 ⟨loaded, List.nil_subset _⟩
    refine ⟨entries, grown, within.mono there, fun other old found => ?_⟩
    by_cases same : other = id
    · subst same
      obtain ⟨new, entries', found', grown', fares⟩ := own old found
      obtain rfl : entries' = entries := List.append_cancel_left (grown'.symm.trans grown)
      exact ⟨new, found', fares⟩
    · have there : other ∉ [id] := fun there => same (List.mem_singleton.1 there)
      obtain ⟨new, found', gains⟩ := confined.found there found
      obtain rfl := Bank.id_of_find? found
      exact ⟨new, found', .passed gains (within.subject?_ne there)⟩
  · exact (missing loaded).accounts

end Accounts

section Playing

variable {origin : Deck Handle Listener} {operation : Operation}
variable {outcome : Except Failure Unit} {after : Stage Handle Listener World} {id : Int}

/-- What a slot is after a rebuild for which its flag was set. -/
theorem rebuilt_flagged {deck : Deck Handle Listener} {old : Slot} {playing : Bool}
    (bank : deck.bank = stage.deck.bank.modify id fun slot => { slot with playing })
    (present : deck.Present) (found : stage.deck.bank.find? id = some old)
    (rebuilt : perform (rebuild around) { stage with deck } = (outcome, after)) :
    ∃ slot entries, after.deck.bank.find? id = some slot ∧
      after.journal = stage.journal ++ entries ∧ Slot.Gains { old with playing } slot ∧
      Within [] entries := by
  obtain rfl := Bank.id_of_find? found
  have confined : Confined [] { stage with deck } after :=
    confined_rebuilt around _ present rebuilt
  have flagged : deck.bank.find? old.id = some { old with playing } := by
    rw [bank]
    exact Bank.find?_modify_self found _
  obtain ⟨slot, found', gains⟩ := confined.found List.not_mem_nil flagged
  obtain ⟨entries, grown, within⟩ := confined.grown
  exact ⟨slot, entries, found', grown, gains, within⟩

theorem Starts.accounts (asked : operation.starts? = some id)
    (same : origin.active = stage.deck.active) (present : stage.deck.Present)
    (starts : Starts around stage id outcome after) :
    Accounts around origin operation outcome stage after := by
  refine (starts.confined around stage present).accounts_of (fun missing => ?_) fun old found => ?_
  · cases starts with
    | missing => exact confined_told around stage (by simp [Entry.subject?])
    | playing loaded | failed loaded | started loaded => exact absurd loaded missing
  obtain rfl := Bank.id_of_find? found
  cases starts with
  | missing missing => exact absurd (Bank.isSome_find?.1 (found ▸ rfl)) missing
  | playing =>
    exact ⟨old, [], found, (List.append_nil _).symm, .passed (.refl old) (by simp)⟩
  | @failed failure after loaded idle rebuilt =>
    obtain ⟨slot, entries, tried, grown, gains, within⟩ :=
      rebuilt_flagged around stage rfl (present.joined loaded) found rebuilt
    let silenced : Slot := { slot with playing := false }
    have found' : (after.deck.left old.id).bank.find? old.id = some silenced := by
      obtain same := Bank.id_of_find? tried
      rw [Deck.left, Bank.find?_modify_self tried, ← same]
    have silent : ∀ entry ∈ entries ++ [.announced (.error (some old.id) failure)],
        entry.subject? ≠ some old.id := by
      refine List.forall_mem_append.2 ⟨within.subject?_ne List.not_mem_nil, ?_⟩
      simp [Entry.subject?]
    have gains : Slot.Gains { old with playing := false } silenced := gains.flagged false
    refine ⟨silenced, _, found', by rw [journal_told, grown, List.append_assoc], ?_⟩
    -- the flag was taken off after the rebuild, also if it had been there before
    cases flag : old.playing with
    | false =>
      rw [← flag] at gains
      exact .passed gains silent
    | true =>
      have kind := kind_of_rebuilt around _ (present.joined loaded) rebuilt
      exact .unflagged asked (same ▸ idle) flag rfl kind gains silent
  | @started after loaded idle rebuilt =>
    obtain ⟨slot, entries, tried, grown, gains, within⟩ :=
      rebuilt_flagged around stage rfl (present.joined loaded) found rebuilt
    obtain ⟨tells, told, disclosed, mute⟩ := disclosed_toldPlaying around after tried
    have stamped := find?_stamped around after tried
    obtain ⟨saves, saved, filed, only⟩ := journal_saved_of_find? around
      ((after.stamped around old.id).toldPlaying around old.id)
      (by rwa [toldPlaying_eq, deck_told, deck_toldState])
    have names : old.parameters.names ⊆ slot.parameters.names := gains.names
    have same : slot.id = old.id := Bank.id_of_find? tried
    have silent : ∀ entry ∈ entries, entry.Mute slot.id := within.mute List.not_mem_nil
    let ended : Slot := { slot with modified := .at (around.clock after.world) }
    refine ⟨ended, entries ++ (tells ++ saves), ?_, ?_, .edited (fun _ => rfl) (.after ?_ _) ?_⟩
    · rwa [deck_saved, toldPlaying_eq, deck_told, deck_toldState]
    · rw [saved, told, grown, List.append_assoc, List.append_assoc]
    · -- the save that comes last tells nobody
      refine (disclosed.since names).followed fun entry there => ?_
      obtain ⟨outcome, rfl⟩ := only entry there
      rfl
    · rw [← List.append_assoc]
      refine filed.after_mute names (List.forall_mem_append.2 ⟨silent, ?_⟩)
      rwa [← same] at mute

theorem Stops.accounts (present : stage.deck.Present) (marked : stage.deck.Marked)
    (stops : Stops around stage id outcome after) :
    Accounts around origin operation outcome stage after := by
  refine (stops.confined around stage present).accounts_of (fun missing => ?_) fun old found => ?_
  · cases stops with
    | missing => exact confined_told around stage (by simp [Entry.subject?])
    | idle loaded | failed loaded | stopped loaded => exact absurd loaded missing
  obtain rfl := Bank.id_of_find? found
  cases stops with
  | missing missing => exact absurd (Bank.isSome_find?.1 (found ▸ rfl)) missing
  | idle => exact ⟨old, [], found, (List.append_nil _).symm, .passed (.refl old) (by simp)⟩
  | @failed failure after loaded active rebuilt =>
    obtain ⟨slot, entries, tried, grown, gains, within⟩ :=
      rebuilt_flagged around stage rfl (present.left old.id) found rebuilt
    let back : Slot := { slot with playing := true }
    have found' : (after.deck.putBack old.id stage.deck.active).bank.find? old.id = some back := by
      obtain same := Bank.id_of_find? tried
      rw [Deck.putBack, Bank.find?_modify_self tried, ← same]
    have gains : Slot.Gains { old with playing := true } back := gains.flagged true
    -- a slot that plays is flagged, so the flag that is put back was there
    have flag : old.playing = true := by
      have seen := marked old.id active
      rw [Bank.view_of_find? Slot.playing found] at seen
      exact Option.some.inj seen
    rw [← flag] at gains
    refine ⟨back, _, found', by rw [journal_told, grown, List.append_assoc], .passed gains ?_⟩
    refine List.forall_mem_append.2 ⟨within.subject?_ne List.not_mem_nil, ?_⟩
    simp [Entry.subject?]
  | @stopped after loaded active rebuilt =>
    obtain ⟨slot, entries, tried, grown, gains, within⟩ :=
      rebuilt_flagged around stage rfl (present.left old.id) found rebuilt
    obtain ⟨tells, told, disclosed, mute⟩ := disclosed_toldPlaying around after tried
    have stamped := find?_stamped around after tried
    have names : old.parameters.names ⊆ slot.parameters.names := gains.names
    have known := (disclosed.since names).after entries
    have gains := gains.stamped (.at (around.clock after.world))
    refine ⟨_, entries ++ tells, ?_, ?_, .switched gains (fun _ => rfl) known ?_⟩
    · rwa [toldPlaying_eq, deck_told, deck_toldState]
    · rw [told, grown, List.append_assoc]
    · exact List.forall_mem_append.2 ⟨within.mute List.not_mem_nil, mute⟩

theorem accounts_of_toggle (asked : operation.starts? = some id)
    (same : origin.active = stage.deck.active) (present : stage.deck.Present)
    (marked : stage.deck.Marked)
    (performed : perform (toggle around id) stage = (outcome, after)) :
    Accounts around origin operation outcome stage after := by
  rw [perform_toggle] at performed
  split at performed
  · have stops := ends_of_perform (perform_stop around stage id present) performed
    exact stops.accounts around stage present marked
  · have starts := ends_of_perform (perform_start around stage id present) performed
    exact starts.accounts around stage asked same present

theorem disclosed_toldStopped {ids : List Int} {slot : Slot} (distinct : ids.Nodup) (there : id ∈ ids)
    (found : stage.deck.bank.find? id = some slot) :
    ∃ new modified entries, (stage.toldStopped around ids).deck.bank.find? id = some new ∧
      (stage.toldStopped around ids).journal = stage.journal ++ entries ∧
      Slot.Gains { slot with modified } new ∧ slot.Disclosed around entries new ∧
      ∀ entry ∈ entries, entry.Mute id := by
  induction ids generalizing stage with
  | nil => cases there
  | cons first rest ih =>
    obtain ⟨fresh, distinct⟩ := List.nodup_cons.1 distinct
    let middle := (stage.stamped around first).toldPlaying around first
    rcases List.mem_cons.1 there with rfl | there
    · -- those that come later leave the slot alone
      obtain ⟨tells, told, disclosed, mute⟩ := disclosed_toldPlaying around stage found
      have stamped : middle.deck.bank.find? id =
          some { slot with modified := .at (around.clock stage.world) } := by
        simp only [middle, toldPlaying_eq, deck_told, deck_toldState]
        exact find?_stamped around stage found
      have later := confined_toldStopped around middle rest
      obtain ⟨new, found', gains⟩ := later.found fresh stamped
      obtain ⟨entries, grown, within⟩ := later.grown
      obtain rfl := Bank.id_of_find? found
      refine ⟨new, _, tells ++ entries, found', ?_, gains,
        disclosed.later gains (within.subject?_ne fresh), ?_⟩
      · rw [toldStopped, grown, told, List.append_assoc]
      · exact List.forall_mem_append.2 ⟨mute, within.mute fresh⟩
    · have differs : id ∉ [first] := fun same => fresh (List.mem_singleton.1 same ▸ there)
      have before : Confined [first] stage middle :=
        (confined_stamped around stage first).trans (confined_toldPlaying around _ first)
      have kept : middle.deck.bank.find? id = some slot := by
        simp only [middle, toldPlaying_eq, deck_told, deck_toldState, deck_stamped]
        rw [Bank.find?_modify_ne _ fun same => differs (List.mem_singleton.2 same), found]
      obtain ⟨tells, grown, within⟩ := before.grown
      obtain ⟨new, modified, entries, found', grown', gains, disclosed, mute⟩ :=
        ih middle distinct there kept
      refine ⟨new, modified, tells ++ entries, found', ?_, gains, disclosed.after tells, ?_⟩
      · rw [toldStopped, grown', grown, List.append_assoc]
      · exact List.forall_mem_append.2 ⟨within.mute differs, mute⟩

/-- Every slot that played, or was flagged so, is told of. -/
theorem accounts_of_stopAll (performed : perform (stopAll around) stage = (outcome, after)) :
    Accounts around origin operation outcome stage after := by
  obtain ⟨world, stops, hushed, halted, stopped⟩ := perform_stopAll around stage
  rw [performed, Prod.mk.injEq] at stopped
  obtain ⟨rfl, rfl⟩ := stopped
  let quiet : Stage Handle Listener World :=
    ⟨stage.deck.silent, world, stage.journal ++ stops ++ [.hushed hushed]⟩
  have told := confined_toldStopped around quiet stage.deck.audible
  obtain ⟨tells, grown, within⟩ := told.grown
  have silence : Within [] (stops ++ [.hushed hushed]) :=
    .append (.of_isStop halted.isStop) (within_singleton (by simp [Entry.subject?]))
  have rebuilt : Within [] [(.announced (.rebuild none) : Entry Handle)] :=
    within_singleton (by simp [Entry.subject?])
  refine ⟨(stops ++ [.hushed hushed]) ++ tells ++ [.announced (.rebuild none)], ?_, ?_, ?_⟩
  · rw [journal_told, grown]
    simp [quiet]
  · have there : stage.deck.audible ⊆ stage.deck.bank.ids :=
      List.map_subset _ (List.filter_subset_self _)
    exact ((silence.mono (List.nil_subset _)).append (within.mono there)).append
      (rebuilt.mono (List.nil_subset _))
  · intro id old found
    have silenced : quiet.deck.bank.find? id = some { old with playing := false } := by
      simp only [quiet, Deck.silent]
      rw [Bank.find?_map, found]
      rfl
    by_cases there : id ∈ stage.deck.audible
    · have distinct : stage.deck.audible.Nodup :=
        stage.deck.bank.nodup_ids.sublist (List.filter_sublist.map _)
      obtain ⟨new, modified, entries, found', grown', gains, disclosed, mute⟩ :=
        disclosed_toldStopped around quiet distinct there silenced
      obtain rfl : entries = tells := List.append_cancel_left (grown'.symm.trans grown)
      obtain rfl := Bank.id_of_find? found
      have names : old.parameters.names ⊆ old.parameters.names := fun _ there => there
      have known := (disclosed.since names).after (stops ++ [.hushed hushed])
      have told := known.later (.refl new) (rebuilt.subject?_ne List.not_mem_nil)
      refine ⟨new, found', .switched gains (fun _ => rfl) told ?_⟩
      refine List.forall_mem_append.2 ⟨List.forall_mem_append.2 ⟨?_, mute⟩, ?_⟩
      · exact silence.mute List.not_mem_nil
      · exact rebuilt.mute List.not_mem_nil
    · obtain ⟨new, found', gains⟩ := told.found there silenced
      obtain rfl := Bank.id_of_find? found
      -- a slot that is not told of had no flag to lose
      have flag : old.playing = false := by
        by_contra playing
        rw [Bool.not_eq_false] at playing
        apply there
        have member := (Bank.find?_eq_some_iff.1 found).1
        exact List.mem_map_of_mem (List.mem_filter.2 ⟨member, by simp [playing]⟩)
      rw [← flag] at gains
      refine ⟨new, found', .passed gains ?_⟩
      refine List.forall_mem_append.2 ⟨List.forall_mem_append.2 ⟨?_, within.subject?_ne there⟩, ?_⟩
      · exact silence.subject?_ne List.not_mem_nil
      · exact rebuilt.subject?_ne List.not_mem_nil

end Playing

section Code

variable {origin : Deck Handle Listener} {operation : Operation} {code : String}
variable {outcome : Except Failure Unit} {after : Stage Handle Listener World} {id : Int}

/-- A slot that was told of and saved at the end, after the time was noted. -/
theorem fares_of_closed (other : operation.starts? = none) {earlier : List (Entry Handle)}
    {ended : Stage Handle Listener World} {old new : Slot}
    (grown : ended.journal = stage.journal ++ earlier) (noted : .touched id ∈ earlier)
    (found : ended.deck.bank.find? id = some new)
    (stamped : ∃ world, new.modified = .at (around.clock world))
    (names : old.parameters.names ⊆ new.parameters.names)
    (told : around.save.isSome → toldNames id earlier ⊆ new.parameters.names) :
    ∃ new entries, ((ended.toldState around id).saved around id).deck.bank.find? id = some new ∧
      ((ended.toldState around id).saved around id).journal = stage.journal ++ entries ∧
      old.Fares around origin operation outcome entries new := by
  obtain ⟨tells, closing, current, filed⟩ := closed around ended found
  obtain rfl := Bank.id_of_find? found
  have disclosed : old.Disclosed around (earlier ++ tells) new :=
    ⟨List.mem_append_left _ noted, stamped, (current.after earlier).of_subset names⟩
  refine ⟨new, earlier ++ tells, ?_, ?_, .edited (by simp [other]) disclosed fun somewhere => ?_⟩
  · rwa [deck_saved, deck_toldState]
  · rw [closing, grown, List.append_assoc]
  · exact filed.after (List.append_subset.2 ⟨names, told somewhere⟩) somewhere

theorem LiveEdits.accounts (other : operation.starts? = none) (present : stage.deck.Present)
    (edits : LiveEdits around stage id code outcome after) :
    Accounts around origin operation outcome stage after := by
  refine (edits.confined around stage present).accounts_of (fun missing => ?_) fun old found => ?_
  · cases edits with
    | missing => exact confined_told around stage (by simp [Entry.subject?])
    | idle loaded => exact absurd loaded missing
    | refused found | failed found | edited found =>
      exact absurd (Bank.isSome_find?.1 (found ▸ rfl)) missing
  cases edits with
  | missing missing => exact absurd (Bank.isSome_find?.1 (found ▸ rfl)) missing
  | idle => exact ⟨old, [_], found, rfl, .passed (.refl old) (by simp [Entry.subject?])⟩
  | @refused slot fault world found' active compiled =>
    have grown := journal_told around { stage with
      world, journal := stage.journal ++ [Entry.compiled { slot with code }.text (.error fault)] }
      (.error (some id) (.invalidCode fault.message { slot with code }.text))
    rw [List.append_assoc] at grown
    exact ⟨old, _, found, grown, .passed (.refl old) (by simp [Entry.subject?])⟩
  | @failed slot handle world failure ended found' active compiled rebuilt =>
    -- the slot is put back as it was
    have undone := LiveEdits.undone around stage present (.failed found' active compiled rebuilt)
    have tried : Confined [] _ ended := confined_rebuilt around _ (present.recoded id code _) rebuilt
    obtain ⟨entries, grown, within⟩ := tried.grown
    refine ⟨old, .compiled { slot with code }.text (.ok handle) :: entries ++
      [.announced (.error (some id) failure)], undone.1.trans found, ?_, .passed (.refl old) ?_⟩
    · simp [grown]
    · have silent := within.subject?_ne (List.not_mem_nil (a := old.id))
      simp only [List.cons_append, List.forall_mem_cons, List.forall_mem_append]
      exact ⟨by simp [Entry.subject?], silent, by simp [Entry.subject?]⟩
  | @edited slot handle world ended found' active compiled rebuilt =>
    obtain ⟨tried, -⟩ := find?_tried around stage present found' active rebuilt
    have retried : Confined [] _ ended := confined_rebuilt around _ (present.recoded id code _) rebuilt
    obtain ⟨entries, grown, within⟩ := retried.grown
    have stamped := find?_stamped around ended tried
    rw [found] at found'
    cases found'
    have mute : ∀ entry ∈ entries, entry.Mute id := within.mute List.not_mem_nil
    have names := Parameters.names_prefix (old.parameters.toList_prefix_merge (Program.detect code))
    have journal : (ended.stamped around id).journal =
        stage.journal ++
          (.compiled { old with code }.text (.ok handle) :: entries ++ [.touched id]) := by
      rw [journal_stamped, grown]
      simp
    refine fares_of_closed around stage other journal (by simp) stamped ⟨_, rfl⟩ names.subset
      fun _ => ?_
    rw [toldNames_of_mute]
    · exact List.nil_subset _
    · refine List.forall_mem_append.2 ⟨List.forall_mem_cons.2 ⟨⟨rfl, rfl⟩, mute⟩, ?_⟩
      exact List.forall_mem_singleton.2 ⟨rfl, rfl⟩

/-- No parameter of a slot goes away. -/
theorem names_of_fares {entries : List (Entry Handle)} {old new : Slot}
    (fares : old.Fares around origin operation outcome entries new) :
    old.parameters.names ⊆ new.parameters.names := by
  cases fares with
  | passed gains | viewed gains => exact gains.names
  | switched gains | unflagged _ _ _ _ _ gains => exact gains.names
  | edited _ disclosed => exact disclosed.told.names
  | halfDone _ _ _ _ _ _ parameters => exact (Parameters.names_prefix parameters).subset

/-- Parameters that were told of are there, if slots are saved anywhere. -/
theorem toldNames_of_fares {entries : List (Entry Handle)} {old new : Slot}
    (somewhere : around.save.isSome) (same : new.id = old.id)
    (fares : old.Fares around origin operation outcome entries new) :
    toldNames old.id entries ⊆ new.parameters.names := by
  have untold : (∀ entry ∈ entries, entry.Mute old.id) →
      toldNames old.id entries ⊆ new.parameters.names := by
    intro mute
    rw [toldNames_of_mute mute]
    exact List.nil_subset _
  cases fares with
  | passed _ silent | unflagged _ _ _ _ _ _ silent =>
    exact untold fun entry there => Entry.mute_of_other (silent entry there)
  | viewed _ filed | edited _ _ filed =>
    rw [← same]
    exact fun name there => (filed somewhere).names (List.mem_append_right _ there)
  | switched _ _ _ mute | halfDone _ _ _ _ _ _ _ mute => exact untold mute

/-- A slot that carries the time of a change still carries one after what leaves no half-done edit. -/
theorem stamped_of_fares {entries : List (Entry Handle)} {old new : Slot}
    (whole : operation.appends? origin = none)
    (stamped : ∃ world, old.modified = .at (around.clock world))
    (fares : old.Fares around origin operation outcome entries new) :
    ∃ world, new.modified = .at (around.clock world) := by
  cases fares with
  | passed gains | viewed gains => exact gains.modified ▸ stamped
  | switched _ _ disclosed | edited _ disclosed => exact disclosed.stamped
  | unflagged _ _ _ _ _ gains => exact gains.modified ▸ stamped
  | halfDone _ appended =>
    rw [whole] at appended
    cases appended

theorem find?_rewritten (code : String) {old : Slot} (found : stage.deck.bank.find? id = some old) :
    ∃ world, (stage.rewritten around id code).deck.bank.find? id =
      some { old.recoded code with modified := .at (around.clock world) } := by
  obtain rfl := Bank.id_of_find? found
  let recoded : Stage Handle Listener World := { stage with
    deck := { stage.deck with
      bank := stage.deck.bank.modify old.id fun slot => { slot with code } } }
  have first : recoded.deck.bank.find? old.id = some { old with code } :=
    Bank.find?_modify_self found _
  have second := find?_stamped around recoded first
  have third : (stage.rewritten around old.id code).deck.bank.find? old.id = _ :=
    Bank.find?_modify_self second Slot.refreshed
  exact ⟨_, third⟩

/-- Code that is replaced is told of and saved at the end, whether the slot starts again or not. -/
theorem Edits.accounts (other : operation.starts? = none) (placed : stage.deck.Placed)
    (marked : stage.deck.Marked) (edits : Edits around stage id code outcome after) :
    Accounts around origin operation outcome stage after := by
  refine (edits.confined around stage placed).accounts_of (fun missing => ?_) fun old found => ?_
  · cases edits with
    | missing => exact confined_told around stage (by simp [Entry.subject?])
    | halted loaded | silent loaded | restarted loaded => exact absurd loaded missing
  have present := placed.present
  cases edits with
  | missing missing => exact absurd (Bank.isSome_find?.1 (found ▸ rfl)) missing
  | halted loaded active stopped =>
    have stops := ends_of_perform (perform_stop around stage id present) stopped
    obtain ⟨entries, grown, -, fares⟩ := stops.accounts around stage present marked
    obtain ⟨new, found', fares⟩ := fares id old found
    exact ⟨new, entries, found', grown, fares⟩
  | silent =>
    obtain ⟨world, found'⟩ := find?_rewritten around stage code found
    exact fares_of_closed around stage other rfl (List.mem_singleton_self _) found' ⟨world, rfl⟩
      (old.names_recoded code) fun _ => List.nil_subset _
  | @restarted _ middle restarted loaded active stopped started =>
    have stops := ends_of_perform (perform_stop around stage id present) stopped
    have moved := (stops.moved around stage present).tail
      (.kept (standing_rewritten around middle id code))
    have still := (placed.moved moved).present
    have starts := ends_of_perform (perform_start around _ id still) started
    obtain ⟨entries, grown, -, stopping⟩ : Accounts around stage.deck operation (.ok ()) stage middle :=
      stops.accounts around stage present marked
    obtain ⟨halfway, stoppedSlot, stopping⟩ := stopping id old found
    obtain ⟨world, rewrittenSlot⟩ := find?_rewritten around middle code stoppedSlot
    have names := halfway.names_recoded code
    obtain ⟨more, grown', -, starting⟩ : Accounts around (middle.rewritten around id code).deck
        (.start id) outcome _ restarted := starts.accounts around _ rfl rfl still
    obtain ⟨new, found', starting⟩ := starting id _ rewrittenSlot
    have later := names_of_fares around starting
    have journal : restarted.journal = stage.journal ++ (entries ++ ([.touched id] ++ more)) := by
      rw [grown', ← List.append_assoc, ← List.append_assoc, ← grown]
      rfl
    refine fares_of_closed around stage other journal (by simp) found'
      (stamped_of_fares around rfl ⟨world, rfl⟩ starting) ?_ fun somewhere => ?_
    · exact fun name there => later (names (names_of_fares around stopping there))
    · -- whatever was told of in the stop or in the start is there
      obtain rfl := Bank.id_of_find? found
      have first := toldNames_of_fares around somewhere (Bank.id_of_find? stoppedSlot) stopping
      have last := toldNames_of_fares around somewhere
        ((Bank.id_of_find? found').trans (Bank.id_of_find? rewrittenSlot).symm) starting
      rw [Bank.id_of_find? rewrittenSlot] at last
      rw [toldNames, List.filterMap_append, List.filterMap_append]
      refine List.append_subset.2 ⟨fun name there => later (names (first there)), ?_⟩
      exact List.append_subset.2 ⟨List.nil_subset _, last⟩

end Code

end Stage

end PatternDeck
