import PatternDeck.Proofs.Library.Filing

/-!
What can be played, as a file holds it. A file says of a slot of texts all that the slot says, so such
a slot is known by what the file holds, and slots are saved and read back in a file as they would be
without one.
-/
namespace PatternDeck

namespace Parameter

theorem ofStored?_eq_some_iff {q : Parameter Label} {p : Parameter} :
    ofStored? q = some p ↔ q = p.stored := by
  obtain ⟨name, value, range, knob, label⟩ := q
  cases name with
  | text name =>
    simp only [ofStored?, Label.text?, Option.map_some, Option.some.injEq, stored]
    constructor
    · rintro rfl
      rfl
    · rintro ⟨⟩
      rfl
  | other value => simp [ofStored?, Label.text?, stored]

/-- A label is made out of a name in the same way on both sides. -/
theorem stored_reread (p : Parameter) : p.reread.stored = p.stored.reread := rfl

end Parameter

namespace Parameters

theorem ofStored?_eq_some_iff {qs : Parameters Label} {ps : Parameters} :
    ofStored? qs = some ps ↔ qs = ps.stored := by
  have each {found : List Parameter} :
      qs.toList.mapM Parameter.ofStored? = some found ↔ qs.toList = found.map Parameter.stored :=
    mapM_eq_some_iff fun _ _ => Parameter.ofStored?_eq_some_iff
  simp only [ofStored?, Option.map_eq_some_iff, each]
  constructor
  · rintro ⟨found, same, rfl⟩
    apply eq_of_toList_eq
    -- names that a file tells apart are told apart
    have apart : (found.map (·.name)).Nodup := by
      have distinct := qs.distinct
      rw [same, List.map_map] at distinct
      refine List.pairwise_map.2 ((List.pairwise_map.1 distinct).imp fun differ equal => differ ?_)
      exact congrArg (some <| Json.Key.text ·) equal
    have whole : (ofList found).toList = found := congrArg toList (ofList_toList ⟨found, apart⟩)
    exact same.trans (congrArg (List.map Parameter.stored) whole.symm)
  · rintro rfl
    exact ⟨ps.toList, rfl, ofList_toList ps⟩

theorem stored_map {change : Parameter → Parameter} {changed : Parameter Label → Parameter Label}
    (same : ∀ p, (change p).stored = changed p.stored) (ps : Parameters) :
    (ps.map change).stored = ps.stored.map changed := by
  apply eq_of_toList_eq
  simp only [stored, map, List.map_map]
  refine List.map_congr_left fun p _ => ?_
  simp only [Function.comp_apply, ← same]
  rfl

end Parameters

namespace Slot

theorem ofStored?_eq_some_iff {found : Slot Label} {slot : Slot} :
    ofStored? found = some slot ↔ found = slot.stored := by
  obtain ⟨id, code, name, category, color, playing, parameters, modified⟩ := found
  cases code with
  | text code =>
    have each {ps : Parameters} : Parameters.ofStored? parameters = some ps ↔ parameters = ps.stored :=
      Parameters.ofStored?_eq_some_iff
    -- of the texts the code is one by now, so all hangs on the names
    simp only [ofStored?, Label.text?, Option.bind_eq_bind, Option.bind_some, Option.bind_eq_some_iff,
      each, stored]
    constructor
    · rintro ⟨ps, rfl, ⟨⟩⟩
      rfl
    · rintro ⟨⟩
      exact ⟨_, rfl, rfl⟩
  | other value => simp [ofStored?, Label.text?, stored]

theorem stored_injective {slot other : Slot} (same : slot.stored = other.stored) : slot = other :=
  Option.some.inj ((ofStored?_eq_some_iff.2 rfl).symm.trans (ofStored?_eq_some_iff.2 same))

theorem stored_reread (slot : Slot) : slot.reread.stored = slot.stored.reread := by
  have parameters : (slot.parameters.map Parameter.reread).stored =
      slot.parameters.stored.map Parameter.reread :=
    Parameters.stored_map Parameter.stored_reread slot.parameters
  simp only [reread, stored, parameters]

end Slot

namespace Library

variable {library : Library}

theorem ofStored?_eq_some_iff {found : Library Label} :
    ofStored? found = some library ↔ found = library.stored := by
  have each {slots : List Slot} :
      found.slots.mapM Slot.ofStored? = some slots ↔ found.slots = slots.map Slot.stored :=
    mapM_eq_some_iff fun _ _ => Slot.ofStored?_eq_some_iff
  simp only [ofStored?, Option.bind_eq_bind, Option.bind_eq_some_iff, each, stored]
  constructor
  · rintro ⟨slots, same, ⟨⟩⟩
    rw [← same]
  · rintro rfl
    exact ⟨library.slots, rfl, rfl⟩

theorem putSlot_map_stored (slot : Slot) (slots : List Slot) :
    putSlot slot.stored (slots.map Slot.stored) = (putSlot slot slots).map Slot.stored := by
  induction slots with
  | nil => rfl
  | cons first rest ih =>
    have ids : slot.stored.id = slot.id ∧ first.stored.id = first.id := ⟨rfl, rfl⟩
    rw [List.map_cons, putSlot, putSlot, ids.1, ids.2, ih]
    split_ifs <;> rfl

theorem latest_map_stored (slots : List Slot) :
    latest (slots.map Slot.stored) = (latest slots).map Slot.stored := by
  induction slots using List.reverseRecOn with
  | nil => rfl
  | append_singleton slots slot ih =>
    rw [List.map_append, List.map_singleton, latest_concat, latest_concat, ih, putSlot_map_stored]

theorem stored_filed (library : Library) (slot : Slot) :
    (library.filed slot).stored = library.stored.filed slot.stored := by
  have slots : (latest (library.slots ++ [slot])).map Slot.stored =
      latest (library.slots.map Slot.stored ++ [slot.stored]) := by
    rw [← latest_map_stored, List.map_append, List.map_singleton]
  simp only [filed, stored, slots]

theorem stored_reread (library : Library) : library.reread.stored = library.stored.reread := by
  have slots : (library.slots.map Slot.reread).map Slot.stored =
      (library.slots.map Slot.stored).map Slot.reread := by
    rw [List.map_map, List.map_map]
    exact List.map_congr_left fun slot _ => slot.stored_reread
  simp only [reread, stored, slots]

/-- Slots that are saved to a file come to be in it what they come to be in the library. -/
theorem stored_after (library : Library) (saved : List Slot) :
    (library.after saved).stored = library.stored.after (saved.map Slot.stored) := by
  induction saved generalizing library with
  | nil => rfl
  | cons slot rest ih =>
    have next : library.after (slot :: rest) = (library.filed slot).reread.after rest := rfl
    rw [next, ih, stored_reread, stored_filed]
    rfl

theorem readable_stored (library : Library) : library.stored.Readable := by
  intro found there
  obtain ⟨slot, -, rfl⟩ := List.mem_map.1 there
  exact slot.readable_stored

theorem settled_of_stored (settled : library.stored.Settled) : library.Settled := by
  intro slot there
  apply Slot.stored_injective
  rw [Slot.stored_reread]
  exact settled slot.stored (List.mem_map_of_mem there)

/-- The file holds what comes of putting the saved slots into the library that was there. -/
theorem Store.Saves.current_stored {store : Store} {may : String → Prop} {folder written : Folder}
    {saved : List Slot} (saves : store.Saves may folder (saved.map Slot.stored) written)
    (found : store.current folder = .ok library.stored) (named : library.name.isVoid = false)
    (inverse : ∀ draft ∈ library.stored.drafts (saved.map Slot.stored), ∀ timestamp, may timestamp →
      Json.read ((draft.toDocument timestamp).write .indented) = .ok (draft.toDocument timestamp)) :
    store.current written = .ok (library.after saved).stored ∧
      (saved ≠ [] → written.contains store.path = true) := by
  have join : ∀ slot ∈ saved.map Slot.stored, slot.Readable := by
    intro found there
    obtain ⟨slot, -, rfl⟩ := List.mem_map.1 there
    exact slot.readable_stored
  obtain ⟨now, still⟩ := saves.current found named library.readable_stored join inverse
  rw [now, stored_after]
  exact ⟨rfl, fun some => still (mt List.map_eq_nil_iff.1 some)⟩

end Library

end PatternDeck
