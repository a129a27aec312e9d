import PatternDeck.Proofs.Folder
import PatternDeck.Proofs.Json.Writing
import PatternDeck.Proofs.Library.Latest
import PatternDeck.Proofs.Library.RoundTrip

/-!
Slots saved to a file one after another. Every save reads the library back, puts one slot into it and
writes it again, so in the end the file has of each id the slot that was saved last, or else the one
that it had at first.
-/
namespace PatternDeck

/-! ### What was read is read again as it is -/

theorem Label.canonical_reread (label : Label) : label.reread.Canonical := by
  unfold reread
  split_ifs
  · exact canonical_text ""
  · exact canonical_ofJson _

section Reread

variable {Text : Type} [Naming Text]

theorem Parameter.storable_reread (p : Parameter Text) : p.reread.Storable :=
  storable_create _ _ _ (Knob.canonical_ofJson _) p.label.canonical_reread

theorem Slot.storable_reread (slot : Slot Text) : slot.reread.Storable where
  name := Label.canonical_ofJson _
  category := slot.category.canonical_reread
  uncategorized void := by
    have category : slot.reread.category = slot.category.reread := rfl
    rw [category, Label.reread] at void ⊢
    split_ifs at void ⊢ with empty
    · rfl
    · rw [Label.isVoid, Label.toJson_ofJson] at void
      exact absurd void empty
  modified := Moment.canonical_ofJson _
  parameters p there := by
    obtain ⟨q, -, rfl⟩ := List.mem_map.1 there
    exact q.storable_reread

theorem Slot.reread_reread (slot : Slot Text) : slot.reread.reread = slot.reread := by
  have same : slot.reread.parameters.map Parameter.remade = slot.reread.parameters := by
    apply Parameters.map_eq_self
    intro p there
    obtain ⟨q, -, rfl⟩ := List.mem_map.1 there
    exact Parameter.remade_create _ _ _ _ _
  rw [slot.storable_reread.reread_eq, reloaded, same]
  rfl

end Reread

theorem Parameter.Readable.reread {p : Parameter Label} (readable : p.Readable) :
    p.reread.Readable where
  name := readable.name
  named := by
    refine Library.canName_create ?_
    rw [Library.canName, Label.isVoid_reread]
    exact readable.named

theorem Slot.Readable.reread {slot : Slot Label} (readable : slot.Readable) :
    slot.reread.Readable where
  code := readable.code
  parameters p there := by
    obtain ⟨q, member, rfl⟩ := List.mem_map.1 there
    exact (readable.parameters q member).reread

namespace Library

section After

variable {Text : Type} [Naming Text] {library : Library Text} {id : Int} {saved : List (Slot Text)}

/-- The library with one more slot, as it is written to its file. -/
def filed (library : Library Text) (slot : Slot Text) : Library Text :=
  { library with slots := latest (library.slots ++ [slot]) }

/-- The library that a file holds after slots were saved to it one after another. -/
def after (library : Library Text) (saved : List (Slot Text)) : Library Text :=
  saved.foldl (fun library slot => (library.filed slot).reread) library

/-- The libraries that are written meanwhile. -/
def drafts (library : Library Text) : List (Slot Text) → List (Library Text)
  | [] => []
  | slot :: rest => library.filed slot :: (library.filed slot).reread.drafts rest

/-- Every slot is as it was read. -/
def Settled (library : Library Text) : Prop := ∀ slot ∈ library.slots, slot.reread = slot

theorem after_concat (library : Library Text) (saved : List (Slot Text)) (slot : Slot Text) :
    library.after (saved ++ [slot]) = ((library.after saved).filed slot).reread := by
  simp only [after, List.foldl_append, List.foldl_cons, List.foldl_nil]

theorem drafts_concat (library : Library Text) (saved : List (Slot Text)) (slot : Slot Text) :
    library.drafts (saved ++ [slot]) = library.drafts saved ++ [(library.after saved).filed slot] := by
  induction saved generalizing library with
  | nil => rfl
  | cons first rest ih => exact congrArg (List.cons _) (ih _)

theorem settled_reread (library : Library Text) : library.reread.Settled := by
  intro slot there
  obtain ⟨old, -, rfl⟩ := List.mem_map.1 there
  exact old.reread_reread

theorem lastOf_filed (settled : library.Settled) (slot : Slot Text) :
    lastOf id (library.filed slot).reread.slots =
      ((lastOf id [slot]).map Slot.reread).or (lastOf id library.slots) := by
  have map (slots : List (Slot Text)) :
      lastOf id (slots.map Slot.reread) = (lastOf id slots).map Slot.reread :=
    lastOf_map Slot.reread (fun _ => rfl) id slots
  have kept : (lastOf id library.slots).map Slot.reread = lastOf id library.slots := by
    rw [← map, List.map_congr_left settled, List.map_id']
  calc lastOf id ((latest (library.slots ++ [slot])).map Slot.reread)
      = (lastOf id (latest (library.slots ++ [slot]))).map Slot.reread := map _
    _ = ((lastOf id [slot]).or (lastOf id library.slots)).map Slot.reread := by
      rw [lastOf_latest, lastOf_append]
    _ = ((lastOf id [slot]).map Slot.reread).or (lastOf id library.slots) := by
      rw [Option.map_or, kept]

/-- What is looked up after saves is what was saved last, and else what was there. -/
theorem lastOf_after (settled : library.Settled) :
    lastOf id (library.after saved).slots =
      ((lastOf id saved).map Slot.reread).or (lastOf id library.slots) := by
  induction saved generalizing library with
  | nil => rfl
  | cons slot rest ih =>
    have next : library.after (slot :: rest) = (library.filed slot).reread.after rest := rfl
    rw [next, ih (settled_reread _), lastOf_filed settled, ← Option.or_assoc, ← Option.map_or,
      ← lastOf_cons]

theorem nodup_after (distinct : (library.slots.map (·.id)).Nodup) :
    ((library.after saved).slots.map (·.id)).Nodup := by
  induction saved using List.reverseRecOn with
  | nil => exact distinct
  | append_singleton saved slot _ =>
    have ids : ((library.after (saved ++ [slot])).slots.map (·.id)) =
        (latest ((library.after saved).slots ++ [slot])).map (·.id) := by
      rw [after_concat]
      exact List.map_map
    rw [ids]
    exact nodup_latest _

/-- What a void name is read as is void, and no other name. -/
theorem named_after (named : library.name.isVoid = false) :
    (library.after saved).name.isVoid = false := by
  induction saved using List.reverseRecOn with
  | nil => exact named
  | append_singleton saved slot ih =>
    rw [after_concat]
    change (Label.ofJson (library.after saved).name.toJson).toJson.isVoid = false
    rw [Label.toJson_ofJson]
    exact ih

end After

section Readable

variable {library : Library Label} {slot : Slot Label} {saved : List (Slot Label)}

theorem settled_of_decode {text : String} (read : decode text = .ok library) : library.Settled := by
  obtain ⟨storable, same⟩ := storable_of_decode read
  rw [← same, ← storable.reread_eq]
  exact library.settled_reread

theorem Readable.filed (readable : library.Readable) (joins : slot.Readable) :
    (library.filed slot).Readable := by
  intro other there
  obtain ⟨member, -⟩ := mem_of_lastOf (mem_latest_iff.1 there)
  rcases List.mem_append.1 member with before | this
  · exact readable other before
  · exact List.mem_singleton.1 this ▸ joins

theorem Readable.reread (readable : library.Readable) : library.reread.Readable := by
  intro slot there
  obtain ⟨old, member, rfl⟩ := List.mem_map.1 there
  exact (readable old member).reread

theorem Readable.after (readable : library.Readable) (join : ∀ slot ∈ saved, slot.Readable) :
    (library.after saved).Readable := by
  induction saved generalizing library with
  | nil => exact readable
  | cons slot rest ih =>
    obtain ⟨joins, others⟩ := List.forall_mem_cons.1 join
    exact ih (readable.filed joins).reread others

end Readable

/-! ### Files -/

/-- A library that was saved is in its file, as it is read from its document. -/
theorem load_of_save {library : Library Label} {timestamp path : String} {folder written : Folder}
    (named : library.name.isVoid = false) (readable : library.Readable)
    (inverse : Json.read ((library.toDocument timestamp).write .indented) =
      .ok (library.toDocument timestamp))
    (saves : library.save timestamp path folder = (.ok (), written)) :
    written.contains path = true ∧ load written path = .ok library.reread := by
  simp only [save] at saves
  split at saves
  · cases saves
  next beside written_ =>
    split at saves
    · cases saves
    next moved =>
      cases saves
      obtain ⟨there, read⟩ := Folder.read_of_replaced written_ moved
      refine ⟨there, ?_⟩
      rw [load, read]
      simp only [encode, Json.unifyBreaks_write]
      rw [decode_of_read inverse, ofDocument_of_named named readable]

namespace Store

variable {store : Store} {may : String → Prop} {folder written : Folder}
variable {library : Library Label} {saved : List (Slot Label)}

/-- Slots saved one after another, each with success and at a time that may be. -/
inductive Saves (store : Store) (may : String → Prop) (folder : Folder) :
    List (Slot Label) → Folder → Prop where
  | none : Saves store may folder [] folder
  | next {saved : List (Slot Label)} {middle written : Folder} {slot : Slot Label}
      {timestamp : String}
      (earlier : Saves store may folder saved middle) (allowed : may timestamp)
      (saves : store.saveSlot slot timestamp middle = (.ok (), written)) :
      Saves store may folder (saved ++ [slot]) written

theorem Saves.append {middle : Folder} {more : List (Slot Label)}
    (first : store.Saves may folder saved middle)
    (second : store.Saves may middle more written) :
    store.Saves may folder (saved ++ more) written := by
  induction second with
  | none => rwa [List.append_nil]
  | next _ allowed saves ih =>
    rw [← List.append_assoc]
    exact ih.next allowed saves

theorem Saves.mono {more : String → Prop} (implied : ∀ timestamp, may timestamp → more timestamp)
    (saves : store.Saves may folder saved written) : store.Saves more folder saved written := by
  induction saves with
  | none => exact .none
  | next _ allowed saves ih => exact ih.next (implied _ allowed) saves

theorem Saves.unchanged (saves : store.Saves may folder saved written) (nothing : saved = []) :
    written = folder := by
  cases saves with
  | none => rfl
  | next => exact absurd nothing (by simp)

/-- The file holds what comes of putting the saved slots into the library that was there. -/
theorem Saves.current (saves : store.Saves may folder saved written)
    (found : store.current folder = .ok library) (named : library.name.isVoid = false)
    (readable : library.Readable) (join : ∀ slot ∈ saved, slot.Readable)
    (inverse : ∀ draft ∈ library.drafts saved, ∀ timestamp, may timestamp →
      Json.read ((draft.toDocument timestamp).write .indented) = .ok (draft.toDocument timestamp)) :
    store.current written = .ok (library.after saved) ∧
      (saved ≠ [] → written.contains store.path = true) := by
  induction saves with
  | none => exact ⟨found, absurd rfl⟩
  | @next saved middle written slot timestamp earlier allowed saves ih =>
    rw [drafts_concat, List.forall_mem_append, List.forall_mem_singleton] at inverse
    obtain ⟨before, this⟩ := inverse
    obtain ⟨joined, joins⟩ := List.forall_mem_append.1 join
    -- a save begins with what the one before it wrote
    obtain ⟨here, -⟩ := ih joined before
    rw [saveSlot, here] at saves
    have draft : ((library.after saved).filed slot).name.isVoid = false := named_after named
    have drawn : ((library.after saved).filed slot).Readable :=
      (readable.after joined).filed (List.forall_mem_singleton.1 joins)
    obtain ⟨there, loaded⟩ := load_of_save draft drawn (this timestamp allowed) saves
    refine ⟨?_, fun _ => there⟩
    rw [Store.current, if_pos there, Store.load, loaded, after_concat]

end Store

end Library

end PatternDeck
