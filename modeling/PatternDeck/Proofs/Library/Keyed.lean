import PatternDeck.Proofs.Library.Filing

/-!
Saving a slot is a keyed update of the file. A library that slots were put into stands in the order
of its ids, with one slot for each, so it is known by what is looked up in it; and what is looked up
after saves hangs on the last save of each id alone. That is why saves of different slots may be
made in any order, and why the earlier of two saves of one slot leaves no trace.
-/
namespace PatternDeck

/-- A slot whose parameters are as making them leaves them. A file then does not even change the
sign of a zero. -/
structure Slot.Made (slot : Slot Label) : Prop extends slot.Storable where
  remade : ∀ p ∈ slot.parameters.toList, p.remade = p

theorem Slot.Made.reread_eq {slot : Slot Label} (made : slot.Made) :
    slot.reread = { slot with playing := false } := by
  rw [made.toStorable.reread_eq, reloaded, Parameters.map_eq_self made.remade]

namespace Library

variable {library found : Library Label} {slot : Slot Label} {slots others saved : List (Slot Label)}
variable {may : String → Prop}

/-- Slots in the order of their ids are known by what is looked up in them. -/
theorem eq_of_lastOf_eq (ordered : (slots.map (·.id)).Pairwise (· < ·))
    (orderedOthers : (others.map (·.id)).Pairwise (· < ·))
    (same : ∀ id, lastOf id slots = lastOf id others) : slots = others := by
  have distinct : (slots.map (·.id)).Nodup := ordered.imp Int.ne_of_lt
  have distinctOthers : (others.map (·.id)).Nodup := orderedOthers.imp Int.ne_of_lt
  have members : slots.Perm others := by
    rw [List.perm_ext_iff_of_nodup distinct.of_map distinctOthers.of_map]
    intro slot
    -- where ids are distinct, a slot is among them just if it is the last of its id
    have here : lastOf slot.id slots = some slot ↔ slot ∈ slots ∧ slot.id = slot.id :=
      lastOf_eq_some_iff distinct
    have there : lastOf slot.id others = some slot ↔ slot ∈ others ∧ slot.id = slot.id :=
      lastOf_eq_some_iff distinctOthers
    rw [and_iff_left rfl] at here there
    rw [← here, ← there, same]
  refine members.eq_of_pairwise ?_ (List.pairwise_map.1 ordered) (List.pairwise_map.1 orderedOthers)
  intro a b _ _ before after
  omega

/-- A library as a file gives it: its slots are as they were read, and so are its labels. -/
structure Firm (library : Library Label) : Prop where
  settled : library.Settled
  readable : library.Readable
  named : library.name.isVoid = false
  name : library.name.Canonical
  version : library.version.Canonical

theorem firm_of_load {folder : Folder} {path : String} (loaded : load folder path = .ok library) :
    library.Firm := by
  unfold load at loaded
  split at loaded
  next text _ =>
    obtain ⟨storable, -⟩ := storable_of_decode loaded
    exact ⟨settled_of_decode loaded, storable.readable, storable.named, storable.name,
      storable.version⟩
  next => cases loaded

theorem reread_labels (firm : library.Firm) (slots : List (Slot Label)) :
    ({ library with slots } : Library Label).reread =
      { library with slots := slots.map Slot.reread } := by
  have name : Label.ofJson library.name.toJson = library.name := firm.name
  have version : Label.ofJson library.version.toJson = library.version := firm.version
  simp only [reread, name, version]

/-- A slot put into such a library and read back makes another. -/
theorem Firm.filed (firm : library.Firm) (slot : Slot Label) :
    (library.filed slot).reread =
      { library with slots := (latest (library.slots ++ [slot])).map Slot.reread } :=
  reread_labels firm _

theorem Firm.reread_filed (firm : library.Firm) (joins : slot.Readable) :
    (library.filed slot).reread.Firm := by
  have same := firm.filed slot
  refine ⟨settled_reread _, (firm.readable.filed joins).reread, ?_, ?_, ?_⟩
  all_goals rw [same]
  · exact firm.named
  · exact firm.name
  · exact firm.version

theorem Firm.after (firm : library.Firm) (join : ∀ slot ∈ saved, slot.Readable) :
    (library.after saved).Firm ∧ (library.after saved).name = library.name ∧
      (library.after saved).version = library.version := by
  induction saved using List.reverseRecOn with
  | nil => exact ⟨firm, rfl, rfl⟩
  | append_singleton saved slot ih =>
    obtain ⟨joined, joins⟩ := List.forall_mem_append.1 join
    obtain ⟨before, name, version⟩ := ih joined
    rw [after_concat]
    refine ⟨before.reread_filed (List.forall_mem_singleton.1 joins), ?_, ?_⟩
    · rw [before.filed, ← name]
    · rw [before.filed, ← version]

theorem ordered_after (some : saved ≠ []) :
    ((library.after saved).slots.map (·.id)).Pairwise (· < ·) := by
  rw [← List.dropLast_append_getLast some, after_concat]
  have ids : ((library.after saved.dropLast).filed (saved.getLast some)).reread.slots.map (·.id) =
      (latest ((library.after saved.dropLast).slots ++ [saved.getLast some])).map (·.id) :=
    List.map_map
  rw [ids]
  exact ordered_latest _

/-- What a library is after saves hangs on the last save of each id, and not on the order. -/
theorem Firm.after_congr (firm : library.Firm) (some : saved ≠ []) (someOthers : others ≠ [])
    (join : ∀ slot ∈ saved, slot.Readable) (joinOthers : ∀ slot ∈ others, slot.Readable)
    (same : ∀ id, lastOf id saved = lastOf id others) :
    library.after saved = library.after others := by
  obtain ⟨-, name, version⟩ := firm.after join
  obtain ⟨-, nameOthers, versionOthers⟩ := firm.after joinOthers
  have slots : (library.after saved).slots = (library.after others).slots := by
    refine eq_of_lastOf_eq (ordered_after some) (ordered_after someOthers) fun id => ?_
    rw [lastOf_after firm.settled, lastOf_after firm.settled, same]
  cases first : library.after saved
  cases second : library.after others
  simp_all

/-- What saves write is read as it was written: each library from its text, and each slot from its
record. -/
structure Legible (library : Library Label) (saved : List (Slot Label)) (may : String → Prop) :
    Prop where
  texts : ∀ draft ∈ library.drafts saved, ∀ timestamp, may timestamp →
    Json.read ((draft.toDocument timestamp).write .indented) = .ok (draft.toDocument timestamp)
  records : ∀ slot ∈ saved, slot.Readable

theorem Legible.of_cons (legible : library.Legible (slot :: saved) may) :
    library.Legible [slot] may ∧ (library.filed slot).reread.Legible saved may := by
  obtain ⟨texts, records⟩ := legible
  obtain ⟨text, later⟩ := List.forall_mem_cons.1 texts
  obtain ⟨record, others⟩ := List.forall_mem_cons.1 records
  exact ⟨⟨List.forall_mem_singleton.2 text, List.forall_mem_singleton.2 record⟩, later, others⟩

theorem Legible.of_concat (legible : library.Legible (saved ++ [slot]) may) :
    library.Legible saved may ∧ slot.Readable := by
  obtain ⟨texts, records⟩ := legible
  rw [drafts_concat, List.forall_mem_append] at texts
  rw [List.forall_mem_append] at records
  exact ⟨⟨texts.1, records.1⟩, List.forall_mem_singleton.1 records.2⟩

theorem Legible.of_singleton (legible : library.Legible [slot] may) : slot.Readable :=
  List.forall_mem_singleton.1 legible.records

/-- One slot was put into a library, in the place of those with its id. -/
structure Updates (library : Library Label) (slot : Slot Label) (found : Library Label) : Prop where
  name : found.name = library.name
  version : found.version = library.version
  ordered : (found.slots.map (·.id)).Pairwise (· < ·)
  own : ∃ saved, lastOf slot.id found.slots = some saved ∧ slot.Reloads saved
  others : ∀ id, id ≠ slot.id → lastOf id found.slots = lastOf id library.slots

theorem Firm.updates (firm : library.Firm) (storable : slot.Storable) (readable : slot.Readable) :
    library.Updates slot (library.filed slot).reread := by
  obtain ⟨-, name, version⟩ := firm.after (List.forall_mem_singleton.2 readable)
  have ordered : ((library.filed slot).reread.slots.map (·.id)).Pairwise (· < ·) :=
    ordered_after (List.cons_ne_nil slot [])
  refine ⟨name, version, ordered, ⟨slot.reloaded, ?_, storable.reloads⟩, ?_⟩
  · rw [lastOf_filed firm.settled, lastOf_singleton, if_pos rfl, ← storable.reread_eq]
    rfl
  · intro id differs
    rw [lastOf_filed firm.settled, lastOf_singleton, if_neg differs.symm]
    rfl

/-- Into a library without slots goes the slot alone. -/
theorem Updates.alone (updates : library.Updates slot found) (none : library.slots = []) :
    ∃ saved, found.slots = [saved] ∧ slot.Reloads saved := by
  obtain ⟨saved, last, reloads⟩ := updates.own
  refine ⟨saved, ?_, reloads⟩
  refine eq_of_lastOf_eq updates.ordered (by simp) fun id => ?_
  by_cases own : id = slot.id
  · rw [own, last, lastOf_singleton, if_pos reloads.id]
  · have differs : saved.id ≠ id := fun same => own (same.symm.trans reloads.id)
    rw [updates.others id own, none, lastOf_singleton, if_neg differs]
    rfl

namespace Store

variable {store : Store} {folder : Folder} {place beside timestamp : String}

/-- The library that a file begins with. -/
def begun (store : Store) : Library Label :=
  { name := store.name, version := store.version, slots := [] }

theorem firm_begun (named : store.name.isVoid = false) (name : store.name.Canonical)
    (version : store.version.Canonical) : store.begun.Firm :=
  ⟨fun _ there => (List.not_mem_nil there).elim, fun _ there => (List.not_mem_nil there).elim, named,
    name, version⟩

theorem current_of_load (loaded : store.load folder = .ok library) :
    store.current folder = .ok library := by
  have there : folder.contains store.path = true := by
    unfold load Library.load at loaded
    split at loaded
    next read => exact Folder.contains_of_read read
    next => cases loaded
  rw [current, if_pos there, loaded]

theorem current_of_missing (missing : folder.contains store.path = false) :
    store.current folder = .ok store.begun := by
  rw [current, missing]
  rfl

theorem firm_of_current (fresh : store.begun.Firm) (found : store.current folder = .ok library) :
    library.Firm := by
  unfold current at found
  split at found
  · exact firm_of_load found
  · cases found
    exact fresh

/-- Saves of slots one after another, up to the first that fails. -/
def saveAll (store : Store) : List (Slot Label × String) → Folder → Except Fault Unit × Folder
  | [], folder => (.ok (), folder)
  | (slot, timestamp) :: rest, folder =>
    match store.saveSlot slot timestamp folder with
    | (.ok (), written) => store.saveAll rest written
    | (.error fault, written) => (.error fault, written)

/-- A library whose text was put in the file's place is what the file gives. -/
theorem load_exchanged (led : folder.locate store.path = .ok (.file place))
    (named : library.name.isVoid = false) (readable : library.Readable)
    (inverse : Json.read ((library.toDocument timestamp).write .indented) =
      .ok (library.toDocument timestamp)) :
    store.load (folder.exchanged beside place (library.encode timestamp)) = .ok library.reread := by
  have there := Folder.lookup_put (folder.remove beside) place (library.encode timestamp)
  have read := Folder.read_of_lookup (Folder.locate_congr led) there
  rw [load, Library.load, Folder.exchanged, read]
  simp only [encode, Json.unifyBreaks_write]
  rw [decode_of_read inverse, ofDocument_of_named named readable]

/-- After a run of saves the file gives what comes of putting the slots in one after another. -/
theorem load_saveAll (led : folder.locate store.path = .ok (.file place)) (beside : String)
    (firm : library.Firm) (legible : library.Legible (saved ++ [slot]) may)
    (last : may timestamp) :
    store.load (folder.exchanged beside place
        (((library.after saved).filed slot).encode timestamp)) =
      .ok (library.after (saved ++ [slot])) := by
  obtain ⟨earlier, joins⟩ := legible.of_concat
  obtain ⟨before, -, -⟩ := firm.after earlier.records
  have drawn := before.readable.filed joins
  have draft : (library.after saved).filed slot ∈ library.drafts (saved ++ [slot]) := by
    simp [drafts_concat]
  have named : ((library.after saved).filed slot).name.isVoid = false := before.named
  rw [load_exchanged led named drawn (legible.texts _ draft timestamp last), after_concat]

section Place

variable (led : folder.locate store.path = .ok (.file place))
variable (ledBeside : folder.locate (store.path ++ ".tmp") = .ok (.file beside))
include led ledBeside

theorem saveSlot_eq (found : store.current folder = .ok library) (slot : Slot Label)
    (timestamp : String) :
    store.saveSlot slot timestamp folder =
      (.ok (), folder.exchanged beside place ((library.filed slot).encode timestamp)) := by
  let text := (library.filed slot).encode timestamp
  have ledSource : (folder.put beside text).locate (store.path ++ ".tmp") = .ok (.file beside) :=
    Folder.locate_congr ledBeside
  have moved := Folder.move_of_locate ledSource (Folder.locate_congr led)
    (Folder.lookup_put folder beside text)
  rw [Folder.remove_put] at moved
  rw [saveSlot, found]
  simp only [save, Folder.write_of_locate ledBeside]
  simp only [text, filed] at moved
  rw [moved]
  rfl

/-- A run of saves works if those before the last are legible, and leaves of itself the last text
alone. -/
theorem saveAll_eq (run : List (Slot Label × String)) (slot : Slot Label) (timestamp : String)
    (found : store.current folder = .ok library) (firm : library.Firm)
    (legible : library.Legible (run.map (·.1)) may) (allowed : ∀ save ∈ run, may save.2) :
    store.saveAll (run ++ [(slot, timestamp)]) folder =
      (.ok (), folder.exchanged beside place
        (((library.after (run.map (·.1))).filed slot).encode timestamp)) := by
  -- each save begins with what the one before it wrote
  induction run generalizing folder library with
  | nil =>
    rw [List.nil_append, saveAll, saveSlot_eq led ledBeside found]
    rfl
  | cons save run ih =>
    obtain ⟨first, later⟩ := Legible.of_cons legible
    obtain ⟨now, others⟩ := List.forall_mem_cons.1 allowed
    have joins := first.of_singleton
    have inverse := first.texts _ (List.mem_singleton_self (library.filed save.1)) save.2 now
    have loaded : store.load
          (folder.exchanged beside place ((library.filed save.1).encode save.2)) =
        .ok (library.filed save.1).reread :=
      load_exchanged led firm.named (firm.readable.filed joins) inverse
    have rest := ih (Folder.locate_congr led) (Folder.locate_congr ledBeside)
      (current_of_load loaded) (firm.reread_filed joins) later others
    rw [Folder.exchanged_exchanged] at rest
    rw [List.cons_append, saveAll, saveSlot_eq led ledBeside found]
    exact rest

end Place

end Store

section Twice

variable {first second : Slot Label}

theorem slotRecord_of_made (made : slot.Made) : slotRecord slot.reread = slotRecord slot := by
  rw [made.reread_eq]
  rfl

/-- Of a slot that was made, the file tells the same before and after it was read. -/
theorem Firm.encode_filed (firm : library.Firm) (made : slot.Made) (timestamp : String) :
    (library.filed slot).encode timestamp = (library.filed slot).reread.encode timestamp := by
  have each : ∀ other ∈ latest (library.slots ++ [slot]),
      slotRecord other = slotRecord other.reread := by
    intro other there
    obtain ⟨member, -⟩ := mem_of_lastOf (mem_latest_iff.1 there)
    rcases List.mem_append.1 member with before | this
    · rw [firm.settled other before]
    · rw [List.mem_singleton.1 this, slotRecord_of_made made]
  have records : (latest (library.slots ++ [slot])).map slotRecord =
      ((latest (library.slots ++ [slot])).map Slot.reread).map slotRecord := by
    rw [List.map_map]
    exact List.map_congr_left each
  rw [firm.filed, encode, encode, toDocument, toDocument, ← records]
  rfl

/-- Of two slots of different ids it makes no difference which is put in first. -/
theorem lastOf_swap (differs : first.id ≠ second.id) (id : Int) :
    lastOf id [first, second] = lastOf id [second, first] := by
  rw [lastOf_cons id first [second], lastOf_cons id second [first], lastOf_singleton,
    lastOf_singleton]
  split_ifs with own own'
  · exact absurd (own'.trans own.symm) differs
  all_goals rfl

/-- Of two slots of one id the first is replaced by the second. -/
theorem Firm.filed_twice (firm : library.Firm) (same : first.id = second.id) :
    ((library.filed first).reread.filed second) = library.filed second := by
  have slots : latest ((library.filed first).reread.slots ++ [second]) =
      latest (library.slots ++ [second]) := by
    refine eq_of_lastOf_eq (ordered_latest _) (ordered_latest _) fun id => ?_
    rw [lastOf_latest, lastOf_latest, lastOf_append, lastOf_append, lastOf_filed firm.settled,
      lastOf_singleton, lastOf_singleton, same]
    split_ifs <;> rfl
  have draft : (library.filed first).reread.filed second =
      { (library.filed first).reread with
        slots := latest ((library.filed first).reread.slots ++ [second]) } := rfl
  rw [draft, slots, firm.filed]
  rfl

end Twice

namespace Store

variable {store : Store} {folder : Folder} {place beside : String} {first second : Slot Label}

/-- Two slots of different ids may be saved in any order. -/
theorem saveAll_swap (led : folder.locate store.path = .ok (.file place))
    (ledBeside : folder.locate (store.path ++ ".tmp") = .ok (.file beside))
    (found : store.current folder = .ok library) (firm : library.Firm)
    (differs : first.id ≠ second.id) (legible : library.Legible [first, second] may)
    (legibleOther : library.Legible [second, first] may) {t₁ t₂ u₁ u₂ : String}
    (m₁ : may t₁) (m₂ : may t₂) (n₁ : may u₁) (n₂ : may u₂) :
    ∃ written other found,
      store.saveAll [(first, t₁), (second, t₂)] folder = (.ok (), written) ∧
        store.saveAll [(second, u₁), (first, u₂)] folder = (.ok (), other) ∧
          store.load written = .ok found ∧ store.load other = .ok found ∧
            (first.Made → second.Made → t₂ = u₂ → written = other) := by
  obtain ⟨beforeLast, -⟩ : library.Legible [first] may ∧ second.Readable := Legible.of_concat legible
  obtain ⟨beforeLastOther, -⟩ : library.Legible [second] may ∧ first.Readable :=
    Legible.of_concat legibleOther
  have saves := saveAll_eq led ledBeside [(first, t₁)] second t₂ found firm beforeLast
    (List.forall_mem_singleton.2 m₁)
  have others := saveAll_eq led ledBeside [(second, u₁)] first u₂ found firm beforeLastOther
    (List.forall_mem_singleton.2 n₁)
  have loaded : store.load (folder.exchanged beside place
      (((library.after [first]).filed second).encode t₂)) = .ok (library.after [first, second]) :=
    load_saveAll led beside firm legible m₂
  have loadedOther : store.load (folder.exchanged beside place
      (((library.after [second]).filed first).encode u₂)) = .ok (library.after [second, first]) :=
    load_saveAll led beside firm legibleOther n₂
  -- each id was saved once, so the last save of it is the same in both orders
  have same : library.after [first, second] = library.after [second, first] :=
    firm.after_congr (by simp) (by simp) legible.records legibleOther.records (lastOf_swap differs)
  refine ⟨_, _, _, saves, others, loaded, ?_, ?_⟩
  · exact loadedOther.trans (congrArg Except.ok same.symm)
  · rintro made madeOther rfl
    have text : ((library.after [first]).filed second).encode t₂ =
        ((library.after [second]).filed first).encode t₂ := by
      rw [(firm.after beforeLast.records).1.encode_filed madeOther,
        (firm.after beforeLastOther.records).1.encode_filed made]
      exact congrArg (encode · t₂) same
    exact congrArg _ text

/-- Saving a slot is a keyed update of the file. A file that cannot be read stays as it is. A file
that can be read keeps its labels, its slots come to stand in the order of their ids, and of each
other id there is what was there last. A file that is not there begins with the slot alone. So slots
of different ids may be saved in any order: the file gives the same library, and if the slots were
made and the last saves are of one time, it has the same text. And of two saves of one id the second
leaves what it leaves without the first. -/
theorem keyed_saveSlot (led : folder.locate store.path = .ok (.file place))
    (ledBeside : folder.locate (store.path ++ ".tmp") = .ok (.file beside))
    (named : store.name.isVoid = false) (name : store.name.Canonical)
    (version : store.version.Canonical) :
    (∀ fault slot timestamp, folder.contains store.path = true →
      store.load folder = .error fault →
        store.saveSlot slot timestamp folder = (.error fault, folder)) ∧
    (∀ library slot timestamp, store.load folder = .ok library → slot.Storable →
      library.Legible [slot] (· = timestamp) →
        ∃ written found, store.saveSlot slot timestamp folder = (.ok (), written) ∧
          store.load written = .ok found ∧ library.Updates slot found) ∧
    (∀ slot timestamp, folder.contains store.path = false → slot.Storable →
      store.begun.Legible [slot] (· = timestamp) →
        ∃ written found, store.saveSlot slot timestamp folder = (.ok (), written) ∧
          store.load written = .ok found ∧ found.name = store.name ∧
            found.version = store.version ∧ ∃ saved, found.slots = [saved] ∧ slot.Reloads saved) ∧
    (∀ library first second, store.current folder = .ok library → first.id ≠ second.id →
      ∀ may, library.Legible [first, second] may → library.Legible [second, first] may →
        ∀ t₁ t₂ u₁ u₂, may t₁ → may t₂ → may u₁ → may u₂ → ∃ written other found,
          store.saveAll [(first, t₁), (second, t₂)] folder = (.ok (), written) ∧
            store.saveAll [(second, u₁), (first, u₂)] folder = (.ok (), other) ∧
              store.load written = .ok found ∧ store.load other = .ok found ∧
                (first.Made → second.Made → t₂ = u₂ → written = other)) ∧
    ∀ library first second, store.current folder = .ok library → first.id = second.id →
      ∀ t₁ t₂, library.Legible [first] (· = t₁) → ∃ written,
        store.saveAll [(first, t₁), (second, t₂)] folder = (.ok (), written) ∧
          store.saveSlot second t₂ folder = (.ok (), written) := by
  have fresh := firm_begun named name version
  refine ⟨?_, ?_, ?_, ?_, ?_⟩
  · intro fault slot timestamp there failed
    rw [saveSlot, current, if_pos there, failed]
  · intro library slot timestamp loaded storable legible
    have firm := firm_of_load loaded
    have inverse := legible.texts _ (List.mem_singleton_self (library.filed slot)) timestamp rfl
    refine ⟨_, _, saveSlot_eq led ledBeside (current_of_load loaded) slot timestamp, ?_,
      firm.updates storable legible.of_singleton⟩
    exact load_exchanged led firm.named (firm.readable.filed legible.of_singleton) inverse
  · intro slot timestamp missing storable legible
    have inverse := legible.texts _ (List.mem_singleton_self (store.begun.filed slot)) timestamp rfl
    have drawn := fresh.readable.filed legible.of_singleton
    have updates := fresh.updates storable legible.of_singleton
    refine ⟨_, _, saveSlot_eq led ledBeside (current_of_missing missing) slot timestamp,
      load_exchanged led fresh.named drawn inverse, updates.name, updates.version,
      updates.alone rfl⟩
  · intro library first second found differs may legible legibleOther t₁ t₂ u₁ u₂
    have firm := firm_of_current fresh found
    exact saveAll_swap led ledBeside found firm differs legible legibleOther
  · intro library first second found same t₁ t₂ legible
    have firm := firm_of_current fresh found
    have saves := saveAll_eq led ledBeside [(first, t₁)] second t₂ found firm legible
      (List.forall_mem_singleton.2 rfl)
    have twice : (library.after [first]).filed second = library.filed second :=
      firm.filed_twice same
    refine ⟨_, saves, ?_⟩
    rw [saveSlot_eq led ledBeside found, ← twice]
    rfl

private def crowded : Json :=
  .obj [("version", .str "1.0"), ("library", .obj [("name", .str "Set"),
    ("slots", .arr [.obj [("id", .int 5), ("code", .str "b")],
      .obj [("id", .int 3), ("code", .str "a")], .obj [("id", .int 5), ("code", .int 1)]])])]

private def crowdedFolder : Folder := ⟨[("set.json", crowded.write .oneLine)]⟩

private def crowdedLibrary : Library Label :=
  { name := "Set", version := "1.0.0",
    slots := [{ id := 5, code := "b" }, { id := 3, code := "a" }, { id := 5, code := .other (.int 1) }] }

private def tunedSlot : Slot :=
  { id := 3, code := "s($x)", playing := true,
    parameters := ⟨[.create "x" 0.5 .unit (.index 2)], by decide⟩ }

/-- A file that gives one id twice, the second time to a slot whose code is no text, and neither in
order. -/
theorem saved_among_repeated : ∃ written found,
    saveSlot { path := "set.json" } tunedSlot.stored "T" crowdedFolder = (.ok (), written) ∧
      load { path := "set.json" } written = .ok found ∧
        crowdedLibrary.Updates tunedSlot.stored found := by
  let store : Store := { path := "set.json" }
  have led : crowdedFolder.locate store.path = .ok (.file "set.json") := by decide +kernel
  have ledBeside : crowdedFolder.locate (store.path ++ ".tmp") = .ok (.file "set.json.tmp") := by
    decide +kernel
  have text : crowdedFolder.read store.path = .ok (crowded.write .oneLine) := by decide +kernel
  have document : Json.read (crowded.write .oneLine) = .ok crowded := by
    apply (Json.read_ofList _).trans
    decide +kernel
  have loaded : store.load crowdedFolder = .ok crowdedLibrary := by
    rw [load, Library.load, text]
    exact decode_of_read document
  have storable : tunedSlot.Storable := by
    apply Slot.storable_of_texts rfl rfl (.inl rfl)
    intro p there
    cases List.mem_singleton.1 there
    exact Parameter.storable_create _ _ _ (Knob.canonical_ofIndex? (some 2))
      (Label.canonical_text _)
  have legible : crowdedLibrary.Legible [tunedSlot.stored] (· = "T") := by
    refine ⟨?_, List.forall_mem_singleton.2 tunedSlot.readable_stored⟩
    intro draft there timestamp now
    cases List.mem_singleton.1 there
    cases now
    apply (Json.read_ofList _).trans
    decide +kernel
  have named : store.name.isVoid = false := rfl
  exact (keyed_saveSlot led ledBeside named rfl rfl).2.1 crowdedLibrary tunedSlot.stored "T"
    loaded storable.stored legible

end Store

end Library

end PatternDeck
