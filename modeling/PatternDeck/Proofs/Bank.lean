import Mathlib.Data.List.Nodup
import PatternDeck.Proofs.Outcome
import PatternDeck.Proofs.Parameters

/-!
Looking slots up in a bank. Every change of a bank maps its slots in place, so a look-up after a
change is the look-up before it, changed; what is said of one slot holds of the bank.
-/
namespace PatternDeck.Bank

theorem nodup_ids {Text : Type} [Naming Text] (bank : Bank Text) : bank.ids.Nodup :=
  bank.ordered.imp fun before => Int.ne_of_lt before

/-- No two slots have one id, so the slot found is the only one with it. -/
theorem find?_eq_some_iff {bank : Bank} {id : Int} {slot : Slot} :
    bank.find? id = some slot ↔ slot ∈ bank.slots ∧ slot.id = id := by
  constructor
  · intro found
    exact ⟨List.mem_of_find?_eq_some found, by simpa using List.find?_some found⟩
  · rintro ⟨member, rfl⟩
    -- some slot of that id is found, and ids are distinct
    obtain ⟨other, found⟩ : ∃ other, bank.find? slot.id = some other := by
      rw [← Option.isSome_iff_exists, find?, List.find?_isSome]
      exact ⟨slot, member, by simp⟩
    have there : other ∈ bank.slots := List.mem_of_find?_eq_some found
    have same : other.id = slot.id := by simpa using List.find?_some found
    rw [found, List.inj_on_of_nodup_map bank.nodup_ids there member same]

theorem find?_eq_none_iff {bank : Bank} {id : Int} : bank.find? id = none ↔ id ∉ bank.ids := by
  simp [find?, ids]

theorem isSome_find? {bank : Bank} {id : Int} : (bank.find? id).isSome ↔ id ∈ bank.ids := by
  rw [← not_iff_not, ← find?_eq_none_iff]
  simp

theorem id_of_find? {bank : Bank} {id : Int} {slot : Slot} (found : bank.find? id = some slot) :
    slot.id = id := (find?_eq_some_iff.1 found).2

theorem get_of_find? {bank : Bank} {id : Int} {slot : Slot} (found : bank.find? id = some slot) :
    bank.get id = .ok slot := by
  simp [get, found]

theorem get_of_notMem {bank : Bank} {id : Int} (missing : id ∉ bank.ids) :
    bank.get id = .error (.slotMissing id) := by
  simp [get, find?_eq_none_iff.2 missing]

@[simp] theorem ids_map (bank : Bank) (change : Slot → Slot) : (bank.map change).ids = bank.ids := by
  simp [ids, map, Function.comp_def]

@[simp] theorem ids_modify (bank : Bank) (id : Int) (change : Slot → Slot) :
    (bank.modify id change).ids = bank.ids := ids_map bank _

theorem find?_map (bank : Bank) (change : Slot → Slot) (id : Int) :
    (bank.map change).find? id =
      (bank.find? id).map fun slot => { change slot with id := slot.id } := by
  simp only [find?, map, List.find?_map]
  rfl

theorem find?_modify_self {bank : Bank} {id : Int} {slot : Slot}
    (found : bank.find? id = some slot) (change : Slot → Slot) :
    (bank.modify id change).find? id = some { change slot with id := id } := by
  rw [modify, find?_map, found, Option.map_some, if_pos (id_of_find? found), id_of_find? found]

theorem find?_modify_ne (bank : Bank) {id other : Int} (differs : other ≠ id)
    (change : Slot → Slot) : (bank.modify id change).find? other = bank.find? other := by
  rw [modify, find?_map]
  -- the change passes over a slot of another id
  cases found : bank.find? other with
  | none => rfl
  | some slot =>
    rw [Option.map_some, if_neg fun same => differs (id_of_find? found ▸ same)]

section Put

/-- The bank with a slot in the place of the one that has its id. -/
def put (bank : Bank) (slot : Slot) : Bank := bank.modify slot.id fun _ => slot

variable {bank : Bank} {slot : Slot}

theorem find?_put_self (present : slot.id ∈ bank.ids) :
    (bank.put slot).find? slot.id = some slot := by
  obtain ⟨old, found⟩ := Option.isSome_iff_exists.1 (isSome_find?.2 present)
  exact find?_modify_self found _

theorem find?_put_ne (bank : Bank) (slot : Slot) {other : Int} (differs : other ≠ slot.id) :
    (bank.put slot).find? other = bank.find? other :=
  find?_modify_ne bank differs _

/-- A change of the slot of one id is a change of the slot found. -/
theorem modify_eq_put {id : Int} (found : bank.find? id = some slot) (change : Slot → Slot) :
    bank.modify id change = bank.put { change slot with id := slot.id } := by
  obtain rfl := id_of_find? found
  simp only [put, modify, map, mk.injEq, and_self, and_true]
  apply List.map_congr_left
  intro other member
  by_cases same : other.id = slot.id
  · have again := find?_eq_some_iff.2 ⟨member, same⟩
    rw [found] at again
    cases again
    simp only [if_true]
  · simp only [same, if_false]

theorem put_eq_self (found : bank.find? slot.id = some slot) : bank.put slot = bank := by
  rw [← modify_eq_put found fun slot => slot]
  simp [modify, map]

theorem put_put {other : Slot} (same : other.id = slot.id) :
    (bank.put slot).put other = bank.put other := by
  simp only [put, modify, map, List.map_map, mk.injEq, and_self, and_true]
  apply List.map_congr_left
  intro first _
  by_cases own : first.id = slot.id
  · simp [own, same]
  · simp [own, same]

end Put

section View

variable {Seen : Type} (look : Slot → Seen)

/-- What is seen of the slot of an id. -/
def view (bank : Bank) (id : Int) : Option Seen := (bank.find? id).map look

theorem view_of_find? {bank : Bank} {id : Int} {slot : Slot} (found : bank.find? id = some slot) :
    bank.view look id = some (look slot) := by
  rw [view, found, Option.map_some]

theorem isSome_view {bank : Bank} {id : Int} : (bank.view look id).isSome ↔ id ∈ bank.ids := by
  rw [view, Option.isSome_map, isSome_find?]

variable {look}

/-- A change of slots that shows as a change of what is seen. -/
theorem view_map_eq (bank : Bank) {change : Slot → Slot} (shown : Seen → Seen)
    (shows : ∀ slot, look { change slot with id := slot.id } = shown (look slot)) (id : Int) :
    (bank.map change).view look id = (bank.view look id).map shown := by
  rw [view, view, find?_map, Option.map_map, Option.map_map]
  exact congrArg (Option.map · (bank.find? id)) (funext shows)

theorem view_modify_eq (bank : Bank) (id : Int) {change : Slot → Slot} {shown : Seen → Seen}
    (shows : ∀ slot, look { change slot with id := slot.id } = shown (look slot)) (other : Int) :
    (bank.modify id change).view look other =
      if other = id then (bank.view look other).map shown else bank.view look other := by
  rw [view, view]
  split
  next same =>
    subst same
    cases found : bank.find? other with
    | none =>
      have missing : other ∉ (bank.modify other change).ids := by
        simpa using find?_eq_none_iff.1 found
      rw [find?_eq_none_iff.2 missing]
      rfl
    | some slot =>
      obtain rfl := id_of_find? found
      rw [find?_modify_self found, Option.map_some, Option.map_some, Option.map_some, shows]
  next differs => rw [find?_modify_ne bank differs]

theorem view_map (bank : Bank) {change : Slot → Slot}
    (same : ∀ slot, look { change slot with id := slot.id } = look slot) :
    (bank.map change).view look = bank.view look := by
  -- a change in which nothing shows is the change that does nothing
  funext id
  rw [view_map_eq bank (fun seen => seen) same, Option.map_id']

theorem view_modify (bank : Bank) (id : Int) {change : Slot → Slot}
    (same : ∀ slot, look { change slot with id := slot.id } = look slot) :
    (bank.modify id change).view look = bank.view look := by
  apply view_map
  intro slot
  split
  · exact same slot
  · rfl

theorem view_modify_ne (bank : Bank) {id other : Int} (differs : other ≠ id)
    (change : Slot → Slot) : (bank.modify id change).view look other = bank.view look other := by
  rw [view, view, find?_modify_ne bank differs]

end View

section Filling

variable {Text : Type} [Naming Text]

/-- Slots are taken into a bank one by one, each to its place. -/
theorem perm_insertOrdered (slot : Slot Text) (slots : List (Slot Text)) :
    (insertOrdered slot slots).Perm (slot :: slots) := by
  induction slots with
  | nil => exact .refl _
  | cons first rest ih =>
    rw [insertOrdered]
    split
    · exact .refl _
    · exact (ih.cons first).trans (.swap slot first rest)

theorem perm_of_insert {bank after : Bank Text} {slot : Slot Text} (taken : bank.insert slot = .ok after) :
    after.slots.Perm (slot :: bank.slots) := by
  unfold insert at taken
  split at taken
  · split at taken
    · cases taken
    · cases taken
      exact perm_insertOrdered slot bank.slots
  · cases taken

theorem perm_of_foldlM_insert {slots : List (Slot Text)} {bank after : Bank Text}
    (taken : slots.foldlM insert bank = .ok after) : after.slots.Perm (slots ++ bank.slots) := by
  -- induction on the slots that are still to be taken, over the bank taken so far
  induction slots generalizing bank with
  | nil =>
    cases taken
    exact .refl _
  | cons slot rest ih =>
    rw [List.foldlM_cons] at taken
    obtain ⟨middle, inserted, others⟩ := bind_eq_ok_iff.1 taken
    have later : after.slots.Perm (rest ++ middle.slots) := ih others
    have moved : (rest ++ middle.slots).Perm (rest ++ slot :: bank.slots) :=
      (perm_of_insert inserted).append_left rest
    exact (later.trans moved).trans List.perm_middle

/-- A bank of slots holds them and no others. -/
theorem perm_of_ofSlots {slots : List (Slot Text)} {name version : Label} {bank : Bank Text}
    (taken : ofSlots slots name version = .ok bank) : bank.slots.Perm slots := by
  simpa [empty] using perm_of_foldlM_insert taken

end Filling

theorem exists_foldlM_insert {slots : List Slot} {bank : Bank} (distinct : (slots.map (·.id)).Nodup)
    (fresh : ∀ slot ∈ slots, slot.id ∉ bank.ids)
    (onGrid : ∀ slot ∈ slots, 0 ≤ slot.id ∧ slot.id < slotCount) :
    ∃ after, slots.foldlM insert bank = .ok after := by
  induction slots generalizing bank with
  | nil => exact ⟨bank, rfl⟩
  | cons slot rest ih =>
    obtain ⟨free, others⟩ := List.forall_mem_cons.1 fresh
    obtain ⟨place, places⟩ := List.forall_mem_cons.1 onGrid
    rw [List.map_cons, List.nodup_cons] at distinct
    obtain ⟨middle, inserted⟩ : ∃ middle, bank.insert slot = .ok middle := by
      rw [insert, dif_pos place, dif_neg free]
      exact ⟨_, rfl⟩
    -- the places of the slots still to come are not the one just taken
    have left : ∀ other ∈ rest, other.id ∉ middle.ids := by
      intro other there taken
      have ids : other.id = slot.id ∨ other.id ∈ bank.ids :=
        List.mem_cons.1 (((perm_of_insert inserted).map (·.id)).mem_iff.1 taken)
      rcases ids with same | before
      · exact distinct.1 (same ▸ List.mem_map_of_mem there)
      · exact others other there before
    obtain ⟨after, taken⟩ := ih distinct.2 left places
    rw [List.foldlM_cons, inserted]
    exact ⟨after, taken⟩

/-- Slots on the grid, each at a place of its own, make a bank. -/
theorem exists_ofSlots {slots : List Slot} (distinct : (slots.map (·.id)).Nodup)
    (onGrid : ∀ slot ∈ slots, 0 ≤ slot.id ∧ slot.id < slotCount) (name version : Label) :
    ∃ bank, ofSlots slots name version = .ok bank :=
  exists_foldlM_insert distinct (by simp [empty, ids]) onGrid

section Fits

variable {slots : List Slot} {name version : Label} {failure : Failure}

/-- Slots on the grid, each at a place of its own. -/
structure Fits (slots : List Slot) : Prop where
  distinct : (slots.map (·.id)).Nodup
  onGrid : ∀ slot ∈ slots, 0 ≤ slot.id ∧ slot.id < slotCount

/-- The failure names the first slot that has no place of its own. -/
inductive Misfits (slots : List Slot) : Failure → Prop where
  | outside {front back : List Slot} {slot : Slot} (split : slots = front ++ slot :: back)
      (fits : Fits front) (outside : ¬(0 ≤ slot.id ∧ slot.id < slotCount)) :
      Misfits slots (.slotOutOfGrid slot.id)
  | twice {front back : List Slot} {slot : Slot} (split : slots = front ++ slot :: back)
      (fits : Fits front) (onGrid : 0 ≤ slot.id ∧ slot.id < slotCount)
      (taken : slot.id ∈ front.map (·.id)) :
      Misfits slots (.slotTwice slot.id)

theorem Misfits.kind (misfits : Misfits slots failure) : failure.kind = .value := by
  cases misfits <;> rfl

theorem Misfits.not_fits (misfits : Misfits slots failure) : ¬Fits slots := by
  rintro ⟨distinct, onGrid⟩
  cases misfits with
  | outside split _ outside => exact outside (onGrid _ (by simp [split]))
  | @twice front back slot split _ _ taken =>
    rw [split, List.map_append, List.nodup_append] at distinct
    exact distinct.2.2 slot.id taken slot.id (by simp) rfl

theorem fits_of_ofSlots {bank : Bank} (opened : ofSlots slots name version = .ok bank) :
    Fits slots := by
  have same := perm_of_ofSlots opened
  refine ⟨(same.map Slot.id).nodup_iff.1 bank.nodup_ids, fun slot member => ?_⟩
  exact bank.onGrid slot.id (List.mem_map_of_mem (same.mem_iff.2 member))

theorem insert_eq_error {bank : Bank} {slot : Slot} (refused : bank.insert slot = .error failure) :
    ¬(0 ≤ slot.id ∧ slot.id < slotCount) ∧ failure = .slotOutOfGrid slot.id ∨
      (0 ≤ slot.id ∧ slot.id < slotCount) ∧ slot.id ∈ bank.ids ∧
        failure = .slotTwice slot.id := by
  unfold insert at refused
  split at refused
  next place =>
    split at refused
    next taken =>
      cases refused
      exact .inr ⟨place, taken, rfl⟩
    next => cases refused
  next outside =>
    cases refused
    exact .inl ⟨outside, rfl⟩

/-- A list that is refused is refused at one slot, those in front of which were taken. -/
theorem foldlM_insert_eq_error {bank : Bank} (refused : slots.foldlM insert bank = .error failure) :
    ∃ front slot back middle, slots = front ++ slot :: back ∧
      front.foldlM insert bank = .ok middle ∧ middle.insert slot = .error failure := by
  induction slots generalizing bank with
  | nil => cases refused
  | cons first rest ih =>
    rw [List.foldlM_cons] at refused
    cases inserted : bank.insert first with
    | error other =>
      rw [inserted] at refused
      cases refused
      exact ⟨[], first, rest, bank, rfl, rfl, inserted⟩
    | ok next =>
      rw [inserted] at refused
      obtain ⟨front, slot, back, middle, split, taken, failed⟩ := ih refused
      refine ⟨first :: front, slot, back, middle, by rw [split, List.cons_append], ?_, failed⟩
      rw [List.foldlM_cons, inserted]
      exact taken

theorem misfits_of_ofSlots (refused : ofSlots slots name version = .error failure) :
    Misfits slots failure := by
  obtain ⟨front, slot, back, middle, split, taken, failed⟩ := foldlM_insert_eq_error refused
  have taken : ofSlots front name version = .ok middle := taken
  rcases insert_eq_error failed with ⟨outside, rfl⟩ | ⟨place, there, rfl⟩
  · exact .outside split (fits_of_ofSlots taken) outside
  · refine .twice split (fits_of_ofSlots taken) place ?_
    exact ((perm_of_ofSlots taken).map (·.id)).mem_iff.1 there

theorem labels_of_insert {bank after : Bank} {slot : Slot} (taken : bank.insert slot = .ok after) :
    (after.name, after.version) = (bank.name, bank.version) := by
  unfold insert at taken
  split at taken
  · split at taken
    · cases taken
    · cases taken
      rfl
  · cases taken

theorem labels_of_foldlM_insert {bank after : Bank} (taken : slots.foldlM insert bank = .ok after) :
    (after.name, after.version) = (bank.name, bank.version) := by
  induction slots generalizing bank with
  | nil =>
    cases taken
    rfl
  | cons slot rest ih =>
    rw [List.foldlM_cons] at taken
    obtain ⟨middle, inserted, others⟩ := bind_eq_ok_iff.1 taken
    exact (ih others).trans (labels_of_insert inserted)

end Fits

end PatternDeck.Bank
