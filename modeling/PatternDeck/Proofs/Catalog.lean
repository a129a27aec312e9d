import Mathlib.Logic.Function.Iterate
import PatternDeck.Catalog.Builtin
import PatternDeck.Proofs.Outcome
import PatternDeck.Proofs.Program.Resolving
import PatternDeck.Proofs.Tuning

/-!
Adding from the catalog, and adding again. The catalog takes every entry whose fragment has a `$`
and the entry's name behind it; a placeholder is a whole identifier. The two agree where the name is
an identifier and no letter, digit or underscore follows it in the fragment. An entry that only the
catalog's test lets through makes no placeholder of its name, unless the end of the code helps, so
its fragment is put after the code again by every further call.
-/
namespace PatternDeck

namespace Program

variable {code fragment name : String}

/-- A placeholder is an identifier behind a mark that ends where no character of identifiers
follows. -/
theorem mem_detect_iff_split :
    name ∈ detect code ↔
      IsName name.toList ∧ ∃ front back, code.toList = front ++ '$' :: (name.toList ++ back) ∧
        back.takeWhile isNamePart = [] := by
  rw [mem_detect_iff]
  constructor
  · rintro ⟨t, ⟨front, split⟩, some, named⟩
    refine ⟨named ▸ isName_nameAt some, front, behind t, ?_, takeWhile_behind some⟩
    rw [named, nameAt_append_behind, split]
  · rintro ⟨isName, front, back, split, ends⟩
    have named := nameAt_append isName ends
    exact ⟨name.toList ++ back, ⟨front, split.symm⟩, named.symm ▸ isName.1, named.symm⟩

/-- The end of a code and the head of the text behind it make a placeholder together. -/
def Completes (code fragment name : String) : Prop :=
  ∃ part, '$' :: part <:+ code.toList ∧ nameAt (part ++ fragment.toList) ≠ [] ∧
    name.toList = nameAt (part ++ fragment.toList)

/-- No code in front of a text hides a placeholder of it: a mark is part of no identifier. -/
theorem mem_detect_append_right (code : String) (there : name ∈ detect fragment) :
    name ∈ detect (code ++ fragment) := by
  obtain ⟨t, mark, named⟩ := mem_detect_iff.1 there
  refine mem_detect_iff.2 ⟨t, mark.trans ?_, named⟩
  rw [String.toList_append]
  exact List.suffix_append _ _

/-- Every placeholder of two texts together has its mark in one of them. -/
theorem mem_detect_append_iff :
    name ∈ detect (code ++ fragment) ↔
      name ∈ detect fragment ∨ Completes code fragment name := by
  constructor
  · intro there
    obtain ⟨t, ⟨front, split⟩, named⟩ := mem_detect_iff.1 there
    rw [String.toList_append] at split
    -- the seam comes behind the mark, at it or before it
    rcases List.append_eq_append_iff.1 split with
      ⟨part, inCode, rest⟩ | ⟨part, -, inFragment⟩
    · rcases part with _ | ⟨mark, part⟩
      · exact .inl (mem_detect_iff.2 ⟨t, ⟨[], rest⟩, named⟩)
      · rw [List.cons_append, List.cons.injEq] at rest
        obtain ⟨rfl, rfl⟩ := rest
        exact .inr ⟨part, ⟨front, inCode.symm⟩, named⟩
    · exact .inl (mem_detect_iff.2 ⟨t, ⟨part, inFragment.symm⟩, named⟩)
  · rintro (there | ⟨part, ⟨front, split⟩, named⟩)
    · exact mem_detect_append_right code there
    · refine mem_detect_iff.2 ⟨part ++ fragment.toList, ⟨front, ?_⟩, named⟩
      rw [String.toList_append, ← split, List.append_assoc, List.cons_append]

@[simp] theorem detect_empty : detect "" = [] := rfl

@[simp] theorem not_completes_empty : ¬Completes "" fragment name := by
  rintro ⟨part, mark, -⟩
  cases List.eq_nil_of_suffix_nil mark

end Program

namespace Catalog

variable {catalog after : Catalog} {entry : Entry} {entries : List Entry}

theorem entries_of_add (added : catalog.add entry = .ok after) :
    after.entries = catalog.entries ++ [entry] := by
  unfold add at added
  split at added
  · cases added
  · split at added
    · cases added
      rfl
    · cases added

theorem entries_of_foldlM (added : entries.foldlM add catalog = .ok after) :
    after.entries = catalog.entries ++ entries := by
  induction entries generalizing catalog with
  | nil =>
    cases added
    simp
  | cons entry rest ih =>
    rw [List.foldlM_cons] at added
    obtain ⟨next, first, others⟩ := bind_eq_ok_iff.1 added
    rw [ih others, entries_of_add first, List.append_assoc, List.singleton_append]

theorem entries_of_ofEntries (accepted : ofEntries entries = .ok catalog) :
    catalog.entries = entries := by
  rw [entries_of_foldlM accepted]
  rfl

theorem find?_of_mem (listed : entry ∈ catalog.entries) :
    catalog.find? entry.name = some entry := by
  obtain ⟨other, found⟩ : ∃ other, catalog.find? entry.name = some other := by
    rw [← Option.isSome_iff_exists, find?, List.find?_isSome]
    exact ⟨entry, listed, by simp⟩
  rw [found, List.inj_on_of_nodup_map catalog.distinct (mem_of_find? found) listed
    (name_of_find? found)]

/-- The test of the catalog asks for the name behind a mark, whatever follows. -/
theorem isUsable_iff : entry.isUsable ↔ '$' :: entry.name.toList <:+: entry.fragment.toList :=
  Text.occursIn_iff_infix

/-- The catalog takes every entry that marks its own name. -/
theorem isUsable_of_mem_detect (marks : entry.name ∈ Program.detect entry.fragment) :
    entry.isUsable := by
  obtain ⟨-, front, back, split, -⟩ := Program.mem_detect_iff_split.1 marks
  exact isUsable_iff.2 ⟨front, back, by rw [split]; simp⟩

theorem fragment_ne_empty (usable : entry.isUsable) : entry.fragment ≠ "" := by
  intro empty
  have mark := isUsable_iff.1 usable
  rw [empty] at mark
  cases List.eq_nil_of_infix_nil mark

/-- All that the catalog has from the start is marked as it should be. -/
theorem mem_detect_of_mem_builtin :
    ∀ entry ∈ builtinEntries, entry.name ∈ Program.detect entry.fragment := by
  decide +kernel

end Catalog

/-- The code after a call for an entry: the fragment stands behind a code that lacks the
placeholder. -/
def Catalog.Entry.extend (entry : Catalog.Entry) (code : String) : String :=
  if entry.name ∈ Program.detect code then code else code ++ entry.fragment

namespace Slot

variable {slot after : Slot} {now : Float} {name : String} {outcome : Except Failure Parameter}
variable {touched : List Int} {catalog : Catalog} {entry : Catalog.Entry} {knob : Option Int}
variable {p : Parameter}

theorem Tunes.code_eq {change : Except Failure (Parameters → Parameters)}
    (tunes : slot.Tunes now name change outcome after touched) : after.code = slot.code := by
  cases tunes <;> rfl

theorem Tunes.seen {change : Except Failure (Parameters → Parameters)}
    (tunes : slot.Tunes now name change (.ok p) after touched) :
    after.parameters.get? name = some p := by
  cases tunes with
  | tuned _ _ seen => exact seen

theorem Binds.code_eq (binds : slot.Binds now name knob outcome after touched) :
    after.code = slot.code := by
  cases binds with
  | unbound => rfl
  | bound _ tunes => exact tunes.code_eq

theorem Binds.seen (binds : slot.Binds now name knob (.ok p) after touched) :
    after.parameters.get? name = some p := by
  cases binds with
  | unbound _ seen => exact seen
  | bound _ tunes => exact tunes.seen

/-- The code is extended by a call that fails, too. -/
theorem Adds.code_eq (listed : catalog.find? name = some entry)
    (adds : slot.Adds now name catalog knob outcome after touched) :
    after.code = entry.extend slot.code := by
  unfold Catalog.Entry.extend
  cases adds with
  | unlisted missing =>
    rw [listed] at missing
    cases missing
  | used found used binds =>
    obtain rfl := Option.some.inj (listed.symm.trans found)
    rw [if_pos used, binds.code_eq]
    rfl
  | unseeded found unused =>
    obtain rfl := Option.some.inj (listed.symm.trans found)
    rw [if_neg unused]
  | appended found unused _ binds =>
    obtain rfl := Option.some.inj (listed.symm.trans found)
    rw [if_neg unused, binds.code_eq]

theorem Adds.seen (listed : catalog.find? name = some entry)
    (adds : slot.Adds now name catalog knob (.ok p) after touched) :
    after.parameters.get? entry.name = some p := by
  cases adds with
  | used found _ binds | appended found _ _ binds =>
    obtain rfl := Option.some.inj (listed.symm.trans found)
    exact binds.seen

/-- A parameter of the entry's name that is there already makes a call without a knob return. -/
theorem Adds.ok_of_known (listed : catalog.find? name = some entry)
    (known : entry.name ∈ slot.parameters.names)
    (adds : slot.Adds now name catalog none outcome after touched) : ∃ p, outcome = .ok p := by
  cases adds with
  | unlisted missing =>
    rw [listed] at missing
    cases missing
  | unseeded found _ refusal =>
    obtain rfl := Option.some.inj (listed.symm.trans found)
    rw [Slot.seeded, if_pos known] at refusal
    cases refusal
  | used _ _ binds | appended _ _ _ binds =>
    cases binds with
    | unbound => exact ⟨_, rfl⟩
    | bound given => cases given

end Slot

namespace Catalog

theorem Entry.extend_of_mem {entry : Entry} {code : String}
    (used : entry.name ∈ Program.detect code) : entry.extend code = code := if_pos used

theorem Entry.extend_of_notMem {entry : Entry} {code : String}
    (unused : entry.name ∉ Program.detect code) : entry.extend code = code ++ entry.fragment :=
  if_neg unused

/-- What makes the placeholder of an extended code: the code, the fragment, or the two together. -/
theorem Entry.mem_detect_extend_iff {entry : Entry} {code : String} :
    entry.name ∈ Program.detect (entry.extend code) ↔
      entry.name ∈ Program.detect code ∨ entry.name ∈ Program.detect entry.fragment ∨
        Program.Completes code entry.fragment entry.name := by
  by_cases used : entry.name ∈ Program.detect code
  · simp only [entry.extend_of_mem used, used, true_or]
  · simp only [entry.extend_of_notMem used, used, false_or, Program.mem_detect_append_iff]

theorem Entry.extend_eq_self_iff {entry : Entry} {code : String} (usable : entry.isUsable) :
    entry.extend code = code ↔ entry.name ∈ Program.detect code := by
  refine ⟨fun same => ?_, extend_of_mem⟩
  by_contra unused
  rw [extend_of_notMem unused] at same
  exact fragment_ne_empty usable (by simpa using same)

end Catalog

namespace Binding

variable {catalog : Catalog} {id : Int} {name : String} {knob : Option Int} {now : Float}
variable {draft next : Draft} {entry : Catalog.Entry}

/-- Further calls for a name, each at its time and for its knob, whatever comes of them. -/
def readded (catalog : Catalog) (id : Int) (name : String) :
    List (Float × Option Int) → Draft → Draft
  | [], draft => draft
  | (now, knob) :: calls, draft =>
    readded catalog id name calls (perform (addFromCatalog catalog now id name knob) draft).2

theorem adds_of_found {slot : Slot} (found : draft.bank.find? id = some slot) (catalog : Catalog)
    (now : Float) (name : String) (knob : Option Int) :
    ∃ after noted,
      (perform (addFromCatalog catalog now id name knob) draft).2.bank.find? id = some after ∧
        slot.Adds now name catalog knob
          (perform (addFromCatalog catalog now id name knob) draft).1 after noted := by
  obtain rfl := Bank.id_of_find? found
  have present : slot.id ∈ draft.bank.ids := Bank.isSome_find?.1 (found ▸ rfl)
  obtain ⟨outcome, after, noted, ended, adds⟩ :=
    perform_addFromCatalog present draft.touched now name catalog knob
  rw [Draft.of_eq found] at ended
  refine ⟨after, noted, ?_, ended ▸ adds⟩
  rw [ended, ← adds.id_eq]
  exact Bank.find?_put_self (adds.id_eq ▸ present)

theorem adds_of_perform {outcome : Except Failure Parameter} {slot : Slot}
    (found : draft.bank.find? id = some slot)
    (performed : perform (addFromCatalog catalog now id name knob) draft = (outcome, next)) :
    ∃ after noted, next.bank.find? id = some after ∧
      slot.Adds now name catalog knob outcome after noted := by
  have added := adds_of_found found catalog now name knob
  rwa [performed] at added

theorem found_of_perform {p : Parameter}
    (performed : perform (addFromCatalog catalog now id name knob) draft = (.ok p, next)) :
    ∃ slot, draft.bank.find? id = some slot := by
  cases found : draft.bank.find? id with
  | some slot => exact ⟨slot, rfl⟩
  | none =>
    -- without the slot the call fails, and so it does without the entry
    have missing := Bank.get_of_notMem (Bank.find?_eq_none_iff.1 found)
    unfold addFromCatalog at performed
    cases listed : catalog.get name with
    | error failure =>
      simp only [listed, perform_throw] at performed
      cases performed
    | ok entry =>
      simp only [listed, perform_bind, Edit.slot, perform_get, missing, perform_throw] at performed
      cases performed

/-- Each further call extends the code once more. -/
theorem code_readded {slot : Slot} (listed : catalog.find? name = some entry)
    (found : draft.bank.find? id = some slot) (calls : List (Float × Option Int)) :
    ∃ later, (readded catalog id name calls draft).bank.find? id = some later ∧
      later.code = entry.extend^[calls.length] slot.code := by
  induction calls generalizing draft slot with
  | nil => exact ⟨slot, found, rfl⟩
  | cons call calls ih =>
    obtain ⟨now, knob⟩ := call
    obtain ⟨after, _, there, adds⟩ := adds_of_found found catalog now name knob
    obtain ⟨later, last, code⟩ := ih there
    refine ⟨later, last, ?_⟩
    rw [code, adds.code_eq listed, List.length_cons, Function.iterate_succ_apply]

/-- The code stays as it is under all further calls just if it has the placeholder. -/
theorem readded_fixes_iff {slot : Slot} (listed : catalog.find? name = some entry)
    (found : draft.bank.find? id = some slot) :
    (∀ calls, ∃ later, (readded catalog id name calls draft).bank.find? id = some later ∧
      later.code = slot.code) ↔ entry.name ∈ Program.detect slot.code := by
  have usable := catalog.usable entry (Catalog.mem_of_find? listed)
  rw [← Catalog.Entry.extend_eq_self_iff usable]
  constructor
  · intro fixed
    obtain ⟨later, there, same⟩ := fixed [(0, none)]
    obtain ⟨other, here, extended⟩ := code_readded listed found [(0, none)]
    obtain rfl := Option.some.inj (there.symm.trans here)
    exact extended.symm.trans same
  · intro fixed calls
    obtain ⟨later, there, extended⟩ := code_readded listed found calls
    exact ⟨later, there, extended.trans (Function.iterate_fixed fixed _)⟩

/-- A call that finds no code, and a parameter that was left there. -/
theorem exists_call_on_empty (catalog : Catalog) (entry : Catalog.Entry)
    (listed : catalog.find? entry.name = some entry) :
    ∃ draft p next after,
      perform (addFromCatalog catalog 0 0 entry.name none) draft = (.ok p, next) ∧
        next.bank.find? 0 = some after ∧ after.code = entry.extend "" := by
  -- a parameter that is there is taken as it is, so bounds that make no range do not matter
  let slot : Slot :=
    { id := 0, code := "", parameters := Parameters.empty.add (.fresh entry.name) }
  have distinct : ([slot].map (·.id)).Nodup := List.nodup_singleton _
  have onGrid : ∀ other ∈ [slot], 0 ≤ other.id ∧ other.id < slotCount := by
    simp [slot, slotCount]
  obtain ⟨bank, loaded⟩ := Bank.exists_ofSlots distinct onGrid "" ""
  let draft : Draft := ⟨bank, []⟩
  have found : draft.bank.find? 0 = some slot :=
    Bank.find?_eq_some_iff.2 ⟨(Bank.perm_of_ofSlots loaded).mem_iff.2 (by simp), rfl⟩
  obtain ⟨after, noted, there, adds⟩ := adds_of_found found catalog 0 entry.name none
  have known : entry.name ∈ slot.parameters.names :=
    (Parameters.mem_names_add _ _ _).2 (.inr rfl)
  obtain ⟨p, returned⟩ := adds.ok_of_known listed known
  exact ⟨_, p, _, after, Prod.ext returned rfl, there, adds.code_eq listed⟩

/-- Adding an entry makes it controllable, once, exactly if the entry's name is a placeholder of its
fragment. Every call that returns gives the slot's parameter of the name, and changes the code to
the extended one; what may be missing in it is the placeholder, and then further calls go on
extending it. -/
theorem controllable_iff {entries : List Catalog.Entry}
    (accepted : Catalog.ofEntries entries = .ok catalog) (member : entry ∈ entries) :
    (∀ now id knob draft p next,
      perform (addFromCatalog catalog now id entry.name knob) draft = (.ok p, next) →
        ∃ before after, draft.bank.find? id = some before ∧ next.bank.find? id = some after ∧
          after.parameters.get? entry.name = some p ∧ after.code = entry.extend before.code ∧
          (entry.name ∈ Program.detect after.code ↔
            entry.name ∈ Program.detect before.code ∨
              entry.name ∈ Program.detect entry.fragment ∨
                Program.Completes before.code entry.fragment entry.name) ∧
          ((∀ calls, ∃ later,
              (readded catalog id entry.name calls next).bank.find? id = some later ∧
                later.code = after.code) ↔
            entry.name ∈ Program.detect after.code)) ∧
    ((∀ now id knob draft p next after,
        perform (addFromCatalog catalog now id entry.name knob) draft = (.ok p, next) →
          next.bank.find? id = some after → entry.name ∈ Program.detect after.code) ↔
      entry.name ∈ Program.detect entry.fragment) := by
  have listed : catalog.find? entry.name = some entry :=
    Catalog.find?_of_mem (Catalog.entries_of_ofEntries accepted ▸ member)
  constructor
  · intro now id knob draft p next performed
    obtain ⟨before, found⟩ := found_of_perform performed
    obtain ⟨after, noted, there, adds⟩ := adds_of_perform found performed
    have code := adds.code_eq listed
    refine ⟨before, after, found, there, adds.seen listed, code, ?_,
      readded_fixes_iff listed there⟩
    rw [code, Catalog.Entry.mem_detect_extend_iff]
  · constructor
    · intro always
      obtain ⟨draft, p, next, after, performed, there, code⟩ :=
        exists_call_on_empty catalog entry listed
      -- an empty code helps no fragment
      have detected := always 0 0 none draft p next after performed there
      rw [code, Catalog.Entry.mem_detect_extend_iff] at detected
      simpa using detected
    · intro marks now id knob draft p next after performed there
      obtain ⟨before, found⟩ := found_of_perform performed
      obtain ⟨other, noted, here, adds⟩ := adds_of_perform found performed
      obtain rfl := Option.some.inj (there.symm.trans here)
      rw [adds.code_eq listed, Catalog.Entry.mem_detect_extend_iff]
      exact .inr (.inl marks)

/-- The name stands in the fragment, but the identifier goes on behind it. -/
def longName : Catalog.Entry :=
  ⟨"speed", "Speed", "Time", 0.1, 4, 1, "Speed up pattern playback", ".fast($speedX)"⟩

def wholeName : Catalog.Entry :=
  ⟨"room", "Reverb Level", "Reverb", 0, 1, 0.3, "Reverb wet signal level", ".room($room)"⟩

/-- The catalog takes both entries; only one of them becomes controllable. -/
theorem placeholder_of_longName_missing :
    ∃ catalog, Catalog.ofEntries [longName, wholeName] = .ok catalog ∧
      (¬∀ now id knob draft p next after,
        perform (addFromCatalog catalog now id "speed" knob) draft = (.ok p, next) →
          next.bank.find? id = some after → "speed" ∈ Program.detect after.code) ∧
      ∀ now id knob draft p next after,
        perform (addFromCatalog catalog now id "room" knob) draft = (.ok p, next) →
          next.bank.find? id = some after → "room" ∈ Program.detect after.code := by
  have unmarked : longName.name ∉ Program.detect longName.fragment := by decide +kernel
  have marked : wholeName.name ∈ Program.detect wholeName.fragment := by decide +kernel
  obtain ⟨catalog, accepted⟩ :
      ∃ catalog, Catalog.ofEntries [longName, wholeName] = .ok catalog := ⟨_, rfl⟩
  exact ⟨catalog, accepted,
    fun always => unmarked ((controllable_iff accepted (by simp)).2.1 always),
    (controllable_iff accepted (by simp)).2.2 marked⟩

/-- Two calls, and no placeholder of the name yet. -/
example : longName.extend^[2] "a" = "a.fast($speedX).fast($speedX)" := by decide +kernel

end Binding

end PatternDeck
