import Mathlib.Tactic.SplitIfs
import PatternDeck.Library.Record
import PatternDeck.Proofs.Parameter.WellFormed

/-!
What a library file holds without loss. A parameter that was made can be made again out of its own
parts with nothing changed: the clamp leaves a clamped value alone whatever the bounds are, NaN and
the infinities among them, and a value that lies in the range it leaves alone but for the sign of a
zero.
-/
namespace PatternDeck

namespace Range

theorem clamp_clamp (range : Range) (value : Float) :
    range.clamp (range.clamp value) = range.clamp value := by
  simp only [clamp, PatternDeck.clamp, greater, lesser]
  split_ifs <;> simp_all

/-- No value inside is moved. -/
theorem same_clamp {range : Range} {value : Float} (held : range.Holds value) :
    Number.Same (range.clamp value) value := by
  obtain ⟨above, below⟩ := held
  have ordered : range.lo < range.hi :=
    Number.lt_of_not_le (Number.isNaN_of_le above).1 (Number.isNaN_of_le below).2 range.proper
  simp only [clamp, PatternDeck.clamp, greater, lesser]
  by_cases less : value < range.hi
  -- a value that is not above the first number is at it, and one that is not below the last at that
  · simp only [less, if_true]
    by_cases more : range.lo < value
    · simp only [more, if_true]
      exact .inl rfl
    · simp only [more, if_false]
      exact .inr (Number.beq_of_le_of_not_lt above more)
  · simp only [less, ordered, if_true, if_false]
    exact .inr (Number.beq_comm.1 (Number.beq_of_le_of_not_lt below less))

end Range

/-! ### Values that are carried along -/

/-- A label that reads back as itself. -/
def Label.Canonical (label : Label) : Prop := .ofJson label.toJson = label

def Knob.Canonical (knob : Knob) : Prop := .ofJson knob.toJson = knob

def Moment.Canonical (moment : Moment) : Prop := .ofJson moment.toJson = moment

theorem Label.isVoid_text {s : String} : (text s).isVoid ↔ s = "" := by
  simp [isVoid, toJson, Json.isVoid]

theorem Label.canonical_text (s : String) : (text s).Canonical := rfl

theorem Label.canonical_ofJson (value : Json) : (ofJson value).Canonical := by
  rw [Canonical, toJson_ofJson]

theorem Knob.canonical_ofIndex? (knob : Option Int) : (ofIndex? knob).Canonical := by
  cases knob <;> rfl

theorem Knob.canonical_ofJson (value : Json) : (ofJson value).Canonical := by
  cases value <;> rfl

theorem Moment.canonical_ofJson (value : Json) : (ofJson value).Canonical := by
  cases value <;> rfl

/-! ### Parameters, slots and libraries -/

namespace Parameter

variable {Text : Type} [Naming Text] {p : Parameter Text}

/-- A parameter made out of the parts of another. -/
def remade (p : Parameter Text) : Parameter Text := .create p.name p.value p.range p.knob p.label

/-- What making a parameter establishes. -/
structure Established (p : Parameter Text) : Prop where
  /-- Between bounds of which one is NaN no value lies, but the clamp still settles on one. -/
  value : p.range.Holds p.value ∨ p.range.clamp p.value = p.value
  label : p.label.isVoid → p.label = Naming.label p.name

structure Storable (p : Parameter Text) : Prop where
  established : p.Established
  knob : p.knob.Canonical
  label : p.label.Canonical

theorem remade_create (name : Text) (value : Float) (range : Range) (knob : Knob)
    (label : Label) :
    (create name value range knob label).remade = create name value range knob label := by
  simp only [remade, create, Range.clamp_clamp, mk.injEq, true_and]
  split_ifs <;> rfl

theorem Established.label_remade (made : p.Established) : p.remade.label = p.label := by
  simp only [remade, create]
  split_ifs with void
  · exact (made.label void).symm
  · rfl

theorem Established.value_remade (made : p.Established) :
    Number.Same p.remade.value p.value := by
  rcases made.value with held | settled
  · exact Range.same_clamp held
  · exact .inl settled

/-- A parameter that is made again as it is was made. -/
theorem established_of_remade (same : p.remade = p) : p.Established where
  value := .inr (congrArg value same)
  label void := by
    have kept : p.remade.label = p.label := congrArg label same
    rw [remade, create, if_pos void] at kept
    exact kept.symm

theorem established_create (name : Text) (value : Float) (range : Range) (knob : Knob)
    (label : Label) : (create name value range knob label).Established :=
  established_of_remade (remade_create name value range knob label)

theorem storable_create (name : Text) (value : Float) (range : Range) {knob : Knob} {label : Label}
    (knobKept : knob.Canonical) (labelKept : label.Canonical) :
    (create name value range knob label).Storable where
  established := established_create name value range knob label
  knob := knobKept
  label := by
    simp only [create]
    split_ifs
    · exact Label.canonical_text _
    · exact labelKept

end Parameter

/-- Nothing of the slot is lost in a file. The parameters are told apart by their names already. -/
structure Slot.Storable {Text : Type} [Naming Text] (slot : Slot Text) : Prop where
  name : slot.name.Canonical
  category : slot.category.Canonical
  uncategorized : slot.category.isVoid → slot.category = ""
  modified : slot.modified.Canonical
  parameters : ∀ p ∈ slot.parameters.toList, p.Storable

/-- A parameter of which a file can tell by what name it goes. -/
structure Parameter.Readable (p : Parameter Label) : Prop where
  name : p.name.Canonical
  named : Library.canName p.name p.label

/-- The slot can be read from its record. -/
structure Slot.Readable (slot : Slot Label) : Prop where
  code : slot.code.Canonical
  parameters : ∀ p ∈ slot.parameters.toList, p.Readable

/-- Every slot can be read from its record. -/
def Library.Readable (library : Library Label) : Prop := ∀ slot ∈ library.slots, slot.Readable

structure Library.Storable (library : Library Label) : Prop where
  named : library.name.isVoid = false
  name : library.name.Canonical
  version : library.version.Canonical
  slots : ∀ slot ∈ library.slots, slot.Storable
  readable : library.Readable

/-! ### Texts -/

theorem Parameter.readable_stored (p : Parameter) : p.stored.Readable where
  name := Label.canonical_text p.name
  named := by simp [stored, Library.canName, Label.toJson, Json.key?, Label.text?]

/-- What can be played can be read from its record. -/
theorem Slot.readable_stored (slot : Slot) : slot.stored.Readable where
  code := Label.canonical_text slot.code
  parameters p there := by
    obtain ⟨q, -, rfl⟩ := List.mem_map.1 there
    exact q.readable_stored

theorem Parameter.storable_stored_iff {p : Parameter} : p.stored.Storable ↔ p.Storable := by
  constructor
  all_goals
    rintro ⟨⟨value, named⟩, knob, label⟩
    exact ⟨⟨value, named⟩, knob, label⟩

theorem Slot.Storable.stored {slot : Slot} (storable : slot.Storable) : slot.stored.Storable where
  name := storable.name
  category := storable.category
  uncategorized := storable.uncategorized
  modified := storable.modified
  parameters p there := by
    obtain ⟨q, member, rfl⟩ := List.mem_map.1 there
    exact Parameter.storable_stored_iff.2 (storable.parameters q member)

section Texts

/-- A slot that came from no file has texts for its labels. -/
theorem Slot.storable_of_texts {Text : Type} [Naming Text] {slot : Slot Text}
    {name category : String} (named : slot.name = name) (categorized : slot.category = category)
    (modified : slot.modified = .never ∨ ∃ seconds, slot.modified = .at seconds)
    (parameters : ∀ p ∈ slot.parameters.toList, p.Storable) : slot.Storable where
  name := named ▸ Label.canonical_text name
  category := categorized ▸ Label.canonical_text category
  uncategorized void := by
    rw [categorized] at void ⊢
    rw [Label.isVoid_text.1 void]
  modified := by
    rcases modified with never | ⟨seconds, changed⟩
    · rw [never]
      rfl
    · rw [changed]
      rfl
  parameters := parameters

theorem Library.storable_of_texts {name : String} (named : name ≠ "") (version : String)
    {slots : List (Slot Label)} (each : ∀ slot ∈ slots, slot.Storable)
    (readable : ∀ slot ∈ slots, slot.Readable) : Library.Storable { name, version, slots } where
  named := by
    rw [Bool.eq_false_iff]
    exact fun void => named (Label.isVoid_text.1 void)
  name := Label.canonical_text name
  version := Label.canonical_text version
  slots := each
  readable := readable

end Texts

end PatternDeck
