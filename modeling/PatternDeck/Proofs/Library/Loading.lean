import PatternDeck.Proofs.Bank
import PatternDeck.Proofs.Library.RoundTrip
import PatternDeck.Proofs.Program.Filling

/-!
What a library that loads is sure of. The bank sees to the places of the slots. A parameter is sure of
a value that its clamp leaves alone and of bounds of which the last is not at most the first, and of no
more: bounds that are numbers, a name that a placeholder can have and a knob of its own it has exactly if
its record gives it those.
-/
namespace PatternDeck

/-- The parameter can stand for a placeholder, between bounds that are numbers, and is driven by no knob
or by one that there is. -/
structure Parameter.Sound (p : Parameter Label) : Prop where
  name : ∃ name, p.name = .text name ∧ Program.IsName name.toList
  range : p.range.Open
  value : p.range.Holds p.value
  knob : p.knob = .none ∨ ∃ i, p.knob = .index i ∧ 0 ≤ i ∧ i < knobCount

/-- The parameters are sound, and no two share a knob. -/
structure Slot.Sound (slot : Slot Label) : Prop where
  each : ∀ p ∈ slot.parameters.toList, p.Sound
  apart : ∀ p ∈ slot.parameters.toList, ∀ q ∈ slot.parameters.toList, ∀ i,
    p.knob = .index i → q.knob = .index i → p = q

namespace Library

/-! ### Records that keep the rules -/

/-- The record of a parameter gives it a name that a placeholder can have, numbers for its bounds, and no
knob or one that there is. -/
structure LawfulItem (item : Json) : Prop where
  name : ∃ name, item.get? "name" = some (.str name) ∧ Program.IsName name.toList
  bounds : ∀ key ∈ ["minValue", "maxValue"],
    ∃ value bound, item.get? key = some value ∧ float value = .ok bound ∧ bound.isNaN = false
  knob : (item.get? "assignedKnob").getD .null = .null ∨
    ∃ i, item.get? "assignedKnob" = some (.int i) ∧ 0 ≤ i ∧ i < knobCount

/-- What the parameter of an item goes by. -/
def nameKey (item : Json) : Option Json.Key := (item.get? "name").bind Json.key?

/-- An item that no later one of its name replaces. -/
def Stands (items : List Json) (item : Json) : Prop :=
  ∃ front back, items = front ++ item :: back ∧ ∀ other ∈ back, nameKey other ≠ nameKey item

/-- The items of an array. -/
def listed : Option Json → List Json
  | some (.arr items) => items
  | _ => []

/-- The records of the parameters in the record of a slot. -/
def itemsOf (record : Json) : List Json := listed (record.get? "dynamicParameters")

/-- The record of a slot gives each parameter what is its due, and no knob to two of them. -/
structure Lawful (record : Json) : Prop where
  each : ∀ item, Stands (itemsOf record) item → LawfulItem item
  apart : ∀ item other i, Stands (itemsOf record) item → Stands (itemsOf record) other →
    item.get? "assignedKnob" = some (.int i) → other.get? "assignedKnob" = some (.int i) →
      nameKey item = nameKey other

/-- The records of the slots in a document. -/
def recordsOf (document : Json) : List Json :=
  listed ((document.get? "library").bind (·.get? "slots"))

section Knob

variable {found : Option Json} {i : Int}

theorem ofJson_eq_none_iff {value : Json} : Knob.ofJson value = .none ↔ value = .null := by
  cases value <;> simp [Knob.ofJson]

theorem ofJson_eq_index_iff : Knob.ofJson (found.getD .null) = .index i ↔ found = some (.int i) := by
  rcases found with _ | value
  · simp [Knob.ofJson]
  · cases value <;> simp [Knob.ofJson]

end Knob

/-! ### Parameters from their records -/

/-- What a parameter has of its record. -/
structure Gives (item : Json) (p : Parameter Label) : Prop where
  name : ∃ value, item.get? "name" = some value ∧ p.name = .ofJson value
  lo : ∃ value, item.get? "minValue" = some value ∧ float value = .ok p.range.lo
  hi : ∃ value, item.get? "maxValue" = some value ∧ float value = .ok p.range.hi
  knob : p.knob = .ofJson ((item.get? "assignedKnob").getD .null)
  settled : p.range.clamp p.value = p.value

theorem required_eq_ok_iff {record : List (String × Json)} {key : String} {value : Json} :
    required record key = .ok value ↔ Json.field? record key = some value := by
  unfold required
  split <;> simp_all

theorem ofJson_eq_text_iff {value : Json} {s : String} :
    Label.ofJson value = .text s ↔ value = .str s := by
  cases value <;> simp [Label.ofJson]

theorem gives_of_parameterOf {item : Json} {p : Parameter Label} (read : parameterOf item = .ok p) :
    Gives item p := by
  unfold parameterOf at read
  split at read
  next record =>
    simp only [bind_eq_ok_iff, required_eq_ok_iff] at read
    obtain ⟨name, named, _, _, value, _, lo, loField, _, readLo, hi, hiField, _, readHi, made⟩ := read
    split at made
    next range taken =>
      split_ifs at made
      cases made
      obtain ⟨rfl, rfl⟩ := Range.of?_eq_some taken
      exact ⟨⟨name, named, rfl⟩, ⟨lo, loField, readLo⟩, ⟨hi, hiField, readHi⟩, rfl,
        Range.clamp_clamp range value⟩
    next => cases made
  next => cases read

variable {item record : Json} {p : Parameter Label} {slot : Slot Label}

theorem Gives.key (gives : Gives item p) : nameKey item = Naming.key p.name := by
  obtain ⟨value, named, name⟩ := gives.name
  have key : Naming.key p.name = p.name.toJson.key? := rfl
  rw [key, nameKey, named, Option.bind_some, name, Label.toJson_ofJson]

/-- The value was clamped when the parameter was made. -/
theorem Gives.holds (gives : Gives item p) (ordered : p.range.Open) : p.range.Holds p.value :=
  gives.settled ▸ Range.holds_clamp ordered p.value

/-- The name that a parameter has is the one that its record gives, and so are its bounds and its
knob. -/
theorem Gives.sound_iff (gives : Gives item p) : p.Sound ↔ LawfulItem item := by
  have holds := gives.holds
  obtain ⟨⟨value, named, own⟩, ⟨lo, loField, readLo⟩, ⟨hi, hiField, readHi⟩, knob, -⟩ := gives
  constructor
  · rintro ⟨⟨name, texted, isName⟩, ordered, -, known⟩
    obtain ⟨loNumber, hiNumber⟩ := ordered.numbers
    obtain rfl := ofJson_eq_text_iff.1 (own.symm.trans texted)
    refine ⟨⟨name, named, isName⟩, ?_, ?_⟩
    · simp only [List.forall_mem_cons, List.not_mem_nil, false_implies, implies_true, and_true]
      exact ⟨⟨lo, _, loField, readLo, loNumber⟩, hi, _, hiField, readHi, hiNumber⟩
    · rw [knob] at known
      refine known.imp ofJson_eq_none_iff.1 ?_
      exact fun ⟨i, index, bounds⟩ => ⟨i, ofJson_eq_index_iff.1 index, bounds⟩
  · rintro ⟨⟨name, nameField, isName⟩, bounds, known⟩
    obtain rfl : value = .str name := by simpa [named] using nameField
    have number : ∀ {key : String} {value : Json} {bound : Float}, key ∈ ["minValue", "maxValue"] →
        item.get? key = some value → float value = .ok bound → bound.isNaN = false := by
      intro key value bound member field read
      obtain ⟨value', bound', field', read', isNumber⟩ := bounds key member
      obtain rfl : value' = value := by simpa [field'] using field
      obtain rfl : bound' = bound := by simpa [read'] using read
      exact isNumber
    have ordered : p.range.Open :=
      Range.open_of_numbers (number (by simp) loField readLo) (number (by simp) hiField readHi)
    refine ⟨⟨name, own, isName⟩, ordered, holds ordered, ?_⟩
    rw [knob]
    refine known.imp ofJson_eq_none_iff.2 ?_
    exact fun ⟨i, index, bounds⟩ => ⟨i, ofJson_eq_index_iff.2 index, bounds⟩

theorem forall₂_of_parametersOf {value : Json} {ps : Parameters Label}
    (read : parametersOf value = .ok ps) :
    ∃ made, ps = .ofList made ∧ List.Forall₂ Gives (listed (some value)) made := by
  unfold parametersOf at read
  split_ifs at read with void
  · cases read
    -- an array that is void has no items
    have nothing : listed (some value) = [] := by
      cases value <;> simp_all [listed, Json.isVoid]
    exact ⟨[], rfl, nothing ▸ .nil⟩
  · split at read
    next items =>
      cases found : items.mapM parameterOf with
      | error fault => simp [found, Except.map] at read
      | ok made =>
        simp only [found, Except.map, Except.ok.injEq] at read
        exact ⟨made, read.symm, (forall₂_of_mapM found).imp fun _ _ => gives_of_parameterOf⟩
    next => cases read

theorem listed_getD (value : Option Json) : listed (some (value.getD .null)) = listed value := by
  cases value <;> rfl

theorem exists_of_slotOf (read : slotOf record = .ok slot) :
    ∃ made, slot.parameters = .ofList made ∧ List.Forall₂ Gives (itemsOf record) made := by
  unfold slotOf at read
  split at read
  next fields =>
    simp only [bind_eq_ok_iff] at read
    obtain ⟨ps, readParameters, -, -, id, -, code, -, color, -, made⟩ := read
    cases made
    obtain ⟨items, same, paired⟩ := forall₂_of_parametersOf readParameters
    rw [listed_getD] at paired
    exact ⟨items, same, paired⟩
  next => cases read

theorem exists_stands_of_mem (read : slotOf record = .ok slot) (there : p ∈ slot.parameters.toList) :
    ∃ item, Stands (itemsOf record) item ∧ Gives item p := by
  obtain ⟨made, same, paired⟩ := exists_of_slotOf read
  -- a parameter stays in the slot if no later one has its name, and the same holds of the records
  rw [same, Parameters.mem_toList_ofList_iff] at there
  obtain ⟨front, back, rfl, last⟩ := there
  obtain ⟨front', item, back', split, gives, later⟩ := exists_split_of_forall₂ paired.flip
  refine ⟨item, ⟨front', back', split, fun other member named => ?_⟩, gives⟩
  obtain ⟨q, behind, gives'⟩ := exists_of_forall₂ later member
  rw [gives.key, gives'.key] at named
  exact last q behind named

theorem exists_mem_of_stands (read : slotOf record = .ok slot) (stands : Stands (itemsOf record) item) :
    ∃ p ∈ slot.parameters.toList, Gives item p := by
  obtain ⟨made, same, paired⟩ := exists_of_slotOf read
  obtain ⟨front, back, split, last⟩ := stands
  rw [split] at paired
  obtain ⟨front', p, back', rfl, gives, later⟩ := exists_split_of_forall₂ paired
  refine ⟨p, ?_, gives⟩
  rw [same, Parameters.mem_toList_ofList_iff]
  refine ⟨front', back', rfl, fun q behind named => ?_⟩
  obtain ⟨other, member, gives'⟩ := exists_of_forall₂ later behind
  exact last other member (by rw [gives.key, gives'.key, named])

/-- A slot is sound exactly if its record is lawful. -/
theorem sound_iff_of_slotOf (read : slotOf record = .ok slot) : slot.Sound ↔ Lawful record := by
  -- what one says of two parameters the other says of the items that stand for them
  have knobbed {item : Json} {p : Parameter Label} {i : Int} (gives : Gives item p) :
      p.knob = .index i ↔ item.get? "assignedKnob" = some (.int i) := by
    rw [gives.knob, ofJson_eq_index_iff]
  constructor
  · rintro ⟨each, apart⟩
    constructor
    · intro item stands
      obtain ⟨p, there, gives⟩ := exists_mem_of_stands read stands
      exact gives.sound_iff.1 (each p there)
    · intro item other i stands stands' first second
      obtain ⟨p, there, gives⟩ := exists_mem_of_stands read stands
      obtain ⟨q, there', gives'⟩ := exists_mem_of_stands read stands'
      rw [gives.key, gives'.key,
        apart p there q there' i ((knobbed gives).2 first) ((knobbed gives').2 second)]
  · rintro ⟨each, apart⟩
    constructor
    · intro p there
      obtain ⟨item, stands, gives⟩ := exists_stands_of_mem read there
      exact gives.sound_iff.2 (each item stands)
    · intro p there q there' i first second
      obtain ⟨item, stands, gives⟩ := exists_stands_of_mem read there
      obtain ⟨other, stands', gives'⟩ := exists_stands_of_mem read there'
      have named := apart item other i stands stands'
        ((knobbed gives).1 first) ((knobbed gives').1 second)
      rw [gives.key, gives'.key] at named
      exact Parameters.eq_of_key_eq there there' named

theorem exists_record_of_mem {document : Json} {library : Library Label}
    (read : ofDocument document = .ok library) (there : slot ∈ library.slots) :
    ∃ record ∈ recordsOf document, slotOf record = .ok slot := by
  unfold ofDocument at read
  split at read
  next fields versioned found =>
    split at read
    next items slots =>
      split_ifs at read
      simp only [bind_eq_ok_iff] at read
      obtain ⟨_, readSlots, made⟩ := read
      cases made
      obtain ⟨record, member, readRecord⟩ := exists_of_mem_mapM readSlots there
      refine ⟨record, ?_, readRecord⟩
      rw [recordsOf, found]
      change record ∈ listed (Json.field? fields "slots")
      rwa [slots]
    next => cases read
  next => cases read
  next => cases read

/-- The slots of a library that loads stand at places of their own on the grid. Each comes from a record
of the text, and its values lie between their bounds where these are in order. It is well formed in its
parameters exactly if that record is lawful: a bound that is NaN, a name that no placeholder has, and a
knob that there is not, that is no whole number or that another parameter has too, all load. -/
theorem sound_iff_of_load {text : String} {library : Library Label} {bank loaded : Bank Label}
    {name version : Option Label} (decoded : decode text = .ok library)
    (taken : bank.replaced library.slots name version = .ok loaded) :
    loaded.ids.Nodup ∧ (∀ id ∈ loaded.ids, 0 ≤ id ∧ id < slotCount) ∧
      ∃ document, Json.read text = .ok document ∧
        ∀ slot ∈ loaded.slots, ∃ record ∈ recordsOf document, slotOf record = .ok slot ∧
          (∀ p ∈ slot.parameters.toList, p.range.Open → p.range.Holds p.value) ∧
          (slot.Sound ↔ Lawful record) := by
  refine ⟨loaded.nodup_ids, loaded.onGrid, ?_⟩
  obtain ⟨document, read, found⟩ := decode_eq_ok_iff.1 decoded
  refine ⟨document, read, fun slot there => ?_⟩
  have member : slot ∈ library.slots := (Bank.perm_of_ofSlots taken).mem_iff.1 there
  obtain ⟨record, listed, readRecord⟩ := exists_record_of_mem found member
  refine ⟨record, listed, readRecord, fun p driven ordered => ?_, sound_iff_of_slotOf readRecord⟩
  obtain ⟨item, -, gives⟩ := exists_stands_of_mem readRecord driven
  exact gives.holds ordered

private def drivenItem (knob : Int) : Json :=
  .obj [("name", .str "a"), ("value", .float 0.5), ("minValue", .float 0), ("maxValue", .float 1),
    ("assignedKnob", .int knob)]

private def drivenRecord (id knob : Int) : Json :=
  .obj [("id", .int id), ("code", .str "s($a)"), ("dynamicParameters", .arr [drivenItem knob])]

private theorem lawful_drivenRecord_iff {id knob : Int} :
    Lawful (drivenRecord id knob) ↔ 0 ≤ knob ∧ knob < knobCount := by
  have only {item : Json} : Stands (itemsOf (drivenRecord id knob)) item ↔ item = drivenItem knob := by
    constructor
    · rintro ⟨front, back, split, -⟩
      have member : item ∈ itemsOf (drivenRecord id knob) := by simp [split]
      exact List.mem_singleton.1 member
    · rintro rfl
      exact ⟨[], [], rfl, by simp⟩
  constructor
  · intro lawful
    obtain empty | ⟨i, index, bounds⟩ := (lawful.each _ (only.2 rfl)).knob
    · cases empty
    · cases index
      exact bounds
  · intro bounds
    refine ⟨fun item stands => ?_, fun item other i stands stands' _ _ => ?_⟩
    · obtain rfl := only.1 stands
      refine ⟨⟨"a", rfl, by decide, by decide⟩, ?_, .inr ⟨knob, rfl, bounds⟩⟩
      simp only [List.forall_mem_cons, List.not_mem_nil, false_implies, implies_true, and_true]
      exact ⟨⟨.float 0, 0, rfl, rfl, by decide⟩, .float 1, 1, rfl, rfl, by decide⟩
    · rw [only.1 stands, only.1 stands']

private def twoDriven : Json :=
  .obj [("version", .str "1.0"),
    ("library", .obj [("name", .str "Set"), ("slots", .arr [drivenRecord 3 2, drivenRecord 5 9])])]

private def driven (id knob : Int) : Slot Label :=
  { id, code := "s($a)", parameters := ⟨[.create ("a" : Label) 0.5 .unit (.index knob)], by simp⟩ }

/-- A knob that there is not is taken from a file without a word, beside one that there is. -/
theorem missing_knob_loads : ∃ library loaded,
    decode (twoDriven.write .oneLine) = .ok library ∧
      (Bank.empty "" "").replaced library.slots none none = .ok loaded ∧
      (∃ slot ∈ loaded.slots, slot.id = 3 ∧ slot.Sound) ∧
      ∃ slot ∈ loaded.slots, slot.id = 5 ∧ ¬slot.Sound := by
  have read : Json.read (twoDriven.write .oneLine) = .ok twoDriven := by
    apply (Json.read_ofList _).trans
    decide +kernel
  have decoded : decode (twoDriven.write .oneLine) =
      .ok { name := "Set", version := "1.0.0", slots := [driven 3 2, driven 5 9] } := by
    rw [decode_of_read read]
    rfl
  obtain ⟨loaded, taken⟩ : ∃ loaded,
      (Bank.empty "" "").replaced [driven 3 2, driven 5 9] none none = .ok loaded := ⟨_, rfl⟩
  obtain ⟨-, -, document, read', each⟩ := sound_iff_of_load decoded taken
  obtain rfl : twoDriven = document := by simpa [read] using read'
  have there {slot : Slot Label} (listed : slot ∈ [driven 3 2, driven 5 9]) : slot ∈ loaded.slots :=
    (Bank.perm_of_ofSlots taken).mem_iff.2 listed
  have told : ∀ slot ∈ loaded.slots, slot.id = 3 ∧ slot.Sound ∨ slot.id = 5 ∧ ¬slot.Sound := by
    intro slot member
    obtain ⟨record, listed, readRecord, -, sound⟩ := each slot member
    have records : record ∈ [drivenRecord 3 2, drivenRecord 5 9] := listed
    simp only [List.mem_cons, List.not_mem_nil, or_false] at records
    rcases records with rfl | rfl
    all_goals
      cases readRecord
      rw [lawful_drivenRecord_iff] at sound
    · exact .inl ⟨rfl, sound.2 (by decide)⟩
    · exact .inr ⟨rfl, sound.not.2 (by decide)⟩
  refine ⟨_, loaded, decoded, taken, ?_, ?_⟩
  · have member : driven 3 2 ∈ loaded.slots := there (by simp)
    rcases told _ member with ⟨same, sound⟩ | ⟨other, -⟩
    · exact ⟨_, member, same, sound⟩
    · exact absurd other (by decide)
  · have member : driven 5 9 ∈ loaded.slots := there (by simp)
    rcases told _ member with ⟨other, -⟩ | ⟨same, unsound⟩
    · exact absurd other (by decide)
    · exact ⟨_, member, same, unsound⟩

end Library

end PatternDeck
