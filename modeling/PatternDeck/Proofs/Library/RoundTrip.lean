import Mathlib.Data.List.Induction
import PatternDeck.Proofs.Json.Equality
import PatternDeck.Proofs.Library.Storable
import PatternDeck.Proofs.Outcome

/-!
Libraries there and back. A record that is read yields the parts that it was written of, and the
parameters are made again out of theirs; what was read once is therefore read the same from its own
record.
-/
namespace PatternDeck

namespace Parameters

variable {Text : Type} [Naming Text] {ps : Parameters Text} {p q : Parameter Text}
variable {items : List (Parameter Text)}

theorem eq_of_toList_eq {ps qs : Parameters Text} (same : ps.toList = qs.toList) : ps = qs := by
  cases ps
  cases qs
  cases same
  rfl

theorem map_eq_self {change : Parameter Text → Parameter Text}
    (same : ∀ p ∈ ps.toList, change p = p) : ps.map change = ps := by
  apply eq_of_toList_eq
  have each : ∀ p ∈ ps.toList, { change p with name := p.name } = id p := by
    intro p there
    rw [same p there]
    rfl
  calc (ps.map change).toList = ps.toList.map id := List.map_congr_left each
    _ = ps.toList := List.map_id _

theorem putIn_of_free (free : ∀ q ∈ items, Naming.key q.name ≠ Naming.key p.name) :
    putIn p items = items ++ [p] := by
  induction items with
  | nil => rfl
  | cons first rest ih =>
    obtain ⟨differs, others⟩ := List.forall_mem_cons.1 free
    rw [putIn, if_neg differs, ih others, List.cons_append]

theorem toList_foldl_put (apart : (items.map fun p => Naming.key p.name).Nodup)
    (free : ∀ p ∈ items, ∀ q ∈ ps.toList, Naming.key q.name ≠ Naming.key p.name) :
    (items.foldl put ps).toList = ps.toList ++ items := by
  induction items generalizing ps with
  | nil => simp
  | cons p rest ih =>
    obtain ⟨fresh, others⟩ := List.forall_mem_cons.1 free
    rw [List.map_cons, List.nodup_cons] at apart
    have grown : (ps.put p).toList = ps.toList ++ [p] := putIn_of_free fresh
    rw [List.foldl_cons, ih apart.2, grown, List.append_assoc, List.singleton_append]
    -- a later name is not among those that were there, nor the one just put in
    intro q there r taken
    rw [grown, List.mem_append, List.mem_singleton] at taken
    rcases taken with before | rfl
    · exact others q there r before
    · exact fun same => apart.1 (same ▸ List.mem_map_of_mem there)

/-- Parameters with distinct names are put in one after the other. -/
theorem ofList_toList (ps : Parameters Text) : ofList ps.toList = ps := by
  apply eq_of_toList_eq
  exact toList_foldl_put ps.distinct (by simp [empty])

theorem mem_putIn_iff (apart : (items.map fun p => Naming.key p.name).Nodup) :
    q ∈ putIn p items ↔ q = p ∨ q ∈ items ∧ Naming.key q.name ≠ Naming.key p.name := by
  induction items with
  | nil => simp [putIn]
  | cons first rest ih =>
    rw [List.map_cons, List.nodup_cons] at apart
    by_cases same : Naming.key first.name = Naming.key p.name
    · rw [putIn, if_pos same, List.mem_cons, List.mem_cons]
      refine or_congr_right ⟨fun there => ⟨.inr there, fun own => apart.1 ?_⟩, ?_⟩
      · exact same.trans own.symm ▸ List.mem_map_of_mem there
      · rintro ⟨rfl | there, differs⟩
        · exact absurd same differs
        · exact there
    · rw [putIn, if_neg same, List.mem_cons, List.mem_cons, ih apart.2]
      constructor
      · rintro (rfl | rfl | ⟨there, differs⟩)
        · exact .inr ⟨.inl rfl, same⟩
        · exact .inl rfl
        · exact .inr ⟨.inr there, differs⟩
      · rintro (rfl | ⟨rfl | there, differs⟩)
        · exact .inr (.inl rfl)
        · exact .inl rfl
        · exact .inr (.inr ⟨there, differs⟩)

/-- Of the parameters with one name the last one stays. -/
theorem mem_toList_ofList_iff :
    p ∈ (ofList items).toList ↔
      ∃ front back, items = front ++ p :: back ∧
        ∀ q ∈ back, Naming.key q.name ≠ Naming.key p.name := by
  -- the last put comes first
  induction items using List.reverseRecOn with
  | nil => simp [ofList, empty]
  | append_singleton items q ih =>
    rw [ofList, List.foldl_append, List.foldl_cons, List.foldl_nil, ← ofList, put,
      mem_putIn_iff (ofList items).distinct, ih]
    constructor
    · rintro (rfl | ⟨⟨front, back, rfl, last⟩, differs⟩)
      · exact ⟨items, [], rfl, by simp⟩
      · refine ⟨front, back ++ [q], by simp, List.forall_mem_append.2 ⟨last, ?_⟩⟩
        exact List.forall_mem_singleton.2 differs.symm
    · rintro ⟨front, back, split, last⟩
      rcases split_of_concat split with ⟨-, rfl, -⟩ | ⟨before, rfl, rfl⟩
      · exact .inl rfl
      · obtain ⟨later, differs⟩ := List.forall_mem_append.1 last
        exact .inr ⟨⟨front, before, rfl, later⟩, (List.forall_mem_singleton.1 differs).symm⟩

theorem mem_of_mem_ofList (there : p ∈ (ofList items).toList) : p ∈ items := by
  obtain ⟨front, back, rfl, -⟩ := mem_toList_ofList_iff.1 there
  simp

end Parameters

/-! ### What comes back -/

section Back

variable {Text : Type} [Naming Text]

structure Parameter.Reloads (p loaded : Parameter Text) : Prop where
  name : loaded.name = p.name
  value : Number.Same loaded.value p.value
  range : loaded.range = p.range
  knob : loaded.knob = p.knob
  label : loaded.label = p.label

structure Slot.Reloads (slot loaded : Slot Text) : Prop where
  id : loaded.id = slot.id
  code : loaded.code = slot.code
  name : loaded.name = slot.name
  category : loaded.category = slot.category
  color : loaded.color = slot.color
  modified : loaded.modified = slot.modified
  parameters : List.Forall₂ Parameter.Reloads slot.parameters.toList loaded.parameters.toList
  stopped : loaded.playing = false

structure Library.Reloads (library loaded : Library Text) : Prop where
  name : loaded.name = library.name
  version : loaded.version = library.version
  slots : List.Forall₂ Slot.Reloads library.slots loaded.slots

theorem Range.of?_bounds (range : Range) : of? range.lo range.hi = some range :=
  dif_neg range.proper

theorem Parameter.Storable.reloads {p : Parameter Text} (storable : p.Storable) :
    p.Reloads p.remade where
  name := rfl
  value := storable.established.value_remade
  range := rfl
  knob := rfl
  label := storable.established.label_remade

/-- What a label is read as that may be missing. -/
def Label.reread (label : Label) : Label := if label.isVoid then "" else .ofJson label.toJson

theorem Label.isVoid_reread (label : Label) : label.reread.isVoid = label.isVoid := by
  unfold reread
  split_ifs with void
  · exact void.symm
  · rw [isVoid, toJson_ofJson, isVoid]

/-- The parameter as its record is read, whatever it holds. -/
def Parameter.reread (p : Parameter Text) : Parameter Text :=
  .create p.name p.value p.range (.ofJson p.knob.toJson) p.label.reread

/-- It makes no difference which void label a parameter is made with. -/
theorem Parameter.Storable.reread_eq {p : Parameter Text} (storable : p.Storable) :
    p.reread = p.remade := by
  have knob : Knob.ofJson p.knob.toJson = p.knob := storable.knob
  have label : Label.ofJson p.label.toJson = p.label := storable.label
  have void : (Label.text "").isVoid = true := rfl
  simp only [reread, remade, create, Label.reread, knob, label]
  split_ifs <;> simp_all

namespace Slot

variable {slot : Slot Text}

/-- The slot as its record is read. -/
def reread (slot : Slot Text) : Slot Text :=
  { slot with
    name := .ofJson slot.name.toJson, category := slot.category.reread, playing := false
    parameters := slot.parameters.map Parameter.reread, modified := .ofJson slot.modified.toJson }

/-- The slot as a file gives it back. -/
def reloaded (slot : Slot Text) : Slot Text :=
  { slot with playing := false, parameters := slot.parameters.map Parameter.remade }

theorem Storable.reread_eq (storable : slot.Storable) : slot.reread = slot.reloaded := by
  have name : Label.ofJson slot.name.toJson = slot.name := storable.name
  have modified : Moment.ofJson slot.modified.toJson = slot.modified := storable.modified
  have category : slot.category.reread = slot.category := by
    unfold Label.reread
    split_ifs with void
    · exact (storable.uncategorized void).symm
    · exact storable.category
  have parameters : slot.parameters.map Parameter.reread =
      slot.parameters.map Parameter.remade := by
    apply Parameters.eq_of_toList_eq
    apply List.map_congr_left
    intro p there
    rw [(storable.parameters p there).reread_eq]
  simp only [reread, reloaded, name, modified, category, parameters]

theorem toList_reloaded (slot : Slot Text) :
    slot.reloaded.parameters.toList = slot.parameters.toList.map Parameter.remade := rfl

theorem Storable.reloads (storable : slot.Storable) : slot.Reloads slot.reloaded where
  id := rfl
  code := rfl
  name := rfl
  category := rfl
  color := rfl
  modified := rfl
  parameters := by
    rw [toList_reloaded, List.forall₂_map_right_iff, List.forall₂_same]
    exact fun p there => (storable.parameters p there).reloads
  stopped := rfl

end Slot

end Back

theorem Json.read_ofList (s : List Char) :
    read (String.ofList s) =
      match value (s.length + 1) depthLimit (skipSpace s) with
      | .ok (found, rest) => if (skipSpace rest).isEmpty then .ok found else .error .malformed
      | .error fault => .error fault := by
  unfold read
  generalize chars : (String.ofList s).toList = t
  obtain rfl : s = t := String.toList_ofList.symm.trans chars
  rfl

namespace Library

section Back

variable {Text : Type} [Naming Text]

/-- The library as its file gives it back. -/
def reloaded (library : Library Text) : Library Text :=
  { library with slots := library.slots.map Slot.reloaded }

/-- The library as its document is read. -/
def reread (library : Library Text) : Library Text :=
  { name := .ofJson library.name.toJson, version := .ofJson library.version.toJson
    slots := library.slots.map Slot.reread }

end Back

theorem Storable.reread_eq {library : Library Label} (storable : library.Storable) :
    library.reread = library.reloaded := by
  have name : Label.ofJson library.name.toJson = library.name := storable.name
  have version : Label.ofJson library.version.toJson = library.version := storable.version
  have slots : library.slots.map Slot.reread = library.slots.map Slot.reloaded :=
    List.map_congr_left fun slot there => (storable.slots slot there).reread_eq
  simp only [reread, reloaded, name, version, slots]

theorem Storable.reloads {library : Library Label} (storable : library.Storable) :
    library.Reloads library.reloaded where
  name := rfl
  version := rfl
  slots := by
    rw [reloaded, List.forall₂_map_right_iff, List.forall₂_same]
    exact fun slot there => (storable.slots slot there).reloads

/-! ### Reading what was written -/

@[simp] theorem float_float (x : Float) : float (.float x) = .ok x := rfl

@[simp] theorem int_int (n : Int) : int (.int n) = .ok n := rfl

theorem labelOf_eq {record : List (String × Json)} {key : String} (label : Label)
    (found : Json.field? record key = some label.toJson) : labelOf record key = label.reread := by
  simp only [labelOf, found]
  rfl

theorem parameterOf_parameterRecord {p : Parameter Label} (readable : p.Readable) :
    parameterOf (parameterRecord p) = .ok p.reread := by
  have name : Label.ofJson p.name.toJson = p.name := readable.name
  have named : canName p.name p.label.reread := by
    rw [canName, Label.isVoid_reread]
    exact readable.named
  simp only [parameterRecord, parameterOf]
  rw [labelOf_eq p.label rfl]
  simp [required, Json.field?, Range.of?_bounds, name, named, pure, Except.pure, Parameter.reread]

theorem parametersOf_records {ps : Parameters Label} (readable : ∀ p ∈ ps.toList, p.Readable) :
    parametersOf (.arr (ps.toList.map parameterRecord)) = .ok (ps.map Parameter.reread) := by
  have read : (ps.toList.map parameterRecord).mapM parameterOf =
      .ok (ps.map Parameter.reread).toList :=
    mapM_map_eq_ok fun p there => parameterOf_parameterRecord (readable p there)
  unfold parametersOf
  split_ifs with void
  -- an empty list is void, so its items are not looked at
  · have nothing : ps.toList = [] := by simpa [Json.isVoid] using void
    have none : ps.map Parameter.reread = .empty := by
      apply Parameters.eq_of_toList_eq
      simp [Parameters.map, nothing, Parameters.empty]
    rw [none]
  · simp only [read, Except.map, Parameters.ofList_toList]

theorem slotOf_slotRecord {slot : Slot Label} (readable : slot.Readable) :
    slotOf (slotRecord slot) = .ok slot.reread := by
  have code : Label.ofJson slot.code.toJson = slot.code := readable.code
  have read := parametersOf_records readable.parameters
  simp only [slotRecord, slotOf]
  rw [labelOf_eq slot.category rfl]
  simp [required, Json.field?, read, code, pure, Except.pure, Slot.reread]

/-- What a library that has a name is read as from its document. -/
theorem ofDocument_of_named {library : Library Label} (named : library.name.isVoid = false)
    (readable : library.Readable) (timestamp : String) :
    ofDocument (library.toDocument timestamp) = .ok library.reread := by
  have read : (library.slots.map slotRecord).mapM slotOf = .ok (library.slots.map Slot.reread) :=
    mapM_map_eq_ok fun slot there => slotOf_slotRecord (readable slot there)
  have named : library.name.toJson.isVoid = false := named
  simp [ofDocument, toDocument, Json.get?, Json.field?, read, named, reread]

theorem ofDocument_toDocument {library : Library Label} (storable : library.Storable)
    (timestamp : String) : ofDocument (library.toDocument timestamp) = .ok library.reloaded := by
  rw [ofDocument_of_named storable.named storable.readable, storable.reread_eq]

theorem decode_of_read {text : String} {document : Json} (read : Json.read text = .ok document) :
    decode text = ofDocument document := by
  rw [decode, read]

theorem decode_eq_ok_iff {text : String} {library : Library Label} :
    decode text = .ok library ↔
      ∃ document, Json.read text = .ok document ∧ ofDocument document = .ok library := by
  rcases read : Json.read text with fault | document
  · cases fault <;> simp [decode, read]
  · simp [decode, read]

/-! ### Writing what was read -/

theorem canonical_labelOf (record : List (String × Json)) (key : String) :
    (labelOf record key).Canonical := by
  unfold labelOf
  split
  next value _ =>
    split
    · exact Label.canonical_text ""
    · exact Label.canonical_ofJson value
  next => exact Label.canonical_text ""

theorem canonical_map_getD (value : Option Json) (missing : String) :
    ((value.map Label.ofJson).getD missing).Canonical := by
  cases value with
  | none => exact Label.canonical_text missing
  | some value => exact Label.canonical_ofJson value

theorem labelOf_of_isVoid {record : List (String × Json)} {key : String}
    (void : (labelOf record key).isVoid) : labelOf record key = "" := by
  unfold labelOf at void ⊢
  split at void
  next value _ =>
    split_ifs at void ⊢ with empty
    · rfl
    · rw [Label.isVoid, Label.toJson_ofJson] at void
      exact absurd void empty
  next => rfl

/-- A parameter that can be made can be made again. -/
theorem canName_create {name label : Label} (named : canName name label) :
    canName name (if label.isVoid then Naming.label name else label) := by
  simp only [canName, Bool.and_eq_true, Bool.or_eq_true, Bool.not_eq_true'] at named ⊢
  split_ifs with void
  · exact ⟨named.1, .inr (named.2.resolve_left (by simp [void]))⟩
  · exact named

theorem storable_of_parameterOf {record : Json} {p : Parameter Label}
    (read : parameterOf record = .ok p) : p.Storable ∧ p.Readable ∧ p.remade = p := by
  unfold parameterOf at read
  split at read
  next fields =>
    simp only [bind_eq_ok_iff] at read
    obtain ⟨name, -, -, -, value, -, -, -, lo, -, -, -, hi, -, made⟩ := read
    split at made
    next range _ =>
      split_ifs at made with named
      -- whatever was read of the fields, the parameter was made of it
      cases made
      refine ⟨?_, ⟨Label.canonical_ofJson name, ?_⟩, Parameter.remade_create _ _ _ _ _⟩
      · exact Parameter.storable_create _ _ _ (Knob.canonical_ofJson _)
          (canonical_labelOf _ _)
      · exact canName_create named
    next => cases made
  next => cases read

theorem storable_of_parametersOf {record : Json} {ps : Parameters Label}
    (read : parametersOf record = .ok ps) :
    ∀ p ∈ ps.toList, p.Storable ∧ p.Readable ∧ p.remade = p := by
  unfold parametersOf at read
  split_ifs at read
  · cases read
    simp [Parameters.empty]
  · split at read
    next items _ =>
      intro p there
      cases found : items.mapM parameterOf with
      | error fault => simp [found, Except.map] at read
      | ok made =>
        simp only [found, Except.map, Except.ok.injEq] at read
        obtain ⟨item, -, readItem⟩ :=
          exists_of_mem_mapM found (Parameters.mem_of_mem_ofList (read ▸ there))
        exact storable_of_parameterOf readItem
    next => cases read

theorem storable_of_slotOf {record : Json} {slot : Slot Label} (read : slotOf record = .ok slot) :
    slot.Storable ∧ slot.Readable ∧ slot.reloaded = slot := by
  unfold slotOf at read
  split at read
  next fields =>
    simp only [bind_eq_ok_iff] at read
    obtain ⟨ps, readParameters, -, -, id, -, code, -, color, -, made⟩ := read
    cases made
    have each := storable_of_parametersOf readParameters
    refine ⟨?_, ⟨Label.canonical_ofJson code, fun p there => (each p there).2.1⟩, ?_⟩
    · constructor
      case name => exact canonical_map_getD _ _
      case category => exact canonical_labelOf _ _
      case uncategorized => exact labelOf_of_isVoid
      case modified => exact Moment.canonical_ofJson _
      case parameters => exact fun p there => (each p there).1
    · have same : ps.map Parameter.remade = ps :=
        Parameters.map_eq_self fun p there => (each p there).2.2
      simp only [Slot.reloaded, same]
  next => cases read

theorem storable_of_ofDocument {document : Json} {library : Library Label}
    (read : ofDocument document = .ok library) : library.Storable ∧ library.reloaded = library := by
  unfold ofDocument at read
  split at read
  next fields _ _ =>
    split at read
    next items _ =>
      split_ifs at read with void
      simp only [bind_eq_ok_iff] at read
      obtain ⟨slots, readSlots, made⟩ := read
      cases made
      have each : ∀ slot ∈ slots, slot.Storable ∧ slot.Readable ∧ slot.reloaded = slot := by
        intro slot there
        obtain ⟨item, -, readItem⟩ := exists_of_mem_mapM readSlots there
        exact storable_of_slotOf readItem
      constructor
      · constructor
        case named =>
          rw [Label.isVoid, Label.toJson_ofJson]
          simpa using void
        case name => exact Label.canonical_ofJson _
        case version => exact canonical_map_getD _ _
        case slots => exact fun slot there => (each slot there).1
        case readable => exact fun slot there => (each slot there).2.1
      · have same : slots.map Slot.reloaded = slots := by
          simpa using List.map_congr_left fun slot there => (each slot there).2.2
        simp only [reloaded, same]
    next => cases read
  next => cases read
  next => cases read

theorem storable_of_decode {text : String} {library : Library Label}
    (read : decode text = .ok library) : library.Storable ∧ library.reloaded = library := by
  obtain ⟨document, -, found⟩ := decode_eq_ok_iff.1 read
  exact storable_of_ofDocument found

/-- Encoding a library and decoding its text gives it back, stopped: every slot in its place with
its code, its labels, its color and its time of change, and with its parameters in their order.
What was itself decoded comes back as it is. The text is read as the document that was written
for it. -/
theorem decode_encode (library : Library Label) (timestamp : String)
    (inverse : Json.read ((library.toDocument timestamp).write .indented) =
      .ok (library.toDocument timestamp)) :
    (library.Storable →
      ∃ loaded, decode (library.encode timestamp) = .ok loaded ∧ library.Reloads loaded) ∧
    ∀ text, decode text = .ok library → decode (library.encode timestamp) = .ok library := by
  have decoded (storable : library.Storable) :
      decode (library.encode timestamp) = .ok library.reloaded := by
    rw [encode, decode_of_read inverse, ofDocument_toDocument storable]
  constructor
  · intro storable
    exact ⟨library.reloaded, decoded storable, storable.reloads⟩
  · intro text read
    obtain ⟨storable, same⟩ := storable_of_decode read
    rw [decoded storable, same]

private def endless : Range := ⟨-Literal.infinity, Literal.nan, by decide⟩

private def tuned : Library Label :=
  { name := "Set", version := "",
    slots := [{ id := 3, code := "s($a)", playing := true, modified := .at 2.5,
                parameters := ⟨[.create ("a" : Label) 0.5 endless (.index 2)], by decide⟩ },
              { id := 5, code := .other (.arr [.null]),
                parameters := ⟨[.create (.other (.int 1)) 0 .unit .none "One"], by decide⟩ }] }

private def bare : Library Label :=
  { name := "Bare", version := "1.0.0", slots := [{ id := 3, code := .other (.bool true) }] }

private def sparse : Json :=
  .obj [("version", .str ""), ("library", .obj [("name", .str "Bare"),
    ("slots", .arr [.obj [("id", .int 3), ("code", .bool true)]])])]

/-- A playing slot with a parameter between an infinity and NaN, a slot whose code and whose parameter's
name are no texts, and a library whose text leaves out whatever may be left out. -/
theorem decode_encode_tuned :
    (∃ loaded, decode (tuned.encode "T") = .ok loaded ∧ tuned.Reloads loaded) ∧
      decode (sparse.write .oneLine) = .ok bare ∧ decode (bare.encode "T") = .ok bare := by
  constructor
  · have inverse :
        Json.read ((tuned.toDocument "T").write .indented) = .ok (tuned.toDocument "T") := by
      apply (Json.read_ofList _).trans
      decide +kernel
    apply (decode_encode tuned "T" inverse).1
    apply storable_of_texts (by decide)
    · refine List.forall_mem_cons.2 ⟨?_, List.forall_mem_singleton.2 ?_⟩
      · refine Slot.storable_of_texts rfl rfl (.inr ⟨2.5, rfl⟩) (List.forall_mem_singleton.2 ?_)
        exact Parameter.storable_create _ _ _ (Knob.canonical_ofIndex? (some 2)) rfl
      · refine Slot.storable_of_texts rfl rfl (.inl rfl) (List.forall_mem_singleton.2 ?_)
        exact Parameter.storable_create _ _ _ (Knob.canonical_ofIndex? none) rfl
    · refine List.forall_mem_cons.2 ⟨?_, List.forall_mem_singleton.2 ?_⟩
      · exact ⟨rfl, List.forall_mem_singleton.2 ⟨rfl, rfl⟩⟩
      · exact ⟨rfl, List.forall_mem_singleton.2 ⟨rfl, rfl⟩⟩
  · have read : Json.read (sparse.write .oneLine) = .ok sparse := by
      apply (Json.read_ofList _).trans
      decide +kernel
    have decoded : decode (sparse.write .oneLine) = .ok bare := by
      rw [decode_of_read read]
      rfl
    have inverse :
        Json.read ((bare.toDocument "T").write .indented) = .ok (bare.toDocument "T") := by
      apply (Json.read_ofList _).trans
      decide +kernel
    exact ⟨decoded, (decode_encode bare "T" inverse).2 _ decoded⟩

end Library

end PatternDeck
