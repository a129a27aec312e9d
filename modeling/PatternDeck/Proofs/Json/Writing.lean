import PatternDeck.Json.Writer
import PatternDeck.Proofs.Number.Literal
import PatternDeck.Text.Basic

/-!
What documents are written with. No character of a written document is a carriage return, so a file gives
its text back as it was written: the line breaks of a text that is read are unified, and these are so
already.
-/
namespace PatternDeck

theorem ne_return_of_isNumeric {c : Char} (numeric : isNumeric c) : c ≠ '\r' := by
  rintro rfl
  revert numeric
  decide

theorem Numeral.unbroken {s : List Char} (numeral : Numeral s) : '\r' ∉ s :=
  fun there => ne_return_of_isNumeric (numeral.numeric _ there) rfl

theorem Text.unbroken_hex (width n : Nat) : '\r' ∉ hex width n := by
  have digits : ∀ digit < 16, digit.digitChar ≠ '\r' := by decide
  induction width generalizing n with
  | zero => simp [hex]
  | succ width ih =>
    simp only [hex, List.mem_append, List.mem_singleton, not_or]
    exact ⟨ih (n / 16), (digits (n % 16) (Nat.mod_lt n (by decide))).symm⟩

namespace Json

theorem unbroken_unicodeEscape (unit : Nat) : '\r' ∉ unicodeEscape unit := by
  simp [unicodeEscape, Text.unbroken_hex]

/-- A carriage return in a text is written as an escape. -/
theorem unbroken_escaped (c : Char) : '\r' ∉ escaped c := by
  unfold escaped
  split
  -- the characters that have an escape of their own
  any_goals decide
  next other _ _ _ =>
    simp only
    split_ifs with plain
    · simpa using Ne.symm other
    · exact unbroken_unicodeEscape _
    · simp [unbroken_unicodeEscape]

theorem unbroken_stringText (s : String) : '\r' ∉ stringText s := by
  simp [stringText, unbroken_escaped]

theorem unbroken_render (x : Float) : '\r' ∉ (Binary.ofFloat x).render layout := by
  simp only [Binary.ofFloat]
  split_ifs with beyond infinite subnormal
  · cases x.toBits.toNat / twoPow 63 == 1 <;> decide
  · decide
  -- what is finite is laid out as it always is
  · exact (Binary.numeral_render _ _ (Int.le_refl _)).unbroken
  · exact (Binary.numeral_render _ _ (by omega)).unbroken

theorem unbroken_lead (style : Style) (depth : Nat) : '\r' ∉ style.lead depth := by
  cases style <;> simp [Style.lead]

theorem unbroken_intercalate {separator : List Char} {items : List (List Char)}
    (apart : '\r' ∉ separator) (each : ∀ item ∈ items, '\r' ∉ item) :
    '\r' ∉ separator.intercalate items := by
  induction items with
  | nil => simp
  | cons first rest ih =>
    obtain ⟨head, others⟩ := List.forall_mem_cons.1 each
    cases rest with
    | nil => simpa using head
    | cons second rest =>
      rw [List.intercalate_cons_cons]
      simp only [List.mem_append, not_or]
      exact ⟨⟨head, apart⟩, ih others⟩

theorem unbroken_enclosed {style : Style} {depth : Nat} {first last : Char} {items : List (List Char)}
    (opens : first ≠ '\r') (closes : last ≠ '\r') (each : ∀ item ∈ items, '\r' ∉ item) :
    '\r' ∉ enclosed style depth first last items := by
  unfold enclosed
  split_ifs
  · simp [opens.symm, closes.symm]
  all_goals
    simp only [List.cons_append, List.mem_cons, List.mem_append, List.not_mem_nil, or_false, not_or]
    refine ⟨opens.symm, ⟨unbroken_intercalate (by decide) ?_, unbroken_lead style depth⟩, closes.symm⟩
    intro item there
    obtain ⟨text, member, rfl⟩ := List.mem_map.1 there
    simp [unbroken_lead, each text member]

mutual

theorem unbroken_valueText (style : Style) (depth : Nat) (document : Json) :
    '\r' ∉ valueText style depth document := by
  cases document
  case null => simp [valueText]
  case bool b => cases b <;> simp [valueText]
  case int n => exact (numeral_intDigits n).unbroken
  case float x => exact unbroken_render x
  case str s => exact unbroken_stringText s
  case arr items =>
    exact unbroken_enclosed (by decide) (by decide) (unbroken_itemTexts style (depth + 1) items)
  case obj fields =>
    exact unbroken_enclosed (by decide) (by decide) (unbroken_fieldTexts style (depth + 1) fields)

theorem unbroken_itemTexts (style : Style) (depth : Nat) (items : List Json) :
    ∀ text ∈ itemTexts style depth items, '\r' ∉ text := by
  cases items
  case nil => simp [itemTexts]
  case cons item rest =>
    exact List.forall_mem_cons.2
      ⟨unbroken_valueText style depth item, unbroken_itemTexts style depth rest⟩

theorem unbroken_fieldTexts (style : Style) (depth : Nat) (fields : List (String × Json)) :
    ∀ text ∈ fieldTexts style depth fields, '\r' ∉ text := by
  cases fields
  case nil => simp [fieldTexts]
  case cons field rest =>
    refine List.forall_mem_cons.2 ⟨?_, unbroken_fieldTexts style depth rest⟩
    simp [unbroken_stringText, unbroken_valueText style depth field.2]

end

/-- A text that was written has no line breaks to be unified. -/
theorem unifyBreaks_write (style : Style) (document : Json) :
    String.ofList (Text.unifyBreaks (document.write style).toList) = document.write style := by
  rw [write, String.toList_ofList, Text.unifyBreaks_eq_self (unbroken_valueText style 0 document)]

end Json

end PatternDeck
