import Mathlib.Data.List.Basic
import Mathlib.Data.List.Forall2

/-!
Outcomes and lists that are taken apart: a chain that succeeds is one of parts that succeed, and a
traversal that succeeds is one of items that do, each result beside its item.
-/
namespace PatternDeck

variable {ε α β : Type}

theorem bind_eq_ok_iff {first : Except ε α} {next : α → Except ε β} {b : β} :
    (first >>= next) = .ok b ↔ ∃ a, first = .ok a ∧ next a = .ok b := by
  cases first <;> simp [bind, Except.bind]

@[simp] theorem ok_bind (a : α) (next : α → Except ε β) : (Except.ok a >>= next) = next a := rfl

theorem mapM_map_eq_ok {γ : Type} {write : α → γ} {read : γ → Except ε β} {reread : α → β}
    {items : List α} (each : ∀ a ∈ items, read (write a) = .ok (reread a)) :
    (items.map write).mapM read = .ok (items.map reread) := by
  induction items with
  | nil => rfl
  | cons a rest ih =>
    obtain ⟨first, others⟩ := List.forall_mem_cons.1 each
    rw [List.map_cons, List.mapM_cons, first, ih others]
    rfl

theorem forall₂_of_mapM {read : α → Except ε β} {items : List α} {results : List β}
    (all : items.mapM read = .ok results) :
    List.Forall₂ (fun item b => read item = .ok b) items results := by
  induction items generalizing results with
  | nil =>
    cases all
    exact .nil
  | cons a rest ih =>
    simp only [List.mapM_cons, bind_eq_ok_iff] at all
    obtain ⟨first, readFirst, others, readOthers, paired⟩ := all
    cases paired
    exact .cons readFirst (ih readOthers)

/-- A traversal by a reading that undoes a writing undoes the writing of all items. -/
theorem mapM_eq_some_iff {read : β → Option α} {write : α → β}
    (undoes : ∀ b a, read b = some a ↔ b = write a) {items : List β} {results : List α} :
    items.mapM read = some results ↔ items = results.map write := by
  induction items generalizing results with
  | nil => cases results <;> simp
  | cons b rest ih =>
    rw [List.mapM_cons]
    simp only [Option.bind_eq_bind, Option.bind_eq_some_iff, undoes, ih]
    cases results with
    | nil => simp
    | cons a others => simp [eq_comm]

theorem exists_of_forall₂ {R : α → β → Prop} {items : List α} {others : List β}
    (paired : List.Forall₂ R items others) {b : β} (there : b ∈ others) : ∃ a ∈ items, R a b := by
  induction paired with
  | nil => cases there
  | cons first _ ih =>
    rcases List.mem_cons.1 there with rfl | later
    · exact ⟨_, List.mem_cons_self, first⟩
    · obtain ⟨a, member, related⟩ := ih later
      exact ⟨a, List.mem_cons_of_mem _ member, related⟩

/-- What is paired with an item stands where it stands. -/
theorem exists_split_of_forall₂ {R : α → β → Prop} {front back : List α} {a : α} {others : List β}
    (paired : List.Forall₂ R (front ++ a :: back) others) :
    ∃ front' b back', others = front' ++ b :: back' ∧ R a b ∧ List.Forall₂ R back back' := by
  induction front generalizing others with
  | nil =>
    cases paired with
    | cons first rest => exact ⟨[], _, _, rfl, first, rest⟩
  | cons _ front ih =>
    cases paired with
    | @cons _ b _ others first rest =>
      obtain ⟨front', c, back', rfl, here, later⟩ := ih rest
      exact ⟨b :: front', c, back', rfl, here, later⟩

/-- A member of a list with one more item at the end is that item, or stands before it. -/
theorem split_of_concat {items front back : List α} {last a : α}
    (split : items ++ [last] = front ++ a :: back) :
    front = items ∧ a = last ∧ back = [] ∨
      ∃ middle, items = front ++ a :: middle ∧ back = middle ++ [last] := by
  rcases List.eq_nil_or_concat' back with rfl | ⟨middle, b, rfl⟩
  · obtain ⟨rfl, same⟩ := List.append_inj' split rfl
    exact .inl ⟨rfl, (List.singleton_inj.1 same).symm, rfl⟩
  · rw [← List.cons_append, ← List.append_assoc] at split
    obtain ⟨rfl, same⟩ := List.append_inj' split rfl
    exact .inr ⟨middle, rfl, by rw [List.singleton_inj.1 same]⟩

theorem exists_of_mem_mapM {read : α → Except ε β} {items : List α} {results : List β}
    (all : items.mapM read = .ok results) {b : β} (there : b ∈ results) :
    ∃ a ∈ items, read a = .ok b :=
  exists_of_forall₂ (forall₂_of_mapM all) there

end PatternDeck
