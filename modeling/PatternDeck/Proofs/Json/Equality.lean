import PatternDeck.Json.Basic

/-!
Equality of documents, decided: what is read from a text can be compared with what was written.
-/
namespace PatternDeck.Json

mutual

/-- Whether two documents are one. -/
def same : Json → Json → Bool
  | .null, .null => true
  | .bool a, .bool b => a == b
  | .int m, .int n => m == n
  | .float x, .float y => decide (x = y)
  | .str s, .str t => s == t
  | .arr items, .arr others => sameItems items others
  | .obj fields, .obj others => sameFields fields others
  | _, _ => false

def sameItems : List Json → List Json → Bool
  | [], [] => true
  | a :: rest, b :: others => same a b && sameItems rest others
  | _, _ => false

def sameFields : List (String × Json) → List (String × Json) → Bool
  | [], [] => true
  | (k, a) :: rest, (l, b) :: others => k == l && same a b && sameFields rest others
  | _, _ => false

end

mutual

theorem same_iff (a b : Json) : same a b ↔ a = b := by
  cases a
  case arr items => cases b <;> simp [same, sameItems_iff items]
  case obj fields => cases b <;> simp [same, sameFields_iff fields]
  all_goals cases b <;> simp [same]

theorem sameItems_iff (items others : List Json) : sameItems items others ↔ items = others := by
  cases items
  case nil => cases others <;> simp [sameItems]
  case cons a rest => cases others <;> simp [sameItems, same_iff a, sameItems_iff rest]

theorem sameFields_iff (fields others : List (String × Json)) :
    sameFields fields others ↔ fields = others := by
  cases fields
  case nil => cases others <;> simp [sameFields]
  case cons first rest =>
    cases others <;> simp [sameFields, same_iff first.2, sameFields_iff rest, Prod.ext_iff]

end

instance : DecidableEq Json := fun a b => decidable_of_iff _ (same_iff a b)

end PatternDeck.Json
