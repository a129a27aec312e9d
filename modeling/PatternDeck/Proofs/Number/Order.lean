import PatternDeck.Parameter.Range

/-!
The order of doubles. A comparison of two doubles is one of their bits, taken apart into sign,
exponent and mantissa; it has no answer when one of them is NaN, and otherwise the order is total.
-/
namespace PatternDeck.Number

open Float.Model Float.Model.UnpackedFloat

theorem compare_swap (a b : UnpackedFloat) :
    UnpackedFloat.compare b a = (UnpackedFloat.compare a b).map Ordering.swap := by
  rcases a with (_ | _) | _ | (_ | _) | ⟨(_ | _), m, e, _⟩ <;>
  rcases b with (_ | _) | _ | (_ | _) | ⟨(_ | _), n, f, _⟩
  all_goals try rfl
  -- two finite numbers of one sign are compared by their exponents and then by their mantissas
  · change some ((compare f e).then (compare n m)).swap =
      some ((compare e f).then (compare m n)).swap.swap
    rw [Ordering.swap_swap, Ordering.swap_then, ← Std.OrientedCmp.eq_swap,
      ← Std.OrientedCmp.eq_swap]
  · change some ((compare f e).then (compare n m)) = some ((compare e f).then (compare m n)).swap
    rw [Ordering.swap_then, ← Std.OrientedCmp.eq_swap, ← Std.OrientedCmp.eq_swap]

theorem isNone_compare (a b : UnpackedFloat) :
    (UnpackedFloat.compare a b).isNone = (a.isNaN || b.isNaN) := by
  rcases a with (_ | _) | _ | (_ | _) | ⟨(_ | _), m, e, _⟩ <;>
  rcases b with (_ | _) | _ | (_ | _) | ⟨(_ | _), n, f, _⟩ <;> rfl

/-- How two doubles compare, if neither is NaN. -/
def order? (x y : Float) : Option Ordering := x.toModel.compare y.toModel

variable {x y : Float}

theorem order?_swap (x y : Float) : order? y x = (order? x y).map .swap :=
  compare_swap _ _

theorem order?_eq_none_iff : order? x y = none ↔ x.isNaN ∨ y.isNaN := by
  rw [← Option.isNone_iff_eq_none, ← Bool.or_eq_true]
  exact Bool.eq_iff_iff.1 (isNone_compare _ _)

theorem lt_iff : x < y ↔ order? x y = some .lt := by
  change decide (x.toModel < y.toModel) = true ↔ _
  rw [decide_eq_true_iff]
  exact beq_iff_eq

theorem le_iff : x ≤ y ↔ ∃ o, order? x y = some o ∧ o.isLE := by
  change decide (x.toModel ≤ y.toModel) = true ↔ _
  rw [decide_eq_true_iff]
  exact Option.any_eq_true _ _

theorem le_of_lt (less : x < y) : x ≤ y :=
  le_iff.2 ⟨_, lt_iff.1 less, rfl⟩

theorem lt_irrefl (x : Float) : ¬x < x := by
  intro less
  have swapped := order?_swap x x
  rw [lt_iff.1 less] at swapped
  cases swapped

/-- Only numbers compare. -/
theorem isNaN_of_le (le : x ≤ y) : x.isNaN = false ∧ y.isNaN = false := by
  obtain ⟨o, compared, -⟩ := le_iff.1 le
  have numbers : ¬(x.isNaN ∨ y.isNaN) := by
    intro nan
    rw [order?_eq_none_iff.2 nan] at compared
    cases compared
  simpa using numbers

theorem le_or_lt (x_number : x.isNaN = false) (y_number : y.isNaN = false) : x ≤ y ∨ y < x := by
  rcases compared : order? x y with _ | _ | _ | _
  · simp_all [order?_eq_none_iff]
  · exact .inl (le_iff.2 ⟨_, compared, rfl⟩)
  · exact .inl (le_iff.2 ⟨_, compared, rfl⟩)
  · refine .inr (lt_iff.2 ?_)
    rw [order?_swap, compared]
    rfl

theorem le_refl (number : x.isNaN = false) : x ≤ x := by
  rcases le_or_lt number number with le | less
  · exact le
  · exact le_of_lt less

theorem le_of_not_lt (x_number : x.isNaN = false) (y_number : y.isNaN = false) (least : ¬y < x) :
    x ≤ y :=
  (le_or_lt x_number y_number).resolve_right least

theorem lt_of_not_le (x_number : x.isNaN = false) (y_number : y.isNaN = false) (least : ¬y ≤ x) :
    x < y :=
  (le_or_lt y_number x_number).resolve_left least

section Equal

theorem beq_iff : x == y ↔ order? x y = some .eq := by
  change (order? x y == some .eq) = true ↔ _
  exact beq_iff_eq

theorem beq_comm : x == y ↔ y == x := by
  rw [beq_iff, beq_iff, order?_swap x y]
  cases order? x y with
  | none => simp
  | some o => cases o <;> simp

theorem beq_of_le_of_not_lt (le : x ≤ y) (least : ¬x < y) : x == y := by
  obtain ⟨o, compared, small⟩ := le_iff.1 le
  cases o with
  | lt => exact absurd (lt_iff.2 compared) least
  | eq => exact beq_iff.2 compared
  | gt => cases small

/-- The same double, or one that compares equal to it, as the two zeros do. -/
def Same (x y : Float) : Prop := x = y ∨ x == y

end Equal

section NaN

theorem unpack_of_isNaN (nan : x.isNaN) : x.toModel.unpack = .notANumber := by
  change x.toModel.unpack.isNaN = true at nan
  cases seen : x.toModel.unpack with
  | notANumber => rfl
  | infinity | zero | finite =>
    rw [seen] at nan
    cases nan

theorem isNaN_sub (nan : y.isNaN) : (x - y).isNaN := by
  have unpacked : UnpackedFloat.sub .binary64 x.toModel.unpack y.toModel.unpack = .notANumber := by
    rw [unpack_of_isNaN nan]
    cases x.toModel.unpack <;> rfl
  change (Float.Model.pack
    (UnpackedFloat.sub .binary64 x.toModel.unpack y.toModel.unpack)).unpack.isNaN = true
  rw [unpacked]
  rfl

theorem isNaN_abs (nan : x.isNaN) : x.abs.isNaN := by
  change (Float.Model.pack (UnpackedFloat.abs x.toModel.unpack)).unpack.isNaN = true
  rw [unpack_of_isNaN nan]
  rfl

end NaN

end PatternDeck.Number
