import PatternDeck.Controller.Gesture
import PatternDeck.Proofs.Number.Literal
import PatternDeck.Proofs.Number.Order
import PatternDeck.Proofs.Outcome

/-!
Bounds that are finite. A turn of a knob ends on a whole number or where the clamp puts it, which
between finite bounds is a finite double, so a turn has an end.
-/
namespace PatternDeck

section Between

open Float.Model

theorem Number.isFinite_of_compare {a b c : UnpackedFloat}
    (above : UnpackedFloat.compare a b = some .lt) (below : UnpackedFloat.compare b c = some .lt) :
    b.isFinite := by
  rcases b with (_ | _) | _ | _ | _
  -- nothing lies beyond an infinity, and nothing compares with NaN
  · rcases a with (_ | _) | _ | (_ | _) | ⟨(_ | _), m, e, _⟩ <;> cases above
  · rcases c with (_ | _) | _ | (_ | _) | ⟨(_ | _), m, e, _⟩ <;> cases below
  · cases below
  · rfl
  · rfl

/-- A double with others on both sides is finite. -/
theorem Number.isFinite_of_between {x lo hi : Float} (above : lo < x) (below : x < hi) :
    x.isFinite :=
  isFinite_of_compare (lt_iff.1 above) (lt_iff.1 below)

end Between

/-- A range between two finite doubles. -/
structure Range.Bounded (range : Range) : Prop where
  lo : range.lo.isFinite
  hi : range.hi.isFinite

theorem Range.Bounded.clamp {range : Range} (bounded : range.Bounded) (value : Float) :
    (range.clamp value).isFinite := by
  simp only [Range.clamp, PatternDeck.clamp, greater, lesser]
  split_ifs with below above above
  · exact Number.isFinite_of_between above below
  · exact bounded.lo
  · exact bounded.hi
  · exact bounded.lo

/-- Between finite bounds a turn by a number that is a double has an end. -/
theorem Parameter.exists_turned {p : Parameter} (bounded : p.range.Bounded) {ticks : Int}
    (double : (Binary.toFloat? ticks).isSome) : ∃ new, p.turned (.whole ticks) = .ok new := by
  obtain ⟨count, double⟩ := Option.isSome_iff_exists.1 double
  have reached := bounded.clamp (p.value + count * p.range.step)
  obtain ⟨negative, mantissa, exponent, read, -⟩ := Binary.ofFloat_of_isFinite reached
  have rounded : Rounding.round (p.range.clamp (p.value + count * p.range.step)) =
      .ok (Binary.signed negative (Binary.nearest mantissa exponent)) := by
    change Binary.round _ = _
    rw [read, Binary.round]
  rw [Range.clamp, Range.step] at rounded
  simp only [turned, Ticks.toFloat, double, ok_bind, move, snap, rounded]
  exact ⟨_, rfl⟩

/-- The ticks of a controller's message are a double. -/
theorem Controller.isSome_toFloat?_ticksOf (value : Int) : (Binary.toFloat? (ticksOf value)).isSome := by
  have small : ∀ n : Fin 127, (Binary.toFloat? ((n : Int) - 63)).isSome := by decide +kernel
  have near : -63 ≤ ticksOf value ∧ ticksOf value ≤ 63 := by
    unfold ticksOf
    split_ifs <;> omega
  have same : ((⟨(ticksOf value + 63).toNat, by omega⟩ : Fin 127) : Int) - 63 = ticksOf value := by
    simp only
    omega
  exact same ▸ small _

end PatternDeck
