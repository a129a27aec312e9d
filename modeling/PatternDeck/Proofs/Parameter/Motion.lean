import Mathlib.Algebra.Order.Field.Rat
import Mathlib.Data.Rat.Lemmas
import Mathlib.Tactic.Linarith
import Mathlib.Tactic.Positivity
import PatternDeck.Parameter.Motion

/-!
Motion read exactly, with rational numbers for doubles: a knob moves its parameter the way it is turned
and no whole number on the way holds the value fast.

A tick that stays clear of the bound it goes towards gains at least half a step, for a value that is
drawn back comes to rest past the middle of its way. A tick that meets the bound may be drawn back from
it once: from the whole number it lands on, the next tick has nowhere else to go.
-/
namespace PatternDeck

section Nearest

/-- The whole number nearest to a rational, a half going to the even neighbour. -/
def nearestInt (x : ℚ) : ℤ :=
  Binary.signed (x.num < 0) (Binary.nearestWhole x.num.natAbs x.den)

instance : Rounding ℚ where
  ofInt n := n
  abs x := |x|
  round x := .ok (nearestInt x)

/-- The rational that a double stands for. -/
def Binary.toRat? : Binary → Option ℚ
  | .finite negative mantissa exponent =>
    some ((if negative then -1 else 1) * (mantissa * 2 ^ exponent))
  | _ => none

theorem nearestWhole_mul_right (numerator : Nat) {denominator factor : Nat} (positive : 0 < factor) :
    Binary.nearestWhole (numerator * factor) (denominator * factor) =
      Binary.nearestWhole numerator denominator := by
  have rest : 2 * (numerator % denominator * factor) = 2 * (numerator % denominator) * factor :=
    (Nat.mul_assoc ..).symm
  simp only [Binary.nearestWhole, Nat.mul_div_mul_right _ _ positive, Nat.mul_mod_mul_right, rest,
    Nat.mul_lt_mul_right positive, Nat.mul_left_inj positive.ne']

theorem nearestInt_neg (x : ℚ) : nearestInt (-x) = -nearestInt x := by
  simp only [nearestInt, Rat.num_neg_eq_neg_num, Rat.den_neg_eq_den, Int.natAbs_neg, Binary.signed,
    Left.neg_neg_iff, decide_eq_true_eq]
  rcases lt_trichotomy x.num 0 with less | zero | more
  · rw [if_neg less.not_gt, if_pos less, neg_neg]
  · simp [zero, Binary.nearestWhole, x.den_pos]
  · rw [if_pos more, if_neg more.not_gt]

/-- The fraction that a rational is written as makes no difference. -/
theorem nearestInt_div (numerator : Nat) {denominator : Nat} (positive : 0 < denominator) :
    nearestInt (numerator / denominator) = Binary.nearestWhole numerator denominator := by
  have denominator_pos : (0 : ℚ) < denominator := Nat.cast_pos.2 positive
  generalize fraction : (numerator : ℚ) / denominator = x
  have sign : 0 ≤ x.num := Rat.num_nonneg.2 (fraction ▸ by positivity)
  have same : x.num.natAbs * denominator = numerator * x.den := by
    have crossed : (x.num : ℚ) * denominator = numerator * x.den := by
      rw [← div_eq_div_iff (Nat.cast_ne_zero.2 x.den_ne_zero) denominator_pos.ne', fraction,
        Rat.num_div_den]
    have whole : x.num * (denominator : ℤ) = numerator * (x.den : ℤ) := by exact_mod_cast crossed
    exact_mod_cast (Int.natAbs_of_nonneg sign).symm ▸ whole
  rw [nearestInt, ← nearestWhole_mul_right _ positive, same, Nat.mul_comm x.den,
    nearestWhole_mul_right _ x.den_pos, Binary.signed, if_neg (by simpa using sign)]

theorem mul_two_zpow (mantissa : Nat) (exponent : ℤ) :
    (mantissa * 2 ^ exponent : ℚ) =
      (mantissa * twoPow exponent.toNat : Nat) / (twoPow (-exponent).toNat : Nat) := by
  rcases Int.eq_nat_or_neg exponent with ⟨n, rfl | rfl⟩
  · simp [twoPow]
  · simp [twoPow, div_eq_mul_inv]

/-- A double is rounded as the rational is that it stands for. -/
theorem round_eq_of_toRat? {b : Binary} {x : ℚ} (exact : b.toRat? = some x) :
    b.round = Rounding.round x := by
  cases b with
  | finite negative mantissa exponent =>
    have nearest : nearestInt (mantissa * 2 ^ exponent) = Binary.nearest mantissa exponent := by
      rw [mul_two_zpow, nearestInt_div _ (twoPow_pos _)]
      rfl
    rw [Binary.toRat?, Option.some.injEq] at exact
    subst exact
    cases negative with
    | false => simp [Binary.round, Binary.signed, Rounding.round, nearest]
    | true => simp [Binary.round, Binary.signed, Rounding.round, nearest, nearestInt_neg]
  | infinite | nan => cases exact

end Nearest

section Turns

variable {α : Type} [LT α] [DecidableLT α] [LE α] [DecidableLE α] [Add α] [Sub α] [Mul α] [Div α]
  [OfNat α 127] [OfScientific α] [Rounding α]

/-- A value after so many turns of its knob, each from where the last one left it. -/
def sweep (count lo hi : α) : Nat → α → Except Binary.Unbounded α
  | 0, value => .ok value
  | turns + 1, value => move value count lo hi >>= sweep count lo hi turns

theorem sweep_of_move {value count lo hi new : α} (moved : move value count lo hi = .ok new)
    (turns : Nat) : sweep count lo hi (turns + 1) value = sweep count lo hi turns new := by
  rw [sweep, moved]
  rfl

end Turns

section Motion

variable {old new threshold landed value count lo hi : ℚ}

/-- Where a motion from one number to another comes to rest: there, or on the whole number next to
it, if that lies between the bounds, is near and was farther before. -/
inductive Lands (old new threshold lo hi : ℚ) : ℚ → Prop where
  | there : Lands old new threshold lo hi new
  | whole (above : lo ≤ nearestInt new) (below : nearestInt new ≤ hi)
      (near : |new - nearestInt new| ≤ threshold)
      (nearer : |new - nearestInt new| < |old - nearestInt new|) :
      Lands old new threshold lo hi (nearestInt new)

theorem exists_snap (old new threshold lo hi : ℚ) :
    ∃ landed, snap old new threshold (some lo) (some hi) = .ok landed ∧
      Lands old new threshold lo hi landed := by
  refine ⟨_, rfl, ?_⟩
  split
  next drawn =>
    simp only [allowed, Option.any_some, Bool.and_eq_true, Bool.not_eq_true',
      decide_eq_false_iff_not, decide_eq_true_eq, not_lt] at drawn
    obtain ⟨⟨⟨above, below⟩, near⟩, nearer⟩ := drawn
    exact .whole above below near nearer
  next => exact .there

namespace Lands

variable (lands : Lands old new threshold lo hi landed)
include lands

theorem within (above : lo ≤ new) (below : new ≤ hi) : lo ≤ landed ∧ landed ≤ hi := by
  cases lands with
  | there => exact ⟨above, below⟩
  | whole above below => exact ⟨above, below⟩

theorem near (some : 0 ≤ threshold) : |landed - new| ≤ threshold := by
  cases lands with
  | there => rwa [sub_self, abs_zero]
  | whole _ _ near => rwa [abs_sub_comm]

/-- Who comes nearer to a number from below it does not pass the place come from. -/
theorem ascends (rises : old < new) : old < landed := by
  cases lands with
  | there => exact rises
  | whole _ _ _ nearer =>
    by_contra back
    rw [not_lt] at back
    rw [abs_of_nonneg (by linarith), abs_of_nonneg (by linarith)] at nearer
    linarith

theorem descends (falls : new < old) : landed < old := by
  cases lands with
  | there => exact falls
  | whole _ _ _ nearer =>
    by_contra back
    rw [not_lt] at back
    rw [abs_of_nonpos (by linarith), abs_of_nonpos (by linarith)] at nearer
    linarith

theorem rests (stays : new = old) : landed = old := by
  cases lands with
  | there => exact stays
  | whole _ _ _ nearer =>
    rw [stays] at nearer
    exact absurd nearer (lt_irrefl _)

end Lands

theorem clamp_eq (ordered : lo ≤ hi) : clamp value lo hi = max lo (min hi value) := by
  rw [clamp, greater, lesser, max_def, min_def]
  split_ifs <;> linarith

theorem tick_pos (proper : lo < hi) : 0 < tick lo hi := by
  rw [tick, knobSteps]
  linarith

/-- A tick towards a bound stops there at the latest. -/
theorem clamp_ascends (count_pos : 0 < count) (above : lo ≤ value) (below : value < hi) :
    value < clamp (value + count * tick lo hi) lo hi := by
  have step : 0 < count * tick lo hi := mul_pos count_pos (tick_pos (above.trans_lt below))
  rw [clamp_eq (above.trans below.le)]
  exact lt_max_of_lt_right (lt_min below (by linarith))

theorem clamp_descends (count_neg : count < 0) (above : lo < value) (below : value ≤ hi) :
    clamp (value + count * tick lo hi) lo hi < value := by
  have step : count * tick lo hi < 0 :=
    mul_neg_of_neg_of_pos count_neg (tick_pos (above.trans_le below))
  rw [clamp_eq (above.le.trans below)]
  exact max_lt above (min_lt_of_right_lt (by linarith))

theorem clamp_rests (proper : lo < hi) (above : lo ≤ value) (below : value ≤ hi)
    (full : ¬(0 < count ∧ value < hi)) (void : ¬(count < 0 ∧ lo < value)) :
    clamp (value + count * tick lo hi) lo hi = value := by
  have step := tick_pos proper
  rw [clamp_eq proper.le]
  rcases lt_trichotomy count 0 with falls | rfl | rises
  · have bottom : value = lo := le_antisymm (not_lt.1 fun more => void ⟨falls, more⟩) above
    rw [bottom]
    exact max_eq_left ((min_le_right _ _).trans (by nlinarith))
  · rw [zero_mul, add_zero, min_eq_right below, max_eq_right above]
  · have top : value = hi := le_antisymm below (not_lt.1 fun less => full ⟨rises, less⟩)
    rw [top, min_eq_left (by nlinarith), max_eq_right proper.le]

theorem exists_move (value count lo hi : ℚ) :
    ∃ new, move value count lo hi = .ok new ∧
      Lands value (clamp (value + count * tick lo hi) lo hi) snapThreshold lo hi new :=
  exists_snap _ _ _ _ _

theorem clamp_within (ordered : lo ≤ hi) (value : ℚ) :
    lo ≤ clamp value lo hi ∧ clamp value lo hi ≤ hi := by
  rw [clamp_eq ordered]
  exact ⟨le_max_left _ _, max_le ordered (min_le_left _ _)⟩

section Mirror

theorem clamp_neg (ordered : lo ≤ hi) : clamp (-value) (-hi) (-lo) = -clamp value lo hi := by
  simp only [clamp, greater, lesser]
  split_ifs <;> linarith

theorem snap_neg (old new threshold lo hi : ℚ) :
    snap (-old) (-new) threshold (some (-hi)) (some (-lo)) =
      (snap old new threshold (some lo) (some hi)).map (-·) := by
  have mirrored (x : ℚ) : |-x - -(nearestInt new : ℚ)| = |x - nearestInt new| := by
    rw [← neg_sub', abs_neg]
  simp only [snap, Rounding.round, Rounding.ofInt, Rounding.abs, nearestInt_neg, Int.cast_neg,
    mirrored, Except.map, Except.ok.injEq, allowed, Option.any_some, neg_lt_neg_iff]
  rw [Bool.and_comm (!decide (hi < _))]
  exact (apply_ite Neg.neg _ _ _).symm

/-- A turn back is a turn of what is seen in a mirror. -/
theorem move_neg (ordered : lo ≤ hi) :
    move (-value) (-count) (-hi) (-lo) = (move value count lo hi).map (-·) := by
  have tick_neg : tick (-hi) (-lo) = tick lo hi := by
    rw [tick, tick, sub_neg_eq_add, neg_add_eq_sub]
  rw [move, tick_neg, neg_mul, ← neg_add, clamp_neg ordered, snap_neg]
  rfl

theorem sweep_neg (ordered : lo ≤ hi) (ticks : Nat) :
    sweep (-count) (-hi) (-lo) ticks (-value) = (sweep count lo hi ticks value).map (-·) := by
  induction ticks generalizing value with
  | zero => rfl
  | succ ticks ih =>
    rw [sweep, sweep, move_neg ordered]
    cases move value count lo hi with
    | error fault => rfl
    | ok new => exact ih

end Mirror

section Sweep

theorem clamp_top (proper : lo < hi) (close : hi ≤ value + tick lo hi) :
    clamp (value + 1 * tick lo hi) lo hi = hi := by
  rw [clamp_eq proper.le, one_mul, min_eq_left close, max_eq_right proper.le]

/-- A tick to the bound is drawn back to the whole number next to it from elsewhere alone. -/
theorem move_top (proper : lo < hi) (close : hi ≤ value + tick lo hi)
    (arrived : value = hi ∨ value = nearestInt hi) : move value 1 lo hi = .ok hi := by
  obtain ⟨new, moved, lands⟩ := exists_move value 1 lo hi
  rw [clamp_top proper close] at lands
  rw [moved, Except.ok.injEq]
  rcases arrived with rfl | whole
  · exact lands.rests rfl
  · cases lands with
    | there => rfl
    | whole _ _ _ nearer =>
      rw [whole, sub_self, abs_zero] at nearer
      exact absurd nearer (abs_nonneg _).not_gt

theorem sweep_top (proper : lo < hi) (ticks : Nat) : sweep 1 lo hi ticks hi = .ok hi := by
  have step := tick_pos proper
  induction ticks with
  | zero => rfl
  | succ ticks ih =>
    rw [sweep_of_move (move_top proper (by linarith) (.inl rfl)), ih]

/-- Where one tick would do, two do. -/
theorem sweep_close (proper : lo < hi) (below : value ≤ hi) (close : hi ≤ value + tick lo hi)
    (ticks : Nat) : sweep 1 lo hi (ticks + 2) value = .ok hi := by
  obtain ⟨new, moved, lands⟩ := exists_move value 1 lo hi
  rw [clamp_top proper close] at lands
  have ahead : value ≤ new := by
    rcases below.lt_or_eq with less | rfl
    · exact (lands.ascends less).le
    · exact (lands.rests rfl).ge
  have arrived : new = hi ∨ new = nearestInt hi := by
    cases lands with
    | there => exact .inl rfl
    | whole => exact .inr rfl
  rw [sweep_of_move moved, sweep_of_move (move_top proper (by linarith) arrived),
    sweep_top proper]

/-- Each tick that stays clear of the bound gains at least half a step. -/
theorem move_gains (proper : lo < hi) (above : lo ≤ value) (clear : value + tick lo hi < hi) :
    ∃ new, move value 1 lo hi = .ok new ∧ value + tick lo hi / 2 ≤ new ∧ new ≤ hi := by
  have step := tick_pos proper
  obtain ⟨new, moved, lands⟩ := exists_move value 1 lo hi
  have aims : clamp (value + 1 * tick lo hi) lo hi = value + tick lo hi := by
    rw [clamp_eq proper.le, one_mul, min_eq_right clear.le, max_eq_right (by linarith)]
  rw [aims] at lands
  refine ⟨new, moved, ?_, (lands.within (by linarith) clear.le).2⟩
  cases lands with
  | there => linarith
  | whole _ _ _ nearer =>
    by_contra back
    rw [not_le] at back
    have risen := Lands.ascends (.whole ‹_› ‹_› ‹_› nearer) (by linarith : value < value + tick lo hi)
    rw [abs_of_nonneg (by linarith), abs_of_nonpos (by linarith)] at nearer
    linarith

/-- So many ticks reach the bound from so far away. -/
theorem sweep_of_gains (proper : lo < hi) (above : lo ≤ value) (below : value ≤ hi) {ticks : Nat}
    (enough : hi ≤ value + tick lo hi + ticks * (tick lo hi / 2)) (more : Nat) :
    sweep 1 lo hi (ticks + (more + 2)) value = .ok hi := by
  have step := tick_pos proper
  induction ticks generalizing value with
  | zero =>
    rw [Nat.cast_zero, zero_mul, add_zero] at enough
    rw [Nat.zero_add]
    exact sweep_close proper below enough more
  | succ ticks ih =>
    rcases le_or_gt hi (value + tick lo hi) with close | clear
    · rw [← Nat.add_assoc]
      exact sweep_close proper below close _
    · obtain ⟨new, moved, gained, within⟩ := move_gains proper above clear
      rw [Nat.cast_add, Nat.cast_one] at enough
      rw [Nat.add_right_comm, sweep_of_move moved]
      exact ih (by linarith) within (by linarith)

/-- A sweep upwards ends at the upper bound. -/
theorem sweep_up (proper : lo < hi) (above : lo ≤ value) (below : value ≤ hi) {ticks : Nat}
    (full : 254 ≤ ticks) : sweep 1 lo hi ticks value = .ok hi := by
  obtain ⟨more, rfl⟩ := Nat.exists_eq_add_of_le full
  have enough : hi ≤ value + tick lo hi + (252 : Nat) * (tick lo hi / 2) := by
    rw [tick, knobSteps]
    push_cast
    linarith
  rw [show 254 + more = 252 + (more + 2) by omega]
  exact sweep_of_gains proper above below enough more

theorem sweep_down (proper : lo < hi) (above : lo ≤ value) (below : value ≤ hi) {ticks : Nat}
    (full : 254 ≤ ticks) : sweep (-1) lo hi ticks value = .ok lo := by
  have mirrored : sweep (-1) (- -lo) (- -hi) ticks (- -value) =
      (sweep 1 (-hi) (-lo) ticks (-value)).map (-·) := sweep_neg (neg_le_neg proper.le) ticks
  rw [sweep_up (neg_lt_neg proper) (neg_le_neg below) (neg_le_neg above) full] at mirrored
  simpa [Except.map] using mirrored

end Sweep

/-- A turn of a knob takes its parameter's value the way of the turn, to within the threshold of where
the ticks lead or the bound, unless the value has nowhere to go. So a sweep either way ends at the bound
within twice its ticks and more. -/
theorem knob_turns_and_sweeps (proper : lo < hi) (above : lo ≤ value) (below : value ≤ hi) :
    (∀ delta : ℤ, ∃ new, move value delta lo hi = .ok new ∧ lo ≤ new ∧ new ≤ hi ∧
      |new - clamp (value + delta * ((hi - lo) / 127)) lo hi| ≤ 0.08 ∧
      (0 < delta ∧ value < hi → value < new) ∧ (delta < 0 ∧ lo < value → new < value) ∧
      (¬(0 < delta ∧ value < hi) → ¬(delta < 0 ∧ lo < value) → new = value)) ∧
    ∀ ticks ≥ 256, sweep 1 lo hi ticks value = .ok hi ∧ sweep (-1) lo hi ticks value = .ok lo := by
  refine ⟨fun delta => ?_, fun ticks full => ?_⟩
  · obtain ⟨new, moved, lands⟩ := exists_move value delta lo hi
    have inside := clamp_within proper.le (value + delta * tick lo hi)
    obtain ⟨above', below'⟩ := lands.within inside.1 inside.2
    refine ⟨new, moved, above', below', lands.near (by norm_num [snapThreshold]), ?_, ?_, ?_⟩
    · rintro ⟨rises, less⟩
      exact lands.ascends (clamp_ascends (Int.cast_pos.2 rises) above less)
    · rintro ⟨falls, more⟩
      exact lands.descends (clamp_descends (Int.cast_lt_zero.2 falls) more below)
    · intro full void
      refine lands.rests (clamp_rests proper above below ?_ ?_)
      · rwa [Int.cast_pos]
      · rwa [Int.cast_lt_zero]
  · exact ⟨sweep_up proper above below (by omega), sweep_down proper above below (by omega)⟩

/-- The last tick but one is drawn back to the whole number below the bound. -/
theorem sweeps_past_ten :
    sweep 1 (0 : ℚ) 10.05 256 9.9 = .ok 10.05 ∧ sweep (-1) (0 : ℚ) 10.05 256 9.9 = .ok 0 := by
  have proper : (0 : ℚ) < 10.05 := by norm_num
  have above : (0 : ℚ) ≤ 9.9 := by norm_num
  have below : (9.9 : ℚ) ≤ 10.05 := by norm_num
  exact (knob_turns_and_sweeps proper above below).2 256 (le_refl _)

example : move (9.9 : ℚ) 2 0 10.05 = .ok 10 ∧ move (10 : ℚ) 2 0 10.05 = .ok 10.05 := by
  decide +kernel

end Motion

end PatternDeck
