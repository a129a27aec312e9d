import PatternDeck.Number.Shortest

/-!
The shortest decimal of a positive double is positive. A decimal of the grid is one of the interval,
whose lower end is above zero; seventeen digits below the first, the double is no less than one step
of the grid.
-/
namespace PatternDeck.Decimal

theorem num_scaled_pos {n : Nat} (positive : 0 < n) (exponent : Int) :
    0 < (Fraction.scaled n exponent).num :=
  Nat.mul_pos positive (twoPow_pos _)

theorem den_scaled_pos (n : Nat) (exponent : Int) : 0 < (Fraction.scaled n exponent).den :=
  twoPow_pos _

/-- Zero lies below the lower end of an interval above zero. -/
theorem contains_zero (i : Interval) (above : 0 < i.low.num) (exponent : Int) :
    i.contains (.decimal 0 exponent) = false := by
  have positive : 0 < i.low.num * (Fraction.decimal 0 exponent).den :=
    Nat.mul_pos above (tenPow_pos _)
  unfold Interval.contains
  split
  · simp [Fraction.le, Fraction.decimal] at positive ⊢
    omega
  · simp [Fraction.lt, Fraction.decimal]

theorem coefficient_pos_of_onGrid? {i : Interval} {exponent : Int} {d : Decimal}
    (above : 0 < i.low.num) (found : onGrid? i exponent = some d) : 0 < d.coefficient := by
  simp only [onGrid?] at found
  -- the lower neighbour may be zero, but zero is not inside; the upper one never is zero
  split at found
  next inside =>
    cases found
    refine Nat.pos_of_ne_zero fun zero => ?_
    simp only at zero
    rw [zero, contains_zero i above] at inside
    simp at inside
  next =>
    split at found
    · cases found
      exact Nat.succ_pos _
    · cases found

theorem tenPow_le_of_length {n : Nat} (positive : 0 < n) :
    tenPow ((Nat.toDigits 10 n).length - 1) ≤ n := by
  rcases Nat.lt_or_ge 1 (Nat.toDigits 10 n).length with long | short
  -- a smaller number would do with one digit less
  · have digits := @Nat.length_toDigits_le_iff 10 n ((Nat.toDigits 10 n).length - 1) (by decide)
      (by omega)
    have more : ¬(Nat.toDigits 10 n).length ≤ (Nat.toDigits 10 n).length - 1 := by omega
    exact Nat.le_of_not_lt fun less => more (digits.2 less)
  · have single : (Nat.toDigits 10 n).length - 1 = 0 := by omega
    rw [single]
    exact positive

theorem tenPow_add (a b : Nat) : tenPow (a + b) = tenPow a * tenPow b := Nat.pow_add 10 a b

/-- The step of the grid of the seventeenth digit goes into a fraction that is not too small. -/
theorem quotient_pos {x : Fraction} (den : 0 < x.den) (large : x.den ≤ x.num * tenPow 400) :
    0 < x.quotient (.decimal 1 (magnitude x - 16)) := by
  -- the first digit is that of the double times a power that makes it whole
  have whole : 0 < x.num * tenPow 400 / x.den := Nat.div_pos large den
  have first : x.den * tenPow ((Nat.toDigits 10 (x.num * tenPow 400 / x.den)).length - 1) ≤
      x.num * tenPow 400 :=
    Nat.le_trans (Nat.mul_le_mul_left _ (tenPow_le_of_length whole)) (Nat.mul_div_le _ _)
  have some : 0 < (Nat.toDigits 10 (x.num * tenPow 400 / x.den)).length := Nat.length_toDigits_pos
  rw [Fraction.quotient, magnitude, Fraction.decimal, Nat.one_mul]
  generalize (Nat.toDigits 10 (x.num * tenPow 400 / x.den)).length = length at first some
  -- one of the two powers is one, and the other is that of the distance from the first digit
  generalize up : ((length : Int) - 401 - 16).toNat = p
  generalize down : (-((length : Int) - 401 - 16)).toNat = q
  -- times 10 ^ 400 once more, to compare it with the first digit
  apply Nat.div_pos
  · have scaled : x.den * tenPow p * tenPow 400 ≤ x.num * tenPow q * tenPow 400 := by
      calc x.den * tenPow p * tenPow 400 = x.den * tenPow (p + 400) := by
            rw [tenPow_add, Nat.mul_assoc]
        _ ≤ x.den * tenPow (length - 1 + q) :=
            Nat.mul_le_mul_left _ (Nat.pow_le_pow_right (by decide) (by omega))
        _ = x.den * tenPow (length - 1) * tenPow q := by rw [tenPow_add, Nat.mul_assoc]
        _ ≤ x.num * tenPow 400 * tenPow q := Nat.mul_le_mul_right _ first
        _ = x.num * tenPow q * tenPow 400 := Nat.mul_right_comm _ _ _
    exact Nat.le_of_mul_le_mul_right scaled (tenPow_pos _)
  · exact Nat.mul_pos den (tenPow_pos _)

theorem twoPow_le_tenPow {m n : Nat} (bound : m ≤ 3 * n) : twoPow m ≤ tenPow n := by
  -- three bits are less than a digit
  have eighths : (2 : Nat) ^ 3 ≤ 10 := by decide
  calc twoPow m ≤ twoPow (3 * n) := Nat.pow_le_pow_right (by decide) bound
    _ = (2 ^ 3) ^ n := Nat.pow_mul 2 3 n
    _ ≤ tenPow n := Nat.pow_le_pow_left eighths n

/-- The least doubles are no smaller than this. -/
theorem den_le_of_scaled {mantissa : Nat} {exponent : Int} (positive : 0 < mantissa)
    (bound : -1074 ≤ exponent) :
    (Fraction.scaled mantissa exponent).den ≤
      (Fraction.scaled mantissa exponent).num * tenPow 400 := by
  calc twoPow (-exponent).toNat ≤ tenPow 400 := twoPow_le_tenPow (by omega)
    _ ≤ (Fraction.scaled mantissa exponent).num * tenPow 400 :=
      Nat.le_mul_of_pos_left _ (num_scaled_pos positive exponent)

theorem shortest_pos {mantissa : Nat} {exponent : Int} (positive : 0 < mantissa)
    (bound : -1074 ≤ exponent) : 0 < (shortest (.of mantissa exponent)).coefficient := by
  have above : 0 < (Interval.of mantissa exponent).low.num := by
    apply num_scaled_pos
    split <;> omega
  simp only [shortest]
  -- a decimal of some grid, or else the one of the seventeenth digit
  rcases found : (List.range 17).findSome? fun (more : Nat) =>
    onGrid? (.of mantissa exponent) (magnitude (Interval.of mantissa exponent).value - more) with
    _ | d
  · exact quotient_pos (den_scaled_pos mantissa exponent) (den_le_of_scaled positive bound)
  · obtain ⟨_, more, _, -, there, -⟩ := List.findSome?_eq_some_iff.1 found
    exact coefficient_pos_of_onGrid? above there

end PatternDeck.Decimal
