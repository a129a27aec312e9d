import Mathlib.Data.List.TakeWhile
import Mathlib.Tactic.SplitIfs
import PatternDeck.Program.Placeholder
import PatternDeck.Proofs.Number.Shortest

/-!
Literals: a finite number stands in a program as a digit, or a minus, and more digits, points, signs
and exponents. None of these characters starts a placeholder.
-/
namespace PatternDeck

section Finite

open Float.Model

/-- The scale of a double that is finite is not the one kept for infinities and NaN. -/
theorem scale_ne_of_isFinite {x : Float} (finite : x.isFinite) :
    x.toBits.toNat / twoPow 52 % twoPow 11 ≠ 2047 := by
  intro top
  -- a double with all bits of its scale set is infinite or NaN
  have ones : @UnpackedFloat.unpackExponent Format.binary64 x.toBits.toBitVec = -1#_ := by
    apply BitVec.eq_of_toNat_eq
    simp only [UnpackedFloat.unpackExponent, BitVec.toNat_cast, BitVec.extractLsb_toNat]
    rw [Nat.shiftRight_eq_div_pow]
    exact top
  have outside : x.toModel.unpack =
      if @UnpackedFloat.unpackMantissa Format.binary64 x.toBits.toBitVec = 0#_ then
        .infinity (.ofBitVec (@UnpackedFloat.unpackSign Format.binary64 x.toBits.toBitVec))
      else .notANumber := if_pos ones
  have known : x.toModel.unpack.isFinite = true := finite
  rw [outside] at known
  split at known
  · cases known
  · cases known

/-- A double is finite, with a scale that is not too small, or it is an infinity or NaN. -/
theorem Binary.ofFloat_cases (x : Float) :
    (∃ negative mantissa exponent,
      Binary.ofFloat x = .finite negative mantissa exponent ∧ -1074 ≤ exponent) ∨
    (∃ negative, Binary.ofFloat x = .infinite negative) ∨ Binary.ofFloat x = .nan := by
  simp only [Binary.ofFloat]
  split_ifs with top whole subnormal
  · exact .inr (.inl ⟨_, rfl⟩)
  · exact .inr (.inr rfl)
  · exact .inl ⟨_, _, _, rfl, Int.le_refl _⟩
  · exact .inl ⟨_, _, _, rfl, by omega⟩

theorem Binary.ofFloat_of_isFinite {x : Float} (finite : x.isFinite) :
    ∃ negative mantissa exponent,
      Binary.ofFloat x = .finite negative mantissa exponent ∧ -1074 ≤ exponent := by
  have scale := scale_ne_of_isFinite finite
  rcases Binary.ofFloat_cases x with read | ⟨negative, read⟩ | read
  · exact read
  -- all bits of the scale would be set
  all_goals
    simp only [Binary.ofFloat, if_neg scale] at read
    split_ifs at read

end Finite

/-- A character of a number, the sign of an exponent and its mark among them. -/
def isNumeric (c : Char) : Bool := c.isDigit || c == '.' || c == '-' || c == '+' || c == 'e'

/-- A text of numeric characters that starts with a digit. -/
structure Unsigned (s : List Char) : Prop where
  starts : ∃ c rest, s = c :: rest ∧ c.isDigit
  numeric : ∀ c ∈ s, isNumeric c

/-- A text of numeric characters that starts with a digit or a minus. -/
structure Numeral (s : List Char) : Prop where
  starts : ∃ c rest, s = c :: rest ∧ (c.isDigit ∨ c = '-')
  numeric : ∀ c ∈ s, isNumeric c

theorem isNumeric_of_isDigit {c : Char} (digit : c.isDigit) : isNumeric c := by
  simp [isNumeric, digit]

theorem Unsigned.numeral {s : List Char} (unsigned : Unsigned s) : Numeral s := by
  obtain ⟨⟨c, rest, rfl, digit⟩, numeric⟩ := unsigned
  exact ⟨⟨c, rest, rfl, .inl digit⟩, numeric⟩

theorem Unsigned.append {s t : List Char} (unsigned : Unsigned s) (numeric : ∀ c ∈ t, isNumeric c) :
    Unsigned (s ++ t) := by
  obtain ⟨⟨c, rest, rfl, digit⟩, others⟩ := unsigned
  exact ⟨⟨c, rest ++ t, rfl, digit⟩, List.forall_mem_append.2 ⟨others, numeric⟩⟩

theorem unsigned_of_isDigit {c : Char} {rest : List Char} (digits : ∀ d ∈ c :: rest, d.isDigit) :
    Unsigned (c :: rest) :=
  ⟨⟨c, rest, rfl, digits c List.mem_cons_self⟩, fun d there => isNumeric_of_isDigit (digits d there)⟩

theorem Unsigned.negated {s : List Char} (unsigned : Unsigned s) : Numeral ('-' :: s) := by
  refine ⟨⟨'-', s, rfl, .inr rfl⟩, fun c there => ?_⟩
  rcases List.mem_cons.1 there with rfl | there
  · rfl
  · exact unsigned.numeric c there

namespace Decimal

theorem isDigit_of_mem_natDigits {n : Nat} {c : Char} (there : c ∈ natDigits n) : c.isDigit :=
  Nat.isDigit_of_mem_toDigits (by decide) (by decide) there

theorem unsigned_natDigits (n : Nat) : Unsigned (natDigits n) := by
  refine ⟨?_, fun c there => isNumeric_of_isDigit (isDigit_of_mem_natDigits there)⟩
  obtain ⟨c, rest, equal⟩ := List.exists_cons_of_ne_nil (@Nat.toDigits_ne_nil n 10)
  exact ⟨c, rest, equal, isDigit_of_mem_natDigits (equal ▸ List.mem_cons_self)⟩

theorem mem_of_mem_significant {digits : List Char} {c : Char} (there : c ∈ significant digits) :
    c ∈ digits := by
  rw [significant, List.mem_reverse] at there
  exact List.mem_reverse.1 ((List.dropWhile_sublist _).subset there)

/-- A number all of whose digits are zero is zero. -/
theorem eq_zero_of_digits {n : Nat} (zeros : ∀ c ∈ natDigits n, c = '0') : n = 0 := by
  -- induction on the number: all digits but the last are those of a tenth of it
  induction n using Nat.strongRecOn with
  | ind n ih =>
    rcases Nat.lt_or_ge n 10 with small | large
    · have single : natDigits n = [n.digitChar] := Nat.toDigits_of_lt_base small
      have zero : n.digitChar = '0' := zeros _ (by rw [single]; exact List.mem_cons_self)
      have decided : ∀ digit < 10, digit.digitChar = '0' → digit = 0 := by decide
      exact decided n small zero
    · have more : natDigits n = natDigits (n / 10) ++ [(n % 10).digitChar] :=
        Nat.toDigits_of_base_le (by decide) large
      have tenth : n / 10 = 0 := ih (n / 10) (by omega) fun c there =>
        zeros c (by rw [more]; exact List.mem_append_left _ there)
      omega

theorem significant_ne_nil {n : Nat} (positive : 0 < n) : significant (natDigits n) ≠ [] := by
  -- if all digits were zeros at the end, the number would be zero
  intro none
  have zero := eq_zero_of_digits fun c there => by
    rw [significant, List.reverse_eq_nil_iff] at none
    simpa using List.dropWhile_eq_nil_iff.1 none c (List.mem_reverse.2 there)
  omega

theorem numeric_wholeEnding : ∀ c ∈ Layout.plain.wholeEnding, isNumeric c :=
  List.forall_mem_cons.2 ⟨rfl, List.forall_mem_singleton.2 rfl⟩

theorem numeric_replicate (n : Nat) : ∀ c ∈ List.replicate n '0', isNumeric c := by
  intro c there
  rw [List.eq_of_mem_replicate there]
  rfl

/-- What stands behind the digits before the point. -/
theorem numeric_fraction {fraction ending : List Char} (digits : ∀ c ∈ fraction, c.isDigit)
    (whole : ∀ c ∈ ending, isNumeric c) :
    ∀ c ∈ if fraction.isEmpty then ending else '.' :: fraction, isNumeric c := by
  split
  · exact whole
  · exact List.forall_mem_cons.2 ⟨rfl, fun c there => isNumeric_of_isDigit (digits c there)⟩

theorem numeric_exponent (power : Int) (width : Nat) :
    ∀ c ∈ (if power < 0 then '-' else '+') :: List.replicate width '0' ++ natDigits power.natAbs,
      isNumeric c := by
  rw [List.cons_append]
  refine List.forall_mem_cons.2 ⟨?_, List.forall_mem_append.2 ⟨numeric_replicate width, ?_⟩⟩
  · split <;> rfl
  · exact (unsigned_natDigits _).numeric

/-- A positive decimal is written with a digit first: it has a digit other than zero. -/
theorem unsigned_render {d : Decimal} (positive : 0 < d.coefficient) :
    Unsigned (d.render .plain) := by
  obtain ⟨first, more, digits⟩ := List.exists_cons_of_ne_nil (significant_ne_nil positive)
  have all : ∀ c ∈ first :: more, c.isDigit := fun c there =>
    isDigit_of_mem_natDigits (mem_of_mem_significant (digits ▸ there))
  -- the digits in front of a point, of which there is at least one
  have leading : ∀ count, Unsigned ((first :: more).take (count + 1)) := fun count =>
    unsigned_of_isDigit fun c there => all c ((List.take_sublist (count + 1) _).subset there)
  have fraction : ∀ count, ∀ c ∈ (first :: more).drop count, c.isDigit := fun count c there =>
    all c (List.mem_of_mem_drop there)
  simp only [render, digits]
  -- one digit and an exponent; zeros after the point; or a point inside or behind the digits
  split
  next =>
    refine ((leading 0).append (numeric_fraction (fraction 1) ?_)).append ?_
    · simp
    · exact List.forall_mem_cons.2 ⟨rfl, numeric_exponent d.firstPower _⟩
  next =>
    split
    next =>
      have zero : Unsigned ['0', '.'] :=
        ⟨⟨'0', ['.'], rfl, rfl⟩, List.forall_mem_cons.2 ⟨rfl, List.forall_mem_singleton.2 rfl⟩⟩
      refine (zero.append (numeric_replicate _)).append ?_
      exact fun c there => isNumeric_of_isDigit (all c there)
    next =>
      exact ((leading _).append (numeric_replicate _)).append
        (numeric_fraction (fraction _) numeric_wholeEnding)

end Decimal

theorem Binary.numeral_render {exponent : Int} (negative : Bool) (mantissa : Nat)
    (bound : -1074 ≤ exponent) : Numeral ((Binary.finite negative mantissa exponent).render .plain) := by
  -- the sign stands in front of what is written of the magnitude
  have magnitude : Unsigned (if mantissa = 0 then '0' :: Layout.plain.wholeEnding
      else (Decimal.shortest (.of mantissa exponent)).render .plain) := by
    split
    next =>
      exact ⟨⟨'0', _, rfl, rfl⟩, List.forall_mem_cons.2 ⟨rfl, Decimal.numeric_wholeEnding⟩⟩
    next some => exact Decimal.unsigned_render (Decimal.shortest_pos (Nat.pos_of_ne_zero some) bound)
  cases negative with
  | false => exact magnitude.numeral
  | true => exact magnitude.negated

theorem numeral_intDigits (n : Int) : Numeral (intDigits n) := by
  unfold intDigits
  split
  · exact (Decimal.unsigned_natDigits _).negated
  · exact (Decimal.unsigned_natDigits _).numeral

theorem Program.numeral_of_ofFloat {value : Float} {negative : Bool} {mantissa : Nat}
    {exponent : Int} (read : Binary.ofFloat value = .finite negative mantissa exponent)
    (bound : -1074 ≤ exponent) : Numeral (Program.literalChars value) := by
  simp only [Program.literalChars, read]
  split
  next => exact numeral_intDigits _
  next => exact Binary.numeral_render negative mantissa bound

/-- The literal of a finite number. -/
theorem Program.numeral_literalChars {value : Float} (finite : value.isFinite) :
    Numeral (Program.literalChars value) := by
  obtain ⟨negative, mantissa, exponent, read, bound⟩ := Binary.ofFloat_of_isFinite finite
  exact numeral_of_ofFloat read bound

end PatternDeck
