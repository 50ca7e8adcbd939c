/-
# Decimal numerals

The number that a numeral stands for: its digits, with a sign and a point if it has any
(`decimalValue`).  The `double`s are the numbers with a mantissa of 53 bits and an exponent of 11
(`IsDouble`); a numeral is read as one that is nearest to it (`Nearest`).
-/

import Mathlib.Algebra.Order.Field.Basic
import Mathlib.Algebra.Order.Field.Rat
import Mathlib.Algebra.Order.Group.Unbundled.Abs
import Mathlib.Algebra.Order.Group.Int
import Mathlib.Algebra.Ring.Int.Parity
import Mathlib.Tactic.Linarith
import Mathlib.Tactic.NormNum
import Mathlib.Tactic.Ring
import Dbal.Codec.QueryString

namespace Dbal
namespace Codec

/-- The number of a numeral without a sign. -/
def numeralValue (chars : List Char) : ℚ :=
  (Nat.ofDigitChars 10 (front '.' chars ++ back '.' chars) 0 : ℕ) / 10 ^ (back '.' chars).length

/-- The number of a numeral. -/
def decimalValue (chars : List Char) : ℚ :=
  if chars.head? = some '-' then -numeralValue chars.tail else numeralValue chars

/-- A mantissa and an exponent, as a number. -/
def dyadic (mantissa exponent : ℤ) : ℚ := mantissa * 2 ^ exponent

/-- The finite `double`s. -/
def IsDouble (mantissa exponent : ℤ) : Prop :=
  mantissa.natAbs < 2 ^ 53 ∧ -1074 ≤ exponent ∧ exponent ≤ 971

/-- No `double` is nearer to a number. -/
def Nearest (number value : ℚ) : Prop :=
  ∀ mantissa exponent, IsDouble mantissa exponent →
    |number - value| ≤ |number - dyadic mantissa exponent|

section Numerals

variable {chars digits fraction : List Char}

theorem decimalValue_neg (chars : List Char) : decimalValue ('-' :: chars) = -numeralValue chars :=
  if_pos rfl

/-- A numeral that begins with a digit has no sign. -/
theorem decimalValue_of_digit {c : Char} (hc : c.isDigit = true) (more : List Char) :
    decimalValue (c :: more) = numeralValue (c :: more) := by
  refine if_neg fun heq => ?_
  cases heq
  exact absurd hc (by decide)

theorem numeralValue_digits (h : '.' ∉ digits) :
    numeralValue digits = (Nat.ofDigitChars 10 digits 0 : ℕ) := by
  rw [numeralValue, front_eq_self h, back_eq_nil h, List.append_nil, List.length_nil, pow_zero,
    div_one]

theorem numeralValue_point (h : '.' ∉ digits) :
    numeralValue (digits ++ '.' :: fraction) =
      (Nat.ofDigitChars 10 (digits ++ fraction) 0 : ℕ) / 10 ^ fraction.length := by
  rw [numeralValue, front_append, front_eq_self h, back_append h]

theorem point_not_mem_toDigits (n : Nat) : '.' ∉ Nat.toDigits 10 n := fun hmem =>
  absurd (Nat.isDigit_of_mem_toDigits (by decide) (by decide) hmem) (by decide)

theorem exists_toDigits_eq_cons (n : Nat) :
    ∃ c more, Nat.toDigits 10 n = c :: more ∧ c.isDigit = true ∧
      ∀ d ∈ more, d.isDigit = true := by
  obtain ⟨c, more, hchars⟩ := List.exists_cons_of_ne_nil (Nat.toDigits_ne_nil (n := n) (b := 10))
  have hdigit : ∀ d ∈ Nat.toDigits 10 n, d.isDigit = true := fun d hd =>
    Nat.isDigit_of_mem_toDigits (by decide) (by decide) hd
  rw [hchars, List.forall_mem_cons] at hdigit
  exact ⟨c, more, hchars, hdigit⟩

/-- The characters of a number: its digits, behind a sign if it is negative. -/
theorem toList_toString (i : Int) :
    (toString i).toList =
      if 0 ≤ i then Nat.toDigits 10 i.natAbs else '-' :: Nat.toDigits 10 i.natAbs := by
  cases i with
  | ofNat n => simp [toString, Int.repr]
  | negSucc n => simp [toString, Int.repr]

/-- **The numeral of a number stands for it.** -/
theorem decimalValue_toString (i : Int) : decimalValue (toString i).toList = i := by
  have habs : numeralValue (Nat.toDigits 10 i.natAbs) = (i.natAbs : ℕ) := by
    rw [numeralValue_digits (point_not_mem_toDigits _), Nat.ofDigitChars_ten_toDigits]
  rw [toList_toString]
  split_ifs with hi
  · obtain ⟨c, more, hchars, hc, -⟩ := exists_toDigits_eq_cons i.natAbs
    have hself : (i.natAbs : ℤ) = i := by omega
    rw [hchars, decimalValue_of_digit hc, ← hchars, habs, ← Int.cast_natCast, hself]
  · have hself : (i.natAbs : ℤ) = -i := by omega
    rw [decimalValue_neg, habs, ← Int.cast_natCast, hself, Int.cast_neg, neg_neg]

end Numerals

/-! ## Rounding -/

/-- A number rounds to the nearest integer, and to the even one between two. -/
def RoundsTo (number : ℚ) (n : ℤ) : Prop :=
  |number - n| ≤ 1 / 2 ∧ (|number - n| = 1 / 2 → Even n)

/-- A quotient, rounded. -/
def roundedQuotient (dividend divisor : Nat) : Nat :=
  let quotient := dividend / divisor
  let rest := dividend % divisor
  if divisor < 2 * rest ∨ 2 * rest = divisor ∧ quotient % 2 = 1 then quotient + 1 else quotient

section Rounding

variable {number : ℚ} {n m : ℤ}

theorem roundsTo_self (n : ℤ) : RoundsTo n n := by
  rw [RoundsTo, sub_self, abs_zero]
  exact ⟨by norm_num, fun h => absurd h (by norm_num)⟩

theorem RoundsTo.neg (h : RoundsTo number n) : RoundsTo (-number) (-n) := by
  have habs : |-number - ((-n : ℤ) : ℚ)| = |number - n| := by
    rw [Int.cast_neg, ← abs_neg]
    congr 1
    ring
  rw [RoundsTo, habs]
  exact ⟨h.1, fun heq => (h.2 heq).neg⟩

/-- **A number rounds to one integer.** -/
theorem RoundsTo.unique (hn : RoundsTo number n) (hm : RoundsTo number m) : n = m := by
  by_contra hne
  have hstep : (1 : ℚ) ≤ |(n : ℚ) - m| := by
    exact_mod_cast Int.one_le_abs (sub_ne_zero.2 hne)
  have hsum : |(n : ℚ) - m| ≤ |number - n| + |number - m| := by
    rw [abs_sub_comm number (n : ℚ)]
    exact abs_sub_le _ _ _
  -- Both are half a step away, so both are even, and they differ by one.
  have hevenN : Even n := hn.2 (by linarith [hn.1, hm.1])
  have hevenM : Even m := hm.2 (by linarith [hn.1, hm.1])
  have hle : |n - m| ≤ 1 := by
    have hcast : (|n - m| : ℚ) ≤ 1 := by linarith [hn.1, hm.1]
    exact_mod_cast hcast
  have hone : |n - m| = 1 := le_antisymm hle (Int.one_le_abs (sub_ne_zero.2 hne))
  have heven : Even |n - m| := (even_abs).2 (hevenN.sub hevenM)
  rw [hone] at heven
  exact absurd heven (by decide)

/-- **A quotient is rounded to the nearest.** -/
theorem roundsTo_roundedQuotient (dividend : Nat) {divisor : Nat} (h : 0 < divisor) :
    RoundsTo (dividend / divisor) (roundedQuotient dividend divisor : ℕ) := by
  have hpos : (0 : ℚ) < divisor := Nat.cast_pos.2 h
  have hquotient : (dividend : ℚ) / divisor =
      (dividend / divisor : ℕ) + (dividend % divisor : ℕ) / divisor := by
    rw [eq_comm, add_div' _ _ _ hpos.ne', div_left_inj' hpos.ne']
    exact_mod_cast Nat.div_add_mod' dividend divisor
  have hnonneg : 0 ≤ ((dividend % divisor : ℕ) : ℚ) / divisor :=
    div_nonneg (Nat.cast_nonneg _) hpos.le
  have hlt : ((dividend % divisor : ℕ) : ℚ) / divisor < 1 := by
    rw [div_lt_one hpos]
    exact_mod_cast Nat.mod_lt dividend h
  have hhalf : ((dividend % divisor : ℕ) : ℚ) / divisor ≤ 1 / 2 ↔
      2 * (dividend % divisor) ≤ divisor := by
    rw [div_le_div_iff₀ hpos two_pos]
    norm_cast
    omega
  have htie : ((dividend % divisor : ℕ) : ℚ) / divisor = 1 / 2 ↔
      2 * (dividend % divisor) = divisor := by
    rw [div_eq_div_iff hpos.ne' two_ne_zero]
    norm_cast
    omega
  rw [hquotient, RoundsTo]
  by_cases hup : divisor < 2 * (dividend % divisor) ∨
      2 * (dividend % divisor) = divisor ∧ dividend / divisor % 2 = 1
  · have hround : roundedQuotient dividend divisor = dividend / divisor + 1 := if_pos hup
    have hdistance : |((dividend / divisor : ℕ) : ℚ) + (dividend % divisor : ℕ) / divisor -
        ((dividend / divisor + 1 : ℕ) : ℤ)| = 1 - (dividend % divisor : ℕ) / divisor := by
      rw [Int.cast_natCast, Nat.cast_succ, add_sub_add_left_eq_sub, abs_sub_comm,
        abs_of_pos (sub_pos.2 hlt)]
    have hge : 1 / 2 ≤ ((dividend % divisor : ℕ) : ℚ) / divisor := by
      rcases hup with hmore | ⟨heq, -⟩
      · exact (not_le.1 (mt hhalf.1 (not_le.2 hmore))).le
      · exact (htie.2 heq).ge
    rw [hround, hdistance]
    refine ⟨by linarith, fun heq => ?_⟩
    have hboth := htie.1 (by linarith)
    rw [Int.even_coe_nat, Nat.even_iff]
    omega
  · have hround : roundedQuotient dividend divisor = dividend / divisor := if_neg hup
    have hdistance : |((dividend / divisor : ℕ) : ℚ) + (dividend % divisor : ℕ) / divisor -
        ((dividend / divisor : ℕ) : ℤ)| = (dividend % divisor : ℕ) / divisor := by
      rw [Int.cast_natCast, add_sub_cancel_left, abs_of_nonneg hnonneg]
    rw [hround, hdistance]
    refine ⟨hhalf.2 (by omega), fun heq => ?_⟩
    have hboth := htie.1 heq
    rw [Int.even_coe_nat, Nat.even_iff]
    omega

end Rounding

end Codec
end Dbal
