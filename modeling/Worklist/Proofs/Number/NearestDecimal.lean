import Mathlib.Tactic.NormNum
import Worklist.Proofs.Number.ShortestDigits

/-!
# The number nearest to a decimal

Half a unit beyond the greatest number there is none that is nearest, and up to half of the least
one zero is. Between these two ends every quotient has a number of its own size. A decimal is
rounded as the quotient that it is: the powers of ten that decide on their own are those that lie
beyond the ends.
-/

set_option autoImplicit false

namespace Worklist.Number.Binary64

/-! ## The ends of the format -/

/-- From here on no number is nearest: half a unit beyond the greatest one. -/
def tooLarge : ℚ := (2 ^ 53 - 1 / 2) * 2 ^ (971 : ℤ)

/-- Up to here zero is nearest: half of the least number. -/
def tooSmall : ℚ := 2 ^ (-1075 : ℤ)

/-- The least number that is too large lies in the last octave of the format. -/
theorem tooLarge_bounds : (2 : ℚ) ^ (1023 : ℤ) ≤ tooLarge ∧ tooLarge < 2 ^ (1024 : ℤ) := by
  have scale := two_zpow_pos 971
  have half : (2 : ℚ) ^ (1023 : ℤ) = 2 ^ 52 * 2 ^ (971 : ℤ) := two_zpow_add_natCast 971 52
  have full : (2 : ℚ) ^ (1024 : ℤ) = 2 ^ 53 * 2 ^ (971 : ℤ) := two_zpow_add_natCast 971 53
  unfold tooLarge
  rw [half, full]
  exact ⟨mul_le_mul_of_nonneg_right (by norm_num) scale.le,
    mul_lt_mul_of_pos_right (by norm_num) scale⟩

/-- Half a unit below an even number a quotient is rounded to that number, and no earlier. -/
theorem RoundsTo.lt_iff {r : ℚ} {m k : ℕ} (h : RoundsTo r m) (most : m ≤ k) (even : k % 2 = 0) :
    r < k - 1 / 2 ↔ m ≠ k := by
  constructor
  · rintro less rfl
    exact absurd h.low (not_le.mpr less)
  · intro other
    have next : ((m + 1 : ℕ) : ℚ) ≤ k := by exact_mod_cast Nat.lt_of_le_of_ne most other
    push_cast at next
    have high := h.high
    refine lt_of_le_of_ne (by linarith) fun tie => ?_
    have below := h.even_of_tie (Or.inr (by linarith))
    have neighbours : m + 1 = k := by
      have same : (m : ℚ) + 1 = k := by linarith
      exact_mod_cast same
    omega

section Ends

variable {num den : ℕ} {negative : Bool} {q : ℚ} {e : ℤ} {m : ℕ}

/-- The numbers of the greatest exponent end half a unit beyond the last one. -/
theorem lt_tooLarge_iff (unit : UnitOf q e) (rounded : RoundsTo (q / 2 ^ e) m) :
    q < tooLarge ↔ e < 971 ∨ e = 971 ∧ m ≠ twoTo 53 := by
  obtain ⟨short, -⟩ := mantissa_bounds unit rounded
  have last : q < tooLarge ↔ q / 2 ^ (971 : ℤ) < (twoTo 53 : ℕ) - 1 / 2 := by
    rw [div_lt_iff₀ (two_zpow_pos 971), cast_twoTo]
    rfl
  rcases Int.lt_trichotomy e 971 with less | rfl | more
  · have small : q < tooLarge := by
      calc q < 2 ^ (e + 53) := unit.high
        _ ≤ 2 ^ (1023 : ℤ) := two_zpow_le_iff.mpr (by omega)
        _ ≤ tooLarge := tooLarge_bounds.1
    exact iff_of_true small (Or.inl less)
  · rw [last, rounded.lt_iff short (by decide)]
    simp
  · refine iff_of_false ?_ (by omega)
    have low := unit.low.resolve_left (by omega)
    have large : tooLarge < q := by
      calc tooLarge < 2 ^ (1024 : ℤ) := tooLarge_bounds.2
        _ ≤ 2 ^ (e + 52) := two_zpow_le_iff.mpr (by omega)
        _ ≤ q := low
    exact large.not_gt

/-- A quotient has no nearest number if it is too large. -/
theorem nearest_eq_none_iff (positive : 0 < den) :
    nearest negative num den = none ↔ tooLarge ≤ (num : ℚ) / den := by
  by_cases none : num = 0
  · subst none
    have finite : nearest negative 0 den = some (zero negative) := rfl
    have small : ¬tooLarge ≤ ((0 : ℕ) : ℚ) / den := by
      rw [Nat.cast_zero, zero_div, not_le]
      exact (two_zpow_pos _).trans_le tooLarge_bounds.1
    rw [finite]
    exact iff_of_false nofun small
  · have unit := unitOf_unitExponent none positive
    obtain ⟨m, rounded⟩ := exists_roundsTo num positive (unitExponent num den)
    rw [nearest_eq none positive unit rounded, ← not_lt, lt_tooLarge_iff unit rounded,
      ← canonical_carry_iff unit rounded]
    split_ifs with inside
    · simp [inside]
    · simp [inside]

/-- A number without a mantissa is the zero of its sign. -/
theorem eq_zero_of_mantissa {x : Binary64} (h : x.mantissa = 0) : x = zero x.negative := by
  obtain ⟨negative, mantissa, exponent, canonical⟩ := x
  obtain rfl : mantissa = 0 := h
  obtain ⟨-, -, -, full⟩ := canonical
  obtain rfl : exponent = -1074 := full.resolve_left (by decide)
  rfl

/-- The nearest number of a quotient is zero if the quotient is too small for any other. -/
theorem nearest_eq_zero_iff (positive : 0 < den) :
    nearest negative num den = some (zero negative) ↔ (num : ℚ) / den ≤ tooSmall := by
  by_cases none : num = 0
  · subst none
    refine iff_of_true rfl ?_
    rw [Nat.cast_zero, zero_div]
    exact (two_zpow_pos _).le
  have half : tooSmall = 1 / 2 * 2 ^ (-1074 : ℤ) := by
    unfold tooSmall
    rw [show (-1075 : ℤ) = -1 + -1074 from rfl, zpow_add₀ two_ne_zero]
    norm_num
  constructor
  · intro found
    obtain ⟨e, m, unit, rounded, size, -⟩ := unit_of_nearest none positive found
    have nothing : m = 0 := by
      have own : (zero negative).magnitude = 0 := zero_mul _
      rw [own, eq_comm, mul_eq_zero] at size
      exact_mod_cast size.resolve_right (two_zpow_pos e).ne'
    subst nothing
    obtain rfl : e = -1074 := (mantissa_bounds unit rounded).2.resolve_left (by decide)
    have high := rounded.high
    rw [div_le_iff₀ (two_zpow_pos _), Nat.cast_zero, zero_add] at high
    rw [half]
    exact high
  · intro small
    have unit := unitOf_unitExponent none positive
    have least : unitExponent num den = -1074 := by
      refine unit.low.resolve_right fun low => ?_
      have exponents := two_zpow_le_iff.mp (low.trans small)
      have bound := unit.least
      omega
    rw [least] at unit
    have rounded : RoundsTo ((num : ℚ) / den / 2 ^ (-1074 : ℤ)) 0 := by
      have above : (0 : ℚ) ≤ (num : ℚ) / den / 2 ^ (-1074 : ℤ) :=
        div_nonneg (by positivity) (two_zpow_pos _).le
      refine ⟨?_, ?_, fun _ => rfl⟩
      · rw [Nat.cast_zero]
        linarith
      · rw [div_le_iff₀ (two_zpow_pos _), Nat.cast_zero, zero_add, ← half]
        exact small
    rw [nearest_eq none positive unit rounded]
    rfl

end Ends

/-! ## Decimals as quotients -/

section Decimals

variable {negative : Bool} {coefficient : ℕ} {power : ℤ}

/-- A decimal as a quotient. -/
theorem decimal_quotient (coefficient : ℕ) (power : ℤ) :
    ((coefficient * tenTo power.toNat : ℕ) : ℚ) / (tenTo (-power).toNat : ℕ) =
      coefficient * 10 ^ power := by
  rw [← pow_toNat_div (b := 10) (by norm_num) power]
  push_cast
  rw [mul_div_assoc]

/-- A coefficient with so great a power of ten is too large, whatever it is. -/
theorem tooLarge_le_of_power (nonzero : coefficient ≠ 0) (large : 400 < power) :
    tooLarge ≤ coefficient * 10 ^ power := by
  have one : (1 : ℚ) ≤ coefficient := by exact_mod_cast Nat.one_le_iff_ne_zero.mpr nonzero
  calc tooLarge ≤ 2 ^ (1024 : ℤ) := tooLarge_bounds.2.le
    _ ≤ 2 ^ (3 * power) := two_zpow_le_iff.mpr (by omega)
    _ = 8 ^ power := by
      rw [zpow_mul]
      norm_num
    _ ≤ 10 ^ power := zpow_le_zpow_left₀ (by omega) (by norm_num) (by norm_num)
    _ ≤ coefficient * 10 ^ power := le_mul_of_one_le_left (ten_zpow_pos power).le one

/-- A coefficient with so small a power of ten is too small for its digits to matter. -/
theorem le_tooSmall_of_power (nonzero : coefficient ≠ 0)
    (small : (coefficient.log2 : ℤ) + 1080 < -3 * power) :
    coefficient * 10 ^ power ≤ tooSmall := by
  obtain ⟨-, high⟩ := log2_bounds nonzero
  have powers : (10 : ℚ) ^ power ≤ 2 ^ (3 * power) := by
    have inverse : (8 : ℚ) ^ (-power) ≤ 10 ^ (-power) :=
      zpow_le_zpow_left₀ (by omega) (by norm_num) (by norm_num)
    rw [zpow_neg, zpow_neg, inv_le_inv₀ (by positivity) (by positivity)] at inverse
    rw [zpow_mul]
    norm_num
    exact inverse
  calc (coefficient : ℚ) * 10 ^ power
      ≤ 2 ^ ((coefficient.log2 : ℤ) + 1) * 2 ^ (3 * power) :=
        mul_le_mul high.le powers (ten_zpow_pos power).le (two_zpow_pos _).le
    _ = 2 ^ ((coefficient.log2 : ℤ) + 1 + 3 * power) := (zpow_add₀ two_ne_zero _ _).symm
    _ ≤ tooSmall := two_zpow_le_iff.mpr (by omega)

/-- A decimal is rounded as a quotient: no power of ten is decided otherwise. -/
theorem ofDecimal_eq_nearest (negative : Bool) (coefficient : ℕ) (power : ℤ) :
    ofDecimal negative coefficient power =
      nearest negative (coefficient * tenTo power.toNat) (tenTo (-power).toNat) := by
  have positive := tenTo_pos (-power).toNat
  unfold ofDecimal
  split_ifs with none large small whole
  · rw [none, Nat.zero_mul]
    rfl
  · refine ((nearest_eq_none_iff positive).mpr ?_).symm
    rw [decimal_quotient]
    exact tooLarge_le_of_power none large
  · refine ((nearest_eq_zero_iff positive).mpr ?_).symm
    rw [decimal_quotient]
    exact le_tooSmall_of_power none small
  · have one : (-power).toNat = 0 := by omega
    rw [one]
    rfl
  · have one : power.toNat = 0 := by omega
    rw [one]
    exact congrArg (nearest negative · _) (Nat.mul_one coefficient).symm

/-- A decimal number has no nearest number if it is too large. -/
theorem ofDecimal_eq_none_iff :
    ofDecimal negative coefficient power = none ↔ tooLarge ≤ coefficient * 10 ^ power := by
  rw [ofDecimal_eq_nearest, nearest_eq_none_iff (tenTo_pos _), decimal_quotient]

/-- The nearest number of a decimal number is zero if the decimal number is too small. -/
theorem ofDecimal_eq_zero_iff :
    ofDecimal negative coefficient power = some (zero negative) ↔
      coefficient * 10 ^ power ≤ tooSmall := by
  rw [ofDecimal_eq_nearest, nearest_eq_zero_iff (tenTo_pos _), decimal_quotient]

/-- A decimal in the rounding interval of a number is read as the number. -/
theorem ofDecimal_of_covers {x : Binary64} (nonzero : x.mantissa ≠ 0)
    (h : x.Covers (coefficient * 10 ^ power)) :
    ofDecimal x.negative coefficient power = some x := by
  rw [ofDecimal_eq_nearest]
  refine nearest_of_covers nonzero (tenTo_pos _) ?_
  rw [decimal_quotient]
  exact h

end Decimals

end Worklist.Number.Binary64
