import Worklist.Number.Extended
import Worklist.Proofs.Number.Nearest

/-!
# Scaling loses little

Every step of a scaling by a power of ten rounds to sixty-four bits, so it keeps almost all of the
number. The bound that is carried through the steps is far coarser than the rounding, and still
shows that a number which is not too near to zero does not become zero.
-/

set_option autoImplicit false

namespace Worklist.Number

/-- A quotient of more than half the least number is not rounded to zero. -/
theorem Binary64.mantissa_ne_zero_of_nearest {negative : Bool} {num den : ℕ} (positive : 0 < den)
    (above : (2 : ℚ) ^ (-1075 : ℤ) < num / den) {x : Binary64}
    (h : nearest negative num den = some x) : x.mantissa ≠ 0 ∧ x.negative = negative := by
  have nonzero : num ≠ 0 := by
    rintro rfl
    rw [Nat.cast_zero, zero_div] at above
    exact absurd above (two_zpow_pos _).le.not_gt
  obtain ⟨e, m, unit, rounded, size, sign⟩ := unit_of_nearest nonzero positive h
  refine ⟨fun zero => ?_, sign⟩
  have scale := two_zpow_pos e
  have none : (m : ℚ) = 0 := by
    unfold magnitude at size
    rw [zero, Nat.cast_zero, zero_mul] at size
    exact (mul_eq_zero.mp size.symm).resolve_right scale.ne'
  have small : (num : ℚ) / den ≤ 1 / 2 * 2 ^ e := by
    have high := rounded.high
    rw [none, zero_add, div_le_iff₀ scale] at high
    exact high
  rcases unit.low with least | low
  · rw [least] at small
    refine absurd above (not_lt.mpr (small.trans_eq ?_))
    rw [show (-1075 : ℤ) = -1 + -1074 from rfl, zpow_add₀ two_ne_zero, zpow_neg_one, one_div]
  · have large := two_zpow_add_natCast e 52
    push_cast at large
    rw [large] at low
    linarith

namespace Extended

/-- The number that a mantissa and an exponent stand for. -/
def value (x : Extended) : ℚ :=
  x.mantissa * 2 ^ x.exponent

/-- What a rounding keeps of a number at least. -/
def keptPart : ℚ := 999 / 1000

/-- Rounding never takes everything away. -/
theorem keptPart_pos : 0 < keptPart := by
  unfold keptPart
  norm_num

/-- What rounding keeps is no more than the whole. -/
theorem keptPart_le_one : keptPart ≤ 1 := by
  unfold keptPart
  norm_num

/-- Extended numbers are not negative. -/
theorem value_nonneg (x : Extended) : 0 ≤ x.value :=
  mul_nonneg (Nat.cast_nonneg _) (two_zpow_pos _).le

/-- A large quotient loses little when it is rounded to a whole number. -/
theorem le_roundQuotient {num den : ℕ} (positive : 0 < den) (large : 500 ≤ (num : ℚ) / den) :
    keptPart * (num / den) ≤ Binary64.roundQuotient num den := by
  have high := (Binary64.roundsTo_roundQuotient num positive).high
  unfold keptPart
  linarith

/-- What is rounded to the extended format keeps its kept part at least. -/
theorem le_value_rounded (mantissa : ℕ) (exponent : ℤ) :
    keptPart * (mantissa * 2 ^ exponent) ≤ (rounded mantissa exponent).value := by
  have scale := two_zpow_pos exponent
  have split : ((mantissa : ℚ) / twoTo (mantissa.log2 - 63)) *
      2 ^ (exponent + (mantissa.log2 - 63 : ℕ)) = mantissa * 2 ^ exponent := by
    have nonzero : ((twoTo (mantissa.log2 - 63) : ℕ) : ℚ) ≠ 0 :=
      Nat.cast_ne_zero.mpr (twoTo_pos _).ne'
    rw [two_zpow_add_natCast, ← cast_twoTo, ← mul_assoc, div_mul_cancel₀ _ nonzero]
  unfold value rounded
  simp only
  rw [← split, ← mul_assoc]
  refine mul_le_mul_of_nonneg_right ?_ (two_zpow_pos _).le
  by_cases short : mantissa.log2 ≤ 63
  -- nothing is cut off a short mantissa
  · have none : mantissa.log2 - 63 = 0 := by omega
    have whole : Binary64.roundQuotient mantissa (twoTo 0) = mantissa := by
      show Binary64.roundQuotient mantissa 1 = mantissa
      unfold Binary64.roundQuotient
      rw [Nat.mod_one, Nat.div_one, if_pos (by decide)]
    rw [none, whole, cast_twoTo, pow_zero, div_one]
    exact mul_le_of_le_one_left (Nat.cast_nonneg _) keptPart_le_one
  · apply le_roundQuotient (twoTo_pos _)
    have nonzero : mantissa ≠ 0 := by
      rintro rfl
      exact short (by decide)
    have low := Nat.log2_self_le nonzero
    rw [cast_twoTo, le_div_iff₀ (by positivity)]
    have bits : 2 ^ 63 * 2 ^ (mantissa.log2 - 63) ≤ mantissa := by
      rw [← pow_add, Nat.add_sub_of_le (by omega)]
      exact low
    have cast : ((2 : ℚ) ^ 63 * 2 ^ (mantissa.log2 - 63)) ≤ mantissa := by exact_mod_cast bits
    refine le_trans (mul_le_mul_of_nonneg_right ?_ (by positivity)) cast
    norm_num

/-- A power of ten in the extended format has its kept part at least. -/
theorem le_value_powerOfTen (k : ℤ) : keptPart * 10 ^ k ≤ (powerOfTen k).value := by
  unfold powerOfTen
  split_ifs with whole
  · have power : ((tenTo k.toNat : ℕ) : ℚ) * 2 ^ (0 : ℤ) = 10 ^ k := by
      rw [cast_tenTo, zpow_zero, mul_one, ← zpow_natCast, Int.toNat_of_nonneg whole]
    rw [← power]
    exact le_value_rounded _ _
  · have positive := tenTo_pos (-k).toNat
    set den := tenTo (-k).toNat with hden
    have power : (twoTo (den.log2 + 64) : ℚ) / den * 2 ^ (-(den.log2 + 64 : ℕ) : ℤ) = 10 ^ k := by
      have negated : (10 : ℚ) ^ k = 1 / den := by
        rw [hden, cast_tenTo, ← zpow_natCast, Int.toNat_of_nonneg (by omega), zpow_neg, one_div,
          inv_inv]
      rw [negated, zpow_neg, zpow_natCast, cast_twoTo]
      field_simp
    unfold value
    simp only
    rw [← power, ← mul_assoc]
    refine mul_le_mul_of_nonneg_right (le_roundQuotient positive ?_) (two_zpow_pos _).le
    have high : den < 2 ^ (den.log2 + 1) := Nat.lt_log2_self
    have wide : (den : ℚ) ≤ 2 ^ (den.log2 + 1) := by exact_mod_cast high.le
    rw [le_div_iff₀ (Nat.cast_pos.mpr positive), cast_twoTo]
    have split : (2 : ℚ) ^ (den.log2 + 64) = 2 ^ (den.log2 + 1) * 2 ^ 63 := by
      rw [← pow_add]
    rw [split]
    linarith

/-- A product in the extended format has its kept part at least. -/
theorem le_value_mul (x y : Extended) : keptPart * (x.value * y.value) ≤ (x.mul y).value := by
  have product : x.value * y.value =
      (x.mantissa * y.mantissa : ℕ) * 2 ^ (x.exponent + y.exponent) := by
    unfold value
    rw [zpow_add₀ two_ne_zero]
    push_cast
    ring
  rw [product]
  exact le_value_rounded _ _

/-- Each step of scaling loses twice at most: the power of ten is rounded, and then the product. -/
theorem le_value_steps (k : ℤ) (n : ℕ) (x : Extended) :
    (keptPart ^ 2) ^ n * (10 ^ k) ^ n * x.value ≤ (steps k n x).value := by
  have kept := keptPart_pos
  have ten : (0 : ℚ) < 10 ^ k := zpow_pos (by norm_num) k
  induction n generalizing x with
  | zero => rw [pow_zero, pow_zero, one_mul, one_mul, steps]
  | succ n ih =>
    have step : keptPart ^ 2 * 10 ^ k * x.value ≤ (x.mul (powerOfTen k)).value := by
      refine le_trans ?_ (le_value_mul x (powerOfTen k))
      have factor := mul_le_mul_of_nonneg_left (le_value_powerOfTen k)
        (mul_nonneg kept.le x.value_nonneg)
      linarith
    calc (keptPart ^ 2) ^ (n + 1) * (10 ^ k) ^ (n + 1) * x.value
        = (keptPart ^ 2) ^ n * (10 ^ k) ^ n * (keptPart ^ 2 * 10 ^ k * x.value) := by ring
      _ ≤ (keptPart ^ 2) ^ n * (10 ^ k) ^ n * (x.mul (powerOfTen k)).value :=
        mul_le_mul_of_nonneg_left step (by positivity)
      _ ≤ (steps k (n + 1) x).value := ih _

/-- A scaling by less than four hundred places takes at most twenty-one steps. -/
theorem le_value_scale (x : Extended) {power : ℤ} (small : power.natAbs < 400) :
    keptPart ^ 42 * (10 ^ power * x.value) ≤ (x.scale power).value := by
  have kept := keptPart_pos
  have nonneg := x.value_nonneg
  have ten (k : ℤ) : (0 : ℚ) < 10 ^ k := zpow_pos (by norm_num) k
  unfold scale
  simp only
  set n := power.natAbs with hn
  set sign := power.sign with hsign
  have places : power = 100 * sign * (n / 100 : ℕ) + 10 * sign * (n % 100 / 10 : ℕ) +
      sign * (n % 10 : ℕ) := by
    have whole : (n : ℤ) = 100 * (n / 100 : ℕ) + 10 * (n % 100 / 10 : ℕ) + (n % 10 : ℕ) := by
      omega
    calc power = sign * n := (Int.sign_mul_natAbs power).symm
      _ = _ := by
        rw [whole]
        ring
  have powers : (10 : ℚ) ^ power = (10 ^ (100 * sign)) ^ (n / 100) *
      (10 ^ (10 * sign)) ^ (n % 100 / 10) * (10 ^ sign) ^ (n % 10) := by
    rw [places, zpow_add₀ (by norm_num), zpow_add₀ (by norm_num)]
    simp only [zpow_mul, zpow_natCast]
  have few : 2 * (n % 10 + n % 100 / 10 + n / 100) ≤ 42 := by omega
  have loss : keptPart ^ 42 ≤
      (keptPart ^ 2) ^ (n % 10) * (keptPart ^ 2) ^ (n % 100 / 10) * (keptPart ^ 2) ^ (n / 100) := by
    rw [← pow_add, ← pow_add, ← pow_mul]
    exact pow_le_pow_of_le_one kept.le keptPart_le_one few
  have hundreds := le_value_steps (100 * sign) (n / 100) x
  have tens := le_value_steps (10 * sign) (n % 100 / 10) (steps (100 * sign) (n / 100) x)
  refine le_trans ?_ (le_value_steps sign (n % 10) _)
  calc keptPart ^ 42 * (10 ^ power * x.value)
      ≤ (keptPart ^ 2) ^ (n % 10) * (keptPart ^ 2) ^ (n % 100 / 10) *
          (keptPart ^ 2) ^ (n / 100) * (10 ^ power * x.value) :=
        mul_le_mul_of_nonneg_right loss (mul_nonneg (ten power).le nonneg)
    _ = (keptPart ^ 2) ^ (n % 10) * (10 ^ sign) ^ (n % 10) *
          ((keptPart ^ 2) ^ (n % 100 / 10) * (10 ^ (10 * sign)) ^ (n % 100 / 10) *
            ((keptPart ^ 2) ^ (n / 100) * (10 ^ (100 * sign)) ^ (n / 100) * x.value)) := by
        rw [powers]
        ring
    _ ≤ _ := by
        refine mul_le_mul_of_nonneg_left (le_trans ?_ tens) (by positivity)
        exact mul_le_mul_of_nonneg_left hundreds (by positivity)

/-- What stays above half the least number is not rounded to zero. -/
theorem mantissa_ne_zero_of_toBinary64? {negative : Bool} {x : Extended}
    (above : (2 : ℚ) ^ (-1075 : ℤ) < x.value) {z : Binary64}
    (h : x.toBinary64? negative = some z) : z.mantissa ≠ 0 ∧ z.negative = negative := by
  unfold toBinary64? at h
  split_ifs at h
  refine Binary64.mantissa_ne_zero_of_nearest (twoTo_pos _) ?_ h
  have quotient : ((x.mantissa * twoTo x.exponent.toNat : ℕ) : ℚ) / twoTo (-x.exponent).toNat =
      x.value := by
    unfold value
    rw [← pow_toNat_div two_ne_zero x.exponent]
    push_cast
    ring
  rw [quotient]
  exact above

end Extended

end Worklist.Number
