import Mathlib.Algebra.Order.Field.Power
import Mathlib.Data.Rat.Cast.Order
import Mathlib.Tactic.FieldSimp
import Mathlib.Tactic.Linarith
import Mathlib.Tactic.Positivity
import Mathlib.Tactic.Ring
import Worklist.Proofs.Number.Units

/-!
# The nearest binary number

`nearest` finds the unit in which a quotient has fifty-three bits, and rounds the quotient to a
whole number of these units. The outcome is as near to the quotient as any number of the format.
From the other side, every number has a rounding interval, and `nearest` answers the number for all
quotients of it. The ends of the interval lie half a unit away, or a quarter below a power of two,
and belong to it if the mantissa is even.
-/

set_option autoImplicit false

namespace Worklist.Number

/-! ## Powers as rational numbers -/

/-- The computed power of two is the power of two. -/
@[simp, push_cast]
theorem cast_twoTo (k : ℕ) : (twoTo k : ℚ) = 2 ^ k :=
  Nat.cast_pow 2 k

/-- The computed power of ten is the power of ten. -/
@[simp, push_cast]
theorem cast_tenTo (k : ℕ) : (tenTo k : ℚ) = 10 ^ k :=
  Nat.cast_pow 10 k

/-- A power as a quotient of powers without negative exponents. -/
theorem pow_toNat_div {b : ℚ} (nonzero : b ≠ 0) (e : ℤ) :
    b ^ e.toNat / b ^ (-e).toNat = b ^ e := by
  rw [← zpow_natCast, ← zpow_natCast, ← zpow_sub₀ nonzero]
  congr 1
  omega

/-- Powers of two are positive. -/
theorem two_zpow_pos (e : ℤ) : (0 : ℚ) < 2 ^ e := zpow_pos two_pos e

/-- A natural summand of an exponent is a factor. -/
theorem two_zpow_add_natCast (e : ℤ) (k : ℕ) : (2 : ℚ) ^ (e + k) = 2 ^ k * 2 ^ e := by
  rw [zpow_add₀ two_ne_zero, zpow_natCast, mul_comm]

/-- Powers of two are in the order of their exponents. -/
theorem two_zpow_le_iff {j k : ℤ} : (2 : ℚ) ^ j ≤ 2 ^ k ↔ j ≤ k :=
  zpow_le_zpow_iff_right₀ one_lt_two

/-- Powers of two are strictly in the order of their exponents. -/
theorem two_zpow_lt_iff {j k : ℤ} : (2 : ℚ) ^ j < 2 ^ k ↔ j < k :=
  zpow_lt_zpow_iff_right₀ one_lt_two

namespace Binary64

/-! ## Rounding to a whole number -/

/-- A whole number is at most a half away from a rational one, and even if it is a half. -/
structure RoundsTo (q : ℚ) (m : ℕ) : Prop where
  low : m - 1 / 2 ≤ q
  high : q ≤ m + 1 / 2
  even_of_tie : q = m - 1 / 2 ∨ q = m + 1 / 2 → m % 2 = 0

/-- A quotient is rounded to the nearest whole number, and halfway to the even one. -/
theorem roundsTo_roundQuotient (num : ℕ) {den : ℕ} (positive : 0 < den) :
    RoundsTo (num / den) (roundQuotient num den) := by
  have wide : (0 : ℚ) < den := Nat.cast_pos.mpr positive
  have whole : (num : ℚ) / den = (num / den : ℕ) + (num % den : ℕ) / den := by
    have split : (num : ℚ) = den * (num / den : ℕ) + (num % den : ℕ) := by
      exact_mod_cast (Nat.div_add_mod num den).symm
    field_simp
    linarith
  have next : ((num / den + 1 : ℕ) : ℚ) = (num / den : ℕ) + 1 := Nat.cast_succ _
  have above : (0 : ℚ) ≤ (num % den : ℕ) / den := by positivity
  have below : ((num % den : ℕ) : ℚ) / den < 1 := by
    rw [div_lt_one wide]
    exact_mod_cast Nat.mod_lt num positive
  -- the part below the point says which of two whole numbers is nearer
  have less_iff : 2 * (num % den) < den ↔ ((num % den : ℕ) : ℚ) / den < 1 / 2 := by
    rw [div_lt_div_iff₀ wide two_pos, one_mul, mul_comm]
    exact_mod_cast Iff.rfl
  have more_iff : den < 2 * (num % den) ↔ (1 : ℚ) / 2 < (num % den : ℕ) / den := by
    rw [div_lt_div_iff₀ two_pos wide, one_mul, mul_comm]
    exact_mod_cast Iff.rfl
  unfold roundQuotient
  simp only [less_iff, more_iff]
  rw [whole]
  generalize ((num % den : ℕ) : ℚ) / den = t at above below ⊢
  generalize num / den = k at next ⊢
  split_ifs with less more even
  · refine ⟨by linarith, by linarith, ?_⟩
    rintro (tie | tie)
    · linarith
    · linarith
  · refine ⟨by linarith, by linarith, ?_⟩
    rintro (tie | tie)
    · linarith
    · linarith
  · have half : t = 1 / 2 := le_antisymm (not_lt.mp more) (not_lt.mp less)
    exact ⟨by linarith, by linarith, fun _ => even⟩
  · have half : t = 1 / 2 := le_antisymm (not_lt.mp more) (not_lt.mp less)
    refine ⟨by linarith, by linarith, fun _ => ?_⟩
    omega

/-- There is one such whole number: of two neighbours only one is even. -/
theorem RoundsTo.eq {q : ℚ} {m m' : ℕ} (h : RoundsTo q m) (h' : RoundsTo q m') : m = m' := by
  have less {k k' : ℕ} (hk : RoundsTo q k) (hk' : RoundsTo q k') : ¬k < k' := by
    intro lt
    have next : ((k + 1 : ℕ) : ℚ) ≤ k' := by exact_mod_cast lt
    push_cast at next
    have upper := hk.high
    have lower := hk'.low
    have tie : (k' : ℚ) = (k + 1 : ℕ) := by
      push_cast
      linarith
    have even := hk.even_of_tie (Or.inr (by linarith))
    have even' := hk'.even_of_tie (Or.inl (by linarith))
    have neighbours : k' = k + 1 := by exact_mod_cast tie
    omega
  exact Nat.le_antisymm (Nat.le_of_not_lt (less h' h)) (Nat.le_of_not_lt (less h h'))

/-- No whole number is nearer. -/
theorem RoundsTo.abs_sub_le {q : ℚ} {m : ℕ} (h : RoundsTo q m) (k : ℕ) :
    |(m : ℚ) - q| ≤ |(k : ℚ) - q| := by
  have own : |(m : ℚ) - q| ≤ 1 / 2 := by
    rw [abs_le]
    constructor
    · linarith [h.high]
    · linarith [h.low]
  rcases Nat.lt_trichotomy k m with lt | rfl | lt
  · have next : ((k + 1 : ℕ) : ℚ) ≤ m := by exact_mod_cast lt
    push_cast at next
    have low := h.low
    rw [abs_sub_comm (k : ℚ) q]
    exact own.trans (le_trans (by linarith) (le_abs_self _))
  · exact le_refl _
  · have next : ((m + 1 : ℕ) : ℚ) ≤ k := by exact_mod_cast lt
    push_cast at next
    have high := h.high
    exact own.trans (le_trans (by linarith) (le_abs_self _))

/-! ## The unit of a quotient -/

/-- The exponent at which a number has fifty-three bits before the point, or the least one. -/
structure UnitOf (q : ℚ) (e : ℤ) : Prop where
  least : -1074 ≤ e
  high : q < 2 ^ (e + 53)
  low : e = -1074 ∨ 2 ^ (e + 52) ≤ q

/-- A number has one unit in the last place. -/
theorem UnitOf.eq {q : ℚ} {e e' : ℤ} (h : UnitOf q e) (h' : UnitOf q e') : e = e' := by
  have le {k k' : ℤ} (hk : UnitOf q k) (hk' : UnitOf q k') : k ≤ k' := by
    rcases hk.low with least | low
    · rw [least]
      exact hk'.least
    · have exponents := two_zpow_lt_iff.mp (low.trans_lt hk'.high)
      omega
  exact Int.le_antisymm (le h h') (le h' h)

/-- A number lies between the power of two of its logarithm and the next one. -/
theorem log2_bounds {n : ℕ} (nonzero : n ≠ 0) :
    (2 : ℚ) ^ (n.log2 : ℤ) ≤ n ∧ (n : ℚ) < 2 ^ ((n.log2 : ℤ) + 1) := by
  have low := Nat.log2_self_le nonzero
  have high : n < 2 ^ (n.log2 + 1) := Nat.lt_log2_self
  constructor
  · rw [zpow_natCast]
    exact_mod_cast low
  · have next : ((n.log2 : ℤ) + 1) = ((n.log2 + 1 : ℕ) : ℤ) := by push_cast; rfl
    rw [next, zpow_natCast]
    exact_mod_cast high

/-- The test against a power of two compares the quotient with it. -/
theorem belowPower_iff (num : ℕ) {den : ℕ} (positive : 0 < den) (k : ℤ) :
    belowPower num den k = true ↔ (num : ℚ) / den < 2 ^ k := by
  have wide : (0 : ℚ) < den := Nat.cast_pos.mpr positive
  have scale : (0 : ℚ) < 2 ^ (-k).toNat := by positivity
  rw [← pow_toNat_div two_ne_zero k, div_lt_div_iff₀ wide scale]
  unfold belowPower
  split_ifs with whole
  · have none : (-k).toNat = 0 := by omega
    rw [decide_eq_true_iff, none, pow_zero, mul_one, ← cast_twoTo, mul_comm (twoTo k.toNat : ℚ)]
    exact_mod_cast Iff.rfl
  · have none : k.toNat = 0 := by omega
    rw [decide_eq_true_iff, none, pow_zero, one_mul, ← cast_twoTo]
    exact_mod_cast Iff.rfl

/-- The logarithms of numerator and denominator leave two powers to choose from. -/
theorem quotient_bounds {num den : ℕ} (nonzero : num ≠ 0) (positive : 0 < den) :
    (2 : ℚ) ^ ((num.log2 : ℤ) - den.log2 - 1) ≤ num / den ∧
      (num : ℚ) / den < 2 ^ ((num.log2 : ℤ) - den.log2 + 1) := by
  have wide : (0 : ℚ) < den := Nat.cast_pos.mpr positive
  obtain ⟨num_low, num_high⟩ := log2_bounds nonzero
  obtain ⟨den_low, den_high⟩ := log2_bounds positive.ne'
  constructor
  · rw [le_div_iff₀ wide]
    calc (2 : ℚ) ^ ((num.log2 : ℤ) - den.log2 - 1) * den
        ≤ 2 ^ ((num.log2 : ℤ) - den.log2 - 1) * 2 ^ ((den.log2 : ℤ) + 1) :=
          mul_le_mul_of_nonneg_left den_high.le (two_zpow_pos _).le
      _ = 2 ^ (num.log2 : ℤ) := by
          rw [← zpow_add₀ two_ne_zero]
          congr 1
          ring
      _ ≤ num := num_low
  · rw [div_lt_iff₀ wide]
    calc (num : ℚ) < 2 ^ ((num.log2 : ℤ) + 1) := num_high
      _ = 2 ^ ((num.log2 : ℤ) - den.log2 + 1) * 2 ^ (den.log2 : ℤ) := by
          rw [← zpow_add₀ two_ne_zero]
          congr 1
          ring
      _ ≤ 2 ^ ((num.log2 : ℤ) - den.log2 + 1) * den :=
          mul_le_mul_of_nonneg_left den_low (two_zpow_pos _).le

/-- The quotient lies between the power of two of its order and the next one. -/
theorem binaryOrder_spec {num den : ℕ} (nonzero : num ≠ 0) (positive : 0 < den) :
    (2 : ℚ) ^ binaryOrder num den ≤ num / den ∧
      (num : ℚ) / den < 2 ^ (binaryOrder num den + 1) := by
  obtain ⟨low, high⟩ := quotient_bounds nonzero positive
  have test := belowPower_iff num positive ((num.log2 : ℤ) - den.log2)
  unfold binaryOrder
  simp only
  split_ifs with below
  · refine ⟨low, ?_⟩
    rw [sub_add_cancel]
    exact test.mp below
  · exact ⟨not_lt.mp fun less => below (test.mpr less), high⟩

/-- The computed exponent is that of the unit in the last place of the quotient. -/
theorem unitOf_unitExponent {num den : ℕ} (nonzero : num ≠ 0) (positive : 0 < den) :
    UnitOf (num / den) (unitExponent num den) := by
  obtain ⟨low, high⟩ := binaryOrder_spec nonzero positive
  unfold unitExponent
  constructor
  · omega
  · exact high.trans_le (two_zpow_le_iff.mpr (by omega))
  · by_cases least : binaryOrder num den - 52 ≤ -1074
    · exact Or.inl (by omega)
    · right
      have same : max (-1074) (binaryOrder num den - 52) + 52 = binaryOrder num den := by omega
      rw [same]
      exact low

/-! ## The number of a quotient -/

/-- The size of a number. -/
def magnitude (x : Binary64) : ℚ :=
  x.mantissa * 2 ^ x.exponent

/-- The size of a number is not negative. -/
theorem magnitude_nonneg (x : Binary64) : 0 ≤ x.magnitude :=
  mul_nonneg (Nat.cast_nonneg _) (two_zpow_pos _).le

/-- A carry keeps the size. -/
theorem carry_size (m : ℕ) (e : ℤ) : ((carry m e).1 : ℚ) * 2 ^ (carry m e).2 = m * 2 ^ e := by
  unfold carry
  split_ifs with full
  · rw [full, cast_twoTo, cast_twoTo, zpow_add₀ two_ne_zero]
    norm_num
    ring
  · rfl

variable {num den : ℕ} {negative : Bool}

/-- The number nearest to a quotient is made from the unit of the quotient and the quotient rounded
to a whole number of units. -/
theorem nearest_eq (nonzero : num ≠ 0) (positive : 0 < den) {e : ℤ} {m : ℕ}
    (unit : UnitOf (num / den) e) (rounded : RoundsTo (num / den / 2 ^ e) m) :
    nearest negative num den =
      if h : Canonical (carry m e).1 (carry m e).2 then some ⟨negative, _, _, h⟩ else none := by
  have same : unitExponent num den = e := (unitOf_unitExponent nonzero positive).eq unit
  have mantissa : (if 0 ≤ e then roundQuotient num (den * twoTo e.toNat)
      else roundQuotient (num * twoTo (-e).toNat) den) = m := by
    split_ifs with whole
    · have quotient : (num : ℚ) / den / 2 ^ e = num / (den * twoTo e.toNat : ℕ) := by
        have none : (-e).toNat = 0 := by omega
        rw [← pow_toNat_div two_ne_zero e, none, pow_zero, div_one, div_div]
        push_cast
        rfl
      rw [quotient] at rounded
      exact (roundsTo_roundQuotient num (Nat.mul_pos positive (twoTo_pos _))).eq rounded
    · have quotient : (num : ℚ) / den / 2 ^ e = (num * twoTo (-e).toNat : ℕ) / den := by
        have none : e.toNat = 0 := by omega
        rw [← pow_toNat_div two_ne_zero e, none, pow_zero]
        push_cast
        field_simp
      rw [quotient] at rounded
      exact (roundsTo_roundQuotient _ positive).eq rounded
  unfold nearest
  rw [if_neg nonzero]
  simp only [same, mantissa]

/-- Every multiple of a unit is rounded to some whole number of units. -/
theorem exists_roundsTo (num : ℕ) {den : ℕ} (positive : 0 < den) (e : ℤ) :
    ∃ m, RoundsTo (num / den / 2 ^ e) m := by
  have quotient : (num : ℚ) / den / 2 ^ e =
      (num * twoTo (-e).toNat : ℕ) / (den * twoTo e.toNat : ℕ) := by
    rw [← pow_toNat_div two_ne_zero e]
    push_cast
    field_simp
  rw [quotient]
  exact ⟨_, roundsTo_roundQuotient _ (Nat.mul_pos positive (twoTo_pos _))⟩

/-- What is nearest to a quotient is a whole number of units of the quotient. -/
theorem unit_of_nearest (nonzero : num ≠ 0) (positive : 0 < den) {x : Binary64}
    (h : nearest negative num den = some x) :
    ∃ e m, UnitOf (num / den) e ∧ RoundsTo (num / den / 2 ^ e) m ∧ x.magnitude = m * 2 ^ e ∧
      x.negative = negative := by
  have unit := unitOf_unitExponent nonzero positive
  obtain ⟨m, rounded⟩ := exists_roundsTo num positive (unitExponent num den)
  refine ⟨_, m, unit, rounded, ?_, ?_⟩
  · rw [nearest_eq nonzero positive unit rounded] at h
    split_ifs at h
    rw [← Option.some.inj h]
    exact carry_size m _
  · rw [nearest_eq nonzero positive unit rounded] at h
    split_ifs at h
    rw [← Option.some.inj h]

/-- The nearest number has the sign that was asked for. -/
theorem negative_of_nearest {x : Binary64} (h : nearest negative num den = some x) :
    x.negative = negative := by
  unfold nearest at h
  split_ifs at h
  · rw [← Option.some.inj h]
    rfl
  · simp only at h
    split_ifs at h
    · rw [← Option.some.inj h]
    · rw [← Option.some.inj h]

/-- A rounded mantissa has fifty-three bits, up to the carry, and no fewer but at the least
exponent. -/
theorem mantissa_bounds {q : ℚ} {e : ℤ} {m : ℕ} (unit : UnitOf q e)
    (rounded : RoundsTo (q / 2 ^ e) m) :
    m ≤ twoTo 53 ∧ (twoTo 52 ≤ m ∨ e = -1074) := by
  have scale := two_zpow_pos e
  constructor
  · have within : q / 2 ^ e < 2 ^ 53 := by
      rw [div_lt_iff₀ scale, ← two_zpow_add_natCast]
      exact unit.high
    have bound : (m : ℚ) < (twoTo 53 + 1 : ℕ) := by
      push_cast
      linarith [rounded.low]
    exact Nat.lt_succ_iff.mp (by exact_mod_cast bound)
  · refine unit.low.symm.imp_left fun low => ?_
    have quotient : (2 : ℚ) ^ 52 ≤ q / 2 ^ e := by
      rw [le_div_iff₀ scale, ← two_zpow_add_natCast]
      exact low
    have bound : ((twoTo 52 : ℕ) : ℚ) < (m + 1 : ℕ) := by
      push_cast
      linarith [rounded.high]
    exact Nat.lt_succ_iff.mp (by exact_mod_cast bound)

/-- Only its exponent can be too large for the format. -/
theorem canonical_carry_iff {q : ℚ} {e : ℤ} {m : ℕ} (unit : UnitOf q e)
    (rounded : RoundsTo (q / 2 ^ e) m) :
    Canonical (carry m e).1 (carry m e).2 ↔ e < 971 ∨ e = 971 ∧ m ≠ twoTo 53 := by
  obtain ⟨short, full⟩ := mantissa_bounds unit rounded
  have least := unit.least
  unfold carry
  split_ifs with carried
  · constructor
    · rintro ⟨-, -, greatest, -⟩
      exact Or.inl (by omega)
    · intro inside
      have less : e < 971 := by
        rcases inside with less | ⟨-, other⟩
        · exact less
        · exact absurd carried other
      exact ⟨(by decide : twoTo 52 < twoTo 53), by omega, by omega, Or.inl (Nat.le_refl _)⟩
  · constructor
    · rintro ⟨-, -, greatest, -⟩
      have greatest : e ≤ 971 := greatest
      rcases Int.lt_or_eq_of_le greatest with less | last
      · exact Or.inl less
      · exact Or.inr ⟨last, carried⟩
    · intro inside
      exact ⟨Nat.lt_of_le_of_ne short carried, least, by omega, full⟩

/-- A quotient that is not too large has a nearest number. -/
theorem exists_nearest (nonzero : num ≠ 0) (positive : 0 < den)
    (small : (num : ℚ) / den < 2 ^ (1023 : ℤ)) : ∃ x, nearest negative num den = some x := by
  have unit := unitOf_unitExponent nonzero positive
  obtain ⟨m, rounded⟩ := exists_roundsTo num positive (unitExponent num den)
  rw [nearest_eq nonzero positive unit rounded, dif_pos]
  · exact ⟨_, rfl⟩
  refine (canonical_carry_iff unit rounded).mpr (Or.inl ?_)
  rcases unit.low with least | low
  · rw [least]
    decide
  · have exponents := two_zpow_lt_iff.mp (low.trans_lt small)
    omega

/-- A number with a unit at least as large is a whole number of units. -/
theorem magnitude_eq_mul (z : Binary64) {e : ℤ} (coarse : e ≤ z.exponent) :
    z.magnitude = (z.mantissa * 2 ^ (z.exponent - e).toNat : ℕ) * 2 ^ e := by
  unfold magnitude
  push_cast
  rw [mul_assoc, ← two_zpow_add_natCast, Int.toNat_of_nonneg (by omega), add_sub_cancel]

/-- All other numbers are not above the least one with the unit and a mantissa of full length. -/
theorem magnitude_le (z : Binary64) {e : ℤ} (fine : z.exponent < e) :
    z.magnitude ≤ (2 ^ 52 : ℕ) * 2 ^ e := by
  have short : (z.mantissa : ℚ) ≤ 2 ^ 53 := by exact_mod_cast z.canonical.1.le
  calc z.magnitude ≤ 2 ^ 53 * 2 ^ z.exponent :=
        mul_le_mul_of_nonneg_right short (two_zpow_pos _).le
    _ = 2 ^ (z.exponent + 53) := (two_zpow_add_natCast z.exponent 53).symm
    _ ≤ 2 ^ (e + 52) := two_zpow_le_iff.mpr (by omega)
    _ = (2 ^ 52 : ℕ) * 2 ^ e := by
      rw [Nat.cast_pow, Nat.cast_two]
      exact two_zpow_add_natCast e 52

/-- No number of the format is nearer to a quotient than the one that is nearest to it. -/
theorem abs_magnitude_sub_le (nonzero : num ≠ 0) (positive : 0 < den) {x : Binary64}
    (h : nearest negative num den = some x) (z : Binary64) :
    |x.magnitude - num / den| ≤ |z.magnitude - num / den| := by
  obtain ⟨e, m, unit, rounded, size, -⟩ := unit_of_nearest nonzero positive h
  have scale := two_zpow_pos e
  rw [size]
  generalize (num : ℚ) / den = q at unit rounded
  have inUnits (t : ℚ) : |t * 2 ^ e - q| = |t - q / 2 ^ e| * 2 ^ e := by
    rw [← abs_of_pos scale, ← abs_mul, sub_mul, abs_of_pos scale, div_mul_cancel₀ q scale.ne']
  have nearer (k : ℕ) : |(m : ℚ) * 2 ^ e - q| ≤ |(k : ℚ) * 2 ^ e - q| := by
    rw [inUnits, inUnits]
    exact mul_le_mul_of_nonneg_right (rounded.abs_sub_le k) scale.le
  rcases lt_or_ge z.exponent e with fine | coarse
  -- the least number with the unit is not above the quotient
  · have least : ((2 ^ 52 : ℕ) : ℚ) * 2 ^ e ≤ q := by
      have own := z.canonical.2.1
      rw [Nat.cast_pow, Nat.cast_two]
      exact (two_zpow_add_natCast e 52).symm.trans_le (unit.low.resolve_left (by omega))
    calc |(m : ℚ) * 2 ^ e - q| ≤ |((2 ^ 52 : ℕ) : ℚ) * 2 ^ e - q| := nearer _
      _ ≤ |z.magnitude - q| := by
          rw [abs_sub_comm _ q, abs_of_nonneg (sub_nonneg.mpr least), abs_sub_comm _ q]
          exact (sub_le_sub_left (z.magnitude_le fine) q).trans (le_abs_self _)
  · rw [z.magnitude_eq_mul coarse]
    exact nearer _

/-! ## Rounding intervals -/

/-- The lower end of the rounding interval, in quarters of the unit of a number. Below a power of
two numbers lie twice as close. -/
def lowQuarters (x : Binary64) : ℕ :=
  if x.mantissa = twoTo 52 ∧ -1074 < x.exponent then 4 * x.mantissa - 1 else 4 * x.mantissa - 2

/-- A rational number is in the rounding interval of a number. -/
structure Covers (x : Binary64) (q : ℚ) : Prop where
  low : x.lowQuarters * 2 ^ (x.exponent - 2) ≤ q
  high : q ≤ (4 * x.mantissa + 2 : ℕ) * 2 ^ (x.exponent - 2)
  even_of_end : q = x.lowQuarters * 2 ^ (x.exponent - 2) ∨
    q = (4 * x.mantissa + 2 : ℕ) * 2 ^ (x.exponent - 2) → x.mantissa % 2 = 0

namespace Covers

variable {x : Binary64} {q : ℚ}

/-- Four quarters are a unit. -/
theorem exponent_eq (x : Binary64) : (2 : ℚ) ^ x.exponent = 4 * 2 ^ (x.exponent - 2) := by
  have four := two_zpow_add_natCast (x.exponent - 2) 2
  push_cast at four
  rw [sub_add_cancel] at four
  linarith

/-- The lower end of what is rounded to a number lies at most half a unit below it. -/
theorem le_lowQuarters (x : Binary64) : 4 * x.mantissa - 2 ≤ x.lowQuarters := by
  unfold lowQuarters
  split_ifs <;> omega

/-- What is rounded to a number other than zero is positive. -/
theorem pos (h : x.Covers q) (nonzero : x.mantissa ≠ 0) : 0 < q := by
  have some : 0 < x.lowQuarters := by
    have bound := le_lowQuarters x
    omega
  exact (mul_pos (Nat.cast_pos.mpr some) (two_zpow_pos _)).trans_le h.low

/-- The intervals of all numbers but zero and the least one lie above the least one. -/
theorem large (h : x.Covers q) (nonzero : x.mantissa ≠ 0)
    (other : x.mantissa ≠ 1 ∨ x.exponent ≠ -1074) : 3 / 2 * 2 ^ (-1074 : ℤ) ≤ q := by
  obtain ⟨-, least, -, full⟩ := x.canonical
  have several : 2 ≤ x.mantissa := by
    rcases full with full | fine
    · have many : (2 : ℕ) ≤ twoTo 52 := by decide
      omega
    · omega
  have six : (6 : ℚ) ≤ x.lowQuarters := by
    have low := le_lowQuarters x
    exact_mod_cast by omega
  have quarter : (2 : ℚ) ^ (-1074 : ℤ) = 4 * 2 ^ (-1076 : ℤ) := by
    rw [show (-1074 : ℤ) = 2 + -1076 from rfl, zpow_add₀ two_ne_zero]
    congr 1
  calc (3 / 2 : ℚ) * 2 ^ (-1074 : ℤ) = 6 * 2 ^ (-1076 : ℤ) := by
        rw [quarter]
        ring
    _ ≤ x.lowQuarters * 2 ^ (x.exponent - 2) :=
        mul_le_mul six (two_zpow_le_iff.mpr (by omega)) (two_zpow_pos _).le (Nat.cast_nonneg _)
    _ ≤ q := h.low

/-- The quotients of an interval are less than half a unit away, and at half a unit the mantissa is
even. -/
theorem roundsTo (h : x.Covers q) (nonzero : x.mantissa ≠ 0) :
    RoundsTo (q / 2 ^ x.exponent) x.mantissa := by
  have scale := two_zpow_pos (x.exponent - 2)
  have low : (4 * x.mantissa - 2 : ℚ) * 2 ^ (x.exponent - 2) ≤ q := by
    refine le_trans (mul_le_mul_of_nonneg_right ?_ scale.le) h.low
    have bound : ((4 * x.mantissa - 2 : ℕ) : ℚ) ≤ x.lowQuarters := by
      exact_mod_cast le_lowQuarters x
    rw [Nat.cast_sub (by omega)] at bound
    push_cast at bound
    exact bound
  have high := h.high
  push_cast at high
  rw [exponent_eq]
  constructor
  · rw [le_div_iff₀ (by positivity)]
    linarith
  · rw [div_le_iff₀ (by positivity)]
    linarith
  · rw [div_eq_iff (by positivity), div_eq_iff (by positivity)]
    rintro (tie | tie)
    · by_cases power : x.mantissa = twoTo 52
      · rw [power]
        decide
      · apply h.even_of_end
        left
        unfold lowQuarters
        rw [if_neg fun both => power both.1, Nat.cast_sub (by omega)]
        push_cast
        linarith
    · apply h.even_of_end
      right
      push_cast
      linarith

/-- Not below the least number with its own exponent, the quotients of an interval have the unit of
the number. -/
theorem unitOf (h : x.Covers q) (own : twoTo 52 * 2 ^ x.exponent ≤ q ∨ x.exponent = -1074) :
    UnitOf q x.exponent := by
  obtain ⟨short, least, -, -⟩ := x.canonical
  refine ⟨least, ?_, ?_⟩
  · have bound : ((4 * x.mantissa + 2 : ℕ) : ℚ) < (4 * 2 ^ 53 : ℕ) := by
      have limit : x.mantissa < 2 ^ 53 := short
      exact_mod_cast by omega
    calc q ≤ (4 * x.mantissa + 2 : ℕ) * 2 ^ (x.exponent - 2) := h.high
      _ < (4 * 2 ^ 53 : ℕ) * 2 ^ (x.exponent - 2) :=
        mul_lt_mul_of_pos_right bound (two_zpow_pos _)
      _ = 2 ^ 53 * 2 ^ x.exponent := by
        rw [exponent_eq]
        push_cast
        ring
      _ = 2 ^ (x.exponent + 53) := (two_zpow_add_natCast x.exponent 53).symm
  · refine own.symm.imp_right fun low => ?_
    rw [cast_twoTo] at low
    exact (two_zpow_add_natCast x.exponent 52).trans_le low

/-- Only the interval of a power of two reaches below the least number with its exponent. -/
theorem mantissa_eq (h : x.Covers q) (below : q < twoTo 52 * 2 ^ x.exponent)
    (coarse : x.exponent ≠ -1074) : x.mantissa = twoTo 52 := by
  by_contra other
  have large : 2 ^ 52 < x.mantissa :=
    Nat.lt_of_le_of_ne (x.canonical.2.2.2.resolve_right coarse) (Ne.symm other)
  have bound : ((4 * 2 ^ 52 : ℕ) : ℚ) ≤ x.lowQuarters := by
    have low := le_lowQuarters x
    exact_mod_cast by omega
  have low := (mul_le_mul_of_nonneg_right bound (two_zpow_pos (x.exponent - 2)).le).trans h.low
  rw [exponent_eq, cast_twoTo] at below
  push_cast at low
  linarith

/-- There a quotient has the next smaller unit, and is rounded up to the power of two. -/
theorem roundsTo_power (h : x.Covers q) (below : q < twoTo 52 * 2 ^ x.exponent)
    (coarse : x.exponent ≠ -1074) :
    UnitOf q (x.exponent - 1) ∧ RoundsTo (q / 2 ^ (x.exponent - 1)) (twoTo 53) := by
  have least := x.canonical.2.1
  have scale := two_zpow_pos (x.exponent - 2)
  have power := h.mantissa_eq below coarse
  have low : ((4 * 2 ^ 52 - 1 : ℕ) : ℚ) * 2 ^ (x.exponent - 2) ≤ q := by
    have quarter : x.lowQuarters = 4 * 2 ^ 52 - 1 := by
      unfold lowQuarters
      rw [if_pos ⟨power, by omega⟩, power]
      rfl
    rw [← quarter]
    exact h.low
  have halves : (2 : ℚ) ^ (x.exponent - 1) = 2 * 2 ^ (x.exponent - 2) := by
    have two := two_zpow_add_natCast (x.exponent - 2) 1
    rw [pow_one] at two
    rw [← two]
    congr 1
    ring
  rw [cast_twoTo] at below
  norm_num at low
  constructor
  · refine ⟨by omega, ?_, Or.inr ?_⟩
    · have next : x.exponent - 1 + 53 = x.exponent + 52 := by ring
      rw [next]
      exact below.trans_eq (two_zpow_add_natCast x.exponent 52).symm
    · have next := two_zpow_add_natCast (x.exponent - 1) 52
      push_cast at next
      rw [next, halves]
      linarith
  · rw [exponent_eq] at below
    rw [halves]
    have above : ((twoTo 53 : ℕ) : ℚ) - 1 / 2 ≤ q / (2 * 2 ^ (x.exponent - 2)) := by
      rw [cast_twoTo, le_div_iff₀ (by positivity)]
      linarith
    have under : q / (2 * 2 ^ (x.exponent - 2)) ≤ (twoTo 53 : ℕ) + 1 / 2 := by
      rw [cast_twoTo, div_le_iff₀ (by positivity)]
      linarith
    exact ⟨above, under, fun _ => by decide⟩

end Covers

/-- All quotients of the rounding interval of a number have it as the nearest one. -/
theorem nearest_of_covers {x : Binary64} (nonzero : x.mantissa ≠ 0) (positive : 0 < den)
    (h : x.Covers (num / den)) : nearest x.negative num den = some x := by
  have some : num ≠ 0 := by
    rintro rfl
    simpa using h.pos nonzero
  by_cases own : twoTo 52 * 2 ^ x.exponent ≤ (num : ℚ) / den ∨ x.exponent = -1074
  -- the quotient has the unit of the number
  · have carried : carry x.mantissa x.exponent = (x.mantissa, x.exponent) :=
      if_neg (Nat.ne_of_lt x.canonical.1)
    rw [nearest_eq some positive (h.unitOf own) (h.roundsTo nonzero)]
    simp only [carried, dif_pos x.canonical]
  -- or it lies below a power of two and has the next smaller one
  · rw [not_or, not_le] at own
    have power := h.mantissa_eq own.1 own.2
    obtain ⟨unit, rounded⟩ := h.roundsTo_power own.1 own.2
    have carried : carry (twoTo 53) (x.exponent - 1) = (x.mantissa, x.exponent) := by
      unfold carry
      rw [if_pos rfl, power, sub_add_cancel]
    rw [nearest_eq some positive unit rounded]
    simp only [carried, dif_pos x.canonical]

end Binary64

end Worklist.Number
