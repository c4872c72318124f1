import Worklist.Number.Literal
import Worklist.Proofs.Number.Decimal
import Worklist.Proofs.Number.Nearest

/-!
# Whole numbers as binary numbers

The text of a whole number is read as the binary number nearest to it. That one is whole as well: as
long as a unit is not larger than one nothing is lost, and from there on all binary numbers are
whole. A number that the format has, such as every one up to two to the fifty-third, is read as
itself.
-/

set_option autoImplicit false

namespace Worklist.Number

/-! ## Reading the text of a whole number -/

/-- The decimal text of a whole number is scanned as a numeral of its sign and digits alone. -/
theorem Numeral.scan_decimal (n : ℤ) : ∃ sign,
    scan (decimal n).toList =
      some (⟨sign, decide (n < 0), Nat.toDigits 10 n.natAbs, [], none⟩, []) := by
  have digits := Sql.isDigits_toDigits n.natAbs
  have given : (Nat.toDigits 10 n.natAbs).isEmpty = false := by
    simp
  obtain ⟨sign, scanned⟩ := scanSign_decimal n
  refine ⟨sign, ?_⟩
  unfold scan
  rw [scanned]
  simp only [digits.takeWhile_eq, digits.dropWhile_eq, given, scanFraction, scanExponent,
    Bool.false_and, Bool.false_eq_true, if_false]

/-- The decimal text of a number begins with no blank. -/
theorem trimLeft_decimal (n : ℤ) : Text.trimLeft (decimal n).toList = (decimal n).toList := by
  rw [Sql.toList_decimal]
  split_ifs
  · rfl
  · obtain ⟨c, rest, split, digit⟩ := (Sql.isDigits_toDigits n.natAbs).exists_cons
    rw [split]
    refine Text.trimLeft_eq_self ?_
    rintro e ⟨⟩
    exact Text.isBlank_of_isDigit digit

namespace Binary64

/-- Without a power of ten the nearest number is that of the coefficient. -/
theorem ofDecimal_zero_power (negative : Bool) (n : ℕ) :
    ofDecimal negative n 0 = nearest negative n 1 := by
  unfold ofDecimal
  by_cases zero : n = 0
  · rw [if_pos zero, zero]
    rfl
  · rw [if_neg zero, if_neg (by decide), if_neg (by omega), if_pos (Int.le_refl 0)]
    exact congrArg (nearest negative · 1) (Nat.mul_one n)

/-! ## The number nearest to a whole one -/

variable {negative : Bool} {n : ℕ} {x : Binary64}

/-- The number nearest to zero is zero. -/
theorem magnitude_of_nearest_zero (h : nearest negative 0 1 = some x) : x.magnitude = 0 := by
  have own : x = zero negative := (Option.some.inj h).symm
  unfold magnitude
  rw [own]
  exact zero_mul _

/-- A whole number is rounded to itself. -/
theorem RoundsTo.natCast (k : ℕ) : RoundsTo k k := by
  refine ⟨by linarith, by linarith, ?_⟩
  rintro (tie | tie) <;> linarith

/-- With a unit of at most one a whole number is a whole number of units. -/
theorem magnitude_of_fine_unit {e : ℤ} {m : ℕ} (fine : e ≤ 0)
    (rounded : RoundsTo ((n : ℚ) / (1 : ℕ) / 2 ^ e) m) : (m : ℚ) * 2 ^ e = n := by
  have whole : (n : ℚ) / (1 : ℕ) / 2 ^ e = (n * twoTo (-e).toNat : ℕ) := by
    rw [← pow_toNat_div two_ne_zero e, Int.toNat_of_nonpos fine]
    push_cast
    field_simp
  rw [whole] at rounded
  rw [rounded.eq (RoundsTo.natCast _), ← whole, Nat.cast_one, div_one,
    div_mul_cancel₀ _ (two_zpow_pos e).ne']

/-- The number nearest to a whole number is whole. -/
theorem exists_magnitude_eq (h : nearest negative n 1 = some x) : ∃ k : ℕ, x.magnitude = k := by
  by_cases none : n = 0
  · rw [none] at h
    exact ⟨0, (magnitude_of_nearest_zero h).trans Nat.cast_zero.symm⟩
  obtain ⟨e, m, -, rounded, size, -⟩ := unit_of_nearest none Nat.one_pos h
  rcases Int.le_total e 0 with fine | coarse
  · exact ⟨n, size.trans (magnitude_of_fine_unit fine rounded)⟩
  · refine ⟨m * 2 ^ e.toNat, size.trans ?_⟩
    push_cast
    rw [← zpow_natCast (2 : ℚ), Int.toNat_of_nonneg coarse]

/-- No number is nearer in size to a natural number than the nearest one. -/
theorem abs_magnitude_sub_natCast_le (h : nearest negative n 1 = some x) (z : Binary64) :
    |x.magnitude - n| ≤ |z.magnitude - n| := by
  by_cases none : n = 0
  · rw [none] at h
    rw [magnitude_of_nearest_zero h, none, Nat.cast_zero, sub_zero, abs_zero]
    exact abs_nonneg _
  · have distance := abs_magnitude_sub_le none Nat.one_pos h z
    rwa [Nat.cast_one, div_one] at distance

/-- A whole number that is a number of the format is nearest to itself. -/
theorem magnitude_eq_of_exact (h : nearest negative n 1 = some x) {z : Binary64}
    (same : z.magnitude = n) : x.magnitude = n := by
  have distance := abs_magnitude_sub_natCast_le h z
  rw [same, sub_self, abs_zero] at distance
  exact sub_eq_zero.mp (abs_nonpos_iff.mp distance)

/-- Two to the fifty-third and two to the sixty-third as numbers of the format. -/
theorem magnitude_powers :
    (⟨false, twoTo 52, 1, by decide⟩ : Binary64).magnitude = (2 ^ 53 : ℕ) ∧
      (⟨false, twoTo 52, 11, by decide⟩ : Binary64).magnitude = (2 ^ 63 : ℕ) := by
  unfold magnitude
  simp only [cast_twoTo]
  norm_num

/-- Whole numbers up to two to the fifty-third are numbers of the format. -/
theorem magnitude_eq_of_small (h : nearest negative n 1 = some x) (small : n ≤ 2 ^ 53) :
    x.magnitude = n := by
  by_cases none : n = 0
  · rw [none] at h
    rw [magnitude_of_nearest_zero h, none, Nat.cast_zero]
  rcases Nat.lt_or_eq_of_le small with less | full
  · obtain ⟨e, m, unit, rounded, size, -⟩ := unit_of_nearest none Nat.one_pos h
    refine size.trans (magnitude_of_fine_unit ?_ rounded)
    rcases unit.low with least | low
    · omega
    · have limit : (n : ℚ) / (1 : ℕ) < 2 ^ (53 : ℤ) := by
        rw [Nat.cast_one, div_one]
        exact_mod_cast less
      have exponents := two_zpow_lt_iff.mp (low.trans_lt limit)
      omega
  · exact magnitude_eq_of_exact h (full ▸ magnitude_powers.1)

/-- The nearest number does not leave the range of 64 bits. -/
theorem magnitude_le_of_nearest (h : nearest negative n 1 = some x) (wide : n ≤ 2 ^ 63) :
    x.magnitude ≤ 2 ^ 63 := by
  have distance := abs_magnitude_sub_natCast_le h ⟨false, twoTo 52, 11, by decide⟩
  have above : (0 : ℚ) ≤ (2 ^ 63 : ℕ) - n := sub_nonneg.mpr (by exact_mod_cast wide)
  rw [magnitude_powers.2, abs_of_nonneg above] at distance
  have own := (le_abs_self (x.magnitude - n)).trans distance
  rw [sub_le_sub_iff_right] at own
  exact_mod_cast own

/-! ## The size in units -/

/-- The value of a number. -/
def signed (x : Binary64) : ℚ :=
  if x.negative then -x.magnitude else x.magnitude

/-- The number of least units is the number over the least unit. -/
theorem cast_units (x : Binary64) : (x.units : ℚ) = x.signed * 2 ^ (1074 : ℤ) := by
  have size : ((x.mantissa * twoTo (x.exponent + 1074).toNat : ℕ) : ℚ) =
      x.magnitude * 2 ^ (1074 : ℤ) := by
    have least := x.canonical.2.1
    unfold magnitude
    rw [mul_assoc, ← zpow_add₀ two_ne_zero]
    push_cast
    rw [← zpow_natCast (2 : ℚ), Int.toNat_of_nonneg (by omega)]
  unfold units signed
  simp only
  split_ifs
  · rw [Int.cast_neg, Int.cast_natCast, size, neg_mul]
  · rw [Int.cast_natCast]
    exact size

/-- The least units of a whole number are the number over the least unit. -/
theorem cast_wholeUnits (n : ℤ) : (wholeUnits n : ℚ) = n * 2 ^ (1074 : ℤ) := by
  unfold wholeUnits
  rw [Int.cast_mul, Int.cast_natCast, cast_twoTo]
  exact congrArg ((n : ℚ) * ·) (zpow_natCast 2 1074).symm

/-- The absolute value of a number is its size. -/
theorem abs_signed (x : Binary64) : |x.signed| = x.magnitude := by
  unfold signed
  split_ifs
  · rw [abs_neg, abs_of_nonneg x.magnitude_nonneg]
  · exact abs_of_nonneg x.magnitude_nonneg

/-- The distance of a number from a whole one, in units. -/
theorem cast_abs_units_sub (x : Binary64) (n : ℤ) :
    ((|x.units - wholeUnits n| : ℤ) : ℚ) = |x.signed - n| * 2 ^ (1074 : ℤ) := by
  rw [Int.cast_abs, Int.cast_sub, cast_units, cast_wholeUnits, ← sub_mul, abs_mul,
    abs_of_pos (two_zpow_pos 1074)]

/-- A number of a whole size has the least units of the whole number with its sign. -/
theorem units_of_whole {k : ℕ} (whole : x.magnitude = k) :
    x.units = wholeUnits (if x.negative then -(k : ℤ) else k) := by
  have same : (x.units : ℚ) = (wholeUnits (if x.negative then -(k : ℤ) else k) : ℤ) := by
    rw [cast_units, cast_wholeUnits]
    unfold signed
    rw [whole]
    split_ifs
    · rw [Int.cast_neg, Int.cast_natCast]
    · rw [Int.cast_natCast]
  exact_mod_cast same

/-- The denominator of a number as a quotient is positive. -/
theorem toQuotient_pos (x : Binary64) : 0 < x.toQuotient.2 := by
  unfold toQuotient
  split_ifs
  · exact Nat.one_pos
  · exact twoTo_pos _

/-- The quotient of a number is its size. -/
theorem cast_toQuotient (x : Binary64) :
    (x.toQuotient.1 : ℚ) / x.toQuotient.2 = x.magnitude := by
  unfold toQuotient magnitude
  rw [← pow_toNat_div two_ne_zero x.exponent]
  split_ifs with coarse
  · have none : (-x.exponent).toNat = 0 := by omega
    rw [none]
    push_cast
    ring
  · have none : x.exponent.toNat = 0 := by omega
    rw [none]
    push_cast
    ring

/-- A number of a whole size is turned into the whole number with its sign. -/
theorem toWhole?_of_whole {k : ℕ} (whole : x.magnitude = k) :
    x.toWhole? = some (if x.negative then -(k : ℤ) else k) := by
  have positive := x.toQuotient_pos
  have multiple : x.toQuotient.1 = k * x.toQuotient.2 := by
    have quotient := x.cast_toQuotient
    rw [whole, div_eq_iff (Nat.cast_ne_zero.mpr positive.ne')] at quotient
    exact_mod_cast quotient
  unfold toWhole?
  simp only [multiple, Nat.mul_mod_left, if_true, Nat.mul_div_cancel k positive]

/-! ## The number that a whole number is read as -/

/-- The whole number that a whole number of 64 bits becomes as a number of the format: the nearest
one, and of two equally near the one with the even mantissa. -/
def nearestWhole (n : ℤ) : ℤ :=
  ((nearest (decide (n < 0)) n.natAbs 1).bind toWhole?).getD n

/-- No number of the format is nearer to a whole number. -/
def IsNearestTo (x : Binary64) (n : ℤ) : Prop :=
  ∀ z : Binary64, |x.units - wholeUnits n| ≤ |z.units - wholeUnits n|

/-- The nearest number to the size of a whole number, with its sign, is nearest to the whole number.
-/
theorem isNearestTo_of_nearest {n : ℤ} (h : nearest (decide (n < 0)) n.natAbs 1 = some x) :
    x.IsNearestTo n := by
  have size : ((n.natAbs : ℕ) : ℚ) = |(n : ℚ)| := by
    rw [Nat.cast_natAbs, Int.cast_abs]
  have own : |x.signed - n| = |x.magnitude - n.natAbs| := by
    have sign := negative_of_nearest h
    unfold signed
    rw [sign, size]
    by_cases below : n < 0
    · rw [if_pos (decide_eq_true below), abs_of_neg (Int.cast_lt_zero.mpr below),
        ← abs_neg (-x.magnitude - n)]
      congr 1
      ring
    · have above : (0 : ℚ) ≤ n := Int.cast_nonneg (Int.not_lt.mp below)
      rw [if_neg (by simpa using below), abs_of_nonneg above]
  have other (z : Binary64) : |z.magnitude - n.natAbs| ≤ |z.signed - n| := by
    rw [← abs_signed, size]
    exact abs_abs_sub_abs_le _ _
  intro z
  have nearer := abs_magnitude_sub_natCast_le h z
  have cast : ((|x.units - wholeUnits n| : ℤ) : ℚ) ≤ (|z.units - wholeUnits n| : ℤ) := by
    rw [cast_abs_units_sub, cast_abs_units_sub, own]
    exact mul_le_mul_of_nonneg_right (nearer.trans (other z)) (two_zpow_pos 1074).le
  exact_mod_cast cast

/-- A whole number of 64 bits has a nearest number of the format, and this one is whole and has as
many bits. -/
theorem exists_nearestWhole {n : ℤ} (wide : isInt64 n = true) :
    ∃ x k, nearest (decide (n < 0)) n.natAbs 1 = some x ∧ x.magnitude = (k : ℕ) ∧ k ≤ 2 ^ 63 ∧
      x.units = wholeUnits (nearestWhole n) := by
  have bits : n.natAbs ≤ 2 ^ 63 := by
    obtain ⟨low, high⟩ := isInt64_iff.mp wide
    unfold minInt64 at low
    unfold maxInt64 at high
    omega
  have found : ∃ x, nearest (decide (n < 0)) n.natAbs 1 = some x := by
    by_cases none : n.natAbs = 0
    · rw [none]
      exact ⟨_, rfl⟩
    · refine exists_nearest none Nat.one_pos ?_
      rw [Nat.cast_one, div_one]
      have small : (n.natAbs : ℚ) ≤ 2 ^ 63 := by exact_mod_cast bits
      refine lt_of_le_of_lt small ?_
      rw [← zpow_natCast]
      exact two_zpow_lt_iff.mpr (by decide)
  obtain ⟨x, h⟩ := found
  obtain ⟨k, whole⟩ := exists_magnitude_eq h
  have range := magnitude_le_of_nearest h bits
  rw [whole] at range
  refine ⟨x, k, h, whole, by exact_mod_cast range, ?_⟩
  unfold nearestWhole
  rw [h, Option.bind_some, toWhole?_of_whole whole, Option.getD_some]
  exact units_of_whole whole

/-- Whole numbers with as many least units are the same. -/
theorem wholeUnits_inj {m n : ℤ} (h : wholeUnits m = wholeUnits n) : m = n :=
  Int.eq_of_mul_eq_mul_right (Int.natCast_ne_zero.mpr (twoTo_pos 1074).ne') h

/-- What is a number of the format is read as itself. -/
theorem nearestWhole_of_exact {n : ℤ} (wide : isInt64 n = true) {z : Binary64}
    (same : z.units = wholeUnits n) : nearestWhole n = n := by
  obtain ⟨x, k, h, -, -, units⟩ := exists_nearestWhole wide
  have distance := isNearestTo_of_nearest h z
  rw [same, Int.sub_self, abs_zero, units] at distance
  exact wholeUnits_inj (Int.sub_eq_zero.mp (abs_nonpos_iff.mp distance))

/-- A whole number of up to 53 bits is its own nearest one. -/
theorem nearestWhole_of_small {n : ℤ} (wide : isInt64 n = true) (small : n.natAbs ≤ 2 ^ 53) :
    nearestWhole n = n := by
  obtain ⟨x, k, h, -, -, units⟩ := exists_nearestWhole wide
  have own := units_of_whole (magnitude_eq_of_small h small)
  rw [negative_of_nearest h, signed_natAbs] at own
  exact nearestWhole_of_exact wide own

/-- The first whole number that is no number of the format lies between two that are, and is read as
the one with the even mantissa. -/
example : nearestWhole 9007199254740993 = 9007199254740992 := by decide +kernel

/-- The text of a whole number is read as the number nearest to it. -/
theorem leadingReal_decimal {n : ℤ} (h : nearest (decide (n < 0)) n.natAbs 1 = some x) :
    leadingReal (decimal n).toList = x := by
  obtain ⟨sign, scanned⟩ := Numeral.scan_decimal n
  have coefficient : (⟨sign, decide (n < 0), Nat.toDigits 10 n.natAbs, [], none⟩ :
      Numeral).coefficient = n.natAbs := by
    unfold Numeral.coefficient
    rw [List.append_nil, digitsValue_toDigits]
  have value : (⟨sign, decide (n < 0), Nat.toDigits 10 n.natAbs, [], none⟩ :
      Numeral).toBinary64? = some x := by
    unfold Numeral.toBinary64?
    rw [coefficient]
    exact (ofDecimal_zero_power _ _).trans h
  unfold leadingReal
  simp only [trimLeft_decimal, scanned, value, Option.getD_some]

end Binary64

end Worklist.Number
