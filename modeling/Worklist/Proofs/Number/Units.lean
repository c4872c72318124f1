import Mathlib.Tactic.SplitIfs
import Worklist.Number.Binary64

/-!
# The size of a binary number

In its units a finite number is a whole number. Mantissa and exponent are canonical, so two numbers
of one size are one number, unless they are zeros, which differ in their signs.
-/

set_option autoImplicit false

namespace Worklist.Number

/-- A sum of exponents is a product of powers of two. -/
theorem twoTo_add (j k : Nat) : twoTo (j + k) = twoTo j * twoTo k :=
  Nat.pow_add 2 j k

/-- A greater exponent has a greater power of two. -/
theorem twoTo_le_twoTo {j k : Nat} (h : j ≤ k) : twoTo j ≤ twoTo k :=
  Nat.pow_le_pow_right (by decide) h

/-- Of two products of one size, the one with a mantissa of full length has no greater exponent. -/
theorem exponent_le_of_mul_eq {m m' j j' : Nat} (short : m < twoTo 53)
    (full : twoTo 52 ≤ m' ∨ j' = 0) (h : m * twoTo j = m' * twoTo j') : j' ≤ j := by
  refine Nat.le_of_not_lt fun less => ?_
  obtain ⟨k, rfl⟩ : ∃ k, j' = k + 1 + j := ⟨j' - j - 1, by omega⟩
  have mantissa : m = m' * twoTo (k + 1) := by
    refine Nat.eq_of_mul_eq_mul_right (twoTo_pos j) ?_
    rw [h, twoTo_add (k + 1) j, Nat.mul_assoc]
  have large : twoTo 52 ≤ m' := full.resolve_right (by omega)
  have longer : twoTo 53 ≤ m := by
    calc twoTo 53 = twoTo 52 * twoTo 1 := twoTo_add 52 1
      _ ≤ m' * twoTo (k + 1) := Nat.mul_le_mul large (twoTo_le_twoTo (by omega))
      _ = m := mantissa.symm
  omega

namespace Binary64

/-- The least units in a number are those of its mantissa. -/
theorem natAbs_units (x : Binary64) :
    x.units.natAbs = x.mantissa * twoTo (x.exponent + 1074).toNat := by
  unfold units
  simp only
  split_ifs
  · rw [Int.natAbs_neg, Int.natAbs_natCast]
  · exact Int.natAbs_natCast _

/-- Numbers of one size are one number, if they are not zero. -/
theorem eq_of_units_eq {x y : Binary64} (h : x.units = y.units) (nonzero : x.mantissa ≠ 0) :
    x = y := by
  have sizes : x.mantissa * twoTo (x.exponent + 1074).toNat =
      y.mantissa * twoTo (y.exponent + 1074).toNat := by
    rw [← natAbs_units, ← natAbs_units, h]
  obtain ⟨shortX, leastX, -, fullX⟩ := x.canonical
  obtain ⟨shortY, leastY, -, fullY⟩ := y.canonical
  have full {m : Nat} {e : Int} (h : twoTo 52 ≤ m ∨ e = -1074) :
      twoTo 52 ≤ m ∨ (e + 1074).toNat = 0 := h.imp_right fun e => by omega
  have exponents : x.exponent = y.exponent := by
    have below := exponent_le_of_mul_eq shortX (full fullY) sizes
    have above := exponent_le_of_mul_eq shortY (full fullX) sizes.symm
    omega
  have mantissas : x.mantissa = y.mantissa := by
    rw [exponents] at sizes
    exact Nat.eq_of_mul_eq_mul_right (twoTo_pos _) sizes
  have signs : x.negative = y.negative := by
    have positive : 0 < x.mantissa * twoTo (x.exponent + 1074).toNat :=
      Nat.mul_pos (Nat.pos_of_ne_zero nonzero) (twoTo_pos _)
    unfold units at h
    rw [← mantissas, ← exponents] at h
    cases hx : x.negative <;> cases hy : y.negative <;> simp only [hx, hy] at h
    · rfl
    · simp only [if_true, if_false, Bool.false_eq_true] at h
      omega
    · simp only [if_true, if_false, Bool.false_eq_true] at h
      omega
    · rfl
  cases x with
  | mk negative mantissa exponent canonical =>
    cases y with
    | mk negative' mantissa' exponent' canonical' =>
      obtain rfl : negative = negative' := signs
      obtain rfl : mantissa = mantissa' := mantissas
      obtain rfl : exponent = exponent' := exponents
      rfl

/-- A finite number is less than what stands for one that is too large. -/
theorem natAbs_units_lt (x : Binary64) : x.units.natAbs < twoTo 2098 := by
  obtain ⟨short, -, greatest, -⟩ := x.canonical
  calc x.units.natAbs = x.mantissa * twoTo (x.exponent + 1074).toNat := x.natAbs_units
    _ < twoTo 53 * twoTo (x.exponent + 1074).toNat :=
      Nat.mul_lt_mul_of_pos_right short (twoTo_pos _)
    _ ≤ twoTo 53 * twoTo 2045 := Nat.mul_le_mul_left _ (twoTo_le_twoTo (by omega))
    _ = twoTo 2098 := (twoTo_add 53 2045).symm

/-- Zero is a whole number. -/
theorem toWhole?_of_mantissa_eq_zero {x : Binary64} (h : x.mantissa = 0) : x.toWhole? = some 0 := by
  unfold toWhole? toQuotient
  rw [h]
  split_ifs <;> simp

end Binary64

end Worklist.Number
