import Worklist.Proofs.Number.Scaling
import Worklist.Proofs.Number.ShortestDigits
import Worklist.Store.Decimal

/-!
# Constants that a store reads back

A store reads a real constant from its shortest digits. Where these name a whole number of 64 bits
there is nothing to scale, and the constant is read exactly. Any other one may be read as a number
next to it, or as one that is too large, but never as one of another sign.
-/

set_option autoImplicit false

namespace Worklist.Store

open Number (Binary64 Extended tenTo twoTo cast_tenTo)

/-! ## Tens moved between coefficient and power -/

/-- A power is moved into a coefficient as a whole if there is room for it. -/
theorem raisePower_eq {coefficient power : ℕ}
    (room : coefficient * tenTo power < 10 * (Number.maxUInt64 / 10)) :
    raisePower coefficient power = (coefficient * tenTo power, 0) := by
  induction power generalizing coefficient with
  | zero => exact congrArg (·, 0) (Nat.mul_one coefficient).symm
  | succ power ih =>
    have moved : coefficient * 10 * tenTo power = coefficient * tenTo (power + 1) := by
      rw [Number.tenTo_succ, Nat.mul_assoc, Nat.mul_comm 10]
    have less : coefficient < Number.maxUInt64 / 10 := by
      have one := Nat.le_mul_of_pos_right (coefficient * 10) (Number.tenTo_pos power)
      rw [moved] at one
      omega
    rw [raisePower, if_pos less, ih (moved.trans_lt room), moved]

/-- Raising the coefficient leaves no greater power. -/
theorem raisePower_le (coefficient power : ℕ) : (raisePower coefficient power).2 ≤ power := by
  induction power generalizing coefficient with
  | zero => exact Nat.le_refl 0
  | succ power ih =>
    rw [raisePower]
    split
    · exact (ih _).trans (Nat.le_succ power)
    · exact Nat.le_refl _

/-- Lowering the coefficient leaves no greater power. -/
theorem lowerPower_le (coefficient power : ℕ) : (lowerPower coefficient power).2 ≤ power := by
  induction power generalizing coefficient with
  | zero => exact Nat.le_refl 0
  | succ power ih =>
    rw [lowerPower]
    split
    · exact (ih _).trans (Nat.le_succ power)
    · exact Nat.le_refl _

/-- The number stays the same, and its power comes no further away from zero. -/
theorem settlePower_spec (coefficient : ℕ) (power : ℤ) :
    ((settlePower coefficient power).1 : ℚ) * 10 ^ (settlePower coefficient power).2 =
        coefficient * 10 ^ power ∧
      (settlePower coefficient power).2.natAbs ≤ power.natAbs := by
  unfold settlePower
  split_ifs with whole
  · have value := raisePower_value coefficient power.toNat
    have less := raisePower_le coefficient power.toNat
    constructor
    · have cast : (power.toNat : ℤ) = power := Int.toNat_of_nonneg whole
      simp only
      rw [zpow_natCast, ← cast, zpow_natCast, ← cast_tenTo, ← cast_tenTo]
      exact_mod_cast value
    · simp only
      omega
  · have value := lowerPower_value coefficient (-power).toNat
    have less := lowerPower_le coefficient (-power).toNat
    constructor
    · have cast : power = -((-power).toNat : ℤ) := by omega
      simp only
      rw [cast, zpow_neg, zpow_neg, zpow_natCast, zpow_natCast, Int.neg_neg, Int.toNat_natCast,
        ← cast_tenTo, ← cast_tenTo, ← div_eq_mul_inv, ← div_eq_mul_inv, div_eq_div_iff]
      · exact_mod_cast value.symm
      · exact Nat.cast_ne_zero.mpr (Number.tenTo_pos _).ne'
      · exact Nat.cast_ne_zero.mpr (Number.tenTo_pos _).ne'
    · simp only
      omega

/-! ## Reading a constant -/

/-- Zero keeps its sign. -/
theorem readLiteral_of_mantissa_eq_zero {y : Binary64} (zero : y.mantissa = 0) :
    readLiteral y = .real y := by
  have exponent : y.exponent = -1074 := by
    refine y.canonical.2.2.2.resolve_left fun full => ?_
    rw [zero] at full
    exact absurd full (by decide)
  have own : y = Binary64.zero y.negative := by
    cases y with
    | mk negative mantissa exponent' canonical =>
      obtain rfl : mantissa = 0 := zero
      obtain rfl : exponent' = -1074 := exponent
      rfl
  unfold readLiteral Binary64.shortest
  rw [if_pos zero]
  exact congrArg Value.real own.symm

/-- The digits of a number other than zero are not all zero. -/
theorem shortest_ne_zero {y : Binary64} (nonzero : y.mantissa ≠ 0) (tieUp : Bool) :
    (y.shortest tieUp).1 ≠ 0 := by
  intro none
  have positive := (Binary64.shortest_spec tieUp nonzero).1.pos nonzero
  rw [none, Nat.cast_zero, zero_mul] at positive
  exact lt_irrefl _ positive

/-- Whole numbers for which there is room in a coefficient are not scaled. -/
theorem readScaled_of_room {negative : Bool} {c k : ℕ} (some : c ≠ 0)
    (room : c * tenTo k < 10 * (Number.maxUInt64 / 10)) {y : Binary64}
    (h : Binary64.nearest negative (c * tenTo k) 1 = Option.some y) :
    readScaled negative c k = .real y := by
  have settled : settlePower c k = (c * tenTo k, 0) := by
    unfold settlePower
    rw [if_pos (Int.natCast_nonneg k), Int.toNat_natCast, raisePower_eq room]
    rfl
  have small : (⟨c * tenTo k, 0⟩ : Extended).atMost Extended.greatest = true := by
    have limit : 10 * (Number.maxUInt64 / 10) ≤ (twoTo 53 - 1) * twoTo 971 := by
      decide +kernel
    refine decide_eq_true ?_
    show c * tenTo k * twoTo 0 ≤ (twoTo 53 - 1) * twoTo 971
    exact (Nat.mul_one _).trans_le (room.le.trans limit)
  have read : (Extended.scale ⟨c * tenTo k, 0⟩ 0).toBinary64? negative = Option.some y := by
    show Extended.toBinary64? negative ⟨c * tenTo k, 0⟩ = Option.some y
    unfold Extended.toBinary64?
    rw [if_pos small]
    exact (congrArg (Binary64.nearest negative · 1) (Nat.mul_one _)).trans h
  unfold readScaled
  rw [if_neg some, settled]
  simp only [read]

/-- The rounding interval of a whole number of 64 bits leaves room in a coefficient. -/
theorem lt_room_of_covers {y : Binary64} (nonzero : y.mantissa ≠ 0) {n : ℕ}
    (whole : y.magnitude = n) (small : n ≤ 2 ^ 63) {N : ℕ} (covers : y.Covers N) :
    N < 10 * (Number.maxUInt64 / 10) := by
  have one : (1 : ℚ) ≤ y.mantissa := by exact_mod_cast Nat.one_le_iff_ne_zero.mpr nonzero
  have scale := Number.two_zpow_pos (y.exponent - 2)
  have quarters := y.magnitude_eq_quarters
  have limit : (n : ℚ) ≤ 2 ^ 63 := by exact_mod_cast small
  have high := covers.high
  rw [whole] at quarters
  push_cast at quarters high
  have unit : 4 * (2 : ℚ) ^ (y.exponent - 2) ≤ n := by
    rw [quarters]
    linarith [mul_le_mul_of_nonneg_right one scale.le]
  have value : ((10 * (Number.maxUInt64 / 10) : ℕ) : ℚ) = 18446744073709551610 := by
    norm_num [Number.maxUInt64]
  have bound : (N : ℚ) < (10 * (Number.maxUInt64 / 10) : ℕ) := by
    rw [value]
    linarith
  exact_mod_cast bound

/-- A whole number of 64 bits is read exactly: its digits are those of a whole number in its
rounding interval. -/
theorem readLiteral_of_whole {y : Binary64} {n : ℕ} (whole : y.magnitude = n)
    (small : n ≤ 2 ^ 63) : readLiteral y = .real y := by
  by_cases nonzero : y.mantissa = 0
  · exact readLiteral_of_mantissa_eq_zero nonzero
  have some : n ≠ 0 := by
    rintro rfl
    have positive := (Binary64.covers_magnitude nonzero).pos nonzero
    rw [whole, Nat.cast_zero] at positive
    exact lt_irrefl _ positive
  have covers := (Binary64.shortest_spec Number.literalStyle.tieUp nonzero).1
  have nonneg := Binary64.shortest_power_nonneg Number.literalStyle.tieUp some whole
  have digits := shortest_ne_zero nonzero Number.literalStyle.tieUp
  unfold readLiteral
  generalize y.shortest Number.literalStyle.tieUp = shortest at covers nonneg digits ⊢
  obtain ⟨c, p⟩ := shortest
  obtain ⟨k, rfl⟩ := Int.eq_ofNat_of_zero_le nonneg
  have number : (c : ℚ) * 10 ^ (k : ℤ) = (c * tenTo k : ℕ) := by
    rw [zpow_natCast, Nat.cast_mul, cast_tenTo]
  simp only [number] at covers
  refine readScaled_of_room digits (lt_room_of_covers nonzero whole small covers) ?_
  refine Binary64.nearest_of_covers nonzero Nat.one_pos ?_
  rw [Nat.cast_one, div_one]
  exact covers

/-- The least number of either sign but zero. -/
def leastReal (negative : Bool) : Binary64 :=
  ⟨negative, 1, -1074, by decide⟩

/-- The literal of the least number is read as this number. -/
theorem readLiteral_leastReal (negative : Bool) :
    readLiteral (leastReal negative) = .real (leastReal negative) := by
  cases negative with
  | true => decide +kernel
  | false => decide +kernel

/-- A number other than zero is read as one of its sign, or as one that is too large. -/
theorem readLiteral_of_mantissa_ne_zero {y : Binary64} (nonzero : y.mantissa ≠ 0) :
    (∃ z : Binary64, z.mantissa ≠ 0 ∧ z.negative = y.negative ∧ readLiteral y = .real z) ∨
      readLiteral y = .infinite y.negative := by
  -- the least number has digits so near to half of it that its scaling has to be computed
  by_cases least : y.mantissa = 1 ∧ y.exponent = -1074
  · left
    obtain ⟨negative, mantissa, exponent, canonical⟩ := y
    obtain ⟨rfl, rfl⟩ : mantissa = 1 ∧ exponent = -1074 := least
    exact ⟨leastReal negative, nonzero, rfl, readLiteral_leastReal negative⟩
  have digits := shortest_ne_zero nonzero Number.literalStyle.tieUp
  have few := Binary64.natAbs_shortest_lt Number.literalStyle.tieUp nonzero
  have large := (Binary64.shortest_spec Number.literalStyle.tieUp nonzero).1.large nonzero
    (not_and_or.mp least)
  unfold readLiteral
  generalize y.shortest Number.literalStyle.tieUp = shortest at digits few large ⊢
  obtain ⟨c, p⟩ := shortest
  obtain ⟨value, nearer⟩ := settlePower_spec c p
  show (∃ z : Binary64, z.mantissa ≠ 0 ∧ z.negative = y.negative ∧
    readScaled y.negative c p = .real z) ∨ readScaled y.negative c p = .infinite y.negative
  unfold readScaled
  rw [if_neg digits]
  generalize settlePower c p = settled at value nearer ⊢
  obtain ⟨c', left⟩ := settled
  simp only at value nearer few large ⊢
  have places : left.natAbs < 400 := by omega
  have kept := Extended.le_value_scale ⟨c', 0⟩ places
  have own : (10 : ℚ) ^ left * (⟨c', 0⟩ : Extended).value = c * 10 ^ p := by
    rw [← value]
    unfold Extended.value
    rw [zpow_zero, mul_one, mul_comm]
  rw [own] at kept
  cases read : (Extended.scale ⟨c', 0⟩ left).toBinary64? y.negative with
  | none => exact Or.inr rfl
  | some z =>
    left
    have above : (2 : ℚ) ^ (-1075 : ℤ) < (Extended.scale ⟨c', 0⟩ left).value := by
      refine lt_of_lt_of_le ?_ kept
      have half : (2 : ℚ) ^ (-1074 : ℤ) = 2 * 2 ^ (-1075 : ℤ) := by
        rw [show (-1074 : ℤ) = 1 + -1075 from rfl, zpow_add₀ two_ne_zero, zpow_one]
      have most : (1 / 2 : ℚ) ≤ Extended.keptPart ^ 42 := by
        norm_num [Extended.keptPart]
      have positive := Number.two_zpow_pos (-1075)
      rw [half] at large
      calc (2 : ℚ) ^ (-1075 : ℤ) < 1 / 2 * (3 / 2 * (2 * 2 ^ (-1075 : ℤ))) := by linarith
        _ ≤ Extended.keptPart ^ 42 * (c * 10 ^ p) :=
          mul_le_mul most large (by positivity) (by positivity)
    obtain ⟨nonzero', sign⟩ := Extended.mantissa_ne_zero_of_toBinary64? above read
    exact ⟨z, nonzero', sign, rfl⟩

/-! ## The sign of a constant -/

/-- What is not zero has the sign that it is written with. -/
theorem sign_units {y : Binary64} (nonzero : y.mantissa ≠ 0) :
    if y.negative then y.units < 0 else 0 < y.units := by
  have positive : 0 < y.mantissa * twoTo (y.exponent + 1074).toNat :=
    Nat.mul_pos (Nat.pos_of_ne_zero nonzero) (Number.twoTo_pos _)
  unfold Binary64.units
  cases y.negative with
  | true =>
    simp only [if_true]
    omega
  | false =>
    simp only [Bool.false_eq_true, if_false]
    omega

/-- A constant is read on the side of zero where it is. -/
theorem sign_size_readLiteral (y : Binary64) :
    ((readLiteral y).size ≤ 0 ↔ y.units ≤ 0) ∧ (0 ≤ (readLiteral y).size ↔ 0 ≤ y.units) := by
  by_cases nonzero : y.mantissa = 0
  · rw [readLiteral_of_mantissa_eq_zero nonzero]
    exact ⟨Iff.rfl, Iff.rfl⟩
  have own := sign_units nonzero
  have read : if y.negative then (readLiteral y).size < 0 else 0 < (readLiteral y).size := by
    rcases readLiteral_of_mantissa_ne_zero nonzero with ⟨z, other, sign, real⟩ | infinite
    · rw [real, ← sign]
      exact sign_units other
    · rw [infinite]
      cases y.negative with
      | true => decide +kernel
      | false => decide +kernel
  cases sign : y.negative <;> simp only [sign, if_true, if_false, Bool.false_eq_true] at own read
  · omega
  · omega

end Worklist.Store
