import Mathlib.Data.List.DropRight
import Worklist.Filter.Clause
import Worklist.Proofs.Number.LeadingReal
import Worklist.Proofs.Number.LeadingWhole
import Worklist.Proofs.Number.WholeReal
import Worklist.Proofs.Store.Literal

/-!
# Numbers read back from their texts

Digits stand for a decimal, and every notation that lays them out is the text of a numeral of the
same size: zeros that fill up a place change the digits and the power of ten together. A number is
written with digits in its rounding interval, so whatever the notation is, it is read as the number.
The value of a filter is read back the same way, a whole number by its digits.
-/

set_option autoImplicit false

namespace Worklist

namespace Number

open Sql (IsDigits isDigits_zero isDigits_toDigits isDigits_ofScaled)

/-! ## Zeros among digits -/

/-- Zeros have the value zero. -/
theorem digitsValue_zeros (n : ℕ) : digitsValue (List.replicate n '0') = 0 := by
  unfold digitsValue
  rw [Nat.ofDigitChars_replicate_zero, Nat.mul_zero]

/-- Zeros in front change no value. -/
theorem digitsValue_zeros_append (n : ℕ) (s : List Char) :
    digitsValue (List.replicate n '0' ++ s) = digitsValue s := by
  rw [digitsValue_append, digitsValue_zeros, Nat.zero_mul, Nat.zero_add]

/-- Each zero at the end multiplies the value by ten. -/
theorem digitsValue_append_zeros (s : List Char) (n : ℕ) :
    digitsValue (s ++ List.replicate n '0') = digitsValue s * 10 ^ n := by
  rw [digitsValue_append, digitsValue_zeros, List.length_replicate, Nat.add_zero]

/-! ## Digits as decimals -/

/-- The number that digits stand for, one digit before the point. -/
def Digits.value (d : Digits) : ℚ :=
  digitsValue d.digits * 10 ^ (d.exponent + 1 - d.digits.length)

/-- Cutting the zeros at the end takes nothing but zeros away. -/
theorem exists_zeros (s : List Char) :
    ∃ n, s.rdropWhile (· == '0') ++ List.replicate n '0' = s := by
  refine ⟨(s.rtakeWhile (· == '0')).length, ?_⟩
  have zeros : s.rtakeWhile (· == '0') = List.replicate (s.rtakeWhile (· == '0')).length '0' := by
    refine List.eq_replicate_iff.mpr ⟨rfl, fun c hc => ?_⟩
    simpa using List.mem_rtakeWhile_imp hc
  rw [← zeros]
  exact List.rdropWhile_append_rtakeWhile

/-- Zeros that are cut off go over to the power of ten. -/
theorem Digits.value_ofScaled (coefficient : ℕ) (power : ℤ) :
    (ofScaled coefficient power).value = coefficient * 10 ^ power := by
  obtain ⟨n, all⟩ := exists_zeros (Nat.toDigits 10 coefficient)
  have size := digitsValue_toDigits coefficient
  have given := List.length_pos_iff.mpr (isDigits_toDigits coefficient).1
  have length := congrArg List.length all
  rw [← all, digitsValue_append_zeros] at size
  rw [List.length_append, List.length_replicate] at length
  by_cases none : (Nat.toDigits 10 coefficient).rdropWhile (· == '0') = []
  · rw [none] at size
    obtain rfl : coefficient = 0 := size.symm.trans (Nat.zero_mul _)
    have zero : digitsValue ['0'] = 0 := rfl
    have digits : (ofScaled 0 power).digits = ['0'] := rfl
    unfold value
    rw [digits, zero, Nat.cast_zero, zero_mul, zero_mul]
  · have digits : (ofScaled coefficient power).digits =
        (Nat.toDigits 10 coefficient).rdropWhile (· == '0') :=
      if_neg fun empty => none (List.isEmpty_iff.mp empty)
    have exponent : (ofScaled coefficient power).exponent =
        power + ((Nat.toDigits 10 coefficient).length - 1 : ℕ) := rfl
    unfold value
    rw [digits, exponent]
    have shifted : power + ((Nat.toDigits 10 coefficient).length - 1 : ℕ) + 1 -
        ((Nat.toDigits 10 coefficient).rdropWhile (· == '0')).length = n + power := by
      omega
    rw [shifted, zpow_add₀ (by norm_num), zpow_natCast, ← mul_assoc]
    congr 1
    exact_mod_cast size

/-! ## Notations as numerals -/

/-- A text is that of a numeral without a sign, of a given size. -/
def IsSize (s : List Char) (q : ℚ) : Prop :=
  ∃ n : Numeral, n.WellFormed ∧ n.sign = [] ∧ n.written = s ∧ n.magnitude = q

/-- A numeral by its digits and by the power of ten of the last one. -/
theorem IsSize.mk {whole fraction : List Char} {exponent : Option Exponent}
    (isWhole : IsDigits whole) (isFraction : ∀ c ∈ fraction, c.isDigit = true)
    (formed : ∀ x ∈ exponent, x.WellFormed) {q : ℚ}
    (size : digitsValue (whole ++ fraction) *
      10 ^ ((exponent.map Exponent.value).getD 0 - fraction.length) = q) :
    IsSize (whole ++ (Numeral.fractionText fraction ++ Numeral.exponentText exponent)) q := by
  refine ⟨⟨[], false, whole, fraction, exponent⟩,
    ⟨.none, isWhole.2, isFraction, Or.inl isWhole.1, formed⟩, rfl, Numeral.written_eq _, ?_⟩
  rw [Numeral.magnitude_eq, Numeral.power_eq]
  exact size

/-- A numeral with a point and no exponent. -/
theorem IsSize.pointed {whole fraction : List Char} (isWhole : IsDigits whole)
    (isFraction : IsDigits fraction) {q : ℚ}
    (size : digitsValue (whole ++ fraction) * 10 ^ (-(fraction.length : ℤ)) = q) :
    IsSize (whole ++ '.' :: fraction) q := by
  have formed : ∀ x ∈ (none : Option Exponent), x.WellFormed := nofun
  have own : IsSize (whole ++ (Numeral.fractionText fraction ++ Numeral.exponentText none)) q :=
    .mk isWhole isFraction.2 formed (by rwa [Option.map_none, Option.getD_none, zero_sub])
  have text : Numeral.fractionText fraction ++ Numeral.exponentText none = '.' :: fraction := by
    rw [Numeral.fractionText_of_ne_nil isFraction.1]
    exact List.append_nil _
  rwa [text] at own

variable {d : Digits}

/-- Digits below the point, behind zeros. -/
theorem isSize_zeros_append (h : IsDigits d.digits) {k : ℕ} (below : d.exponent + 1 = -k) :
    IsSize ('0' :: '.' :: (List.replicate k '0' ++ d.digits)) d.value := by
  refine .pointed isDigits_zero (h.padded k) ?_
  have zeros : digitsValue (['0'] ++ (List.replicate k '0' ++ d.digits)) =
      digitsValue d.digits := by
    rw [← digitsValue_zeros_append k d.digits]
    exact digitsValue_zeros_append 1 _
  have scale : -((List.replicate k '0' ++ d.digits).length : ℤ) =
      d.exponent + 1 - d.digits.length := by
    rw [List.length_append, List.length_replicate]
    omega
  rw [zeros, scale, Digits.value]

/-- Digits above the point, before zeros. -/
theorem isSize_append_zeros (h : IsDigits d.digits) {k : ℕ}
    (above : d.exponent + 1 = d.digits.length + k) :
    IsSize (d.digits ++ List.replicate k '0' ++ ['.', '0']) d.value := by
  have whole : IsDigits (d.digits ++ List.replicate k '0') := by
    refine ⟨List.append_ne_nil_of_left_ne_nil h.1 _, fun c hc => ?_⟩
    rcases List.mem_append.mp hc with hc | hc
    · exact h.2 c hc
    · rw [List.eq_of_mem_replicate hc]
      rfl
  refine .pointed whole isDigits_zero ?_
  have zeros : d.digits ++ List.replicate k '0' ++ ['0'] =
      d.digits ++ List.replicate (k + 1) '0' := by
    rw [List.replicate_succ', List.append_assoc]
  have scale : d.exponent + 1 - d.digits.length = (k + 1 : ℕ) + -(['0'].length : ℤ) := by
    rw [above, List.length_singleton]
    omega
  rw [zeros, digitsValue_append_zeros, Digits.value, scale, zpow_add₀ (by norm_num), zpow_natCast]
  push_cast
  ring

/-- Digits around the point. -/
theorem isSize_take_drop (h : IsDigits d.digits) {k : ℕ} (inside : d.exponent + 1 = k)
    (some : k ≠ 0) (more : k < d.digits.length) :
    IsSize (d.digits.take k ++ '.' :: d.digits.drop k) d.value := by
  refine .pointed ⟨?_, fun c hc => h.2 c (List.mem_of_mem_take hc)⟩
    ⟨?_, fun c hc => h.2 c (List.mem_of_mem_drop hc)⟩ ?_
  · rw [Ne, List.take_eq_nil_iff, not_or]
    exact ⟨some, h.1⟩
  · rw [Ne, List.drop_eq_nil_iff]
    omega
  · rw [List.take_append_drop, List.length_drop, Digits.value, inside]
    congr 2
    omega

/-- The positional text of digits is the size that they denote. -/
theorem isSize_positional (h : IsDigits d.digits) : IsSize d.positional d.value := by
  unfold Digits.positional
  split_ifs with small
  · exact isSize_zeros_append h (by omega)
  · by_cases more : d.exponent.toNat + 1 < d.digits.length
    · have full : (d.digits.take (d.exponent.toNat + 1)).length = d.exponent.toNat + 1 :=
        List.length_take_of_le more.le
      have behind : (d.digits.drop (d.exponent.toNat + 1)).isEmpty = false := by
        rw [List.isEmpty_eq_false_iff, Ne, List.drop_eq_nil_iff]
        omega
      have size := isSize_take_drop h (k := d.exponent.toNat + 1) (by omega) (by omega) more
      simpa only [full, Nat.sub_self, List.replicate_zero, List.append_nil, behind,
        Bool.false_eq_true, if_false] using size
    · have all : d.digits.take (d.exponent.toNat + 1) = d.digits :=
        List.take_of_length_le (by omega)
      have none : d.digits.drop (d.exponent.toNat + 1) = [] := List.drop_of_length_le (by omega)
      have size := isSize_append_zeros h (k := d.exponent.toNat + 1 - d.digits.length) (by omega)
      simpa only [all, none, List.isEmpty_nil, if_true] using size

/-- The exponent of a scientific text is a well-formed one of the same value. -/
theorem exists_exponent (style : NumberStyle) (e : ℤ) :
    ∃ x : Exponent, x.WellFormed ∧ x.written = Digits.exponentText style e ∧ x.value = e := by
  have digits : IsDigits (padZeros style.exponentWidth (Nat.toDigits 10 e.natAbs)) :=
    (isDigits_toDigits e.natAbs).padded _
  have sign : IsSign (if e < 0 then ['-'] else if style.plusInExponent then ['+'] else [])
      (decide (e < 0)) := by
    split_ifs with negative
    · rw [decide_eq_true negative]
      exact .minus
    · rw [decide_eq_false negative]
      exact .plus
    · rw [decide_eq_false negative]
      exact .none
  refine ⟨_, .mk (Or.inl rfl) sign digits, rfl, ?_⟩
  unfold Exponent.value
  rw [Text.digitsValue_padZeros, signedNumber_natAbs]

/-- Digits before an exponent, with a fraction or without. -/
theorem isSize_scaled (style : NumberStyle) {whole : List Char} (isWhole : IsDigits whole)
    (fraction : List Char) (isFraction : ∀ c ∈ fraction, c.isDigit = true) {e : ℤ} {q : ℚ}
    (size : digitsValue (whole ++ fraction) * 10 ^ (e - fraction.length) = q) :
    IsSize (whole ++ (Numeral.fractionText fraction ++ Digits.exponentText style e)) q := by
  obtain ⟨x, formed, text, rfl⟩ := exists_exponent style e
  have given : ∀ y ∈ some x, y.WellFormed := by simpa using formed
  have parts := IsSize.mk isWhole isFraction given size
  rwa [← text]

/-- The scientific text of digits is the size that they denote. -/
theorem isSize_scientific (style : NumberStyle) (h : IsDigits d.digits) :
    IsSize (d.scientific style) d.value := by
  unfold Digits.scientific
  split
  · rename_i none
    exact absurd none h.1
  · rename_i c single
    rw [single] at h
    have own : d.value = digitsValue [c] * 10 ^ d.exponent := by
      rw [Digits.value, single, List.length_singleton, Nat.cast_one, add_sub_cancel_right]
    split_ifs
    · refine isSize_scaled style h ['0'] isDigits_zero.2 ?_
      have shifted : digitsValue ([c] ++ ['0']) = digitsValue [c] * 10 ^ 1 :=
        digitsValue_append_zeros [c] 1
      have last : (10 : ℚ) ^ (d.exponent - (['0'].length : ℕ)) * 10 ^ 1 = 10 ^ d.exponent := by
        rw [← zpow_natCast, ← zpow_add₀ (by norm_num)]
        congr 1
        exact sub_add_cancel _ _
      rw [own, shifted, ← last]
      push_cast
      ring
    · exact isSize_scaled style h [] (by simp) (by simp [own])
  · rename_i c rest more several
    rw [several] at h
    obtain ⟨first, behind⟩ := List.forall_mem_cons.mp h.2
    have isWhole : IsDigits [c] := ⟨List.cons_ne_nil c [], List.forall_mem_singleton.mpr first⟩
    have own : digitsValue ([c] ++ rest) * 10 ^ (d.exponent - rest.length) = d.value := by
      rw [Digits.value, several, List.length_cons, Nat.cast_add_one, add_sub_add_right_eq_sub]
      rfl
    have whole := isSize_scaled style isWhole rest behind own
    rwa [Numeral.fractionText_of_ne_nil more] at whole

/-- Every notation of digits is the text of a numeral of their size. -/
theorem isSize_layout (style : NumberStyle) (h : IsDigits d.digits) :
    IsSize (d.layout style) d.value := by
  unfold Digits.layout
  split_ifs
  · exact isSize_positional h
  · exact isSize_scientific style h

/-! ## Reading what is written -/

/-- Neither sign nor digit nor point is a blank. -/
theorem trimLeft_of_scan {s rest : List Char} {n : Numeral} (h : Numeral.scan s = some (n, rest)) :
    Text.trimLeft s = s := by
  cases s with
  | nil => rfl
  | cons c s =>
    have shown : Text.isBlank c = false := by
      rw [Bool.eq_false_iff]
      intro blank
      rw [Store.scan_of_isBlank blank] at h
      cases h
    refine Text.trimLeft_eq_self ?_
    rintro e ⟨⟩
    exact shown

/-- The text of a size with a sign in front is a numeral of that sign and size. -/
theorem IsSize.signed {s : List Char} {q : ℚ} (h : IsSize s q) (negative : Bool) :
    ∃ n : Numeral, n.WellFormed ∧ n.written = (if negative then ['-'] else []) ++ s ∧
      n.negative = negative ∧ n.magnitude = q := by
  obtain ⟨⟨sign, own, whole, fraction, exponent⟩, formed, none, rfl, rfl⟩ := h
  obtain rfl : sign = [] := none
  cases negative with
  | false => exact ⟨_, formed, rfl, formed.isSign.eq .none, rfl⟩
  | true =>
    exact ⟨⟨['-'], true, whole, fraction, exponent⟩,
      ⟨.minus, formed.whole, formed.fraction, formed.digits, formed.exponent⟩, rfl, rfl, rfl⟩

/-- The shortest digits with a sign, as a decimal, are nearest to the number that they are made
from. -/
theorem toBinary64?_of_shortest (tieUp : Bool) {x : Binary64} {n : Numeral}
    (sign : n.negative = x.negative)
    (size : n.magnitude = (x.shortest tieUp).1 * 10 ^ (x.shortest tieUp).2) :
    n.toBinary64? = some x := by
  rw [n.magnitude_eq] at size
  unfold Numeral.toBinary64?
  rw [sign]
  by_cases zero : x.mantissa = 0
  · have nothing : (x.shortest tieUp).1 = 0 := by
      unfold Binary64.shortest
      rw [if_pos zero]
    rw [nothing, Nat.cast_zero, zero_mul] at size
    have small : Binary64.ofDecimal x.negative n.coefficient n.power =
        some (Binary64.zero x.negative) :=
      Binary64.ofDecimal_eq_zero_iff.mpr (size.le.trans (two_zpow_pos _).le)
    rw [small, ← Binary64.eq_zero_of_mantissa zero]
  · refine Binary64.ofDecimal_of_covers zero ?_
    rw [size]
    exact (Binary64.shortest_spec tieUp zero).1

/-- The shortest text of a number is one numeral, and it is read as the number, in any style. -/
theorem leadingReal_shortestText (style : NumberStyle) (x : Binary64) :
    Numeral.leadingLength (x.shortestText style) = (x.shortestText style).length ∧
      leadingReal (x.shortestText style) = x := by
  obtain ⟨n, formed, text, sign, size⟩ := (isSize_layout style
    (isDigits_ofScaled (x.shortest style.tieUp).1 (x.shortest style.tieUp).2)).signed x.negative
  have written : x.shortestText style = n.written := text.symm
  have scanned := formed.scan_written
  rw [Digits.value_ofScaled] at size
  rw [written]
  refine ⟨Numeral.leadingLength_of_scan scanned, ?_⟩
  unfold leadingReal
  rw [trimLeft_of_scan scanned, scanned]
  show n.toBinary64?.getD _ = x
  rw [toBinary64?_of_shortest style.tieUp sign size]
  rfl

/-- The decimal text of a number of the range is read back as the number. -/
theorem leadingInt_decimal {n : ℤ} (h : isInt64 n = true) : leadingInt (decimal n).toList = n := by
  rw [leadingInt_eq, trimLeft_decimal, splitSign_decimal, (isDigits_toDigits _).takeWhile_eq,
    digitsValue_toDigits, signedNumber_natAbs, saturate_of_isInt64 h]

end Number

open Number (isInt64 leadingInt leadingReal)
open Number.Numeral (leadingLength)

/-- A whole number of 64 bits and a finite number, whatever its size and its sign, are read back
from their texts, and nothing of the text of a finite number is left. -/
theorem FilterValue.normalize_reads_back :
    (∀ n, isInt64 n = true → leadingInt (FilterValue.int n).normalize.toList = n) ∧
    ∀ x : Number.Binary64,
      leadingLength (FilterValue.float (.finite x)).normalize.toList =
        (FilterValue.float (.finite x)).normalize.toList.length ∧
      leadingReal (FilterValue.float (.finite x)).normalize.toList = x := by
  refine ⟨fun n wide => Number.leadingInt_decimal wide, fun x => ?_⟩
  have shortest : (FilterValue.float (.finite x)).normalize.toList =
      x.shortestText Number.literalStyle := String.toList_ofList
  rw [shortest]
  exact Number.leadingReal_shortestText Number.literalStyle x

/-- The least whole number, a negative zero and the least number of the format, which is written
with an exponent, are read back. -/
theorem FilterValue.normalize_reads_back_extremes :
    isInt64 Number.minInt64 = true ∧
      leadingInt (FilterValue.int Number.minInt64).normalize.toList = Number.minInt64 ∧
      leadingReal (FilterValue.float (.finite (.zero true))).normalize.toList = .zero true ∧
      leadingReal (FilterValue.float (.finite (Store.leastReal true))).normalize.toList =
        Store.leastReal true :=
  ⟨by decide, normalize_reads_back.1 _ (by decide), (normalize_reads_back.2 _).2,
    (normalize_reads_back.2 _).2⟩

end Worklist
