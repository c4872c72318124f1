import Mathlib.Data.String.Basic
import Worklist.Number.Layout
import Worklist.Number.Whole

/-!
# The order of texts

Texts are ordered as their lists of characters are, so where two texts start with parts of one
length the order of these parts decides first. Numbers written with one count of digits are ordered
as texts as they are as numbers.
-/

set_option autoImplicit false

namespace Worklist.Text

open Std (OrientedCmp ReflCmp)

/-- Texts compare as their characters are ordered. -/
theorem compare_eq_lt_of_lt {s t : List Char} (h : s < t) : compare s t = .lt := by
  induction s generalizing t with
  | nil =>
    cases t with
    | nil => exact absurd h (List.lt_irrefl [])
    | cons d t => rfl
  | cons c s ih =>
    cases t with
    | nil => exact absurd h (List.not_lt_nil _)
    | cons d t =>
      rw [List.compare_cons_cons]
      rcases List.cons_lt_cons_iff.mp h with hlt | ⟨rfl, hrest⟩
      · have first : compare c d = .lt := compareOfLessAndEq_eq_lt.mpr hlt
        rw [first]
        rfl
      · have first : compare c c = .eq := ReflCmp.compare_self
        rw [first]
        exact ih hrest

/-- Texts are ordered character by character. -/
theorem compare_toList (s t : String) : compare s t = compare s.toList t.toList := by
  rcases lt_trichotomy s t with h | rfl | h
  · have direct : compare s t = .lt := compareOfLessAndEq_eq_lt.mpr h
    rw [direct, compare_eq_lt_of_lt (String.lt_iff_toList_lt.mp h)]
  · have direct : compare s s = .eq := ReflCmp.compare_self
    have lists : compare s.toList s.toList = .eq := ReflCmp.compare_self
    rw [direct, lists]
  · have direct : compare t s = .lt := compareOfLessAndEq_eq_lt.mpr h
    have lists := compare_eq_lt_of_lt (String.lt_iff_toList_lt.mp h)
    rw [OrientedCmp.gt_of_lt direct, OrientedCmp.gt_of_lt lists]

/-- Of texts with starts of one length the starts decide first. -/
theorem compare_append {a b : List Char} (length : a.length = b.length) (s t : List Char) :
    compare (a ++ s) (b ++ t) = (compare a b).then (compare s t) := by
  induction a generalizing b with
  | nil =>
    rw [List.eq_nil_of_length_eq_zero length.symm]
    rfl
  | cons c a ih =>
    cases b with
    | nil => simp at length
    | cons d b =>
      simp only [List.cons_append, List.compare_cons_cons, Ordering.then_assoc]
      rw [ih (by simpa using length)]

/-- A common start decides nothing. -/
theorem compare_append_left (a s t : List Char) : compare (a ++ s) (a ++ t) = compare s t := by
  have start : compare a a = .eq := ReflCmp.compare_self
  rw [compare_append rfl, start]
  rfl

/-! ## Empty text -/

/-- The empty text comes before every other. -/
theorem compare_empty {text : String} (h : text ≠ "") : compare "" text = .lt := by
  rw [compare_toList]
  cases chars : text.toList with
  | nil => exact absurd (String.toList_inj.mp chars) h
  | cons c rest => rfl

/-- The empty text comes after none. -/
theorem compare_empty_ne_gt (text : String) : compare "" text ≠ .gt := by
  by_cases h : text = ""
  · rw [h]
    decide
  · rw [compare_empty h]
    decide

/-! ## Digits -/

/-- A digit in front has the value of its place. -/
theorem digitsValue_cons (c : Char) (digits : List Char) :
    Number.digitsValue (c :: digits) =
      10 ^ digits.length * (c.toNat - 48) + Number.digitsValue digits := by
  show Nat.ofDigitChars 10 (c :: digits) 0 = _
  rw [Nat.ofDigitChars_cons, Nat.ofDigitChars_eq_ofDigitChars_zero, Nat.mul_zero, Nat.zero_add]
  rfl

/-- The digits have the numbers 48 to 57. -/
theorem toNat_of_isDigit {c : Char} (h : c.isDigit = true) : 48 ≤ c.toNat ∧ c.toNat < 58 := by
  simp only [Char.isDigit, Bool.and_eq_true, decide_eq_true_eq, UInt32.le_iff_toNat_le] at h
  have low : 48 ≤ c.toNat := h.1
  have high : c.toNat ≤ 57 := h.2
  omega

/-- Digits have a value below the power of ten of their length. -/
theorem digitsValue_lt {digits : List Char} (h : ∀ c ∈ digits, c.isDigit = true) :
    Number.digitsValue digits < 10 ^ digits.length := by
  induction digits with
  | nil => decide
  | cons c digits ih =>
    obtain ⟨hc, hdigits⟩ := List.forall_mem_cons.mp h
    have bounds := toNat_of_isDigit hc
    have rest := ih hdigits
    have first : 10 ^ digits.length * (c.toNat - 48) ≤ 10 ^ digits.length * 9 :=
      Nat.mul_le_mul_left _ (by omega)
    rw [digitsValue_cons, List.length_cons, Nat.pow_succ]
    omega

/-- Of two-place numbers the greater place decides first. -/
theorem compare_mul_add {w x y r s : Nat} (hr : r < w) (hs : s < w) :
    compare (w * x + r) (w * y + s) = (compare x y).then (compare r s) := by
  have outweighs {x y : Nat} (h : x < y) : w * x + w ≤ w * y := by
    rw [← Nat.mul_succ]
    exact Nat.mul_le_mul_left w h
  rcases Nat.lt_trichotomy x y with h | rfl | h
  · have more := outweighs h
    have whole : compare (w * x + r) (w * y + s) = .lt := Nat.compare_eq_lt.mpr (by omega)
    rw [whole, Nat.compare_eq_lt.mpr h]
    rfl
  · rw [Nat.compare_eq_eq.mpr (rfl : x = x)]
    show compare (w * x + r) (w * x + s) = compare r s
    simp only [Nat.compare_eq_ite_lt, Nat.add_lt_add_iff_left]
  · have more := outweighs h
    have whole : compare (w * x + r) (w * y + s) = .gt := Nat.compare_eq_gt.mpr (by omega)
    rw [whole, Nat.compare_eq_gt.mpr h]
    rfl

/-- Digits compare as their values do. -/
theorem compare_digit {c d : Char} (hc : c.isDigit = true) (hd : d.isDigit = true) :
    compare c d = compare (c.toNat - 48) (d.toNat - 48) := by
  have low_c := toNat_of_isDigit hc
  have low_d := toNat_of_isDigit hd
  rcases Nat.lt_trichotomy c.toNat d.toNat with h | h | h
  · have direct : compare c d = .lt := compareOfLessAndEq_eq_lt.mpr h
    rw [direct, Nat.compare_eq_lt.mpr (by omega)]
  · obtain rfl := Char.toNat_inj.mp h
    rw [Nat.compare_eq_eq.mpr rfl]
    exact ReflCmp.compare_self
  · have direct : compare d c = .lt := compareOfLessAndEq_eq_lt.mpr h
    rw [OrientedCmp.gt_of_lt direct, Nat.compare_eq_gt.mpr (by omega)]

/-- As many digits are ordered as texts as they are as numbers. -/
theorem compare_digits {a b : List Char} (ha : ∀ c ∈ a, c.isDigit = true)
    (hb : ∀ c ∈ b, c.isDigit = true) (length : a.length = b.length) :
    compare a b = compare (Number.digitsValue a) (Number.digitsValue b) := by
  induction a generalizing b with
  | nil =>
    rw [List.eq_nil_of_length_eq_zero length.symm]
    rfl
  | cons c a ih =>
    cases b with
    | nil => simp at length
    | cons d b =>
      have rest : a.length = b.length := by simpa using length
      obtain ⟨hc, ha⟩ := List.forall_mem_cons.mp ha
      obtain ⟨hd, hb⟩ := List.forall_mem_cons.mp hb
      have below := digitsValue_lt ha
      rw [rest] at below
      rw [List.compare_cons_cons, digitsValue_cons, digitsValue_cons, rest,
        compare_mul_add below (digitsValue_lt hb), compare_digit hc hd, ih ha hb rest]

/-! ## Numbers with leading zeros -/

/-- A number that fits into a width has this width with zeros in front. -/
theorem length_padZeros {width n : Nat} (positive : 0 < width) (h : n < 10 ^ width) :
    (Number.padZeros width (Nat.toDigits 10 n)).length = width := by
  have short := (Nat.length_toDigits_le_iff (by decide) positive).mpr h
  simp only [Number.padZeros, List.length_append, List.length_replicate]
  omega

/-- A number with zeros in front is written with digits. -/
theorem isDigit_of_mem_padZeros {width n : Nat} :
    ∀ c ∈ Number.padZeros width (Nat.toDigits 10 n), c.isDigit = true := by
  intro c hc
  rcases List.mem_append.mp hc with hc | hc
  · rw [List.eq_of_mem_replicate hc]
    rfl
  · exact Nat.isDigit_of_mem_toDigits (by decide) (by decide) hc

/-- Zeros in front leave a number its value. -/
theorem digitsValue_padZeros (width n : Nat) :
    Number.digitsValue (Number.padZeros width (Nat.toDigits 10 n)) = n := by
  unfold Number.digitsValue Number.padZeros
  rw [Nat.ofDigitChars_append, Nat.ofDigitChars_replicate_zero, Nat.mul_zero,
    Nat.ofDigitChars_ten_toDigits]

/-- Numbers with one count of digits are ordered as texts as they are as numbers. -/
theorem compare_padZeros {width m n : Nat} (positive : 0 < width) (hm : m < 10 ^ width)
    (hn : n < 10 ^ width) :
    compare (Number.padZeros width (Nat.toDigits 10 m))
      (Number.padZeros width (Nat.toDigits 10 n)) = compare m n := by
  rw [compare_digits isDigit_of_mem_padZeros isDigit_of_mem_padZeros
      ((length_padZeros positive hm).trans (length_padZeros positive hn).symm),
    digitsValue_padZeros, digitsValue_padZeros]

end Worklist.Text
