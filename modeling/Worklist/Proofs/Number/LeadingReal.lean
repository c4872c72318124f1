import Worklist.Proofs.Number.BytePositions
import Worklist.Proofs.Number.NearestDecimal

/-!
# The real number at the start of a text

A text is cut where its longest numeral ends, and what is cut off is read as a number on its own.
The reader never refuses it: a numeral is a number, and its nearest binary number is read, or an
infinity where that is too large. So zero is read for one of three reasons only: the text starts
with no numeral, or its number is so small that zero is nearest, or it is so large that none is.
-/

set_option autoImplicit false

namespace Worklist.Number

open Binary64 (tooLarge tooSmall)

/-! ## What a numeral stands for -/

/-- Further digits move the ones before them by as many places. -/
theorem digitsValue_append (a b : List Char) :
    digitsValue (a ++ b) = digitsValue a * 10 ^ b.length + digitsValue b := by
  unfold digitsValue
  rw [Nat.ofDigitChars_append, Nat.ofDigitChars_eq_ofDigitChars_zero, Nat.mul_comm]

/-- The power of ten that an exponent shows. -/
def Exponent.value (x : Exponent) : ℤ :=
  signedNumber x.negative (digitsValue x.digits)

namespace Numeral

/-- The size of the number that a numeral stands for. -/
def magnitude (n : Numeral) : ℚ :=
  (digitsValue n.whole + digitsValue n.fraction / 10 ^ n.fraction.length) *
    10 ^ ((n.exponent.map Exponent.value).getD 0)

/-- The number that a numeral stands for, whether the format has it or not. -/
def value (n : Numeral) : ℚ :=
  if n.negative then -n.magnitude else n.magnitude

/-- The size of a numeral is not negative. -/
theorem magnitude_nonneg (n : Numeral) : 0 ≤ n.magnitude := by
  unfold magnitude
  positivity

/-- The size of a numeral is the absolute value of what it denotes. -/
theorem abs_value (n : Numeral) : |n.value| = n.magnitude := by
  unfold value
  split_ifs
  · rw [abs_neg, abs_of_nonneg n.magnitude_nonneg]
  · rw [abs_of_nonneg n.magnitude_nonneg]

/-- The power of ten of a numeral is its exponent less the digits of its fraction. -/
theorem power_eq (n : Numeral) :
    n.power = (n.exponent.map Exponent.value).getD 0 - n.fraction.length := by
  unfold power
  cases n.exponent with
  | none => rfl
  | some x => rfl

/-- All digits as one whole number and one power of ten stand for the same. -/
theorem magnitude_eq (n : Numeral) : n.magnitude = n.coefficient * 10 ^ n.power := by
  have ten : (10 : ℚ) ≠ 0 := by norm_num
  unfold magnitude coefficient
  rw [power_eq, digitsValue_append, zpow_sub₀ ten, zpow_natCast]
  push_cast
  field_simp

/-- A numeral has no binary64 number if what it denotes is too large for one. -/
theorem toBinary64?_eq_none_iff {n : Numeral} : n.toBinary64? = none ↔ tooLarge ≤ |n.value| := by
  unfold toBinary64?
  rw [abs_value, magnitude_eq, Binary64.ofDecimal_eq_none_iff]

/-- A numeral has zero for its number if what it denotes is no larger than half of the least number.
-/
theorem isZero_of_toBinary64? {n : Numeral} {x : Binary64} (h : n.toBinary64? = some x) :
    x.isZero = true ↔ |n.value| ≤ tooSmall := by
  have sign : x.negative = n.negative := by
    unfold toBinary64? at h
    rw [Binary64.ofDecimal_eq_nearest] at h
    exact Binary64.negative_of_nearest h
  have small : n.toBinary64? = some (Binary64.zero n.negative) ↔
      n.coefficient * 10 ^ n.power ≤ tooSmall := Binary64.ofDecimal_eq_zero_iff
  rw [abs_value, magnitude_eq, ← small, h, Option.some_inj, Binary64.isZero, beq_iff_eq]
  constructor
  · intro zero
    rw [Binary64.eq_zero_of_mantissa zero, sign]
  · rintro rfl
    rfl

/-- Zero stands in for what is too large, and is nearest to what is too small. -/
theorem isZero_getD_iff (n : Numeral) : (n.toBinary64?.getD (Binary64.zero false)).isZero = true ↔
    |n.value| ≤ tooSmall ∨ tooLarge ≤ |n.value| := by
  rw [← toBinary64?_eq_none_iff]
  cases h : n.toBinary64? with
  | none => exact iff_of_true rfl (Or.inr rfl)
  | some x => simp only [Option.getD_some, isZero_of_toBinary64? h, reduceCtorEq, or_false]

end Numeral

/-- A text is a numeral and stands for a number. -/
def Denotes (s : List Char) (q : ℚ) : Prop :=
  ∃ n : Numeral, n.WellFormed ∧ n.written = s ∧ n.value = q

/-- A text denotes one number at most. -/
theorem Denotes.unique {s : List Char} {q r : ℚ} (hq : Denotes s q) (hr : Denotes s r) : q = r := by
  obtain ⟨n, formed, rfl, rfl⟩ := hq
  obtain ⟨m, formed', same, rfl⟩ := hr
  rw [formed'.eq_of_written formed same]

/-! ## Reading a whole text -/

/-- The number that is read for a numeral: the nearest one, or an infinity. -/
def Numeral.toReal64 (n : Numeral) : Real64 :=
  match n.toBinary64? with
  | some x => .finite x
  | none => .infinite n.negative

/-- The number that a text is from its start to its end, where a point needs digits on one side
only. Names of what is not finite count as well, in any case of letters. -/
def readReal? (s : List Char) : Option Real64 :=
  match Store.scanNumber s with
  | some ⟨n, _, []⟩ => some n.toReal64
  | _ =>
    let (_, negative, name) := Numeral.scanSign s
    match String.ofList (name.map Char.toLower) with
    | "inf" => some (.infinite negative)
    | "infinity" => some (.infinite negative)
    | "nan" => some .notANumber
    | _ => none

/-- The number, if it is finite. -/
def Real64.finite? : Real64 → Option Binary64
  | .finite x => some x
  | .infinite _ => none
  | .notANumber => none

/-- The number of a numeral is finite if the numeral is not too large. -/
theorem Numeral.finite?_toReal64 (n : Numeral) : n.toReal64.finite? = n.toBinary64? := by
  unfold toReal64
  split
  · rename_i x h
    exact h.symm
  · rename_i h
    exact h.symm

/-- A point is read alike whether it may lack digits or not, if no other one follows. -/
theorem scanOpenFraction_snd {s : List Char}
    (closed : (Numeral.scanFraction s).2.head? ≠ some '.') :
    (Store.scanOpenFraction s).2 = (Numeral.scanFraction s).2 := by
  by_cases point : ∃ rest, s = '.' :: rest
  · obtain ⟨rest, rfl⟩ := point
    rw [Numeral.scanFraction] at closed ⊢
    split_ifs at closed ⊢ with none
    · exact absurd rfl closed
    · rfl
  · have other : ∀ rest, s ≠ '.' :: rest := fun rest same => point ⟨rest, same⟩
    rw [Numeral.scanFraction_of_ne_point other, Store.scanOpenFraction_of_ne_point other]

/-- An exponent does not begin with a point. -/
theorem head?_exponentText_ne {exponent : Option Exponent} (formed : ∀ x ∈ exponent, x.WellFormed) :
    (Numeral.exponentText exponent).head? ≠ some '.' := by
  cases exponent with
  | none => exact nofun
  | some x =>
    cases formed x rfl with
    | mk isMark isSign isDigits =>
      intro point
      rcases isMark with rfl | rfl
      · cases point
      · cases point

/-- A text that is one numeral is scanned by the store to its end. -/
theorem scanNumber_of_scan {s : List Char} {n : Numeral} (h : Numeral.scan s = some (n, [])) :
    ∃ plain, Store.scanNumber s = some ⟨n, plain, []⟩ := by
  obtain ⟨sign, negative, body, signed⟩ : ∃ sign negative body,
      Numeral.scanSign s = (sign, negative, body) := ⟨_, _, _, rfl⟩
  obtain ⟨fraction, after, pointed⟩ : ∃ fraction after,
      Numeral.scanFraction (body.dropWhile Char.isDigit) = (fraction, after) := ⟨_, _, rfl⟩
  obtain ⟨exponent, rest, raised⟩ : ∃ exponent rest,
      Numeral.scanExponent after = (exponent, rest) := ⟨_, _, rfl⟩
  obtain ⟨formed, text⟩ := Numeral.scanExponent_spec raised
  unfold Numeral.scan at h
  simp only [signed, pointed, raised] at h
  split_ifs at h with none
  obtain ⟨rfl, rfl⟩ := Prod.mk.inj (Option.some.inj h)
  rw [List.append_nil] at text
  have digits := Store.scanOpenFraction_digits (body.dropWhile Char.isDigit)
  have left := scanOpenFraction_snd (s := body.dropWhile Char.isDigit)
    (by rw [pointed, ← text]; exact head?_exponentText_ne formed)
  rw [pointed] at digits left
  unfold Store.scanNumber
  simp only [signed, digits, left, none, Bool.false_eq_true, if_false, raised]
  exact ⟨_, rfl⟩

/-- The text of a numeral is a number from its start to its end. -/
theorem readReal?_written {n : Numeral} (h : n.WellFormed) :
    readReal? n.written = some n.toReal64 := by
  obtain ⟨plain, scanned⟩ := scanNumber_of_scan h.scan_written
  unfold readReal?
  rw [scanned]

/-! ## Reading the start of a text -/

/-- How the number of a text `s` is read, where `t` is the text behind its blanks, and `k` says
where in it the number ends. -/
structure ReadsLongest (s t : List Char) (k : ℕ) : Prop where
  /-- The position is found among the bytes without a look beyond their end. -/
  position : numeralEnd? (utf8 t) = some k
  /-- It lies between two characters, and the bytes before it are those of the characters. -/
  boundary : String.Pos.Raw.IsValid (String.ofList t) ⟨k⟩ ∧ (utf8 t).take k = utf8 (t.take k)
  /-- The longest numeral that the text starts with ends there; it is zero if there is none. -/
  longest : k = 0 ∧ (∀ p ∈ numeralTexts, ¬p <+: t) ∨
    IsGreatest {j | ∃ p ∈ numeralTexts, p <+: t ∧ p.length = j} k
  /-- What is cut off there is a number for the reader, and the outcome is that number if it is
  finite. -/
  outcome : k = 0 ∧ leadingReal s = Binary64.zero false ∨ ∃ r, readReal? (t.take k) = some r ∧
    leadingReal s = r.finite?.getD (Binary64.zero false)
  /-- The outcome is zero just where there is no numeral, where its number is so small that zero is
  nearest, and where it is too large. -/
  isZero_iff : (leadingReal s).isZero = true ↔
    k = 0 ∨ ∃ q, Denotes (t.take k) q ∧ (|q| ≤ tooSmall ∨ tooLarge ≤ |q|)

/-- Either there is no numeral and zero is read, or there is one and its number is read. -/
theorem leadingReal_cases {s t : List Char} (text : Text.trimLeft s = t) :
    Numeral.leadingLength t = 0 ∧ leadingReal s = Binary64.zero false ∨
      Numeral.leadingLength t ≠ 0 ∧ ∃ n : Numeral, n.WellFormed ∧
        n.written = t.take (Numeral.leadingLength t) ∧
        leadingReal s = n.toBinary64?.getD (Binary64.zero false) := by
  unfold leadingReal
  rw [text, Ne, Numeral.leadingLength_eq_zero_iff]
  cases scanned : Numeral.scan t with
  | none => exact Or.inl ⟨rfl, rfl⟩
  | some found =>
    obtain ⟨n, rest⟩ := found
    exact Or.inr ⟨nofun, n, (Numeral.scan_spec scanned).1, (Numeral.take_of_scan scanned).symm, rfl⟩

/-- The longest numeral behind the blanks of a text is read, whatever the text is. -/
theorem leadingReal_reads_longest (s : List Char) :
    ReadsLongest s (Text.trimLeft s) (Numeral.leadingLength (Text.trimLeft s)) := by
  generalize text : Text.trimLeft s = t
  refine ⟨numeralEnd?_utf8 t, ⟨Numeral.isValid_leadingLength t, Numeral.take_utf8_leadingLength t⟩,
    (Numeral.leadingLength_cases t).imp_right And.right, ?outcome, ?isZero_iff⟩
  case outcome =>
    refine (leadingReal_cases text).imp_right ?_
    rintro ⟨-, n, formed, own, read⟩
    refine ⟨n.toReal64, own ▸ readReal?_written formed, ?_⟩
    rw [n.finite?_toReal64, read]
  case isZero_iff =>
    rcases leadingReal_cases text with ⟨empty, zero⟩ | ⟨some, n, formed, own, read⟩
    · rw [zero]
      exact iff_of_true rfl (Or.inl empty)
    · have denoted : Denotes (t.take (Numeral.leadingLength t)) n.value := ⟨n, formed, own, rfl⟩
      rw [read, n.isZero_getD_iff]
      constructor
      · exact fun ends => Or.inr ⟨n.value, denoted, ends⟩
      · rintro (empty | ⟨q, other, ends⟩)
        · exact absurd empty some
        · rwa [denoted.unique other]

/-- A number that goes on with an exponent without digits. -/
def unfinished : List Char :=
  ['\u00a0', '-', '1', '.', '5', 'e', '+', ' ', 'k', 'g', '€']

/-- The position behind the fraction is found among the bytes, no numeral is longer, and what is
read up to there is not zero. -/
theorem leadingReal_reads_longest_unfinished :
    numeralEnd? (utf8 (Text.trimLeft unfinished)) = some 4 ∧
      IsGreatest {j | ∃ p ∈ numeralTexts, p <+: Text.trimLeft unfinished ∧ p.length = j} 4 ∧
      readReal? ['-', '1', '.', '5'] = some (.finite (leadingReal unfinished)) ∧
      (leadingReal unfinished).isZero = false := by
  have four : Numeral.leadingLength (Text.trimLeft unfinished) = 4 := by decide
  have reads := leadingReal_reads_longest unfinished
  rw [four] at reads
  exact ⟨reads.position, reads.longest.resolve_left (by simp), by decide, by decide⟩

end Worklist.Number
