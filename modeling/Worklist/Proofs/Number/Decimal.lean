import Worklist.Proofs.Number.Signs
import Worklist.Proofs.Sql.Constant
import Worklist.Proofs.Text.Order
import Worklist.Store.Affinity

/-!
# Whole numbers read back from their texts

The decimal text of a whole number has no blanks, so cutting blanks from its ends leaves it as it
is. If the number has 64 bits, both the strict reading and the one of a store give it back.
-/

set_option autoImplicit false

namespace Worklist

open Sql (IsDigits isDigits_toDigits toList_decimal)

/-! ## Runs of digits -/

/-- Of digits alone all are taken. -/
theorem Sql.IsDigits.takeWhile_eq {digits : List Char} (h : IsDigits digits) :
    digits.takeWhile Char.isDigit = digits :=
  List.takeWhile_eq_self_iff.mpr h.2

/-- Of digits alone none is left. -/
theorem Sql.IsDigits.dropWhile_eq {digits : List Char} (h : IsDigits digits) :
    digits.dropWhile Char.isDigit = [] :=
  List.dropWhile_eq_nil_iff.mpr h.2

/-- Digits have a first one. -/
theorem Sql.IsDigits.exists_cons {digits : List Char} (h : IsDigits digits) :
    ∃ c rest, digits = c :: rest ∧ c.isDigit = true := by
  obtain ⟨c, rest, rfl⟩ := List.exists_cons_of_ne_nil h.1
  exact ⟨c, rest, rfl, h.2 c List.mem_cons_self⟩

/-- Digits start with no sign. -/
theorem Sql.IsDigits.unsigned {digits : List Char} (h : IsDigits digits) :
    Number.Unsigned digits := by
  obtain ⟨c, rest, rfl, digit⟩ := h.exists_cons
  exact Number.unsigned_cons digit rest

/-- The decimal digits of a number have its value. -/
theorem digitsValue_toDigits (n : Nat) : Number.digitsValue (Nat.toDigits 10 n) = n := by
  unfold Number.digitsValue
  exact Nat.ofDigitChars_ten_toDigits

/-! ## The strict reading -/

/-- A text that does not begin with a blank is not trimmed on the left. -/
theorem Text.trimLeft_eq_self {s : List Char} (h : ∀ c ∈ s.head?, isBlank c = false) :
    trimLeft s = s := by
  cases s with
  | nil => rfl
  | cons c s =>
    unfold trimLeft
    rw [List.dropWhile_cons, h c rfl]
    rfl

/-- A text without blanks is not trimmed. -/
theorem Text.trim_eq_self {s : List Char} (h : ∀ c ∈ s, isBlank c = false) : trim s = s := by
  have unchanged {l : List Char} (hl : ∀ c ∈ l, isBlank c = false) : trimLeft l = l :=
    trimLeft_eq_self fun c hc => hl c (List.mem_of_mem_head? hc)
  show (trimLeft (trimLeft s).reverse).reverse = s
  rw [unchanged h, unchanged, List.reverse_reverse]
  intro c hc
  exact h c (List.mem_reverse.mp hc)

/-- No digit is blank. -/
theorem Text.isBlank_of_isDigit {c : Char} (h : c.isDigit = true) : isBlank c = false := by
  have bounds := Text.toNat_of_isDigit h
  unfold isBlank
  simp only [Bool.or_eq_false_iff, Bool.and_eq_false_iff, decide_eq_false_iff_not,
    beq_eq_false_iff_ne]
  omega

/-- A whole number is written with digits and a minus sign only. -/
theorem Number.not_mem_decimal {c : Char} (noDigit : c.isDigit = false) (noSign : c ≠ '-')
    (n : Int) : c ∉ (decimal n).toList := by
  have digits : c ∉ Nat.toDigits 10 n.natAbs := by
    intro mem
    rw [(isDigits_toDigits n.natAbs).2 c mem] at noDigit
    cases noDigit
  rw [toList_decimal]
  split_ifs
  · rw [List.mem_cons, not_or]
    exact ⟨noSign, digits⟩
  · exact digits

/-- The decimal text of a number has nothing to trim. -/
theorem Number.trim_decimal (n : Int) : Text.trim (decimal n).toList = (decimal n).toList := by
  apply Text.trim_eq_self
  intro c hc
  rw [toList_decimal] at hc
  have digits := (isDigits_toDigits n.natAbs).2
  split_ifs at hc
  · rcases List.mem_cons.mp hc with rfl | hc
    · rfl
    · exact Text.isBlank_of_isDigit (digits c hc)
  · exact Text.isBlank_of_isDigit (digits c hc)

/-- A sign in front of digits is cut off, and digits alone have none. -/
theorem Number.scanSign_decimal (n : Int) : ∃ sign,
    Numeral.scanSign (decimal n).toList =
      (sign, decide (n < 0), Nat.toDigits 10 n.natAbs) := by
  rw [toList_decimal]
  by_cases negative : n < 0
  · rw [if_pos negative, decide_eq_true negative]
    exact ⟨_, rfl⟩
  · rw [if_neg negative, decide_eq_false negative,
      scanSign_of_unsigned (isDigits_toDigits n.natAbs).unsigned]
    exact ⟨_, rfl⟩

/-- The decimal text of a number is a minus sign for a negative one, and the digits of its size. -/
theorem Number.splitSign_decimal (n : Int) :
    splitSign (decimal n).toList = (decide (n < 0), Nat.toDigits 10 n.natAbs) := by
  obtain ⟨sign, scanned⟩ := scanSign_decimal n
  rw [splitSign_eq, scanned]

/-- A number is its size with its sign. -/
theorem Number.signed_natAbs (n : Int) :
    (if decide (n < 0) = true then -(n.natAbs : Int) else n.natAbs) = n := by
  split_ifs with negative
  · have below := of_decide_eq_true negative
    omega
  · have above : ¬n < 0 := by simpa using negative
    omega

/-- The size of a number with its sign is the number. -/
theorem Number.signedNumber_natAbs (n : Int) : signedNumber (decide (n < 0)) n.natAbs = n :=
  signed_natAbs n

/-- The decimal text of a number of the range is read as the number. -/
theorem Number.readInt64?_decimal {n : Int} (h : isInt64 n = true) :
    readInt64? (decimal n).toList = some n := by
  have digits := isDigits_toDigits n.natAbs
  have given : (Nat.toDigits 10 n.natAbs).isEmpty = false := by
    simp
  have only : ((Nat.toDigits 10 n.natAbs).any fun c => !c.isDigit) = false := by
    rw [List.any_eq_false]
    intro c hc
    simp [digits.2 c hc]
  unfold readInt64?
  rw [splitSign_decimal]
  simp only [given, only, Bool.or_self, Bool.false_eq_true, if_false, digitsValue_toDigits,
    signed_natAbs, h, if_true]

/-- What is read strictly has 64 bits. -/
theorem Number.isInt64_of_readInt64? {s : List Char} {n : Int} (h : readInt64? s = some n) :
    isInt64 n = true := by
  unfold readInt64? at h
  dsimp only at h
  split_ifs at h with hfault hnegative hrange hrange
  · rw [← Option.some.inj h]
    exact hrange
  · rw [← Option.some.inj h]
    exact hrange

/-- The decimal text of a number, trimmed, is read as that number only, if it is in the range. -/
theorem Number.readInt64?_trim_decimal_iff {m n : Int} :
    readInt64? (Text.trim (decimal m).toList) = some n ↔ m = n ∧ isInt64 n = true := by
  rw [trim_decimal]
  constructor
  · intro read
    have wide := isInt64_of_readInt64? read
    refine ⟨?_, wide⟩
    by_cases own : isInt64 m = true
    · rw [readInt64?_decimal own] at read
      exact Option.some.inj read
    · -- a number out of the range is not read at all
      exfalso
      unfold readInt64? at read
      rw [splitSign_decimal] at read
      simp only [digitsValue_toDigits, signed_natAbs, own, Bool.false_eq_true, if_false,
        ite_self, reduceCtorEq] at read
  · rintro ⟨rfl, wide⟩
    exact readInt64?_decimal wide

/-- Different numbers have different texts. -/
theorem Number.decimal_injective : Function.Injective decimal := by
  intro m n same
  have parts := congrArg (fun s => splitSign s.toList) same
  simp only [splitSign_decimal] at parts
  obtain ⟨sign, digits⟩ := Prod.mk.inj parts
  have size := congrArg digitsValue digits
  rw [digitsValue_toDigits, digitsValue_toDigits] at size
  rw [← signed_natAbs m, sign, size, signed_natAbs]

/-! ## The reading of a store -/

namespace Store

/-- The decimal text of a number begins with no blank. -/
theorem dropWhile_isNumberBlank_decimal (n : Int) :
    (Number.decimal n).toList.dropWhile isNumberBlank = (Number.decimal n).toList := by
  rw [toList_decimal]
  split_ifs
  · rfl
  · obtain ⟨c, rest, split, digit⟩ := (isDigits_toDigits n.natAbs).exists_cons
    have shown : isNumberBlank c = false := by
      have bounds := Text.toNat_of_isDigit digit
      have space : c ≠ ' ' := by
        rintro rfl
        cases digit
      have after : ¬c ≤ '\r' := by
        intro below
        have small : c.toNat ≤ 13 := below
        omega
      simp [isNumberBlank, space, after]
    rw [split, List.dropWhile_cons, shown]
    rfl

/-- The text of a whole number of 64 bits is wholly that number. -/
theorem numberOfText?_decimal {n : Int} (h : Number.isInt64 n = true) :
    numberOfText? (Number.decimal n) = some (.int n) := by
  have digits := isDigits_toDigits n.natAbs
  have given : (Nat.toDigits 10 n.natAbs).isEmpty = false := by
    simp
  obtain ⟨sign, scanned⟩ := Number.scanSign_decimal n
  have number : scanNumber (Number.decimal n).toList =
      some ⟨⟨sign, decide (n < 0), Nat.toDigits 10 n.natAbs, [], none⟩, true, []⟩ := by
    unfold scanNumber
    rw [scanned]
    simp only [digits.takeWhile_eq, digits.dropWhile_eq, given, scanOpenFraction,
      Number.Numeral.scanExponent, Bool.false_and, Bool.false_eq_true, if_false,
      Option.isNone_none, Bool.and_self, Option.getD_none]
  have value : (ScannedNumber.mk ⟨sign, decide (n < 0), Nat.toDigits 10 n.natAbs, [], none⟩ true
      []).value = .int n := by
    unfold ScannedNumber.value
    simp only [digitsValue_toDigits, Number.signed_natAbs, h, Bool.and_self, if_true]
  unfold numberOfText?
  rw [dropWhile_isNumberBlank_decimal, number]
  simp [value]

end Store

end Worklist
