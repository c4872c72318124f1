import Worklist.Proofs.Number.Decimal

/-!
# Texts that do not start with a number

A cast takes the number at the start of a text, after blanks of ASCII, and takes zero if there is
none. Thresholds are read by the same grammar, up to a point without digits and after blanks of any
kind, so a text where no threshold could be read is zero for a cast.
-/

set_option autoImplicit false

namespace Worklist

namespace Number.Numeral

/-! ## What a scan leaves -/

/-- Scanning a sign leaves no more of a text. -/
theorem length_scanSign_le (s : List Char) : (scanSign s).2.2.length ≤ s.length := by
  unfold scanSign
  split
  · exact Nat.le_succ _
  · exact Nat.le_succ _
  · exact Nat.le_refl _

/-- The digits at the start of a text and the rest are as long as the text. -/
theorem length_dropWhile_isDigit (s : List Char) :
    (s.takeWhile Char.isDigit).length + (s.dropWhile Char.isDigit).length = s.length := by
  rw [← List.length_append, List.takeWhile_append_dropWhile]

/-- A fraction starts with its point. -/
theorem scanFraction_of_ne_point {s : List Char} (h : ∀ rest, s ≠ '.' :: rest) :
    scanFraction s = ([], s) := by
  unfold scanFraction
  split
  · exact absurd rfl (h _)
  · rfl

/-- A fraction and what it leaves are no longer than the text. -/
theorem length_scanFraction_le (s : List Char) :
    (scanFraction s).1.length + (scanFraction s).2.length ≤ s.length := by
  unfold scanFraction
  split
  · rename_i rest
    have split := length_dropWhile_isDigit rest
    split_ifs
    · exact Nat.le_of_eq (Nat.zero_add _)
    · rw [List.length_cons]
      simp only
      omega
  · exact Nat.le_of_eq (Nat.zero_add _)

/-- An exponent leaves less of a text. -/
theorem length_lt_of_scanExponentAfter {e : Char} {s rest : List Char} {x : Exponent}
    (h : scanExponentAfter e s = some (x, rest)) : rest.length < s.length := by
  have after := length_scanSign_le s
  unfold scanExponentAfter at h
  generalize scanSign s = scanned at h after
  obtain ⟨sign, negative, left⟩ := scanned
  simp only at h after
  split_ifs at h with empty
  have digits := length_dropWhile_isDigit left
  have some : 0 < (left.takeWhile Char.isDigit).length := by
    rw [List.isEmpty_iff] at empty
    exact List.length_pos_iff.mpr empty
  obtain ⟨-, rfl⟩ := Prod.mk.inj (Option.some.inj h)
  omega

/-- Scanning an exponent leaves no more of a text. -/
theorem length_scanExponent_le (s : List Char) : (scanExponent s).2.length ≤ s.length := by
  unfold scanExponent
  split
  · rename_i c rest
    split_ifs
    · split
      · rename_i x rest' h
        have less := length_lt_of_scanExponentAfter h
        rw [List.length_cons]
        exact Nat.le_succ_of_le (Nat.le_of_lt less)
      · exact Nat.le_refl _
    · exact Nat.le_refl _
  · exact Nat.le_refl _

/-- A numeral has characters of its own. -/
theorem length_lt_of_scan {s rest : List Char} {n : Numeral} (h : scan s = some (n, rest)) :
    rest.length < s.length := by
  have sign := length_scanSign_le s
  unfold scan at h
  generalize scanSign s = scanned at h sign
  obtain ⟨written, negative, left⟩ := scanned
  simp only at h sign
  have whole := length_dropWhile_isDigit left
  have fraction := length_scanFraction_le (left.dropWhile Char.isDigit)
  generalize scanFraction (left.dropWhile Char.isDigit) = scanned at h fraction
  obtain ⟨digits, after⟩ := scanned
  simp only at h fraction
  have exponent := length_scanExponent_le after
  split_ifs at h with empty
  have some : 0 < (left.takeWhile Char.isDigit).length + digits.length := by
    rw [Bool.and_eq_true, List.isEmpty_iff, List.isEmpty_iff,
      Classical.not_and_iff_not_or_not] at empty
    rcases empty with given | given
    · exact Nat.add_pos_left (List.length_pos_iff.mpr given) _
    · exact Nat.add_pos_right _ (List.length_pos_iff.mpr given)
  obtain ⟨-, rfl⟩ := Prod.mk.inj (Option.some.inj h)
  omega

/-- Only where there is no numeral has it no characters. -/
theorem leadingLength_eq_zero_iff {s : List Char} : leadingLength s = 0 ↔ scan s = none := by
  unfold leadingLength
  cases h : scan s with
  | none => simp
  | some found =>
    obtain ⟨n, rest⟩ := found
    have less := length_lt_of_scan h
    simp only [reduceCtorEq, iff_false]
    omega

end Number.Numeral

namespace Store

open Number (Numeral)

/-! ## The number at the start of a text -/

/-- Without a point no fraction is scanned. -/
theorem scanOpenFraction_of_ne_point {s : List Char} (h : ∀ rest, s ≠ '.' :: rest) :
    scanOpenFraction s = (none, s) := by
  unfold scanOpenFraction
  split
  · exact absurd rfl (h _)
  · rfl

/-- The digits of an open fraction are those of the fraction. -/
theorem scanOpenFraction_digits (s : List Char) :
    (scanOpenFraction s).1.getD [] = (Numeral.scanFraction s).1 := by
  by_cases point : ∃ rest, s = '.' :: rest
  · obtain ⟨rest, rfl⟩ := point
    show rest.takeWhile Char.isDigit = (if (rest.takeWhile Char.isDigit).isEmpty
      then ([], '.' :: rest)
      else (rest.takeWhile Char.isDigit, rest.dropWhile Char.isDigit)).1
    split_ifs with none
    · exact List.isEmpty_iff.mp none
    · rfl
  · have other : ∀ rest, s ≠ '.' :: rest := fun rest same => point ⟨rest, same⟩
    rw [scanOpenFraction_of_ne_point other, Numeral.scanFraction_of_ne_point other]
    rfl

/-- A point without digits makes no number out of a text that has none. -/
theorem scanNumber_eq_none_iff {s : List Char} : scanNumber s = none ↔ Numeral.scan s = none := by
  unfold scanNumber Numeral.scan
  simp only [scanOpenFraction_digits]
  split_ifs
  · exact iff_of_true rfl rfl
  · exact Iff.rfl

/-- The blanks in front of a number are blanks. -/
theorem isBlank_of_isNumberBlank {c : Char} (h : isNumberBlank c = true) :
    Text.isBlank c = true := by
  unfold isNumberBlank at h
  rw [Bool.or_eq_true, beq_iff_eq, Bool.and_eq_true, decide_eq_true_eq, decide_eq_true_eq] at h
  rcases h with rfl | ⟨low, high⟩
  · rfl
  · have bounds : 9 ≤ c.toNat ∧ c.toNat ≤ 13 := ⟨low, high⟩
    simp [Text.isBlank, bounds]

/-- Blanks that are left before a text after those of ASCII are cut from both. -/
theorem trimLeft_dropWhile_isNumberBlank (s : List Char) :
    Text.trimLeft (s.dropWhile isNumberBlank) = Text.trimLeft s := by
  induction s with
  | nil => rfl
  | cons c s ih =>
    rw [List.dropWhile_cons]
    split_ifs with blank
    · rw [ih]
      unfold Text.trimLeft
      rw [List.dropWhile_cons, if_pos (isBlank_of_isNumberBlank blank)]
    · rfl

/-- A blank starts no number. -/
theorem scan_of_isBlank {c : Char} (blank : Text.isBlank c = true) (s : List Char) :
    Numeral.scan (c :: s) = none := by
  have other {d : Char} (shown : Text.isBlank d = false) : c ≠ d := by
    rintro rfl
    rw [blank] at shown
    cases shown
  have digit : c.isDigit = false := by
    rw [Bool.eq_false_iff]
    intro digit
    rw [Text.isBlank_of_isDigit digit] at blank
    cases blank
  have sign : Numeral.scanSign (c :: s) = ([], false, c :: s) := by
    refine Number.scanSign_of_unsigned ?_
    rintro e ⟨⟩
    exact ⟨other (by decide), other (by decide)⟩
  have fraction : Numeral.scanFraction (c :: s) = ([], c :: s) :=
    Numeral.scanFraction_of_ne_point fun rest same => other (by decide) (List.cons.inj same).1
  unfold Numeral.scan
  simp only [sign, List.takeWhile_cons, List.dropWhile_cons, digit, Bool.false_eq_true, if_false,
    fraction, List.isEmpty_nil, Bool.and_self, if_true]

/-- A text where no number is read after blanks is zero for a cast. -/
theorem numberAtStart_eq_zero {t : String}
    (none : Numeral.leadingLength (Text.trimLeft t.toList) = 0) : numberAtStart t = .int 0 := by
  have left : Numeral.scan (t.toList.dropWhile isNumberBlank) = Option.none := by
    rw [Numeral.leadingLength_eq_zero_iff, ← trimLeft_dropWhile_isNumberBlank] at none
    cases rest : t.toList.dropWhile isNumberBlank with
    | nil => rfl
    | cons c s =>
      by_cases blank : Text.isBlank c = true
      · exact scan_of_isBlank blank s
      · rw [rest] at none
        unfold Text.trimLeft at none
        rwa [List.dropWhile_cons, if_neg blank] at none
  unfold numberAtStart
  rw [scanNumber_eq_none_iff.mpr left]

end Store

end Worklist
