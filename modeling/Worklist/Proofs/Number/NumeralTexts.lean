import Mathlib.Computability.Language
import Worklist.Proofs.Number.Decimal

/-!
# The language of numerals

The texts of numerals form a language. Beside it stands what it says about a numeral part by part:
a numeral is well formed if its parts are those of a text of the language, and the language has the
texts of the well-formed numerals.
-/

set_option autoImplicit false

namespace Worklist.Number

open Sql (IsDigits)

/-! ## Texts -/

/-- Digits, at least one of them. -/
def digitRuns : Language Char :=
  {s : List Char | IsDigits s}

/-- The texts of a sign, which may be missing. -/
def signTexts : Language Char :=
  {[], ['+'], ['-']}

/-- The texts of a language, and none. -/
def optionally (l : Language Char) : Language Char :=
  1 + l

/-- A point with digits behind it. -/
def fractionTexts : Language Char :=
  {['.']} * digitRuns

/-- The mark of an exponent with an optional sign and digits behind it. -/
def exponentTexts : Language Char :=
  {['e'], ['E']} * signTexts * digitRuns

/-- The texts of numerals: `[+-]? (digits [. digits] | . digits) ([eE] [+-]? digits)?`. -/
def numeralTexts : Language Char :=
  signTexts * (digitRuns * optionally fractionTexts + fractionTexts) * optionally exponentTexts

/-- The texts of signs are the signs. -/
theorem mem_signTexts {s : List Char} : s ∈ signTexts ↔ ∃ negative, IsSign s negative := by
  constructor
  · rintro (rfl | rfl | rfl)
    · exact ⟨false, .none⟩
    · exact ⟨false, .plus⟩
    · exact ⟨true, .minus⟩
  · rintro ⟨negative, none | plus | minus⟩
    · exact Or.inl rfl
    · exact Or.inr (Or.inl rfl)
    · exact Or.inr (Or.inr rfl)

/-- A text of what may be missing is empty or a text of it. -/
theorem mem_optionally {l : Language Char} {s : List Char} :
    s ∈ optionally l ↔ s = [] ∨ s ∈ l := Iff.rfl

/-- The texts of fractions are a point with digits behind it. -/
theorem mem_fractionTexts {s : List Char} :
    s ∈ fractionTexts ↔ ∃ digits, IsDigits digits ∧ '.' :: digits = s := by
  constructor
  · rintro ⟨point, rfl, digits, h, rfl⟩
    exact ⟨digits, h, rfl⟩
  · rintro ⟨digits, h, rfl⟩
    exact ⟨['.'], rfl, digits, h, rfl⟩

/-! ## Well-formed numerals -/

/-- An exponent is written with a mark, its sign and its digits. -/
inductive Exponent.WellFormed : Exponent → Prop where
  | mk {mark : Char} {sign digits : List Char} {negative : Bool} (isMark : mark = 'e' ∨ mark = 'E')
      (isSign : IsSign sign negative) (isDigits : IsDigits digits) :
      WellFormed ⟨mark :: (sign ++ digits), negative, digits⟩

/-- The texts of exponents are those of well-formed exponents. -/
theorem mem_exponentTexts {s : List Char} :
    s ∈ exponentTexts ↔ ∃ x : Exponent, x.WellFormed ∧ x.written = s := by
  unfold exponentTexts
  simp only [Language.mem_mul]
  constructor
  · rintro ⟨-, ⟨mark, isMark, sign, isSign, rfl⟩, digits, isDigits, rfl⟩
    obtain ⟨negative, isSign⟩ := mem_signTexts.mp isSign
    rcases isMark with rfl | rfl
    · exact ⟨_, .mk (Or.inl rfl) isSign isDigits, rfl⟩
    · exact ⟨_, .mk (Or.inr rfl) isSign isDigits, rfl⟩
  · rintro ⟨-, @⟨mark, sign, digits, negative, isMark, isSign, isDigits⟩, rfl⟩
    refine ⟨[mark] ++ sign, ⟨[mark], ?_, sign, mem_signTexts.mpr ⟨_, isSign⟩, rfl⟩, digits,
      isDigits, rfl⟩
    rcases isMark with rfl | rfl
    · exact Or.inl rfl
    · exact Or.inr rfl

namespace Numeral

/-- The text of a fraction, with its point. -/
def fractionText (fraction : List Char) : List Char :=
  if fraction.isEmpty then [] else '.' :: fraction

/-- No fraction is written as nothing. -/
@[simp]
theorem fractionText_nil : fractionText [] = [] := rfl

/-- A fraction is written behind a point. -/
theorem fractionText_of_ne_nil {fraction : List Char} (h : fraction ≠ []) :
    fractionText fraction = '.' :: fraction := by
  unfold fractionText
  rw [if_neg fun none => h (List.isEmpty_iff.mp none)]

/-- The text of an exponent that may be missing. -/
def exponentText (exponent : Option Exponent) : List Char :=
  (exponent.map Exponent.written).getD []

/-- The parts of a numeral are those of a text of one. -/
structure WellFormed (n : Numeral) : Prop where
  isSign : IsSign n.sign n.negative
  whole : ∀ c ∈ n.whole, c.isDigit = true
  fraction : ∀ c ∈ n.fraction, c.isDigit = true
  digits : n.whole ≠ [] ∨ n.fraction ≠ []
  exponent : ∀ x ∈ n.exponent, x.WellFormed

/-- A numeral is written as its sign, its whole part, its fraction and its exponent. -/
theorem written_eq (n : Numeral) : n.written =
    n.sign ++ (n.whole ++ (fractionText n.fraction ++ exponentText n.exponent)) := by
  unfold written fractionText exponentText
  simp only [List.append_assoc]

/-- The texts of a fraction that may be missing are those of any digits. -/
theorem mem_optionally_fractionTexts {s : List Char} : s ∈ optionally fractionTexts ↔
    ∃ fraction, (∀ c ∈ fraction, c.isDigit = true) ∧ fractionText fraction = s := by
  rw [mem_optionally, mem_fractionTexts]
  constructor
  · rintro (rfl | ⟨digits, h, rfl⟩)
    · exact ⟨[], by simp, rfl⟩
    · exact ⟨digits, h.2, fractionText_of_ne_nil h.1⟩
  · rintro ⟨fraction, digit, rfl⟩
    by_cases none : fraction = []
    · rw [none]
      exact Or.inl rfl
    · exact Or.inr ⟨fraction, ⟨none, digit⟩, (fractionText_of_ne_nil none).symm⟩

/-- The texts of an exponent that may be missing are those of well-formed exponents, or empty. -/
theorem mem_optionally_exponentTexts {s : List Char} : s ∈ optionally exponentTexts ↔
    ∃ exponent : Option Exponent, (∀ x ∈ exponent, x.WellFormed) ∧ exponentText exponent = s := by
  rw [mem_optionally, mem_exponentTexts]
  constructor
  · rintro (rfl | ⟨x, h, rfl⟩)
    · exact ⟨none, nofun, rfl⟩
    · exact ⟨some x, by simpa using h, rfl⟩
  · rintro ⟨exponent, h, rfl⟩
    cases exponent with
    | none => exact Or.inl rfl
    | some x => exact Or.inr ⟨x, h x rfl, rfl⟩

/-- The language of numerals has the texts of well-formed ones. -/
theorem mem_numeralTexts {s : List Char} :
    s ∈ numeralTexts ↔ ∃ n : Numeral, n.WellFormed ∧ n.written = s := by
  unfold numeralTexts
  simp only [Language.mem_mul, Language.mem_add, mem_signTexts, mem_optionally_fractionTexts,
    mem_optionally_exponentTexts, mem_fractionTexts]
  constructor
  · rintro ⟨-, ⟨sign, ⟨negative, isSign⟩, -,
      (⟨whole, isDigits, -, ⟨fraction, digit, rfl⟩, rfl⟩ | ⟨fraction, isDigits, rfl⟩), rfl⟩,
      -, ⟨exponent, formed, rfl⟩, rfl⟩
    · refine ⟨⟨sign, negative, whole, fraction, exponent⟩,
        ⟨isSign, isDigits.2, digit, Or.inl isDigits.1, formed⟩, ?_⟩
      rw [written_eq]
      simp only [List.append_assoc]
    · refine ⟨⟨sign, negative, [], fraction, exponent⟩,
        ⟨isSign, by simp, isDigits.2, Or.inr isDigits.1, formed⟩, ?_⟩
      rw [written_eq, fractionText_of_ne_nil isDigits.1]
      simp only [List.append_assoc, List.nil_append]
  · rintro ⟨n, h, rfl⟩
    refine ⟨n.sign ++ (n.whole ++ fractionText n.fraction),
      ⟨n.sign, ⟨_, h.isSign⟩, n.whole ++ fractionText n.fraction, ?_, rfl⟩,
      exponentText n.exponent, ⟨_, h.exponent, rfl⟩, ?_⟩
    · by_cases whole : n.whole = []
      · have fraction := h.digits.resolve_left (not_not.mpr whole)
        refine Or.inr ⟨n.fraction, ⟨fraction, h.fraction⟩, ?_⟩
        rw [whole, List.nil_append, fractionText_of_ne_nil fraction]
      · exact Or.inl ⟨n.whole, ⟨whole, h.whole⟩, _, ⟨n.fraction, h.fraction, rfl⟩, rfl⟩
    · rw [written_eq]
      simp only [List.append_assoc]

end Numeral

end Worklist.Number
