import Mathlib.Order.Bounds.Basic
import Worklist.Proofs.Number.NumeralTexts
import Worklist.Proofs.Store.NumberAtStart

/-!
# The longest numeral

Scanning a text cuts a well-formed numeral off its start and leaves the rest as it is. An optional
part that is incomplete is left to the rest, and still no other numeral at the start is longer:
whatever numeral the text starts with, no part of the scanned one ends before the same part of it.
-/

set_option autoImplicit false

namespace Worklist.Number.Numeral

open Sql (IsDigits)

/-! ## What is scanned -/

section Spec

variable {s rest : List Char}

/-- What is scanned as a fraction are digits, and nothing of the text is lost. -/
theorem scanFraction_spec {fraction : List Char} (h : scanFraction s = (fraction, rest)) :
    (∀ c ∈ fraction, c.isDigit = true) ∧ fractionText fraction ++ rest = s := by
  unfold scanFraction at h
  split at h
  · rename_i after
    split_ifs at h with none
    · obtain ⟨rfl, rfl⟩ := h
      exact ⟨by simp, rfl⟩
    · obtain ⟨rfl, rfl⟩ := h
      rw [List.isEmpty_iff] at none
      refine ⟨fun c hc => isDigit_of_mem_takeWhile hc, ?_⟩
      rw [fractionText_of_ne_nil none, List.cons_append, List.takeWhile_append_dropWhile]
  · obtain ⟨rfl, rfl⟩ := h
    exact ⟨by simp, rfl⟩

/-- What is scanned behind the mark of an exponent is well formed, and nothing of the text is lost.
-/
theorem scanExponentAfter_spec {mark : Char} (isMark : mark = 'e' ∨ mark = 'E') {x : Exponent}
    (h : scanExponentAfter mark s = some (x, rest)) :
    x.WellFormed ∧ x.written ++ rest = mark :: s := by
  obtain ⟨sign, negative, after, scanned⟩ : ∃ sign negative after,
      scanSign s = (sign, negative, after) := ⟨_, _, _, rfl⟩
  obtain ⟨isSign, whole, -⟩ := scanSign_spec scanned
  unfold scanExponentAfter at h
  rw [scanned] at h
  simp only at h
  split_ifs at h with none
  obtain ⟨rfl, rfl⟩ := Prod.mk.inj (Option.some.inj h)
  rw [List.isEmpty_iff] at none
  refine ⟨.mk isMark isSign ⟨none, fun c hc => isDigit_of_mem_takeWhile hc⟩, ?_⟩
  rw [List.cons_append, List.append_assoc, List.takeWhile_append_dropWhile, whole]

/-- What is scanned as an exponent is well formed, and nothing of the text is lost. -/
theorem scanExponent_spec {exponent : Option Exponent} (h : scanExponent s = (exponent, rest)) :
    (∀ x ∈ exponent, x.WellFormed) ∧ exponentText exponent ++ rest = s := by
  unfold scanExponent at h
  split at h
  · rename_i c after
    split_ifs at h with isMark
    · split at h
      · rename_i x left found
        obtain ⟨rfl, rfl⟩ := h
        obtain ⟨formed, whole⟩ := scanExponentAfter_spec isMark found
        exact ⟨by simpa using formed, whole⟩
      · obtain ⟨rfl, rfl⟩ := h
        exact ⟨nofun, rfl⟩
    · obtain ⟨rfl, rfl⟩ := h
      exact ⟨nofun, rfl⟩
  · obtain ⟨rfl, rfl⟩ := h
    exact ⟨nofun, rfl⟩

/-- A scan part by part. -/
theorem scan_eq {sign body fraction after : List Char} {negative : Bool}
    {exponent : Option Exponent} (signed : scanSign s = (sign, negative, body))
    (pointed : scanFraction (body.dropWhile Char.isDigit) = (fraction, after))
    (raised : scanExponent after = (exponent, rest))
    (digits : body.takeWhile Char.isDigit ≠ [] ∨ fraction ≠ []) :
    scan s = some (⟨sign, negative, body.takeWhile Char.isDigit, fraction, exponent⟩, rest) := by
  have given : ((body.takeWhile Char.isDigit).isEmpty && fraction.isEmpty) = false := by
    rw [Bool.and_eq_false_iff, List.isEmpty_eq_false_iff, List.isEmpty_eq_false_iff]
    exact digits
  unfold scan
  simp only [signed, pointed, raised, given, Bool.false_eq_true, if_false]

/-- What is scanned is a well-formed numeral, and it stands at the start of the text. -/
theorem scan_spec {n : Numeral} (h : scan s = some (n, rest)) :
    n.WellFormed ∧ n.written ++ rest = s := by
  obtain ⟨sign, negative, body, signed⟩ : ∃ sign negative body,
      scanSign s = (sign, negative, body) := ⟨_, _, _, rfl⟩
  obtain ⟨fraction, after, pointed⟩ : ∃ fraction after,
      scanFraction (body.dropWhile Char.isDigit) = (fraction, after) := ⟨_, _, rfl⟩
  obtain ⟨exponent, left, raised⟩ : ∃ exponent left,
      scanExponent after = (exponent, left) := ⟨_, _, rfl⟩
  obtain ⟨isSign, wholeText, -⟩ := scanSign_spec signed
  obtain ⟨digit, fractionText⟩ := scanFraction_spec pointed
  obtain ⟨formed, exponentText⟩ := scanExponent_spec raised
  unfold scan at h
  simp only [signed, pointed, raised] at h
  split_ifs at h with none
  obtain ⟨rfl, rfl⟩ := Prod.mk.inj (Option.some.inj h)
  rw [Bool.and_eq_true, List.isEmpty_iff, List.isEmpty_iff,
    Classical.not_and_iff_not_or_not] at none
  refine ⟨⟨isSign, fun c hc => isDigit_of_mem_takeWhile hc, digit, none, formed⟩, ?_⟩
  rw [written_eq]
  simp only [List.append_assoc]
  rw [exponentText, fractionText, List.takeWhile_append_dropWhile, wholeText]

end Spec

/-! ## What a scan reaches -/

/-- The mark of an exponent is no digit. -/
theorem isDigit_mark {mark : Char} (h : mark = 'e' ∨ mark = 'E') : mark.isDigit = false := by
  rcases h with rfl | rfl <;> rfl

/-- Neither the point of a fraction nor the mark of an exponent is a digit. -/
theorem endsDigits_parts (fraction rest : List Char) {exponent : Option Exponent}
    (formed : ∀ x ∈ exponent, x.WellFormed)
    (ends : fraction ≠ [] ∨ exponent ≠ none ∨ EndsDigits rest) :
    EndsDigits (fractionText fraction ++ (exponentText exponent ++ rest)) := by
  by_cases point : fraction = []
  · rw [point]
    cases exponent with
    | none => exact (ends.resolve_left (not_not.mpr point)).resolve_left (not_not.mpr rfl)
    | some x =>
      cases formed x rfl with
      | mk isMark isSign isDigits =>
        exact endsDigits_cons (isDigit_mark isMark) _
  · rw [fractionText_of_ne_nil point]
    exact endsDigits_cons rfl _

/-- A well-formed exponent is scanned, with the digits that follow it. -/
theorem scanExponent_written {x : Exponent} (h : x.WellFormed) (rest : List Char) :
    ∃ x', scanExponent (x.written ++ rest) = (some x', rest.dropWhile Char.isDigit) ∧
      (EndsDigits rest → x' = x) := by
  cases h with
  | @mk mark sign digits negative isMark isSign isDigits =>
    obtain ⟨c, more, rfl⟩ := List.exists_cons_of_ne_nil isDigits.1
    have unsigned : Unsigned (c :: more ++ rest) :=
      unsigned_cons (isDigits.2 c List.mem_cons_self) _
    have scanned := scanSign_append isSign fun _ => unsigned
    have taken : (c :: more ++ rest).takeWhile Char.isDigit =
        c :: more ++ rest.takeWhile Char.isDigit := List.takeWhile_append_of_pos isDigits.2
    have left : (c :: more ++ rest).dropWhile Char.isDigit = rest.dropWhile Char.isDigit :=
      List.dropWhile_append_of_pos isDigits.2
    refine ⟨⟨mark :: (sign ++ (c :: more ++ rest.takeWhile Char.isDigit)), negative,
      c :: more ++ rest.takeWhile Char.isDigit⟩, ?_, fun ends => ?_⟩
    · simp only [List.cons_append, List.append_assoc] at scanned taken left ⊢
      simp only [scanExponent, if_pos isMark, scanExponentAfter, scanned, taken, left,
        List.isEmpty_cons, Bool.false_eq_true, if_false]
    · rw [ends.takeWhile_eq, List.append_nil]

/-- A fraction is scanned with the digits that follow it. -/
theorem scanFraction_written {fraction : List Char} (h : IsDigits fraction) (rest : List Char) :
    scanFraction (fractionText fraction ++ rest) =
      (fraction ++ rest.takeWhile Char.isDigit, rest.dropWhile Char.isDigit) := by
  have some : (fraction ++ rest.takeWhile Char.isDigit).isEmpty = false := by
    rw [List.isEmpty_eq_false_iff]
    exact List.append_ne_nil_of_left_ne_nil h.1 _
  rw [fractionText_of_ne_nil h.1, List.cons_append]
  simp only [scanFraction, List.takeWhile_append_of_pos h.2, List.dropWhile_append_of_pos h.2, some,
    Bool.false_eq_true, if_false]

section Parts

variable {fraction : List Char} {exponent : Option Exponent}

/-- Where an exponent or nothing follows, no fraction is scanned. -/
theorem scanFraction_exponentText {x : Exponent} (formed : x.WellFormed) (rest : List Char) :
    scanFraction (x.written ++ rest) = ([], x.written ++ rest) := by
  refine scanFraction_of_ne_point fun after same => ?_
  cases formed with
  | mk isMark isSign isDigits =>
    rw [List.cons_append] at same
    rcases isMark with rfl | rfl
    · cases (List.cons.inj same).1
    · cases (List.cons.inj same).1

/-- An exponent is scanned to its end at least. Digits in front of it are those of a part before
it. -/
theorem length_left_exponent (formed : ∀ x ∈ exponent, x.WellFormed) (rest : List Char) :
    (scanExponent (exponentText exponent ++ rest)).2.length ≤ rest.length ∧
      (scanExponent ((exponentText exponent ++ rest).dropWhile Char.isDigit)).2.length ≤
        rest.length := by
  have dropped := (List.dropWhile_sublist Char.isDigit (l := rest)).length_le
  cases exponent with
  | none => exact ⟨length_scanExponent_le rest, (length_scanExponent_le _).trans dropped⟩
  | some x =>
    have ends : EndsDigits (x.written ++ rest) :=
      endsDigits_parts [] rest formed (Or.inr (Or.inl nofun))
    obtain ⟨x', scanned, -⟩ := scanExponent_written (formed x rfl) rest
    show (scanExponent (x.written ++ rest)).2.length ≤ rest.length ∧
      (scanExponent ((x.written ++ rest).dropWhile Char.isDigit)).2.length ≤ rest.length
    rw [ends.dropWhile_eq, scanned]
    exact ⟨dropped, dropped⟩

/-- A fraction and an exponent are scanned to their ends at least. -/
theorem length_left_fraction (digit : ∀ c ∈ fraction, c.isDigit = true)
    (formed : ∀ x ∈ exponent, x.WellFormed) (rest : List Char) :
    let scanned := scanFraction (fractionText fraction ++ (exponentText exponent ++ rest))
    (scanExponent scanned.2).2.length ≤ rest.length ∧ (fraction ≠ [] → scanned.1 ≠ []) := by
  intro scanned
  obtain ⟨own, dropped⟩ := length_left_exponent formed rest
  by_cases point : fraction = []
  · refine ⟨?_, fun given => absurd point given⟩
    cases exponent with
    | none =>
      have left := length_scanFraction_le rest
      have last := length_scanExponent_le (scanFraction rest).2
      simp only [scanned, point, fractionText_nil, List.nil_append, exponentText, Option.map_none,
        Option.getD_none]
      omega
    | some x =>
      have none : scanned = ([], x.written ++ rest) := by
        simp only [scanned, point]
        exact scanFraction_exponentText (formed x rfl) rest
      rw [none]
      exact own
  · have found := scanFraction_written ⟨point, digit⟩ (exponentText exponent ++ rest)
    simp only [scanned, found]
    exact ⟨dropped, fun _ => List.append_ne_nil_of_left_ne_nil point _⟩

/-- The same holds behind the digits in front of them. -/
theorem length_left_whole (digit : ∀ c ∈ fraction, c.isDigit = true)
    (formed : ∀ x ∈ exponent, x.WellFormed) (rest : List Char) :
    let scanned := scanFraction
      ((fractionText fraction ++ (exponentText exponent ++ rest)).dropWhile Char.isDigit)
    (scanExponent scanned.2).2.length ≤ rest.length ∧ (fraction ≠ [] → scanned.1 ≠ []) := by
  by_cases parts : fraction = [] ∧ exponent = none
  · obtain ⟨rfl, rfl⟩ := parts
    have dropped := (List.dropWhile_sublist Char.isDigit (l := rest)).length_le
    have left := length_scanFraction_le (rest.dropWhile Char.isDigit)
    have last := length_scanExponent_le (scanFraction (rest.dropWhile Char.isDigit)).2
    refine ⟨?_, fun given => absurd rfl given⟩
    show (scanExponent (scanFraction (rest.dropWhile Char.isDigit)).2).2.length ≤ rest.length
    omega
  · have ends : EndsDigits (fractionText fraction ++ (exponentText exponent ++ rest)) := by
      refine endsDigits_parts fraction rest formed ?_
      rw [not_and_or] at parts
      exact parts.imp_right Or.inl
    rw [ends.dropWhile_eq]
    exact length_left_fraction digit formed rest

end Parts

variable {n : Numeral}

/-- Behind its sign a numeral has no other. -/
theorem WellFormed.unsigned (h : n.WellFormed) (rest : List Char) :
    Unsigned (n.whole ++ (fractionText n.fraction ++ rest)) := by
  cases whole : n.whole with
  | nil =>
    rw [fractionText_of_ne_nil (h.digits.resolve_left (not_not.mpr whole))]
    rintro c ⟨⟩
    exact ⟨by decide, by decide⟩
  | cons c digits =>
    refine unsigned_cons (h.whole c ?_) _
    rw [whole]
    exact List.mem_cons_self

/-- A text that starts with a numeral has a scanned one that is no shorter. -/
theorem WellFormed.exists_scan (h : n.WellFormed) (rest : List Char) :
    ∃ n' left, scan (n.written ++ rest) = some (n', left) ∧ left.length ≤ rest.length := by
  obtain ⟨reached, given⟩ := length_left_whole h.fraction h.exponent rest
  have signed := scanSign_append h.isSign fun _ => h.unsigned (exponentText n.exponent ++ rest)
  have taken : (n.whole ++ (fractionText n.fraction ++ (exponentText n.exponent ++ rest))).takeWhile
      Char.isDigit = n.whole ++ _ := List.takeWhile_append_of_pos h.whole
  rw [← List.dropWhile_append_of_pos (p := Char.isDigit) h.whole] at reached given
  have split : n.sign ++ (n.whole ++ (fractionText n.fraction ++
      (exponentText n.exponent ++ rest))) = n.written ++ rest := by
    rw [written_eq]
    simp only [List.append_assoc]
  rw [split] at signed
  refine ⟨_, _, scan_eq signed (Prod.mk.eta).symm (Prod.mk.eta).symm ?_, reached⟩
  rw [taken]
  exact h.digits.imp (fun whole => List.append_ne_nil_of_left_ne_nil whole _) given

/-- The text of a numeral is scanned as that numeral. -/
theorem WellFormed.scan_written (h : n.WellFormed) : scan n.written = some (n, []) := by
  have ends (fraction : List Char) :
      EndsDigits (fractionText fraction ++ exponentText n.exponent) := by
    have parts := endsDigits_parts fraction [] h.exponent
      (Or.inr (Or.inr endsDigits_nil))
    rwa [List.append_nil] at parts
  have raised : scanExponent (exponentText n.exponent) = (n.exponent, []) := by
    cases given : n.exponent with
    | none => rfl
    | some x =>
      obtain ⟨x', scanned, same⟩ := scanExponent_written (h.exponent x given) []
      rwa [List.append_nil, same endsDigits_nil] at scanned
  have pointed : scanFraction (fractionText n.fraction ++ exponentText n.exponent) =
      (n.fraction, exponentText n.exponent) := by
    by_cases point : n.fraction = []
    · rw [point]
      cases given : n.exponent with
      | none => rfl
      | some x =>
        have scanned := scanFraction_exponentText (h.exponent x given) []
        rwa [List.append_nil] at scanned
    · have tail := ends []
      rw [fractionText_nil, List.nil_append] at tail
      rw [scanFraction_written ⟨point, h.fraction⟩, tail.takeWhile_eq, tail.dropWhile_eq,
        List.append_nil]
  have signed := scanSign_append h.isSign fun _ => h.unsigned (exponentText n.exponent)
  have taken := takeWhile_digits_append h.whole (ends n.fraction)
  rw [← dropWhile_digits_append h.whole (ends n.fraction)] at pointed
  rw [← written_eq] at signed
  have scanned := scan_eq signed pointed raised (by rw [taken]; exact h.digits)
  rwa [taken] at scanned

/-- A numeral is read from its text in one way only. -/
theorem WellFormed.eq_of_written {n' : Numeral} (h : n.WellFormed) (h' : n'.WellFormed)
    (same : n.written = n'.written) : n = n' := by
  have scanned := h.scan_written
  rw [same, h'.scan_written] at scanned
  exact (Prod.mk.inj (Option.some.inj scanned)).1.symm

/-! ## The longest one -/

/-- The scanned numeral has the characters that are counted. -/
theorem leadingLength_of_scan {s rest : List Char} (h : scan s = some (n, rest)) :
    leadingLength s = n.written.length := by
  obtain ⟨-, whole⟩ := scan_spec h
  unfold leadingLength
  rw [h, ← whole]
  simp

/-- As many characters as the leading numeral is long are the numeral. -/
theorem take_of_scan {s rest : List Char} (h : scan s = some (n, rest)) :
    s.take (leadingLength s) = n.written := by
  obtain ⟨-, whole⟩ := scan_spec h
  rw [leadingLength_of_scan h, ← whole, List.take_left]

/-- No numeral at the start of a text is longer than the scanned one, and there is none where none
is scanned. -/
theorem leadingLength_cases (s : List Char) :
    (leadingLength s = 0 ∧ ∀ p ∈ numeralTexts, ¬p <+: s) ∨
      (s.take (leadingLength s) ∈ numeralTexts ∧
        IsGreatest {k | ∃ p ∈ numeralTexts, p <+: s ∧ p.length = k} (leadingLength s)) := by
  have upper : ∀ p ∈ numeralTexts, p <+: s → p.length ≤ leadingLength s ∧ scan s ≠ none := by
    rintro p isNumeral ⟨rest, rfl⟩
    obtain ⟨m, formed, rfl⟩ := mem_numeralTexts.mp isNumeral
    obtain ⟨n, left, scanned, shorter⟩ := formed.exists_scan rest
    have split := congrArg List.length (scan_spec scanned).2
    rw [leadingLength_of_scan scanned, scanned]
    rw [List.length_append, List.length_append] at split
    exact ⟨by omega, nofun⟩
  cases scanned : scan s with
  | none =>
    refine Or.inl ⟨leadingLength_eq_zero_iff.mpr scanned, fun p isNumeral starts => ?_⟩
    exact (upper p isNumeral starts).2 scanned
  | some found =>
    obtain ⟨n, rest⟩ := found
    obtain ⟨formed, whole⟩ := scan_spec scanned
    have isNumeral := mem_numeralTexts.mpr ⟨n, formed, rfl⟩
    refine Or.inr ⟨take_of_scan scanned ▸ isNumeral,
      ⟨n.written, isNumeral, ⟨rest, whole⟩, (leadingLength_of_scan scanned).symm⟩, ?_⟩
    rintro k ⟨p, isNumeral', starts, rfl⟩
    exact (upper p isNumeral' starts).1

end Worklist.Number.Numeral
