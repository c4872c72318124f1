import Mathlib.Tactic.SplitIfs
import Worklist.Number.Literal
import Worklist.Proofs.Sql.Lexer

/-!
# Constants as tokens

The literal of a text is one token whose content is the text, whatever the text is. The text of a
number is one token too: an optional minus sign, digits, an optional fraction and an optional
exponent.
-/

set_option autoImplicit false

namespace Worklist.Sql

/-! ## Literals -/

namespace Lexer

/-- The escaped characters of a text are read as the text. -/
theorem read_escape (d : Dialect) (content s rest : List Char) :
    read d (.literal content) (d.escape s ++ rest) = read d (.literal (content ++ s)) rest := by
  induction s generalizing content with
  | nil => rw [List.append_nil]; rfl
  | cons c s ih =>
    -- whichever way the character is escaped, the lexer is back in the literal behind it
    have one : read d (.literal content) (d.escapeChar c ++ (d.escape s ++ rest)) =
        read d (.literal (content ++ [c])) (d.escape s ++ rest) := by
      unfold Dialect.escapeChar
      split_ifs with hquote hslash
      · rw [hquote]
        rfl
      · obtain ⟨rfl, rfl⟩ := hslash
        rfl
      · rw [List.cons_append, List.nil_append, read, step, if_neg hquote, if_neg hslash]
        rfl
    have split : d.escape (c :: s) ++ rest = d.escapeChar c ++ (d.escape s ++ rest) := by
      rw [Dialect.escape, List.flatMap_cons, List.append_assoc]
      rfl
    rw [split, one, ih, List.append_assoc]
    rfl

end Lexer

open Lexer

/-- The literal of a text is one token with the text as its content. -/
theorem closes_literal (d : Dialect) (s : String) :
    Closes d (d.literal s) [.literal s.toList] := by
  intro rest hrest
  have chars : (d.literal s).toList = '\'' :: (d.escape s.toList ++ ['\'']) := by
    unfold Dialect.literal Dialect.quoteText
    simp
  have opened : read d .between ('\'' :: (d.escape s.toList ++ '\'' :: rest)) =
      read d (.literal []) (d.escape s.toList ++ '\'' :: rest) := rfl
  rw [chars, List.cons_append, List.append_assoc, List.singleton_append, opened, read_escape]
  exact read_delimited d (m := .quoted s.toList) rfl hrest

/-! ## Numbers -/

/-- Whether a text is a run of decimal digits. -/
def IsDigits (s : List Char) : Prop :=
  s ≠ [] ∧ ∀ c ∈ s, c.isDigit = true

/-- Whether a text is the fraction of a number, or nothing. -/
inductive IsFraction : List Char → Prop where
  | none : IsFraction []
  | some {digits : List Char} (h : IsDigits digits) : IsFraction ('.' :: digits)

/-- Whether a text is the exponent of a number, or nothing. -/
inductive IsExponent : List Char → Prop where
  | none : IsExponent []
  | positive {digits : List Char} (h : IsDigits digits) : IsExponent ('e' :: digits)
  | negative {digits : List Char} (h : IsDigits digits) : IsExponent ('e' :: '-' :: digits)

/-- Whether a text is a decimal number without a sign. -/
inductive IsUnsigned : List Char → Prop where
  | mk {whole fraction exponent : List Char} (hw : IsDigits whole) (hf : IsFraction fraction)
      (he : IsExponent exponent) : IsUnsigned (whole ++ (fraction ++ exponent))

/-- Whether a text is one decimal number, after an optional minus sign. -/
inductive IsDecimal : List Char → Prop where
  | positive {s : List Char} (h : IsUnsigned s) : IsDecimal s
  | negative {s : List Char} (h : IsUnsigned s) : IsDecimal ('-' :: s)

namespace Lexer

/-- A digit begins a number. -/
theorem start_digit (d : Dialect) {c : Char} (h : c.isDigit = true) :
    start d c = ([], .number [c] false) := by
  have differs {e : Char} (he : e.isDigit = false) : c ≠ e := by
    rintro rfl
    rw [h] at he
    cases he
  unfold start
  rw [if_neg (differs (by decide)), if_neg (differs (by decide)), if_neg (differs (by decide)),
    if_neg (differs (by decide)), if_neg fun both => differs (by decide) both.1, if_pos h]

/-- Digits continue a number. -/
theorem read_digits (d : Dialect) {digits : List Char} (h : ∀ c ∈ digits, c.isDigit = true)
    (text rest : List Char) :
    read d (.number text false) (digits ++ rest) =
      read d (.number (text ++ digits) false) rest := by
  induction digits generalizing text with
  | nil => rw [List.append_nil, List.nil_append]
  | cons c digits ih =>
    obtain ⟨hc, hdigits⟩ := List.forall_mem_cons.mp h
    have one : step d (.number text false) c = ([], .number (text ++ [c]) false) := by
      simp [step, hc]
    rw [List.cons_append, read, one, List.nil_append, ih hdigits, List.append_assoc]
    rfl

/-- Digits go on with a number right behind the mark of its exponent. -/
theorem read_digits_marked (d : Dialect) {digits : List Char} (h : IsDigits digits)
    (text rest : List Char) :
    read d (.number text true) (digits ++ rest) = read d (.number (text ++ digits) false) rest := by
  obtain ⟨c, digits, rfl⟩ := List.exists_cons_of_ne_nil h.1
  obtain ⟨hc, hdigits⟩ := List.forall_mem_cons.mp h.2
  have one : step d (.number text true) c = ([], .number (text ++ [c]) false) := by
    simp [step, hc]
  rw [List.cons_append, read, one, List.nil_append, read_digits d hdigits, List.append_assoc]
  rfl

/-- A fraction continues a number. -/
theorem read_fraction (d : Dialect) {fraction : List Char} (h : IsFraction fraction)
    (text rest : List Char) :
    read d (.number text false) (fraction ++ rest) =
      read d (.number (text ++ fraction) false) rest := by
  cases h with
  | none => rw [List.append_nil, List.nil_append]
  | @some digits h =>
    have point : read d (.number text false) ('.' :: digits ++ rest) =
        read d (.number (text ++ ['.']) false) (digits ++ rest) := rfl
    rw [point, read_digits d h.2, List.append_assoc]
    rfl

/-- An exponent continues a number. -/
theorem read_exponent (d : Dialect) {exponent : List Char} (h : IsExponent exponent)
    (text rest : List Char) :
    read d (.number text false) (exponent ++ rest) =
      read d (.number (text ++ exponent) false) rest := by
  cases h with
  | none => rw [List.append_nil, List.nil_append]
  | @positive digits h =>
    have mark : read d (.number text false) ('e' :: digits ++ rest) =
        read d (.number (text ++ ['e']) true) (digits ++ rest) := rfl
    rw [mark, read_digits_marked d h, List.append_assoc]
    rfl
  | @negative digits h =>
    have mark : read d (.number text false) ('e' :: '-' :: digits ++ rest) =
        read d (.number (text ++ ['e'] ++ ['-']) false) (digits ++ rest) := rfl
    rw [mark, read_digits d h.2, List.append_assoc, List.append_assoc]
    rfl

/-- A number without a sign is read from its first digit on, behind a minus sign or none. -/
theorem read_unsigned (d : Dialect) {s : List Char} (h : IsUnsigned s) (m : Mode)
    (sign : List Char)
    (first : ∀ c, c.isDigit = true → step d m c = ([], .number (sign ++ [c]) false))
    (rest : List Char) : read d m (s ++ rest) = read d (.number (sign ++ s) false) rest := by
  cases h with
  | @mk whole fraction exponent hw hf he =>
    obtain ⟨c, whole, rfl⟩ := List.exists_cons_of_ne_nil hw.1
    obtain ⟨hc, hwhole⟩ := List.forall_mem_cons.mp hw.2
    -- only the first digit is read differently behind a sign and without one
    calc read d m (c :: whole ++ (fraction ++ exponent) ++ rest)
        = read d (.number (sign ++ [c]) false) (whole ++ (fraction ++ (exponent ++ rest))) := by
          rw [List.append_assoc, List.append_assoc, List.cons_append, read, first c hc]
          rfl
      _ = read d (.number (sign ++ [c] ++ whole ++ fraction ++ exponent) false) rest := by
          rw [read_digits d hwhole, read_fraction d hf, read_exponent d he]
      _ = read d (.number (sign ++ (c :: whole ++ (fraction ++ exponent))) false) rest := by
          simp only [List.append_assoc, List.cons_append, List.nil_append]

end Lexer

/-- A decimal number is one token. -/
theorem closes_decimal (d : Dialect) {s : String} (h : IsDecimal s.toList) :
    Closes d s [.number s.toList] := by
  intro rest hrest
  generalize s.toList = chars at h
  cases h with
  | positive h =>
    rw [read_unsigned d h .between [] fun c hc => start_digit d hc]
    exact read_delimited d rfl hrest
  | @negative s h =>
    have minus : read d .between ('-' :: s ++ rest) = read d .minus (s ++ rest) := rfl
    rw [minus, read_unsigned d h .minus ['-'] fun c hc => by
      rw [step, if_pos hc]
      rfl]
    exact read_delimited d rfl hrest

/-! ## The texts of numbers -/

/-- Zero is written with a digit. -/
theorem isDigits_zero : IsDigits ['0'] :=
  ⟨List.cons_ne_nil _ _, List.forall_mem_singleton.mpr rfl⟩

/-- The decimal digits of a number are digits. -/
theorem isDigits_toDigits (n : Nat) : IsDigits (Nat.toDigits 10 n) :=
  ⟨Nat.toDigits_ne_nil, fun _ hc => Nat.isDigit_of_mem_toDigits (by decide) (by decide) hc⟩

/-- Digits with zeros in front are digits. -/
theorem IsDigits.padded {s : List Char} (h : IsDigits s) (n : Nat) :
    IsDigits (List.replicate n '0' ++ s) := by
  refine ⟨List.append_ne_nil_of_right_ne_nil _ h.1, fun c hc => ?_⟩
  rcases List.mem_append.mp hc with hc | hc
  · rw [List.eq_of_mem_replicate hc]
    rfl
  · exact h.2 c hc

/-- The text of a whole number: a minus sign if it is negative, and digits. -/
theorem toList_decimal (n : Int) :
    (Number.decimal n).toList =
      if n < 0 then '-' :: Nat.toDigits 10 n.natAbs else Nat.toDigits 10 n.natAbs := by
  cases n with
  | ofNat m => exact String.toList_ofList
  | negSucc m =>
    have text : Number.decimal (Int.negSucc m) = "-" ++ String.ofList (Nat.toDigits 10 (m + 1)) :=
      rfl
    rw [text, if_pos (Int.negSucc_lt_zero m)]
    simp

/-- Digits are a number without a sign. -/
theorem IsDigits.isUnsigned {s : List Char} (h : IsDigits s) : IsUnsigned s := by
  have whole := IsUnsigned.mk h .none .none
  rwa [List.append_nil, List.append_nil] at whole

/-- The decimal text of a whole number is a decimal number. -/
theorem isDecimal_decimal (n : Int) : IsDecimal (Number.decimal n).toList := by
  rw [toList_decimal]
  split_ifs
  · exact .negative (isDigits_toDigits n.natAbs).isUnsigned
  · exact .positive (isDigits_toDigits n.natAbs).isUnsigned

/-- The digits of a scaled number are digits. -/
theorem isDigits_ofScaled (coefficient : Nat) (power : Int) :
    IsDigits (Number.Digits.ofScaled coefficient power).digits := by
  unfold Number.Digits.ofScaled
  dsimp only
  split_ifs with empty
  · exact isDigits_zero
  · refine ⟨fun h => empty (List.isEmpty_iff.mpr h), fun c hc => ?_⟩
    have kept := (List.dropWhile_sublist _).mem (List.mem_reverse.mp hc)
    exact (isDigits_toDigits coefficient).2 c (List.mem_reverse.mp kept)

/-- Digits in the positional notation are a number without a sign. -/
theorem isUnsigned_positional {x : Number.Digits} (h : IsDigits x.digits) :
    IsUnsigned x.positional := by
  unfold Number.Digits.positional
  split_ifs with small
  · have whole := IsUnsigned.mk isDigits_zero
      (.some (h.padded (-x.exponent - 1).toNat)) .none
    rwa [List.append_nil] at whole
  · have fraction : IsDigits (if (x.digits.drop (x.exponent.toNat + 1)).isEmpty then ['0']
        else x.digits.drop (x.exponent.toNat + 1)) := by
      split_ifs with empty
      · exact isDigits_zero
      · exact ⟨fun h => empty (List.isEmpty_iff.mpr h),
          fun c hc => h.2 c (List.mem_of_mem_drop hc)⟩
    have leading : IsDigits (x.digits.take (x.exponent.toNat + 1) ++
        List.replicate (x.exponent.toNat + 1 - (x.digits.take (x.exponent.toNat + 1)).length)
          '0') := by
      refine ⟨List.append_ne_nil_of_left_ne_nil (fun empty => ?_) _, fun c hc => ?_⟩
      · rcases List.take_eq_nil_iff.mp empty with zero | none
        · cases zero
        · exact h.1 none
      · rcases List.mem_append.mp hc with hc | hc
        · exact h.2 c (List.mem_of_mem_take hc)
        · rw [List.eq_of_mem_replicate hc]
          rfl
    have whole := IsUnsigned.mk leading (.some fraction) .none
    rwa [List.append_nil] at whole

/-- An exponent that literals have is one. -/
theorem isExponent_exponentText (e : Int) :
    IsExponent (Number.Digits.exponentText Number.literalStyle e) := by
  have digits : IsDigits (Number.padZeros 1 (Nat.toDigits 10 e.natAbs)) :=
    (isDigits_toDigits e.natAbs).padded _
  unfold Number.Digits.exponentText
  split_ifs with negative
  · exact .negative digits
  · contradiction
  · exact .positive digits

/-- Digits in the scientific notation are a number without a sign. -/
theorem isUnsigned_scientific {x : Number.Digits} (h : IsDigits x.digits) :
    IsUnsigned (x.scientific Number.literalStyle) := by
  have exponent := isExponent_exponentText x.exponent
  unfold Number.Digits.scientific
  split
  · rename_i none
    exact absurd none h.1
  · rename_i c single
    rw [single] at h
    exact IsUnsigned.mk h .none exponent
  · rename_i c rest more several
    rw [several] at h
    have first : IsDigits [c] :=
      ⟨List.cons_ne_nil c [], List.forall_mem_singleton.mpr (h.2 c List.mem_cons_self)⟩
    have behind : IsDigits rest := ⟨more, fun e he => h.2 e (List.mem_cons_of_mem c he)⟩
    exact IsUnsigned.mk first (.some behind) exponent

/-- The literal of a number is one decimal number. -/
theorem isDecimal_literal (x : Number.Binary64) : IsDecimal x.literal.toList := by
  have layout : IsUnsigned ((Number.Digits.ofScaled (x.shortest true).1
      (x.shortest true).2).layout Number.literalStyle) := by
    have digits := isDigits_ofScaled (x.shortest true).1 (x.shortest true).2
    unfold Number.Digits.layout
    split_ifs
    · exact isUnsigned_positional digits
    · exact isUnsigned_scientific digits
  unfold Number.Binary64.literal
  rw [String.toList_ofList]
  unfold Number.Binary64.shortestText
  simp only
  split_ifs
  · exact .negative layout
  · exact .positive layout

end Worklist.Sql
