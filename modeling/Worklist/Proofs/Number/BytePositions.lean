import Worklist.Proofs.Number.LongestNumeral

/-!
# Numerals by byte positions

A text is kept as bytes, and a number at its start can be found by positions in them, without a look
at characters. Such a position is read only as long as it lies within the text or at its end. All
characters of a numeral have one byte, and no byte of another character is taken for one of them, so
positions of bytes and counts of characters agree, and a numeral ends where a character does.
-/

set_option autoImplicit false

namespace Worklist.Number

/-! ## Texts as bytes -/

/-- The bytes of a text. -/
def utf8 (s : List Char) : List UInt8 :=
  s.flatMap String.utf8EncodeChar

/-- A character of one byte. -/
def IsAscii (c : Char) : Prop :=
  c.toNat < 128

instance (c : Char) : Decidable (IsAscii c) := by
  unfold IsAscii
  infer_instance

/-- Whether a byte is a digit. -/
def isDigitByte (b : UInt8) : Bool :=
  decide ('0'.toUInt8 ≤ b) && decide (b ≤ '9'.toUInt8)

/-- A character of ASCII is encoded as the one byte of its number. -/
theorem utf8EncodeChar_of_isAscii {c : Char} (ascii : IsAscii c) :
    String.utf8EncodeChar c = [c.toUInt8] := by
  refine String.utf8EncodeChar_eq_singleton (Char.utf8Size_eq_one_iff.mpr ?_)
  rw [UInt32.le_iff_toNat_le]
  exact Nat.le_of_lt_succ ascii

/-- The other characters have no byte in common with those of one byte. -/
theorem utf8EncodeChar_of_not_isAscii {c : Char} (other : ¬IsAscii c) :
    ∃ b bytes, String.utf8EncodeChar c = b :: bytes ∧ 128 ≤ b.toNat := by
  have wide : ¬c.val.toNat ≤ 127 := fun narrow => other (Nat.lt_succ_of_le narrow)
  unfold String.utf8EncodeChar
  simp only [if_neg wide]
  split_ifs
  · exact ⟨_, _, rfl, by rw [UInt8.toNat_ofNat']; omega⟩
  · exact ⟨_, _, rfl, by rw [UInt8.toNat_ofNat']; omega⟩
  · exact ⟨_, _, rfl, by rw [UInt8.toNat_ofNat']; omega⟩

/-- The bytes of two texts in a row are those of the first and then those of the second. -/
theorem utf8_append (s t : List Char) : utf8 (s ++ t) = utf8 s ++ utf8 t :=
  List.flatMap_append

/-- The bytes of a text begin with those of its first character. -/
theorem utf8_cons (c : Char) (s : List Char) : utf8 (c :: s) = String.utf8EncodeChar c ++ utf8 s :=
  List.flatMap_cons

/-- The size of a text is the number of its bytes. -/
theorem utf8ByteSize_ofList (s : List Char) : (String.ofList s).utf8ByteSize = (utf8 s).length :=
  List.size_toByteArray

/-- A text of ASCII has one byte for each character. -/
theorem utf8_of_isAscii {s : List Char} (ascii : ∀ c ∈ s, IsAscii c) :
    utf8 s = s.map Char.toUInt8 := by
  induction s with
  | nil => rfl
  | cons c s ih =>
    obtain ⟨first, rest⟩ := List.forall_mem_cons.mp ascii
    rw [utf8_cons, utf8EncodeChar_of_isAscii first, ih rest]
    rfl

/-- A text of ASCII has as many bytes as characters. -/
theorem length_utf8_of_isAscii {s : List Char} (ascii : ∀ c ∈ s, IsAscii c) :
    (utf8 s).length = s.length := by
  rw [utf8_of_isAscii ascii, List.length_map]

/-- The byte of a character of ASCII has the number of the character. -/
theorem toNat_toUInt8 {c : Char} (ascii : IsAscii c) : c.toUInt8.toNat = c.toNat := by
  have narrow : c.val.toNat < 128 := ascii
  show c.val.toNat % 2 ^ 8 = c.val.toNat
  omega

/-- A byte of a text is a character of one byte only where this character stands. -/
theorem head?_utf8_eq_iff {c : Char} (ascii : IsAscii c) (s : List Char) :
    (utf8 s).head? = some c.toUInt8 ↔ s.head? = some c := by
  cases s with
  | nil => simp [utf8]
  | cons d s =>
    have narrow : c.toNat < 128 := ascii
    rw [utf8_cons, List.head?_cons, Option.some_inj]
    by_cases first : IsAscii d
    · rw [utf8EncodeChar_of_isAscii first, List.singleton_append, List.head?_cons, Option.some_inj]
      refine ⟨fun same => Char.toNat_inj.mp ?_, congrArg _⟩
      rw [← toNat_toUInt8 first, same, toNat_toUInt8 ascii]
    · obtain ⟨b, bytes, encoded, wide⟩ := utf8EncodeChar_of_not_isAscii first
      rw [encoded, List.cons_append, List.head?_cons, Option.some_inj]
      refine iff_of_false ?_ ?_
      · rintro rfl
        rw [toNat_toUInt8 ascii] at wide
        omega
      · rintro rfl
        exact first ascii

/-- A byte is a digit if it lies between those of the first and the last digit. -/
theorem isDigitByte_iff (b : UInt8) :
    isDigitByte b = true ↔ '0'.toNat ≤ b.toNat ∧ b.toNat ≤ '9'.toNat := by
  unfold isDigitByte
  rw [Bool.and_eq_true, decide_eq_true_eq, decide_eq_true_eq, UInt8.le_iff_toNat_le,
    UInt8.le_iff_toNat_le]
  exact Iff.rfl

/-- Digits are characters of ASCII. -/
theorem isAscii_of_isDigit {c : Char} (digit : c.isDigit = true) : IsAscii c := by
  have bounds := Text.toNat_of_isDigit digit
  unfold IsAscii
  omega

/-- Digits are counted by their bytes. -/
theorem length_takeWhile_isDigitByte (s : List Char) :
    ((utf8 s).takeWhile isDigitByte).length = (s.takeWhile Char.isDigit).length := by
  induction s with
  | nil => rfl
  | cons c s ih =>
    rw [utf8_cons, List.takeWhile_cons]
    by_cases digit : c.isDigit = true
    · have ascii := isAscii_of_isDigit digit
      have byte : isDigitByte c.toUInt8 = true := by
        rwa [isDigitByte_iff, toNat_toUInt8 ascii, ← Char.isDigit_iff_toNat]
      rw [utf8EncodeChar_of_isAscii ascii, List.singleton_append, List.takeWhile_cons, if_pos byte,
        if_pos digit, List.length_cons, ih, List.length_cons]
    · obtain ⟨b, bytes, encoded, other⟩ : ∃ b bytes,
          String.utf8EncodeChar c = b :: bytes ∧ isDigitByte b ≠ true := by
        by_cases ascii : IsAscii c
        · refine ⟨_, [], utf8EncodeChar_of_isAscii ascii, ?_⟩
          rwa [Ne, isDigitByte_iff, toNat_toUInt8 ascii, ← Char.isDigit_iff_toNat]
        · obtain ⟨b, bytes, encoded, wide⟩ := utf8EncodeChar_of_not_isAscii ascii
          refine ⟨b, bytes, encoded, ?_⟩
          have last : '9'.toNat = 57 := rfl
          rw [Ne, isDigitByte_iff]
          omega
      rw [encoded, List.cons_append, List.takeWhile_cons, if_neg other, if_neg digit]
      rfl

/-! ## Parts at a position -/

/-- How many bytes the sign at a position has: one, or none where there is no sign. -/
def signAt (bytes : List UInt8) (position : Nat) : Nat :=
  if bytes[position]? = some '+'.toUInt8 ∨ bytes[position]? = some '-'.toUInt8 then 1 else 0

/-- How many digits stand at a position; no answer if the position lies beyond the end. -/
def digitsAt? (bytes : List UInt8) (position : Nat) : Option Nat :=
  if position ≤ bytes.length then some ((bytes.drop position).takeWhile isDigitByte).length
  else none

/-- How many digits the fraction at a position has; none if there is no point. -/
def fractionAt? (bytes : List UInt8) (position : Nat) : Option Nat :=
  if bytes[position]? = some '.'.toUInt8 then digitsAt? bytes (position + 1) else some 0

/-- How many bytes an exponent has whose mark stands right before a position; none without
digits. -/
def exponentAfter? (bytes : List UInt8) (position : Nat) : Option Nat :=
  let sign := signAt bytes position
  (digitsAt? bytes (position + sign)).map fun digits =>
    if digits = 0 then 0 else 1 + sign + digits

/-- How many bytes the exponent at a position has, with its mark and sign; none if there is no
mark. -/
def exponentAt? (bytes : List UInt8) (position : Nat) : Option Nat :=
  if bytes[position]? = some 'e'.toUInt8 ∨ bytes[position]? = some 'E'.toUInt8 then
    exponentAfter? bytes (position + 1)
  else some 0

/-- The position where the longest numeral at the start ends; zero if there is no numeral. -/
def numeralEnd? (bytes : List UInt8) : Option Nat := do
  let sign := signAt bytes 0
  let whole ← digitsAt? bytes sign
  let fraction ← fractionAt? bytes (sign + whole)
  if whole = 0 ∧ fraction = 0 then return 0
  let position := sign + whole + if fraction = 0 then 0 else 1 + fraction
  let exponent ← exponentAt? bytes position
  return position + exponent

/-! ## Positions and what is scanned -/

/-- A position in the bytes of a text, and the characters behind it. -/
structure RestAt (bytes : List UInt8) (position : Nat) (rest : List Char) : Prop where
  inside : position ≤ bytes.length
  drop : bytes.drop position = utf8 rest

/-- At the start all of a text is left. -/
theorem restAt_zero (s : List Char) : RestAt (utf8 s) 0 s :=
  ⟨Nat.zero_le _, rfl⟩

/-- Signs are characters of ASCII. -/
theorem isAscii_sign {sign : List Char} {negative : Bool} (h : IsSign sign negative) :
    ∀ c ∈ sign, IsAscii c := by
  cases h with
  | none => simp
  | plus => simp [IsAscii]
  | minus => simp [IsAscii]

/-- A fraction is written in ASCII. -/
theorem isAscii_fractionText {fraction : List Char} (digit : ∀ c ∈ fraction, c.isDigit = true) :
    ∀ c ∈ Numeral.fractionText fraction, IsAscii c := by
  unfold Numeral.fractionText
  split_ifs
  · simp
  · exact List.forall_mem_cons.mpr ⟨by decide, fun c hc => isAscii_of_isDigit (digit c hc)⟩

/-- The mark of an exponent is a character of ASCII. -/
theorem isAscii_mark {mark : Char} (h : mark = 'e' ∨ mark = 'E') : IsAscii mark := by
  rcases h with rfl | rfl
  · decide
  · decide

section Parts

variable {bytes : List UInt8} {position : Nat} {s : List Char}

/-- Characters of one byte are passed one position each. -/
theorem RestAt.advance (front : List Char) {rest : List Char}
    (h : RestAt bytes position (front ++ rest)) (ascii : ∀ c ∈ front, IsAscii c) :
    RestAt bytes (position + front.length) rest := by
  have length := congrArg List.length h.drop
  have inside := h.inside
  rw [utf8_append, List.length_append, length_utf8_of_isAscii ascii, List.length_drop] at length
  refine ⟨by omega, ?_⟩
  rw [← List.drop_drop, h.drop, utf8_append, ← length_utf8_of_isAscii ascii, List.drop_left]

/-- Behind a sign the rest of the text is left that the sign leaves. -/
theorem RestAt.sign (h : RestAt bytes position s) {sign rest : List Char} {negative : Bool}
    (signed : Numeral.scanSign s = (sign, negative, rest)) :
    RestAt bytes (position + sign.length) rest := by
  obtain ⟨isSign, whole, -⟩ := scanSign_spec signed
  rw [← whole] at h
  exact h.advance sign (isAscii_sign isSign)

/-- Behind digits the rest of the text is left that the digits leave. -/
theorem RestAt.digits (h : RestAt bytes position s) :
    RestAt bytes (position + (s.takeWhile Char.isDigit).length) (s.dropWhile Char.isDigit) := by
  rw [← List.takeWhile_append_dropWhile (p := Char.isDigit) (l := s)] at h
  exact h.advance _ fun c hc => isAscii_of_isDigit (isDigit_of_mem_takeWhile hc)

/-- Behind a fraction the rest of the text is left that the fraction leaves. -/
theorem RestAt.fraction (h : RestAt bytes position s) {fraction rest : List Char}
    (pointed : Numeral.scanFraction s = (fraction, rest)) :
    RestAt bytes (position + (Numeral.fractionText fraction).length) rest := by
  obtain ⟨digit, whole⟩ := Numeral.scanFraction_spec pointed
  rw [← whole] at h
  exact h.advance _ (isAscii_fractionText digit)

/-- The byte at a position is that of a character of ASCII if this character is the next one. -/
theorem RestAt.byte_eq_iff (h : RestAt bytes position s) {c : Char} (ascii : IsAscii c) :
    bytes[position]? = some c.toUInt8 ↔ s.head? = some c := by
  rw [← head?_utf8_eq_iff ascii, ← h.drop, List.head?_drop]

/-- The sign at a position is as long as the one that is scanned there. -/
theorem signAt_eq (h : RestAt bytes position s) {sign rest : List Char} {negative : Bool}
    (signed : Numeral.scanSign s = (sign, negative, rest)) :
    signAt bytes position = sign.length := by
  obtain ⟨isSign, rfl, unsigned⟩ := scanSign_spec signed
  unfold signAt
  simp only [h.byte_eq_iff (c := '+') (by decide), h.byte_eq_iff (c := '-') (by decide)]
  cases isSign with
  | none =>
    have none : ¬(rest.head? = some '+' ∨ rest.head? = some '-') := by
      rintro (plus | minus)
      · exact (unsigned rfl '+' plus).1 rfl
      · exact (unsigned rfl '-' minus).2 rfl
    rw [List.nil_append, if_neg none]
    rfl
  | plus => exact if_pos (Or.inl rfl)
  | minus => exact if_pos (Or.inr rfl)

/-- The digits at a position are as many as the next characters that are digits. -/
theorem digitsAt?_eq (h : RestAt bytes position s) :
    digitsAt? bytes position = some (s.takeWhile Char.isDigit).length := by
  unfold digitsAt?
  rw [if_pos h.inside, h.drop, length_takeWhile_isDigitByte]

/-- The fraction at a position is as long as the one that is scanned there. -/
theorem fractionAt?_eq (h : RestAt bytes position s) :
    fractionAt? bytes position = some (Numeral.scanFraction s).1.length := by
  unfold fractionAt?
  simp only [h.byte_eq_iff (c := '.') (by decide)]
  split_ifs with point
  · obtain ⟨rest, rfl⟩ := List.head?_eq_some_iff.mp point
    have behind : RestAt bytes (position + 1) rest :=
      h.advance ['.'] (List.forall_mem_singleton.mpr (by decide))
    rw [digitsAt?_eq behind, Numeral.scanFraction]
    split_ifs with none
    · rw [List.isEmpty_iff.mp none]
    · rfl
  · rw [Numeral.scanFraction_of_ne_point fun rest same => point (by rw [same]; rfl)]
    rfl

/-- The exponent behind a mark is as long as the one that is scanned there. -/
theorem exponentAfter?_eq (h : RestAt bytes position s) (mark : Char) :
    exponentAfter? bytes position = some (Numeral.exponentText
      ((Numeral.scanExponentAfter mark s).map Prod.fst)).length := by
  obtain ⟨sign, negative, after, signed⟩ : ∃ sign negative after,
      Numeral.scanSign s = (sign, negative, after) := ⟨_, _, _, rfl⟩
  unfold exponentAfter? Numeral.scanExponentAfter
  simp only [signAt_eq h signed, digitsAt?_eq (h.sign signed), signed, Option.map_some]
  by_cases none : after.takeWhile Char.isDigit = []
  · rw [none]
    rfl
  · have some : (after.takeWhile Char.isDigit).length ≠ 0 := by
      rwa [Ne, List.length_eq_zero_iff]
    rw [if_neg some, if_neg (mt List.isEmpty_iff.mp none), Option.map_some]
    show Option.some _ = Option.some (mark :: (sign ++ after.takeWhile Char.isDigit)).length
    rw [List.length_cons, List.length_append, Nat.add_assoc, Nat.add_comm]

/-- The exponent at a position is as long as the one that is scanned there. -/
theorem exponentAt?_eq (h : RestAt bytes position s) : exponentAt? bytes position =
    some (Numeral.exponentText (Numeral.scanExponent s).1).length := by
  unfold exponentAt?
  simp only [h.byte_eq_iff (isAscii_mark (Or.inl rfl)), h.byte_eq_iff (isAscii_mark (Or.inr rfl))]
  cases s with
  | nil => rfl
  | cons c rest =>
    simp only [List.head?_cons, Option.some_inj, Numeral.scanExponent]
    split_ifs with isMark
    · have behind : RestAt bytes (position + 1) rest :=
        h.advance [c] (List.forall_mem_singleton.mpr (isAscii_mark isMark))
      rw [exponentAfter?_eq behind c]
      cases Numeral.scanExponentAfter c rest with
      | none => rfl
      | some found => rfl
    · rfl

/-- A fraction has its point only with digits. -/
theorem length_fractionText (fraction : List Char) : (Numeral.fractionText fraction).length =
    if fraction.length = 0 then 0 else 1 + fraction.length := by
  cases fraction with
  | nil => rfl
  | cons c digits =>
    rw [Numeral.fractionText_of_ne_nil (List.cons_ne_nil _ _), if_neg (by simp), List.length_cons,
      Nat.add_comm]

end Parts

/-- Every position that is read lies within the text or at its end, and the position that is found
is the count of characters of the longest numeral. -/
theorem numeralEnd?_utf8 (s : List Char) :
    numeralEnd? (utf8 s) = some (Numeral.leadingLength s) := by
  obtain ⟨sign, negative, body, signed⟩ : ∃ sign negative body,
      Numeral.scanSign s = (sign, negative, body) := ⟨_, _, _, rfl⟩
  obtain ⟨fraction, after, pointed⟩ : ∃ fraction after,
      Numeral.scanFraction (body.dropWhile Char.isDigit) = (fraction, after) := ⟨_, _, rfl⟩
  obtain ⟨exponent, rest, raised⟩ : ∃ exponent rest,
      Numeral.scanExponent after = (exponent, rest) := ⟨_, _, rfl⟩
  -- each part of the text behind the characters of the ones before it
  have atWhole := (restAt_zero s).sign signed
  rw [Nat.zero_add] at atWhole
  have atFraction := atWhole.digits
  have atExponent := atFraction.fraction pointed
  unfold numeralEnd?
  simp only [signAt_eq (restAt_zero s) signed, digitsAt?_eq atWhole, fractionAt?_eq atFraction,
    pointed, Option.bind_eq_bind, Option.bind_some]
  rw [← length_fractionText, exponentAt?_eq atExponent, raised]
  simp only [List.length_eq_zero_iff]
  by_cases missing : body.takeWhile Char.isDigit = [] ∧ fraction = []
  · have none : Numeral.scan s = none := by
      unfold Numeral.scan
      simp only [signed, pointed, missing, List.isEmpty_nil, Bool.and_self, if_true]
    rw [if_pos missing, Numeral.leadingLength_eq_zero_iff.mpr none]
    rfl
  · have scanned := Numeral.scan_eq signed pointed raised (not_and_or.mp missing)
    rw [if_neg missing, Numeral.leadingLength_of_scan scanned, Numeral.written_eq]
    simp only [List.length_append, Option.bind_some, Nat.add_assoc]
    rfl

/-! ## The end of a numeral -/

/-- An exponent is written in ASCII. -/
theorem isAscii_exponentText {exponent : Option Exponent} (formed : ∀ x ∈ exponent, x.WellFormed) :
    ∀ c ∈ Numeral.exponentText exponent, IsAscii c := by
  cases exponent with
  | none => exact nofun
  | some x =>
    cases formed x rfl with
    | @mk mark sign digits negative isMark isSign isDigits =>
      refine List.forall_mem_cons.mpr ⟨isAscii_mark isMark,
        List.forall_mem_append.mpr ⟨isAscii_sign isSign, ?_⟩⟩
      exact fun c hc => isAscii_of_isDigit (isDigits.2 c hc)

namespace Numeral

/-- A numeral is written in ASCII. -/
theorem WellFormed.isAscii {n : Numeral} (h : n.WellFormed) : ∀ c ∈ n.written, IsAscii c := by
  rw [written_eq]
  simp only [List.forall_mem_append]
  exact ⟨isAscii_sign h.isSign, fun c hc => isAscii_of_isDigit (h.whole c hc),
    isAscii_fractionText h.fraction, isAscii_exponentText h.exponent⟩

/-- Up to where the longest numeral ends all characters have one byte. -/
theorem isAscii_take_leadingLength (s : List Char) : ∀ c ∈ s.take (leadingLength s), IsAscii c := by
  rcases leadingLength_cases s with ⟨none, -⟩ | ⟨isNumeral, -⟩
  · simp [none]
  · obtain ⟨n, formed, same⟩ := mem_numeralTexts.mp isNumeral
    exact same ▸ formed.isAscii

/-- The numeral at the start of a text is no longer than the text. -/
theorem leadingLength_le (s : List Char) : leadingLength s ≤ s.length := by
  unfold leadingLength
  split
  · exact Nat.sub_le _ _
  · exact Nat.zero_le _

/-- The numeral at the start of a text has one byte for each character. -/
theorem length_utf8_take_leadingLength (s : List Char) :
    (utf8 (s.take (leadingLength s))).length = leadingLength s := by
  rw [length_utf8_of_isAscii (isAscii_take_leadingLength s), List.length_take_of_le
    (leadingLength_le s)]

/-- The bytes up to the end of the longest numeral are those of its characters. -/
theorem take_utf8_leadingLength (s : List Char) :
    (utf8 s).take (leadingLength s) = utf8 (s.take (leadingLength s)) := by
  have split : utf8 s = utf8 (s.take (leadingLength s)) ++ utf8 (s.drop (leadingLength s)) := by
    rw [← utf8_append, List.take_append_drop]
  rw [split]
  exact List.take_left' (length_utf8_take_leadingLength s)

/-- The longest numeral ends between two characters of the text. -/
theorem isValid_leadingLength (s : List Char) :
    String.Pos.Raw.IsValid (String.ofList s) ⟨leadingLength s⟩ := by
  rw [String.Pos.Raw.isValid_ofList]
  refine ⟨leadingLength s, ?_⟩
  rw [utf8ByteSize_ofList, length_utf8_take_leadingLength]

end Numeral

end Worklist.Number
