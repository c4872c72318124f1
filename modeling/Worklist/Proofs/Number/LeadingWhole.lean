import Worklist.Proofs.Number.Decimal

/-!
# The whole number at the start of a text

A text starts with blanks, an optional sign and digits, however many of them, and goes on with
something else. Digits are added one by one, and the value stays in the range of 64 bits at each of
them. That is the same as to read all digits first and then to take the number of the range that is
nearest: the value moves away from zero in one direction, so once it is at an end of the range it
stays there.
-/

set_option autoImplicit false

namespace Worklist.Number

/-! ## Digit by digit -/

/-- One more digit on a saturated value is a saturated value. -/
theorem appendDigit_saturate (negative : Bool) (n : Nat) (c : Char) :
    appendDigit negative (saturate (signedNumber negative n)) c =
      saturate (signedNumber negative (10 * n + (c.toNat - 48))) := by
  unfold appendDigit signedNumber saturate minInt64 maxInt64
  generalize c.toNat - 48 = digit
  -- both ends of the range are further away from zero than any digit
  cases negative with
  | false =>
    simp only [Bool.false_eq_true, if_false]
    omega
  | true =>
    simp only [if_true]
    omega

/-- All digits one by one are the saturated value of all digits. -/
theorem foldl_appendDigit (negative : Bool) (n : Nat) (digits : List Char) :
    digits.foldl (appendDigit negative) (saturate (signedNumber negative n)) =
      saturate (signedNumber negative (Nat.ofDigitChars 10 digits n)) := by
  induction digits generalizing n with
  | nil => rfl
  | cons c digits ih =>
    rw [List.foldl_cons, appendDigit_saturate, ih, Nat.ofDigitChars_cons]
    rfl

/-- The leading number is the sign and the digits behind the blanks, saturated. -/
theorem leadingInt_eq (s : List Char) :
    leadingInt s = saturate (signedNumber (splitSign (Text.trimLeft s)).1
      (digitsValue ((splitSign (Text.trimLeft s)).2.takeWhile Char.isDigit))) := by
  have zero : saturate (signedNumber (splitSign (Text.trimLeft s)).1 0) = 0 := by
    cases (splitSign (Text.trimLeft s)).1 <;> rfl
  have run := foldl_appendDigit (splitSign (Text.trimLeft s)).1 0
    ((splitSign (Text.trimLeft s)).2.takeWhile Char.isDigit)
  rw [zero] at run
  exact run

/-! ## The parts of a text -/

/-- A text in parts: blanks, as many as there are, a sign if there is one, digits as far as they go,
and the rest. -/
structure WholeParts where
  blanks : List Char
  sign : List Char
  negative : Bool
  digits : List Char
  rest : List Char
  isBlank : ∀ c ∈ blanks, Text.isBlank c = true
  isSign : IsSign sign negative
  isDigit : ∀ c ∈ digits, c.isDigit = true
  allBlanks : ∀ c ∈ (sign ++ (digits ++ rest)).head?, Text.isBlank c = false
  oneSign : sign = [] → Unsigned (digits ++ rest)
  allDigits : EndsDigits rest

namespace WholeParts

/-- The text that the parts make up. -/
def text (p : WholeParts) : List Char :=
  p.blanks ++ (p.sign ++ (p.digits ++ p.rest))

/-- The number that sign and digits stand for, of any size; zero without digits. -/
def value (p : WholeParts) : Int :=
  signedNumber p.negative (digitsValue p.digits)

/-- Trimming the parts of a leading number takes their blanks away. -/
theorem trimLeft_text (p : WholeParts) :
    Text.trimLeft p.text = p.sign ++ (p.digits ++ p.rest) := by
  unfold Text.trimLeft text
  rw [List.dropWhile_append_of_pos p.isBlank]
  exact Text.trimLeft_eq_self p.allBlanks

/-- The parts of a leading number are read as their value, saturated. -/
theorem leadingInt_text (p : WholeParts) : leadingInt p.text = saturate p.value := by
  have split : splitSign (Text.trimLeft p.text) = (p.negative, p.digits ++ p.rest) := by
    rw [trimLeft_text, splitSign_eq, scanSign_append p.isSign p.oneSign]
  rw [leadingInt_eq, split, takeWhile_digits_append p.isDigit p.allDigits]
  rfl

/-- Every text has such parts. -/
theorem exists_text (s : List Char) : ∃ p : WholeParts, p.text = s := by
  obtain ⟨sign, negative, body, scanned⟩ : ∃ sign negative body,
      Numeral.scanSign (Text.trimLeft s) = (sign, negative, body) := ⟨_, _, _, rfl⟩
  obtain ⟨isSign, whole, oneSign⟩ := scanSign_spec scanned
  have digits : body.takeWhile Char.isDigit ++ body.dropWhile Char.isDigit = body :=
    List.takeWhile_append_dropWhile
  have shown : ∀ c ∈ (Text.trimLeft s).head?, Text.isBlank c = false := by
    intro c hc
    obtain ⟨rest, start⟩ := List.head?_eq_some_iff.mp hc
    exact Text.isBlank_of_trimLeft_eq_cons start
  refine ⟨{
    blanks := s.takeWhile Text.isBlank
    sign := sign
    negative := negative
    digits := body.takeWhile Char.isDigit
    rest := body.dropWhile Char.isDigit
    isBlank := fun c hc => List.mem_takeWhile_imp hc
    isSign := isSign
    isDigit := fun c hc => isDigit_of_mem_takeWhile hc
    allBlanks := by rw [digits, whole]; exact shown
    oneSign := by rw [digits]; exact oneSign
    allDigits := endsDigits_dropWhile body }, ?_⟩
  show s.takeWhile Text.isBlank ++ (sign ++ (_ ++ _)) = s
  rw [digits, whole]
  exact List.takeWhile_append_dropWhile

end WholeParts

/-- Every text has blanks, a sign and digits at its start, which may be none, and the whole number
that is read from it is the number of sign and digits, or the end of the range of 64 bits that is
nearest to it. What follows the digits has no effect. -/
theorem leadingInt_clamps :
    (∀ s, ∃ p : WholeParts, p.text = s) ∧
    (∀ p : WholeParts, leadingInt p.text = max minInt64 (min p.value maxInt64)) ∧
    ∀ p q : WholeParts, p.sign = q.sign → p.digits = q.digits →
      leadingInt p.text = leadingInt q.text := by
  refine ⟨WholeParts.exists_text, WholeParts.leadingInt_text, ?_⟩
  intro p q sign digits
  have negative : p.negative = q.negative := p.isSign.eq (sign ▸ q.isSign)
  rw [p.leadingInt_text, q.leadingInt_text, WholeParts.value, WholeParts.value, negative, digits]

/-- A number far below the range, with something behind it that is no digit. -/
def farBelow (rest : List Char) (ends : EndsDigits rest) : WholeParts where
  blanks := ['\u00a0', '\n']
  sign := ['-']
  negative := true
  digits := List.replicate 30 '9'
  rest := rest
  isBlank := List.forall_mem_cons.mpr ⟨rfl, List.forall_mem_singleton.mpr rfl⟩
  isSign := .minus
  isDigit := fun c hc => by rw [List.eq_of_mem_replicate hc]; rfl
  allBlanks := by
    rintro c ⟨⟩
    rfl
  oneSign := nofun
  allDigits := ends

/-- A number far below the range is read as the least one, with a fraction behind it or without. -/
theorem leadingInt_clamps_farBelow :
    (farBelow [] endsDigits_nil).sign = (farBelow ['.', '5'] (endsDigits_cons rfl ['5'])).sign ∧
    (farBelow [] endsDigits_nil).digits = (farBelow ['.', '5'] (endsDigits_cons rfl ['5'])).digits ∧
    leadingInt (farBelow [] endsDigits_nil).text =
      leadingInt (farBelow ['.', '5'] (endsDigits_cons rfl ['5'])).text ∧
    leadingInt (farBelow [] endsDigits_nil).text = minInt64 := by
  refine ⟨rfl, rfl, leadingInt_clamps.2.2 _ _ rfl rfl, ?_⟩
  rw [leadingInt_clamps.2.1]
  decide

end Worklist.Number
