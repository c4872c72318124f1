import Mathlib.Data.List.TakeWhile
import Worklist.Number.Numeral

/-!
# Signs and runs of digits

Numbers of every kind may start with a sign, and go on with digits. A sign is cut off a text where
it has one, and digits are taken as far as they go.
-/

set_option autoImplicit false

namespace Worklist.Number

/-! ## Signs -/

/-- The texts of a sign, which may be missing, and whether it is a minus. -/
inductive IsSign : List Char → Bool → Prop where
  | none : IsSign [] false
  | plus : IsSign ['+'] false
  | minus : IsSign ['-'] true

/-- A sign tells whether a number is negative. -/
theorem IsSign.eq {sign : List Char} {a b : Bool} (ha : IsSign sign a) (hb : IsSign sign b) :
    a = b := by
  cases ha <;> cases hb <;> rfl

/-- No sign stands at the start of a text. -/
def Unsigned (s : List Char) : Prop :=
  ∀ c ∈ s.head?, c ≠ '+' ∧ c ≠ '-'

/-- The number of a size, negative behind a minus. -/
def signedNumber (negative : Bool) (n : Nat) : Int :=
  if negative then -(n : Int) else n

/-- A text that begins with a digit has no sign. -/
theorem unsigned_cons {c : Char} (digit : c.isDigit = true) (s : List Char) :
    Unsigned (c :: s) := by
  intro e he
  obtain rfl := Option.some.inj he
  constructor
  · rintro rfl
    cases digit
  · rintro rfl
    cases digit

/-- A text that begins with neither minus nor plus has no sign. -/
theorem unsigned_of_ne {s : List Char} (minus : ∀ rest, s ≠ '-' :: rest)
    (plus : ∀ rest, s ≠ '+' :: rest) : Unsigned s := by
  intro c hc
  obtain ⟨rest, rfl⟩ := List.head?_eq_some_iff.mp hc
  constructor
  · rintro rfl
    exact plus rest rfl
  · rintro rfl
    exact minus rest rfl

/-- In front of a text without a sign none is scanned. -/
theorem scanSign_of_unsigned {s : List Char} (h : Unsigned s) :
    Numeral.scanSign s = ([], false, s) := by
  unfold Numeral.scanSign
  split
  · exact absurd rfl (h '-' rfl).2
  · exact absurd rfl (h '+' rfl).1
  · rfl

/-- Both ways to cut off a sign leave the same. -/
theorem splitSign_eq (s : List Char) : splitSign s = (Numeral.scanSign s).2 := by
  unfold splitSign
  split
  · rfl
  · rfl
  · rename_i minus plus
    rw [scanSign_of_unsigned (unsigned_of_ne minus plus)]

/-- A sign is cut off as it is written. -/
theorem scanSign_append {sign s : List Char} {negative : Bool} (h : IsSign sign negative)
    (unsigned : sign = [] → Unsigned s) :
    Numeral.scanSign (sign ++ s) = (sign, negative, s) := by
  cases h with
  | none => exact scanSign_of_unsigned (unsigned rfl)
  | plus => rfl
  | minus => rfl

/-- What is cut off is a sign, and it is cut off wherever there is one. -/
theorem scanSign_spec {sign s rest : List Char} {negative : Bool}
    (h : Numeral.scanSign s = (sign, negative, rest)) :
    IsSign sign negative ∧ sign ++ rest = s ∧ (sign = [] → Unsigned rest) := by
  unfold Numeral.scanSign at h
  split at h
  · obtain ⟨rfl, rfl, rfl⟩ := h
    exact ⟨.minus, rfl, nofun⟩
  · obtain ⟨rfl, rfl, rfl⟩ := h
    exact ⟨.plus, rfl, nofun⟩
  · rename_i minus plus
    obtain ⟨rfl, rfl, rfl⟩ := h
    exact ⟨.none, rfl, fun _ => unsigned_of_ne minus plus⟩

/-! ## Runs of digits -/

/-- No digit stands at the start of a text. -/
def EndsDigits (s : List Char) : Prop :=
  ∀ c ∈ s.head?, c.isDigit = false

/-- The end of a text ends digits. -/
theorem endsDigits_nil : EndsDigits [] := nofun

/-- A character that is no digit ends digits. -/
theorem endsDigits_cons {c : Char} (other : c.isDigit = false) (s : List Char) :
    EndsDigits (c :: s) := by
  rintro e ⟨⟩
  exact other

/-- What is left behind digits ends them. -/
theorem endsDigits_dropWhile (s : List Char) : EndsDigits (s.dropWhile Char.isDigit) := by
  intro c hc
  have := List.head?_dropWhile_not Char.isDigit s
  rw [hc] at this
  simpa using this

/-- No digits are taken from a text that ends digits. -/
theorem EndsDigits.takeWhile_eq {s : List Char} (h : EndsDigits s) :
    s.takeWhile Char.isDigit = [] := by
  cases s with
  | nil => rfl
  | cons c s => rw [List.takeWhile_cons, h c rfl]; rfl

/-- No digits are dropped from a text that ends digits. -/
theorem EndsDigits.dropWhile_eq {s : List Char} (h : EndsDigits s) :
    s.dropWhile Char.isDigit = s := by
  cases s with
  | nil => rfl
  | cons c s => rw [List.dropWhile_cons, h c rfl]; rfl

/-- The characters that are taken as digits are digits. -/
theorem isDigit_of_mem_takeWhile {s : List Char} {c : Char} (h : c ∈ s.takeWhile Char.isDigit) :
    c.isDigit = true :=
  List.mem_takeWhile_imp h

section Runs

variable {digits rest : List Char}

/-- Digits in front of what is no digit are taken, and no more. -/
theorem takeWhile_digits_append (digit : ∀ c ∈ digits, c.isDigit = true) (ends : EndsDigits rest) :
    (digits ++ rest).takeWhile Char.isDigit = digits := by
  rw [List.takeWhile_append_of_pos digit, ends.takeWhile_eq, List.append_nil]

/-- Dropping digits leaves the text that ends them. -/
theorem dropWhile_digits_append (digit : ∀ c ∈ digits, c.isDigit = true) (ends : EndsDigits rest) :
    (digits ++ rest).dropWhile Char.isDigit = rest := by
  rw [List.dropWhile_append_of_pos digit, ends.dropWhile_eq]

end Runs

end Worklist.Number
