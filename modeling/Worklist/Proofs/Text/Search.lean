import Mathlib.Data.List.Sublists
import Worklist.Text.Like

/-!
# Texts that contain a text

A text is looked for by a pattern: its lower case between two runs. The pattern is compared letter
by letter, and only letters of ASCII are compared in either case. A text is therefore found where it
stands if lower case changes no other letter of it, and otherwise it is not even found in itself.
-/

set_option autoImplicit false

namespace Worklist.Text

/-! ## Lower case of single characters -/

/-- A capital letter of ASCII is lowered by 32, and every other character stays. -/
theorem toNat_toLower (c : Char) :
    c.toLower.toNat = if 65 ≤ c.toNat ∧ c.toNat ≤ 90 then c.toNat + 32 else c.toNat := by
  have bounds : (c.val ≥ 'A'.val ∧ c.val ≤ 'Z'.val) ↔ (65 ≤ c.toNat ∧ c.toNat ≤ 90) := Iff.rfl
  unfold Char.toLower
  by_cases capital : c.val ≥ 'A'.val ∧ c.val ≤ 'Z'.val
  · rw [dif_pos capital, if_pos (bounds.mp capital)]
    have small := bounds.mp capital
    show (c.val + ('a'.val - 'A'.val)).toNat = c.toNat + 32
    rw [UInt32.toNat_add]
    show (c.toNat + 32) % 2 ^ 32 = c.toNat + 32
    omega
  · rw [dif_neg capital, if_neg fun h => capital (bounds.mpr h)]

/-- A valid number is the number of its character. -/
theorem toNat_ofNat {n : Nat} (h : n.isValidChar) : (Char.ofNat n).toNat = n := by
  unfold Char.ofNat
  rw [dif_pos h]
  rfl

/-- A character that is no capital letter of ASCII stays as it is when it is lowered. -/
theorem toLower_eq_self {c : Char} (h : c.toNat < 65 ∨ 90 < c.toNat) : c.toLower = c := by
  apply Char.toNat_inj.mp
  rw [toNat_toLower, if_neg (by omega)]

/-- A letter and its small one are compared alike. -/
@[simp]
theorem likeKey_toLower (c : Char) : likeKey c.toLower = likeKey c := by
  by_cases capital : c.toNat < 65 ∨ 90 < c.toNat
  · rw [toLower_eq_self capital]
  · have lower := toNat_toLower c
    rw [if_pos (by omega)] at lower
    have basic (d : Char) (small : d.toNat < 128) : likeKey d = d.toLower := by
      unfold likeKey
      apply if_neg
      rintro (rfl | rfl) <;> exact absurd small (by decide)
    rw [basic c (by omega), basic c.toLower (by omega), toLower_eq_self (by omega)]

/-- The two characters that are no letters in a pattern. -/
def isWildcard (c : Char) : Bool :=
  c == '%' || c == '_'

/-- The wildcards are the percent sign and the underscore. -/
theorem isWildcard_iff {c : Char} : isWildcard c = true ↔ c = '%' ∨ c = '_' := by
  simp [isWildcard]

/-- No character beyond the underscore is a wildcard. -/
theorem isWildcard_of_lt {c : Char} (h : 0x5F < c.toNat) : isWildcard c = false := by
  rw [Bool.eq_false_iff]
  intro wild
  rcases isWildcard_iff.mp wild with rfl | rfl <;> exact absurd h (by decide)

/-- Only a wildcard is compared as one. -/
theorem isWildcard_likeKey (c : Char) : isWildcard (likeKey c) = isWildcard c := by
  unfold likeKey
  split_ifs with beyond
  · rcases beyond with rfl | rfl <;> rfl
  · by_cases capital : c.toNat < 65 ∨ 90 < c.toNat
    · rw [toLower_eq_self capital]
    · have lower := toNat_toLower c
      rw [if_pos (by omega)] at lower
      rw [isWildcard_of_lt (by omega), eq_comm, Bool.eq_false_iff]
      intro wild
      rcases isWildcard_iff.mp wild with rfl | rfl
      · exact capital (by decide)
      · exact capital (by decide)

/-- The runs of the table are beyond ASCII, and so far from the end of the basic plane that no
character of them is compared as another one. Their lower case is a character, and no wildcard. -/
theorem lowercaseRuns_range : ∀ r ∈ lowercaseRuns,
    0x80 ≤ r.first ∧ 0x5F < (r.first : Int) + r.distance ∧
      ((r.last : Int) + r.distance < 0xD800 ∨
        0xDFFF < (r.first : Int) + r.distance ∧ (r.last : Int) + r.distance < 0x110000) ∧
      (r.last < 0xFFFD ∨ 0xFFFF < r.first) := by
  decide +kernel

/-- A character beyond ASCII is compared as itself, but for a few at the end of the plane. -/
theorem likeKey_eq_self {c : Char} (beyond : 0x80 ≤ c.toNat)
    (inside : c.toNat < 0xFFFD ∨ 0xFFFF < c.toNat) : likeKey c = c := by
  unfold likeKey
  rw [if_neg, toLower_eq_self (by omega)]
  rintro (rfl | rfl) <;> exact absurd inside (by decide)

/-- What is compared as a character beyond ASCII is that character. -/
theorem eq_of_likeKey_eq {c d : Char} (beyond : 0x80 ≤ c.toNat)
    (inside : c.toNat < 0xFFFD ∨ 0xFFFF < c.toNat) (h : likeKey d = likeKey c) : d = c := by
  rw [likeKey_eq_self beyond inside] at h
  unfold likeKey at h
  split_ifs at h with last
  · rw [← h] at inside
    exact absurd inside (by decide)
  · have number := toNat_toLower d
    rw [h] at number
    split_ifs at number with capital
    · omega
    · exact Char.toNat_inj.mp number.symm

/-- Lower case of a character is that of ASCII, or it begins with another letter, also for a
comparison. -/
theorem lowerChar_cases (c : Char) :
    lowerChar c = [c.toLower] ∨
      0x80 ≤ c.toNat ∧ (∀ e ∈ lowerChar c, 0x5F < e.toNat) ∧
        ∃ d ds, lowerChar c = d :: ds ∧ likeKey d ≠ likeKey c := by
  by_cases small : c.toNat < 0x80
  · left
    unfold lowerChar
    exact if_pos small
  by_cases dotted : c.toNat = 0x130
  · obtain rfl : c = 'İ' := Char.toNat_inj.mp dotted
    right
    refine ⟨by decide, ?_, 'i', ['\u0307'], rfl, by decide⟩
    show ∀ e ∈ ['i', '\u0307'], 0x5F < e.toNat
    rw [List.forall_mem_cons, List.forall_mem_singleton]
    decide
  cases run : lowercaseRuns.find? fun r =>
      r.first ≤ c.toNat && c.toNat ≤ r.last && (c.toNat - r.first) % r.step == 0 with
  | none =>
    left
    unfold lowerChar
    rw [if_neg small, if_neg dotted, toLower_eq_self (by omega)]
    simp only [run]
  | some r =>
    have lower : lowerChar c = [Char.ofNat (c.toNat + r.distance).toNat] := by
      unfold lowerChar
      rw [if_neg small, if_neg dotted]
      simp only [run]
    have within := List.find?_some run
    simp only [Bool.and_eq_true, decide_eq_true_eq] at within
    obtain ⟨⟨first, last⟩, -⟩ := within
    obtain ⟨-, above, valid, inside⟩ := lowercaseRuns_range r (List.mem_of_find?_eq_some run)
    have number : (Char.ofNat (c.toNat + r.distance).toNat).toNat =
        (c.toNat + r.distance).toNat := by
      apply toNat_ofNat
      unfold Nat.isValidChar
      omega
    by_cases same : likeKey (Char.ofNat (c.toNat + r.distance).toNat) = likeKey c
    -- the run then maps the character to itself
    · left
      rw [lower, eq_of_likeKey_eq (by omega) (by omega) same, toLower_eq_self (by omega)]
    · right
      refine ⟨by omega, ?_, _, [], lower, same⟩
      intro e he
      rw [lower, List.mem_singleton] at he
      rw [he, number]
      omega

/-! ## Lower case of texts -/

/-- The lower case of a character between the characters in front of it and those behind it. -/
def lowerAt (before rest : List Char) (c : Char) : List Char :=
  if c = 'Σ' then [if meetsCased before && !meetsCased rest then 'ς' else 'σ'] else lowerChar c

/-- Lowering a text lowers its first character, with what follows in view, and then the rest behind
it. -/
theorem lowerAfter_cons (before : List Char) (c : Char) (rest : List Char) :
    lowerAfter before (c :: rest) = lowerAt before rest c ++ lowerAfter (c :: before) rest := rfl

/-- Where a character stands decides only which of the two letters a sigma becomes. -/
theorem lowerAt_cases (before rest : List Char) (c : Char) :
    lowerChar c = [c.toLower] ∧ lowerAt before rest c = [c.toLower] ∨
      0x80 ≤ c.toNat ∧ (∀ e ∈ lowerAt before rest c, 0x5F < e.toNat) ∧
        ∃ d ds, lowerAt before rest c = d :: ds ∧ likeKey d ≠ likeKey c := by
  unfold lowerAt
  by_cases sigma : c = 'Σ'
  · right
    rw [if_pos sigma, sigma]
    refine ⟨by decide, ?_, _, [], rfl, ?_⟩
    · intro e he
      rw [List.mem_singleton.mp he]
      split_ifs <;> decide
    · split_ifs <;> decide
  · rw [if_neg sigma]
    rcases lowerChar_cases c with ascii | beyond
    · exact Or.inl ⟨ascii, ascii⟩
    · exact Or.inr beyond

/-- Lower case does not bring in the character that ends a statement. -/
theorem not_mem_lowerAfter {s : List Char} (h : '\x00' ∉ s) (before : List Char) :
    '\x00' ∉ lowerAfter before s := by
  induction s generalizing before with
  | nil => exact h
  | cons c rest ih =>
    rw [List.mem_cons, not_or] at h
    obtain ⟨own, others⟩ := h
    rw [lowerAfter_cons, List.mem_append, not_or]
    refine ⟨?_, ih others (c :: before)⟩
    intro mem
    rcases lowerAt_cases before rest c with ⟨-, ascii⟩ | ⟨-, above, -⟩
    · rw [ascii, List.mem_singleton] at mem
      have number := toNat_toLower c
      rw [← mem] at number
      split_ifs at number with capital
      · have zero : ('\x00' : Char).toNat = 0 := rfl
        omega
      · exact own (Char.toNat_inj.mp number)
    · exact absurd (above _ mem) (by decide)

/-- Nor does it take that character away. -/
theorem nul_mem_lowerAfter {s : List Char} (h : '\x00' ∈ s) (before : List Char) :
    '\x00' ∈ lowerAfter before s := by
  induction s generalizing before with
  | nil => exact h
  | cons c rest ih =>
    rw [lowerAfter_cons, List.mem_append]
    rcases List.mem_cons.mp h with rfl | later
    · exact Or.inl List.mem_cons_self
    · exact Or.inr (ih later (c :: before))

/-- A text in which lower case changes letters of ASCII only. -/
def LowersInAscii (s : List Char) : Prop :=
  ∀ c ∈ s, lowerChar c = [c.toLower]

instance (s : List Char) : Decidable (LowersInAscii s) :=
  List.decidableBAll _ s

/-- A text that lowers as in ASCII is lowered character by character. -/
theorem lowerAfter_eq_lowerAscii {s : List Char} (h : LowersInAscii s) (before : List Char) :
    lowerAfter before s = lowerAscii s := by
  induction s generalizing before with
  | nil => rfl
  | cons c rest ih =>
    obtain ⟨own, others⟩ := List.forall_mem_cons.mp h
    have here : lowerAt before rest c = [c.toLower] := by
      unfold lowerAt
      rw [if_neg, own]
      rintro rfl
      exact absurd own (by decide)
    rw [lowerAfter_cons, here, ih others]
    rfl

/-- The letters of a pattern as they are compared. -/
def letters (s : List Char) : List Char :=
  (s.filter fun c => !isWildcard c).map likeKey

/-- The letters of two texts in a row are those of both. -/
@[simp]
theorem letters_append (s t : List Char) : letters (s ++ t) = letters s ++ letters t := by
  simp [letters]

/-- A wildcard is no letter. -/
theorem letters_cons_of_wildcard {c : Char} (h : isWildcard c = true) (s : List Char) :
    letters (c :: s) = letters s := by
  simp [letters, h]

/-- A character that is no wildcard is a letter. -/
theorem letters_cons {c : Char} (h : isWildcard c = false) (s : List Char) :
    letters (c :: s) = likeKey c :: letters s := by
  simp [letters, h]

/-- The letters of a text are those of its first character and those of the rest. -/
theorem letters_cons_eq (c : Char) (s : List Char) : letters (c :: s) = letters [c] ++ letters s :=
  letters_append [c] s

/-- Characters beyond the underscore are all letters. -/
theorem letters_of_letters {s : List Char} (h : ∀ e ∈ s, 0x5F < e.toNat) :
    letters s = s.map likeKey := by
  unfold letters
  rw [List.filter_eq_self.mpr]
  intro e he
  rw [isWildcard_of_lt (h e he)]
  rfl

/-- A capital letter and its small one are the same letter. -/
theorem letters_toLower (c : Char) : letters [c.toLower] = letters [c] := by
  have same : isWildcard c.toLower = isWildcard c := by
    rw [← isWildcard_likeKey, likeKey_toLower, isWildcard_likeKey]
  cases wild : isWildcard c with
  | true => rw [letters_cons_of_wildcard wild, letters_cons_of_wildcard (same.trans wild)]
  | false => rw [letters_cons wild, letters_cons (same.trans wild), likeKey_toLower]

/-- Lower case leaves no letter out. -/
theorem length_letters_le (before s : List Char) :
    (letters s).length ≤ (letters (lowerAfter before s)).length := by
  -- the characters passed so far decide about a sigma, so they vary along the text
  induction s generalizing before with
  | nil => exact Nat.le_refl 0
  | cons c rest ih =>
    have others := ih (c :: before)
    have here : (letters [c]).length ≤ (letters (lowerAt before rest c)).length := by
      rcases lowerAt_cases before rest c with ⟨-, ascii⟩ | ⟨beyond, above, d, ds, split, -⟩
      · rw [ascii, letters_toLower]
      · rw [letters_of_letters above, letters_cons (isWildcard_of_lt (by omega)), split]
        simp [letters]
    rw [lowerAfter_cons, letters_append, letters_cons_eq, List.length_append, List.length_append]
    omega

/-- Lower case keeps all letters, as they are compared, only if it changes letters of ASCII only. -/
theorem lowersInAscii_of_letters_eq {before s : List Char}
    (same : letters (lowerAfter before s) = letters s) : LowersInAscii s := by
  induction s generalizing before with
  | nil => exact List.forall_mem_nil _
  | cons c rest ih =>
    rw [lowerAfter_cons, letters_append, letters_cons_eq c rest] at same
    rw [LowersInAscii, List.forall_mem_cons]
    rcases lowerAt_cases before rest c with ⟨own, ascii⟩ | ⟨beyond, above, d, ds, split, other⟩
    · rw [ascii, letters_toLower] at same
      exact ⟨own, ih (List.append_cancel_left same)⟩
    · exfalso
      rw [letters_of_letters above, letters_cons (isWildcard_of_lt (by omega)), split] at same
      exact other (List.cons.inj same).1

/-! ## Patterns -/

/-- A run takes up whatever stands before. -/
theorem like_run_of_suffix {pattern s t : List Char} (h : like pattern s = true)
    (suffix : s <:+ t) : like ('%' :: pattern) t = true := by
  have here : like ('%' :: pattern) s = true := by
    cases s with
    | nil => rw [like_run_nil, h]
    | cons d s => rw [like_run_cons, h, Bool.true_or]
  obtain ⟨before, rfl⟩ := suffix
  induction before with
  | nil => exact here
  | cons d before ih => rw [List.cons_append, like_run_cons, ih, Bool.or_true]

/-- The lower case of ASCII of a text, with a run behind it, is the pattern of what starts with the
text. Its wildcards are found as any character is. -/
theorem like_lowerAscii_append (v rest : List Char) :
    like (lowerAscii v ++ ['%']) (v ++ rest) = true := by
  induction v with
  | nil => exact like_run_of_suffix (like_nil []) (List.nil_suffix)
  | cons c v ih =>
    show like (c.toLower :: (lowerAscii v ++ ['%'])) (c :: (v ++ rest)) = true
    by_cases run : c.toLower = '%'
    · rw [run]
      exact like_run_of_suffix ih (List.suffix_cons c _)
    by_cases one : c.toLower = '_'
    · rw [one, like_one_cons, ih]
    · rw [like_char_cons run one, likeKey_toLower, beq_self_eq_true, ih, Bool.true_and]

/-- The letters of a pattern stand, in their order, in all that is like it. -/
theorem letters_sublist_of_like {pattern text : List Char} (h : like pattern text = true) :
    (letters pattern).Sublist (letters text) := by
  induction pattern generalizing text with
  | nil => exact List.nil_sublist _
  | cons c pattern ih =>
    have longer (d : Char) (text : List Char) : (letters text).Sublist (letters (d :: text)) := by
      rw [letters_cons_eq]
      exact List.sublist_append_right _ _
    by_cases run : c = '%'
    · subst run
      rw [letters_cons_of_wildcard rfl]
      -- a run ends somewhere in the text, and what it takes up only adds letters
      induction text with
      | nil => exact ih (like_run_nil pattern ▸ h)
      | cons d text ihText =>
        rw [like_run_cons, Bool.or_eq_true] at h
        rcases h with here | later
        · exact ih here
        · exact (ihText later).trans (longer d text)
    · cases text with
      | nil =>
        rw [like_cons_nil run] at h
        cases h
      | cons d text =>
        by_cases one : c = '_'
        · subst one
          rw [letters_cons_of_wildcard rfl]
          exact (ih (like_one_cons pattern d text ▸ h)).trans (longer d text)
        · rw [like_char_cons run one, Bool.and_eq_true, beq_iff_eq] at h
          have letter : isWildcard c = false := by
            rw [Bool.eq_false_iff]
            intro wild
            exact (isWildcard_iff.mp wild).elim run one
          have letter' : isWildcard d = false := by
            rw [← isWildcard_likeKey, ← h.1, isWildcard_likeKey, letter]
          rw [letters_cons letter, letters_cons letter', h.1]
          exact (ih h.2).cons_cons _

/-! ## Looking for a text -/

/-- The pattern of a search. -/
def searchPattern (v : String) : String :=
  "%" ++ lowercase v ++ "%"

/-- The pattern of a search is the lowered text between two percent signs. -/
theorem toList_searchPattern (v : String) :
    (searchPattern v).toList = '%' :: (lowerAfter [] v.toList ++ ['%']) := by
  simp [searchPattern, lowercase, String.toList_append]

/-- A text without capital letters beyond ASCII is found wherever it stands. -/
theorem like_searchPattern_of_infix {v : String} (ascii : LowersInAscii v.toList)
    {text : List Char} (h : v.toList <:+: text) :
    like (searchPattern v).toList text = true := by
  obtain ⟨before, rest, rfl⟩ := h
  rw [toList_searchPattern, lowerAfter_eq_lowerAscii ascii, List.append_assoc]
  exact like_run_of_suffix (like_lowerAscii_append v.toList rest) (List.suffix_append _ _)

/-- With a capital letter beyond ASCII a text is not found in itself. -/
theorem like_searchPattern_self_iff (v : String) :
    like (searchPattern v).toList v.toList = true ↔ LowersInAscii v.toList := by
  constructor
  · intro h
    -- the pattern has as many letters as the text at least, so it has the same ones
    have sub := letters_sublist_of_like h
    have pattern : letters (searchPattern v).toList = letters (lowerAfter [] v.toList) := by
      rw [toList_searchPattern, letters_cons_of_wildcard rfl, letters_append]
      exact List.append_nil _
    rw [pattern] at sub
    exact lowersInAscii_of_letters_eq
      (sub.eq_of_length_le (length_letters_le [] v.toList))
  · intro ascii
    exact like_searchPattern_of_infix ascii List.infix_rfl

end Worklist.Text
