import Mathlib.Data.List.Chain
import Worklist.Json.Token
import Worklist.Json.Writer
import Worklist.Proofs.Number.Decimal

/-!
# Spellings of JSON tokens

A token may be written in several ways: a character of a text stands for itself or is escaped, by a
letter or by number, and there may be blanks between tokens. In whichever of these ways a text is
laid out, it is cut into the tokens that it was written from.
-/

set_option autoImplicit false

namespace Worklist.Json

/-! ## Texts -/

/-- How a character may stand between the quotes of a text: as itself, escaped by a letter, escaped
by its number, or escaped by the numbers of its two surrogates. -/
inductive SpellsChar : List Char → Char → Prop where
  | plain {c : Char} (printable : 0x20 ≤ c.toNat) (noQuote : c ≠ '"') (noEscape : c ≠ '\\') :
      SpellsChar [c] c
  | letter {e c : Char} (h : plainEscape? e = some c) : SpellsChar ['\\', e] c
  | number {a b c d : Char} {n : Nat} (h : hexValue? a b c d = some n)
      (alone : n < 0xD800 ∨ 0xDFFF < n) : SpellsChar ['\\', 'u', a, b, c, d] (Char.ofNat n)
  | surrogates {a b c d e f g h : Char} {lead trail : Nat} (first : hexValue? a b c d = some lead)
      (second : hexValue? e f g h = some trail) (leads : 0xD800 ≤ lead ∧ lead ≤ 0xDBFF)
      (trails : 0xDC00 ≤ trail ∧ trail ≤ 0xDFFF) :
      SpellsChar ['\\', 'u', a, b, c, d, '\\', 'u', e, f, g, h]
        (Char.ofNat ((lead - 0xD800) * 0x400 + (trail - 0xDC00) + 0x10000))

/-- How characters may stand between the quotes of a text. -/
inductive SpellsText : List Char → List Char → Prop where
  | nil : SpellsText [] []
  | cons {spelled rest : List Char} {c : Char} {text : List Char} (head : SpellsChar spelled c)
      (tail : SpellsText rest text) : SpellsText (spelled ++ rest) (c :: text)

/-- A printable character other than the quote and the backslash is taken as it is. -/
theorem scanText_plain {c : Char} (printable : 0x20 ≤ c.toNat) (noQuote : c ≠ '"')
    (noEscape : c ≠ '\\') (s : TextState) (rest : List Char) :
    scanText s (c :: rest) = scanText (s.push c) rest := by
  rw [scanText.eq_def]
  split
  · rename_i equal
    cases equal
  · rename_i equal
    exact absurd (List.cons.inj equal).1 noQuote
  -- The four forms of an escape all start with a backslash.
  iterate 4
    · rename_i equal
      exact absurd (List.cons.inj equal).1 noEscape
  · rename_i equal
    obtain ⟨rfl, rfl⟩ := List.cons.inj equal
    rw [if_neg (Nat.not_lt.mpr printable)]

namespace TextState

/-- A code unit that is no half of a pair is a character by itself. -/
theorem pushCode_alone (before : List Char) {n : Nat} (alone : n < 0xD800 ∨ 0xDFFF < n) :
    pushCode ⟨before, none, none⟩ n = ⟨Char.ofNat n :: before, none, none⟩ := by
  unfold pushCode
  dsimp only
  rw [if_neg (by omega), if_neg (by omega)]

/-- The first half of a pair waits for the second one. -/
theorem pushCode_lead (before : List Char) {lead : Nat} (leads : 0xD800 ≤ lead ∧ lead ≤ 0xDBFF) :
    pushCode ⟨before, none, none⟩ lead = ⟨before, some lead, none⟩ := by
  unfold pushCode
  dsimp only
  rw [if_neg (by omega), if_pos leads]

/-- The second half of a pair completes the character that the first one began. -/
theorem pushCode_trail (before : List Char) (lead : Nat) {trail : Nat}
    (trails : 0xDC00 ≤ trail ∧ trail ≤ 0xDFFF) :
    pushCode ⟨before, some lead, none⟩ trail =
      ⟨Char.ofNat ((lead - 0xD800) * 0x400 + (trail - 0xDC00) + 0x10000) :: before, none,
        none⟩ := by
  unfold pushCode
  dsimp only
  rw [if_pos trails]

end TextState

/-- Whichever way a character is spelled, it is scanned as itself. -/
theorem scanText_char {spelled : List Char} {c : Char} (h : SpellsChar spelled c)
    (before rest : List Char) :
    scanText ⟨before, none, none⟩ (spelled ++ rest) = scanText ⟨c :: before, none, none⟩ rest := by
  cases h with
  | plain printable noQuote noEscape => exact scanText_plain printable noQuote noEscape _ rest
  | letter own =>
    unfold plainEscape? at own
    split at own <;> cases own <;> rfl
  | number own alone =>
    rename_i a b c d n
    show scanText ⟨before, none, none⟩ ('\\' :: 'u' :: a :: b :: c :: d :: rest) = _
    rw [scanText, own]
    exact congrArg (scanText · rest) (TextState.pushCode_alone before alone)
  | surrogates first second leads trails =>
    rename_i a b c d e f g h lead trail
    show scanText ⟨before, none, none⟩ ('\\' :: 'u' :: a :: b :: c :: d ::
      '\\' :: 'u' :: e :: f :: g :: h :: rest) = _
    rw [scanText, first]
    show scanText (TextState.pushCode ⟨before, none, none⟩ lead)
      ('\\' :: 'u' :: e :: f :: g :: h :: rest) = _
    rw [TextState.pushCode_lead before leads, scanText, second]
    exact congrArg (scanText · rest) (TextState.pushCode_trail before lead trails)

/-- A text is scanned up to its closing quote as the characters that are meant. -/
theorem scanText_text {spelled text : List Char} (h : SpellsText spelled text)
    (before rest : List Char) :
    scanText ⟨before, none, none⟩ (spelled ++ '"' :: rest) =
      .ok (.text (.ok (String.ofList (before.reverse ++ text))), rest) := by
  induction h generalizing before with
  | nil =>
    rw [List.nil_append, scanText, List.append_nil]
    rfl
  | cons head _ ih =>
    rw [List.append_assoc, scanText_char head, ih, List.reverse_cons, List.append_assoc]
    rfl

/-- The number of a control character is written with four hexadecimal digits. -/
theorem fourHexDigits_control : ∀ n < 0x20,
    fourHexDigits n = ['0', '0', (n / 16).digitChar, (n % 16).digitChar] ∧
      hexValue? '0' '0' (n / 16).digitChar (n % 16).digitChar = some n := by
  decide

/-- What is written for a character spells it. -/
theorem spellsChar_writeChar (c : Char) : SpellsChar (writeChar c) c := by
  unfold writeChar
  split_ifs with quote slash backspace feed newline carriage tab control
  · rw [quote]
    exact .letter rfl
  · rw [slash]
    exact .letter rfl
  · exact backspace ▸ .letter rfl
  · exact feed ▸ .letter rfl
  · exact newline ▸ .letter rfl
  · exact carriage ▸ .letter rfl
  · exact tab ▸ .letter rfl
  · obtain ⟨digits, value⟩ := fourHexDigits_control c.toNat control
    have spelled := SpellsChar.number value (Or.inl (by omega))
    rw [Char.ofNat_toNat] at spelled
    rw [digits]
    exact spelled
  · exact .plain (Nat.le_of_not_lt control) quote slash

/-- A text as it is written. -/
theorem spellsText_write (text : List Char) : SpellsText (text.flatMap writeChar) text := by
  induction text with
  | nil => exact .nil
  | cons c text ih => exact .cons (spellsChar_writeChar c) ih

/-! ## Whole numbers -/

/-- The value of a whole number. -/
def Numeric.ofWhole (n : Int) : Numeric :=
  if n < 0 then .negative n else .natural n.natAbs

/-- The digits of a positive number do not start with a zero. -/
theorem toDigits_leading {n : Nat} (positive : 0 < n) :
    ∃ c rest, Nat.toDigits 10 n = c :: rest ∧ c ≠ '0' := by
  induction n using Nat.strong_induction_on with
  | _ n ih =>
    by_cases small : n < 10
    · have digit : ∀ n < 10, 0 < n → n.digitChar ≠ '0' := by decide
      exact ⟨_, [], Nat.toDigits_of_lt_base small, digit n small positive⟩
    · obtain ⟨c, rest, split, leading⟩ := ih (n / 10) (by omega) (by omega)
      refine ⟨c, rest ++ [(n % 10).digitChar], ?_, leading⟩
      rw [Nat.toDigits_of_base_le (by decide) (by omega), split, List.cons_append]

/-- Further digits make no number smaller. -/
theorem le_ofDigitChars (digits : List Char) (value : Nat) :
    value ≤ Nat.ofDigitChars 10 digits value := by
  induction digits generalizing value with
  | nil => exact Nat.le_refl value
  | cons c digits ih =>
    have rest := ih (10 * value + (c.toNat - '0'.toNat))
    rw [Nat.ofDigitChars_cons]
    omega

/-- Digits are absorbed to the last one as long as their number is in the range. -/
theorem absorbDigits_all {digits : List Char} {value : Nat}
    (h : Nat.ofDigitChars 10 digits value ≤ Number.maxUInt64) :
    absorbDigits value digits = (Nat.ofDigitChars 10 digits value, []) := by
  induction digits generalizing value with
  | nil => rfl
  | cons c digits ih =>
    rw [Nat.ofDigitChars_cons] at h ⊢
    have step := le_ofDigitChars digits (10 * value + (c.toNat - '0'.toNat))
    have within : ¬Number.maxUInt64 < 10 * value + (c.toNat - 48) :=
      Nat.not_lt.mpr (Nat.le_trans step h)
    unfold absorbDigits
    rw [if_neg within]
    exact ih h

/-- Whether a character would go on with the digits of a whole number. -/
def extendsWhole (c : Char) : Bool :=
  c.isDigit || c == '.' || c == 'e' || c == 'E'

/-- The digits before a point end where something else follows. -/
theorem scanWhole_digits {m : Nat} {rest : List Char}
    (apart : ∀ c ∈ rest.head?, c.isDigit = false) :
    scanWhole (Nat.toDigits 10 m ++ rest) = .ok (Nat.toDigits 10 m, rest) := by
  have digits := Sql.isDigits_toDigits m
  have ends : rest.takeWhile Char.isDigit = [] ∧ rest.dropWhile Char.isDigit = rest := by
    cases rest with
    | nil => exact ⟨rfl, rfl⟩
    | cons c rest => simp [apart c rfl]
  have taken : (Nat.toDigits 10 m ++ rest).takeWhile Char.isDigit = Nat.toDigits 10 m := by
    rw [List.takeWhile_append_of_pos digits.2, ends.1, List.append_nil]
  have left : (Nat.toDigits 10 m ++ rest).dropWhile Char.isDigit = rest := by
    rw [List.dropWhile_append_of_pos digits.2, ends.2]
  unfold scanWhole
  rw [taken, left]
  rcases Nat.eq_zero_or_pos m with rfl | positive
  · rfl
  · obtain ⟨c, others, split, leading⟩ := toDigits_leading positive
    rw [split]
    dsimp only
    split
    · rename_i equal
      cases equal
    · rename_i equal
      exact absurd (List.cons.inj equal).1 leading
    · rfl

/-- The digits of a number are scanned up to what does not go on with them. -/
theorem scanNumber_digits {m : Nat} {rest : List Char}
    (apart : ∀ c ∈ rest.head?, extendsWhole c = false) (negative : Bool) :
    scanNumber negative (Nat.toDigits 10 m ++ rest) =
      .ok (.number (Numeric.ofParts negative (Nat.toDigits 10 m) none none), rest) := by
  have other : ∀ c ∈ rest.head?, c.isDigit = false ∧ c ≠ '.' ∧ c ≠ 'e' ∧ c ≠ 'E' := by
    intro c hc
    have own := apart c hc
    simp only [extendsWhole, Bool.or_eq_false_iff, beq_eq_false_iff_ne] at own
    exact ⟨own.1.1.1, own.1.1.2, own.1.2, own.2⟩
  have fraction : scanFraction? rest = .ok (none, rest) := by
    unfold scanFraction?
    split
    · exact absurd rfl (other _ rfl).2.1
    · rfl
  have power : scanPower? rest = .ok (none, rest) := by
    unfold scanPower?
    split
    · exact absurd rfl (other _ rfl).2.2.1
    · exact absurd rfl (other _ rfl).2.2.2
    · rfl
  unfold scanNumber
  rw [scanWhole_digits fun c hc => (other c hc).1]
  simp only [bind, Except.bind]
  rw [fraction]
  simp only
  rw [power]
  rfl

/-- A whole number of 64 bits is scanned as itself. -/
theorem ofParts_decimal {n : Int} (wide : Number.isInt64 n = true) :
    Numeric.ofParts (decide (n < 0)) (Nat.toDigits 10 n.natAbs) none none =
      .ok (Numeric.ofWhole n) := by
  have range := Number.isInt64_iff.mp wide
  have value : Nat.ofDigitChars 10 (Nat.toDigits 10 n.natAbs) 0 = n.natAbs :=
    digitsValue_toDigits n.natAbs
  have bound : n.natAbs ≤ 9223372036854775808 := by
    unfold Number.minInt64 Number.maxInt64 at range
    omega
  have absorbed : absorbDigits 0 (Nat.toDigits 10 n.natAbs) = (n.natAbs, []) := by
    have few : Nat.ofDigitChars 10 (Nat.toDigits 10 n.natAbs) 0 ≤ Number.maxUInt64 := by
      rw [value]
      exact Nat.le_trans bound (by decide)
    rw [absorbDigits_all few, value]
  unfold Numeric.ofParts Numeric.ofWhole
  rw [absorbed]
  by_cases negative : n < 0
  · have power : Number.twoTo 63 = 9223372036854775808 := by decide
    have least : ¬(n.natAbs = 0 ∨ Number.twoTo 63 < n.natAbs) := by
      rw [power]
      omega
    have same : -(n.natAbs : Int) = n := by omega
    rw [decide_eq_true negative, if_pos negative]
    show (if n.natAbs = 0 ∨ Number.twoTo 63 < n.natAbs then _
      else Except.ok (Numeric.negative (-(n.natAbs : Int)))) = _
    rw [if_neg least, same]
  · rw [decide_eq_false negative, if_neg negative]
    rfl

/-! ## Tokens -/

/-- How a token may be written, blanks around it aside. -/
inductive SpellsToken : List Char → Token → Prop where
  | openList : SpellsToken ['['] .openList
  | closeList : SpellsToken [']'] .closeList
  | openObject : SpellsToken ['\x7b'] .openObject
  | closeObject : SpellsToken ['\x7d'] .closeObject
  | comma : SpellsToken [','] .comma
  | colon : SpellsToken [':'] .colon
  | null : SpellsToken ['n', 'u', 'l', 'l'] .null
  | yes : SpellsToken ['t', 'r', 'u', 'e'] (.boolean true)
  | no : SpellsToken ['f', 'a', 'l', 's', 'e'] (.boolean false)
  | text {spelled text : List Char} (h : SpellsText spelled text) :
      SpellsToken ('"' :: (spelled ++ ['"'])) (.text (.ok (String.ofList text)))
  | whole {n : Int} (wide : Number.isInt64 n = true) :
      SpellsToken (Number.decimal n).toList (.number (.ok (.ofWhole n)))

/-- Whether a token is a number, whose end shows only by what follows it. -/
def Token.isNumber : Token → Bool
  | .number _ => true
  | _ => false

/-- Whether a token may follow a value. -/
def Token.followsValue : Token → Bool
  | .comma => true
  | .closeList => true
  | .closeObject => true
  | _ => false

/-- Whether a token may stand right behind another: nothing else but the end of an item or a member
stands behind a number. -/
def Token.MayPrecede (t u : Token) : Prop :=
  t.isNumber = true → u.followsValue = true

/-- No digit is white space. -/
theorem not_isSpace_of_isDigit {c : Char} (h : c.isDigit = true) : isSpace c = false := by
  cases space : isSpace c with
  | false => rfl
  | true =>
    simp only [isSpace, Bool.or_eq_true, beq_iff_eq] at space
    rcases space with ((rfl | rfl) | rfl) | rfl <;> cases h

/-- A digit begins a number. -/
theorem scanToken_digit {c : Char} (h : c.isDigit = true) (rest : List Char) :
    scanToken c rest = scanNumber false (c :: rest) := by
  unfold scanToken
  split
  -- No other token starts with a digit.
  iterate 11
    · cases h
  · exact if_pos h

/-- However it is written, a token is scanned, if what follows does not go on with a number. -/
theorem scanToken_spelled {spelled : List Char} {t : Token} (h : SpellsToken spelled t)
    {rest : List Char}
    (apart : t.isNumber = true → ∀ c ∈ rest.head?, extendsWhole c = false) :
    ∃ c others, spelled = c :: others ∧ isSpace c = false ∧
      scanToken c (others ++ rest) = .ok (t, rest) := by
  cases h with
  | text own =>
    refine ⟨_, _, rfl, rfl, ?_⟩
    rw [List.append_assoc]
    exact scanText_text own [] rest
  | whole wide =>
    rename_i n
    have scanned := scanNumber_digits (m := n.natAbs) (apart rfl)
    have value := ofParts_decimal wide
    rw [Sql.toList_decimal]
    by_cases negative : n < 0
    · rw [decide_eq_true negative] at value
      refine ⟨'-', _, if_pos negative, rfl, ?_⟩
      show scanNumber true _ = _
      rw [scanned, value]
    · rw [decide_eq_false negative] at value
      rw [if_neg negative]
      obtain ⟨c, others, split, digit⟩ := (Sql.isDigits_toDigits n.natAbs).exists_cons
      rw [split] at scanned value
      refine ⟨c, others, split, not_isSpace_of_isDigit digit, ?_⟩
      rw [scanToken_digit digit, ← List.cons_append, scanned, value]
  | _ => exact ⟨_, _, rfl, rfl, rfl⟩

/-- How tokens may be laid out: one after the other, with blanks around them. -/
inductive Laid : List Char → List Token → Prop where
  | nil {blanks : List Char} (free : ∀ c ∈ blanks, isSpace c = true) : Laid blanks []
  | cons {blanks spelled rest : List Char} {t : Token} {ts : List Token}
      (free : ∀ c ∈ blanks, isSpace c = true) (head : SpellsToken spelled t)
      (tail : Laid rest ts) : Laid (blanks ++ (spelled ++ rest)) (t :: ts)

/-- White space ends a whole number. -/
theorem not_extendsWhole_of_isSpace {c : Char} (h : isSpace c = true) :
    extendsWhole c = false := by
  simp only [isSpace, Bool.or_eq_true, beq_iff_eq] at h
  rcases h with ((rfl | rfl) | rfl) | rfl <;> decide

/-- What is laid out behind a number does not go on with it. -/
theorem Laid.apart {cs : List Char} {ts : List Token} (h : Laid cs ts)
    (follows : ∀ t ∈ ts.head?, t.followsValue = true) :
    ∀ c ∈ cs.head?, extendsWhole c = false := by
  intro c hc
  cases h with
  | nil free => exact not_extendsWhole_of_isSpace (free c (List.mem_of_mem_head? hc))
  | cons free head tail =>
    rename_i blanks spelled rest t ts
    cases blanks with
    | cons b blanks =>
      rw [← Option.some.inj hc]
      exact not_extendsWhole_of_isSpace (free b List.mem_cons_self)
    | nil =>
      have own : t.followsValue = true := follows t rfl
      cases head with
      | closeList | closeObject | comma =>
        rw [← Option.some.inj hc]
        decide
      | _ => cases own

/-- White space alone adds no token. -/
theorem tokensOnto_of_blanks {cs : List Char} (free : ∀ c ∈ cs, isSpace c = true)
    (done : List Token) : tokensOnto done cs = done := by
  have nothing := List.dropWhile_eq_nil_iff.mpr free
  unfold tokensOnto
  split
  · rfl
  · rename_i some
    cases nothing.symm.trans some

/-- The token that stands behind the white space is added before those behind it. -/
theorem tokensOnto_of_scanToken {cs rest rest' : List Char} {c : Char} {t : Token}
    (start : cs.dropWhile isSpace = c :: rest) (scanned : scanToken c rest = .ok (t, rest'))
    (done : List Token) : tokensOnto done cs = tokensOnto (t :: done) rest' := by
  rw [tokensOnto]
  split
  · rename_i nothing
    cases start.symm.trans nothing
  · rename_i some
    obtain ⟨rfl, rfl⟩ := List.cons.inj (start.symm.trans some)
    split
    · rename_i failed
      cases scanned.symm.trans failed
    · rename_i found
      cases scanned.symm.trans found
      rfl

/-- Tokens are scanned from a text in which they are laid out. -/
theorem tokensOnto_laid {cs : List Char} {ts : List Token} (h : Laid cs ts)
    (chain : ts.IsChain Token.MayPrecede) (done : List Token) :
    tokensOnto done cs = ts.reverse ++ done := by
  induction h generalizing done with
  | nil free => exact tokensOnto_of_blanks free done
  | cons free head tail ih =>
    rename_i blanks spelled rest t ts
    obtain ⟨next, further⟩ := List.isChain_cons.mp chain
    have apart : t.isNumber = true → ∀ c ∈ rest.head?, extendsWhole c = false :=
      fun number => tail.apart fun u first => next u first number
    obtain ⟨c, others, split, visible, scanned⟩ := scanToken_spelled head apart
    have start : (blanks ++ (spelled ++ rest)).dropWhile isSpace = c :: (others ++ rest) := by
      rw [List.dropWhile_append_of_pos free, split, List.cons_append,
        List.dropWhile_cons_of_neg (by simp [visible])]
    rw [tokensOnto_of_scanToken start scanned, ih further, List.reverse_cons, List.append_assoc]
    rfl

/-- A text is cut into the tokens that are laid out in it. -/
theorem tokens_laid {s : String} {ts : List Token} (h : Laid s.toList ts)
    (chain : ts.IsChain Token.MayPrecede) : tokens s = ts := by
  unfold tokens
  rw [tokensOnto_laid h chain, List.append_nil, List.reverse_reverse]

/-! ## Writing -/

/-- How a token is written. -/
def Token.write : Token → List Char
  | .openList => ['[']
  | .closeList => [']']
  | .openObject => ['\x7b']
  | .closeObject => ['\x7d']
  | .comma => [',']
  | .colon => [':']
  | .null => ['n', 'u', 'l', 'l']
  | .boolean true => ['t', 'r', 'u', 'e']
  | .boolean false => ['f', 'a', 'l', 's', 'e']
  | .number (.ok (.natural n)) => (Number.decimal n).toList
  | .number (.ok (.negative n)) => (Number.decimal n).toList
  | .text (.ok s) => (writeText s).toList
  | _ => []

/-- Whether a token is one that is written: a number is whole and has 64 bits, and every text and
number has a value. -/
def Token.isWritable : Token → Bool
  | .number (.ok (.natural n)) => Number.isInt64 n
  | .number (.ok (.negative n)) => Number.isInt64 n && decide (n < 0)
  | .number _ => false
  | .text (.ok _) => true
  | .text (.error _) => false
  | .broken _ _ => false
  | _ => true

/-- What is written for a text spells the token of the text. -/
theorem spellsToken_writeText (s : String) :
    SpellsToken (writeText s).toList (.text (.ok s)) := by
  have spelled := SpellsToken.text (spellsText_write s.toList)
  rw [String.ofList_toList] at spelled
  unfold writeText
  rw [String.toList_ofList]
  exact spelled

/-- What is written for a token spells it. -/
theorem spellsToken_write {t : Token} (h : t.isWritable = true) : SpellsToken t.write t := by
  cases t with
  | openList => exact .openList
  | closeList => exact .closeList
  | openObject => exact .openObject
  | closeObject => exact .closeObject
  | comma => exact .comma
  | colon => exact .colon
  | null => exact .null
  | boolean b =>
    cases b with
    | true => exact .yes
    | false => exact .no
  | number value =>
    rcases value with fault | (n | n | x)
    · cases h
    · have spelled := SpellsToken.whole h
      rw [Numeric.ofWhole, if_neg (by omega), Int.natAbs_natCast] at spelled
      exact spelled
    · simp only [Token.isWritable, Bool.and_eq_true, decide_eq_true_eq] at h
      have spelled := SpellsToken.whole h.1
      rw [Numeric.ofWhole, if_pos h.2] at spelled
      exact spelled
    · cases h
  | text value =>
    cases value with
    | error fault => cases h
    | ok s => exact spellsToken_writeText s
  | broken => cases h

/-- Tokens that are written one after the other are laid out. -/
theorem laid_write {ts : List Token} (h : ∀ t ∈ ts, t.isWritable = true) :
    Laid (ts.flatMap Token.write) ts := by
  induction ts with
  | nil => exact .nil (by simp)
  | cons t ts ih =>
    obtain ⟨first, rest⟩ := List.forall_mem_cons.mp h
    exact Laid.cons (by simp : ∀ c ∈ [], isSpace c = true) (spellsToken_write first) (ih rest)

end Worklist.Json
