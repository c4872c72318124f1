import Worklist.Proofs.Sql.Constant
import Worklist.Sql.Statement

/-!
# The tokens of conditions

What a lexer reads in the text of a condition, from the condition itself: every constant is one
token, and around the constants the tokens are those of the columns and of fixed words and signs.
Parentheses outside of literals are balanced in it.
-/

set_option autoImplicit false

namespace Worklist.Sql

open Lexer

/-! ## Nesting -/

/-- The depth of parentheses behind a token; none if the token closes what was not opened, or hides
what follows it. -/
def Token.nest (n : Nat) : Token → Option Nat
  | .sign '(' => some (n + 1)
  | .sign ')' => if n = 0 then none else some (n - 1)
  | .unclosed _ => none
  | .comment => none
  | _ => some n

/-- The depth of parentheses behind tokens. -/
def depth (n : Nat) (tokens : List Token) : Option Nat :=
  tokens.foldlM Token.nest n

/-- Whether every parenthesis is closed, none is closed before it is opened, and no literal and no
comment hides what follows. -/
def Balanced (tokens : List Token) : Prop :=
  depth 0 tokens = some 0

/-- Whether a token neither nests nor hides anything. -/
def Token.isFlat : Token → Bool
  | .sign c => c != '(' && c != ')'
  | .unclosed _ => false
  | .comment => false
  | _ => true

/-- Tokens in parentheses. -/
def enclosed (tokens : List Token) : List Token :=
  .sign '(' :: (tokens ++ [.sign ')'])

/-- The depth behind two lists of tokens is that of the second behind the first. -/
theorem depth_append (n : Nat) (a b : List Token) :
    depth n (a ++ b) = (depth n a).bind fun m => depth m b :=
  List.foldlM_append

/-- Within outer parentheses tokens nest as they do without. -/
theorem depth_add {tokens : List Token} {n m : Nat} (h : depth n tokens = some m) (k : Nat) :
    depth (n + k) tokens = some (m + k) := by
  induction tokens generalizing n with
  | nil => rw [show n = m from Option.some.inj h]; rfl
  | cons t tokens ih =>
    obtain ⟨inner, ht, h⟩ := Option.bind_eq_some_iff.mp h
    have shifted : t.nest (n + k) = some (inner + k) := by
      unfold Token.nest at ht ⊢
      split at ht
      · rw [← Option.some.inj ht, Nat.add_right_comm]
      · split_ifs at ht with zero
        rw [if_neg (by omega), ← Option.some.inj ht, Nat.sub_add_comm (by omega)]
      · cases ht
      · cases ht
      · rw [← Option.some.inj ht]
    exact Option.bind_eq_some_iff.mpr ⟨inner + k, shifted, ih h⟩

/-- No tokens are balanced. -/
theorem balanced_nil : Balanced [] :=
  rfl

/-- Tokens without brackets are balanced. -/
theorem balanced_of_flat {tokens : List Token} (h : tokens.all Token.isFlat = true) :
    Balanced tokens := by
  induction tokens with
  | nil => rfl
  | cons t tokens ih =>
    rw [List.all_cons, Bool.and_eq_true] at h
    obtain ⟨ht, htokens⟩ := h
    have stays : t.nest 0 = some 0 := by
      unfold Token.nest
      split
      · cases ht
      · cases ht
      · cases ht
      · cases ht
      · rfl
    exact Option.bind_eq_some_iff.mpr ⟨0, stays, ih htokens⟩

/-- Balanced tokens in a row are balanced. -/
theorem Balanced.append {a b : List Token} (ha : Balanced a) (hb : Balanced b) :
    Balanced (a ++ b) := by
  unfold Balanced
  rw [depth_append, ha]
  exact hb

/-- Balanced tokens in brackets are balanced. -/
theorem Balanced.enclosed {tokens : List Token} (h : Balanced tokens) :
    Balanced (enclosed tokens) := by
  have inner : depth 1 (tokens ++ [.sign ')']) = some 0 := by
    rw [depth_append, show depth 1 tokens = some 1 from depth_add h 1]
    rfl
  exact inner

/-- Balanced tokens that balanced ones separate are balanced. -/
theorem balanced_intercalate {separator : List Token} (hs : Balanced separator)
    {l : List (List Token)} (h : ∀ tokens ∈ l, Balanced tokens) :
    Balanced (separator.intercalate l) := by
  induction l with
  | nil => rfl
  | cons a l ih =>
    obtain ⟨ha, hl⟩ := List.forall_mem_cons.mp h
    cases l with
    | nil => rwa [List.intercalate_singleton]
    | cons b l =>
      rw [List.intercalate_cons_cons]
      exact (ha.append hs).append (ih hl)

/-! ## The tokens of a condition -/

/-- A word of the language. -/
def keyword (s : String) : Token :=
  .word s.toList

/-- The tokens of a column. -/
def Column.tokens (d : Dialect) (c : Column) : List Token :=
  lex d c.text

/-- The token of a constant. -/
def Literal.token (d : Dialect) : Literal → Token
  | .text s => .literal s.toList
  | .number x => .number x.literal.toList
  | .whole n => .number (Number.decimal n).toList
  | .boolean b =>
    match d with
    | .postgres => keyword (d.boolean b)
    | _ => .number (d.boolean b).toList

/-- The tokens of what is compared. -/
def Operand.tokens (d : Dialect) : Operand → List Token
  | .column c => c.tokens d
  | .decimal c =>
    keyword "CAST" :: enclosed (c.tokens d ++ [keyword "AS", keyword "DECIMAL"] ++
      enclosed [.number ['6', '0'], .sign ',', .number ['4']])

/-- The tokens of a comparison. -/
def Comparison.tokens : Comparison → List Token
  | .eq => [.sign '=']
  | .ne => [.sign '<', .sign '>']
  | .ge => [.sign '>', .sign '=']
  | .le => [.sign '<', .sign '=']
  | .gt => [.sign '>']

/-- The text that looks up the projects of a user, up to the user. -/
def memberLookup : String :=
  "SELECT members.project_id FROM members WHERE members.user_id = "

namespace Condition

/-- The tokens of a condition. -/
def tokens (d : Dialect) : Condition → List Token
  | .constant holds => [.number (if holds then ['1'] else ['0']), .sign '=', .number ['1']]
  | .isNull c negated =>
    c.tokens d ++
      (if negated then [keyword "IS", keyword "NOT", keyword "NULL"]
        else [keyword "IS", keyword "NULL"])
  | .compare o r l => o.tokens d ++ r.tokens ++ [l.token d]
  | .oneOf c negated values =>
    c.tokens d ++ (if negated then [keyword "NOT", keyword "IN"] else [keyword "IN"]) ++
      enclosed (List.intercalate [.sign ','] (values.map fun l => [l.token d]))
  | .projectOfMember c user =>
    c.tokens d ++ [keyword "IN"] ++
      enclosed (lex d memberLookup ++ [(Literal.whole user).token d])
  | .like c negated pattern =>
    [keyword "LOWER"] ++ enclosed (c.tokens d) ++
      (if negated then [keyword "NOT", keyword "LIKE"] else [keyword "LIKE"]) ++
      [(Literal.text pattern).token d]
  | .between c lower upper =>
    c.tokens d ++ [keyword "BETWEEN", lower.token d, keyword "AND", upper.token d]
  | .both a b => a.tokens d ++ [keyword "AND"] ++ b.tokens d
  | .either a b => a.tokens d ++ [keyword "OR"] ++ b.tokens d
  | .grouped a => enclosed (a.tokens d)
  | .verbatim sql => lex d sql

end Condition

/-- Whether a column is written as a name: it closes and has no parentheses. -/
def Column.Named (d : Dialect) (c : Column) : Prop :=
  Closes d c.text (c.tokens d) ∧ (c.tokens d).all Token.isFlat = true

/-- Whether a condition has columns with names only, and no part that is given as text. -/
def Condition.Structured (d : Dialect) : Condition → Prop
  | .both a b => a.Structured d ∧ b.Structured d
  | .either a b => a.Structured d ∧ b.Structured d
  | .grouped a => a.Structured d
  | .verbatim _ => False
  | c => ∀ column ∈ c.columns, column.Named d

/-! ## Columns that are names -/

/-- The characters of a word continue it. -/
theorem Lexer.read_word (d : Dialect) {word : List Char} (h : ∀ c ∈ word, isWordChar c = true)
    (text rest : List Char) :
    read d (.word text) (word ++ rest) = read d (.word (text ++ word)) rest := by
  induction word generalizing text with
  | nil => rw [List.append_nil, List.nil_append]
  | cons c word ih =>
    obtain ⟨hc, hword⟩ := List.forall_mem_cons.mp h
    rw [List.cons_append, read, step, if_pos hc, List.nil_append, ih hword, List.append_assoc]
    rfl

/-- A column is a name if its text closes with tokens that are flat. -/
theorem Column.named_of_closes {d : Dialect} {c : Column} {tokens : List Token}
    (h : Closes d c.text tokens) (flat : tokens.all Token.isFlat = true) : c.Named d := by
  have same : c.tokens d = tokens := h.lex_eq
  unfold Named
  rw [same]
  exact ⟨h, flat⟩

/-- The column of the values of a custom field is a name. -/
theorem Column.named_customValue (d : Dialect) (id : Int) :
    Column.Named d ⟨.customValues id, "value"⟩ := by
  have chars : (Column.text ⟨.customValues id, "value"⟩).toList =
      ['c', 'v', '_'] ++ ((Number.decimal id).toList ++ ['.', 'v', 'a', 'l', 'u', 'e']) := by
    simp [text, Source.name]
  have digits := isDigits_toDigits id.natAbs
  rw [toList_decimal] at chars
  generalize Nat.toDigits 10 id.natAbs = number at digits chars
  have value {rest : List Char} (h : Delimited rest) :
      read d (.word ['v', 'a', 'l', 'u', 'e']) rest =
        [.word ['v', 'a', 'l', 'u', 'e']] ++ read d .between rest :=
    read_delimited d rfl h
  split_ifs at chars with negative
  · -- The minus sign ends the first word, and the point belongs to the number behind it.
    have closes : Closes d (Column.text ⟨.customValues id, "value"⟩)
        [.word ['c', 'v', '_'], .number ('-' :: number ++ ['.']),
          .word ['v', 'a', 'l', 'u', 'e']] := by
      intro rest hrest
      calc read d .between ((Column.text ⟨.customValues id, "value"⟩).toList ++ rest)
          = .word ['c', 'v', '_'] ::
              read d .minus (number ++ (['.', 'v', 'a', 'l', 'u', 'e'] ++ rest)) := by
            rw [chars, List.append_assoc, List.append_assoc]
            rfl
        _ = .word ['c', 'v', '_'] ::
              read d (.number ('-' :: number) false) (['.', 'v', 'a', 'l', 'u', 'e'] ++ rest) := by
            rw [read_unsigned d digits.isUnsigned .minus ['-'] fun c hc => by
              rw [step, if_pos hc]
              rfl]
            rfl
        _ = .word ['c', 'v', '_'] :: .number ('-' :: number ++ ['.']) ::
              read d (.word ['v', 'a', 'l', 'u', 'e']) rest := rfl
        _ = _ := by
            rw [value hrest]
            rfl
    exact named_of_closes closes rfl
  · have closes : Closes d (Column.text ⟨.customValues id, "value"⟩)
        [.word (['c', 'v', '_'] ++ number), .sign '.', .word ['v', 'a', 'l', 'u', 'e']] := by
      intro rest hrest
      have wordChars : ∀ c ∈ number, isWordChar c = true := fun c hc => by
        simp [isWordChar, Char.isAlphanum, digits.2 c hc]
      calc read d .between ((Column.text ⟨.customValues id, "value"⟩).toList ++ rest)
          = read d (.word ['c', 'v', '_'])
              (number ++ (['.', 'v', 'a', 'l', 'u', 'e'] ++ rest)) := by
            rw [chars, List.append_assoc, List.append_assoc]
            rfl
        _ = .word (['c', 'v', '_'] ++ number) :: .sign '.' ::
              read d (.word ['v', 'a', 'l', 'u', 'e']) rest := by
            rw [read_word d wordChars]
            rfl
        _ = _ := by
            rw [value hrest]
            rfl
    exact named_of_closes closes rfl

/-- The column of the flag of a status is a name. -/
theorem Column.named_isClosed (d : Dialect) : Column.Named d ⟨.statuses, "is_closed"⟩ := by
  have closes : Closes d (Column.text ⟨.statuses, "is_closed"⟩)
      [.word "statuses".toList, .sign '.', .word "is_closed".toList] := by
    cases d <;> exact closes_lex rfl
  exact named_of_closes closes rfl

/-! ## What is read in the text of a condition -/

section Texts

variable {d : Dialect}

/-- The text of a constant is one token. -/
theorem Literal.closes_render (l : Literal) : Closes d (l.render d) [l.token d] := by
  cases l with
  | text s => exact closes_literal d s
  | number x => exact closes_decimal d (isDecimal_literal x)
  | whole n => exact closes_decimal d (isDecimal_decimal n)
  | boolean b => cases d <;> cases b <;> exact closes_lex rfl

/-- The text of an operand closes if its column is a name. -/
theorem Operand.closes_render {o : Operand} (h : o.read.Named d) :
    Closes d (o.render d) (o.tokens d) := by
  cases o with
  | column c => exact h.1
  | decimal c =>
    have named : c.Named d := h
    have opening : Opens d "CAST(" [keyword "CAST", .sign '('] := by
      cases d <;> exact opens_lex rfl
    have closing : Closes d " AS DECIMAL(60,4))"
        [keyword "AS", keyword "DECIMAL", .sign '(', .number ['6', '0'], .sign ',', .number ['4'],
          .sign ')', .sign ')'] := by
      cases d <;> exact closes_lex rfl
    have whole := (opening.append named.1).append closing rfl
    simpa only [render, Dialect.castDecimal, tokens, enclosed, List.append_assoc, List.cons_append,
      List.nil_append] using whole

/-- The text of a condition with a name for each column and no part given as text is read as its
tokens. -/
theorem Condition.closes_text {c : Condition} (h : c.Structured d) :
    Closes d (c.text d) (c.tokens d) := by
  have closing : Closes d ")" [.sign ')'] := by
    cases d <;> exact closes_lex rfl
  induction c with
  | constant holds => cases holds <;> cases d <;> exact closes_lex rfl
  | isNull c negated =>
    have named : c.Named d := h c List.mem_cons_self
    have fixed : Closes d (if negated then " IS NOT NULL" else " IS NULL")
        (if negated then [keyword "IS", keyword "NOT", keyword "NULL"]
          else [keyword "IS", keyword "NULL"]) := by
      cases negated <;> cases d <;> exact closes_lex rfl
    exact named.1.append fixed (by cases negated <;> rfl)
  | compare o r l =>
    have named : o.read.Named d := h o.read List.mem_cons_self
    -- a blank has no token, but it is what ends the operand and the sign
    have blank : Opens d " " [] := by
      cases d <;> exact opens_lex rfl
    have sign : Closes d r.text r.tokens := by
      cases r <;> cases d <;> exact closes_lex rfl
    have compared := ((Operand.closes_render named).append_opens blank rfl).append sign
    have whole := (compared.append_opens blank rfl).append l.closes_render
    simpa only [text, tokens, List.append_nil] using whole
  | oneOf c negated values =>
    have named : c.Named d := h c List.mem_cons_self
    have comma : Opens d "," [.sign ','] := by
      cases d <;> exact opens_lex rfl
    have listed := closes_intercalate comma rfl fun l (_ : l ∈ values) => l.closes_render
    have opening : Opens d (if negated then " NOT IN (" else " IN (")
        ((if negated then [keyword "NOT", keyword "IN"] else [keyword "IN"]) ++ [.sign '(']) := by
      cases negated <;> cases d <;> exact opens_lex rfl
    have opened := named.1.append_opens opening (by cases negated <;> rfl)
    have whole := (opened.append listed).append closing rfl
    simpa only [text, tokens, enclosed, List.append_assoc, List.cons_append,
      List.nil_append] using whole
  | projectOfMember c user =>
    have named : c.Named d := h c List.mem_cons_self
    have opening : Opens d " IN (" [keyword "IN", .sign '('] := by
      cases d <;> exact opens_lex rfl
    have lookup : Opens d memberLookup (lex d memberLookup) := by
      refine opens_lex ?_
      cases d <;> decide +kernel
    have constant : Closes d (Number.decimal user) [(Literal.whole user).token d] :=
      (Literal.whole user).closes_render
    have opened := (named.1.append_opens opening rfl).append (lookup.append constant)
    have whole := opened.append closing rfl
    have head : " IN (SELECT members.project_id FROM members WHERE members.user_id = " =
        " IN (" ++ memberLookup := by decide +kernel
    simpa [text, head, String.append_assoc, tokens, enclosed] using whole
  | like c negated pattern =>
    have named : c.Named d := h c List.mem_cons_self
    have opening : Opens d "LOWER(" [keyword "LOWER", .sign '('] := by
      cases d <;> exact opens_lex rfl
    have lowered := (opening.append named.1).append closing rfl
    have constant : Closes d (d.literal pattern) [(Literal.text pattern).token d] :=
      (Literal.text pattern).closes_render
    have fixed : Opens d (if negated then " NOT LIKE " else " LIKE ")
        (if negated then [keyword "NOT", keyword "LIKE"] else [keyword "LIKE"]) := by
      cases negated <;> cases d <;> exact opens_lex rfl
    have whole := (lowered.append_opens fixed (by cases negated <;> rfl)).append constant
    simpa only [text, tokens, enclosed, List.append_assoc, List.cons_append,
      List.nil_append] using whole
  | between c lower upper =>
    have named : c.Named d := h c List.mem_cons_self
    have first : Opens d " BETWEEN " [keyword "BETWEEN"] := by
      cases d <;> exact opens_lex rfl
    have second : Opens d " AND " [keyword "AND"] := by
      cases d <;> exact opens_lex rfl
    have range := (named.1.append_opens first rfl).append lower.closes_render
    have whole := (range.append_opens second rfl).append upper.closes_render
    simpa [text, tokens] using whole
  | both a b iha ihb =>
    have word : Opens d " AND " [keyword "AND"] := by
      cases d <;> exact opens_lex rfl
    exact ((iha h.1).append_opens word rfl).append (ihb h.2)
  | either a b iha ihb =>
    have word : Opens d " OR " [keyword "OR"] := by
      cases d <;> exact opens_lex rfl
    exact ((iha h.1).append_opens word rfl).append (ihb h.2)
  | grouped a ih =>
    have opening : Opens d "(" [.sign '('] := by
      cases d <;> exact opens_lex rfl
    exact (opening.append (ih h)).append closing rfl
  | verbatim sql => exact h.elim

/-! ## Balance -/

/-- The token of a constant is no bracket. -/
theorem Literal.isFlat_token (l : Literal) : (l.token d).isFlat = true := by
  cases l with
  | boolean b => cases d <;> rfl
  | _ => rfl

/-- The tokens of a condition with a name for each column are balanced. -/
theorem Condition.balanced_tokens {c : Condition} (h : c.Structured d) :
    Balanced (c.tokens d) := by
  have column {c : Column} (named : c.Named d) : Balanced (c.tokens d) :=
    balanced_of_flat named.2
  have constant (l : Literal) : Balanced [l.token d] :=
    balanced_of_flat (by rw [List.all_cons, l.isFlat_token]; rfl)
  induction c with
  | constant holds => exact rfl
  | isNull c negated =>
    have words : Balanced (if negated then [keyword "IS", keyword "NOT", keyword "NULL"]
        else [keyword "IS", keyword "NULL"]) := by
      cases negated <;> rfl
    exact (column (h c List.mem_cons_self)).append words
  | compare o r l =>
    have operand : Balanced (o.tokens d) := by
      have named : o.read.Named d := h o.read List.mem_cons_self
      cases o with
      | column c => exact column named
      | decimal c =>
        have type : Balanced ([keyword "AS", keyword "DECIMAL"] ++
            enclosed [.number ['6', '0'], .sign ',', .number ['4']]) := rfl
        have word : Balanced [keyword "CAST"] := rfl
        have inner := ((column named).append type).enclosed
        rw [← List.append_assoc] at inner
        exact word.append inner
    have sign : Balanced r.tokens := by
      cases r <;> rfl
    exact (operand.append sign).append (constant l)
  | oneOf c negated values =>
    have words : Balanced (if negated then [keyword "NOT", keyword "IN"] else [keyword "IN"]) := by
      cases negated <;> rfl
    have listed : Balanced (List.intercalate [.sign ','] (values.map fun l => [l.token d])) := by
      have comma : Balanced [.sign ','] := rfl
      refine balanced_intercalate comma fun tokens mem => ?_
      obtain ⟨l, -, rfl⟩ := List.mem_map.mp mem
      exact constant l
    exact ((column (h c List.mem_cons_self)).append words).append listed.enclosed
  | projectOfMember c user =>
    have word : Balanced [keyword "IN"] := rfl
    have lookup : Balanced (lex d memberLookup) := by
      cases d <;> rfl
    have inner := (lookup.append (constant (.whole user))).enclosed
    exact ((column (h c List.mem_cons_self)).append word).append inner
  | like c negated pattern =>
    have lower : Balanced [keyword "LOWER"] := rfl
    have words : Balanced (if negated then [keyword "NOT", keyword "LIKE"]
        else [keyword "LIKE"]) := by
      cases negated <;> rfl
    have lowered := lower.append (column (h c List.mem_cons_self)).enclosed
    exact (lowered.append words).append (constant (.text pattern))
  | between c lower upper =>
    have first : Balanced [keyword "BETWEEN"] := rfl
    have second : Balanced [keyword "AND"] := rfl
    have range := ((first.append (constant lower)).append second).append (constant upper)
    exact (column (h c List.mem_cons_self)).append range
  | both a b iha ihb =>
    have word : Balanced [keyword "AND"] := rfl
    exact ((iha h.1).append word).append (ihb h.2)
  | either a b iha ihb =>
    have word : Balanced [keyword "OR"] := rfl
    exact ((iha h.1).append word).append (ihb h.2)
  | grouped a ih => exact (ih h).enclosed
  | verbatim sql => exact h.elim

end Texts

end Worklist.Sql
