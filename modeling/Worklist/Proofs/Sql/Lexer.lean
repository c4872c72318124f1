import Worklist.Sql.Dialect

/-!
# Reading SQL

A lexer for the three dialects. It goes through a text character by character and holds what it has
of the current token. A literal ends at a quote that no other quote follows, and where the dialect
gives a backslash a meaning, the character behind it belongs to the literal. A minus sign and the
digits behind it are one constant. Outside of literals the mark of a comment hides what follows it.

A text closes if the lexer, wherever a delimiter follows the text, has read the same tokens and goes
on as from the start; it is open at its end if this holds whatever follows.
-/

set_option autoImplicit false

namespace Worklist.Sql

/-- A token of a statement. -/
inductive Token where
  | word (text : List Char)
  | number (text : List Char)
  /-- A text literal, by what it stands for. -/
  | literal (content : List Char)
  | sign (c : Char)
  /-- A text literal without an end. -/
  | unclosed (content : List Char)
  /-- A comment; it reaches to the end of the text. -/
  | comment
  deriving DecidableEq, Repr

/-- Where a lexer stands, with what it has read of the current token. -/
inductive Mode where
  | between
  | word (text : List Char)
  | minus
  | slash
  /-- A number; right behind the mark of its exponent a sign belongs to it. -/
  | number (text : List Char) (marked : Bool)
  | literal (content : List Char)
  /-- In a literal, behind a backslash. -/
  | escaped (content : List Char)
  /-- In a literal, behind a quote that may be its end. -/
  | quoted (content : List Char)
  | comment
  deriving DecidableEq, Repr

namespace Lexer

/-- Whether a character can stand in a word. -/
def isWordChar (c : Char) : Bool :=
  c.isAlphanum || c == '_'

/-- What a character starts. -/
def start (d : Dialect) (c : Char) : List Token × Mode :=
  if c = ' ' then ([], .between)
  else if c = '\'' then ([], .literal [])
  else if c = '-' then ([], .minus)
  else if c = '/' then ([], .slash)
  else if c = '#' ∧ d = .mysql then ([], .comment)
  else if c.isDigit then ([], .number [c] false)
  else if isWordChar c then ([], .word [c])
  else ([.sign c], .between)

/-- The token that ends where the lexer stands, if there is one. -/
def flush : Mode → List Token
  | .between => []
  | .word text => [.word text]
  | .minus => [.sign '-']
  | .slash => [.sign '/']
  | .number text _ => [.number text]
  | .literal content => [.unclosed content]
  | .escaped content => [.unclosed content]
  | .quoted content => [.literal content]
  | .comment => [.comment]

/-- Ends the current token and starts what the character starts. -/
def startAfter (d : Dialect) (m : Mode) (c : Char) : List Token × Mode :=
  (flush m ++ (start d c).1, (start d c).2)

/-- Reads one character. -/
def step (d : Dialect) (m : Mode) (c : Char) : List Token × Mode :=
  match m with
  | .between => start d c
  | .word text => if isWordChar c then ([], .word (text ++ [c])) else startAfter d m c
  | .minus =>
    if c.isDigit then ([], .number ['-', c] false)
    else if c = '-' then ([], .comment)
    else startAfter d m c
  | .slash => if c = '*' then ([], .comment) else startAfter d m c
  | .number text marked =>
    if c.isDigit || c == '.' then ([], .number (text ++ [c]) false)
    else if c == 'e' then ([], .number (text ++ [c]) true)
    else if marked && (c == '-' || c == '+') then ([], .number (text ++ [c]) false)
    else startAfter d m c
  | .literal content =>
    if c = '\'' then ([], .quoted content)
    else if d = .mysql ∧ c = '\\' then ([], .escaped content)
    else ([], .literal (content ++ [c]))
  | .escaped content => ([], .literal (content ++ [c]))
  | .quoted content => if c = '\'' then ([], .literal (content ++ ['\''])) else startAfter d m c
  | .comment => ([], .comment)

/-- The tokens of a text, from where the lexer stands. -/
def read (d : Dialect) : Mode → List Char → List Token
  | m, [] => flush m
  | m, c :: rest => (step d m c).1 ++ read d (step d m c).2 rest

/-- The tokens that are complete when the lexer has read a text. -/
def emitted (d : Dialect) : Mode → List Char → List Token
  | _, [] => []
  | m, c :: rest => (step d m c).1 ++ emitted d (step d m c).2 rest

/-- Where the lexer stands when it has read a text. -/
def after (d : Dialect) : Mode → List Char → Mode
  | m, [] => m
  | m, c :: rest => after d (step d m c).2 rest

end Lexer

open Lexer

/-- The tokens of a text. -/
def lex (d : Dialect) (s : String) : List Token :=
  read d .between s.toList

/-! ## Reading one text after another -/

namespace Lexer

/-- Reading two texts in a row reads the first, and then the second in the mode that is left. -/
theorem read_append (d : Dialect) (m : Mode) (s t : List Char) :
    read d m (s ++ t) = emitted d m s ++ read d (after d m s) t := by
  induction s generalizing m with
  | nil => rfl
  | cons c s ih =>
    rw [List.cons_append, read, ih, emitted, after, List.append_assoc]

/-- What is read is what is complete behind the text, and the token that ends there. -/
theorem read_eq (d : Dialect) (m : Mode) (s : List Char) :
    read d m s = emitted d m s ++ flush (after d m s) := by
  have whole := read_append d m s []
  rwa [List.append_nil] at whole

/-- Whether the lexer is neither inside a literal nor inside a comment. -/
def isOutside : Mode → Bool
  | .literal _ => false
  | .escaped _ => false
  | .comment => false
  | _ => true

/-- Whether a character ends every token outside of literals. -/
def isDelimiter (c : Char) : Bool :=
  [' ', '(', ')', ',', '=', '<', '>'].contains c

/-- A delimiter ends the token before it. -/
theorem step_delimiter (d : Dialect) {m : Mode} (outside : isOutside m = true) {c : Char}
    (hc : isDelimiter c = true) : step d m c = startAfter d m c := by
  have cases : c = ' ' ∨ c = '(' ∨ c = ')' ∨ c = ',' ∨ c = '=' ∨ c = '<' ∨ c = '>' := by
    simpa [isDelimiter] using hc
  cases m with
  | between => rfl
  | word text => rcases cases with rfl | rfl | rfl | rfl | rfl | rfl | rfl <;> rfl
  | minus => rcases cases with rfl | rfl | rfl | rfl | rfl | rfl | rfl <;> rfl
  | slash => rcases cases with rfl | rfl | rfl | rfl | rfl | rfl | rfl <;> rfl
  | number text marked =>
    rcases cases with rfl | rfl | rfl | rfl | rfl | rfl | rfl <;> simp [step]
  | literal content => cases outside
  | escaped content => cases outside
  | quoted content => rcases cases with rfl | rfl | rfl | rfl | rfl | rfl | rfl <;> rfl
  | comment => cases outside

/-- Whether a text is empty or starts with a delimiter. -/
def Delimited (rest : List Char) : Prop :=
  rest.head?.all isDelimiter = true

/-- Outside of literals a delimiter is read as from the start. -/
theorem read_delimited (d : Dialect) {m : Mode} (outside : isOutside m = true) {rest : List Char}
    (h : Delimited rest) : read d m rest = flush m ++ read d .between rest := by
  cases rest with
  | nil => exact (List.append_nil _).symm
  | cons c rest =>
    rw [read, step_delimiter d outside h, read]
    unfold startAfter
    exact List.append_assoc _ _ _

end Lexer

/-! ## Texts and their tokens -/

/-- Whether a text has been read as some tokens wherever a delimiter follows it. -/
def Closes (d : Dialect) (s : String) (tokens : List Token) : Prop :=
  ∀ rest, Delimited rest → read d .between (s.toList ++ rest) = tokens ++ read d .between rest

/-- Whether a text has been read as some tokens whatever follows it. -/
def Opens (d : Dialect) (s : String) (tokens : List Token) : Prop :=
  ∀ rest, read d .between (s.toList ++ rest) = tokens ++ read d .between rest

section Texts

variable {d : Dialect} {s t : String} {tokens tokens' : List Token}

/-- A text that closes is lexed as its tokens. -/
theorem Closes.lex_eq (h : Closes d s tokens) : lex d s = tokens := by
  have whole := h [] rfl
  rw [List.append_nil] at whole
  exact whole.trans (List.append_nil _)

/-- A text behind which the lexer is outside of literals closes. -/
theorem closes_lex (h : isOutside (after d .between s.toList) = true) :
    Closes d s (lex d s) := by
  intro rest hrest
  rw [read_append, read_delimited d h hrest, lex, read_eq d .between s.toList, List.append_assoc]

/-- A text behind which the lexer stands between tokens is open at its end. -/
theorem opens_lex (h : after d .between s.toList = .between) : Opens d s (lex d s) := by
  intro rest
  rw [read_append, lex, read_eq d .between s.toList, h]
  exact congrArg (· ++ read d .between rest) (List.append_nil _).symm

/-- A text that stays open and one that closes are lexed as the tokens of both. -/
theorem Opens.append (hs : Opens d s tokens) (ht : Closes d t tokens') :
    Closes d (s ++ t) (tokens ++ tokens') := by
  intro rest hrest
  rw [String.toList_append, List.append_assoc, hs, ht rest hrest, List.append_assoc]

/-- A text that starts with a delimiter closes behind one that closes. -/
theorem Closes.append (hs : Closes d s tokens) (ht : Closes d t tokens')
    (hd : t.toList.head?.any isDelimiter = true) : Closes d (s ++ t) (tokens ++ tokens') := by
  intro rest hrest
  have delimited : Delimited (t.toList ++ rest) := by
    cases ht' : t.toList with
    | nil => rw [ht'] at hd; cases hd
    | cons c chars => rwa [ht'] at hd
  rw [String.toList_append, List.append_assoc, hs _ delimited, ht rest hrest, List.append_assoc]

/-- A text that starts with a delimiter stays open at its end behind one that closes. -/
theorem Closes.append_opens (hs : Closes d s tokens) (ht : Opens d t tokens')
    (hd : t.toList.head?.any isDelimiter = true) : Opens d (s ++ t) (tokens ++ tokens') := by
  intro rest
  have delimited : Delimited (t.toList ++ rest) := by
    cases ht' : t.toList with
    | nil => rw [ht'] at hd; cases hd
    | cons c chars => rwa [ht'] at hd
  rw [String.toList_append, List.append_assoc, hs _ delimited, ht, List.append_assoc]

/-- Texts that close, with texts that stay open between them, close. -/
theorem closes_intercalate {α : Type} {separator : String} {between : List Token}
    (hs : Opens d separator between) (hd : separator.toList.head?.any isDelimiter = true)
    {text : α → String} {tokens : α → List Token} {l : List α}
    (h : ∀ a ∈ l, Closes d (text a) (tokens a)) :
    Closes d (separator.intercalate (l.map text)) (between.intercalate (l.map tokens)) := by
  induction l with
  | nil => exact fun _ _ => rfl
  | cons a l ih =>
    obtain ⟨ha, hl⟩ := List.forall_mem_cons.mp h
    cases l with
    | nil =>
      rw [List.map_singleton, List.map_singleton, String.intercalate_singleton,
        List.intercalate_singleton]
      exact ha
    | cons b l =>
      rw [List.map_cons, List.map_cons, List.map_cons, List.map_cons,
        String.intercalate_cons_cons, List.intercalate_cons_cons]
      exact (ha.append_opens hs hd).append (ih hl)

end Texts

end Worklist.Sql
