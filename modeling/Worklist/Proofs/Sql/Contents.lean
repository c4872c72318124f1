import Worklist.Proofs.Sql.Tokens

/-!
# The texts in a condition

Which texts stand as literals in what is written. A literal needs a quote, so where there is none
there is no literal. The texts of a list are its literals, in their order, whatever quotes and
commas they contain, so two lists that are written alike are the same list.
-/

set_option autoImplicit false

namespace Worklist.Sql

open Lexer

/-- The text that a token stands for, if it is a literal. -/
def Token.content? : Token → Option (List Char)
  | .literal content => some content
  | _ => none

/-- The texts that the literals among some tokens stand for, in order. -/
def contents (tokens : List Token) : List (List Char) :=
  tokens.filterMap Token.content?

/-- The texts among tokens in a row are those of the first and then those of the second ones. -/
theorem contents_append (a b : List Token) : contents (a ++ b) = contents a ++ contents b :=
  List.filterMap_append

/-! ## Without a quote -/

namespace Lexer

/-- Whether the lexer has met no quote of a literal that it is still in. -/
def isBare : Mode → Bool
  | .literal _ => false
  | .escaped _ => false
  | .quoted _ => false
  | _ => true

/-- Outside of a text what was read before holds no text. -/
theorem contents_flush {m : Mode} (bare : isBare m = true) : contents (flush m) = [] := by
  cases m with
  | literal | escaped | quoted => cases bare
  | _ => rfl

/-- A character other than the quote begins no text. -/
theorem start_bare (d : Dialect) {c : Char} (noQuote : c ≠ '\'') :
    isBare (start d c).2 = true ∧ contents (start d c).1 = [] := by
  unfold start
  rw [if_neg noQuote]
  split_ifs <;> exact ⟨rfl, rfl⟩

/-- Only a quote leads into a literal. -/
theorem step_bare (d : Dialect) {m : Mode} (bare : isBare m = true) {c : Char}
    (noQuote : c ≠ '\'') : isBare (step d m c).2 = true ∧ contents (step d m c).1 = [] := by
  have ended : isBare (startAfter d m c).2 = true ∧ contents (startAfter d m c).1 = [] := by
    obtain ⟨next, none⟩ := start_bare d noQuote
    refine ⟨next, ?_⟩
    show contents (flush m ++ (start d c).1) = []
    rw [contents_append, contents_flush bare, none]
    rfl
  cases m with
  | literal | escaped | quoted => cases bare
  | between => exact start_bare d noQuote
  | comment => exact ⟨rfl, rfl⟩
  | word | minus | slash | number =>
    unfold step
    dsimp only
    split_ifs
    all_goals first | exact ended | exact ⟨rfl, rfl⟩

/-- What is read without a quote holds no text. -/
theorem contents_read_bare (d : Dialect) {s : List Char} (noQuote : '\'' ∉ s) {m : Mode}
    (bare : isBare m = true) : contents (read d m s) = [] := by
  induction s generalizing m with
  | nil => exact contents_flush bare
  | cons c s ih =>
    rw [List.mem_cons, not_or] at noQuote
    obtain ⟨next, none⟩ := step_bare d bare (Ne.symm noQuote.1)
    rw [read, contents_append, none, ih noQuote.2 next]
    rfl

end Lexer

/-- A text without a quote has no literal. -/
theorem contents_lex_of_not_mem (d : Dialect) {s : String} (noQuote : '\'' ∉ s.toList) :
    contents (lex d s) = [] :=
  contents_read_bare d noQuote rfl

/-! ## Lists -/

/-- What separates tokens adds no text to them. -/
theorem contents_intercalate {separator : List Token} (none : contents separator = [])
    (l : List (List Token)) : contents (separator.intercalate l) = l.flatMap contents := by
  induction l with
  | nil => rfl
  | cons a l ih =>
    cases l with
    | nil => rw [List.intercalate_singleton, List.flatMap_singleton]
    | cons b l =>
      rw [List.intercalate_cons_cons, contents_append, contents_append, none, List.append_nil, ih]
      exact List.flatMap_cons.symm

/-- The texts among a list of literals are their contents. -/
theorem contents_literals (values : List String) :
    contents ([Token.sign ','].intercalate (values.map fun v => [Token.literal v.toList])) =
      values.map String.toList := by
  rw [contents_intercalate rfl, List.flatMap_map]
  exact List.map_eq_flatMap.symm

/-- A list of texts as it is written. -/
def listText (d : Dialect) (values : List String) : String :=
  ",".intercalate (values.map d.literal)

/-- The literals of a list are its texts, in their order. -/
theorem contents_lex_listText (d : Dialect) (values : List String) :
    contents (lex d (listText d values)) = values.map String.toList := by
  have comma : Opens d "," [.sign ','] := by
    cases d <;> exact opens_lex rfl
  have listed := closes_intercalate comma rfl fun v (_ : v ∈ values) => closes_literal d v
  rw [listText, listed.lex_eq, contents_literals]

/-- Two lists of texts that are written alike are the same list. -/
theorem listText_injective {d : Dialect} {values values' : List String}
    (same : listText d values = listText d values') : values = values' := by
  have read := congrArg (fun s => contents (lex d s)) same
  simp only [contents_lex_listText] at read
  exact (List.map_inj_right fun _ _ => String.toList_inj.mp).mp read

/-- A quote and a comma in a text are no end of it. -/
example : contents (lex .mysql (listText .mysql ["a','b", "\\"])) =
    ["a','b".toList, "\\".toList] := by
  decide +kernel

end Worklist.Sql
