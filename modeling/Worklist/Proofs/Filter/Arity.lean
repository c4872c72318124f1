import Worklist.Proofs.Number.Decimal
import Worklist.Proofs.Query.Structure
import Worklist.Proofs.Sql.Contents

/-!
# How many values a clause reads

An operator that reads no value makes the same predicate of all values, and one that reads one value
makes the same predicate of all values with that first one. The two operators that read all values
write each of them as a literal, in order, so that no two lists of values are written alike.
-/

set_option autoImplicit false

namespace Worklist

open Sql (Column Condition Dialect contents contents_append keyword lex listText listText_injective)

/-- Only the two tests of equality read all of their values. -/
theorem Operator.arity_eq_many_iff {op : Operator} :
    op.arity = .many ↔ op = .equals ∨ op = .notEquals := by
  cases op <;> decide

/-! ## Values that are not read -/

namespace Clause

variable {c : Clause} {values : List String} (context : FilterContext) (f : Field)

/-- The joins of a clause do not depend on its values, so its predicate is that of its condition. -/
theorem predicate_congr
    (same : { c with values := values }.condition? context f = c.condition? context f) :
    { c with values := values }.predicate context f = c.predicate context f := by
  unfold predicate
  rw [same]
  rfl

/-- Under an operator that reads no value the values can be any others. -/
theorem condition?_of_arity_none (reads : c.operator.arity = .none) :
    { c with values := values }.condition? context f = c.condition? context f := by
  unfold condition?
  cases op : c.operator with
  | isBlank | isPresent | closedStatus | openStatus | today | thisWeek => rfl
  | _ =>
    rw [op] at reads
    cases reads

/-- Under an operator that reads one value only the first value matters. -/
theorem condition?_of_arity_one (reads : c.operator.arity = .one)
    (first : { c with values := values }.firstValue = c.firstValue) :
    { c with values := values }.condition? context f = c.condition? context f := by
  unfold condition?
  rw [first]
  cases op : c.operator with
  | equals | notEquals =>
    rw [op] at reads
    cases reads
  | _ => rfl

end Clause

/-! ## Lists of values that are asked for -/

namespace Sql.Condition

/-- The condition that a column has no value, or what another condition says. -/
def orMissing (c : Column) (a : Condition) : Condition :=
  .grouped (.either (.isNull c false) a)

/-- How a list of values is asked for in a column: an empty list by a constant, and any other one by
a condition with the list, to which a missing value may be added. -/
inductive Asks (c : Column) (negated : Bool) (values : List String) : Condition → Prop where
  | constant (holds : Bool) (empty : values = []) : Asks c negated values (.constant holds)
  | list (nonempty : values ≠ []) : Asks c negated values (.oneOf c negated (values.map .text))
  | missingOrList (nonempty : values ≠ []) :
      Asks c negated values (.orMissing c (.oneOf c negated (values.map .text)))

/-- A condition of equality asks for its values. -/
theorem asks_equals (c : Column) (values : List String) :
    Asks c false values (Predicate.equals c values) := by
  unfold Predicate.equals
  dsimp only
  split_ifs with empty missing
  · exact .constant false (List.isEmpty_iff.mp empty)
  · exact .missingOrList (List.ne_nil_of_mem missing)
  · exact .list (mt List.isEmpty_iff.mpr empty)

/-- A condition of inequality asks for the values that it excludes. -/
theorem asks_notEquals (c : Column) (values : List String) :
    Asks c true values (Predicate.notEquals c values) := by
  unfold Predicate.notEquals
  split_ifs with empty
  · exact .constant true (List.isEmpty_iff.mp empty)
  · exact .missingOrList (mt List.isEmpty_iff.mpr empty)

variable {d : Dialect} {c : Column} {negated : Bool} {values values' : List String}
  {a b : Condition}

/-- A list in a condition is written with the values in their order. -/
theorem text_oneOf (d : Dialect) (c : Column) (negated : Bool) (values : List String) :
    (oneOf c negated (values.map .text)).text d =
      c.text ++ (if negated then " NOT IN (" else " IN (") ++ listText d values ++ ")" := by
  rw [text, List.map_map]
  rfl

/-- A condition that a missing value meets too is written with both parts in brackets. -/
theorem text_orMissing (d : Dialect) (c : Column) (a : Condition) :
    (orMissing c a).text d = "(" ++ (c.text ++ " IS NULL OR ") ++ a.text d ++ ")" := by
  have words : " IS NULL" ++ " OR " = " IS NULL OR " := rfl
  unfold orMissing
  simp only [text, String.append_assoc, ← words]
  rfl

/-- The list of values stands in the text. -/
theorem Asks.exists_text (h : Asks c negated values a) (d : Dialect) :
    ∃ before after, a.text d = before ++ listText d values ++ after := by
  cases h with
  | constant holds empty =>
    refine ⟨(Condition.constant holds).text d, "", ?_⟩
    rw [empty]
    simp [listText]
  | list => exact ⟨_, ")", text_oneOf d c negated values⟩
  | missingOrList =>
    refine ⟨"(" ++ (c.text ++ " IS NULL OR ") ++
      (c.text ++ (if negated then " NOT IN (" else " IN (")), "))", ?_⟩
    have closing : ")" ++ ")" = "))" := rfl
    rw [text_orMissing, text_oneOf, ← closing]
    simp only [String.append_assoc]

/-! ## Lists that are written alike -/

/-- A text in front of which a character may be put without a change has no other character. -/
theorem eq_of_append_eq_cons_append {s x y : List Char} {p : Char} (h : s ++ x = p :: (s ++ y)) :
    ∀ e ∈ s, e = p := by
  induction s generalizing p with
  | nil => simp
  | cons e s ih =>
    obtain ⟨rfl, rest⟩ := List.cons.inj h
    exact List.forall_mem_cons.mpr ⟨rfl, ih rest⟩

/-- The name of a column has a point, so a condition that starts with the name does not start with a
parenthesis and the name. -/
theorem text_oneOf_ne_text_orMissing :
    (oneOf c negated (values.map .text)).text d ≠ (orMissing c a).text d := by
  intro same
  rw [text_oneOf, text_orMissing] at same
  have chars := congrArg String.toList same
  simp only [String.toList_append, List.append_assoc] at chars
  have point : '.' ∈ c.text.toList := by
    simp [Column.text]
  exact absurd (eq_of_append_eq_cons_append chars '.' point) (by decide)

/-- What ends with a parenthesis is no constant. -/
theorem append_ne_text_constant (s : String) (holds : Bool) :
    s ++ ")" ≠ (constant holds).text d := by
  intro same
  have last := congrArg (fun s => s.toList.getLast?) same
  cases holds <;> simp [text] at last

/-- A list that is not empty is asked for by a condition that ends with a parenthesis. -/
theorem Asks.exists_text_of_ne_nil (h : Asks c negated values a) (nonempty : values ≠ [])
    (d : Dialect) : ∃ s, a.text d = s ++ ")" := by
  cases h with
  | constant holds empty => exact absurd empty nonempty
  | list => exact ⟨_, text_oneOf d c negated values⟩
  | missingOrList => exact ⟨_, text_orMissing d c _⟩

/-- An empty list is not asked for as any other list is. -/
theorem Asks.eq_nil (h : Asks c negated values a) {holds : Bool}
    (same : a.text d = (Condition.constant holds).text d) : values = [] := by
  by_contra nonempty
  obtain ⟨s, hs⟩ := h.exists_text_of_ne_nil nonempty d
  exact append_ne_text_constant s holds (hs.symm.trans same)

/-- Lists that are written alike have the same values. -/
theorem values_eq_of_text_oneOf (same : (oneOf c negated (values.map .text)).text d =
    (oneOf c negated (values'.map .text)).text d) : values = values' := by
  rw [text_oneOf, text_oneOf, String.append_left_inj, String.append_right_inj] at same
  exact listText_injective same

/-- Lists of values that are asked for in the same words are the same list. -/
theorem Asks.values_eq (h : Asks c negated values a) (h' : Asks c negated values' b)
    (same : a.text d = b.text d) : values = values' := by
  cases h with
  | constant holds empty => rw [empty, h'.eq_nil same.symm]
  | list nonempty =>
    cases h' with
    | constant holds empty => exact absurd ((Asks.list nonempty).eq_nil same) nonempty
    | list => exact values_eq_of_text_oneOf same
    | missingOrList => exact absurd same text_oneOf_ne_text_orMissing
  | missingOrList nonempty =>
    cases h' with
    | constant holds empty => exact absurd ((Asks.missingOrList nonempty).eq_nil same) nonempty
    | list => exact absurd same.symm text_oneOf_ne_text_orMissing
    | missingOrList =>
      rw [text_orMissing, text_orMissing, String.append_left_inj, String.append_right_inj] at same
      exact values_eq_of_text_oneOf same

/-! ## The literals of a list -/

/-- Brackets add no text to the tokens that they enclose. -/
theorem contents_enclosed (tokens : List Token) :
    contents (Sql.enclosed tokens) = contents tokens := by
  show contents (tokens ++ [.sign ')']) = _
  rw [contents_append]
  exact List.append_nil _

/-- The texts among the tokens of a list are its values. -/
theorem contents_tokens_oneOf (bare : contents (c.tokens d) = []) :
    contents ((oneOf c negated (values.map .text)).tokens d) = values.map String.toList := by
  have words :
      contents (if negated then [keyword "NOT", keyword "IN"] else [keyword "IN"]) = [] := by
    cases negated <;> rfl
  rw [tokens, contents_append, contents_append, bare, words, contents_enclosed, List.map_map]
  exact Sql.contents_literals values

/-- The literals of a condition that asks for a list are the values of the list. -/
theorem Asks.contents_tokens (h : Asks c negated values a) (bare : contents (c.tokens d) = []) :
    contents (a.tokens d) = values.map String.toList := by
  cases h with
  | constant holds empty =>
    rw [empty]
    rfl
  | list => exact contents_tokens_oneOf bare
  | missingOrList =>
    have missing : contents ((isNull c false).tokens d ++ [keyword "OR"]) = [] := by
      rw [contents_append, tokens, contents_append, bare]
      rfl
    rw [orMissing, tokens, contents_enclosed, tokens, contents_append, missing]
    exact contents_tokens_oneOf bare

end Sql.Condition

/-- The column of a resolved field is written without a quote, so there is no literal in it. -/
theorem Field.Resolved.contents_tokens (d : Dialect) {f : Field} (h : f.Resolved) :
    contents (f.column.tokens d) = [] := by
  have ofName {name : String}
      (known : name ∈ filterableAttributes.map Prod.fst ∨ name ∈ sortableAttributes) :
      '\'' ∉ (Column.text ⟨.workPackages, name⟩).toList := by
    have all : ∀ name ∈ filterableAttributes.map Prod.fst ++ sortableAttributes,
        '\'' ∉ (Column.text ⟨.workPackages, name⟩).toList := by
      decide +kernel
    exact all name (List.mem_append.mpr known)
  apply Sql.contents_lex_of_not_mem
  cases h with
  | plain type known => exact ofName known
  | status => exact ofName (by decide)
  | custom id format =>
    have digits := Number.not_mem_decimal (c := '\'') rfl (by decide) id
    simp [Field.custom, Column.text, Sql.Source.name, digits]

namespace Clause

/-- The two operators that read all values ask for them as a list. -/
theorem exists_asks (context : FilterContext) (f : Field) {c : Clause}
    (reads : c.operator.arity = .many) :
    ∃ negated, ∀ values, ∃ condition,
      { c with values := values }.condition? context f = some condition ∧
      Condition.Asks f.column negated values condition := by
  unfold condition?
  rcases Operator.arity_eq_many_iff.mp reads with op | op
  · rw [op]
    exact ⟨false, fun values => ⟨_, rfl, Condition.asks_equals f.column values⟩⟩
  · rw [op]
    exact ⟨true, fun values => ⟨_, rfl, Condition.asks_notEquals f.column values⟩⟩

/-- The text of a predicate is that of its condition. -/
theorem text_predicate {d : Dialect} {context : FilterContext} {f : Field} {c : Clause}
    {condition : Condition} (h : c.condition? context f = some condition) :
    (c.predicate context f).text d = condition.text d := by
  unfold predicate
  rw [h]
  rfl

/-- A clause reads as many of its values as its operator says. If it reads none, other values make
the same predicate, and if it reads one, other values with the same first one do; a missing first
value is an empty text. If it reads all, its text has a literal for each value, in order, and for a
resolved field no other literal, and other values are never written alike. -/
theorem predicate_honours_arity (d : Dialect) (context : FilterContext) (f : Field) (c : Clause)
    (values : List String) :
    (c.operator.arity = .none →
      { c with values := values }.predicate context f = c.predicate context f) ∧
    (c.operator.arity = .one → values.headD "" = c.values.headD "" →
      { c with values := values }.predicate context f = c.predicate context f) ∧
    (c.operator.arity = .many ↔ c.operator = .equals ∨ c.operator = .notEquals) ∧
    (c.operator.arity = .many →
      (∃ before after, (c.predicate context f).text d = before ++ listText d c.values ++ after) ∧
      (f.Resolved →
        contents (lex d ((c.predicate context f).text d)) = c.values.map String.toList) ∧
      (values ≠ c.values →
        ({ c with values := values }.predicate context f).text d ≠
          (c.predicate context f).text d)) := by
  refine ⟨?none, ?one, Operator.arity_eq_many_iff, ?many⟩
  case none =>
    intro reads
    exact predicate_congr context f (condition?_of_arity_none context f reads)
  case one =>
    intro reads first
    exact predicate_congr context f (condition?_of_arity_one context f reads first)
  case many =>
    intro reads
    obtain ⟨negated, asks⟩ := exists_asks context f reads
    obtain ⟨condition, hcondition, own⟩ := asks c.values
    obtain ⟨other, hother, others⟩ := asks values
    rw [text_predicate hcondition, text_predicate hother]
    refine ⟨own.exists_text d, ?_, ?_⟩
    · intro resolved
      rw [(Condition.closes_text (structured_of_condition? resolved hcondition)).lex_eq]
      exact own.contents_tokens (resolved.contents_tokens d)
    · intro different same
      exact different (others.values_eq own same)

/-- A quote, a comma and a backslash in one value do not make it two, and neither a day nor a text
to look for depends on further values. -/
theorem predicate_honours_arity_quoted :
    let subject := Field.plain "subject" .text
    let clause (op : Operator) (values : List String) : Clause :=
      ⟨.plain "subject", op, values, false⟩
    let context : FilterContext := ⟨sampleSession.today, .sunday⟩
    let predicate (op : Operator) (values : List String) : Predicate :=
      (clause op values).predicate context subject
    Operator.today.arity = .none ∧ predicate .today ["1"] = predicate .today [] ∧
      Operator.contains.arity = .one ∧ [""].headD "" = ([] : List String).headD "" ∧
      predicate .contains [""] = predicate .contains [] ∧
      Operator.equals.arity = .many ∧ subject.Resolved ∧ ["a", "b\\"] ≠ ["a','b\\"] ∧
      contents (lex .mysql ((predicate .equals ["a','b\\"]).text .mysql)) = ["a','b\\".toList] ∧
      (predicate .equals ["a", "b\\"]).text .mysql ≠
        (predicate .equals ["a','b\\"]).text .mysql := by
  intro subject clause context predicate
  have resolved : subject.Resolved := .plain .text (Or.inl (by decide))
  have different : ["a", "b\\"] ≠ ["a','b\\"] := by decide
  obtain ⟨none, -⟩ := predicate_honours_arity .mysql context subject (clause .today []) ["1"]
  obtain ⟨-, one, -⟩ := predicate_honours_arity .mysql context subject (clause .contains []) [""]
  obtain ⟨-, -, -, many⟩ := predicate_honours_arity .mysql context subject
    (clause .equals ["a','b\\"]) ["a", "b\\"]
  obtain ⟨-, listed, apart⟩ := many rfl
  exact ⟨rfl, none rfl, rfl, rfl, one rfl rfl, rfl, resolved, different, listed resolved,
    apart different⟩

end Clause

end Worklist
