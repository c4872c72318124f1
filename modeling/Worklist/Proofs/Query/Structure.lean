import Worklist.Proofs.Query.Admission
import Worklist.Proofs.Query.Answers
import Worklist.Proofs.Sql.Tokens

/-!
# The structure of what filters are written as

Other values in a clause leave the tokens of its condition as they are, but for the contents of
literals and the number of a threshold, and the conditions of a query stand side by side in one list
of groups. No value of a filter can end a literal or a group.
-/

set_option autoImplicit false

namespace Worklist

open Sql (Balanced Column Condition Dialect IsDecimal Literal Selection Token enclosed keyword lex)

/-! ## Structured conditions -/

/-- The column of a resolved field is a name. -/
theorem Field.Resolved.named (d : Dialect) {f : Field} (h : f.Resolved) : f.column.Named d := by
  have ofName {name : String}
      (known : name ∈ filterableAttributes.map Prod.fst ∨ name ∈ sortableAttributes) :
      Column.Named d ⟨.workPackages, name⟩ := by
    have all : ∀ name ∈ filterableAttributes.map Prod.fst ++ sortableAttributes,
        Sql.Lexer.isOutside
            (Sql.Lexer.after d .between (Column.text ⟨.workPackages, name⟩).toList) = true ∧
          (Column.tokens d ⟨.workPackages, name⟩).all Token.isFlat = true := by
      cases d <;> decide +kernel
    obtain ⟨outside, flat⟩ := all name (List.mem_append.mpr known)
    exact ⟨Sql.closes_lex outside, flat⟩
  cases h with
  | plain type known => exact ofName known
  | status => exact ofName (by decide)
  | custom id format => exact Column.named_customValue d id

/-- A condition is structured if its leaves are. -/
theorem Sql.Condition.structured_of_leaves {d : Dialect} {c : Condition}
    (h : ∀ leaf ∈ c.leaves, leaf.Structured d) : c.Structured d := by
  induction c with
  | both a b iha ihb =>
    obtain ⟨ha, hb⟩ := List.forall_mem_append.mp h
    exact ⟨iha ha, ihb hb⟩
  | either a b iha ihb =>
    obtain ⟨ha, hb⟩ := List.forall_mem_append.mp h
    exact ⟨iha ha, ihb hb⟩
  | grouped a ih => exact ih h
  | _ => exact List.forall_mem_singleton.mp h

namespace Clause

/-- The condition of a clause on a resolved field is structured. -/
theorem structured_of_condition? {d : Dialect} {c : Clause} {context : FilterContext} {f : Field}
    (hf : f.Resolved) {condition : Condition} (h : c.condition? context f = some condition) :
    condition.Structured d := by
  -- a leaf reads the column of the field or the flag of the status, and none of them is a text
  refine Condition.structured_of_leaves fun leaf hleaf => ?_
  have named := List.forall_mem_singleton.mpr (hf.named d)
  cases leaf_of_condition? h leaf hleaf with
  | constant holds => exact fun _ hc => nomatch hc
  | flag closed asked => exact List.forall_mem_singleton.mpr (Column.named_isClosed d)
  | _ => exact named

end Clause

/-- The condition of a scope that the library writes itself is structured. -/
theorem Scope.IsBuiltIn.structured {scope : Scope} (h : scope.IsBuiltIn) (d : Dialect) :
    scope.condition.Structured d := by
  have named : Column.Named d projectColumn := Field.resolved_project.named d
  cases scope with
  | all => exact fun _ hc => nomatch hc
  | none => exact fun _ hc => nomatch hc
  | projects ids =>
    cases ids with
    | nil => exact fun _ hc => nomatch hc
    | cons id ids => exact List.forall_mem_singleton.mpr named
  | memberOf user => exact List.forall_mem_singleton.mpr named
  | trusted sql => exact absurd rfl (h sql)

/-- The condition of a filter is structured. -/
theorem Session.structured_filterPredicate {d : Dialect} {x : Session} {project? : Option Int}
    {c : Clause} {p : Predicate} (h : x.filterPredicate project? c = .ok p)
    {condition : Condition} (hc : p.condition? = some condition) : condition.Structured d := by
  unfold filterPredicate at h
  split_ifs at h with hrole
  · unfold rolePredicate at h
    split_ifs at h with hop
    · split at h
      · cases h
      · rw [← Except.ok.inj h, Clause.predicate_condition?] at hc
        exact Clause.structured_of_condition? Field.resolved_assignee hc
    · rw [← Except.ok.inj h] at hc
      cases hc
  · split at h
    · cases h
    · rename_i f hf
      rw [← Except.ok.inj h, Clause.predicate_condition?] at hc
      exact Clause.structured_of_condition? (Catalog.resolved_of_resolve hf) hc

/-! ## Clauses with other values -/

/-- A token without the content that it has as a literal. -/
def Sql.Token.blank : Token → Token
  | .literal _ => .literal []
  | t => t

/-- The tokens of a condition without the contents of its literals. -/
def Sql.Condition.outline (d : Dialect) (c : Condition) : List Token :=
  (c.tokens d).map Token.blank

/-- Whether an operator compares with a threshold, which is written as a number. -/
def Operator.isThreshold : Operator → Bool
  | .atLeast => true
  | .atMost => true
  | _ => false

/-- Blanking the tokens of joined lists blanks those of the lists and of what joins them. -/
theorem Sql.blank_intercalate (separator : List Token) (l : List (List Token)) :
    (separator.intercalate l).map Token.blank =
      (separator.map Token.blank).intercalate (l.map (List.map Token.blank)) := by
  induction l with
  | nil => rfl
  | cons a l ih =>
    cases l with
    | nil => simp only [List.map_cons, List.map_nil, List.intercalate_singleton]
    | cons b l =>
      rw [List.intercalate_cons_cons, List.map_append, List.map_append, ih]
      simp only [List.map_cons, List.intercalate_cons_cons]

namespace Sql.Condition

/-- The outline of a condition in brackets is its outline in brackets. -/
theorem outline_grouped (d : Dialect) (a : Condition) :
    (grouped a).outline d = enclosed (a.outline d) := by
  simp [outline, tokens, enclosed, Token.blank]

/-- The outline of an alternative is that of its parts with the word between them. -/
theorem outline_either (d : Dialect) (a b : Condition) :
    (either a b).outline d = a.outline d ++ [keyword "OR"] ++ b.outline d := by
  simp [outline, tokens, keyword, Token.blank]

/-- The outline of a search does not show its pattern. -/
theorem outline_like (d : Dialect) (c : Column) (negated : Bool) (pattern pattern' : String) :
    (like c negated pattern).outline d = (like c negated pattern').outline d := by
  simp only [outline, tokens, List.map_append, List.map_cons, Literal.token, Token.blank]

/-- Texts are listed alike if they are equally many. -/
theorem outline_oneOf (d : Dialect) (c : Column) (negated : Bool)
    {values values' : List String} (h : values.length = values'.length) :
    (oneOf c negated (values.map .text)).outline d =
      (oneOf c negated (values'.map .text)).outline d := by
  have listed (values : List String) :
      (List.intercalate [.sign ','] ((values.map Literal.text).map fun l => [l.token d])).map
          Token.blank =
        List.intercalate [.sign ','] (List.replicate values.length [.literal []]) := by
    rw [Sql.blank_intercalate, List.map_map, List.map_map]
    have blank : (List.map Token.blank ∘ fun l => [Literal.token d l]) ∘ Literal.text =
        fun _ => [Token.literal []] := rfl
    rw [blank, List.map_const']
    rfl
  unfold outline tokens enclosed
  simp only [List.map_append, List.map_cons, listed, h]

end Sql.Condition

namespace Predicate

/-- Ranges that are open to the same sides are written alike. -/
theorem outline_inRange? (d : Dialect) (f : Field) {r r' : Calendar.DayRange}
    (lower : r.lower?.isSome = r'.lower?.isSome) (upper : r.upper?.isSome = r'.upper?.isSome) :
    (inRange? f r).map (Condition.outline d) = (inRange? f r').map (Condition.outline d) := by
  have blank (e : Calendar.DayEnd) (day : Calendar.Date) :
      ((bound f e day).token d).blank = .literal [] := rfl
  obtain ⟨lower?, upper?⟩ := r
  obtain ⟨lower?', upper?'⟩ := r'
  cases lower? <;> cases lower?' <;> cases lower <;> cases upper? <;> cases upper?' <;>
    cases upper <;>
    simp only [inRange?, Option.map_none, Option.map_some, Condition.outline, Condition.tokens,
      List.map_append, List.map_cons, blank]

end Predicate

/-- The range of a relative operator is open to the same sides whatever number of days it reads. -/
theorem Operator.outline_dayRange? (d : Dialect) (f : Field) (op : Operator)
    (today : Calendar.Date) (n n' : Int) :
    ((op.dayRange? today n).bind (Predicate.inRange? f)).map (Condition.outline d) =
      ((op.dayRange? today n').bind (Predicate.inRange? f)).map (Condition.outline d) := by
  -- the number decides how far the ends lie from today, but not whether there are ends
  have sides : (op.dayOffsets? n).map (fun ends => (ends.1.isSome, ends.2.isSome)) =
      (op.dayOffsets? n').map fun ends => (ends.1.isSome, ends.2.isSome) := by
    cases op <;> rfl
  unfold dayRange?
  cases hn : op.dayOffsets? n with
  | none =>
    cases hn' : op.dayOffsets? n' with
    | none => rfl
    | some ends' =>
      rw [hn, hn'] at sides
      cases sides
  | some ends =>
    cases hn' : op.dayOffsets? n' with
    | none =>
      rw [hn, hn'] at sides
      cases sides
    | some ends' =>
      rw [hn, hn'] at sides
      obtain ⟨lower, upper⟩ := Prod.mk.inj (Option.some.inj sides)
      refine Predicate.outline_inRange? d f ?_ ?_
      · simpa only [Calendar.DayRange.ofOffsets, Option.isSome_map] using lower
      · simpa only [Calendar.DayRange.ofOffsets, Option.isSome_map] using upper

namespace Clause

/-- Without a threshold, other values leave the condition of a clause as it is but for the contents
of literals, if they are equally many and ask for missing values alike. -/
theorem outline_condition? (d : Dialect) (c : Clause) (context : FilterContext) (f : Field)
    {values : List String} (count : values.length = c.values.length)
    (missing : missingValue ∈ values ↔ missingValue ∈ c.values)
    (plain : c.operator.isThreshold = false) :
    (({ c with values := values }.condition? context f).map (Condition.outline d)) =
      (c.condition? context f).map (Condition.outline d) := by
  have empty : values.isEmpty = c.values.isEmpty := by
    rw [Bool.eq_iff_iff, List.isEmpty_iff, List.isEmpty_iff, ← List.length_eq_zero_iff,
      ← List.length_eq_zero_iff, count]
  have listed (negated : Bool) := Condition.outline_oneOf d f.column negated count
  unfold condition?
  cases hop : c.operator
  case equals =>
    simp only [Predicate.equals, empty, missing]
    split_ifs
    · rfl
    · simp only [Option.map_some, Condition.outline_grouped, Condition.outline_either, listed]
    · exact congrArg some (listed false)
  -- here a missing value is always among those that are asked for
  case notEquals =>
    simp only [Predicate.notEquals, empty]
    split_ifs
    · rfl
    · simp only [Option.map_some, Condition.outline_grouped, Condition.outline_either, listed]
  case atLeast => rw [hop] at plain; cases plain
  case atMost => rw [hop] at plain; cases plain
  case contains => exact congrArg some (Condition.outline_like d f.column false _ _)
  case notContains => exact congrArg some (Condition.outline_like d f.column true _ _)
  case sinceDaysAgo | untilDaysAgo | onDaysAgo | fromDaysAhead | untilDaysAhead | onDaysAhead =>
    exact Operator.outline_dayRange? d f _ context.today _ _
  all_goals rfl

end Clause

/-- A threshold is written with one number, and with the same tokens around every number. -/
theorem Predicate.tokens_threshold (d : Dialect) (c : Column) (r : Sql.Comparison)
    (dynamic : Bool) :
    ∃ before after, ∀ value, ∃ number, IsDecimal number ∧
      (threshold c r value dynamic).tokens d = before ++ .number number :: after := by
  cases dynamic with
  | false =>
    refine ⟨c.tokens d ++ r.tokens, [], fun value =>
      ⟨(Number.leadingReal value.toList).literal.toList, Sql.isDecimal_literal _, ?_⟩⟩
    rfl
  | true =>
    refine ⟨.sign '(' :: ((Condition.compare (.column c) .ne (.text "")).tokens d ++
      [keyword "AND"] ++ ((Sql.Operand.decimal c).tokens d ++ r.tokens)), [.sign ')'], fun value =>
      ⟨(Number.leadingReal value.toList).literal.toList, Sql.isDecimal_literal _, ?_⟩⟩
    simp [threshold, Condition.tokens, enclosed, Literal.token]

/-- Whether two ways to write a condition agree but for the contents of literals, or for the one
number of a threshold. -/
def SameStructure (op : Operator) (a b : List Token) : Prop :=
  if op.isThreshold then
    ∃ before after number number', IsDecimal number ∧ IsDecimal number' ∧
      a = before ++ .number number :: after ∧ b = before ++ .number number' :: after
  else a.map Token.blank = b.map Token.blank

namespace Clause

/-- The text of a clause on a resolved field is read as the tokens of its condition. -/
theorem lex_predicate (d : Dialect) (c : Clause) (context : FilterContext) {f : Field}
    (hf : f.Resolved) :
    lex d ((c.predicate context f).text d) =
      ((c.condition? context f).map (Condition.tokens d)).getD [] := by
  unfold Predicate.text
  rw [predicate_condition?]
  cases h : c.condition? context f with
  | none => rfl
  | some condition => exact (Condition.closes_text (structured_of_condition? hf h)).lex_eq

/-- The brackets in the text of a predicate are balanced. -/
theorem balanced_predicate (d : Dialect) (c : Clause) (context : FilterContext) {f : Field}
    (hf : f.Resolved) : Balanced (lex d ((c.predicate context f).text d)) := by
  rw [lex_predicate d c context hf]
  cases h : c.condition? context f with
  | none => exact Sql.balanced_nil
  | some condition => exact Condition.balanced_tokens (structured_of_condition? hf h)

/-- Other values leave the structure of the text of a clause as it is, if they are equally many and
ask for missing values alike. -/
theorem sameStructure_predicate (d : Dialect) (c : Clause) (context : FilterContext) {f : Field}
    (hf : f.Resolved) {values : List String} (count : values.length = c.values.length)
    (missing : missingValue ∈ values ↔ missingValue ∈ c.values) :
    SameStructure c.operator (lex d ((c.predicate context f).text d))
      (lex d (({ c with values := values }.predicate context f).text d)) := by
  rw [lex_predicate d c context hf, lex_predicate d { c with values := values } context hf]
  unfold SameStructure
  split_ifs with threshold
  · have ofComparison (r : Sql.Comparison) (value value' : String) :
        ∃ before after number number', IsDecimal number ∧ IsDecimal number' ∧
          (Predicate.threshold f.column r value (c.dynamic || f.isCustom)).tokens d =
            before ++ .number number :: after ∧
          (Predicate.threshold f.column r value' (c.dynamic || f.isCustom)).tokens d =
            before ++ .number number' :: after := by
      obtain ⟨before, after, written⟩ :=
        Predicate.tokens_threshold d f.column r (c.dynamic || f.isCustom)
      obtain ⟨number, decimal, h⟩ := written value
      obtain ⟨number', decimal', h'⟩ := written value'
      exact ⟨before, after, number, number', decimal, decimal', h, h'⟩
    unfold condition?
    cases hop : c.operator <;> rw [hop] at threshold <;> try cases threshold
    · exact ofComparison .ge _ _
    · exact ofComparison .le _ _
  · have plain : c.operator.isThreshold = false := Bool.eq_false_iff.mpr threshold
    have outlines := outline_condition? d c context f count missing plain
    have blank (condition? : Option Condition) :
        ((condition?.map (Condition.tokens d)).getD []).map Token.blank =
          (condition?.map (Condition.outline d)).getD [] := by
      cases condition? <;> rfl
    rw [blank, blank, outlines]

end Clause

/-! ## The conditions of a query -/

/-- What a query demands beside its scope: its project, and the conditions of predicates. -/
def Query.demands (q : Query) (predicates : List Predicate) : List Condition :=
  (q.project?.toList.map fun id => Condition.compare (.column projectColumn) .eq (.whole id)) ++
    predicates.filterMap Predicate.condition?

/-- Structured conditions are read as groups, side by side. -/
theorem Sql.Selection.lex_whereText {d : Dialect} {sel : Selection}
    (h : ∀ c ∈ sel.conditions, c.Structured d) :
    lex d (sel.whereText d) =
      [keyword "AND"].intercalate (sel.conditions.map fun c => enclosed (c.tokens d)) := by
  have word : Sql.Opens d " AND " [keyword "AND"] := by
    cases d <;> exact Sql.opens_lex rfl
  exact (Sql.closes_intercalate word rfl fun c (hc : c ∈ sel.conditions) =>
    Condition.closes_text (c := .grouped c) (h c hc)).lex_eq

/-- Tokens with one token between them are the first ones, and each of the others behind it. -/
theorem Sql.intercalate_cons_eq (separator : Token) (first : List Token) (l : List (List Token)) :
    [separator].intercalate (first :: l) =
      first ++ l.flatMap fun tokens => separator :: tokens := by
  induction l generalizing first with
  | nil => simp
  | cons second l ih =>
    rw [List.intercalate_cons_cons, ih, List.flatMap_cons, List.append_assoc]
    rfl

namespace Session

/-- Every condition that a query demands is structured. -/
theorem structured_demands (d : Dialect) {x : Session} {q : Query} {predicates : List Predicate}
    (h : q.filters.mapM (x.filterPredicate q.project?) = .ok predicates) :
    ∀ c ∈ q.demands predicates, c.Structured d := by
  intro c hc
  rcases List.mem_append.mp hc with hc | hc
  · obtain ⟨id, -, rfl⟩ := List.mem_map.mp hc
    exact List.forall_mem_singleton.mpr (Field.resolved_project.named d)
  · obtain ⟨p, mem, hp⟩ := List.mem_filterMap.mp hc
    obtain ⟨clause, -, hclause⟩ := (mem_of_mapM_eq_ok h).mp mem
    exact structured_filterPredicate hclause hp

end Session

/-- Values of filters never change the structure of what is written. On a resolved field, other
values that are equally many and ask for missing values alike change the contents of literals only,
or the one number of a threshold, and parentheses are balanced. The conditions of a query are the
group of its scope, and then one group for each demand, whatever the values of its filters are. -/
theorem filterValues_keep_structure (d : Dialect) :
    (∀ (catalog : Catalog) (key : FieldKey) (f : Field) (context : FilterContext) (c : Clause)
        (values : List String),
      (catalog.resolve key = .ok f ∨ catalog.resolveSortable key = .ok f) →
      values.length = c.values.length → (missingValue ∈ values ↔ missingValue ∈ c.values) →
      SameStructure c.operator (lex d ((c.predicate context f).text d))
          (lex d (({ c with values := values }.predicate context f).text d)) ∧
        Balanced (lex d ((c.predicate context f).text d))) ∧
    ∀ (x : Session) (q : Query) (sel : Selection), q.scope.IsBuiltIn → x.selection q = .ok sel →
      ∃ predicates, q.filters.mapM (x.filterPredicate q.project?) = .ok predicates ∧
        lex d (sel.whereText d) = enclosed (lex d (q.scope.condition.text d)) ++
          (q.demands predicates).flatMap
            (fun c => keyword "AND" :: enclosed (lex d (c.text d))) ∧
        Balanced (lex d (q.scope.condition.text d)) ∧
        ∀ c ∈ q.demands predicates, Balanced (lex d (c.text d)) := by
  constructor
  · intro catalog key f context c values resolves count missing
    have hf : f.Resolved := by
      rcases resolves with h | h
      · exact Catalog.resolved_of_resolve h
      · exact Catalog.resolved_of_resolveSortable h
    exact ⟨c.sameStructure_predicate d context hf count missing, c.balanced_predicate d context hf⟩
  · intro x q sel builtIn h
    obtain ⟨predicates, hp, rfl⟩ := Session.selection_eq_ok_iff.mp h
    have scope := builtIn.structured d
    have demands := Session.structured_demands d hp
    have conditions : (predicates.foldl Predicate.restrict q.baseSelection).conditions =
        q.scope.condition :: q.demands predicates := Predicate.conditions_foldl_restrict _ _
    have tokens {c : Condition} (hc : c.Structured d) : lex d (c.text d) = c.tokens d :=
      (Condition.closes_text hc).lex_eq
    -- the groups are those of the conditions, and the scope is the first of them
    refine ⟨predicates, hp, ?_, ?_, fun c hc => ?_⟩
    · rw [Sql.Selection.lex_whereText (conditions ▸ List.forall_mem_cons.mpr ⟨scope, demands⟩),
        conditions, List.map_cons, Sql.intercalate_cons_eq, tokens scope, List.flatMap_map]
      congr 1
      exact List.flatMap_congr fun c hc => by rw [tokens (demands c hc)]
    · rw [tokens scope]
      exact Condition.balanced_tokens scope
    · rw [tokens (demands c hc)]
      exact Condition.balanced_tokens (demands c hc)

/-- A value with a quote, a parenthesis and a comment mark leaves the structure as it is in a
dialect where a backslash has a meaning, and the filters of a query are groups of their own. -/
theorem filterValues_keep_structure_sample :
    let subject := Field.plain "subject" .text
    let clause (value : String) : Clause := ⟨.plain "subject", .contains, [value], false⟩
    let text (value : String) : String :=
      ((clause value).predicate sampleSession.filterContext subject).text .mysql
    sampleSession.catalog.resolve (.plain "subject") = .ok subject ∧
      SameStructure .contains (lex .mysql (text "alpha"))
        (lex .mysql (text "\\') OR (1=1 -- ")) ∧
      ∃ sel predicates, sampleSession.selection sampleQuery = .ok sel ∧
        lex .mysql (sel.whereText .mysql) =
          enclosed (lex .mysql ((Scope.projects [1, 2]).condition.text .mysql)) ++
            (sampleQuery.demands predicates).flatMap
              (fun c => keyword "AND" :: enclosed (lex .mysql (c.text .mysql))) := by
  have resolves : sampleSession.catalog.resolve (.plain "subject") =
      .ok (Field.plain "subject" .text) := rfl
  have missing : missingValue ∈ ["\\') OR (1=1 -- "] ↔ missingValue ∈ ["alpha"] := by
    decide +kernel
  obtain ⟨values, conditions⟩ := filterValues_keep_structure .mysql
  obtain ⟨same, -⟩ := values sampleSession.catalog (.plain "subject") (Field.plain "subject" .text)
    sampleSession.filterContext ⟨.plain "subject", .contains, ["alpha"], false⟩
    ["\\') OR (1=1 -- "] (Or.inl resolves) rfl missing
  obtain ⟨predicates, -, written, -⟩ := conditions sampleSession sampleQuery _
    (by rintro sql ⟨⟩) rfl
  exact ⟨resolves, same, _, predicates, rfl, written⟩

end Worklist
