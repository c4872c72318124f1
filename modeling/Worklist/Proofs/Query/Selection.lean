import Worklist.Proofs.Steps
import Worklist.Proofs.Store.Selected
import Worklist.Query.Session

/-!
# Selections of queries

The conditions of a query are that of its scope, that of its project and those of its filters. Each
filter brings the joins of the tables that its condition reads, so the selection of a query joins
every table that it reads, whatever else sort keys and groups add to it.
-/

set_option autoImplicit false

namespace Worklist

open Sql (Column Condition Join OrderTerm Selection)

/-! ## Resolved fields -/

/-- The fields that keys resolve to: attributes of work packages, their status and custom fields. -/
inductive Field.Resolved : Field → Prop where
  | plain {name : String} (type : AttributeType)
      (known : name ∈ filterableAttributes.map Prod.fst ∨ name ∈ sortableAttributes) :
      Resolved (Field.plain name type)
  | status : Resolved Field.status
  | custom (id : Int) (format : Format) : Resolved (Field.custom id format)

/-- A key that can be filtered by resolves to one of these fields. -/
theorem Catalog.resolved_of_resolve {c : Catalog} {key : FieldKey} {f : Field}
    (h : c.resolve key = .ok f) : f.Resolved := by
  cases key with
  | custom id =>
    simp only [resolve] at h
    split at h
    · rw [← Except.ok.inj h]
      exact .custom id _
    · cases h
  | plain name =>
    simp only [resolve] at h
    split_ifs at h with hstatus
    · rw [← Except.ok.inj h]
      exact .status
    · split at h
      · rename_i type htype
        rw [← Except.ok.inj h]
        obtain ⟨before, after, split, -⟩ := List.lookup_eq_some_iff.mp htype
        have mem : (name, type) ∈ filterableAttributes := by
          rw [split]
          exact List.mem_append_right _ List.mem_cons_self
        exact .plain type (Or.inl (List.mem_map_of_mem mem))
      · cases h

/-- A key that can be sorted by resolves to one of these fields. -/
theorem Catalog.resolved_of_resolveSortable {c : Catalog} {key : FieldKey} {f : Field}
    (h : c.resolveSortable key = .ok f) : f.Resolved := by
  cases key with
  | custom id =>
    have same : c.resolveSortable (.custom id) = c.resolve (.custom id) := rfl
    exact resolved_of_resolve (same ▸ h)
  | plain name =>
    simp only [resolveSortable] at h
    split_ifs at h with hname
    rw [← Except.ok.inj h]
    exact .plain _ (Or.inr hname)

/-- The column of the project is one of the attributes. -/
theorem Field.resolved_project : (Field.plain "project_id" .integer).Resolved :=
  .plain .integer (Or.inl (by decide))

/-- So is the column that the filter by roles reads. -/
theorem Field.resolved_assignee : (Field.plain "assigned_to_id" .integer).Resolved :=
  .plain .integer (Or.inl (by decide))

/-- A resolved field asks for the join that makes its column available. -/
theorem Field.Resolved.join?_column {f : Field} (h : f.Resolved) :
    f.column.source.join? = f.requiredJoin? := by
  cases h <;> rfl

/-- The column of a resolved field is available with the join that the field asks for. -/
theorem Field.Resolved.provided {f : Field} (h : f.Resolved) :
    f.column.Provided f.requiredJoin?.toList := by
  intro j hj
  rw [← h.join?_column, hj]
  exact List.mem_singleton.mpr rfl

/-! ## Conditions of filters -/

namespace Sql.Condition

/-- The conditions that a condition is put together from. -/
def leaves : Condition → List Condition
  | .both a b => a.leaves ++ b.leaves
  | .either a b => a.leaves ++ b.leaves
  | .grouped a => a.leaves
  | c => [c]

/-- A condition reads the columns of its leaves. -/
theorem mem_columns {c : Condition} {column : Column} :
    column ∈ c.columns ↔ ∃ leaf ∈ c.leaves, column ∈ leaf.columns := by
  induction c with
  | both a b iha ihb => simp only [columns, leaves, List.mem_append, iha, ihb, or_and_right,
      exists_or]
  | either a b iha ihb => simp only [columns, leaves, List.mem_append, iha, ihb, or_and_right,
      exists_or]
  | grouped a ih => exact ih
  | _ => simp only [leaves, List.mem_singleton, exists_eq_left]

/-- A condition has a pattern that is too long if one of its leaves has. -/
theorem tooLong_iff {c : Condition} :
    Store.tooLong c = true ↔ ∃ leaf ∈ c.leaves, Store.tooLong leaf = true := by
  induction c with
  | both a b iha ihb => simp only [Store.tooLong, leaves, List.mem_append, Bool.or_eq_true, iha,
      ihb, or_and_right, exists_or]
  | either a b iha ihb => simp only [Store.tooLong, leaves, List.mem_append, Bool.or_eq_true, iha,
      ihb, or_and_right, exists_or]
  | grouped a ih => exact ih
  | _ => simp only [leaves, List.mem_singleton, exists_eq_left]

end Sql.Condition

namespace Clause

/-- Whether a clause asks whether the status is closed, or is not. -/
def AsksStatus (c : Clause) : Prop :=
  c.operator = .closedStatus ∨ c.operator = .openStatus

/-- The pattern of a clause that looks for a text. -/
def pattern? (c : Clause) : Option String :=
  if c.operator = .contains ∨ c.operator = .notContains then
    some ("%" ++ Text.lowercase c.firstValue ++ "%")
  else none

/-- What the condition of a clause on a field is put together from: questions about the column of
the field, or about the flag of the status. -/
inductive Leaf (c : Clause) (f : Field) : Condition → Prop where
  | constant (holds : Bool) : Leaf c f (.constant holds)
  | isNull (negated : Bool) : Leaf c f (.isNull f.column negated)
  | oneOf (negated : Bool) (values : List Sql.Literal) : Leaf c f (.oneOf f.column negated values)
  | compare (r : Sql.Comparison) (l : Sql.Literal) : Leaf c f (.compare (.column f.column) r l)
  | decimal (r : Sql.Comparison) (l : Sql.Literal) : Leaf c f (.compare (.decimal f.column) r l)
  | between (lower upper : Sql.Literal) : Leaf c f (.between f.column lower upper)
  | like {pattern : String} (negated : Bool) (own : c.pattern? = some pattern) :
      Leaf c f (.like f.column negated pattern)
  | flag (closed : Bool) (asked : c.AsksStatus) :
      Leaf c f (.compare (.column ⟨.statuses, "is_closed"⟩) .eq (.boolean closed))

/-- The condition of a clause is put together from its leaves. -/
theorem leaf_of_condition? {c : Clause} {context : FilterContext} {f : Field}
    {condition : Condition} (h : c.condition? context f = some condition) :
    ∀ leaf ∈ condition.leaves, c.Leaf f leaf := by
  have ofRange (op : Operator) (n : Int)
      (h : (op.dayRange? context.today n).bind (Predicate.inRange? f) = some condition) :
      ∀ leaf ∈ condition.leaves, c.Leaf f leaf := by
    obtain ⟨⟨lower?, upper?⟩, -, hr⟩ := Option.bind_eq_some_iff.mp h
    cases lower? <;> cases upper? <;>
      simp only [Predicate.inRange?, Option.map_none, Option.map_some, Option.some.injEq,
        reduceCtorEq] at hr
    all_goals
      rw [← hr]
      simp [Condition.leaves, Leaf.compare]
  have ofStatus (closed : Bool) (asked : c.AsksStatus)
      (h : Predicate.statusFlag? f closed = some condition) :
      ∀ leaf ∈ condition.leaves, c.Leaf f leaf := by
    unfold Predicate.statusFlag? at h
    split_ifs at h
    rw [← Option.some.inj h]
    intro leaf hleaf
    rw [List.mem_singleton.mp hleaf]
    exact .flag closed asked
  have ofThreshold (r : Sql.Comparison) (value : String) (dynamic : Bool) :
      ∀ leaf ∈ (Predicate.threshold f.column r value dynamic).leaves, c.Leaf f leaf := by
    unfold Predicate.threshold
    simp only
    split_ifs <;> simp [Condition.leaves, Leaf.compare, Leaf.decimal]
  unfold condition? at h
  cases hop : c.operator <;> simp only [hop, Option.some.injEq] at h
  case equals =>
    rw [← h]
    unfold Predicate.equals
    simp only
    split_ifs <;> simp [Condition.leaves, Leaf.constant, Leaf.isNull, Leaf.oneOf]
  case notEquals =>
    rw [← h]
    unfold Predicate.notEquals
    split_ifs <;> simp [Condition.leaves, Leaf.constant, Leaf.isNull, Leaf.oneOf]
  case isBlank =>
    rw [← h]
    unfold Predicate.isBlank
    split_ifs <;> simp [Condition.leaves, Leaf.isNull, Leaf.compare]
  case isPresent =>
    rw [← h]
    unfold Predicate.isPresent
    split_ifs <;> simp [Condition.leaves, Leaf.isNull, Leaf.compare]
  case atLeast => exact h ▸ ofThreshold _ _ _
  case atMost => exact h ▸ ofThreshold _ _ _
  case closedStatus => exact ofStatus true (Or.inl hop) h
  case openStatus => exact ofStatus false (Or.inr hop) h
  case thisWeek =>
    simp only [Predicate.inWeek?] at h
    split at h
    · rw [← Option.some.inj h]
      simp [Condition.leaves, Leaf.between]
    · cases h
  case contains =>
    rw [← h]
    simp [Condition.leaves, Predicate.contains, Leaf.like, pattern?, hop]
  case notContains =>
    rw [← h]
    simp [Condition.leaves, Predicate.contains, Leaf.like, pattern?, hop]
  all_goals exact ofRange _ _ h

/-- A clause reads the column of its field, or the status if it asks for its flag. -/
theorem source_of_condition? {c : Clause} {context : FilterContext} {f : Field}
    {condition : Condition} (h : c.condition? context f = some condition) {column : Column}
    (hcolumn : column ∈ condition.columns) :
    column = f.column ∨ c.AsksStatus ∧ column.source = .statuses := by
  obtain ⟨leaf, hleaf, hcolumn⟩ := Condition.mem_columns.mp hcolumn
  cases leaf_of_condition? h leaf hleaf with
  | constant holds => cases hcolumn
  | flag closed asked =>
    rw [List.mem_singleton.mp hcolumn]
    exact Or.inr ⟨asked, rfl⟩
  | _ => exact Or.inl (List.mem_singleton.mp hcolumn)

/-- The condition of a clause has a pattern that is too long only if the clause looks for a text
that is too long. -/
theorem pattern?_of_tooLong {c : Clause} {context : FilterContext} {f : Field}
    {condition : Condition} (h : c.condition? context f = some condition)
    (long : Store.tooLong condition = true) :
    ∃ pattern, c.pattern? = some pattern ∧ Store.maxPatternBytes < pattern.utf8ByteSize := by
  obtain ⟨leaf, hleaf, long⟩ := Condition.tooLong_iff.mp long
  cases leaf_of_condition? h leaf hleaf with
  | like negated own => exact ⟨_, own, of_decide_eq_true long⟩
  | _ => cases long

end Clause

namespace Predicate

/-- Whether a predicate has the joins for the columns that its condition reads. -/
def Provided (p : Predicate) : Prop :=
  ∀ condition, p.condition? = some condition →
    ∀ column ∈ condition.columns, column.Provided p.joins

/-- No demand reads no column. -/
theorem provided_empty : empty.Provided := by
  intro condition h
  cases h

end Predicate

/-- Adding a join adds this join only. -/
theorem Sql.Join.mem_add {joins : List Join} {j k : Join} :
    k ∈ Join.add joins j ↔ k ∈ joins ∨ k = j := by
  unfold Join.add
  split_ifs with h
  · constructor
    · exact Or.inl
    · rintro (hk | rfl)
      · exact hk
      · exact h
  · rw [List.mem_append, List.mem_singleton]

/-- Adding joins adds these joins only. -/
theorem Sql.Join.mem_foldl_add {joins added : List Join} {k : Join} :
    k ∈ added.foldl Join.add joins ↔ k ∈ joins ∨ k ∈ added := by
  induction added generalizing joins with
  | nil => simp
  | cons j added ih =>
    rw [List.foldl_cons, ih, mem_add, List.mem_cons, or_assoc]

/-- Adding joins repeats none. -/
theorem Sql.Join.nodup_foldl_add {joins : List Join} (h : joins.Nodup) (added : List Join) :
    (added.foldl Join.add joins).Nodup := by
  induction added generalizing joins with
  | nil => exact h
  | cons j added ih =>
    apply ih
    unfold Join.add
    split_ifs with known
    · exact h
    · rw [← List.concat_eq_append]
      exact h.concat known

namespace Clause

/-- The predicate of a clause has the condition of the clause. -/
theorem predicate_condition? (c : Clause) (context : FilterContext) (f : Field) :
    (c.predicate context f).condition? = c.condition? context f := by
  unfold predicate
  cases c.condition? context f <;> rfl

/-- A clause joins the table of its field, and that of the status if it asks for the flag. -/
theorem mem_joins {c : Clause} {f : Field} {j : Join} :
    j ∈ c.joins f ↔ f.requiredJoin? = some j ∨ j = .status ∧ c.AsksStatus := by
  unfold joins AsksStatus
  cases c.operator <;> simp [Join.mem_add]

/-- The predicate of a clause on a resolved field has the joins for the columns that it reads. -/
theorem provided_predicate {c : Clause} {context : FilterContext} {f : Field} (hf : f.Resolved) :
    (c.predicate context f).Provided := by
  intro condition h
  unfold predicate at h ⊢
  cases hc : c.condition? context f with
  | none =>
    rw [hc] at h
    cases h
  | some own =>
    rw [hc] at h
    rw [← Option.some.inj h]
    intro column hcolumn
    rcases source_of_condition? hc hcolumn with rfl | ⟨asked, statuses⟩
    · exact hf.provided.mono fun j hj => mem_joins.mpr (Or.inl (Option.mem_toList.mp hj))
    · intro j hj
      rw [statuses] at hj
      exact mem_joins.mpr (Or.inr ⟨(Option.some.inj hj).symm, asked⟩)

end Clause

/-! ## Selections -/

/-- What predicates restrict a selection to: their conditions come after those that it has. -/
theorem Predicate.conditions_foldl_restrict (predicates : List Predicate) (sel : Selection) :
    (predicates.foldl Predicate.restrict sel).conditions =
      sel.conditions ++ predicates.filterMap Predicate.condition? := by
  induction predicates generalizing sel with
  | nil => simp
  | cons p predicates ih =>
    rw [List.foldl_cons, ih, List.filterMap_cons]
    unfold restrict
    cases p.condition? <;> simp

/-- A predicate adds its tables if it makes a demand. -/
theorem Predicate.mem_joins_restrict {p : Predicate} {sel : Selection} {j : Join} :
    j ∈ (p.restrict sel).joins ↔ j ∈ sel.joins ∨ p.isEmpty = false ∧ j ∈ p.joins := by
  unfold restrict isEmpty
  cases p.condition? with
  | none => simp
  | some condition => simp [Join.mem_foldl_add]

/-- The joins of restricted selections are those that were there and those of the predicates that
demand something. -/
theorem Predicate.mem_joins_foldl_restrict {predicates : List Predicate} {sel : Selection}
    {j : Join} :
    j ∈ (predicates.foldl Predicate.restrict sel).joins ↔
      j ∈ sel.joins ∨ ∃ p ∈ predicates, p.isEmpty = false ∧ j ∈ p.joins := by
  induction predicates generalizing sel with
  | nil => simp
  | cons p predicates ih =>
    rw [List.foldl_cons, ih, mem_joins_restrict, or_assoc, List.exists_mem_cons_iff]

/-- A predicate repeats no join. -/
theorem Predicate.nodup_joins_restrict {sel : Selection} (h : sel.joins.Nodup) (p : Predicate) :
    (p.restrict sel).joins.Nodup := by
  unfold restrict
  cases p.condition? with
  | none => exact h
  | some condition => exact Join.nodup_foldl_add h p.joins

/-- Predicates repeat no join. -/
theorem Predicate.nodup_joins_foldl_restrict {sel : Selection} (h : sel.joins.Nodup)
    (predicates : List Predicate) : (predicates.foldl Predicate.restrict sel).joins.Nodup := by
  induction predicates generalizing sel with
  | nil => exact h
  | cons p predicates ih => exact ih (nodup_joins_restrict h p)

/-- A predicate that has its joins leaves a selection with the joins for all that it reads. -/
theorem Predicate.provided_restrict {p : Predicate} {sel : Selection} (hp : p.Provided)
    (h : sel.Provided) : (p.restrict sel).Provided := by
  unfold restrict
  cases hc : p.condition? with
  | none => exact h
  | some condition =>
    intro c hmem column hcolumn
    rcases List.mem_append.mp hmem with hmem | hmem
    · exact (h c hmem column hcolumn).mono fun j hj => Join.mem_foldl_add.mpr (Or.inl hj)
    · rw [List.mem_singleton.mp hmem] at hcolumn
      exact (hp condition hc column hcolumn).mono
        fun j hj => Join.mem_foldl_add.mpr (Or.inr hj)

/-- Predicates that bring the tables that they read leave a selection with all the tables that it
reads. -/
theorem Predicate.provided_foldl_restrict {predicates : List Predicate} {sel : Selection}
    (hp : ∀ p ∈ predicates, p.Provided) (h : sel.Provided) :
    (predicates.foldl Predicate.restrict sel).Provided := by
  induction predicates generalizing sel with
  | nil => exact h
  | cons p predicates ih =>
    refine ih (fun q hq => hp q (List.mem_cons_of_mem p hq)) ?_
    exact provided_restrict (hp p List.mem_cons_self) h

/-- The selection of a query before its filters reads work packages only. -/
theorem Query.provided_baseSelection (q : Query) : q.baseSelection.Provided := by
  have ofScope : ∀ column ∈ q.scope.condition.columns, column.source = .workPackages := by
    intro column hcolumn
    cases hs : q.scope with
    | projects ids => cases ids <;> simp_all [Scope.condition, Condition.columns]
    | _ => simp_all [Scope.condition, Condition.columns]
  intro c hc column hcolumn j hj
  have own : column.source = .workPackages := by
    rcases List.mem_cons.mp hc with rfl | hc
    · exact ofScope column hcolumn
    · obtain ⟨id, -, rfl⟩ := List.mem_map.mp hc
      rw [List.mem_singleton.mp hcolumn]
      rfl
  rw [own] at hj
  cases hj

/-- Providing a field adds no condition. -/
@[simp]
theorem Field.conditions_provide (sel : Selection) (f : Field) :
    (Field.provide sel f).conditions = sel.conditions := by
  unfold provide
  cases f.requiredJoin? <;> rfl

/-- Providing a field adds the join that it requires only. -/
theorem Field.mem_joins_provide {sel : Selection} {f : Field} {j : Join} :
    j ∈ (Field.provide sel f).joins ↔ j ∈ sel.joins ∨ j ∈ f.requiredJoin?.toList := by
  unfold provide
  cases f.requiredJoin? with
  | none => simp
  | some k => simp [Selection.addJoin, Join.mem_add]

/-- Providing fields adds no condition. -/
@[simp]
theorem Field.conditions_foldl_provide (fields : List Field) (sel : Selection) :
    (fields.foldl Field.provide sel).conditions = sel.conditions := by
  induction fields generalizing sel with
  | nil => rfl
  | cons f fields ih => rw [List.foldl_cons, ih, conditions_provide]

/-- Providing fields adds the joins that they require only. -/
theorem Field.mem_joins_foldl_provide {fields : List Field} {sel : Selection} {j : Join} :
    j ∈ (fields.foldl Field.provide sel).joins ↔
      j ∈ sel.joins ∨ ∃ f ∈ fields, j ∈ f.requiredJoin?.toList := by
  induction fields generalizing sel with
  | nil => simp
  | cons f fields ih =>
    rw [List.foldl_cons, ih, mem_joins_provide, or_assoc]
    simp

/-- Providing a field repeats no join. -/
theorem Field.nodup_joins_provide {sel : Selection} (h : sel.joins.Nodup) (f : Field) :
    (Field.provide sel f).joins.Nodup := by
  unfold provide
  cases f.requiredJoin? with
  | none => exact h
  | some j => exact Join.nodup_foldl_add h [j]

/-- Providing fields repeats no join. -/
theorem Field.nodup_joins_foldl_provide {sel : Selection} (h : sel.joins.Nodup)
    (fields : List Field) : (fields.foldl Field.provide sel).joins.Nodup := by
  induction fields generalizing sel with
  | nil => exact h
  | cons f fields ih => exact ih (nodup_joins_provide h f)

/-- With more joins and the same conditions a selection has the joins for all that it reads. -/
theorem Sql.Selection.Provided.of_joins {sel sel' : Selection} (h : sel.Provided)
    (conditions : sel'.conditions = sel.conditions) (sub : sel.joins ⊆ sel'.joins) :
    sel'.Provided := by
  intro c hc column hcolumn
  rw [conditions] at hc
  exact (h c hc column hcolumn).mono sub

/-- A selection keeps all the tables that it reads when a field is provided. -/
theorem Sql.Selection.Provided.provide {sel : Selection} (h : sel.Provided) (f : Field) :
    (Field.provide sel f).Provided :=
  h.of_joins (Field.conditions_provide sel f) fun _ hj => Field.mem_joins_provide.mpr (Or.inl hj)

namespace Session

/-- The predicate of a filter has the joins for the columns that it reads. -/
theorem provided_filterPredicate {x : Session} {project? : Option Int} {c : Clause}
    {p : Predicate} (h : x.filterPredicate project? c = .ok p) : p.Provided := by
  unfold filterPredicate at h
  split_ifs at h with hrole
  · unfold rolePredicate at h
    split_ifs at h with hop
    · split at h
      · cases h
      · rw [← Except.ok.inj h]
        exact Clause.provided_predicate Field.resolved_assignee
    · rw [← Except.ok.inj h]
      exact Predicate.provided_empty
  · split at h
    · cases h
    · rename_i f hf
      rw [← Except.ok.inj h]
      exact Clause.provided_predicate (Catalog.resolved_of_resolve hf)

/-- The selection of a query is what the predicates of its filters restrict the scope and the
project to. -/
theorem selection_eq_ok_iff {x : Session} {q : Query} {sel : Selection} :
    x.selection q = .ok sel ↔
      ∃ predicates, q.filters.mapM (x.filterPredicate q.project?) = .ok predicates ∧
        predicates.foldl Predicate.restrict q.baseSelection = sel := by
  unfold selection
  rw [bind_eq_ok_iff]
  simp only [pure, Except.pure, Except.ok.injEq]

/-- The selection of a query has the joins for all that it reads. -/
theorem provided_selection {x : Session} {q : Query} {sel : Selection}
    (h : x.selection q = .ok sel) : sel.Provided := by
  obtain ⟨predicates, hp, rfl⟩ := selection_eq_ok_iff.mp h
  refine Predicate.provided_foldl_restrict ?_ q.provided_baseSelection
  intro p mem
  obtain ⟨c, -, hc⟩ := (mem_of_mapM_eq_ok hp).mp mem
  exact provided_filterPredicate hc

end Session

end Worklist
