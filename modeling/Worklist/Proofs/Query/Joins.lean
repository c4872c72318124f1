import Worklist.Proofs.Query.FirstFailure
import Worklist.Proofs.Query.ManyFilters

/-!
# The joins of a statement

Joins come from three sides: a filter needs the table of its field, and that of the status if it
asks for the flag; a sort key and the field of groups need the table of a custom field. However they
come together, each table is joined once, and none is joined that no filter with a demand, no sort
key and no field of groups needs.

Without filters by roles the conditions of a query are those of its scope and its project and then
the predicates of its clauses, but for those without a demand. The query fails as its clauses do.
-/

set_option autoImplicit false

namespace Worklist

open Sql (Column Condition Join Selection Statement)

/-! ## The texts of predicates -/

/-- Only a condition that is given as text can be written as no text. -/
theorem Sql.Condition.text_ne_empty {c : Condition} (own : ∀ sql, c ≠ .verbatim sql)
    (d : Sql.Dialect) : c.text d ≠ "" := by
  cases c with
  | verbatim sql => exact absurd rfl (own sql)
  | constant holds => cases holds <;> simp [text]
  | isNull c negated => cases negated <;> simp [text]
  | _ => simp [text]

/-- The condition of a clause is none that is given as text. -/
theorem Clause.ne_verbatim {c : Clause} {context : FilterContext} {f : Field}
    {condition : Condition} (h : c.condition? context f = some condition) (sql : String) :
    condition ≠ .verbatim sql := by
  rintro rfl
  cases leaf_of_condition? h (.verbatim sql) (List.mem_singleton.mpr rfl)

/-- The conditions of predicates are written as those of their texts that are not empty. -/
theorem Predicate.map_text_filterMap (d : Sql.Dialect) {predicates : List Predicate}
    (own : ∀ p ∈ predicates, ∀ condition, p.condition? = some condition →
      ∀ sql, condition ≠ .verbatim sql) :
    (predicates.filterMap Predicate.condition?).map (Condition.text d) =
      (predicates.map (Predicate.text d)).filter fun text => text ≠ "" := by
  induction predicates with
  | nil => rfl
  | cons p predicates ih =>
    obtain ⟨first, rest⟩ := List.forall_mem_cons.mp own
    rw [List.filterMap_cons, List.map_cons, List.filter_cons]
    unfold Predicate.text
    cases compiled : p.condition? with
    | none => exact ih rest
    | some condition =>
      have written := Condition.text_ne_empty (first condition compiled) d
      simp only [List.map_cons, ih rest, written, ne_eq, not_false_eq_true, decide_true, if_true]
      rfl

/-! ## Queries without filters by roles -/

/-- The texts that the condition of a query is put together from: that of its scope, that of its
project, and those of predicates that make a demand. -/
def Query.whereParts (d : Sql.Dialect) (q : Query) (predicates : List Predicate) : List String :=
  [q.scope.condition.text d] ++
    q.project?.toList.map (fun id => "work_packages.project_id = " ++ Number.decimal id) ++
    (predicates.map (Predicate.text d)).filter fun text => text ≠ ""

namespace Session

variable {x : Session} {q : Query}

/-- Without filters by roles the predicates of a query are those of its clauses. -/
theorem predicates_of_fields (fields : ∀ c ∈ q.filters, c.field ≠ assignedToRole) :
    q.filters.mapM (x.filterPredicate q.project?) =
      (Clause.predicates x.filterContext x.catalog q.filters).mapError QueryError.resolution := by
  apply mapM_mapError
  intro c hc
  unfold filterPredicate
  rw [if_neg (fields c hc)]
  cases x.catalog.resolve c.field <;> rfl

/-- Without a filter by roles a query fails to be selected as its clauses fail to be compiled
together. -/
theorem selection_eq_error_iff_of_fields (fields : ∀ c ∈ q.filters, c.field ≠ assignedToRole)
    (e : QueryError) :
    x.selection q = .error e ↔ ∃ cause, e = .resolution cause ∧
      Clause.predicates x.filterContext x.catalog q.filters = .error cause := by
  unfold selection
  rw [predicates_of_fields fields]
  cases Clause.predicates x.filterContext x.catalog q.filters with
  | error cause =>
    constructor
    · intro failed
      exact ⟨cause, (Except.error.inj failed).symm, rfl⟩
    · rintro ⟨cause', rfl, same⟩
      rw [Except.error.inj same]
      rfl
  | ok predicates => exact iff_of_false (by rintro ⟨⟩) (by rintro ⟨cause, -, ⟨⟩⟩)

/-- Without a filter by roles the condition of a query is that of its clauses, compiled together,
behind the scope and the project. -/
theorem whereText_of_fields (fields : ∀ c ∈ q.filters, c.field ≠ assignedToRole) {sel : Selection}
    (hsel : x.selection q = .ok sel) :
    ∃ predicates, Clause.predicates x.filterContext x.catalog q.filters = .ok predicates ∧
      ∀ d, sel.whereText d = String.intercalate " AND "
        ((q.whereParts d predicates).map fun part => "(" ++ part ++ ")") := by
  obtain ⟨predicates, hp, rfl⟩ := selection_eq_ok_iff.mp hsel
  rw [predicates_of_fields fields] at hp
  have compiled := mapError_eq_ok_iff.mp hp
  refine ⟨predicates, compiled, fun d => ?_⟩
  have own : ∀ p ∈ predicates, ∀ condition, p.condition? = some condition →
      ∀ sql, condition ≠ .verbatim sql := by
    intro p mem condition given
    obtain ⟨c, -, hc⟩ := (mem_of_mapM_eq_ok compiled).mp mem
    obtain ⟨f, -, hf⟩ := bind_eq_ok_iff.mp hc
    rw [← Except.ok.inj hf, Clause.predicate_condition?] at given
    exact Clause.ne_verbatim given
  have base : q.baseSelection.conditions.map (Condition.text d) = [q.scope.condition.text d] ++
      q.project?.toList.map (fun id => "work_packages.project_id = " ++ Number.decimal id) := by
    unfold Query.baseSelection
    rw [List.map_cons, List.map_map]
    rfl
  unfold Selection.whereText Query.whereParts
  rw [Predicate.conditions_foldl_restrict, ← Predicate.map_text_filterMap d own, ← base,
    ← List.map_append, List.map_map]
  rfl

end Session

/-! ## The tables that filters and fields need -/

/-- A predicate with a demand has the joins of its clause. -/
theorem Clause.mem_joins_predicate {c : Clause} {context : FilterContext} {f : Field} {j : Join}
    (demands : (c.predicate context f).isEmpty = false) :
    j ∈ (c.predicate context f).joins ↔ f.requiredJoin? = some j ∨ j = .status ∧ c.AsksStatus := by
  unfold predicate at demands ⊢
  cases compiled : c.condition? context f with
  | none =>
    rw [compiled] at demands
    cases demands
  | some condition => exact mem_joins

/-- The field of a sort key needs the table of the custom field that the key names. -/
theorem Catalog.requiredJoin?_of_resolveSortable {catalog : Catalog} {key : FieldKey} {f : Field}
    (resolved : catalog.resolveSortable key = .ok f) : f.requiredJoin? = key.join? := by
  cases key with
  | custom id =>
    have same : catalog.resolveSortable (.custom id) = catalog.resolve (.custom id) := rfl
    exact requiredJoin?_of_resolve (same ▸ resolved)
  | plain name =>
    simp only [resolveSortable] at resolved
    split_ifs at resolved
    rw [← Except.ok.inj resolved]
    rfl

/-- Only the key of a custom field joins its values. -/
theorem FieldKey.join?_eq_customValue {key : FieldKey} {id : Int} :
    key.join? = some (.customValue id) ↔ key = .custom id := by
  cases key <;> simp [join?]

/-- No key of a field joins the status. -/
theorem FieldKey.join?_ne_status (key : FieldKey) : key.join? ≠ some .status := by
  cases key <;> simp [join?]

/-! ## The names of joined tables -/

/-- The name of a custom field's table is none that starts otherwise. -/
theorem Sql.Join.name_customValue_ne (id : Int) {name : String}
    (first : name.toList.head? ≠ some 'c') : Join.name (.customValue id) ≠ name := by
  rintro rfl
  exact first (by simp [Join.name, Join.source, Sql.Source.name])

/-- Different joins have different names. -/
theorem Sql.Join.name_injective : Function.Injective Join.name := by
  intro j k same
  cases j with
  | status =>
    cases k with
    | status => rfl
    | customValue id => exact absurd same.symm (name_customValue_ne id (by decide))
  | customValue id =>
    cases k with
    | status => exact absurd same (name_customValue_ne id (by decide))
    | customValue id' =>
      have numbers : Number.decimal id = Number.decimal id' :=
        (String.append_right_inj "cv_").mp same
      rw [Number.decimal_injective numbers]

/-- Tables that are joined once have names of their own, next to that of the work packages. -/
theorem Sql.Join.nodup_names {joins : List Join} (h : joins.Nodup) :
    (Sql.Source.workPackages.name :: joins.map Join.name).Nodup := by
  refine List.nodup_cons.mpr ⟨?_, h.map name_injective⟩
  rw [List.mem_map]
  rintro ⟨j, -, same⟩
  cases j with
  | status => exact absurd same (by decide)
  | customValue id => exact name_customValue_ne id (by decide) same

/-! ## The statements of a call -/

/-- The columns that a statement orders or groups rows by. -/
def Sql.Statement.arranging : Statement → List Column
  | .count _ => []
  | .page _ order _ _ => order.map Sql.OrderTerm.column
  | .group _ column => [column]

/-- The columns that a statement reads. -/
def Sql.Statement.columns (s : Statement) : List Column :=
  s.selection.conditions.flatMap Condition.columns ++ s.arranging

/-- The statements of two steps in a row are those of the first, and those of the second if the
first succeeds. -/
theorem Outcome.mem_statements_bind {α β : Type} {o : Outcome α} {next : α → Outcome β}
    {s : Statement} :
    s ∈ (o >>= next).statements ↔
      s ∈ o.statements ∨ ∃ a, o.result = .ok a ∧ s ∈ (next a).statements := by
  change s ∈ (o.andThen next).statements ↔ _
  cases given : o.result with
  | error e => simp [andThen_of_error next given]
  | ok a => simp [andThen_of_ok next given]

/-- A step without statements is followed by the statements of the next one. -/
theorem Outcome.mem_statements_ofExcept {α β : Type} {step : Except QueryError α}
    {next : α → Outcome β} {s : Statement} :
    s ∈ (ofExcept step >>= next).statements ↔ ∃ a, step = .ok a ∧ s ∈ (next a).statements := by
  rw [mem_statements_bind]
  exact or_iff_right List.not_mem_nil

namespace Session

variable {x : Session} {q : Query} {s : Statement}

/-- The statement of a count is on the selection of the query. -/
theorem statements_count (hs : s ∈ (x.count q).statements) :
    ∃ sel, x.selection q = .ok sel ∧ s = .count sel := by
  obtain ⟨sel, hsel, own⟩ := Outcome.mem_statements_ofExcept.mp hs
  exact ⟨sel, hsel, List.mem_singleton.mp own⟩

/-- The statement of a grouping is on the selection of the query, with the join of the dimension. -/
theorem statements_countByGroup {dimension : FieldKey}
    (hs : s ∈ (x.countByGroup q dimension).statements) :
    ∃ f sel, x.catalog.resolve dimension = .ok f ∧ x.selection q = .ok sel ∧
      s = .group (Field.provide sel f) f.column := by
  obtain ⟨f, hf, hs⟩ := Outcome.mem_statements_ofExcept.mp hs
  obtain ⟨sel, hsel, hs⟩ := Outcome.mem_statements_ofExcept.mp hs
  refine ⟨f, sel, mapError_eq_ok_iff.mp hf, hsel, ?_⟩
  rcases Outcome.mem_statements_bind.mp hs with own | ⟨groups, -, none⟩
  · exact List.mem_singleton.mp own
  · cases none

/-- A page is counted and then listed, with the joins of its order in both statements. -/
theorem statements_page {p : Pagination} (hs : s ∈ (x.page q p).statements) :
    ∃ sel fields, x.selection q = .ok sel ∧ x.sortFields q = .ok fields ∧
      (s = .count (pageSelection sel fields) ∨
        s = .page (pageSelection sel fields) (orderTerms fields) (p.size x.settings)
          (p.offset x.settings)) := by
  obtain ⟨sel, hsel, hs⟩ := Outcome.mem_statements_ofExcept.mp hs
  obtain ⟨fields, hfields, hs⟩ := Outcome.mem_statements_ofExcept.mp hs
  refine ⟨sel, fields, hsel, hfields, ?_⟩
  rcases Outcome.mem_statements_bind.mp hs with own | ⟨total, -, hs⟩
  · exact Or.inl (List.mem_singleton.mp own)
  · rcases Outcome.mem_statements_bind.mp hs with own | ⟨items, -, none⟩
    · exact Or.inr (List.mem_singleton.mp own)
    · cases none

/-- Whether a filter makes a demand. -/
def Demands (x : Session) (project? : Option Int) (c : Clause) : Prop :=
  ∃ p, x.filterPredicate project? c = .ok p ∧ p.isEmpty = false

/-- A filter with a demand needs the table of the custom field that it names, and that of the status
if it asks for the flag. -/
theorem mem_joins_filterPredicate {project? : Option Int} {c : Clause} {p : Predicate}
    (hp : x.filterPredicate project? c = .ok p) (demands : p.isEmpty = false) {j : Join} :
    j ∈ p.joins ↔ c.field.join? = some j ∨ j = .status ∧ c.AsksStatus := by
  unfold filterPredicate at hp
  split_ifs at hp with role
  · unfold rolePredicate at hp
    split_ifs at hp with asked
    · split at hp
      · cases hp
      · rename_i users holders
        rw [← Except.ok.inj hp] at demands ⊢
        rw [Clause.mem_joins_predicate demands, role]
        rfl
    · rw [← Except.ok.inj hp] at demands
      cases demands
  · split at hp
    · cases hp
    · rename_i f hf
      rw [← Except.ok.inj hp] at demands ⊢
      rw [Clause.mem_joins_predicate demands, Catalog.requiredJoin?_of_resolve hf]

/-- A query joins what the fields of its demanding filters need, and the status if one of these asks
for it. -/
theorem mem_joins_selection {sel : Selection} (hsel : x.selection q = .ok sel) {j : Join} :
    j ∈ sel.joins ↔ ∃ c ∈ q.filters, x.Demands q.project? c ∧
      (c.field.join? = some j ∨ j = .status ∧ c.AsksStatus) := by
  obtain ⟨predicates, hp, rfl⟩ := selection_eq_ok_iff.mp hsel
  have none : j ∉ q.baseSelection.joins := List.not_mem_nil
  rw [Predicate.mem_joins_foldl_restrict, or_iff_right none]
  constructor
  · rintro ⟨p, mem, demands, hj⟩
    obtain ⟨c, hc, hcp⟩ := (mem_of_mapM_eq_ok hp).mp mem
    exact ⟨c, hc, ⟨p, hcp, demands⟩, (mem_joins_filterPredicate hcp demands).mp hj⟩
  · rintro ⟨c, hc, ⟨p, hcp, demands⟩, needs⟩
    exact ⟨p, (mem_of_mapM_eq_ok hp).mpr ⟨c, hc, hcp⟩, demands,
      (mem_joins_filterPredicate hcp demands).mpr needs⟩

/-- A query joins no table twice. -/
theorem nodup_joins_selection {sel : Selection} (hsel : x.selection q = .ok sel) :
    sel.joins.Nodup := by
  obtain ⟨predicates, -, rfl⟩ := selection_eq_ok_iff.mp hsel
  exact Predicate.nodup_joins_foldl_restrict List.nodup_nil predicates

/-- Whether a statement joins the tables that the filters of a query with a demand and some more
fields need, no others, and each once and under a name of its own. -/
structure JoinsOnce (x : Session) (q : Query) (keys : List FieldKey) (s : Statement) : Prop where
  once : s.selection.joins.Nodup
  names : (Sql.Source.workPackages.name :: s.selection.joins.map Join.name).Nodup
  available : ∀ c ∈ s.columns, ∀ j, c.source.join? = some j → s.selection.joins.count j = 1
  customValue : ∀ id, .customValue id ∈ s.selection.joins ↔
    .custom id ∈ keys ∨ ∃ c ∈ q.filters, x.Demands q.project? c ∧ c.field = .custom id
  status : .status ∈ s.selection.joins ↔
    ∃ c ∈ q.filters, x.Demands q.project? c ∧ c.AsksStatus

/-- A statement joins once what the selection of a query has and what more fields need, if this is
all that it joins. -/
theorem joinsOnce_of_mem {keys : List FieldKey} {sel : Selection} (hsel : x.selection q = .ok sel)
    (once : s.selection.joins.Nodup) (conditions : s.selection.conditions = sel.conditions)
    (arranging : ∀ c ∈ s.arranging, c.Provided s.selection.joins)
    (mem : ∀ j, j ∈ s.selection.joins ↔ j ∈ sel.joins ∨ ∃ key ∈ keys, key.join? = some j) :
    x.JoinsOnce q keys s := by
  have provided : s.selection.Provided :=
    (provided_selection hsel).of_joins conditions fun j hj => (mem j).mpr (Or.inl hj)
  refine ⟨once, Join.nodup_names once, ?_, ?_, ?_⟩
  · intro column hcolumn j hj
    apply List.count_eq_one_of_mem once
    rcases List.mem_append.mp hcolumn with read | arranged
    · obtain ⟨c, hc, hcolumn⟩ := List.mem_flatMap.mp read
      exact provided c hc column hcolumn j hj
    · exact arranging column arranged j hj
  · intro id
    rw [mem, mem_joins_selection hsel, or_comm]
    simp [FieldKey.join?_eq_customValue]
  · rw [mem, mem_joins_selection hsel]
    simp [FieldKey.join?_ne_status]

/-- A count joins what it needs once. -/
theorem joinsOnce_count (hs : s ∈ (x.count q).statements) : x.JoinsOnce q [] s := by
  obtain ⟨sel, hsel, rfl⟩ := statements_count hs
  refine joinsOnce_of_mem hsel (nodup_joins_selection hsel) rfl (List.forall_mem_nil _) ?_
  simp [Statement.selection]

/-- A grouping joins what it needs once, the dimension included. -/
theorem joinsOnce_countByGroup {dimension : FieldKey}
    (hs : s ∈ (x.countByGroup q dimension).statements) : x.JoinsOnce q [dimension] s := by
  obtain ⟨f, sel, hf, hsel, rfl⟩ := statements_countByGroup hs
  have own := Catalog.requiredJoin?_of_resolve hf
  refine joinsOnce_of_mem hsel (Field.nodup_joins_provide (nodup_joins_selection hsel) f)
    (Field.conditions_provide sel f) ?_ ?_
  · refine List.forall_mem_singleton.mpr ((Catalog.resolved_of_resolve hf).provided.mono ?_)
    exact fun j hj => Field.mem_joins_provide.mpr (Or.inr hj)
  · intro j
    show j ∈ (Field.provide sel f).joins ↔ _
    rw [Field.mem_joins_provide, own]
    simp

/-- The tables that the fields of an order need are those of the custom fields of its keys. -/
theorem exists_requiredJoin?_iff {fields : List (Field × Bool)}
    (hfields : x.sortFields q = .ok fields) {j : Join} :
    (∃ f ∈ fields.map Prod.fst, j ∈ f.requiredJoin?.toList) ↔
      ∃ key ∈ q.order.map SortKey.field, key.join? = some j := by
  have each : q.order.mapM x.sortField = .ok fields := hfields
  have own {key : SortKey} {f : Field × Bool} (h : x.sortField key = .ok f) :
      f.1.requiredJoin? = key.field.join? := by
    unfold sortField at h
    split at h
    · cases h
    · rename_i f' resolved
      rw [← Except.ok.inj h]
      exact Catalog.requiredJoin?_of_resolveSortable resolved
  constructor
  · rintro ⟨_, mem, needs⟩
    obtain ⟨f, hf, rfl⟩ := List.mem_map.mp mem
    obtain ⟨key, hkey, resolved⟩ := (mem_of_mapM_eq_ok each).mp hf
    rw [own resolved] at needs
    exact ⟨key.field, List.mem_map_of_mem hkey, Option.mem_toList.mp needs⟩
  · rintro ⟨_, mem, needs⟩
    obtain ⟨key, hkey, rfl⟩ := List.mem_map.mp mem
    obtain ⟨f, hf, resolved⟩ := exists_of_mapM_eq_ok each hkey
    refine ⟨f.1, List.mem_map_of_mem hf, Option.mem_toList.mpr ?_⟩
    rw [own resolved]
    exact needs

/-- The statements of a page join what they need once, the order included. -/
theorem joinsOnce_page {p : Pagination} (hs : s ∈ (x.page q p).statements) :
    x.JoinsOnce q (q.order.map SortKey.field) s := by
  obtain ⟨sel, fields, hsel, hfields, hs⟩ := statements_page hs
  have selected : s.selection = pageSelection sel fields := by
    rcases hs with rfl | rfl <;> rfl
  refine joinsOnce_of_mem hsel ?_ ?_ ?_ ?_
  · rw [selected]
    exact Field.nodup_joins_foldl_provide (nodup_joins_selection hsel) _
  · rw [selected, conditions_pageSelection]
  · have available : ∀ t ∈ orderTerms fields, t.column.Provided (pageSelection sel fields).joins :=
      available_pageSelection (resolved_of_sortFields hfields)
    rw [selected]
    rcases hs with rfl | rfl
    · exact List.forall_mem_nil _
    · exact List.forall_mem_map.mpr available
  · intro j
    rw [selected, ← exists_requiredJoin?_iff hfields]
    exact Field.mem_joins_foldl_provide

/-- Without filters by roles the selection of a query fails as the clauses of its filters do, and
otherwise its condition is written with their predicates. Every statement of a query joins what its
filters, its sort keys and its field of groups need, and each table once. -/
theorem joins_once (x : Session) (q : Query) :
    ((∀ c ∈ q.filters, c.field ≠ assignedToRole) →
      (∀ e, x.selection q = .error e ↔ ∃ cause, e = .resolution cause ∧
        Clause.predicates x.filterContext x.catalog q.filters = .error cause) ∧
      ∀ sel, x.selection q = .ok sel → ∃ predicates,
        Clause.predicates x.filterContext x.catalog q.filters = .ok predicates ∧
        ∀ d, sel.whereText d = String.intercalate " AND "
          ((q.whereParts d predicates).map fun part => "(" ++ part ++ ")")) ∧
    (∀ s ∈ (x.count q).statements, x.JoinsOnce q [] s) ∧
    (∀ dimension, ∀ s ∈ (x.countByGroup q dimension).statements, x.JoinsOnce q [dimension] s) ∧
    ∀ p, ∀ s ∈ (x.page q p).statements, x.JoinsOnce q (q.order.map SortKey.field) s := by
  refine ⟨fun fields => ⟨selection_eq_error_iff_of_fields fields, fun sel => ?_⟩, ?_, ?_, ?_⟩
  · exact whereText_of_fields fields
  · exact fun s => joinsOnce_count
  · exact fun dimension s => joinsOnce_countByGroup
  · exact fun p s => joinsOnce_page

/-! ## A sample -/

/-- The sample with two custom fields. -/
def joinSession : Session :=
  { sampleSession with catalog := ⟨[(7, .int), (8, .text)]⟩ }

/-- Two filters on one custom field, one on the flag of the status, and one that asks for the flag
of a field that has none. -/
def joinQuery : Query :=
  ⟨[⟨.custom 7, .isPresent, [], true⟩, ⟨.plain "status_id", .openStatus, [], false⟩,
    ⟨.custom 7, .atLeast, ["3"], true⟩, ⟨.plain "subject", .closedStatus, [], false⟩],
    some 1, .all, [⟨.custom 8, true⟩]⟩

/-- The custom field of two filters is joined once, and the filter without a demand leaves no trace
in the condition. -/
theorem joins_once_joinQuery :
    ∃ sel, joinSession.selection joinQuery = .ok sel ∧
      joinSession.JoinsOnce joinQuery [] (.count sel) ∧
      sel.joins = [.customValue 7, .status] ∧
      ∃ predicates, sel.whereText .sqlite = String.intercalate " AND "
          ((joinQuery.whereParts .sqlite predicates).map fun part => "(" ++ part ++ ")") ∧
        joinQuery.whereParts .sqlite predicates = ["1=1", "work_packages.project_id = 1",
          "(cv_7.value IS NOT NULL AND cv_7.value <> '')", "statuses.is_closed = 0",
          "(cv_7.value <> '' AND CAST(cv_7.value AS DECIMAL(60,4)) >= 3.0)"] := by
  have once := joins_once joinSession joinQuery
  obtain ⟨-, written⟩ := once.1 (by decide)
  obtain ⟨sel, hsel⟩ : ∃ sel, joinSession.selection joinQuery = .ok sel := ⟨_, rfl⟩
  obtain ⟨predicates, compiled, text⟩ := written sel hsel
  have counted : (joinSession.count joinQuery).statements = [.count sel] := by
    unfold count
    rw [hsel]
    rfl
  refine ⟨sel, hsel, once.2.1 _ ?_, ?_, predicates, text .sqlite, ?_⟩
  · rw [counted]
    exact List.mem_singleton.mpr rfl
  · rw [← Except.ok.inj hsel]
    decide +kernel
  · rw [← Except.ok.inj compiled]
    decide +kernel

end Session

end Worklist
