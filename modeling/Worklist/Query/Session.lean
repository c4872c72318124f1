import Worklist.Filter.Predicate
import Worklist.Query.Basic
import Worklist.Query.GroupKey
import Worklist.Query.Outcome
import Worklist.Query.Pool
import Worklist.Query.Roles
import Worklist.WorkPackage.Basic

/-!
# Sessions

A session answers queries: how many work packages a query finds, how many for each value of a field,
and one page of them. Everything that can be wrong with the fields of a query is found before the
first statement is put to the store. The condition of the scope and that of the project stand in
every statement, next to those of the filters.
-/

set_option autoImplicit false

namespace Worklist

open Sql (Column OrderTerm Selection Statement)

/-- What queries are answered with. -/
structure Session where
  pool : Pool
  /-- How the store of the pool goes about selections. -/
  planner : Store.Planner
  catalog : Catalog
  settings : Settings
  today : Calendar.Date

/-- The key of the filter by roles, which is no field. -/
def assignedToRole : FieldKey := .plain "assigned_to_role"

/-- The column of the project of a work package. -/
def projectColumn : Column := ⟨.workPackages, "project_id"⟩

namespace Query

/-- The selection of a query before its filters. -/
def baseSelection (q : Query) : Selection :=
  let project := q.project?.toList.map fun id =>
    Sql.Condition.compare (.column projectColumn) .eq (.whole id)
  ⟨[], q.scope.condition :: project⟩

end Query

/-- The selection with the demand of a predicate; without a demand nothing changes. -/
def Predicate.restrict (s : Selection) (p : Predicate) : Selection :=
  match p.condition? with
  | none => s
  | some c => ⟨p.joins.foldl Sql.Join.add s.joins, s.conditions ++ [c]⟩

/-- The selection with the join that a field needs. -/
def Field.provide (s : Selection) (f : Field) : Selection :=
  f.requiredJoin?.toList.foldl Selection.addJoin s

namespace Session

/-- What filters are read against. -/
def filterContext (x : Session) : FilterContext :=
  ⟨x.today, x.settings.weekStart⟩

/-- The holders of roles; without roles nobody is looked up. Each role and the project are one
parameter of the lookup. -/
def roleHolders (x : Session) (roles : List String) (project? : Option Int) :
    Except StoreError (List Int) :=
  if roles.isEmpty then .ok []
  else do
    let s ← x.pool.read
    if Store.maxParameters < roles.length + project?.toList.length then throw .refused
    pure (s.roleHolders roles project?)

/-- The predicate of a filter by roles: the assignee is one of the holders, or none of them. Other
operators make no demand. -/
def rolePredicate (x : Session) (project? : Option Int) (c : Clause) :
    Except QueryError Predicate :=
  if c.operator = .equals ∨ c.operator = .notEquals then
    match x.roleHolders c.values project? with
    | .error e => .error (.store e)
    | .ok users =>
      let assignee := Clause.ofValues (.plain "assigned_to_id") c.operator (users.map .int)
      .ok (assignee.predicate x.filterContext (Field.plain "assigned_to_id" .integer))
  else .ok .empty

/-- The predicate of a filter. -/
def filterPredicate (x : Session) (project? : Option Int) (c : Clause) :
    Except QueryError Predicate :=
  if c.field = assignedToRole then x.rolePredicate project? c
  else
    match x.catalog.resolve c.field with
    | .error e => .error (.resolution e)
    | .ok f => .ok (c.predicate x.filterContext f)

/-- The selection of a query; the first filter that fails decides the error. -/
def selection (x : Session) (q : Query) : Except QueryError Selection := do
  let predicates ← q.filters.mapM (x.filterPredicate q.project?)
  pure (predicates.foldl Predicate.restrict q.baseSelection)

/-- The fields of the sort keys of a query, with their directions. -/
def sortFields (x : Session) (q : Query) : Except QueryError (List (Field × Bool)) :=
  q.order.mapM fun key =>
    match x.catalog.resolveSortable key.field with
    | .error e => .error (.resolution e)
    | .ok f => .ok (f, key.descending)

/-- The columns of an order by fields. The `id` comes last unless it is among them, so no two rows
are left without an order; without any fields the greatest `id` comes first. -/
def orderTerms : List (Field × Bool) → List OrderTerm
  | [] => [⟨.workPackageId, true, false⟩]
  | fields =>
    let terms := fields.map fun f =>
      (⟨f.1.column, f.2, decide (f.1.column ≠ .workPackageId)⟩ : OrderTerm)
    if fields.any fun f => f.1.column == .workPackageId then terms
    else terms ++ [⟨.workPackageId, false, false⟩]

/-- Puts a statement to the store. -/
def run {α : Type} (x : Session) (statement : Statement) (answer : Store → Except StoreError α) :
    Outcome α :=
  Outcome.ofStatement statement (x.pool.read >>= answer)

/-- How many work packages a selection has. -/
def countSelection (x : Session) (sel : Selection) : Outcome Nat :=
  x.run (.count sel) fun s => s.count x.planner sel

/-- How many work packages a query finds. -/
def count (x : Session) (q : Query) : Outcome Nat := do
  let sel ← Outcome.ofExcept (x.selection q)
  x.countSelection sel

/-- One page of the work packages that a query finds. -/
def page (x : Session) (q : Query) (p : Pagination) : Outcome (Page WorkPackage) := do
  let sel ← Outcome.ofExcept (x.selection q)
  let fields ← Outcome.ofExcept (x.sortFields q)
  let sel := (fields.map Prod.fst).foldl Field.provide sel
  let total ← x.countSelection sel
  let order := orderTerms fields
  let size := p.size x.settings
  let offset := p.offset x.settings
  let items ← x.run (.page sel order size offset) fun s => do
    let rows ← s.page x.planner sel order size offset
    rows.mapM fun row => WorkPackage.ofRecord row.workPackage
  pure ⟨items, total, p.number, size⟩

/-- The text of a group as its key is read from it: an empty value of a custom field is none. -/
def groupText? (f : Field) (g : Store.Group) : Option String :=
  g.text?.filter fun s => !(f.isCustom && s.isEmpty)

/-- The counts of groups by their keys; groups with one key are counted together. -/
def groupCounts (f : Field) (groups : List Store.Group) : GroupCounts :=
  groups.foldl (fun counts g => counts.add (.decode f (groupText? f g)) g.count) []

/-- How many work packages a query finds for each value of a field. -/
def countByGroup (x : Session) (q : Query) (dimension : FieldKey) : Outcome GroupCounts := do
  let f ← Outcome.ofExcept ((x.catalog.resolve dimension).mapError QueryError.resolution)
  let sel ← Outcome.ofExcept (x.selection q)
  let sel := Field.provide sel f
  let groups ← x.run (.group sel f.column) fun s => s.group x.planner sel f.column
  pure (groupCounts f groups)

end Session

end Worklist
