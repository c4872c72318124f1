import Worklist.Sql.Condition

/-!
# Statements

The three statements on work packages: how many rows a selection has, one page of them in an order,
and how many there are for each value of a column. A selection is the joins and the conditions that
the three have in common; a row must satisfy every condition.
-/

set_option autoImplicit false

namespace Worklist.Sql

/-- The joins and the conditions of a statement. -/
structure Selection where
  joins : List Join
  conditions : List Condition
  deriving DecidableEq

namespace Selection

/-- The selection with one more join, unless it has it. -/
def addJoin (s : Selection) (j : Join) : Selection :=
  { s with joins := Join.add s.joins j }

/-- The tables of a selection. -/
def fromText (s : Selection) : String :=
  String.intercalate " " ("FROM work_packages" :: s.joins.map Join.text)

/-- The conditions of a selection, each in parentheses of its own. -/
def whereText (d : Dialect) (s : Selection) : String :=
  String.intercalate " AND " (s.conditions.map fun c => (Condition.grouped c).text d)

end Selection

/-- One column of an order. -/
structure OrderTerm where
  column : Column
  descending : Bool
  /-- Whether rows without a value are placed last; an identifying column needs no such rule. -/
  nullsLast : Bool
  deriving DecidableEq, Repr

/-- The text of one column of an order. -/
def OrderTerm.text (d : Dialect) (t : OrderTerm) : String :=
  if t.nullsLast then d.orderWithNulls t.column.text t.descending true
  else t.column.text ++ " " ++ Dialect.direction t.descending

/-- The columns that a page shows, in this order. -/
def listedColumns : List String :=
  ["id", "project_id", "subject", "status_id", "assigned_to_id", "responsible_id", "start_date",
    "due_date", "created_at", "updated_at", "root_id", "lft"]

/-- A statement on work packages. -/
inductive Statement where
  | count (s : Selection)
  | page (s : Selection) (order : List OrderTerm) (limit offset : Nat)
  | group (s : Selection) (column : Column)
  deriving DecidableEq

namespace Statement

/-- The selection of a statement. -/
def selection : Statement → Selection
  | .count s => s
  | .page s _ _ _ => s
  | .group s _ => s

/-- The text of a statement in a dialect. -/
def text (d : Dialect) : Statement → String
  | .count s =>
    "SELECT COUNT(DISTINCT " ++ Column.workPackageId.text ++ ") " ++ s.fromText ++ " WHERE " ++
      s.whereText d
  | .page s order limit offset =>
    "SELECT " ++
      String.intercalate ", " (listedColumns.map fun c => (Column.mk .workPackages c).text) ++
      " " ++ s.fromText ++ " WHERE " ++ s.whereText d ++ " ORDER BY " ++
      String.intercalate ", " (order.map (OrderTerm.text d)) ++ " " ++ d.limitOffset limit offset
  | .group s column =>
    "SELECT " ++ d.castText column.text ++ " AS group_key, COUNT(DISTINCT " ++
      Column.workPackageId.text ++ ") " ++ s.fromText ++ " WHERE " ++ s.whereText d ++
      " GROUP BY " ++ column.text

end Statement

end Worklist.Sql
