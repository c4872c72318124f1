import Worklist.Number.Whole

/-!
# Tables, joins and columns

The tables that a statement on work packages reads, under the names that it gives them, and the
joins that bring them in. Every join is a left join on a key of the joined table, so it keeps each
work package and adds at most one row to it.
-/

set_option autoImplicit false

namespace Worklist.Sql

/-- A table as a statement names it. -/
inductive Source where
  | workPackages
  | statuses
  /-- The values of one custom field. -/
  | customValues (fieldId : Int)
  /-- A table outside of the joins that this library writes. -/
  | other (name : String)
  deriving DecidableEq, Repr

/-- The name of a table in a statement. -/
def Source.name : Source → String
  | .workPackages => "work_packages"
  | .statuses => "statuses"
  | .customValues id => "cv_" ++ Number.decimal id
  | .other name => name

/-- A column of a table. -/
structure Column where
  source : Source
  name : String
  deriving DecidableEq, Repr

/-- A column with the name of its table in front. -/
def Column.text (c : Column) : String :=
  c.source.name ++ "." ++ c.name

/-- The column that identifies a work package. -/
def Column.workPackageId : Column := ⟨.workPackages, "id"⟩

/-- A left join with a table. -/
inductive Join where
  /-- The status of the work package. -/
  | status
  /-- The value that the work package has for a custom field. -/
  | customValue (fieldId : Int)
  deriving DecidableEq, Repr

namespace Join

/-- The joined table. -/
def source : Join → Source
  | .status => .statuses
  | .customValue id => .customValues id

/-- The name of the joined table in the statement. -/
def name (j : Join) : String :=
  j.source.name

/-- The text of a join. -/
def text (j : Join) : String :=
  match j with
  | .status => "LEFT OUTER JOIN statuses ON statuses.id = work_packages.status_id"
  | .customValue id =>
    "LEFT OUTER JOIN custom_values " ++ j.name ++ " ON " ++ j.name ++
      ".customized_id = work_packages.id AND " ++ j.name ++ ".custom_field_id = " ++
      Number.decimal id

/-- The joins with one more, unless it is among them. -/
def add (joins : List Join) (j : Join) : List Join :=
  if j ∈ joins then joins else joins ++ [j]

end Join

end Worklist.Sql
