import Worklist.Sql.Column
import Worklist.Store.Basic

/-!
# Joined rows

A row of a statement is a work package together with what each join brings to it: a record of the
joined table, or nothing. A left join keeps every row, once for each record that matches and once
with nothing if none does.
-/

set_option autoImplicit false

namespace Worklist.Store

open Sql (Column Join Source)

/-- A work package with the records that joins bring to it. -/
structure Row where
  workPackage : Record
  joined : List (Join × Option Record)
  deriving DecidableEq

/-- The table that a join reads. -/
def joinTable : Join → Table
  | .status => .statuses
  | .customValue _ => .customValues

/-- Whether a record of the joined table belongs to a work package. -/
def joinMatches (j : Join) (workPackage r : Record) : Bool :=
  match j with
  | .status => workPackage.get "status_id" == .int r.id
  | .customValue id =>
    r.get "customized_id" == .int workPackage.id && r.get "custom_field_id" == .int id

namespace Row

/-- A work package to which nothing is joined. -/
def alone (workPackage : Record) : Row :=
  ⟨workPackage, []⟩

/-- The row with what a join brings to it. -/
def bring (row : Row) (j : Join) (r? : Option Record) : Row :=
  { row with joined := (j, r?) :: row.joined }

/-- The value in a column of a joined table; nothing if the join brought no record. -/
def getJoined (row : Row) (j : Join) (column : String) : Value :=
  match row.joined.lookup j with
  | some (some r) => r.get column
  | _ => .null

/-- The value in a column. -/
def get (row : Row) (c : Column) : Value :=
  match c.source with
  | .workPackages => row.workPackage.get c.name
  | .statuses => row.getJoined .status c.name
  | .customValues id => row.getJoined (.customValue id) c.name
  | .other _ => .null

end Row

/-- The affinity of a column of a row. -/
def columnAffinity (c : Column) : Affinity :=
  match c.source with
  | .workPackages => Table.workPackages.affinity c.name
  | .statuses => Table.statuses.affinity c.name
  | .customValues _ => Table.customValues.affinity c.name
  | .other _ => .integer

/-- The rows that a join makes of one row. -/
def joinRow (s : Store) (j : Join) (row : Row) : List Row :=
  match (s.records (joinTable j)).filter (joinMatches j row.workPackage) with
  | [] => [row.bring j none]
  | rs => rs.map fun r => row.bring j (some r)

/-- The rows of all work packages with some joins. -/
def joinedRows (s : Store) (joins : List Join) : List Row :=
  joins.foldl (fun rows j => rows.flatMap (joinRow s j)) (s.workPackages.map Row.alone)

end Worklist.Store
