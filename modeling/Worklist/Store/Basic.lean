import Worklist.Store.Schema

/-!
# Stores

A store holds the records of each table in the order in which they came in. What a cell of a record
holds is found by the name of its column.
-/

set_option autoImplicit false

namespace Worklist.Store

/-- A record of a table. -/
structure Record where
  id : Int
  /-- The values of the columns other than the `id`. -/
  cells : List (String × Value)
  deriving DecidableEq

/-- The value in a column. -/
def Record.get (r : Record) (column : String) : Value :=
  if column = "id" then .int r.id else (r.cells.lookup column).getD .null

end Worklist.Store

namespace Worklist

open Store (Record Table)

/-- The records of all tables. -/
structure Store where
  projects : List Record := []
  users : List Record := []
  roles : List Record := []
  members : List Record := []
  memberRoles : List Record := []
  statuses : List Record := []
  workPackages : List Record := []
  customFields : List Record := []
  customValues : List Record := []
  deriving DecidableEq

namespace Store

/-- The store without records. -/
def empty : Store := {}

/-- The records of a table. -/
def records (s : Store) : Table → List Record
  | .projects => s.projects
  | .users => s.users
  | .roles => s.roles
  | .members => s.members
  | .memberRoles => s.memberRoles
  | .statuses => s.statuses
  | .workPackages => s.workPackages
  | .customFields => s.customFields
  | .customValues => s.customValues

/-- The store with one more record in a table. -/
def add (s : Store) (t : Table) (r : Record) : Store :=
  match t with
  | .projects => { s with projects := s.projects ++ [r] }
  | .users => { s with users := s.users ++ [r] }
  | .roles => { s with roles := s.roles ++ [r] }
  | .members => { s with members := s.members ++ [r] }
  | .memberRoles => { s with memberRoles := s.memberRoles ++ [r] }
  | .statuses => { s with statuses := s.statuses ++ [r] }
  | .workPackages => { s with workPackages := s.workPackages ++ [r] }
  | .customFields => { s with customFields := s.customFields ++ [r] }
  | .customValues => { s with customValues := s.customValues ++ [r] }

/-- A record is added at the end of its table, and no other table changes. -/
theorem records_add (s : Store) (t u : Table) (r : Record) :
    (s.add t r).records u = if t = u then s.records u ++ [r] else s.records u := by
  cases t <;> cases u <;> rfl

/-- Whether a table has a record with an `id`. -/
def hasId (s : Store) (t : Table) (id : Int) : Bool :=
  (s.records t).any fun r => r.id == id

end Store

end Worklist
