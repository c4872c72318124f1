import Worklist.Store.Affinity

/-!
# The schema

The tables of a store and their columns. Besides its columns every table has an `id`, a whole number
that no two records of the table share. A column may be required, and it may refer to the records of
a table; a table may have a key of several columns.
-/

set_option autoImplicit false

namespace Worklist.Store

/-- A table of a store. -/
inductive Table where
  | projects
  | users
  | roles
  | members
  | memberRoles
  | statuses
  | workPackages
  | customFields
  | customValues
  deriving DecidableEq, Repr

/-- A column of a table other than its `id`. -/
structure TableColumn where
  name : String
  affinity : Affinity
  required : Bool := false
  /-- What the column holds in a record that does not name it. -/
  initial : Value := .null
  /-- The table that the column refers to. -/
  refersTo? : Option Table := none
  deriving DecidableEq

namespace Table

/-- The tables, each after those that it refers to. -/
def all : List Table :=
  [.projects, .users, .roles, .members, .memberRoles, .statuses, .workPackages, .customFields,
    .customValues]

/-- The name of a table. -/
def name : Table → String
  | .projects => "projects"
  | .users => "users"
  | .roles => "roles"
  | .members => "members"
  | .memberRoles => "member_roles"
  | .statuses => "statuses"
  | .workPackages => "work_packages"
  | .customFields => "custom_fields"
  | .customValues => "custom_values"

/-- The table with a name. -/
def ofName? (name : String) : Option Table :=
  all.find? fun t => t.name == name

/-- The columns of a table other than its `id`, in order. -/
def columns : Table → List TableColumn
  | .projects =>
    [{ name := "name", affinity := .text, required := true },
      { name := "parent_id", affinity := .integer, refersTo? := some .projects }]
  | .users =>
    [{ name := "login", affinity := .text, required := true },
      { name := "firstname", affinity := .text },
      { name := "lastname", affinity := .text }]
  | .roles =>
    [{ name := "name", affinity := .text, required := true }]
  | .members =>
    [{ name := "user_id", affinity := .integer, required := true, refersTo? := some .users },
      { name := "project_id", affinity := .integer, required := true,
        refersTo? := some .projects }]
  | .memberRoles =>
    [{ name := "member_id", affinity := .integer, required := true, refersTo? := some .members },
      { name := "role_id", affinity := .integer, required := true, refersTo? := some .roles }]
  | .statuses =>
    [{ name := "name", affinity := .text, required := true },
      { name := "is_closed", affinity := .integer, required := true, initial := .int 0 },
      { name := "position", affinity := .integer }]
  | .workPackages =>
    [{ name := "project_id", affinity := .integer, required := true,
        refersTo? := some .projects },
      { name := "subject", affinity := .text, required := true },
      { name := "status_id", affinity := .integer, refersTo? := some .statuses },
      { name := "type_id", affinity := .integer },
      { name := "priority_id", affinity := .integer },
      { name := "assigned_to_id", affinity := .integer, refersTo? := some .users },
      { name := "responsible_id", affinity := .integer, refersTo? := some .users },
      { name := "done_ratio", affinity := .integer, required := true, initial := .int 0 },
      { name := "estimated_hours", affinity := .real },
      { name := "start_date", affinity := .text },
      { name := "due_date", affinity := .text },
      { name := "created_at", affinity := .text, required := true },
      { name := "updated_at", affinity := .text, required := true },
      { name := "root_id", affinity := .integer },
      { name := "lft", affinity := .integer }]
  | .customFields =>
    [{ name := "name", affinity := .text, required := true },
      { name := "field_format", affinity := .text, required := true }]
  | .customValues =>
    [{ name := "customized_id", affinity := .integer, required := true,
        refersTo? := some .workPackages },
      { name := "custom_field_id", affinity := .integer, required := true,
        refersTo? := some .customFields },
      { name := "value", affinity := .text }]

/-- The columns whose values together no two records share; none if there is no such key. -/
def key : Table → List String
  | .users => ["login"]
  | .members => ["user_id", "project_id"]
  | .customValues => ["customized_id", "custom_field_id"]
  | _ => []

/-- The affinity of a column. -/
def affinity (t : Table) (column : String) : Affinity :=
  ((t.columns.find? fun c => c.name == column).map TableColumn.affinity).getD .integer

end Table

end Worklist.Store
