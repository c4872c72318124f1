import Worklist.Json.Writer
import Worklist.Sql.Statement
import Worklist.Store.Basic
import Worklist.Store.Error

/-!
# Work packages

A work package as a page lists it: identifiers, texts and days, some of which may be missing.
`WorkPackage.ofRecord` reads it from a record and `WorkPackage.json` writes it.
-/

set_option autoImplicit false

namespace Worklist

open Store (Record)

/-- A work package. -/
structure WorkPackage where
  id : Int
  projectId : Int
  subject : String
  statusId? : Option Int
  assignedToId? : Option Int
  responsibleId? : Option Int
  startDate? : Option String
  dueDate? : Option String
  createdAt : String
  updatedAt : String
  rootId? : Option Int
  lft? : Option Int
  deriving DecidableEq, Repr

namespace WorkPackage

/-- The error of a column with a value of the wrong kind. -/
def mistyped {α : Type} (r : Record) (column : String) (expected : CellType) :
    Except StoreError α :=
  .error (.mistyped (Sql.listedColumns.idxOf column) expected (r.get column).kindName)

/-- The whole number in a column, which may be missing. -/
def wholeIn? (r : Record) (column : String) : Except StoreError (Option Int) :=
  match r.get column with
  | .int n => .ok (some n)
  | .null => .ok none
  | _ => mistyped r column .optionalWhole

/-- The text in a column, which may be missing. -/
def textIn? (r : Record) (column : String) : Except StoreError (Option String) :=
  match r.get column with
  | .text s => .ok (some s)
  | .null => .ok none
  | _ => mistyped r column .optionalText

/-- The whole number in a column. -/
def wholeIn (r : Record) (column : String) : Except StoreError Int :=
  match r.get column with
  | .int n => .ok n
  | _ => mistyped r column .whole

/-- The text in a column. -/
def textIn (r : Record) (column : String) : Except StoreError String :=
  match r.get column with
  | .text s => .ok s
  | _ => mistyped r column .text

/-- The work package of a record; the first column with a value of the wrong kind is at fault. -/
def ofRecord (r : Record) : Except StoreError WorkPackage := do
  let id ← wholeIn r "id"
  let projectId ← wholeIn r "project_id"
  let subject ← textIn r "subject"
  let statusId? ← wholeIn? r "status_id"
  let assignedToId? ← wholeIn? r "assigned_to_id"
  let responsibleId? ← wholeIn? r "responsible_id"
  let startDate? ← textIn? r "start_date"
  let dueDate? ← textIn? r "due_date"
  let createdAt ← textIn r "created_at"
  let updatedAt ← textIn r "updated_at"
  let rootId? ← wholeIn? r "root_id"
  let lft? ← wholeIn? r "lft"
  pure ⟨id, projectId, subject, statusId?, assignedToId?, responsibleId?, startDate?, dueDate?,
    createdAt, updatedAt, rootId?, lft?⟩

/-- The JSON text of a work package. -/
def json (w : WorkPackage) : String :=
  let whole? := Json.writeOptional Number.decimal
  let text? := Json.writeOptional Json.writeText
  Json.writeObject
    [("id", Number.decimal w.id), ("project_id", Number.decimal w.projectId),
      ("subject", Json.writeText w.subject), ("status_id", whole? w.statusId?),
      ("assigned_to_id", whole? w.assignedToId?), ("responsible_id", whole? w.responsibleId?),
      ("start_date", text? w.startDate?), ("due_date", text? w.dueDate?),
      ("created_at", Json.writeText w.createdAt), ("updated_at", Json.writeText w.updatedAt),
      ("root_id", whole? w.rootId?), ("lft", whole? w.lft?)]

end WorkPackage

end Worklist
