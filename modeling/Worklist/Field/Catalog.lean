import Worklist.Field.Basic
import Worklist.Field.Key

/-!
# The catalog of fields

Which keys name a field. The attributes are fixed: some can be filtered and grouped by, some can be
sorted by, and these are two lists. The custom fields are those that the catalog knows.
-/

set_option autoImplicit false

namespace Worklist

/-- Why a key names no field. -/
inductive ResolutionError where
  | unknownField (name : String)
  | unknownCustomField (id : Int)
  | unsortableField (name : String)
  deriving DecidableEq, Repr

/-- The wording of a key that names no field. -/
def ResolutionError.message : ResolutionError → String
  | .unknownField name => "Unknown field: " ++ name
  | .unknownCustomField id => "Unknown custom field: cf_" ++ Number.decimal id
  | .unsortableField name => "Cannot sort by field: " ++ name

/-- The attributes that can be filtered and grouped by. -/
def filterableAttributes : List (String × AttributeType) :=
  [("id", .integer), ("project_id", .integer), ("subject", .text), ("status_id", .integer),
    ("type_id", .integer), ("priority_id", .integer), ("assigned_to_id", .integer),
    ("responsible_id", .integer), ("done_ratio", .integer), ("estimated_hours", .float),
    ("start_date", .date), ("due_date", .date), ("created_at", .dateTime),
    ("updated_at", .dateTime)]

/-- The attributes that can be sorted by. -/
def sortableAttributes : List String :=
  ["id", "subject", "status_id", "priority_id", "assigned_to_id", "responsible_id", "done_ratio",
    "estimated_hours", "start_date", "due_date", "created_at", "updated_at", "root_id", "lft"]

/-- The custom fields that are known, with their formats. -/
structure Catalog where
  formats : List (Int × Format)
  deriving DecidableEq, Repr

namespace Catalog

/-- The format of a custom field. -/
def format? (c : Catalog) (id : Int) : Option Format :=
  c.formats.lookup id

/-- The catalog with one custom field set, in place of one with its identifier. -/
def insert (c : Catalog) (id : Int) (format : Format) : Catalog :=
  ⟨(id, format) :: c.formats.filter fun entry => entry.1 != id⟩

/-- The catalog of a list of custom fields; of two with one identifier the later one counts. -/
def ofList (fields : List (Int × Format)) : Catalog :=
  fields.foldl (fun c field => c.insert field.1 field.2) ⟨[]⟩

/-- The field that a key names for filtering and grouping. -/
def resolve (c : Catalog) : FieldKey → Except ResolutionError Field
  | .custom id =>
    match c.format? id with
    | some format => .ok (Field.custom id format)
    | none => .error (.unknownCustomField id)
  | .plain name =>
    if name = "status_id" then .ok Field.status
    else
      match filterableAttributes.lookup name with
      | some type => .ok (Field.plain name type)
      | none => .error (.unknownField name)

/-- The field that a key names for sorting. -/
def resolveSortable (c : Catalog) : FieldKey → Except ResolutionError Field
  | .custom id => c.resolve (.custom id)
  | .plain name =>
    if name ∈ sortableAttributes then
      .ok (Field.plain name ((filterableAttributes.lookup name).getD .integer))
    else .error (.unsortableField name)

end Catalog

end Worklist
