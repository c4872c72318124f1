import Worklist.Sql.Column

/-!
# Fields

A field that a key resolved to: the column that holds its values, and what kind of values these are.
A custom field keeps its values as text in a table of their own, one row for each work package that
has one.
-/

set_option autoImplicit false

namespace Worklist

/-- The type of the values of an attribute. -/
inductive AttributeType where
  | integer
  | float
  | text
  | date
  | dateTime
  deriving DecidableEq, Repr

/-- The declared format of a custom field. -/
inductive Format where
  | string
  | text
  | int
  | float
  | date
  | bool
  | list
  | user
  | version
  deriving DecidableEq, Repr

namespace Format

/-- All formats, in the order in which messages name them. -/
def all : List Format :=
  [.string, .text, .int, .float, .date, .bool, .list, .user, .version]

/-- The code of a format. -/
def code : Format → String
  | .string => "string"
  | .text => "text"
  | .int => "int"
  | .float => "float"
  | .date => "date"
  | .bool => "bool"
  | .list => "list"
  | .user => "user"
  | .version => "version"

/-- The format with a code. -/
def ofCode? (code : String) : Option Format :=
  all.find? fun f => f.code == code

/-- Whether the values of a format are whole numbers: numbers as such, users and versions. -/
def isInteger : Format → Bool
  | .int => true
  | .user => true
  | .version => true
  | _ => false

end Format

/-- The kind of a field. -/
inductive FieldKind where
  | plain (type : AttributeType)
  /-- The status of a work package, which is open or closed. -/
  | status
  | custom (id : Int) (format : Format)
  deriving DecidableEq, Repr

/-- A field with the column that holds its values. -/
structure Field where
  column : Sql.Column
  kind : FieldKind
  deriving DecidableEq, Repr

namespace Field

/-- A column of work packages as a field. -/
def plain (name : String) (type : AttributeType) : Field :=
  ⟨⟨.workPackages, name⟩, .plain type⟩

/-- The status of a work package. -/
def status : Field :=
  ⟨⟨.workPackages, "status_id"⟩, .status⟩

/-- A custom field. -/
def custom (id : Int) (format : Format) : Field :=
  ⟨⟨.customValues id, "value"⟩, .custom id format⟩

/-- Whether a field is a custom one. -/
def isCustom (f : Field) : Bool :=
  match f.kind with
  | .custom _ _ => true
  | _ => false

/-- Whether the values are days rather than instants. -/
def isDateOnly (f : Field) : Bool :=
  match f.kind with
  | .plain .date => true
  | .custom _ .date => true
  | _ => false

/-- Whether group keys of the field are whole numbers. -/
def isInteger (f : Field) : Bool :=
  match f.kind with
  | .plain type => type == .integer
  | .status => true
  | .custom _ format => format.isInteger

/-- The join that makes the column available. -/
def requiredJoin? (f : Field) : Option Sql.Join :=
  match f.kind with
  | .custom id _ => some (.customValue id)
  | _ => none

end Field

end Worklist
