import Worklist.Field.Key
import Worklist.Filter.Operator
import Worklist.Number.Literal

/-!
# Filter clauses

A clause puts an operator and values on a field. Values come as whole numbers, floating-point
numbers or texts, and a clause holds all of them as texts. A dynamic field writes a missing value as
empty text too; custom fields always do.
-/

set_option autoImplicit false

namespace Worklist

/-- A value as a filter gives it. -/
inductive FilterValue where
  | int (n : Int)
  | float (x : Number.Real64)
  | text (s : String)
  deriving DecidableEq

/-- The text of a value. -/
def FilterValue.normalize : FilterValue → String
  | .int n => Number.decimal n
  | .float x => x.literal
  | .text s => s

/-- One clause of a filter. -/
structure Clause where
  field : FieldKey
  operator : Operator
  values : List String
  /-- Whether the field may hold empty text where it has no value. -/
  dynamic : Bool
  deriving DecidableEq, Repr

namespace Clause

/-- The clause with an operator and values on a field. -/
def ofValues (field : FieldKey) (operator : Operator) (values : List FilterValue) : Clause :=
  ⟨field, operator, values.map FilterValue.normalize, field.isCustom⟩

/-- The clause with its field marked as dynamic, or not; a custom field stays dynamic. -/
def withDynamic (c : Clause) (dynamic : Bool) : Clause :=
  { c with dynamic := dynamic || c.field.isCustom }

/-- The first value, or empty text if there is none. -/
def firstValue (c : Clause) : String :=
  c.values.headD ""

end Clause

end Worklist
