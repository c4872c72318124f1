import Worklist.Number.Whole

/-!
# Notices

What is worth a warning and does not stop the work: each notice has a message and details by name.
-/

set_option autoImplicit false

namespace Worklist

/-- A warning. -/
inductive Notice where
  /-- A clause with an operator that does not exist was left out. -/
  | unknownOperator (field operator : String)
  /-- A custom field with a format that does not exist was left out. -/
  | unsupportedFormat (id : Int) (format : String)
  /-- A settings file has keys that mean nothing. -/
  | unknownSettings (keys : List String)
  /-- Pages may be very large. -/
  | largePages (maxPerPage : Nat)
  deriving DecidableEq, Repr

namespace Notice

/-- The message of a notice. -/
def message : Notice → String
  | .unknownOperator _ _ => "Ignoring filter with unknown operator"
  | .unsupportedFormat _ _ => "Unsupported custom field format"
  | .unknownSettings _ => "Unknown fields in config file (possible typos)"
  | .largePages _ => "max_per_page is very large, single pages may be slow to load"

/-- The details of a notice. -/
def details : Notice → List (String × String)
  | .unknownOperator field operator => [("field", field), ("operator", operator)]
  | .unsupportedFormat id format => [("id", Number.decimal id), ("format", format)]
  | .unknownSettings keys => [("fields", String.intercalate ", " keys)]
  | .largePages maxPerPage => [("max_per_page", toString maxPerPage)]

end Notice

end Worklist
