import Worklist.Field.Catalog
import Worklist.Filter.Wire
import Worklist.Store.Error

/-!
# Errors of queries

Why a query has no answer: a key names no field, the store does not answer, or the filters could not
be read.
-/

set_option autoImplicit false

namespace Worklist

/-- Why a query has no answer. -/
inductive QueryError where
  | resolution (e : ResolutionError)
  | store (e : StoreError)
  | invalidFilter (code message : String)
  deriving DecidableEq, Repr

namespace QueryError

/-- The error of a filter text that is refused. -/
def ofFilterError (e : FilterError) : QueryError :=
  .invalidFilter e.code e.message

/-- The code of an error. -/
def code : QueryError → String
  | .resolution (.unknownField _) => "UNKNOWN_FIELD"
  | .resolution (.unknownCustomField _) => "UNKNOWN_CUSTOM_FIELD"
  | .resolution (.unsortableField _) => "UNSORTABLE_FIELD"
  | .store _ => "STORE_ERROR"
  | .invalidFilter code _ => code

/-- The wording of an error, if it has one of its own. -/
def message? : QueryError → Option String
  | .resolution e => some ("Resolution error: " ++ e.message)
  | .store e => e.message?.map fun text => "Store error: " ++ text
  | .invalidFilter code message => some ("Invalid filter (" ++ code ++ "): " ++ message)

/-- Whether the same query may succeed later. -/
def isTransient : QueryError → Bool
  | .store e => e.isTransient
  | _ => false

end QueryError

end Worklist
