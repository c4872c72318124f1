/-!
# Errors of a store

Why a store does not answer: it cannot be reached, or it refuses the statement.
-/

set_option autoImplicit false

namespace Worklist

/-- What a listed column has to hold. -/
inductive CellType where
  | whole
  | optionalWhole
  | text
  | optionalText
  deriving DecidableEq, Repr

namespace CellType

/-- The kind of value in the words of the store. -/
def storeName : CellType → String
  | .whole => "INTEGER"
  | .optionalWhole => "INTEGER"
  | .text => "TEXT"
  | .optionalText => "TEXT"

/-- The kind of value as errors name it. -/
def hostName : CellType → String
  | .whole => "i64"
  | .optionalWhole => "core::option::Option<i64>"
  | .text => "alloc::string::String"
  | .optionalText => "core::option::Option<alloc::string::String>"

end CellType

/-- Why a store does not answer. -/
inductive StoreError where
  | poolTimedOut
  | poolClosed
  | rowNotFound
  /-- The connection failed, in words of the system. -/
  | io (text : String)
  /-- The statement is none that the store takes, or it failed on a row. -/
  | refused
  /-- A listed column, given by its place, holds another kind of value than it has to. -/
  | mistyped (place : Nat) (expected : CellType) (found : String)
  deriving DecidableEq, Repr

namespace StoreError

/-- The wording of an error; the store has its own words for what it refuses. -/
def message? : StoreError → Option String
  | .poolTimedOut => some "pool timed out while waiting for an open connection"
  | .poolClosed => some "attempted to acquire a connection on a closed pool"
  | .rowNotFound => some "no rows returned by a query that expected to return at least one row"
  | .io text => some ("error communicating with database: " ++ text)
  | .refused => none
  | .mistyped place expected found =>
    some ("error occurred while decoding column " ++ toString place ++
      ": mismatched types; Rust type `" ++ expected.hostName ++ "` (as SQL type `" ++
      expected.storeName ++ "`) is not compatible with SQL type `" ++ found ++ "`")

/-- Whether the same call may succeed later. -/
def isTransient : StoreError → Bool
  | .poolTimedOut => true
  | .poolClosed => true
  | .io _ => true
  | _ => false

end StoreError

end Worklist
