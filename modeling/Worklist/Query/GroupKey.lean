import Worklist.Field.Basic
import Worklist.Json.Writer
import Worklist.Text.Blank

/-!
# Group keys

What work packages are grouped by: no value, a whole number or a text, in this order. A key is read
from the text that the store has for a value. Group counts are kept in the order of their keys, one
for each key.
-/

set_option autoImplicit false

namespace Worklist

/-- The key of a group. -/
inductive GroupKey where
  | null
  | int (n : Int)
  | text (s : String)
  deriving DecidableEq, Repr

namespace GroupKey

/-- The key for the text of a value. A field of whole numbers takes a text that is one, up to blanks
around it, as the number; all other texts stay what they are. -/
def decode (f : Field) : Option String → GroupKey
  | none => .null
  | some s =>
    if f.isInteger then
      match Number.readInt64? (Text.trim s.toList) with
      | some n => .int n
      | none => .text s
    else .text s

/-- The text of a key. -/
def label : GroupKey → String
  | .null => "null"
  | .int n => Number.decimal n
  | .text s => s

/-- The JSON text of a key. -/
def json : GroupKey → String
  | .null => "null"
  | .int n => Number.decimal n
  | .text s => Json.writeText s

/-- The order of keys. -/
def order : GroupKey → GroupKey → Ordering
  | .null, .null => .eq
  | .null, _ => .lt
  | _, .null => .gt
  | .int a, .int b => compare a b
  | .int _, .text _ => .lt
  | .text _, .int _ => .gt
  | .text a, .text b => compare a b

/-- Keys in their order. -/
def sorted (keys : List GroupKey) : List GroupKey :=
  keys.mergeSort fun a b => a.order b != .gt

end GroupKey

/-- How many work packages there are for each key, in the order of the keys. -/
abbrev GroupCounts := List (GroupKey × Nat)

/-- The counts with some more for a key. -/
def GroupCounts.add (key : GroupKey) (n : Nat) : GroupCounts → GroupCounts
  | [] => [(key, n)]
  | (k, m) :: rest =>
    match key.order k with
    | .lt => (key, n) :: (k, m) :: rest
    | .eq => (k, m + n) :: rest
    | .gt => (k, m) :: add key n rest

end Worklist
