import Worklist.Number.Whole

/-!
# Field keys

A filter, a sort key and a group dimension name their field by a key. A key `cf_` with an identifier
is a custom field; every other key is the name of an attribute. Several keys may be one custom
field, such as `cf_7` and `cf_007`; the text of a key that was read is the plain one.
-/

set_option autoImplicit false

namespace Worklist

/-- The key of a field. -/
inductive FieldKey where
  | plain (name : String)
  | custom (id : Int)
  deriving DecidableEq, Repr

namespace FieldKey

/-- Reads a key. A text that does not name an identifier after `cf_` is an attribute. -/
def parse (s : String) : FieldKey :=
  match s.toList with
  | 'c' :: 'f' :: '_' :: rest =>
    match Number.readInt64? rest with
    | some id => .custom id
    | none => .plain s
  | _ => .plain s

/-- The text of a key. -/
def text : FieldKey → String
  | .plain name => name
  | .custom id => "cf_" ++ Number.decimal id

/-- Whether a key names a custom field. -/
def isCustom : FieldKey → Bool
  | .plain _ => false
  | .custom _ => true

/-- The order of keys: attributes by name, then custom fields by identifier. -/
def le : FieldKey → FieldKey → Bool
  | .plain a, .plain b => decide (a ≤ b)
  | .plain _, .custom _ => true
  | .custom _, .plain _ => false
  | .custom a, .custom b => decide (a ≤ b)

/-- Keys in their order. -/
def sorted (keys : List FieldKey) : List FieldKey :=
  keys.mergeSort le

end FieldKey

end Worklist
