import Worklist.Sql.Condition
import Worklist.Store.Row
import Worklist.Store.Truth
import Worklist.Text.Like

/-!
# The meaning of conditions

What a condition says about a row of a store. A missing value makes every comparison unknown, and a
constant is compared as the kind of value that the column prefers.
-/

set_option autoImplicit false

namespace Worklist.Store

open Sql (Column Comparison Condition Literal Operand)

/-- The value of a constant; a real number has the value that its literal is read as. -/
def literalValue : Literal → Value
  | .text s => .text s
  | .number x => readLiteral x
  | .whole n => .int n
  | .boolean b => .int (if b then 1 else 0)

/-- The value of an operand. -/
def operandValue (row : Row) : Operand → Value
  | .column c => row.get c
  | .decimal c => (row.get c).castNumber

/-- The affinity of an operand; a cast prefers numbers. -/
def operandAffinity : Operand → Affinity
  | .column c => columnAffinity c
  | .decimal _ => .real

/-- Whether an order of two values is what a comparison asks for. -/
def orderMeets : Comparison → Ordering → Bool
  | .eq, o => o == .eq
  | .ne, o => o != .eq
  | .ge, o => o != .lt
  | .le, o => o != .gt
  | .gt, o => o == .gt

/-- The comparison of two values. -/
def compareValues (r : Comparison) (a b : Value) : Truth :=
  if a.isNull || b.isNull then .unknown else .ofBool (orderMeets r (a.order b))

/-- The comparison of an operand with a constant. -/
def compareWith (row : Row) (o : Operand) (r : Comparison) (l : Literal) : Truth :=
  compareValues r (operandValue row o) ((operandAffinity o).adapt (literalValue l))

/-- What ends a text for a pattern. -/
def patternText (s : String) : List Char :=
  s.toList.takeWhile (· != '\x00')

/-- Whether the text of a value is like a pattern. -/
def likePattern (v : Value) (pattern : String) : Truth :=
  match v.text? with
  | some s => .ofBool (Text.like pattern.toList (patternText s))
  | none => .unknown

/-- The projects that a user is a member of. -/
def projectsOf (s : Store) (user : Int) : List Value :=
  (s.members.filter fun m => m.get "user_id" == .int user).map fun m => m.get "project_id"

/-- What a condition says about a row. Nothing is known about a condition given as text. -/
def truth (s : Store) (row : Row) : Condition → Truth
  | .constant holds => .ofBool holds
  | .isNull c negated => .negatedIf negated (.ofBool (row.get c).isNull)
  | .compare o r l => compareWith row o r l
  | .oneOf c negated values =>
    .negatedIf negated (.any (values.map (compareWith row (.column c) .eq)))
  | .projectOfMember c user =>
    .any ((projectsOf s user).map (compareValues .eq (row.get c)))
  | .like c negated pattern => .negatedIf negated (likePattern (row.get c) pattern)
  | .between c lower upper =>
    (compareWith row (.column c) .ge lower).and (compareWith row (.column c) .le upper)
  | .both a b => (truth s row a).and (truth s row b)
  | .either a b => (truth s row a).or (truth s row b)
  | .grouped a => truth s row a
  | .verbatim _ => .unknown

end Worklist.Store
