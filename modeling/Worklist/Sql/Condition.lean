import Worklist.Number.Literal
import Worklist.Sql.Column
import Worklist.Sql.Dialect

/-!
# Conditions

The conditions that filters, scopes and restrictions put on a row, as data. `Condition.text` writes
a condition in a dialect; what it means for a row of a store is defined with the store.
-/

set_option autoImplicit false

namespace Worklist.Sql

/-- A constant in a condition. -/
inductive Literal where
  | text (s : String)
  | number (x : Number.Binary64)
  | whole (n : Int)
  | boolean (b : Bool)
  deriving DecidableEq

/-- The text of a constant. -/
def Literal.render (d : Dialect) : Literal → String
  | .text s => d.literal s
  | .number x => x.literal
  | .whole n => Number.decimal n
  | .boolean b => d.boolean b

/-- What is compared: a column, or the column read as a decimal number. -/
inductive Operand where
  | column (c : Column)
  | decimal (c : Column)
  deriving DecidableEq

/-- The text of an operand. -/
def Operand.render (d : Dialect) : Operand → String
  | .column c => c.text
  | .decimal c => d.castDecimal c.text

/-- The column that an operand reads. -/
def Operand.read : Operand → Column
  | .column c => c
  | .decimal c => c

/-- An order or an equality of two values. -/
inductive Comparison where
  | eq
  | ne
  | ge
  | le
  | gt
  deriving DecidableEq, Repr

/-- The sign of a comparison. -/
def Comparison.text : Comparison → String
  | .eq => "="
  | .ne => "<>"
  | .ge => ">="
  | .le => "<="
  | .gt => ">"

/-- A condition on a row. -/
inductive Condition where
  /-- Holds for every row, or for none. -/
  | constant (holds : Bool)
  /-- The column has no value, or has one. -/
  | isNull (c : Column) (negated : Bool)
  | compare (o : Operand) (r : Comparison) (l : Literal)
  /-- The value is one of a list, or none of it. -/
  | oneOf (c : Column) (negated : Bool) (values : List Literal)
  /-- The value is a project that a user is a member of. -/
  | projectOfMember (c : Column) (user : Int)
  /-- The text in lower case is like a pattern, or is not. -/
  | like (c : Column) (negated : Bool) (pattern : String)
  | between (c : Column) (lower upper : Literal)
  | both (a b : Condition)
  | either (a b : Condition)
  | grouped (a : Condition)
  /-- A condition given as text, which nothing here looks into. -/
  | verbatim (sql : String)
  deriving DecidableEq

namespace Condition

/-- The text of a condition in a dialect. -/
def text (d : Dialect) : Condition → String
  | .constant holds => if holds then "1=1" else "0=1"
  | .isNull c negated => c.text ++ (if negated then " IS NOT NULL" else " IS NULL")
  | .compare o r l => o.render d ++ " " ++ r.text ++ " " ++ l.render d
  | .oneOf c negated values =>
    c.text ++ (if negated then " NOT IN (" else " IN (") ++
      String.intercalate "," (values.map (Literal.render d)) ++ ")"
  | .projectOfMember c user =>
    c.text ++ " IN (SELECT members.project_id FROM members WHERE members.user_id = " ++
      Number.decimal user ++ ")"
  | .like c negated pattern =>
    "LOWER(" ++ c.text ++ ")" ++ (if negated then " NOT LIKE " else " LIKE ") ++ d.literal pattern
  | .between c lower upper =>
    c.text ++ " BETWEEN " ++ lower.render d ++ " AND " ++ upper.render d
  | .both a b => a.text d ++ " AND " ++ b.text d
  | .either a b => a.text d ++ " OR " ++ b.text d
  | .grouped a => "(" ++ a.text d ++ ")"
  | .verbatim sql => sql

/-- The columns that a condition reads. -/
def columns : Condition → List Column
  | .constant _ => []
  | .isNull c _ => [c]
  | .compare o _ _ => [o.read]
  | .oneOf c _ _ => [c]
  | .projectOfMember c _ => [c]
  | .like c _ _ => [c]
  | .between c _ _ => [c]
  | .both a b => a.columns ++ b.columns
  | .either a b => a.columns ++ b.columns
  | .grouped a => a.columns
  | .verbatim _ => []

/-- Whether a condition reads columns of work packages only. -/
def isLocal (c : Condition) : Bool :=
  c.columns.all fun column => column.source == .workPackages

end Condition

end Worklist.Sql
