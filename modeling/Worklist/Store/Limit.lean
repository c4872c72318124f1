import Worklist.Sql.Statement

/-!
# Limits of a store

How large a statement may be. A store bounds the tables of a statement, the depth of its condition
as a tree, the terms of its order, the parameters of a lookup and the size of a pattern; a statement
beyond one of the bounds is refused. The bound of 1,000,000,000 bytes on the text of a statement is
left out: here a text may be of any size.
-/

set_option autoImplicit false

namespace Worklist.Store

open Sql (Condition Join Literal Operand OrderTerm Selection)

/-- The greatest size of a pattern in bytes. -/
def maxPatternBytes : Nat := 50000

/-- The greatest number of tables in a statement. -/
def maxTables : Nat := 64

/-- The greatest depth of a condition. -/
def maxDepth : Nat := 1000

/-- The greatest number of terms in an order. -/
def maxOrderTerms : Nat := 2000

/-- The greatest number of parameters in a lookup. -/
def maxParameters : Nat := 32766

/-- The depth of a constant: a minus sign stands above its number. -/
def literalDepth : Literal → Nat
  | .number x => if x.negative then 2 else 1
  | .whole n => if n < 0 then 2 else 1
  | _ => 1

/-- The depth of an operand: a column is its table and its name, and a cast stands above it. -/
def operandDepth : Operand → Nat
  | .column _ => 2
  | .decimal _ => 3

/-- The depth of the constants of a list; one alone is compared with directly, under a sign of its
own. -/
def listDepth : List Literal → Nat
  | [l] => literalDepth l + 1
  | values => values.foldl (fun d l => max d (literalDepth l)) 0

/-- The depth of a negation above something, if there is one. -/
def negationDepth (negated : Bool) : Nat :=
  if negated then 1 else 0

/-- The depth of a condition as a tree. -/
def depth : Condition → Nat
  | .constant _ => 2
  | .isNull _ _ => 3
  | .compare o _ l => max (operandDepth o) (literalDepth l) + 1
  | .oneOf _ negated values => max 2 (listDepth values) + 1 + negationDepth negated
  | .projectOfMember _ _ => 4
  | .like _ negated _ => 4 + negationDepth negated
  | .between _ lower upper => max 2 (max (literalDepth lower) (literalDepth upper)) + 1
  | .both a b => max (depth a) (depth b) + 1
  | .either a b => max (depth a) (depth b) + 1
  | .grouped a => depth a
  | .verbatim _ => 0

/-- The depth of the condition of a lookup inside a condition, which counts below all the rest. -/
def lookupDepth : Condition → Nat
  | .projectOfMember _ _ => 3
  | .both a b => max (lookupDepth a) (lookupDepth b)
  | .either a b => max (lookupDepth a) (lookupDepth b)
  | .grouped a => lookupDepth a
  | _ => 0

/-- The depth of the condition of a join. -/
def joinDepth : Join → Nat
  | .status => 3
  | .customValue _ => 4

/-- The depth of the condition of a selection: its conditions from the left, and then those of its
joins, each joined to all before it. -/
def selectionDepth (sel : Selection) : Nat :=
  let parts := sel.conditions.map depth ++ sel.joins.map joinDepth
  let lookups := sel.conditions.map lookupDepth
  match parts with
  | [] => 0
  | first :: rest => rest.foldl (fun d part => max d part + 1) first + lookups.foldl max 0

/-- How many terms an order has: a column with a rank for missing values has two. -/
def orderTermCount (order : List OrderTerm) : Nat :=
  order.length + (order.filter OrderTerm.nullsLast).length

end Worklist.Store
