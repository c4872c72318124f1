import Worklist.Sql.Statement
import Worklist.Store.Error
import Worklist.Store.Limit
import Worklist.Store.Meaning
import Worklist.Store.Plan

/-!
# Answering statements

The rows of a selection, and the answers to the three statements: how many work packages the rows
have, how many for each value of a column, and one page of the rows in an order. A store refuses
statements that it cannot read, and it gives up on a pattern that is too long as soon as a row has
to be compared with it.
-/

set_option autoImplicit false

namespace Worklist.Store

open Sql (Column Condition Join Literal OrderTerm Selection)

/-- Whether a constant can stand in a statement, which the character U+0000 would end. -/
def readableLiteral : Literal → Bool
  | .text s => !s.toList.contains '\x00'
  | _ => true

/-- Whether a store can read a condition. It does not look into one that is given as text. -/
def readable : Condition → Bool
  | .constant _ => true
  | .isNull _ _ => true
  | .compare _ _ l => readableLiteral l
  | .oneOf _ _ values => values.all readableLiteral
  | .projectOfMember _ _ => true
  | .like _ _ pattern => readableLiteral (.text pattern)
  | .between _ lower upper => readableLiteral lower && readableLiteral upper
  | .both a b => readable a && readable b
  | .either a b => readable a && readable b
  | .grouped a => readable a
  | .verbatim _ => false

/-- Whether the name of a joined table is one: a minus sign is not part of names. -/
def nameable : Join → Bool
  | .status => true
  | .customValue id => decide (0 ≤ id)

/-- Whether a store takes statements on a selection. -/
def accepts (sel : Selection) : Bool :=
  sel.conditions.all readable && sel.joins.all nameable &&
    decide (sel.joins.length + 1 ≤ maxTables) && decide (selectionDepth sel ≤ maxDepth)

/-- Whether a condition has a pattern that is too long to be compared with. -/
def tooLong : Condition → Bool
  | .like _ _ pattern => decide (maxPatternBytes < pattern.utf8ByteSize)
  | .both a b => tooLong a || tooLong b
  | .either a b => tooLong a || tooLong b
  | .grouped a => tooLong a
  | _ => false

/-- Whether a row satisfies conditions, one after the other up to the first that it fails. -/
def satisfies (s : Store) (row : Row) : List Condition → Except StoreError Bool
  | [] => .ok true
  | c :: rest =>
    if tooLong c then .error .refused
    else if (truth s row c).holds then satisfies s row rest
    else .ok false

/-- The rows that satisfy conditions. -/
def satisfying (s : Store) (conditions : List Condition) : List Row → Except StoreError (List Row)
  | [] => .ok []
  | row :: rest => do
    let holds ← satisfies s row conditions
    let rows ← satisfying s conditions rest
    pure (if holds then row :: rows else rows)

/-- The rows of a selection, tested in the order of a planner. -/
def select (p : Planner) (s : Store) (sel : Selection) : Except StoreError (List Row) :=
  if accepts sel then satisfying s (p.tests sel.conditions) (joinedRows s sel.joins)
  else .error .refused

/-- A list without repetitions; of equal members the last one stays. -/
def distinct {α : Type} [DecidableEq α] : List α → List α
  | [] => []
  | a :: rest => if a ∈ rest then distinct rest else a :: distinct rest

/-- Leaving out repetitions loses no member. -/
theorem mem_distinct {α : Type} [DecidableEq α] {a : α} {l : List α} : a ∈ distinct l ↔ a ∈ l := by
  induction l with
  | nil => rfl
  | cons b rest ih =>
    rw [distinct]
    split
    · rw [ih, List.mem_cons]
      constructor
      · exact Or.inr
      · rintro (rfl | h)
        · assumption
        · exact h
    · rw [List.mem_cons, List.mem_cons, ih]

/-- No member is left twice. -/
theorem nodup_distinct {α : Type} [DecidableEq α] (l : List α) : (distinct l).Nodup := by
  induction l with
  | nil => exact List.nodup_nil
  | cons b rest ih =>
    rw [distinct]
    split
    · exact ih
    · rename_i h
      exact List.nodup_cons.mpr ⟨fun hb => h (mem_distinct.mp hb), ih⟩

/-- How many work packages rows have. -/
def countDistinct (rows : List Row) : Nat :=
  (distinct (rows.map fun row => row.workPackage.id)).length

/-- How many work packages a selection has. -/
def count (p : Planner) (s : Store) (sel : Selection) : Except StoreError Nat := do
  let rows ← select p s sel
  pure (countDistinct rows)

/-- The order of two values in one column of an order. -/
def termOrder (t : OrderTerm) (a b : Value) : Ordering :=
  let direct := if t.descending then b.order a else a.order b
  if t.nullsLast then (compare a.isNull b.isNull).then direct else direct

/-- The order of two rows by the columns of an order, the first one that tells them apart. -/
def rowOrder (terms : List OrderTerm) (a b : Row) : Ordering :=
  terms.foldr (fun t rest => (termOrder t (a.get t.column) (b.get t.column)).then rest) .eq

/-- Whether a row may stand before another. -/
def rowLe (terms : List OrderTerm) (a b : Row) : Bool :=
  rowOrder terms a b != .gt

/-- One value of a column, as text, and how many work packages have it. -/
structure Group where
  text? : Option String
  count : Nat
  deriving DecidableEq, Repr

/-- Whether a store takes two values as one: a number is the same number written otherwise. -/
def sameValue (a b : Value) : Bool :=
  a.order b == .eq

/-- The values of a list; of those that are taken as one, the first. -/
def firstValues : List Value → List Value
  | [] => []
  | v :: rest => v :: (firstValues rest).filter fun w => !sameValue v w

/-- The rows with a value in a column. -/
def rowsWith (column : Column) (v : Value) (rows : List Row) : List Row :=
  rows.filter fun row => sameValue v (row.get column)

/-- The groups of rows by a column. A group shows the value of the first row that it has. -/
def groupsOf (column : Column) (rows : List Row) : List Group :=
  (firstValues (rows.map fun row => row.get column)).map fun v =>
    ⟨v.text?, countDistinct (rowsWith column v rows)⟩

/-- How many work packages a selection has for each value of a column. -/
def group (p : Planner) (s : Store) (sel : Selection) (column : Column) :
    Except StoreError (List Group) := do
  let rows ← select p s sel
  pure (groupsOf column (rows.mergeSort (rowLe (p.scanOrder sel.conditions))))

/-- One page of the rows of a selection in an order. -/
def page (p : Planner) (s : Store) (sel : Selection) (order : List OrderTerm)
    (limit offset : Nat) : Except StoreError (List Row) := do
  if maxOrderTerms < orderTermCount order then throw .refused
  let rows ← select p s sel
  pure (((rows.mergeSort (rowLe order)).drop offset).take limit)

end Worklist.Store
