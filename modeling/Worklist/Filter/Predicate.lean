import Worklist.Calendar.Range
import Worklist.Field.Catalog
import Worklist.Filter.Clause
import Worklist.Sql.Condition
import Worklist.Text.Lowercase

/-!
# Predicates

A clause on a resolved field becomes a predicate: a condition, or none where the clause makes no
demand, and the joins that the condition needs. This never fails. What makes no sense as a demand
becomes a condition that holds for every row or for none, or no condition at all.
-/

set_option autoImplicit false

namespace Worklist

/-- The condition of a clause with its joins. -/
structure Predicate where
  condition? : Option Sql.Condition
  joins : List Sql.Join
  deriving DecidableEq

namespace Predicate

/-- The predicate without a demand. -/
def empty : Predicate := ⟨none, []⟩

/-- Whether a predicate makes no demand. -/
def isEmpty (p : Predicate) : Bool :=
  p.condition?.isNone

/-- The text of a predicate; empty if it makes no demand. -/
def text (d : Sql.Dialect) (p : Predicate) : String :=
  match p.condition? with
  | some c => c.text d
  | none => ""

end Predicate

/-- The value of an equality that stands for a missing value. -/
def missingValue : String := "-1"

/-- What a clause is read against besides its field: the day that is today, and the day that weeks
start on. -/
structure FilterContext where
  today : Calendar.Date
  weekStart : Calendar.WeekStart

namespace Predicate

open Sql (Column Condition Literal)
open Calendar (Date DayEnd DayRange)

/-- The value is one of a list; the missing value may be one of them. An empty list admits none. -/
def equals (c : Column) (values : List String) : Condition :=
  let among := Condition.oneOf c false (values.map .text)
  if values.isEmpty then .constant false
  else if missingValue ∈ values then .grouped (.either (.isNull c false) among)
  else among

/-- The value is none of a list, or missing. An empty list excludes none. -/
def notEquals (c : Column) (values : List String) : Condition :=
  if values.isEmpty then .constant true
  else .grouped (.either (.isNull c false) (.oneOf c true (values.map .text)))

/-- There is no value. -/
def isBlank (c : Column) (dynamic : Bool) : Condition :=
  if dynamic then .grouped (.either (.isNull c false) (.compare (.column c) .eq (.text "")))
  else .isNull c false

/-- There is a value. -/
def isPresent (c : Column) (dynamic : Bool) : Condition :=
  if dynamic then .grouped (.both (.isNull c true) (.compare (.column c) .ne (.text "")))
  else .isNull c true

/-- The value as a number is on one side of a threshold. -/
def threshold (c : Column) (r : Sql.Comparison) (value : String) (dynamic : Bool) : Condition :=
  let limit := Literal.number (Number.leadingReal value.toList)
  if dynamic then
    .grouped (.both (.compare (.column c) .ne (.text "")) (.compare (.decimal c) r limit))
  else .compare (.column c) r limit

/-- The status is closed, or is not. Only the status itself can be asked. -/
def statusFlag? (f : Field) (closed : Bool) : Option Condition :=
  if f.kind = .status then
    some (.compare (.column ⟨.statuses, "is_closed"⟩) .eq (.boolean closed))
  else none

/-- The value as text contains a text, in either case of ASCII letters, or does not. -/
def contains (c : Column) (negated : Bool) (value : String) : Condition :=
  .like c negated ("%" ++ Text.lowercase value ++ "%")

/-- The text of an end of a range of days: the day itself for a field of days, else an instant of
it. Days are kept within years of four digits, where texts compare as days do. -/
def bound (f : Field) (e : DayEnd) (d : Date) : Literal :=
  let day := d.clampToFourDigits
  .text (if f.isDateOnly then day.text else e.timestamp day)

/-- The value lies in a range of days: after the day before its first one, and up to its last. -/
def inRange? (f : Field) (r : DayRange) : Option Condition :=
  let lower? := r.lower?.map fun d =>
    Condition.compare (.column f.column) .gt (bound f .ending (d.previous?.getD Date.first))
  let upper? := r.upper?.map fun d =>
    Condition.compare (.column f.column) .le (bound f .ending d)
  match lower?, upper? with
  | some lower, some upper => some (.both lower upper)
  | some lower, none => some lower
  | none, upper? => upper?

/-- The value lies in the current week, from the start of its first day to the start of the same day
one week later. -/
def inWeek? (f : Field) (context : FilterContext) : Option Condition :=
  let week := context.weekStart.currentWeek context.today
  match week.lower?, week.upper? with
  | some lower, some upper =>
    some (.between f.column (bound f .beginning lower) (bound f .beginning upper))
  | _, _ => none

end Predicate

/-- The offsets, in days from today, of the range that a relative operator stands for; none for
other operators. Days back count against the calendar. -/
def Operator.dayOffsets? (op : Operator) (n : Int) : Option (Option Int × Option Int) :=
  let back := Number.saturate (-n)
  match op with
  | .sinceDaysAgo => some (some back, none)
  | .untilDaysAgo => some (none, some back)
  | .onDaysAgo => some (some back, some back)
  | .fromDaysAhead => some (some n, none)
  | .untilDaysAhead => some (none, some n)
  | .onDaysAhead => some (some n, some n)
  | .today => some (some 0, some 0)
  | _ => none

/-- The range of days that a relative operator stands for. -/
def Operator.dayRange? (op : Operator) (today : Calendar.Date) (n : Int) :
    Option Calendar.DayRange :=
  (op.dayOffsets? n).map fun offsets => Calendar.DayRange.ofOffsets today offsets.1 offsets.2

namespace Clause

open Predicate

/-- The condition of a clause on a field. -/
def condition? (c : Clause) (context : FilterContext) (f : Field) : Option Sql.Condition :=
  let column := f.column
  let dynamic := c.dynamic || f.isCustom
  match c.operator with
  | .equals => some (equals column c.values)
  | .notEquals => some (notEquals column c.values)
  | .isBlank => some (isBlank column dynamic)
  | .isPresent => some (isPresent column dynamic)
  | .atLeast => some (threshold column .ge c.firstValue dynamic)
  | .atMost => some (threshold column .le c.firstValue dynamic)
  | .closedStatus => statusFlag? f true
  | .openStatus => statusFlag? f false
  | .thisWeek => inWeek? f context
  | .contains => some (contains column false c.firstValue)
  | .notContains => some (contains column true c.firstValue)
  | op =>
    (op.dayRange? context.today (Number.leadingInt c.firstValue.toList)).bind (inRange? f)

/-- The joins of the condition of a clause: what the field needs, and the status for its flag. -/
def joins (c : Clause) (f : Field) : List Sql.Join :=
  let own := f.requiredJoin?.toList
  match c.operator with
  | .closedStatus => Sql.Join.add own .status
  | .openStatus => Sql.Join.add own .status
  | _ => own

/-- The predicate of a clause on a field. -/
def predicate (c : Clause) (context : FilterContext) (f : Field) : Predicate :=
  match c.condition? context f with
  | some condition => ⟨some condition, c.joins f⟩
  | none => .empty

/-- The predicates of clauses whose fields a catalog resolves; the first field that it does not know
decides the failure. -/
def predicates (context : FilterContext) (catalog : Catalog) (clauses : List Clause) :
    Except ResolutionError (List Predicate) :=
  clauses.mapM fun c => do
    let f ← catalog.resolve c.field
    pure (c.predicate context f)

end Clause

end Worklist
