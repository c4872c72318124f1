/-!
# Filter operators

The operators of a filter clause, their codes, and how many of the values of the clause each reads.
-/

set_option autoImplicit false

namespace Worklist

/-- An operator of a filter clause. -/
inductive Operator where
  | equals
  | notEquals
  | isBlank
  | isPresent
  | atLeast
  | atMost
  | closedStatus
  | openStatus
  /-- On the day that lies some days back, or later. -/
  | sinceDaysAgo
  /-- On the day that lies some days back, or earlier. -/
  | untilDaysAgo
  /-- On the day that lies some days back. -/
  | onDaysAgo
  /-- On the day that lies some days ahead, or later. -/
  | fromDaysAhead
  /-- On the day that lies some days ahead, or earlier. -/
  | untilDaysAhead
  /-- On the day that lies some days ahead. -/
  | onDaysAhead
  | today
  | thisWeek
  | contains
  | notContains
  deriving DecidableEq, Repr

/-- How many values an operator reads. -/
inductive Arity where
  | none
  | one
  | many
  deriving DecidableEq, Repr

namespace Operator

/-- All operators, in the order in which messages name them. -/
def all : List Operator :=
  [.equals, .notEquals, .isBlank, .isPresent, .atLeast, .atMost, .closedStatus, .openStatus,
    .sinceDaysAgo, .untilDaysAgo, .onDaysAgo, .fromDaysAhead, .untilDaysAhead, .onDaysAhead,
    .today, .thisWeek, .contains, .notContains]

/-- The code of an operator. -/
def code : Operator → String
  | .equals => "="
  | .notEquals => "!"
  | .isBlank => "!*"
  | .isPresent => "*"
  | .atLeast => ">="
  | .atMost => "<="
  | .closedStatus => "c"
  | .openStatus => "o"
  | .sinceDaysAgo => ">t-"
  | .untilDaysAgo => "<t-"
  | .onDaysAgo => "t-"
  | .fromDaysAhead => ">t+"
  | .untilDaysAhead => "<t+"
  | .onDaysAhead => "t+"
  | .today => "t"
  | .thisWeek => "w"
  | .contains => "~"
  | .notContains => "!~"

/-- The operator with a code. -/
def ofCode? (code : String) : Option Operator :=
  all.find? fun op => op.code == code

/-- How many values an operator reads. -/
def arity : Operator → Arity
  | .equals => .many
  | .notEquals => .many
  | .isBlank => .none
  | .isPresent => .none
  | .closedStatus => .none
  | .openStatus => .none
  | .today => .none
  | .thisWeek => .none
  | .atLeast => .one
  | .atMost => .one
  | .sinceDaysAgo => .one
  | .untilDaysAgo => .one
  | .onDaysAgo => .one
  | .fromDaysAhead => .one
  | .untilDaysAhead => .one
  | .onDaysAhead => .one
  | .contains => .one
  | .notContains => .one

/-- The operator with the code of an operator is that operator. -/
theorem ofCode?_code (op : Operator) : ofCode? op.code = some op := by
  cases op <;> decide

end Operator

end Worklist
