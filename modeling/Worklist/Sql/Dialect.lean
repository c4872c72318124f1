import Worklist.Number.Whole

/-!
# Dialects of SQL

What differs between the three databases for which conditions are written: how a text becomes a
literal, the truth values, the casts, and where rows without a value are placed by an order.
-/

set_option autoImplicit false

namespace Worklist.Sql

/-- A database whose dialect is written. -/
inductive Dialect where
  | sqlite
  | postgres
  | mysql
  deriving DecidableEq, Repr

namespace Dialect

/-- The name of the database. -/
def name : Dialect → String
  | .sqlite => "sqlite"
  | .postgres => "postgres"
  | .mysql => "mysql"

/-- A character inside a literal: a quote is written twice, and so is a backslash where the dialect
gives it a meaning. -/
def escapeChar (d : Dialect) (c : Char) : List Char :=
  if c = '\'' then ['\'', '\'']
  else if d = .mysql ∧ c = '\\' then ['\\', '\\']
  else [c]

/-- The characters between the quotes of a literal. -/
def escape (d : Dialect) (s : List Char) : List Char :=
  s.flatMap d.escapeChar

/-- The content of a literal, without its quotes. -/
def quoteText (d : Dialect) (s : String) : String :=
  String.ofList (d.escape s.toList)

/-- The literal of a text. Every text of a user enters a condition through it. -/
def literal (d : Dialect) (s : String) : String :=
  "'" ++ d.quoteText s ++ "'"

/-- The literal of a truth value. -/
def boolean : Dialect → Bool → String
  | .postgres, true => "TRUE"
  | .postgres, false => "FALSE"
  | _, true => "1"
  | _, false => "0"

/-- A column read as a decimal number. -/
def castDecimal (_ : Dialect) (column : String) : String :=
  "CAST(" ++ column ++ " AS DECIMAL(60,4))"

/-- A column read as text. -/
def castText (d : Dialect) (column : String) : String :=
  match d with
  | .sqlite => "CAST(" ++ column ++ " AS TEXT)"
  | .postgres => column ++ "::TEXT"
  | .mysql => "CAST(" ++ column ++ " AS CHAR)"

/-- The clause that cuts one page out of the rows. -/
def limitOffset (_ : Dialect) (limit offset : Nat) : String :=
  "LIMIT " ++ toString limit ++ " OFFSET " ++ toString offset

/-- The word for a direction. -/
def direction (descending : Bool) : String :=
  if descending then "DESC" else "ASC"

/-- An order by a column with the rows without a value last or first. Where the dialect has no words
for that, a term in front ranks the rows by whether they have a value. -/
def orderWithNulls (d : Dialect) (column : String) (descending nullsLast : Bool) : String :=
  match d with
  | .postgres =>
    column ++ " " ++ direction descending ++ (if nullsLast then " NULLS LAST" else " NULLS FIRST")
  | _ =>
    "CASE WHEN " ++ column ++ " IS NULL THEN " ++ (if nullsLast then "1" else "0") ++ " ELSE " ++
      (if nullsLast then "0" else "1") ++ " END, " ++ column ++ " " ++ direction descending

end Dialect

end Worklist.Sql
