import Worklist.Store.Basic

/-!
# Putting records into a store

A row names values for some columns. `Store.insert` completes it by what the other columns hold at
first, converts each value to what its column prefers, and refuses it if the record would break a
rule of the schema. The rules are checked in a fixed order: first the required columns, then the
`id`, then the key of the table, and last what the columns refer to.
-/

set_option autoImplicit false

namespace Worklist.Store

/-- Values for some columns of a record. -/
abbrev NewRow := List (String × Value)

/-- Why a row is refused. -/
inductive InsertError where
  | unknownColumn (table : Table) (column : String)
  /-- The `id` is no whole number. -/
  | idNotWhole
  | missing (table : Table) (column : String)
  | duplicate (table : Table) (columns : List String)
  /-- A column refers to a record that does not exist. -/
  | dangling
  deriving DecidableEq, Repr

/-- The wording of why a row is refused. -/
def InsertError.message : InsertError → String
  | .unknownColumn table column => "table " ++ table.name ++ " has no column named " ++ column
  | .idNotWhole => "datatype mismatch"
  | .missing table column => "NOT NULL constraint failed: " ++ table.name ++ "." ++ column
  | .duplicate table columns =>
    "UNIQUE constraint failed: " ++
      String.intercalate ", " (columns.map fun c => table.name ++ "." ++ c)
  | .dangling => "FOREIGN KEY constraint failed"

/-- The `id` for a record that comes without one: the one after the greatest, or the least free
one from 1 if that is beyond the range. -/
def freeId (ids : List Int) : Int :=
  match ids.max? with
  | none => 1
  | some greatest =>
    if greatest < Number.maxInt64 then greatest + 1
    else
      let candidates := (List.range (ids.length + 1)).map fun (k : Nat) => (k + 1 : Int)
      (candidates.find? fun id => !ids.contains id).getD greatest

/-- The `id` that a row asks for, or a free one. -/
def idFor (s : Store) (t : Table) (row : NewRow) : Except InsertError Int :=
  match Affinity.integer.keep ((row.lookup "id").getD .null) with
  | .null => .ok (freeId ((s.records t).map Record.id))
  | .int id => .ok id
  | _ => .error .idNotWhole

/-- The value that a row leads to in a column. -/
def cellFor (row : NewRow) (c : TableColumn) : String × Value :=
  (c.name, c.affinity.keep ((row.lookup c.name).getD c.initial))

/-- The record that a row leads to. -/
def recordFor (t : Table) (id : Int) (row : NewRow) : Record :=
  ⟨id, t.columns.map (cellFor row)⟩

/-- The first column that a row names and the table does not have. -/
def unknownColumn? (t : Table) (row : NewRow) : Option String :=
  let known := "id" :: t.columns.map TableColumn.name
  (row.map Prod.fst).find? fun name => !known.contains name

/-- The first required column that has no value. -/
def missingColumn? (t : Table) (r : Record) : Option String :=
  (t.columns.find? fun c => c.required && (r.get c.name).isNull).map TableColumn.name

/-- Whether two records agree in all columns of the key of their table. -/
def sameKey (t : Table) (a b : Record) : Bool :=
  !t.key.isEmpty && t.key.all fun column => a.get column == b.get column

/-- Whether a column refers to a record that exists, or to nothing; a record may refer to itself. -/
def refers (s : Store) (t : Table) (r : Record) (c : TableColumn) : Bool :=
  match c.refersTo?, r.get c.name with
  | none, _ => true
  | some _, .null => true
  | some target, .int id => s.hasId target id || (target == t && id == r.id)
  | some _, _ => false

/-- Checks a record against the rules of the schema. -/
def check (s : Store) (t : Table) (r : Record) : Except InsertError Unit :=
  match missingColumn? t r with
  | some column => .error (.missing t column)
  | none =>
    if s.hasId t r.id then .error (.duplicate t ["id"])
    else if (s.records t).any (sameKey t r) then .error (.duplicate t t.key)
    else if t.columns.all (refers s t r) then .ok ()
    else .error .dangling

/-- Puts a row into a table. -/
def insert (s : Store) (t : Table) (row : NewRow) : Except InsertError Store := do
  match unknownColumn? t row with
  | some column => .error (.unknownColumn t column)
  | none =>
    let id ← idFor s t row
    let r := recordFor t id row
    check s t r
    pure (s.add t r)

end Worklist.Store
