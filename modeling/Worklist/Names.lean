import Worklist.Calendar.Range
import Worklist.Field.Basic
import Worklist.Field.Key
import Worklist.Filter.Operator
import Worklist.Json.Reader
import Worklist.Json.Writer

/-!
# Names on the wire

Operators, formats and days that weeks start on are named in JSON by their codes, and field keys by
their text. Each is written as a JSON text.
-/

set_option autoImplicit false

namespace Worklist

open Json (Fault Tree)

/-- Reads the JSON text of an operator. -/
def Operator.parse (s : String) : Except Fault Operator :=
  Json.readDocument (Tree.asVariant (Operator.all.map Operator.code) Operator.ofCode?) s

/-- The JSON text of an operator. -/
def Operator.json (op : Operator) : String :=
  Json.writeText op.code

/-- Reads the JSON text of a format. -/
def Format.parse (s : String) : Except Fault Format :=
  Json.readDocument (Tree.asVariant (Format.all.map Format.code) Format.ofCode?) s

/-- The JSON text of a format. -/
def Format.json (f : Format) : String :=
  Json.writeText f.code

/-- Reads a day that weeks start on. -/
def Calendar.WeekStart.ofTree (t : Tree) : Except Fault WeekStart :=
  t.asVariant (WeekStart.all.map WeekStart.name) WeekStart.ofName?

/-- The JSON text of a day that weeks start on. -/
def Calendar.WeekStart.json (w : WeekStart) : String :=
  Json.writeText w.name

/-- Reads a field key. -/
def FieldKey.ofTree (t : Tree) : Except Fault FieldKey := do
  let s ← t.asText
  pure (FieldKey.parse s)

/-- The JSON text of a field key. -/
def FieldKey.json (k : FieldKey) : String :=
  Json.writeText k.text

end Worklist
