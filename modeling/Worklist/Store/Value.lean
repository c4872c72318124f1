import Worklist.Number.Literal

/-!
# Stored values

What a cell of a store holds: nothing, a number or a text. Values have one order: nothing comes
first, then the numbers by size, whole or not, then the texts character by character.
-/

set_option autoImplicit false

namespace Worklist.Store

open Number (Binary64 NumberStyle)

/-- A value in a cell. -/
inductive Value where
  | null
  | int (n : Int)
  | real (x : Binary64)
  /-- A number too large for the format. -/
  | infinite (negative : Bool)
  | text (s : String)
  deriving DecidableEq

/-- Real numbers as text have at most 15 digits, are positional from 0.0001 up to below 10^15, and
always have a point: `2.5`, `5.0`, `1.0e+20`. -/
def storedStyle : NumberStyle := ⟨-4, 14, true, true, 2, true⟩

/-- The text of a real number. -/
def realText (x : Binary64) : String :=
  String.ofList (x.significantText storedStyle 15)

namespace Value

/-- The text of a value; nothing has none. -/
def text? : Value → Option String
  | .null => none
  | .int n => some (Number.decimal n)
  | .real x => some (realText x)
  | .infinite negative => some (if negative then "-Inf" else "Inf")
  | .text s => some s

/-- The size of a number, in the units of `Binary64.units`, where a number too large for the format
lies beyond all others. -/
def size : Value → Int
  | .int n => Binary64.wholeUnits n
  | .real x => x.units
  | .infinite negative => if negative then -(Number.twoTo 2098 : Int) else (Number.twoTo 2098 : Int)
  | _ => 0

/-- The order of values. -/
def order : Value → Value → Ordering
  | .null, .null => .eq
  | .null, _ => .lt
  | _, .null => .gt
  | .text s, .text t => compare s t
  | .text _, _ => .gt
  | _, .text _ => .lt
  | a, b => compare a.size b.size

/-- The kind of a value in the words of the store. -/
def kindName : Value → String
  | .null => "NULL"
  | .int _ => "INTEGER"
  | .real _ => "REAL"
  | .infinite _ => "REAL"
  | .text _ => "TEXT"

/-- Whether there is no value. -/
def isNull : Value → Bool
  | .null => true
  | _ => false

end Value

end Worklist.Store
