import Worklist.Number.Whole

/-!
# Writing JSON text

Compact JSON text of the few shapes that are written: texts, whole numbers, missing values and
objects with given fields. A quote, a backslash and the control characters are escaped, and nothing
else is.
-/

set_option autoImplicit false

namespace Worklist.Json

/-- A hexadecimal number of four digits. -/
def fourHexDigits (n : Nat) : List Char :=
  let digits := Nat.toDigits 16 n
  List.replicate (4 - digits.length) '0' ++ digits

/-- A character between the quotes of a text. -/
def writeChar (c : Char) : List Char :=
  if c = '"' then ['\\', '"']
  else if c = '\\' then ['\\', '\\']
  else if c = '\x08' then ['\\', 'b']
  else if c = '\x0c' then ['\\', 'f']
  else if c = '\n' then ['\\', 'n']
  else if c = '\r' then ['\\', 'r']
  else if c = '\t' then ['\\', 't']
  else if c.toNat < 0x20 then '\\' :: 'u' :: fourHexDigits c.toNat
  else [c]

/-- A text. -/
def writeText (s : String) : String :=
  String.ofList ('"' :: (s.toList.flatMap writeChar ++ ['"']))

/-- A value that may be missing. -/
def writeOptional {α : Type} (write : α → String) : Option α → String
  | some value => write value
  | none => "null"

/-- An object with fields in a given order. -/
def writeObject (fields : List (String × String)) : String :=
  "\x7b" ++ String.intercalate "," (fields.map fun f => writeText f.1 ++ ":" ++ f.2) ++ "\x7d"

end Worklist.Json
