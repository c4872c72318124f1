import Worklist.Number.Range
import Worklist.Text.Blank

/-!
# Whole numbers as text

Three readings of whole numbers: a strict one for identifiers, a strict one for settings that says
what is wrong, and a permissive one for filter values, which reads as far as it can and takes what
is no number as zero.
-/

set_option autoImplicit false

namespace Worklist.Number

/-- The decimal text of a whole number. -/
def decimal (n : Int) : String :=
  toString n

/-- The value of a run of decimal digits. -/
def digitsValue (digits : List Char) : Nat :=
  Nat.ofDigitChars 10 digits 0

/-- A leading sign, as whether it is a minus, and what follows it. -/
def splitSign : List Char → Bool × List Char
  | '-' :: rest => (true, rest)
  | '+' :: rest => (false, rest)
  | s => (false, s)

/-- A text that is an optional sign and digits, nothing else, and names a 64-bit signed number. -/
def readInt64? (s : List Char) : Option Int :=
  let (negative, digits) := splitSign s
  if digits.isEmpty || digits.any (fun c => !c.isDigit) then
    none
  else
    let n : Int := if negative then -(digitsValue digits : Int) else digitsValue digits
    if isInt64 n then some n else none

/-- Why a text is no 32-bit unsigned number. -/
inductive WholeFault where
  | empty
  | invalidDigit
  | tooLarge
  deriving DecidableEq, Repr

/-- The wording of a fault in a whole number. -/
def WholeFault.message : WholeFault → String
  | .empty => "cannot parse integer from empty string"
  | .invalidDigit => "invalid digit found in string"
  | .tooLarge => "number too large to fit in target type"

/-- Reads digits from the left; the first character at fault decides which fault is reported. -/
def foldUInt32 (value : Nat) : List Char → Except WholeFault Nat
  | [] => .ok value
  | c :: rest =>
    if c.isDigit then
      let next := 10 * value + (c.toNat - 48)
      if next ≤ maxUInt32 then foldUInt32 next rest else .error .tooLarge
    else .error .invalidDigit

/-- A text that is an optional plus sign and digits, and names a 32-bit unsigned number. -/
def readUInt32 : List Char → Except WholeFault Nat
  | [] => .error .empty
  | '+' :: c :: rest => foldUInt32 0 (c :: rest)
  | s => foldUInt32 0 s

/-- One more digit on a running value, saturating after the shift and after the digit. -/
def appendDigit (negative : Bool) (value : Int) (c : Char) : Int :=
  let shifted := saturate (value * 10)
  let digit : Int := (c.toNat - 48 : Nat)
  saturate (if negative then shifted - digit else shifted + digit)

/-- The whole number at the start of a text: blanks, an optional sign and digits. What is no number
reads as zero, and the value stays in the 64-bit signed range at every digit. -/
def leadingInt (s : List Char) : Int :=
  let (negative, rest) := splitSign (Text.trimLeft s)
  (rest.takeWhile Char.isDigit).foldl (appendDigit negative) 0

end Worklist.Number
