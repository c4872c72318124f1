import Worklist.Number.Range
import Worklist.Store.Decimal

/-!
# Numbers in texts, and the affinity of columns

A column of a store prefers one kind of value. What is put into it is converted to that kind if
nothing is lost, and so is what it is compared with. A text counts as a number if it is wholly one,
up to blanks around it; a cast takes the number at its start, however the text goes on.
-/

set_option autoImplicit false

namespace Worklist.Store

open Number (Binary64 Numeral)

/-- The blanks that may stand around a number in a text. -/
def isNumberBlank (c : Char) : Bool :=
  c == ' ' || (decide ('\t' ≤ c) && decide (c ≤ '\r'))

/-- A number at the start of a text. -/
structure ScannedNumber where
  numeral : Numeral
  /-- Whether it is written with digits only. -/
  plain : Bool
  rest : List Char

/-- The fraction at the start of a text, which may have no digits, and the rest; nothing if there is
no point. -/
def scanOpenFraction : List Char → Option (List Char) × List Char
  | '.' :: rest => (some (rest.takeWhile Char.isDigit), rest.dropWhile Char.isDigit)
  | s => (none, s)

/-- The longest number at the start of a text: as a numeral, or with a point that no digits
follow. -/
def scanNumber (s : List Char) : Option ScannedNumber :=
  let (sign, negative, rest) := Numeral.scanSign s
  let whole := rest.takeWhile Char.isDigit
  let (fraction?, rest) := scanOpenFraction (rest.dropWhile Char.isDigit)
  let fraction := fraction?.getD []
  if whole.isEmpty && fraction.isEmpty then none
  else
    let (exponent, rest) := Numeral.scanExponent rest
    some ⟨⟨sign, negative, whole, fraction, exponent⟩, fraction?.isNone && exponent.isNone, rest⟩

/-- The number that was scanned: exact if it is whole, is written as such and has 64 bits. -/
def ScannedNumber.value (n : ScannedNumber) : Value :=
  let magnitude : Int := Number.digitsValue n.numeral.whole
  let whole := if n.numeral.negative then -magnitude else magnitude
  if n.plain && Number.isInt64 whole then .int whole else readNumeral n.numeral

/-- The number that a text wholly is, up to blanks around it. -/
def numberOfText? (s : String) : Option Value :=
  match scanNumber (s.toList.dropWhile isNumberBlank) with
  | some n => if n.rest.all isNumberBlank then some n.value else none
  | none => none

/-- The number at the start of a text, after blanks; zero if there is none. -/
def numberAtStart (s : String) : Value :=
  match scanNumber (s.toList.dropWhile isNumberBlank) with
  | some n => n.value
  | none => .int 0

/-- A value cast to a number. -/
def Value.castNumber : Value → Value
  | .text s => numberAtStart s
  | v => v

/-- The kind of value that a column prefers. -/
inductive Affinity where
  | integer
  | real
  | text
  deriving DecidableEq, Repr

/-- A number as a whole one, where it is whole and has 64 bits. -/
def Value.toInteger : Value → Value
  | .real x =>
    match x.toWhole? with
    | some n => if Number.minInt64 < n ∧ n < Number.maxInt64 then .int n else .real x
    | none => .real x
  | v => v

/-- A number as a real one; zero has no sign. -/
def Value.toReal : Value → Value
  | .int n => .real ((Binary64.nearest (decide (n < 0)) n.natAbs 1).getD default)
  | .real x => .real (if x.isZero then Binary64.zero false else x)
  | v => v

namespace Affinity

/-- What a column keeps of a value that is put into it. -/
def keep : Affinity → Value → Value
  | .integer, .text s => ((numberOfText? s).map Value.toInteger).getD (.text s)
  | .integer, v => v.toInteger
  | .real, .text s => ((numberOfText? s).map Value.toReal).getD (.text s)
  | .real, v => v.toReal
  | .text, v => (v.text?.map Value.text).getD .null

/-- What a constant becomes when it is compared with a column. -/
def adapt : Affinity → Value → Value
  | .text, v => (v.text?.map Value.text).getD .null
  | _, .text s => (numberOfText? s).getD (.text s)
  | _, v => v

end Affinity

end Worklist.Store
