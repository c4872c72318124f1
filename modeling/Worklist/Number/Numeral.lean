import Worklist.Number.Whole

/-!
# Decimal numerals

A numeral is an optional sign, digits with an optional fraction, or a fraction alone, and an
optional exponent: `[+-]? (digits [. digits] | . digits) ([eE] [+-]? digits)?`, every run of digits
with at least one of them. `Numeral.scan` cuts the longest numeral off the start of a text. An
optional part that is incomplete, such as a point without digits, is left to the rest.
-/

set_option autoImplicit false

namespace Worklist.Number

/-- The exponent part of a numeral. -/
structure Exponent where
  /-- The mark, the sign and the digits as written. -/
  written : List Char
  negative : Bool
  digits : List Char
  deriving DecidableEq, Repr

/-- A numeral, part by part. -/
structure Numeral where
  /-- The sign as written, if any. -/
  sign : List Char
  negative : Bool
  whole : List Char
  /-- The digits after the point; none means that there is no point. -/
  fraction : List Char
  exponent : Option Exponent
  deriving DecidableEq, Repr

namespace Numeral

/-- The sign at the start of a text as written, whether it is a minus, and the rest. -/
def scanSign : List Char → List Char × Bool × List Char
  | '-' :: rest => (['-'], true, rest)
  | '+' :: rest => (['+'], false, rest)
  | s => ([], false, s)

/-- The digits of a fraction at the start of a text, and the rest. -/
def scanFraction : List Char → List Char × List Char
  | '.' :: rest =>
    if (rest.takeWhile Char.isDigit).isEmpty then ([], '.' :: rest)
    else (rest.takeWhile Char.isDigit, rest.dropWhile Char.isDigit)
  | s => ([], s)

/-- The exponent after its mark `e`, and the rest; nothing if no digit follows. -/
def scanExponentAfter (e : Char) (rest : List Char) : Option (Exponent × List Char) :=
  let (sign, negative, rest) := scanSign rest
  let digits := rest.takeWhile Char.isDigit
  if digits.isEmpty then none
  else some (⟨e :: (sign ++ digits), negative, digits⟩, rest.dropWhile Char.isDigit)

/-- The exponent at the start of a text, if any, and the rest. -/
def scanExponent : List Char → Option Exponent × List Char
  | c :: rest =>
    if c = 'e' ∨ c = 'E' then
      match scanExponentAfter c rest with
      | some (x, rest) => (some x, rest)
      | none => (none, c :: rest)
    else (none, c :: rest)
  | [] => (none, [])

/-- The longest numeral at the start of a text, and what follows it. -/
def scan (s : List Char) : Option (Numeral × List Char) :=
  let (sign, negative, rest) := scanSign s
  let whole := rest.takeWhile Char.isDigit
  let (fraction, rest) := scanFraction (rest.dropWhile Char.isDigit)
  if whole.isEmpty && fraction.isEmpty then none
  else
    let (exponent, rest) := scanExponent rest
    some (⟨sign, negative, whole, fraction, exponent⟩, rest)

/-- How many characters the longest numeral at the start of a text has; zero if there is none. -/
def leadingLength (s : List Char) : Nat :=
  match scan s with
  | some (_, rest) => s.length - rest.length
  | none => 0

/-- The text of a numeral. -/
def written (n : Numeral) : List Char :=
  n.sign ++ n.whole ++ (if n.fraction.isEmpty then [] else '.' :: n.fraction) ++
    (n.exponent.map Exponent.written).getD []

/-- The digits of a numeral as one whole number. -/
def coefficient (n : Numeral) : Nat :=
  digitsValue (n.whole ++ n.fraction)

/-- The power of ten that scales the coefficient. -/
def power (n : Numeral) : Int :=
  let shown : Int := match n.exponent with
    | some x => if x.negative then -(digitsValue x.digits : Int) else digitsValue x.digits
    | none => 0
  shown - n.fraction.length

end Numeral

end Worklist.Number
