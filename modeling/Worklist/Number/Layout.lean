import Worklist.Number.Extended
import Worklist.Number.Shortest

/-!
# Laying out the text of a number

How chosen digits become text: in positional notation within a range of exponents, in scientific
notation outside of it. A `NumberStyle` holds the decisions of one format.
-/

set_option autoImplicit false

namespace Worklist.Number

/-- The decisions of a format for numbers. Positional notation has at least one digit after the
point in every format. -/
structure NumberStyle where
  /-- The least exponent that is written positionally. -/
  leastPositional : Int
  /-- The greatest exponent that is written positionally. -/
  greatestPositional : Int
  /-- Whether a lone digit of scientific notation is followed by `.0`. -/
  pointInScientific : Bool
  /-- Whether an exponent that is not negative has a plus sign. -/
  plusInExponent : Bool
  /-- The least count of digits of an exponent. -/
  exponentWidth : Nat
  /-- Whether the upper one of two equally near choices of digits is taken, and not the even one. -/
  tieUp : Bool

/-- The text padded with zeros on the left to a width. -/
def padZeros (width : Nat) (digits : List Char) : List Char :=
  List.replicate (width - digits.length) '0' ++ digits

namespace Digits

/-- Digits in positional notation. -/
def positional (d : Digits) : List Char :=
  if d.exponent < 0 then
    '0' :: '.' :: (List.replicate (-d.exponent - 1).toNat '0' ++ d.digits)
  else
    let k := d.exponent.toNat + 1
    let whole := d.digits.take k
    let fraction := d.digits.drop k
    whole ++ List.replicate (k - whole.length) '0' ++
      ('.' :: (if fraction.isEmpty then ['0'] else fraction))

/-- The exponent of scientific notation with its mark and sign. -/
def exponentText (style : NumberStyle) (e : Int) : List Char :=
  let sign := if e < 0 then ['-'] else if style.plusInExponent then ['+'] else []
  'e' :: (sign ++ padZeros style.exponentWidth (Nat.toDigits 10 e.natAbs))

/-- Digits in scientific notation. -/
def scientific (style : NumberStyle) (d : Digits) : List Char :=
  let mantissa := match d.digits with
    | [] => []
    | [c] => if style.pointInScientific then [c, '.', '0'] else [c]
    | c :: rest => c :: '.' :: rest
  mantissa ++ exponentText style d.exponent

/-- Digits in the notation that a style chooses for their exponent. -/
def layout (style : NumberStyle) (d : Digits) : List Char :=
  if style.leastPositional ≤ d.exponent ∧ d.exponent ≤ style.greatestPositional then d.positional
  else d.scientific style

end Digits

/-- The shortest text of a number in a style. -/
def Binary64.shortestText (style : NumberStyle) (x : Binary64) : List Char :=
  let (coefficient, power) := x.shortest style.tieUp
  (if x.negative then ['-'] else []) ++ (Digits.ofScaled coefficient power).layout style

/-- The text of a number with a limited count of digits; zero has no sign. -/
def Binary64.significantText (style : NumberStyle) (count : Nat) (x : Binary64) : List Char :=
  let (coefficient, power) := x.significant count
  (if x.negative && !x.isZero then ['-'] else []) ++
    (Digits.ofScaled coefficient power).layout style

end Worklist.Number
