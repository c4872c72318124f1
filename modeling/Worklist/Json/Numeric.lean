import Worklist.Json.Fault

/-!
# Numbers in JSON text

A JSON number without a point and an exponent is a whole number if it fits 64 bits, and a
floating-point number otherwise. A floating-point number is read with two roundings, not one: first
the digits, as many as fit 64 bits, then one scaling by the power of ten nearest to the exponent.
-/

set_option autoImplicit false

namespace Worklist.Json

open Number (Binary64)

/-- The value of a JSON number. -/
inductive Numeric where
  | natural (n : Nat)
  | negative (n : Int)
  | real (x : Binary64)
  deriving DecidableEq

/-- Appends digits to a whole number while it fits 64 bits; the digits that are left follow. -/
def absorbDigits (value : Nat) : List Char → Nat × List Char
  | [] => (value, [])
  | c :: rest =>
    let next := 10 * value + (c.toNat - 48)
    if Number.maxUInt64 < next then (value, c :: rest) else absorbDigits next rest

/-- The number nearest to a power of ten, up to the greatest such power in the format. -/
def powerOfTen (k : Nat) : Binary64 :=
  (Binary64.nearest false (Number.tenTo k) 1).getD default

/-- The number nearest to a quotient of two numbers. -/
def divided (x y : Binary64) : Binary64 :=
  (x.div y).getD default

/-- A number of 64 bits scaled by a power of ten. Beyond the powers of the format a positive number
is too large on the one side; on the other one it is scaled down in two steps or, still further
down, to zero. -/
def scaleByTen (significand : Nat) (power : Int) : Option Binary64 :=
  let x := (Binary64.nearest false significand 1).getD default
  if significand = 0 then some (Binary64.zero false)
  else if 308 < power then none
  else if 0 ≤ power then x.mul (powerOfTen power.toNat)
  else if -308 ≤ power then some (divided x (powerOfTen (-power).toNat))
  else if -616 ≤ power then
    some (divided (divided x (powerOfTen 308)) (powerOfTen (-power - 308).toNat))
  else some (Binary64.zero false)

/-- The value of a number from its parts: the sign, the digits before and after the point, and the
exponent, which are missing where the text has none of them. -/
def Numeric.ofParts (negative : Bool) (whole : List Char) (fraction? : Option (List Char))
    (exponent? : Option Int) : Except Fault Numeric :=
  let (first, dropped) := absorbDigits 0 whole
  if fraction?.isNone && exponent?.isNone && dropped.isEmpty then
    if !negative then .ok (.natural first)
    else if first = 0 ∨ Number.twoTo 63 < first then
      .ok (.real ((Binary64.nearest true first 1).getD default))
    else .ok (.negative (-first))
  else
    let fraction := fraction?.getD []
    let (significand, left) := absorbDigits first fraction
    let shift : Int := (dropped.length : Int) - (fraction.length - left.length : Nat)
    match scaleByTen significand (shift + exponent?.getD 0) with
    | some x => .ok (.real (if negative then x.neg else x))
    | none => .error .numberOutOfRange

end Worklist.Json
