import Worklist.Number.Power

/-!
# Binary floating-point numbers of 64 bits

A finite number is a sign, a mantissa and a power of two, in the one canonical form of the format:
fifty-three bits of mantissa, and fewer only at the least exponent. Everything is exact arithmetic
on whole numbers. `nearest` rounds a quotient to the nearest number of the format, ties to the even
mantissa, and yields nothing where the quotient is too large for it.
-/

set_option autoImplicit false

namespace Worklist.Number

/-- The pairs of mantissa and exponent that the format writes: each number has exactly one. -/
def Canonical (mantissa : Nat) (exponent : Int) : Prop :=
  mantissa < twoTo 53 ∧ -1074 ≤ exponent ∧ exponent ≤ 971 ∧ (twoTo 52 ≤ mantissa ∨ exponent = -1074)

instance (mantissa : Nat) (exponent : Int) : Decidable (Canonical mantissa exponent) := by
  unfold Canonical
  infer_instance

/-- A finite binary number of 64 bits: `± mantissa * 2 ^ exponent`. -/
structure Binary64 where
  negative : Bool
  mantissa : Nat
  exponent : Int
  canonical : Canonical mantissa exponent
  deriving DecidableEq

namespace Binary64

/-- The zero of either sign. -/
def zero (negative : Bool) : Binary64 :=
  ⟨negative, 0, -1074, by decide⟩

instance : Inhabited Binary64 := ⟨zero false⟩

/-- The quotient rounded to the nearest whole number, a tie to the even one. -/
def roundQuotient (num den : Nat) : Nat :=
  let q := num / den
  let r := num % den
  if 2 * r < den then q
  else if den < 2 * r then q + 1
  else if q % 2 = 0 then q else q + 1

/-- `num / den < 2 ^ k`, without fractions. -/
def belowPower (num den : Nat) (k : Int) : Bool :=
  if 0 ≤ k then decide (num < den * twoTo k.toNat) else decide (num * twoTo (-k).toNat < den)

/-- The whole part of the binary logarithm of a positive quotient. -/
def binaryOrder (num den : Nat) : Int :=
  let k : Int := (num.log2 : Int) - (den.log2 : Int)
  if belowPower num den k then k - 1 else k

/-- The exponent at which a quotient has fifty-three bits before the point, or the least one. -/
def unitExponent (num den : Nat) : Int :=
  max (-1074) (binaryOrder num den - 52)

/-- A mantissa of fifty-four bits moves to the next exponent. -/
def carry (mantissa : Nat) (exponent : Int) : Nat × Int :=
  if mantissa = twoTo 53 then (twoTo 52, exponent + 1) else (mantissa, exponent)

/-- The number nearest to `± num / den`, ties to the even mantissa; nothing if that is too large. -/
def nearest (negative : Bool) (num den : Nat) : Option Binary64 :=
  if num = 0 then some (zero negative)
  else
    let e := unitExponent num den
    let m := if 0 ≤ e then roundQuotient num (den * twoTo e.toNat)
      else roundQuotient (num * twoTo (-e).toNat) den
    let (mantissa, exponent) := carry m e
    if h : Canonical mantissa exponent then some ⟨negative, mantissa, exponent, h⟩ else none

/-- The number nearest to `± coefficient * 10 ^ power`. A power that alone decides the outcome is
never computed: beyond 400 a positive coefficient is too large, and a quotient whose divisor has far
more bits than the coefficient is nearest to zero. -/
def ofDecimal (negative : Bool) (coefficient : Nat) (power : Int) : Option Binary64 :=
  if coefficient = 0 then some (zero negative)
  else if 400 < power then none
  else if (coefficient.log2 : Int) + 1080 < -3 * power then some (zero negative)
  else if 0 ≤ power then nearest negative (coefficient * tenTo power.toNat) 1
  else nearest negative coefficient (tenTo (-power).toNat)

/-- The magnitude as a quotient of whole numbers. -/
def toQuotient (x : Binary64) : Nat × Nat :=
  if 0 ≤ x.exponent then (x.mantissa * twoTo x.exponent.toNat, 1)
  else (x.mantissa, twoTo (-x.exponent).toNat)

/-- The product, rounded to the nearest number. -/
def mul (x y : Binary64) : Option Binary64 :=
  let (a, b) := x.toQuotient
  let (c, d) := y.toQuotient
  nearest (x.negative != y.negative) (a * c) (b * d)

/-- The quotient, rounded to the nearest number; `y` is not zero. -/
def div (x y : Binary64) : Option Binary64 :=
  let (a, b) := x.toQuotient
  let (c, d) := y.toQuotient
  nearest (x.negative != y.negative) (a * d) (b * c)

/-- The number of opposite sign. -/
def neg (x : Binary64) : Binary64 :=
  { x with negative := !x.negative }

/-- The exact value in units of `2 ^ -1074`, of which every number of the format is a multiple. -/
def units (x : Binary64) : Int :=
  let u : Int := ((x.mantissa * twoTo (x.exponent + 1074).toNat : Nat) : Int)
  if x.negative then -u else u

/-- A whole number in the units of `units`. -/
def wholeUnits (n : Int) : Int :=
  n * twoTo 1074

/-- Whether the number is zero, of either sign. -/
def isZero (x : Binary64) : Bool :=
  x.mantissa == 0

/-- The whole number that a number is, if it is one. -/
def toWhole? (x : Binary64) : Option Int :=
  let (num, den) := x.toQuotient
  if num % den = 0 then
    let n : Int := ((num / den : Nat) : Int)
    some (if x.negative then -n else n)
  else none

end Binary64

/-- A binary number of 64 bits that need not be finite. -/
inductive Real64 where
  | finite (x : Binary64)
  | infinite (negative : Bool)
  | notANumber
  deriving DecidableEq

end Worklist.Number
