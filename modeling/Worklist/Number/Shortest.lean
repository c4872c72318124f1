import Worklist.Number.Binary64

/-!
# The digits of a binary number

The decimal digits of a finite binary number: the fewest that read back as the number, and of those
the nearest to it. `shortest` answers a coefficient and a power of ten; `Digits.ofScaled` turns
these into digits without trailing zeros and the power of the first one.
-/

set_option autoImplicit false

namespace Worklist.Number

/-- Decimal digits `d₁ d₂ …` standing for `d₁.d₂… * 10 ^ exponent`. -/
structure Digits where
  digits : List Char
  exponent : Int
  deriving DecidableEq, Repr

/-- The digits of `coefficient * 10 ^ power` without trailing zeros. -/
def Digits.ofScaled (coefficient : Nat) (power : Int) : Digits :=
  let all := Nat.toDigits 10 coefficient
  let kept := (all.reverse.dropWhile (· == '0')).reverse
  ⟨if kept.isEmpty then ['0'] else kept, power + (all.length - 1 : Nat)⟩

namespace Binary64

/-- Numerator and denominator of `x * 2 ^ e / 10 ^ j`. -/
def scaled (x : Nat) (e j : Int) : Nat × Nat :=
  (x * twoTo e.toNat * tenTo (-j).toNat, twoTo (-e).toNat * tenTo j.toNat)

/-- `num / den < 10 ^ k`, without fractions. -/
def belowTen (num den : Nat) (k : Int) : Bool :=
  decide (num * tenTo (-k).toNat < den * tenTo k.toNat)

/-- The whole part of the decimal logarithm of a positive quotient: an estimate from the binary one,
which is off by one at most, and then exact. -/
def decimalOrder (num den : Nat) : Int :=
  let k := Int.fdiv (binaryOrder num den * 30103) 100000
  if belowTen num den k then k - 1
  else if belowTen num den (k + 1) then k else k + 1

/-- Of `below` and the next whole number the one nearer to a quotient between them; of two equally
near the upper or the even one. -/
def nearerOf (tieUp : Bool) (num den below : Nat) : Nat :=
  let twice := 2 * (num - below * den)
  if twice < den then below
  else if den < twice || tieUp || below % 2 == 1 then below + 1
  else below

/-- The multiples of `10 ^ j` next to a value that lie in its rounding interval, the nearer one if
both do. The value and the ends of the interval are given as multiples of `2 ^ e`; `closed` says
that the ends belong to the interval. -/
def gridPoint? (tieUp : Bool) (low value high : Nat) (closed : Bool) (e j : Int) : Option Nat :=
  let (num, den) := scaled value e j
  let (lowNum, _) := scaled low e j
  let (highNum, _) := scaled high e j
  let inside (c : Nat) : Bool :=
    if closed then decide (lowNum ≤ c * den) && decide (c * den ≤ highNum)
    else decide (lowNum < c * den) && decide (c * den < highNum)
  let below := num / den
  let above := if num % den = 0 then below else below + 1
  match inside below, inside above with
  | true, true => some (nearerOf tieUp num den below)
  | true, false => some below
  | false, true => some above
  | false, false => none

/-- The shortest digits that read back as the magnitude of `x`, as a coefficient and a power of ten.
The rounding interval reaches half a unit to either side, a quarter below a power of two, and its
ends belong to it when the mantissa is even. -/
def shortest (tieUp : Bool) (x : Binary64) : Nat × Int :=
  if x.mantissa = 0 then (0, 0)
  else
    let value := 4 * x.mantissa
    let low := if x.mantissa = twoTo 52 ∧ -1074 < x.exponent then value - 1 else value - 2
    let high := value + 2
    let e := x.exponent - 2
    let (num, den) := scaled value e 0
    let order := decimalOrder num den
    let grid := (List.range 17).findSome? fun (i : Nat) =>
      let j := order - i
      (gridPoint? tieUp low value high (x.mantissa % 2 == 0) e j).map fun c => (c, j)
    grid.getD (0, 0)

end Binary64

end Worklist.Number
