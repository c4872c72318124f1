import Worklist.Number.Binary64

/-!
# Scaling by powers of ten in a wider format

Numbers with sixty-four bits of mantissa and an exponent without bounds. In this format decimal
digits become a binary number, and a binary number becomes digits, by multiplication with powers of
ten, in steps of a hundred places, ten places and one place. Every step rounds, so the outcome is
mostly but not always the nearest one, and the steps themselves are the rule.
-/

set_option autoImplicit false

namespace Worklist.Number

/-- The positive number `mantissa * 2 ^ exponent`. -/
structure Extended where
  mantissa : Nat
  exponent : Int
  deriving DecidableEq, Repr

namespace Extended

/-- A number rounded to sixty-four bits of mantissa, a tie to the even one. -/
def rounded (mantissa : Nat) (exponent : Int) : Extended :=
  let extra := mantissa.log2 - 63
  ⟨Binary64.roundQuotient mantissa (twoTo extra), exponent + extra⟩

/-- A power of ten, rounded. A fraction is brought to sixty-four bits before the point. -/
def powerOfTen (k : Int) : Extended :=
  if 0 ≤ k then rounded (tenTo k.toNat) 0
  else
    let den := tenTo (-k).toNat
    let shift := den.log2 + 64
    ⟨Binary64.roundQuotient (twoTo shift) den, -(shift : Int)⟩

/-- The product, rounded. -/
def mul (x y : Extended) : Extended :=
  rounded (x.mantissa * y.mantissa) (x.exponent + y.exponent)

/-- Whether a number is at most another one. -/
def atMost (x y : Extended) : Bool :=
  let least := min x.exponent y.exponent
  decide (x.mantissa * twoTo (x.exponent - least).toNat ≤
    y.mantissa * twoTo (y.exponent - least).toNat)

/-- The whole part. -/
def floor (x : Extended) : Nat :=
  x.mantissa * twoTo x.exponent.toNat / twoTo (-x.exponent).toNat

/-- The number after a count of steps, each of which multiplies with `10 ^ k`. -/
def steps (k : Int) : Nat → Extended → Extended
  | 0, x => x
  | n + 1, x => steps k n (x.mul (powerOfTen k))

/-- The number scaled by `10 ^ power`. -/
def scale (x : Extended) (power : Int) : Extended :=
  let n := power.natAbs
  let hundreds := steps (100 * power.sign) (n / 100) x
  let tens := steps (10 * power.sign) (n % 100 / 10) hundreds
  steps power.sign (n % 10) tens

/-- Steps like those of `steps`, as long as a condition holds, but no more than a limit; the power
of ten that leads back to the start is kept along with the number. -/
def stepsWhile (holds : Extended → Bool) (k : Int) : Nat → Extended × Int → Extended × Int
  | 0, s => s
  | limit + 1, (x, back) =>
    if holds x then stepsWhile holds k limit (x.mul (powerOfTen k), back - k) else (x, back)

/-- The number brought between `10 ^ 17` and `10 ^ 19`, with the power of ten that leads back. No
number of 64 bits needs as many steps of one kind as the limit allows. -/
def leveled (x : Extended) : Extended × Int :=
  let high (k : Int) (y : Extended) : Bool := (powerOfTen k).atMost y
  let low (k : Int) (y : Extended) : Bool := !high k y
  if high 19 x then
    stepsWhile (high 19) (-1) 20
      (stepsWhile (high 29) (-10) 20 (stepsWhile (high 119) (-100) 20 (x, 0)))
  else
    stepsWhile (low 17) 1 20
      (stepsWhile (low 7) 10 20 (stepsWhile (low (-97)) 100 20 (x, 0)))

/-- The greatest finite number of 64 bits. -/
def greatest : Extended := ⟨twoTo 53 - 1, 971⟩

/-- The nearest number of 64 bits; nothing for what is beyond the greatest one. -/
def toBinary64? (negative : Bool) (x : Extended) : Option Binary64 :=
  if x.atMost greatest then
    Binary64.nearest negative (x.mantissa * twoTo x.exponent.toNat) (twoTo (-x.exponent).toNat)
  else none

end Extended

/-- The magnitude of a number in decimal digits, at most `count` of them, as a coefficient and a
power of ten. It is cut to a whole number of eighteen or nineteen digits first, and half of the last
place that stays is rounded up. -/
def Binary64.significant (count : Nat) (x : Binary64) : Nat × Int :=
  if x.mantissa = 0 then (0, 0)
  else
    let (y, back) := Extended.leveled ⟨x.mantissa, x.exponent⟩
    let whole := y.floor
    let extra := (Nat.toDigits 10 whole).length - count
    ((whole + 5 * tenTo (extra - 1)) / tenTo extra, back + extra)

end Worklist.Number
