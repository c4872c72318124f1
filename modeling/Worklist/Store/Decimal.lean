import Worklist.Number.Extended
import Worklist.Number.Layout
import Worklist.Number.Numeral
import Worklist.Store.Value

/-!
# Decimal numbers in a store

How a store reads a real number that is given in decimal digits, in a text or as a constant of a
condition. The digits are taken into a whole number while it has room in 64 bits, the power of ten
is moved into it as far as possible, and the rest of the power is applied by `Extended.scale`.
-/

set_option autoImplicit false

namespace Worklist.Store

open Number (Binary64 Extended Numeral)

/-- Takes digits into a whole number while any further digit fits 64 bits; the digits that are left
follow. -/
def takeDigits (coefficient : Nat) : List Char → Nat × List Char
  | [] => (coefficient, [])
  | c :: rest =>
    if coefficient < (Number.maxUInt64 - 9) / 10 then
      takeDigits (10 * coefficient + (c.toNat - 48)) rest
    else (coefficient, c :: rest)

/-- The value of the digits of an exponent, which ceases to grow beyond ten thousand. -/
def exponentValue (digits : List Char) : Nat :=
  digits.foldl (fun e c => if e < 10000 then 10 * e + (c.toNat - 48) else 10000) 0

/-- Moves tens from a power into a coefficient while it has room for them. -/
def raisePower (coefficient : Nat) : Nat → Nat × Nat
  | 0 => (coefficient, 0)
  | power + 1 =>
    if coefficient < Number.maxUInt64 / 10 then raisePower (coefficient * 10) power
    else (coefficient, power + 1)

/-- Takes tens out of a coefficient against a negative power, given by its size, while the
coefficient has any. -/
def lowerPower (coefficient : Nat) : Nat → Nat × Nat
  | 0 => (coefficient, 0)
  | power + 1 =>
    if coefficient % 10 = 0 then lowerPower (coefficient / 10) power
    else (coefficient, power + 1)

/-- Raising keeps the number. -/
theorem raisePower_value (coefficient power : Nat) :
    (raisePower coefficient power).1 * Number.tenTo (raisePower coefficient power).2 =
      coefficient * Number.tenTo power := by
  induction power generalizing coefficient with
  | zero => rfl
  | succ power ih =>
    rw [raisePower]
    split
    · rw [ih, Number.tenTo_succ, Nat.mul_assoc, Nat.mul_comm 10]
    · rfl

/-- Lowering keeps the number. -/
theorem lowerPower_value (coefficient power : Nat) :
    coefficient * Number.tenTo (lowerPower coefficient power).2 =
      (lowerPower coefficient power).1 * Number.tenTo power := by
  induction power generalizing coefficient with
  | zero => rfl
  | succ power ih =>
    rw [lowerPower]
    split
    · rename_i h
      have whole : coefficient / 10 * 10 = coefficient :=
        Nat.div_mul_cancel (Nat.dvd_of_mod_eq_zero h)
      have step := ih (coefficient / 10)
      rw [Number.tenTo_succ, ← Nat.mul_assoc, ← step, Nat.mul_right_comm, whole]
    · rfl

/-- The same number with a power as near to zero as a coefficient of 64 bits allows. -/
def settlePower (coefficient : Nat) (power : Int) : Nat × Int :=
  if 0 ≤ power then
    let (c, left) := raisePower coefficient power.toNat
    (c, left)
  else
    let (c, left) := lowerPower coefficient (-power).toNat
    (c, -(left : Int))

/-- The number read for `± coefficient * 10 ^ power`, where the coefficient has 64 bits. -/
def readScaled (negative : Bool) (coefficient : Nat) (power : Int) : Value :=
  if coefficient = 0 then .real (Binary64.zero negative)
  else
    let (c, left) := settlePower coefficient power
    match (Extended.scale ⟨c, 0⟩ left).toBinary64? negative with
    | some x => .real x
    | none => .infinite negative

/-- The number read for a numeral. -/
def readNumeral (n : Numeral) : Value :=
  let (first, dropped) := takeDigits 0 n.whole
  let (coefficient, left) := takeDigits first n.fraction
  let shown : Int := match n.exponent with
    | some x => if x.negative then -(exponentValue x.digits : Int) else exponentValue x.digits
    | none => 0
  readScaled n.negative coefficient
    (shown + dropped.length - (n.fraction.length - left.length : Nat))

/-- The number read for the literal of a number. -/
def readLiteral (x : Binary64) : Value :=
  let (coefficient, power) := x.shortest Number.literalStyle.tieUp
  readScaled x.negative coefficient power

end Worklist.Store
