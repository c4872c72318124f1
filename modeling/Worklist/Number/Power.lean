/-!
# Powers of two and of ten

The scales of binary and of decimal numbers.
-/

set_option autoImplicit false

namespace Worklist.Number

/-- A power of two. -/
def twoTo (k : Nat) : Nat :=
  Nat.pow 2 k

/-- A power of ten. -/
def tenTo (k : Nat) : Nat :=
  Nat.pow 10 k

/-- The next power of two is twice as large. -/
theorem twoTo_succ (k : Nat) : twoTo (k + 1) = twoTo k * 2 := rfl

/-- The next power of ten is ten times as large. -/
theorem tenTo_succ (k : Nat) : tenTo (k + 1) = tenTo k * 10 := rfl

/-- A power of two is positive. -/
theorem twoTo_pos (k : Nat) : 0 < twoTo k := by
  induction k with
  | zero => exact Nat.one_pos
  | succ k ih => rw [twoTo_succ]; exact Nat.mul_pos ih (by decide)

/-- A power of ten is positive. -/
theorem tenTo_pos (k : Nat) : 0 < tenTo k := by
  induction k with
  | zero => exact Nat.one_pos
  | succ k ih => rw [tenTo_succ]; exact Nat.mul_pos ih (by decide)

end Worklist.Number
