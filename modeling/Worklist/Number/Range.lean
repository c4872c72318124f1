/-!
# Ranges of whole numbers

Identifiers and offsets are 64-bit signed numbers, page sizes and page numbers are 32-bit unsigned
ones. Arithmetic on them never wraps: it stays at the end of the range that it would leave.
-/

set_option autoImplicit false

namespace Worklist.Number

/-- The least 64-bit signed number. -/
def minInt64 : Int := -9223372036854775808

/-- The greatest 64-bit signed number. -/
def maxInt64 : Int := 9223372036854775807

/-- The greatest 64-bit unsigned number. -/
def maxUInt64 : Nat := 18446744073709551615

/-- The greatest 32-bit unsigned number. -/
def maxUInt32 : Nat := 4294967295

/-- Whether a number is a 64-bit signed one. -/
def isInt64 (n : Int) : Bool :=
  decide (minInt64 ≤ n) && decide (n ≤ maxInt64)

/-- The test of the range is a test of its two ends. -/
theorem isInt64_iff {n : Int} : isInt64 n = true ↔ minInt64 ≤ n ∧ n ≤ maxInt64 := by
  rw [isInt64, Bool.and_eq_true, decide_eq_true_eq, decide_eq_true_eq]

/-- The 64-bit signed number nearest to `n`. -/
def saturate (n : Int) : Int :=
  max minInt64 (min n maxInt64)

/-- Saturation keeps the numbers of the range. -/
theorem saturate_of_isInt64 {n : Int} (h : isInt64 n = true) : saturate n = n := by
  rw [isInt64_iff] at h
  unfold saturate
  omega

end Worklist.Number
