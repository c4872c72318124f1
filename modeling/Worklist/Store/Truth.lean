/-!
# Truth with a third value

A condition on a missing value is neither true nor false. A row satisfies a condition only if the
condition is true of it.
-/

set_option autoImplicit false

namespace Worklist.Store

/-- The truth of a condition. -/
inductive Truth where
  | yes
  | no
  | unknown
  deriving DecidableEq, Repr

namespace Truth

/-- The truth of a test that was decided. -/
def ofBool (b : Bool) : Truth :=
  if b then .yes else .no

/-- Whether a condition is true. -/
def holds : Truth → Bool
  | .yes => true
  | _ => false

/-- The truth of the opposite. -/
protected def not : Truth → Truth
  | .yes => .no
  | .no => .yes
  | .unknown => .unknown

/-- Both of two conditions. -/
protected def and : Truth → Truth → Truth
  | .no, _ => .no
  | _, .no => .no
  | .yes, t => t
  | .unknown, _ => .unknown

/-- At least one of two conditions. -/
protected def or : Truth → Truth → Truth
  | .yes, _ => .yes
  | _, .yes => .yes
  | .no, t => t
  | .unknown, _ => .unknown

/-- At least one of a list of conditions. -/
def any (ts : List Truth) : Truth :=
  ts.foldr Truth.or .no

/-- The opposite, if it is asked for. -/
def negatedIf (negated : Bool) (t : Truth) : Truth :=
  if negated then t.not else t

/-- Both hold exactly when each does. -/
theorem holds_and (a b : Truth) : (a.and b).holds = (a.holds && b.holds) := by
  cases a <;> cases b <;> rfl

/-- One of two holds exactly when the first or the second does. -/
theorem holds_or (a b : Truth) : (a.or b).holds = (a.holds || b.holds) := by
  cases a <;> cases b <;> rfl

/-- A decided test holds as it was decided. -/
theorem holds_ofBool (b : Bool) : (ofBool b).holds = b := by
  cases b <;> rfl

/-- One of a list holds exactly when one of its members does. -/
theorem holds_any (ts : List Truth) : (any ts).holds = ts.any holds := by
  induction ts with
  | nil => rfl
  | cons t ts ih => simp only [any, List.foldr_cons, List.any_cons] at ih ⊢; rw [holds_or, ih]

end Truth

end Worklist.Store
