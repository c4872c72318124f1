import Worklist.Sql.Condition

/-!
# Scopes

Which work packages a reader may see. Every statement has the condition of a scope, so what lies
outside of it is never counted or listed.
-/

set_option autoImplicit false

namespace Worklist

/-- The work packages that may be seen. -/
inductive Scope where
  | all
  | none
  /-- Those of some projects. -/
  | projects (ids : List Int)
  /-- Those of the projects that a user is a member of. -/
  | memberOf (user : Int)
  /-- Those that satisfy a condition given as text, by somebody who is trusted. -/
  | trusted (sql : String)
  deriving DecidableEq, Repr

/-- The condition of a scope. No projects admit nothing. -/
def Scope.condition : Scope → Sql.Condition
  | .all => .constant true
  | .none => .constant false
  | .projects [] => .constant false
  | .projects ids => .oneOf ⟨.workPackages, "project_id"⟩ false (ids.map .whole)
  | .memberOf user => .projectOfMember ⟨.workPackages, "project_id"⟩ user
  | .trusted sql => .verbatim sql

end Worklist
