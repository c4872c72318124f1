import Worklist.Number.Whole
import Worklist.Store.Select

/-!
# Holders of roles

The users who hold a role as members of a project. Roles are given by texts, from each of which the
whole number at its start is taken.
-/

set_option autoImplicit false

namespace Worklist.Store

/-- Whether a membership carries one of some roles. -/
def carriesRole (s : Store) (roles : List Int) (member : Record) : Bool :=
  s.memberRoles.any fun r =>
    r.get "member_id" == .int member.id && roles.any fun role => r.get "role_id" == .int role

/-- Whether a membership is one in a project, if a project is given. -/
def inProject (project? : Option Int) (member : Record) : Bool :=
  project?.all fun project => member.get "project_id" == .int project

/-- The user of a membership. -/
def memberUser? (member : Record) : Option Int :=
  match member.get "user_id" with
  | .int user => some user
  | _ => none

/-- The users who hold one of some roles, in the one project if it is given, each once and in
ascending order. -/
def roleHolders (s : Store) (roles : List String) (project? : Option Int) : List Int :=
  let ids := roles.map fun role => Number.leadingInt role.toList
  let members := s.members.filter fun m => carriesRole s ids m && inProject project? m
  (distinct (members.filterMap memberUser?)).mergeSort fun a b => decide (a ≤ b)

end Worklist.Store
