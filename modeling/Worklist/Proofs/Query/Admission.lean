import Worklist.Proofs.Query.Selection
import Worklist.Proofs.Store.RowOrder

/-!
# What scopes and projects admit

A scope and the project of a query look at the project of a work package only, which every work
package has. Their conditions are true of a work package exactly when it is from one of the projects
that are meant.
-/

set_option autoImplicit false

namespace Worklist

open Sql (Condition)
open Store (Integrity Record Row Truth Value compareValues compareWith meets truth)

/-- Whether a scope admits a work package. About a scope given as text nothing is known. -/
def Scope.Admits (s : Store) (workPackage : Record) : Scope → Prop
  | .all => True
  | .none => False
  | .projects ids => ∃ id ∈ ids, workPackage.get "project_id" = .int id
  | .memberOf user => ∃ member ∈ s.members, member.get "user_id" = .int user ∧
      member.get "project_id" = workPackage.get "project_id"
  | .trusted _ => False

/-- Whether a scope is one of those that the library writes itself. -/
def Scope.IsBuiltIn (scope : Scope) : Prop :=
  ∀ sql, scope ≠ .trusted sql

/-- Whether a work package is from the project of a query, if it has one. -/
def FromProject (project? : Option Int) (workPackage : Record) : Prop :=
  ∀ id, project? = some id → workPackage.get "project_id" = .int id

namespace Store

/-- Every work package has the number of a project. -/
theorem Integrity.project_of_workPackage {s : Store} (h : Integrity s) {workPackage : Record}
    (hw : workPackage ∈ s.workPackages) : ∃ id, workPackage.get "project_id" = .int id :=
  h.whole_of_required (t := .workPackages) hw List.mem_cons_self rfl rfl

/-- Every membership has the number of a project. -/
theorem Integrity.project_of_member {s : Store} (h : Integrity s) {member : Record}
    (hm : member ∈ s.members) : ∃ id, member.get "project_id" = .int id :=
  h.whole_of_required (t := .members) hm (List.mem_cons_of_mem _ List.mem_cons_self) rfl rfl

/-- Whole numbers compare as equal if they are. -/
theorem holds_compareValues_int (m n : Int) :
    (compareValues .eq (.int m) (.int n)).holds = true ↔ m = n := by
  have decided : compareValues .eq (.int m) (.int n) =
      .ofBool (Value.order (.int m) (.int n) == .eq) := rfl
  rw [decided, Truth.holds_ofBool, Value.order_int, beq_iff_eq, compare_eq_iff_eq]

/-- A work package has a project if the comparison with it is true. -/
theorem holds_compareWith_project {workPackage : Record} {project id : Int}
    (h : workPackage.get "project_id" = .int project) :
    (compareWith (.alone workPackage) (.column projectColumn) .eq (.whole id)).holds = true ↔
      workPackage.get "project_id" = .int id := by
  have value : compareWith (.alone workPackage) (.column projectColumn) .eq (.whole id) =
      compareValues .eq (workPackage.get "project_id") (.int id) := rfl
  rw [value, h, holds_compareValues_int, Value.int.injEq]

/-- The condition of a project is true of the work packages that are from it. -/
theorem meets_project {s : Store} (h : Integrity s) {workPackage : Record}
    (hw : workPackage ∈ s.workPackages) (id : Int) :
    meets s workPackage (.compare (.column projectColumn) .eq (.whole id)) = true ↔
      workPackage.get "project_id" = .int id := by
  obtain ⟨project, hproject⟩ := h.project_of_workPackage hw
  exact holds_compareWith_project hproject

/-- The condition of a list of projects is true of the work packages that are from one of them. -/
theorem meets_oneOf_projects {s : Store} (h : Integrity s) {workPackage : Record}
    (hw : workPackage ∈ s.workPackages) (ids : List Int) :
    meets s workPackage (.oneOf projectColumn false (ids.map .whole)) = true ↔
      ∃ id ∈ ids, workPackage.get "project_id" = .int id := by
  obtain ⟨project, hproject⟩ := h.project_of_workPackage hw
  have some_holds : meets s workPackage (.oneOf projectColumn false (ids.map .whole)) =
      (ids.map .whole).any fun l =>
        (compareWith (.alone workPackage) (.column projectColumn) .eq l).holds := by
    have any_holds := Truth.holds_any
      ((ids.map .whole).map (compareWith (.alone workPackage) (.column projectColumn) .eq))
    rw [List.any_map] at any_holds
    exact any_holds
  rw [some_holds, List.any_map, List.any_eq_true]
  refine exists_congr fun id => and_congr_right fun _ => ?_
  exact holds_compareWith_project hproject

/-- The condition of a member is true of the work packages from the projects of that member. -/
theorem meets_projectOfMember {s : Store} (h : Integrity s) {workPackage : Record}
    (hw : workPackage ∈ s.workPackages) (user : Int) :
    meets s workPackage (.projectOfMember projectColumn user) = true ↔
      ∃ member ∈ s.members, member.get "user_id" = .int user ∧
        member.get "project_id" = workPackage.get "project_id" := by
  obtain ⟨project, hproject⟩ := h.project_of_workPackage hw
  have some_holds : meets s workPackage (.projectOfMember projectColumn user) =
      (projectsOf s user).any fun v =>
        (compareValues .eq (workPackage.get "project_id") v).holds := by
    have any_holds := Truth.holds_any
      ((projectsOf s user).map (compareValues .eq (workPackage.get "project_id")))
    rw [List.any_map] at any_holds
    exact any_holds
  have inProjects (v : Value) : v ∈ projectsOf s user ↔
      ∃ member ∈ s.members, member.get "user_id" = .int user ∧ member.get "project_id" = v := by
    unfold projectsOf
    simp only [List.mem_map, List.mem_filter, beq_iff_eq, and_assoc]
  rw [some_holds, List.any_eq_true]
  constructor
  · rintro ⟨v, hv, holds⟩
    obtain ⟨member, hm, huser, rfl⟩ := (inProjects v).mp hv
    obtain ⟨own, hown⟩ := h.project_of_member hm
    rw [hproject, hown, holds_compareValues_int] at holds
    exact ⟨member, hm, huser, by rw [hown, hproject, holds]⟩
  · rintro ⟨member, hm, huser, same⟩
    refine ⟨_, (inProjects _).mpr ⟨member, hm, huser, rfl⟩, ?_⟩
    rw [same, hproject, holds_compareValues_int]

/-- The condition of a scope is true of the work packages that it admits. -/
theorem meets_scope {s : Store} (h : Integrity s) {workPackage : Record}
    (hw : workPackage ∈ s.workPackages) {scope : Scope} (builtIn : scope.IsBuiltIn) :
    meets s workPackage scope.condition = true ↔ scope.Admits s workPackage := by
  cases scope with
  | all => exact iff_of_true rfl trivial
  | none => exact iff_of_false Bool.false_ne_true id
  | projects ids =>
    cases ids with
    | nil => exact iff_of_false Bool.false_ne_true (by rintro ⟨id, hid, -⟩; cases hid)
    | cons id ids => exact meets_oneOf_projects h hw (id :: ids)
  | memberOf user => exact meets_projectOfMember h hw user
  | trusted sql => exact absurd rfl (builtIn sql)

/-- The conditions of a query before its filters are true of the work packages that its scope admits
and that are from its project. -/
theorem meets_baseSelection {s : Store} (h : Integrity s) {workPackage : Record}
    (hw : workPackage ∈ s.workPackages) {q : Query} (builtIn : q.scope.IsBuiltIn) :
    (q.baseSelection.conditions.all (meets s workPackage)) = true ↔
      q.scope.Admits s workPackage ∧ FromProject q.project? workPackage := by
  unfold Query.baseSelection FromProject
  rw [List.all_cons, Bool.and_eq_true, meets_scope h hw builtIn]
  refine and_congr_right fun _ => ?_
  cases q.project? with
  | none => simp
  | some id =>
    simp only [Option.toList_some, List.map_cons, List.map_nil, List.all_cons, List.all_nil,
      Bool.and_true, Option.some.injEq, forall_eq']
    exact meets_project h hw id

end Store

end Worklist
