import Worklist.Sql.Statement

/-!
# Plans

Before a store goes through the work packages of a statement it plans how. It may meet them in the
order of some of their columns, as an index has them, and it may test the conditions in an order of
its own, because some of them can be told sooner than others. What a planner chooses is left to it:
the answers of a store are defined for any planner. A planner goes by the conditions alone, as
further joins only add values; it leaves no condition out, and work packages that its columns do not
tell apart come by their `id`.
-/

set_option autoImplicit false

namespace Worklist.Store

open Sql (Column Condition Operand OrderTerm)

/-- How the conditions of a statement are gone about. -/
structure Planner where
  /-- The columns by whose order the work packages are met, before their `id`. -/
  scan : List Condition → List OrderTerm
  /-- The conditions in the order in which a row meets them. -/
  tests : List Condition → List Condition
  /-- Every condition is tested, and nothing else is. -/
  mem_tests (conditions : List Condition) (c : Condition) : c ∈ tests conditions ↔ c ∈ conditions

namespace Planner

/-- The order in which a store meets work packages: that of the columns that the planner chooses,
and then by `id`. -/
def scanOrder (p : Planner) (conditions : List Condition) : List OrderTerm :=
  p.scan conditions ++ [⟨.workPackageId, false, false⟩]

/-- In whatever order conditions are tested, either all of them pass or not all do. -/
theorem all_tests (p : Planner) (conditions : List Condition) (test : Condition → Bool) :
    (p.tests conditions).all test = conditions.all test := by
  rw [Bool.eq_iff_iff, List.all_eq_true, List.all_eq_true]
  exact forall_congr' fun c => by rw [p.mem_tests]

end Planner

/-! ## A planner that looks values up -/

/-- The columns of work packages with an index, the preferred one first. -/
def indexedColumns : List String := ["id", "assigned_to_id", "status_id", "project_id"]

/-- How many values of a column a condition lists; none if it asks for something else. -/
def listed? (name : String) : Condition → Option Nat
  | .isNull c false => if c = ⟨.workPackages, name⟩ then some 1 else none
  | .compare (.column c) .eq _ => if c = ⟨.workPackages, name⟩ then some 1 else none
  | .oneOf c false values => if c = ⟨.workPackages, name⟩ then some values.length else none
  | _ => none

/-- The choice of an index with fewer values to look up, the first one if both have as many. -/
def fewer (best? : Option (String × Nat)) (choice : String × Nat) : Option (String × Nat) :=
  match best? with
  | some best => if choice.2 < best.2 then some choice else some best
  | none => some choice

/-- The column of which a condition lists the fewest values, and how many these are. -/
def lookup? (conditions : List Condition) : Option (String × Nat) :=
  let choices := indexedColumns.filterMap fun name =>
    (conditions.filterMap (listed? name)).min?.map fun n => (name, n)
  choices.foldl fewer none

/-- Whether a condition can be told from the index of a column, which has the `id` too. -/
def isIndexed (name : String) (c : Condition) : Bool :=
  c.columns.all fun column => column == ⟨.workPackages, name⟩ || column == .workPackageId

/-- When a condition is tested: by looking up, on the index, on the work package, or with all joined
tables. -/
inductive Stage where
  | lookedUp
  | indexed
  | alone
  | joined
  deriving DecidableEq, Repr

/-- The stages in their order. -/
def Stage.all : List Stage := [.lookedUp, .indexed, .alone, .joined]

/-- Every stage comes at some time. -/
theorem Stage.mem_all (stage : Stage) : stage ∈ Stage.all := by
  cases stage <;> decide

/-- The stage of a condition, given the column that values are looked up in and their number. The
index of the `id` is the record itself. -/
def stageOf (lookup? : Option (String × Nat)) (c : Condition) : Stage :=
  if !c.isLocal then .joined
  else
    match lookup? with
    | none => .alone
    | some (name, n) =>
      if listed? name c = some n then .lookedUp
      else if name != "id" && isIndexed name c then .indexed
      else .alone

/-- The conditions by their stages. -/
def staged (conditions : List Condition) : List Condition :=
  Stage.all.flatMap fun stage =>
    conditions.filter fun c => stageOf (lookup? conditions) c == stage

/-- Each condition has its stage. -/
theorem mem_staged (conditions : List Condition) (c : Condition) :
    c ∈ staged conditions ↔ c ∈ conditions := by
  unfold staged
  simp only [List.mem_flatMap, List.mem_filter, beq_iff_eq]
  constructor
  · rintro ⟨_, _, hc, _⟩
    exact hc
  · intro hc
    exact ⟨_, Stage.mem_all _, hc, rfl⟩

/-- The planner that looks up the column with the fewest values to look up, and that tests what can
be told from its index before the rest of a work package is read. -/
def Planner.lookingUp : Planner where
  scan conditions :=
    (lookup? conditions).toList.map fun choice => ⟨⟨.workPackages, choice.1⟩, false, false⟩
  tests := staged
  mem_tests := mem_staged

end Worklist.Store
