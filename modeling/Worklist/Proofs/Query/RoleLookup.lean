import Worklist.Proofs.Query.FirstFailure
import Worklist.Proofs.Query.RoleFilter

/-!
# The lookup of holders

The statement that looks up the holders of roles joins memberships with the roles that they carry.
A membership comes once for each of its roles and a user once for each membership, and the values
that the rows are tested against are bound by their position: first the roles, one for each mark,
and behind them the project if there is one. The answer is determined by who holds one of the roles:
these users, each once and in ascending order.
-/

set_option autoImplicit false

namespace Worklist

open Store (Record)

/-! ## The statement -/

namespace Store

/-- The memberships, each with every role that it carries. -/
def carriedRoles (s : Store) : List (Record × Record) :=
  s.members.flatMap fun member =>
    (s.memberRoles.filter fun r => r.get "member_id" == .int member.id).map fun r => (member, r)

/-- The statement of a lookup: how many marks it has for roles, and whether it has one for a
project. -/
structure Lookup where
  marks : Nat
  ofProject : Bool

namespace Lookup

/-- The statement for some roles and the project that may be given. -/
def forRoles (roles : List String) (project? : Option Int) : Lookup :=
  ⟨roles.length, project?.isSome⟩

/-- What is bound to the marks, in the order of the marks. -/
def parameters (roles : List String) (project? : Option Int) : List Int :=
  roles.map (fun role => Number.leadingInt role.toList) ++ project?.toList

/-- Whether a joined row meets the conditions of the statement. -/
def meets (l : Lookup) (parameters : List Int) (row : Record × Record) : Bool :=
  (parameters.take l.marks).any (fun role => row.2.get "role_id" == .int role) &&
    (!l.ofProject || parameters[l.marks]?.any fun project =>
      row.1.get "project_id" == .int project)

/-- What the statement gives: the users of the rows, each once and in ascending order. -/
def run (s : Store) (l : Lookup) (parameters : List Int) : List Int :=
  let rows := s.carriedRoles.filter (l.meets parameters)
  (distinct (rows.filterMap fun row => memberUser? row.1)).mergeSort fun a b => decide (a ≤ b)

variable (roles : List String) (project? : Option Int)

/-- There are as many parameters as the store is asked to take. -/
theorem length_parameters :
    (parameters roles project?).length = roles.length + project?.toList.length := by
  rw [parameters, List.length_append, List.length_map]

/-- The marks for roles are bound to the roles. -/
theorem take_parameters :
    (parameters roles project?).take (forRoles roles project?).marks =
      roles.map fun role => Number.leadingInt role.toList :=
  List.take_left' (List.length_map _)

/-- The mark for the project is bound to the project. -/
theorem getElem?_parameters :
    (parameters roles project?)[(forRoles roles project?).marks]? = project? := by
  have marks : (roles.map fun role => Number.leadingInt role.toList).length = roles.length :=
    List.length_map _
  unfold parameters forRoles
  rw [List.getElem?_append_right marks.le, marks, Nat.sub_self]
  cases project? <;> rfl

variable {roles project?}

/-- A joined row meets the conditions if it has one of the roles and is in the project. -/
theorem meets_iff {row : Record × Record} :
    (forRoles roles project?).meets (parameters roles project?) row = true ↔
      (∃ role ∈ roles, row.2.get "role_id" = .int (Number.leadingInt role.toList)) ∧
        FromProject project? row.1 := by
  have project : (!(forRoles roles project?).ofProject || project?.any fun project =>
      row.1.get "project_id" == .int project) = inProject project? row.1 := by
    cases project? <;> rfl
  unfold meets
  rw [take_parameters, getElem?_parameters, project, Bool.and_eq_true, inProject_iff]
  simp only [List.any_map, List.any_eq_true, Function.comp_apply, beq_iff_eq]

end Lookup

variable {s : Store} {roles : List String} {project? : Option Int}

/-- A membership is joined with the records that give it a role. -/
theorem mem_carriedRoles {member r : Record} :
    (member, r) ∈ s.carriedRoles ↔
      member ∈ s.members ∧ r ∈ s.memberRoles ∧ r.get "member_id" = .int member.id := by
  simp only [carriedRoles, List.mem_flatMap, List.mem_map, List.mem_filter, beq_iff_eq,
    Prod.mk.injEq]
  constructor
  · rintro ⟨_, mem, _, ⟨carried, own⟩, rfl, rfl⟩
    exact ⟨mem, carried, own⟩
  · rintro ⟨mem, carried, own⟩
    exact ⟨member, mem, r, ⟨carried, own⟩, rfl, rfl⟩

/-- The users of the rows that meet the conditions are the holders. -/
theorem mem_run_lookup {user : Int} :
    user ∈ (Lookup.forRoles roles project?).run s (Lookup.parameters roles project?) ↔
      s.HoldsRole roles project? user := by
  simp only [Lookup.run, List.mem_mergeSort, mem_distinct, List.mem_filterMap, List.mem_filter,
    Lookup.meets_iff, memberUser?_eq_some]
  constructor
  · rintro ⟨⟨member, r⟩, ⟨joined, asked, inProject⟩, own⟩
    obtain ⟨mem, carried, ofMember⟩ := mem_carriedRoles.mp joined
    exact ⟨member, mem, own, inProject, r, carried, ofMember, asked⟩
  · rintro ⟨member, mem, own, inProject, r, carried, ofMember, asked⟩
    exact ⟨(member, r), ⟨mem_carriedRoles.mpr ⟨mem, carried, ofMember⟩, asked, inProject⟩, own⟩

/-- The holders come in strictly ascending order. -/
theorem ascending_roleHolders : (s.roleHolders roles project?).Pairwise (· < ·) :=
  ascending_mergeSort_distinct _

/-- Only who holds one of the roles decides the answer. -/
theorem roleHolders_eq_of_holds {users : List Int} (ascending : users.Pairwise (· < ·))
    (holders : ∀ user, user ∈ users ↔ s.HoldsRole roles project? user) :
    s.roleHolders roles project? = users := by
  refine ascending_roleHolders.eq_of_mem_iff ascending fun user => ?_
  rw [mem_roleHolders, holders]

/-- The statement gives the holders: asking each membership for its roles and joining it with them
come to the same. -/
theorem run_lookup_eq_roleHolders :
    (Lookup.forRoles roles project?).run s (Lookup.parameters roles project?) =
      s.roleHolders roles project? :=
  (roleHolders_eq_of_holds (ascending_mergeSort_distinct _) fun _ => mem_run_lookup).symm

end Store

/-! ## The answer -/

namespace Session

/-- An open pool answers a lookup by its statement, unless that has more parameters than the store
takes. -/
theorem roleHolders_eq_run {x : Session} (opened : x.pool.isOpen = true) (roles : List String)
    (project? : Option Int) :
    x.roleHolders roles project? =
      if Store.maxParameters < (Store.Lookup.parameters roles project?).length then .error .refused
      else .ok ((Store.Lookup.forRoles roles project?).run x.pool.store
        (Store.Lookup.parameters roles project?)) := by
  rw [Store.Lookup.length_parameters, Store.run_lookup_eq_roleHolders]
  split_ifs with many
  · exact roleHolders_refused opened many
  · exact roleHolders_eq_ok opened (Nat.le_of_not_lt many)

/-- The lookup gives exactly the holders of the roles, in strictly ascending order, if the pool is
open and the store takes the parameters. More parameters are refused, a closed pool fails the
lookup, and without roles there are no holders in any case. -/
theorem lookup_finds_holders (x : Session) (roles : List String) (project? : Option Int) :
    (x.pool.isOpen = true → roles.length + project?.toList.length ≤ Store.maxParameters →
      ∃ users, x.roleHolders roles project? = .ok users ∧ users.Pairwise (· < ·) ∧
        ∀ user, user ∈ users ↔ x.pool.store.HoldsRole roles project? user) ∧
    (x.pool.isOpen = true → Store.maxParameters < roles.length + project?.toList.length →
      x.roleHolders roles project? = .error .refused) ∧
    (x.pool.isOpen = false → roles ≠ [] → x.roleHolders roles project? = .error .poolClosed) ∧
    x.roleHolders [] project? = .ok [] := by
  refine ⟨fun opened few => ?_, roleHolders_refused,
    fun closed => roleHolders_eq_error closed, rfl⟩
  exact ⟨x.pool.store.roleHolders roles project?, roleHolders_eq_ok opened few,
    Store.ascending_roleHolders, fun user => Store.mem_roleHolders⟩

/-- The second user is found by the role of that user, however often and in whatever way the role
is written, and the first user is not. -/
theorem lookup_finds_holders_roleSession :
    ∃ users, roleSession.roleHolders ["2", "2", "2x"] (some 1) = .ok users ∧
      users.Pairwise (· < ·) ∧ 7 ∈ users ∧ -1 ∉ users := by
  obtain ⟨users, answer, ascending, holders⟩ :=
    (lookup_finds_holders roleSession ["2", "2", "2x"] (some 1)).1 rfl (by decide)
  refine ⟨users, answer, ascending, ?_, ?_⟩
  · rw [holders, ← Store.mem_roleHolders]
    decide +kernel
  · rw [holders, ← Store.mem_roleHolders]
    decide +kernel

/-- The second user holds the role, but asked for it more often than the store takes parameters the
lookup is refused. -/
theorem roleHolders_beyond_parameters :
    roleSession.pool.store.HoldsRole (List.replicate 32767 "2") none 7 ∧
      roleSession.roleHolders (List.replicate 32767 "2") none = .error .refused := by
  have role : "2" ∈ List.replicate 32767 "2" := List.mem_replicate.mpr ⟨by decide, rfl⟩
  constructor
  · have once : roleSession.pool.store.HoldsRole ["2"] none 7 :=
      Store.mem_roleHolders.mp (by decide +kernel)
    obtain ⟨member, mem, own, project, r, carried, ofMember, _, asked, value⟩ := once
    rw [List.mem_singleton.mp asked] at value
    exact ⟨member, mem, own, project, r, carried, ofMember, "2", role, value⟩
  · exact roleHolders_refused rfl (by rw [List.length_replicate]; decide)

end Session

end Worklist
