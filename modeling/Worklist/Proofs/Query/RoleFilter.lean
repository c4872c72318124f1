import Worklist.Proofs.Number.Decimal
import Worklist.Proofs.Query.Accepted
import Worklist.Proofs.Store.Equality

/-!
# The filter by roles

The filter by roles looks up who holds one of some roles, as a member of the project of the query if
it has one, and asks for the assignees that are among the holders. An assignee is given as the text
of its number, and the text of the number -1 stands for a missing value: should the user with that
number hold one of the roles, the work packages without an assignee are found too.
-/

set_option autoImplicit false

namespace Worklist

open Sql (Column)
open Store (Affinity Integrity Record Table Value cell columnAffinity)

/-! ## Holders of roles -/

namespace Store

/-- Whether a user holds one of some roles, as a member of the one project if it is given. -/
def HoldsRole (s : Store) (roles : List String) (project? : Option Int) (user : Int) : Prop :=
  ∃ member ∈ s.members, member.get "user_id" = .int user ∧ FromProject project? member ∧
    ∃ r ∈ s.memberRoles, r.get "member_id" = .int member.id ∧
      ∃ role ∈ roles, r.get "role_id" = .int (Number.leadingInt role.toList)

variable {s : Store} {roles : List String} {project? : Option Int}

/-- A membership carries one of the roles if a record gives it the number of one. -/
theorem carriesRole_iff {member : Record} :
    s.carriesRole (roles.map fun role => Number.leadingInt role.toList) member = true ↔
      ∃ r ∈ s.memberRoles, r.get "member_id" = .int member.id ∧
        ∃ role ∈ roles, r.get "role_id" = .int (Number.leadingInt role.toList) := by
  unfold carriesRole
  simp only [List.any_map, List.any_eq_true, Bool.and_eq_true, beq_iff_eq, Function.comp_apply]

/-- A membership is in the project that is asked for if it is from this project, or from any if none
is. -/
theorem inProject_iff {member : Record} :
    inProject project? member = true ↔ FromProject project? member := by
  unfold inProject FromProject
  rw [Option.all_eq_true]
  simp only [beq_iff_eq]

/-- The user of a membership is the number in its column. -/
theorem memberUser?_eq_some {member : Record} {user : Int} :
    memberUser? member = some user ↔ member.get "user_id" = .int user := by
  unfold memberUser?
  cases member.get "user_id" <;> simp

/-- The holders are the users with a membership that carries one of the roles. -/
theorem mem_roleHolders {user : Int} :
    user ∈ s.roleHolders roles project? ↔ s.HoldsRole roles project? user := by
  unfold roleHolders HoldsRole
  simp only [List.mem_mergeSort, mem_distinct, List.mem_filterMap, List.mem_filter,
    Bool.and_eq_true, memberUser?_eq_some, carriesRole_iff, inProject_iff]
  constructor
  · rintro ⟨member, ⟨mem, carries, inProject⟩, own⟩
    exact ⟨member, mem, own, inProject, carries⟩
  · rintro ⟨member, mem, own, inProject, carries⟩
    exact ⟨member, ⟨mem, carries, inProject⟩, own⟩

/-- A member is a user, so where the numbers of users have 64 bits those of holders have. -/
theorem isInt64_of_holdsRole (h : Integrity s)
    (wide : ∀ user ∈ s.users, Number.isInt64 user.id = true) {user : Int}
    (holds : s.HoldsRole roles project? user) : Number.isInt64 user = true := by
  obtain ⟨member, mem, own, -⟩ := holds
  have column : (⟨"user_id", .integer, true, .null, some .users⟩ : TableColumn) ∈
      Table.members.columns := by
    decide
  rcases h.references .members member mem _ column .users rfl with missing | ⟨id, value, exists_⟩
  · have value : member.get "user_id" = .null := missing
    rw [own] at value
    cases value
  · have value : member.get "user_id" = .int id := value
    rw [own] at value
    obtain ⟨record, hrecord, same⟩ := List.any_eq_true.mp exists_
    rw [Value.int.inj value, ← beq_iff_eq.mp same]
    exact wide record hrecord

/-- The assignee of a work package is missing or a whole number. -/
theorem assignee_cases (h : Integrity s) {w : Record} (hw : w ∈ s.workPackages) :
    w.get "assigned_to_id" = .null ∨ ∃ user, w.get "assigned_to_id" = .int user := by
  have column : (⟨"assigned_to_id", .integer, false, .null, some .users⟩ : TableColumn) ∈
      Table.workPackages.columns := by
    decide
  rcases h.references .workPackages w hw _ column .users rfl with missing | ⟨id, value, -⟩
  · exact Or.inl missing
  · exact Or.inr ⟨id, value⟩

/-- Whether a work package is assigned to a holder of one of some roles. -/
def AssignedToHolder (s : Store) (roles : List String) (project? : Option Int)
    (w : Record) : Prop :=
  ∃ user, w.get "assigned_to_id" = .int user ∧ s.HoldsRole roles project? user

end Store

/-! ## The predicate of the filter -/

/-- The field of assignees. -/
def assigneeField : Field := Field.plain "assigned_to_id" .integer

/-- The clause that asks whether the assignee is one of some users, or none of them. -/
def assigneeClause (op : Operator) (users : List Int) : Clause :=
  .ofValues (.plain "assigned_to_id") op (users.map .int)

/-- The values of the clause on the assignee are the decimal texts of the users. -/
theorem values_assigneeClause (op : Operator) (users : List Int) :
    (assigneeClause op users).values = users.map Number.decimal := by
  unfold assigneeClause Clause.ofValues
  rw [List.map_map]
  rfl

/-- A store can answer the clause on the assignee, whoever the users are. -/
theorem answerable_assigneeClause {op : Operator} (asked : op = .equals ∨ op = .notEquals)
    (users : List Int) (context : FilterContext) :
    ((assigneeClause op users).predicate context assigneeField).Answerable := by
  have own : (assigneeClause op users).operator = op := rfl
  apply Clause.answerable
  · rw [own]
    rcases asked with rfl | rfl <;> decide
  · intro v hv
    rw [values_assigneeClause] at hv
    obtain ⟨user, -, rfl⟩ := List.mem_map.mp hv
    exact Number.not_mem_decimal rfl (by decide) user
  · intro pattern hpattern
    unfold Clause.pattern? at hpattern
    rw [own] at hpattern
    rcases asked with rfl | rfl <;> simp at hpattern
  · rintro j ⟨⟩

namespace Store

variable {s : Store} {roles : List String} {project? : Option Int} {w : Record}

/-- The assignee of a work package is among the users that hold a role if the work package is
assigned to a holder. -/
theorem among_roleHolders (h : Integrity s)
    (wide : ∀ user ∈ s.users, Number.isInt64 user.id = true) {user : Int}
    (assigned : w.get "assigned_to_id" = .int user) :
    Affinity.integer.among ((s.roleHolders roles project?).map Number.decimal) (.int user) = true ↔
      s.AssignedToHolder roles project? w := by
  have holders : ∀ n ∈ s.roleHolders roles project?, Number.isInt64 n = true := by
    intro n hn
    exact isInt64_of_holdsRole h wide (mem_roleHolders.mp hn)
  rw [Affinity.among_decimals holders, mem_roleHolders]
  unfold AssignedToHolder
  rw [assigned]
  simp

/-- The text of the number -1 is the one that stands for a missing value. -/
theorem missingValue_mem_roleHolders :
    missingValue ∈ (s.roleHolders roles project?).map Number.decimal ↔
      s.HoldsRole roles project? (-1) := by
  rw [← mem_roleHolders, List.mem_map]
  constructor
  · rintro ⟨user, mem, text⟩
    have same : Number.decimal user = Number.decimal (-1) := text
    rwa [← Number.decimal_injective same]
  · intro mem
    exact ⟨-1, mem, rfl⟩

/-- The clause for the holders finds what is assigned to one of them, and what is not assigned if a
user with the number -1 is a holder. -/
theorem meets_holders (h : Integrity s) (wide : ∀ user ∈ s.users, Number.isInt64 user.id = true)
    (hw : w ∈ s.workPackages) (context : FilterContext) :
    s.MeetsPredicate w ((assigneeClause .equals (s.roleHolders roles project?)).predicate context
        assigneeField) ↔
      s.AssignedToHolder roles project? w ∨
        w.get "assigned_to_id" = .null ∧ s.HoldsRole roles project? (-1) := by
  have compiled : (assigneeClause .equals (s.roleHolders roles project?)).condition? context
      assigneeField = some (Predicate.equals assigneeField.column
        ((s.roleHolders roles project?).map Number.decimal)) := by
    rw [← values_assigneeClause .equals]
    rfl
  rw [Clause.meetsPredicate_iff compiled, meets_equals, missingValue_mem_roleHolders]
  show w.get "assigned_to_id" = .null ∧ _ ∨ w.get "assigned_to_id" ≠ .null ∧
    Affinity.integer.among _ (w.get "assigned_to_id") = true ↔ _
  rcases assignee_cases h hw with missing | ⟨user, assigned⟩
  · have unassigned : ¬s.AssignedToHolder roles project? w := by
      rintro ⟨user, assigned, -⟩
      rw [missing] at assigned
      cases assigned
    simp [missing, unassigned]
  -- the number -1 in the list of holders says nothing about an assignee who is there
  · rw [assigned, among_roleHolders h wide assigned]
    simp

/-- The opposite clause finds what is not assigned to a holder. -/
theorem meets_others (h : Integrity s) (wide : ∀ user ∈ s.users, Number.isInt64 user.id = true)
    (hw : w ∈ s.workPackages) (context : FilterContext) :
    s.MeetsPredicate w ((assigneeClause .notEquals (s.roleHolders roles project?)).predicate context
        assigneeField) ↔ ¬s.AssignedToHolder roles project? w := by
  have compiled : (assigneeClause .notEquals (s.roleHolders roles project?)).condition? context
      assigneeField = some (Predicate.notEquals assigneeField.column
        ((s.roleHolders roles project?).map Number.decimal)) := by
    rw [← values_assigneeClause .notEquals]
    rfl
  rw [Clause.meetsPredicate_iff compiled, meets_notEquals]
  show w.get "assigned_to_id" = .null ∨
    Affinity.integer.among _ (w.get "assigned_to_id") = false ↔ _
  rcases assignee_cases h hw with missing | ⟨user, assigned⟩
  · have unassigned : ¬s.AssignedToHolder roles project? w := by
      rintro ⟨user, assigned, -⟩
      rw [missing] at assigned
      cases assigned
    exact iff_of_true (Or.inl missing) unassigned
  · rw [assigned, ← among_roleHolders h wide assigned]
    simp

end Store

namespace Session

variable {x : Session} {roles : List String} {project? : Option Int}

/-- An open store looks up the holders of roles, if they are not more than it takes as
parameters. -/
theorem roleHolders_eq_ok (opened : x.pool.isOpen = true)
    (few : roles.length + project?.toList.length ≤ Store.maxParameters) :
    x.roleHolders roles project? = .ok (x.pool.store.roleHolders roles project?) := by
  unfold roleHolders
  split_ifs with none beyond
  · have empty : x.pool.store.roleHolders roles project? = [] := by
      apply List.eq_nil_iff_forall_not_mem.mpr
      intro user mem
      obtain ⟨-, -, -, -, -, -, -, role, hrole, -⟩ := Store.mem_roleHolders.mp mem
      rw [List.isEmpty_iff.mp none] at hrole
      cases hrole
    rw [empty]
  · exact absurd few (Nat.not_le.mpr beyond)
  · rw [read_eq_ok opened]
    rfl

/-- More roles than it takes as parameters an open store does not look up. -/
theorem roleHolders_refused (opened : x.pool.isOpen = true)
    (many : Store.maxParameters < roles.length + project?.toList.length) :
    x.roleHolders roles project? = .error .refused := by
  unfold roleHolders
  split_ifs with none
  · have one : project?.toList.length ≤ 1 := by
      cases project? <;> simp
    rw [List.isEmpty_iff.mp none, List.length_nil] at many
    unfold Store.maxParameters at many
    omega
  · rw [read_eq_ok opened]
    rfl

/-- On an open store the filter by roles is the clause on the assignee, with the holders of the
roles for its values. -/
theorem filterPredicate_roles (op : Operator) (dynamic : Bool)
    (asked : op = .equals ∨ op = .notEquals) (opened : x.pool.isOpen = true)
    (few : roles.length + project?.toList.length ≤ Store.maxParameters) :
    x.filterPredicate project? ⟨assignedToRole, op, roles, dynamic⟩ =
      .ok ((assigneeClause op (x.pool.store.roleHolders roles project?)).predicate
        x.filterContext assigneeField) := by
  unfold filterPredicate rolePredicate
  rw [if_pos rfl, if_pos asked, roleHolders_eq_ok opened few]
  rfl

/-- A filter without a demand changes nothing about the selection of a query. -/
theorem selection_without_demand {q : Query} {before after : List Clause} {c : Clause}
    (none : x.filterPredicate q.project? c = .ok .empty) :
    x.selection { q with filters := before ++ c :: after } =
      x.selection { q with filters := before ++ after } := by
  have base : ({ q with filters := before ++ c :: after } : Query).baseSelection =
      ({ q with filters := before ++ after } : Query).baseSelection := rfl
  unfold selection
  rw [base]
  simp only [List.mapM_append, List.mapM_cons, none]
  cases before.mapM (x.filterPredicate q.project?) with
  | error e => rfl
  | ok predicates =>
    cases after.mapM (x.filterPredicate q.project?) with
    | error e => rfl
    | ok others =>
      show Except.ok (List.foldl Predicate.restrict _ (predicates ++ .empty :: others)) =
        Except.ok (List.foldl Predicate.restrict _ (predicates ++ others))
      rw [List.foldl_append, List.foldl_append]
      rfl

/-- What a session answers to a query comes from the selection of the query and, for its pages, from
its order. -/
theorem answers_congr {q q' : Query} (same : x.selection q' = x.selection q)
    (order : q'.order = q.order) :
    x.count q' = x.count q ∧
      (∀ dimension, x.countByGroup q' dimension = x.countByGroup q dimension) ∧
        ∀ p, x.page q' p = x.page q p := by
  have fields : x.sortFields q' = x.sortFields q := by
    unfold sortFields
    rw [order]
  refine ⟨?_, ?_, ?_⟩
  · unfold count
    rw [same]
  · intro dimension
    unfold countByGroup
    rw [same]
  · intro p
    unfold page
    rw [same, fields]

/-- The filter by roles finds, among the work packages that the scope and the project admit, those
that are assigned to a holder of one of the roles; its opposite finds all others. The first of the
two finds work packages without an assignee as well if the user with the number -1 is a holder. A
lookup of too many roles is refused, and other operators demand nothing. -/
theorem roleFilter_finds (h : Integrity x.pool.store) (opened : x.pool.isOpen = true)
    (wide : ∀ user ∈ x.pool.store.users, Number.isInt64 user.id = true) (roles : List String)
    (project? : Option Int) (dynamic : Bool) {scope : Scope} (builtIn : scope.IsBuiltIn)
    (order : List SortKey) :
    (roles.length + project?.toList.length ≤ Store.maxParameters →
      ∃ holders others : Finset Int,
        x.matching ⟨[⟨assignedToRole, .equals, roles, dynamic⟩], project?, scope, order⟩ =
          .ok holders ∧
        x.matching ⟨[⟨assignedToRole, .notEquals, roles, dynamic⟩], project?, scope, order⟩ =
          .ok others ∧
        ∀ w ∈ x.pool.store.workPackages, scope.Admits x.pool.store w → FromProject project? w →
          (w.id ∈ holders ↔ x.pool.store.AssignedToHolder roles project? w ∨
            w.get "assigned_to_id" = .null ∧ x.pool.store.HoldsRole roles project? (-1)) ∧
          (w.id ∈ others ↔ ¬x.pool.store.AssignedToHolder roles project? w)) ∧
    (Store.maxParameters < roles.length + project?.toList.length →
      ∀ op, op = .equals ∨ op = .notEquals →
        x.matching ⟨[⟨assignedToRole, op, roles, dynamic⟩], project?, scope, order⟩ =
          .error (.store .refused)) ∧
    ∀ op, op ≠ .equals → op ≠ .notEquals → ∀ (q : Query) (before after : List Clause),
      let asked := { q with filters := before ++ ⟨assignedToRole, op, roles, dynamic⟩ :: after }
      let unasked := { q with filters := before ++ after }
      x.count asked = x.count unasked ∧
        (∀ dimension, x.countByGroup asked dimension = x.countByGroup unasked dimension) ∧
        ∀ p, x.page asked p = x.page unasked p := by
  refine ⟨?_, ?_, ?_⟩
  · intro few
    have answer (op : Operator) (asked : op = .equals ∨ op = .notEquals) :=
      matching_singleton h opened builtIn order
        (filterPredicate_roles op dynamic asked opened few)
        (answerable_assigneeClause asked _ x.filterContext)
    obtain ⟨holders, holdersOk, memHolders⟩ := answer .equals (Or.inl rfl)
    obtain ⟨others, othersOk, memOthers⟩ := answer .notEquals (Or.inr rfl)
    refine ⟨holders, others, holdersOk, othersOk, ?_⟩
    intro w hw admitted project
    have visible := And.intro admitted project
    constructor
    · rw [memHolders w hw, and_iff_right visible, Store.meets_holders h wide hw]
    · rw [memOthers w hw, and_iff_right visible, Store.meets_others h wide hw]
  · intro many op asked
    have refused : x.filterPredicate project? ⟨assignedToRole, op, roles, dynamic⟩ =
        .error (.store .refused) := by
      unfold filterPredicate rolePredicate
      rw [if_pos rfl, if_pos asked, roleHolders_refused opened many]
    unfold matching selection
    rw [List.mapM_cons, refused]
    rfl
  · intro op notEquals notNotEquals q before after asked unasked
    have other : ¬(op = .equals ∨ op = .notEquals) := not_or.mpr ⟨notEquals, notNotEquals⟩
    have none : x.filterPredicate q.project? ⟨assignedToRole, op, roles, dynamic⟩ =
        .ok .empty := by
      unfold filterPredicate rolePredicate
      rw [if_pos rfl, if_neg other]
    exact answers_congr (selection_without_demand none) rfl

end Session

/-! ## Samples -/

/-- Two users with a role each, the first of whom has the number -1, and two work packages, one
without an assignee and one that is assigned to the second user. -/
def roleRows : List (Table × Store.NewRow) :=
  [(.projects, [("name", .text "one")]),
    (.users, [("id", .int (-1)), ("login", .text "system")]),
    (.users, [("id", .int 7), ("login", .text "ada")]),
    (.roles, [("name", .text "lead")]), (.roles, [("name", .text "member")]),
    (.members, [("user_id", .int (-1)), ("project_id", .int 1)]),
    (.members, [("user_id", .int 7), ("project_id", .int 1)]),
    (.memberRoles, [("member_id", .int 1), ("role_id", .int 1)]),
    (.memberRoles, [("member_id", .int 2), ("role_id", .int 2)]),
    (.workPackages, [("project_id", .int 1), ("subject", .text "alpha"),
      ("created_at", .text "2024-01-01"), ("updated_at", .text "2024-01-01")]),
    (.workPackages, [("project_id", .int 1), ("subject", .text "beta"),
      ("assigned_to_id", .int 7), ("created_at", .text "2024-01-01"),
      ("updated_at", .text "2024-01-01")])]

/-- A session on the store of these rows. -/
def roleSession : Session :=
  ⟨.ofStore (Store.ofRows roleRows), .lookingUp, ⟨[]⟩, .initial, .first⟩

namespace Session

/-- The work package of the second user is found by the role of that user, and the one without an
assignee is not. -/
theorem roleFilter_finds_roleSession :
    ∃ holders others : Finset Int,
      roleSession.matching ⟨[⟨assignedToRole, .equals, ["2"], false⟩], some 1, .all, []⟩ =
        .ok holders ∧
      roleSession.matching ⟨[⟨assignedToRole, .notEquals, ["2"], false⟩], some 1, .all, []⟩ =
        .ok others ∧
      2 ∈ holders ∧ 2 ∉ others := by
  have h : Integrity roleSession.pool.store := (Store.reachable_ofRows roleRows).integrity
  have builtIn : Scope.IsBuiltIn .all := by rintro sql ⟨⟩
  obtain ⟨holders, others, holdersOk, othersOk, each⟩ := (roleFilter_finds h rfl
    (by decide +kernel) ["2"] (some 1) false builtIn []).1 (by decide)
  refine ⟨holders, others, holdersOk, othersOk, ?_⟩
  obtain ⟨w, hw, id, project, assigned⟩ : ∃ w ∈ roleSession.pool.store.workPackages, w.id = 2 ∧
      w.get "project_id" = .int 1 ∧ w.get "assigned_to_id" = .int 7 := by
    decide +kernel
  have holds : roleSession.pool.store.HoldsRole ["2"] (some 1) 7 := by
    apply Store.mem_roleHolders.mp
    decide +kernel
  have own : roleSession.pool.store.AssignedToHolder ["2"] (some 1) w := ⟨7, assigned, holds⟩
  have found := each w hw trivial (by rintro p ⟨⟩; exact project)
  rw [id] at found
  exact ⟨found.1.mpr (Or.inl own), fun mem => found.2.mp mem own⟩

/-- The only work package that is found by the role of the user with the number -1 is the one
without an assignee. -/
theorem matching_roleSession :
    (∃ w ∈ roleSession.pool.store.workPackages, w.id = 1 ∧ w.get "assigned_to_id" = .null) ∧
      roleSession.matching ⟨[⟨assignedToRole, .equals, ["1"], false⟩], none, .all, []⟩ =
        .ok {1} ∧
      (roleSession.count ⟨[⟨assignedToRole, .equals, ["1"], false⟩], none, .all, []⟩).result =
        .ok 1 := by
  refine ⟨?_, ?_, ?_⟩
  · decide +kernel
  · decide +kernel
  · decide +kernel

end Session

end Worklist
