import Worklist.Proofs.Query.Answers

/-!
# What fails first

Before the first statement on work packages a call needs several things one after the other: for
groups the field to group by, then every filter in order, and for a page every sort key in order. A
filter needs its field, or a lookup if it asks for holders of roles. The first need that is not met
decides the error of the call, and no statement is put to the store. If all needs are met, only the
store can fail the call.
-/

set_option autoImplicit false

namespace Worklist

/-! ## Needs -/

/-- Whether a clause has holders of roles looked up. -/
def Clause.AsksForHolders (c : Clause) : Prop :=
  c.field = assignedToRole ∧ (c.operator = .equals ∨ c.operator = .notEquals) ∧ c.values ≠ []

/-- What a call needs before its first statement. -/
inductive Need where
  /-- The field to group by. -/
  | dimension (key : FieldKey)
  | filter (c : Clause)
  | sortKey (key : SortKey)

namespace Query

/-- What a query needs for its filters. -/
def filterNeeds (q : Query) : List Need :=
  q.filters.map .filter

/-- What a query needs for its order. -/
def sortNeeds (q : Query) : List Need :=
  q.order.map .sortKey

end Query

namespace Session

variable {x : Session} {project? : Option Int} {needs more : List Need} {e : QueryError}

/-- Why a need is not met: its key does not resolve, or its lookup fails. -/
inductive Fails (x : Session) (project? : Option Int) : Need → QueryError → Prop where
  | dimension {key : FieldKey} {e : ResolutionError} (unknown : x.catalog.resolve key = .error e) :
      Fails x project? (.dimension key) (.resolution e)
  | filter {c : Clause} {e : ResolutionError} (named : c.field ≠ assignedToRole)
      (unknown : x.catalog.resolve c.field = .error e) :
      Fails x project? (.filter c) (.resolution e)
  | lookup {c : Clause} {e : StoreError} (asks : c.AsksForHolders)
      (failed : x.roleHolders c.values project? = .error e) :
      Fails x project? (.filter c) (.store e)
  | sortKey {key : SortKey} {e : ResolutionError}
      (unknown : x.catalog.resolveSortable key.field = .error e) :
      Fails x project? (.sortKey key) (.resolution e)

/-- Whether a need is met. -/
def Meets (x : Session) (project? : Option Int) (need : Need) : Prop :=
  ∀ e, ¬x.Fails project? need e

/-- Whether an error is that of the first of some needs that is not met. -/
def FailsFirst (x : Session) (project? : Option Int) (needs : List Need) (e : QueryError) : Prop :=
  ∃ before need after, needs = before ++ need :: after ∧
    (∀ met ∈ before, x.Meets project? met) ∧ x.Fails project? need e

/-- Without needs nothing fails. -/
theorem failsFirst_nil : ¬x.FailsFirst project? [] e := by
  rintro ⟨before, need, after, split, -⟩
  exact List.append_ne_nil_of_right_ne_nil before (List.cons_ne_nil need after) split.symm

/-- The first failure is that of the first need, or that need is met and the failure comes after it.
-/
theorem failsFirst_cons {need : Need} :
    x.FailsFirst project? (need :: needs) e ↔
      x.Fails project? need e ∨ x.Meets project? need ∧ x.FailsFirst project? needs e := by
  constructor
  · rintro ⟨before, failed, after, split, met, fails⟩
    cases before with
    | nil =>
      rw [(List.cons.inj split).1]
      exact Or.inl fails
    | cons first before =>
      obtain ⟨rfl, tail⟩ := List.cons.inj split
      obtain ⟨own, rest⟩ := List.forall_mem_cons.mp met
      exact Or.inr ⟨own, before, failed, after, tail, rest, fails⟩
  · rintro (fails | ⟨own, before, failed, after, split, met, fails⟩)
    · exact ⟨[], need, needs, rfl, List.forall_mem_nil _, fails⟩
    · refine ⟨need :: before, failed, after, ?_, List.forall_mem_cons.mpr ⟨own, met⟩, fails⟩
      rw [split]
      rfl

/-- Of needs in two parts the first one that is not met is in the first part, or all needs of that
part are met. -/
theorem failsFirst_append :
    x.FailsFirst project? (needs ++ more) e ↔ x.FailsFirst project? needs e ∨
      (∀ need ∈ needs, x.Meets project? need) ∧ x.FailsFirst project? more e := by
  induction needs with
  | nil => simp [failsFirst_nil]
  | cons need needs ih =>
    rw [List.cons_append, failsFirst_cons, failsFirst_cons, ih, List.forall_mem_cons]
    tauto

/-- Needs that are all met have no first failure. -/
theorem not_failsFirst (met : ∀ need ∈ needs, x.Meets project? need) :
    ¬x.FailsFirst project? needs e := by
  rintro ⟨before, need, after, rfl, -, fails⟩
  exact met need (List.mem_append_right before List.mem_cons_self) e fails

/-! ## Filters and sort keys -/

/-- Steps of which each fails as a need does. -/
theorem mapM_eq_error_iff {α β : Type} {f : α → Except QueryError β} {need : α → Need}
    (each : ∀ a e, f a = .error e ↔ x.Fails project? (need a) e) (l : List α) :
    l.mapM f = .error e ↔ x.FailsFirst project? (l.map need) e := by
  induction l with
  | nil => exact iff_of_false (by rintro ⟨⟩) failsFirst_nil
  | cons a l ih =>
    rw [List.mapM_cons, List.map_cons, failsFirst_cons, ← ih, ← each]
    cases own : f a with
    | error e' =>
      have unmet : ¬x.Meets project? (need a) := fun met => met e' ((each a e').mp own)
      simp [unmet, bind, Except.bind]
    | ok b =>
      have met : x.Meets project? (need a) := by
        intro e' fails
        rw [(each a e').mpr fails] at own
        cases own
      cases l.mapM f <;> simp [met, bind, Except.bind, pure, Except.pure]

/-- A filter has no predicate for the reason why its need fails, and for no other. -/
theorem filterPredicate_eq_error_iff (c : Clause) (e : QueryError) :
    x.filterPredicate project? c = .error e ↔ x.Fails project? (.filter c) e := by
  constructor
  · intro failed
    unfold filterPredicate rolePredicate at failed
    split_ifs at failed with role asked
    · split at failed
      · rename_i e' lookup
        rw [← Except.error.inj failed]
        refine .lookup ⟨role, asked, ?_⟩ lookup
        rintro none
        rw [none] at lookup
        cases lookup
      · cases failed
    · split at failed
      · rename_i e' unknown
        rw [← Except.error.inj failed]
        exact .filter role unknown
      · cases failed
  · rintro (_ | ⟨named, unknown⟩ | ⟨⟨role, asked, -⟩, failed⟩)
    · unfold filterPredicate
      rw [if_neg named, unknown]
    · unfold filterPredicate rolePredicate
      rw [if_pos role, if_pos asked, failed]

/-- The field of a sort key, with its direction. -/
def sortField (x : Session) (key : SortKey) : Except QueryError (Field × Bool) :=
  match x.catalog.resolveSortable key.field with
  | .error e => .error (.resolution e)
  | .ok f => .ok (f, key.descending)

/-- A sort key has no field for the reason why its need fails, and for no other. -/
theorem sortField_eq_error_iff (key : SortKey) (e : QueryError) :
    x.sortField key = .error e ↔ x.Fails project? (.sortKey key) e := by
  unfold sortField
  constructor
  · intro failed
    split at failed
    · rename_i e' unknown
      rw [← Except.error.inj failed]
      exact .sortKey unknown
    · cases failed
  · rintro (_ | _ | _ | ⟨unknown⟩)
    rw [unknown]

/-- A query has no selection for the first failure among the needs of its filters. -/
theorem selection_eq_error_iff {q : Query} :
    x.selection q = .error e ↔ x.FailsFirst q.project? q.filterNeeds e := by
  rw [Query.filterNeeds, ← mapM_eq_error_iff filterPredicate_eq_error_iff]
  unfold selection
  cases q.filters.mapM (x.filterPredicate q.project?) <;>
    simp [bind, Except.bind, pure, Except.pure]

/-- An order has no fields for the first failure among the needs of its sort keys. -/
theorem sortFields_eq_error_iff {q : Query} :
    x.sortFields q = .error e ↔ x.FailsFirst project? q.sortNeeds e :=
  mapM_eq_error_iff (f := x.sortField) sortField_eq_error_iff q.order

/-! ## Calls -/

/-- Whether an outcome comes from statements: one at least was put to the store, and only the store
can have failed. On a closed pool the first one fails. -/
structure FromStatements {α : Type} (x : Session) (o : Outcome α) : Prop where
  asked : o.statements ≠ []
  failed : ∀ e, o.result = .error e → ∃ cause, e = .store cause
  closed : x.pool.isOpen = false → ∃ s, o = ⟨[s], .error (.store .poolClosed)⟩

/-- Whether an outcome is decided by the first need that is not met, without a statement, and from
statements only if all needs are met. -/
structure Decided {α : Type} (x : Session) (project? : Option Int) (needs : List Need)
    (o : Outcome α) : Prop where
  early : ∀ e, x.FailsFirst project? needs e → o = ⟨[], .error e⟩
  late : (∀ need ∈ needs, x.Meets project? need) → x.FromStatements o

/-- A statement that is put to the store answers from this statement alone. -/
theorem fromStatements_run {α : Type} (x : Session) (s : Sql.Statement)
    (answer : Store → Except StoreError α) : x.FromStatements (x.run s answer) := by
  refine ⟨List.cons_ne_nil _ _, ?_, ?_⟩
  · intro e failed
    unfold run Outcome.ofStatement at failed
    cases given : x.pool.read >>= answer with
    | error cause =>
      rw [given] at failed
      exact ⟨cause, (Except.error.inj failed).symm⟩
    | ok a =>
      rw [given] at failed
      cases failed
  · intro closed
    refine ⟨s, ?_⟩
    unfold run
    rw [read_eq_error closed]
    rfl

/-- What goes on from statements comes from statements. -/
theorem FromStatements.bind {α β : Type} {o : Outcome α} (h : x.FromStatements o)
    {next : α → Outcome β}
    (failed : ∀ a e, (next a).result = .error e → ∃ cause, e = .store cause) :
    x.FromStatements (o >>= next) := by
  change x.FromStatements (o.andThen next)
  refine ⟨?_, ?_, ?_⟩
  · cases given : o.result with
    | error e =>
      rw [Outcome.andThen_of_error next given]
      exact h.asked
    | ok a =>
      rw [Outcome.andThen_of_ok next given]
      exact List.append_ne_nil_of_left_ne_nil h.asked _
  · intro e own
    cases given : o.result with
    | error cause =>
      rw [Outcome.andThen_of_error next given] at own
      exact h.failed e (given.trans (congrArg Except.error (Except.error.inj own)))
    | ok a =>
      rw [Outcome.andThen_of_ok next given] at own
      exact failed a e own
  · intro closed
    obtain ⟨s, same⟩ := h.closed closed
    rw [same]
    exact ⟨s, rfl⟩

/-- What answers from its statements is decided without any needs. -/
theorem FromStatements.decided {α : Type} {o : Outcome α} (h : x.FromStatements o) :
    x.Decided project? [] o :=
  ⟨fun _ fails => absurd fails failsFirst_nil, fun _ => h⟩

/-- A step without statements that fails as some needs do comes before what decides the rest. -/
theorem Decided.after {α β : Type} {step : Except QueryError β} {next : β → Outcome α}
    (fails : ∀ e, step = .error e ↔ x.FailsFirst project? needs e)
    (h : ∀ b, x.Decided project? more (next b)) :
    x.Decided project? (needs ++ more) (Outcome.ofExcept step >>= next) := by
  cases given : step with
  | error cause =>
    have first := (fails cause).mp given
    constructor
    · intro e failed
      rcases failsFirst_append.mp failed with own | ⟨met, -⟩
      · rw [← Except.error.inj (given.symm.trans ((fails e).mpr own))]
        rfl
      · exact absurd first (not_failsFirst met)
    · intro met
      exact absurd first (not_failsFirst (List.forall_mem_append.mp met).1)
  | ok b =>
    constructor
    · intro e failed
      rcases failsFirst_append.mp failed with own | ⟨-, rest⟩
      · cases given.symm.trans ((fails e).mpr own)
      · exact (h b).early e rest
    · intro met
      exact (h b).late (List.forall_mem_append.mp met).2

/-- A count is decided by the needs of the filters. -/
theorem decided_count (x : Session) (q : Query) :
    x.Decided q.project? q.filterNeeds (x.count q) := by
  have whole : x.Decided q.project? (q.filterNeeds ++ []) (x.count q) :=
    .after (fun _ => selection_eq_error_iff) fun sel => (fromStatements_run x _ _).decided
  rwa [List.append_nil] at whole

/-- The field to group by comes before the filters. -/
theorem decided_countByGroup (x : Session) (q : Query) (dimension : FieldKey) :
    x.Decided q.project? (.dimension dimension :: q.filterNeeds) (x.countByGroup q dimension) := by
  have field (e : QueryError) :
      (x.catalog.resolve dimension).mapError QueryError.resolution = .error e ↔
        x.FailsFirst q.project? [.dimension dimension] e := by
    rw [failsFirst_cons]
    constructor
    · intro failed
      cases unknown : x.catalog.resolve dimension with
      | error cause =>
        rw [unknown] at failed
        rw [← Except.error.inj failed]
        exact Or.inl (.dimension unknown)
      | ok f =>
        rw [unknown] at failed
        cases failed
    · rintro (⟨⟨unknown⟩⟩ | ⟨-, none⟩)
      · rw [unknown]
        rfl
      · exact absurd none failsFirst_nil
  have whole : x.Decided q.project? ([.dimension dimension] ++ (q.filterNeeds ++ []))
      (x.countByGroup q dimension) := by
    refine .after field fun f => .after (fun _ => selection_eq_error_iff) fun sel => ?_
    exact ((fromStatements_run x _ _).bind (by rintro groups e ⟨⟩)).decided
  rwa [List.append_nil] at whole

/-- The sort keys of a page come behind the filters, and its rows behind their count. -/
theorem decided_page (x : Session) (q : Query) (p : Pagination) :
    x.Decided q.project? (q.filterNeeds ++ q.sortNeeds) (x.page q p) := by
  have whole : x.Decided q.project? (q.filterNeeds ++ (q.sortNeeds ++ [])) (x.page q p) := by
    refine .after (fun _ => selection_eq_error_iff) fun sel =>
      .after (fun _ => sortFields_eq_error_iff) fun fields => ?_
    refine ((fromStatements_run x _ _).bind fun total => ?_).decided
    exact ((fromStatements_run x _ _).bind (by rintro items e ⟨⟩)).failed
  rwa [List.append_nil] at whole

/-- On a closed pool every lookup of holders fails, unless no role is asked for. -/
theorem roleHolders_eq_error (closed : x.pool.isOpen = false) {roles : List String}
    (asked : roles ≠ []) : x.roleHolders roles project? = .error .poolClosed := by
  unfold roleHolders
  rw [if_neg (by rwa [List.isEmpty_iff]), read_eq_error closed]
  rfl

/-- On a closed pool a filter that asks for holders fails. -/
theorem fails_lookup (closed : x.pool.isOpen = false) {c : Clause} (asks : c.AsksForHolders) :
    x.Fails project? (.filter c) (.store .poolClosed) :=
  .lookup asks (roleHolders_eq_error closed asks.2.2)

/-- A filter that resolves its field, if it names one, and looks nobody up needs no store. -/
theorem meets_filter {c : Clause} (noLookup : ¬c.AsksForHolders)
    (resolves : c.field ≠ assignedToRole → ∃ f, x.catalog.resolve c.field = .ok f) :
    x.Meets project? (.filter c) := by
  rintro e (_ | ⟨named, unknown⟩ | ⟨asks, -⟩)
  · obtain ⟨f, hf⟩ := resolves named
    rw [hf] at unknown
    cases unknown
  · exact noLookup asks

/-- A query fails with the first of its needs that is not met: the field to group by, if there is
one, then the filters and then, for a page, the sort keys, each in order. Up to then no statement is
put to the store. Only if all needs are met there are statements, and only the store can fail them.
A closed pool plays no role for filters that look nobody up. -/
theorem decided_in_order (x : Session) (q : Query) :
    (∀ e, x.selection q = .error e ↔ x.FailsFirst q.project? q.filterNeeds e) ∧
    x.Decided q.project? q.filterNeeds (x.count q) ∧
    (∀ dimension, x.Decided q.project? (.dimension dimension :: q.filterNeeds)
      (x.countByGroup q dimension)) ∧
    (∀ p, x.Decided q.project? (q.filterNeeds ++ q.sortNeeds) (x.page q p)) ∧
    (x.pool.isOpen = false →
      (∀ c, c.AsksForHolders → x.Fails q.project? (.filter c) (.store .poolClosed)) ∧
      ((∀ c ∈ q.filters, ¬c.AsksForHolders ∧
        (c.field ≠ assignedToRole → ∃ f, x.catalog.resolve c.field = .ok f)) →
        ∃ sel, x.selection q = .ok sel)) := by
  refine ⟨fun e => selection_eq_error_iff, decided_count x q, decided_countByGroup x q,
    decided_page x q, fun closed => ⟨fun c => fails_lookup closed, fun each => ?_⟩⟩
  have met : ∀ need ∈ q.filterNeeds, x.Meets q.project? need := by
    intro need mem
    obtain ⟨c, hc, rfl⟩ := List.mem_map.mp mem
    exact meets_filter (each c hc).1 (each c hc).2
  cases given : x.selection q with
  | error e => exact absurd (selection_eq_error_iff.mp given) (not_failsFirst met)
  | ok sel => exact ⟨sel, rfl⟩

/-! ## A sample -/

/-- The sample with a pool that was closed. -/
def closedSession : Session :=
  { sampleSession with pool := sampleSession.pool.close }

/-- A filter on an attribute that does not exist. -/
def colourClause : Clause := ⟨.plain "colour", .equals, ["red"], false⟩

/-- A filter for the holders of a role. -/
def holderClause : Clause := ⟨assignedToRole, .equals, ["1"], false⟩

/-- On a closed pool an unknown field in front of a lookup decides the error, and so does the lookup
in front of the unknown field. Without both there is a selection. -/
theorem decided_in_order_closedSession :
    closedSession.count ⟨[⟨.plain "subject", .isPresent, [], false⟩, colourClause, holderClause],
        none, .all, []⟩ = ⟨[], .error (.resolution (.unknownField "colour"))⟩ ∧
    closedSession.page ⟨[holderClause, colourClause], none, .all, []⟩ ⟨1, none⟩ =
      ⟨[], .error (.store .poolClosed)⟩ ∧
    ∃ sel, closedSession.selection ⟨[⟨.plain "subject", .isPresent, [], false⟩], none, .all, []⟩ =
      .ok sel := by
  have noLookup : ¬(⟨.plain "subject", .isPresent, [], false⟩ : Clause).AsksForHolders :=
    fun asks => absurd asks.1 (by decide)
  have resolves : ∃ f, closedSession.catalog.resolve (.plain "subject") = .ok f := ⟨_, rfl⟩
  refine ⟨?_, ?_, ?_⟩
  · apply (decided_in_order closedSession _).2.1.early
    refine ⟨[.filter ⟨.plain "subject", .isPresent, [], false⟩], .filter colourClause,
      [.filter holderClause], rfl, ?_, .filter (by decide) rfl⟩
    exact List.forall_mem_singleton.mpr (meets_filter noLookup fun _ => resolves)
  · have lookup := ((decided_in_order closedSession
      ⟨[holderClause, colourClause], none, .all, []⟩).2.2.2.2 rfl).1 holderClause
      ⟨rfl, Or.inl rfl, List.cons_ne_nil _ _⟩
    apply (decided_in_order closedSession _).2.2.2.1 ⟨1, none⟩ |>.early
    exact ⟨[], .filter holderClause, [.filter colourClause], rfl, List.forall_mem_nil _, lookup⟩
  · apply ((decided_in_order closedSession _).2.2.2.2 rfl).2
    exact List.forall_mem_singleton.mpr ⟨noLookup, fun _ => resolves⟩

end Session

end Worklist
