import Worklist.Proofs.Query.Admission
import Worklist.Proofs.Query.Answers

/-!
# What hidden work packages change

Two stores agree for a scope if they differ only in work packages that the scope does not admit, and
in the values of custom fields of these. A query with the scope finds the same rows in both, so it
has the same counts, groups and pages. There is one exception: a store gives up on a pattern that is
too long as soon as a row has to be compared with it, and it may meet a hidden row before it asks
for the project of that row.
-/

set_option autoImplicit false

namespace Worklist

open Sql (Column Condition Join OrderTerm Selection)
open Store (Integrity Record Row arranged completed found foundRows meets partner? select tooLong
  truth)

namespace Store

/-- Whether two stores differ at most in work packages that a scope does not admit, and in the
values of custom fields of these. -/
structure Agree (scope : Scope) (s s' : Store) : Prop where
  tables : ∀ t, t ≠ .workPackages → t ≠ .customValues → ∀ r, r ∈ s.records t ↔ r ∈ s'.records t
  workPackages : ∀ w, scope.Admits s w → (w ∈ s.workPackages ↔ w ∈ s'.workPackages)
  customValues : ∀ w ∈ s.workPackages, scope.Admits s w → ∀ v,
    v.get "customized_id" = .int w.id → (v ∈ s.customValues ↔ v ∈ s'.customValues)

/-! ## Agreement -/

section Agreement

variable {scope : Scope} {s s' : Store}

/-- Stores that agree have the same memberships. -/
theorem Agree.mem_members (agree : Agree scope s s') (m : Record) :
    m ∈ s.members ↔ m ∈ s'.members :=
  agree.tables .members (by decide) (by decide) m

/-- Stores that agree have the same roles of memberships. -/
theorem Agree.mem_memberRoles (agree : Agree scope s s') (r : Record) :
    r ∈ s.memberRoles ↔ r ∈ s'.memberRoles :=
  agree.tables .memberRoles (by decide) (by decide) r

/-- The scope admits the same work packages in stores that agree. -/
theorem Agree.admits_iff (agree : Agree scope s s') (w : Record) :
    scope.Admits s w ↔ scope.Admits s' w := by
  cases scope with
  | memberOf user =>
    simp only [Scope.Admits]
    exact exists_congr fun m => by rw [agree.mem_members]
  | _ => exact Iff.rfl

/-- The one member of a list with a property does not depend on the other members. -/
theorem find?_congr_of_unique {α : Type} {p : α → Bool} {l l' : List α}
    (unique : l.Pairwise fun a b => ¬(p a = true ∧ p b = true))
    (unique' : l'.Pairwise fun a b => ¬(p a = true ∧ p b = true))
    (same : ∀ a, p a = true → (a ∈ l ↔ a ∈ l')) : l.find? p = l'.find? p := by
  have mem_find (l : List α) (unique : l.Pairwise fun a b => ¬(p a = true ∧ p b = true)) (a : α) :
      l.find? p = some a ↔ a ∈ l ∧ p a = true := by
    rw [← Option.mem_toList, ← filter_eq_toList_find? p unique, List.mem_filter]
  ext a
  rw [mem_find l unique, mem_find l' unique']
  constructor
  · rintro ⟨mem, hp⟩
    exact ⟨(same a hp).mp mem, hp⟩
  · rintro ⟨mem, hp⟩
    exact ⟨(same a hp).mpr mem, hp⟩

/-- A join finds the same record for an admitted work package in stores that agree. -/
theorem Agree.partner?_eq (agree : Agree scope s s') (h : Integrity s) (h' : Integrity s')
    {w : Record} (hw : w ∈ s.workPackages) (admitted : scope.Admits s w) (j : Join) :
    partner? s j w = partner? s' j w := by
  refine find?_congr_of_unique (joinMatches_unique h j w) (joinMatches_unique h' j w) ?_
  intro r hr
  cases j with
  | status => exact agree.tables .statuses (by decide) (by decide) r
  | customValue id =>
    simp only [joinMatches, Bool.and_eq_true, beq_iff_eq] at hr
    exact agree.customValues w hw admitted r hr.1

/-- An admitted work package has the same row in stores that agree. -/
theorem Agree.completed_eq (agree : Agree scope s s') (h : Integrity s) (h' : Integrity s')
    {w : Record} (hw : w ∈ s.workPackages) (admitted : scope.Admits s w) (joins : List Join) :
    completed s joins w = completed s' joins w := by
  unfold completed
  simp only [agree.partner?_eq h h' hw admitted]

/-- A condition is true of the same rows in stores that agree. -/
theorem Agree.holds_truth_eq (agree : Agree scope s s') (row : Row) (c : Condition) :
    (truth s row c).holds = (truth s' row c).holds := by
  induction c with
  | projectOfMember c user =>
    simp only [truth]
    rw [Truth.holds_any, Truth.holds_any, Bool.eq_iff_iff, List.any_eq_true, List.any_eq_true]
    simp only [List.mem_map, projectsOf, List.mem_filter, agree.mem_members]
  | both a b iha ihb =>
    simp only [truth]
    rw [Truth.holds_and, Truth.holds_and, iha, ihb]
  | either a b iha ihb =>
    simp only [truth]
    rw [Truth.holds_or, Truth.holds_or, iha, ihb]
  | grouped a ih => exact ih
  | _ => rfl

/-- A condition is true of the same admitted work packages in stores that agree. -/
theorem Agree.meets_eq (agree : Agree scope s s') (h : Integrity s) (h' : Integrity s')
    {w : Record} (hw : w ∈ s.workPackages) (admitted : scope.Admits s w) (c : Condition) :
    meets s w c = meets s' w c := by
  unfold meets
  rw [agree.completed_eq h h' hw admitted, agree.holds_truth_eq]

/-- A store agrees with itself and one more work package that the scope does not admit. -/
theorem agree_add_workPackage {w : Record} (hidden : ¬scope.Admits s w) :
    Agree scope s (s.add .workPackages w) where
  tables t hw _ r := by
    rw [records_add, if_neg (Ne.symm hw)]
  workPackages v admitted := by
    have different : v ≠ w := by
      rintro rfl
      exact hidden admitted
    change v ∈ s.workPackages ↔ v ∈ s.workPackages ++ [w]
    rw [List.mem_append, List.mem_singleton]
    exact (or_iff_left different).symm
  customValues _ _ _ _ _ := Iff.rfl

/-- If a store agrees with another, the other agrees with it. -/
theorem Agree.symm (agree : Agree scope s s') : Agree scope s' s where
  tables t hw hv r := (agree.tables t hw hv r).symm
  workPackages w admitted := (agree.workPackages w ((agree.admits_iff w).mpr admitted)).symm
  customValues w hw admitted v hv := by
    have admitted' := (agree.admits_iff w).mpr admitted
    exact (agree.customValues w ((agree.workPackages w admitted').mpr hw) admitted' v hv).symm

/-! ## Rows -/

/-- What a selection with the condition of the scope finds is admitted, and the other store has the
same row for it. -/
theorem Agree.mem_foundRows (agree : Agree scope s s') (h : Integrity s) (h' : Integrity s')
    (builtIn : scope.IsBuiltIn) {sel : Selection} (restricted : scope.condition ∈ sel.conditions)
    {row : Row} (hrow : row ∈ foundRows s sel) : row ∈ foundRows s' sel := by
  obtain ⟨w, hfound, rfl⟩ := List.mem_map.mp hrow
  obtain ⟨hw, all⟩ := List.mem_filter.mp hfound
  have admitted : scope.Admits s w :=
    (meets_scope h hw builtIn).mp (List.all_eq_true.mp all _ restricted)
  have all' : sel.conditions.all (meets s' w) = true := by
    rw [← funext (agree.meets_eq h h' hw admitted)]
    exact all
  refine List.mem_map.mpr ⟨w, List.mem_filter.mpr ⟨?_, all'⟩, ?_⟩
  · exact (agree.workPackages w admitted).mp hw
  · exact (agree.completed_eq h h' hw admitted sel.joins).symm

/-- A selection with the condition of the scope has the same rows in stores that agree. -/
theorem Agree.foundRows_perm (agree : Agree scope s s') (h : Integrity s) (h' : Integrity s')
    (builtIn : scope.IsBuiltIn) {sel : Selection}
    (restricted : scope.condition ∈ sel.conditions) :
    (foundRows s sel).Perm (foundRows s' sel) := by
  have nodup := (nodup_foundRows h sel).of_map
  have nodup' := (nodup_foundRows h' sel).of_map
  refine (List.perm_ext_iff_of_nodup nodup nodup').mpr fun row => ?_
  exact ⟨agree.mem_foundRows h h' builtIn restricted,
    agree.symm.mem_foundRows h' h builtIn restricted⟩

end Agreement

end Store

/-! ## Answers -/

/-- Whether two results are the same, up to one of them being refused where that may happen. -/
def Alike {ε α : Type} (refused : ε) (mayRefuse : Prop) (r r' : Except ε α) : Prop :=
  r = r' ∨ mayRefuse ∧ (r = .error refused ∨ r' = .error refused)

namespace Alike

variable {ε δ α β : Type} {refused : ε} {mayRefuse : Prop} {r r' : Except ε α}

/-- Results that are alike stay alike under steps that are alike. -/
theorem bind {f f' : α → Except ε β} (h : Alike refused mayRefuse r r')
    (hf : ∀ a, r = .ok a → Alike refused mayRefuse (f a) (f' a)) :
    Alike refused mayRefuse (r >>= f) (r' >>= f') := by
  rcases h with rfl | ⟨may, rfl | rfl⟩
  · cases r with
    | error e => exact Or.inl rfl
    | ok a => exact hf a rfl
  · exact Or.inr ⟨may, Or.inl rfl⟩
  · exact Or.inr ⟨may, Or.inr rfl⟩

/-- Results stay alike when their errors are renamed. -/
theorem mapError {name : ε → δ} (h : Alike refused mayRefuse r r') :
    Alike (name refused) mayRefuse (r.mapError name) (r'.mapError name) := by
  rcases h with rfl | ⟨may, rfl | rfl⟩
  · exact Or.inl rfl
  · exact Or.inr ⟨may, Or.inl rfl⟩
  · exact Or.inr ⟨may, Or.inr rfl⟩

/-- Results that are alike under one condition are alike under any weaker one. -/
theorem mono {mayRefuse' : Prop} (h : Alike refused mayRefuse r r')
    (more : mayRefuse → mayRefuse') : Alike refused mayRefuse' r r' :=
  h.imp_right fun may => ⟨more may.1, may.2⟩

/-- Where refusing is not possible, alike results are the same. -/
theorem eq (h : Alike refused mayRefuse r r') (never : ¬mayRefuse) : r = r' :=
  h.resolve_right fun may => never may.1

end Alike

namespace Store

/-- Whether a condition of a selection has a pattern that is too long. -/
def HasLongPattern (sel : Selection) : Prop :=
  ∃ c ∈ sel.conditions, tooLong c = true

section Answers

variable {scope : Scope} {s s' : Store} {p : Planner}

/-- What is read off the rows of a selection, whatever their order, is alike in stores that
agree. -/
theorem Agree.select_alike {α : Type} (agree : Agree scope s s') (h : Integrity s)
    (h' : Integrity s') (builtIn : scope.IsBuiltIn) {sel : Selection} (provided : sel.Provided)
    (restricted : scope.condition ∈ sel.conditions) {f : List Row → Except StoreError α}
    (hf : ∀ rows rows' : List Row, rows.Perm rows' →
      (rows.map fun row => row.workPackage.id).Nodup → f rows = f rows') :
    Alike .refused (HasLongPattern sel) (select p s sel >>= f) (select p s' sel >>= f) := by
  have perm := agree.foundRows_perm h h' builtIn restricted
  have same := hf _ _ perm (nodup_foundRows h sel)
  rcases select_cases p h provided with ⟨accepted, ok⟩ | ⟨refused, reason⟩
  · rcases select_cases p h' provided with ⟨-, ok'⟩ | ⟨refused', rejected | long⟩
    · rw [ok, ok']
      exact Or.inl same
    · rw [accepted] at rejected
      cases rejected
    · rw [refused']
      exact Or.inr ⟨long, Or.inr rfl⟩
  · rw [refused]
    rcases reason with rejected | long
    · rcases select_cases p h' provided with ⟨accepted, -⟩ | ⟨refused', -⟩
      · rw [accepted] at rejected
        cases rejected
      · rw [refused']
        exact Or.inl rfl
    · exact Or.inr ⟨long, Or.inl rfl⟩

/-- Stores that agree count alike, unless a pattern is too long. -/
theorem Agree.count_alike (agree : Agree scope s s') (h : Integrity s) (h' : Integrity s')
    (builtIn : scope.IsBuiltIn) {sel : Selection} (provided : sel.Provided)
    (restricted : scope.condition ∈ sel.conditions) :
    Alike .refused (HasLongPattern sel) (s.count p sel) (s'.count p sel) := by
  refine agree.select_alike h h' builtIn provided restricted ?_
  intro rows rows' perm nodup
  have nodup' := (perm.map fun row => row.workPackage.id).nodup_iff.mp nodup
  rw [countDistinct_of_nodup nodup, countDistinct_of_nodup nodup', perm.length_eq]

/-- Stores that agree have alike pages, unless a pattern is too long. -/
theorem Agree.page_alike (agree : Agree scope s s') (h : Integrity s) (h' : Integrity s')
    (builtIn : scope.IsBuiltIn) {sel : Selection} (provided : sel.Provided)
    (restricted : scope.condition ∈ sel.conditions) {order : List OrderTerm}
    (ordered : EndsById order) (limit offset : Nat) :
    Alike .refused (HasLongPattern sel) (s.page p sel order limit offset)
      (s'.page p sel order limit offset) := by
  unfold page
  split_ifs
  · exact Or.inl rfl
  · refine agree.select_alike h h' builtIn provided restricted ?_
    intro rows rows' perm nodup
    rw [mergeSort_eq_of_perm ordered perm nodup]

/-- Stores that agree have alike groups, unless a pattern is too long. -/
theorem Agree.group_alike (agree : Agree scope s s') (h : Integrity s) (h' : Integrity s')
    (builtIn : scope.IsBuiltIn) {sel : Selection} (provided : sel.Provided)
    (restricted : scope.condition ∈ sel.conditions) (column : Column) :
    Alike .refused (HasLongPattern sel) (s.group p sel column) (s'.group p sel column) := by
  refine agree.select_alike h h' builtIn provided restricted ?_
  intro rows rows' perm nodup
  rw [mergeSort_eq_of_perm (endsById_scanOrder p sel.conditions) perm nodup]

/-- Stores that agree have the same holders of roles. -/
theorem Agree.roleHolders_eq (agree : Agree scope s s') (roles : List String)
    (project? : Option Int) : s.roleHolders roles project? = s'.roleHolders roles project? := by
  have carries (ids : List Int) (m : Record) : carriesRole s ids m = carriesRole s' ids m := by
    unfold carriesRole
    rw [Bool.eq_iff_iff, List.any_eq_true, List.any_eq_true]
    exact exists_congr fun r => by rw [agree.mem_memberRoles]
  unfold roleHolders
  refine mergeSort_distinct_congr fun user => ?_
  simp only [List.mem_filterMap, List.mem_filter, carries, agree.mem_members]

end Answers

end Store

/-! ## Queries -/

/-- Whether a filter of a query looks for a text that is too long for the store. -/
def Query.HasLongPattern (q : Query) : Prop :=
  ∃ c ∈ q.filters, ∃ pattern, c.pattern? = some pattern ∧
    Store.maxPatternBytes < pattern.utf8ByteSize

namespace Session

/-- The session on another store. -/
def onStore (x : Session) (s : Store) : Session :=
  { x with pool := { x.pool with store := s } }

/-- The condition of the scope stands in every selection of a query. -/
theorem scope_mem_conditions {x : Session} {q : Query} {sel : Selection}
    (hsel : x.selection q = .ok sel) : q.scope.condition ∈ sel.conditions := by
  obtain ⟨predicates, -, rfl⟩ := selection_eq_ok_iff.mp hsel
  rw [Predicate.conditions_foldl_restrict]
  exact List.mem_append_left _ List.mem_cons_self

/-- The predicate of a filter has a pattern that is too long only if the filter looks for a text
that is too long. -/
theorem pattern?_of_filterPredicate {x : Session} {project? : Option Int} {c : Clause}
    {p : Predicate} (hp : x.filterPredicate project? c = .ok p) {condition : Condition}
    (hcondition : p.condition? = some condition) (long : tooLong condition = true) :
    ∃ pattern, c.pattern? = some pattern ∧ Store.maxPatternBytes < pattern.utf8ByteSize := by
  have ofPredicate {c : Clause} {f : Field} (hc : (c.predicate x.filterContext f).condition? =
      some condition) : c.condition? x.filterContext f = some condition := by
    unfold Clause.predicate at hc
    cases hcon : c.condition? x.filterContext f with
    | none =>
      rw [hcon] at hc
      cases hc
    | some own =>
      rw [hcon] at hc
      exact hc
  unfold filterPredicate at hp
  split_ifs at hp with hrole
  · unfold rolePredicate at hp
    split_ifs at hp with hop
    · split at hp
      · cases hp
      · rw [← Except.ok.inj hp] at hcondition
        obtain ⟨pattern, hpattern, -⟩ := Clause.pattern?_of_tooLong (ofPredicate hcondition) long
        unfold Clause.pattern? Clause.ofValues at hpattern
        rcases hop with hop | hop <;> simp [hop] at hpattern
    · rw [← Except.ok.inj hp] at hcondition
      cases hcondition
  · split at hp
    · cases hp
    · rw [← Except.ok.inj hp] at hcondition
      exact Clause.pattern?_of_tooLong (ofPredicate hcondition) long

/-- The selection of a query has a pattern that is too long only if one of its filters has. -/
theorem hasLongPattern_of_selection {x : Session} {q : Query} {sel : Selection}
    (hsel : x.selection q = .ok sel) (long : Store.HasLongPattern sel) : q.HasLongPattern := by
  obtain ⟨predicates, hp, rfl⟩ := selection_eq_ok_iff.mp hsel
  obtain ⟨condition, hcondition, long⟩ := long
  rw [Predicate.conditions_foldl_restrict] at hcondition
  rcases List.mem_append.mp hcondition with base | own
  · rcases List.mem_cons.mp base with rfl | base
    · cases hs : q.scope with
      | projects ids =>
        rw [hs] at long
        cases ids <;> cases long
      | _ =>
        rw [hs] at long
        cases long
    · obtain ⟨id, -, rfl⟩ := List.mem_map.mp base
      cases long
  · obtain ⟨p, hmem, hcondition⟩ := List.mem_filterMap.mp own
    obtain ⟨c, hc, hcp⟩ := (mem_of_mapM_eq_ok hp).mp hmem
    exact ⟨c, hc, pattern?_of_filterPredicate hcp hcondition long⟩

section OnStore

variable {x : Session} {s' : Store} {scope : Scope}

/-- A filter has the same predicate on a store that agrees. -/
theorem filterPredicate_onStore (agree : Store.Agree scope x.pool.store s')
    (project? : Option Int) (c : Clause) :
    (x.onStore s').filterPredicate project? c = x.filterPredicate project? c := by
  have holders (roles : List String) :
      (x.onStore s').roleHolders roles project? = x.roleHolders roles project? := by
    unfold roleHolders onStore Pool.read
    cases x.pool.isOpen with
    | false => rfl
    | true => simp only [if_true, bind, Except.bind, agree.roleHolders_eq]
  unfold filterPredicate rolePredicate
  rw [holders]
  rfl

/-- A query has the same selection on a store that agrees. -/
theorem selection_onStore (agree : Store.Agree scope x.pool.store s') (q : Query) :
    (x.onStore s').selection q = x.selection q := by
  unfold selection
  rw [funext (filterPredicate_onStore agree q.project?)]

/-- Reading a pool passes on what is alike in two stores. -/
theorem read_alike {α : Type} {mayRefuse : Prop} {f : Store → Except StoreError α}
    (alike : Alike .refused mayRefuse (f x.pool.store) (f s')) :
    Alike .refused mayRefuse (x.pool.read >>= f) ((x.onStore s').pool.read >>= f) := by
  unfold onStore Pool.read
  cases x.pool.isOpen with
  | false => exact Or.inl rfl
  | true => exact alike

end OnStore

/-- Work packages that a scope does not admit change no count, no group and no page, and no error of
these; only a query that looks for a text longer than the store compares with may be refused on one
of the stores. -/
theorem hidden_workPackages_alike {x : Session} {s' : Store} {q : Query}
    (builtIn : q.scope.IsBuiltIn) (h : Integrity x.pool.store) (h' : Integrity s')
    (agree : Store.Agree q.scope x.pool.store s') :
    Alike (.store .refused) q.HasLongPattern (x.count q).result ((x.onStore s').count q).result ∧
    (∀ dimension, Alike (.store .refused) q.HasLongPattern (x.countByGroup q dimension).result
      ((x.onStore s').countByGroup q dimension).result) ∧
    ∀ p, Alike (.store .refused) q.HasLongPattern (x.page q p).result
      ((x.onStore s').page q p).result := by
  have sameSelection := selection_onStore agree q
  -- what holds of the selection of the query holds of every one with the same conditions
  have long {sel sel' : Selection} (hsel : x.selection q = .ok sel)
      (same : sel'.conditions = sel.conditions) : Store.HasLongPattern sel' → q.HasLongPattern := by
    unfold Store.HasLongPattern
    rw [same]
    exact hasLongPattern_of_selection hsel
  have restricted {sel sel' : Selection} (hsel : x.selection q = .ok sel)
      (same : sel'.conditions = sel.conditions) : q.scope.condition ∈ sel'.conditions := by
    rw [same]
    exact scope_mem_conditions hsel
  refine ⟨?_, fun dimension => ?_, fun p => ?_⟩
  · rw [result_count, result_count, sameSelection]
    refine Alike.bind (Or.inl rfl) fun sel hsel => Alike.mapError (read_alike ?_)
    exact (agree.count_alike h h' builtIn (provided_selection hsel) (restricted hsel rfl)).mono
      (long hsel rfl)
  · rw [result_countByGroup, result_countByGroup, sameSelection]
    refine Alike.bind (Or.inl rfl) fun f _ => Alike.bind (Or.inl rfl) fun sel hsel => ?_
    refine Alike.bind (Alike.mapError (read_alike ?_)) fun _ _ => Or.inl rfl
    have same := Field.conditions_provide sel f
    have provided := (provided_selection hsel).provide f
    exact (agree.group_alike h h' builtIn provided (restricted hsel same) f.column).mono
      (long hsel same)
  · rw [result_page, result_page, sameSelection]
    refine Alike.bind (Or.inl rfl) fun sel hsel => Alike.bind (Or.inl rfl) fun fields _ => ?_
    have same := conditions_pageSelection sel fields
    have provided := provided_pageSelection (provided_selection hsel) fields
    refine Alike.bind (Alike.mapError (read_alike ?_)) fun total _ => ?_
    · exact (agree.count_alike h h' builtIn provided (restricted hsel same)).mono (long hsel same)
    refine Alike.bind (Alike.mapError (read_alike (Alike.bind ?_ fun _ _ => Or.inl rfl)))
      fun _ _ => Or.inl rfl
    exact (agree.page_alike h h' builtIn provided (restricted hsel same)
      (endsById_orderTerms fields) _ _).mono (long hsel same)

/-! ## A work package that is hidden -/

/-- A work package of the third project, with the second status. -/
def hiddenRow : Store.NewRow :=
  [("project_id", .int 3), ("subject", .text "secret"), ("status_id", .int 2),
    ("created_at", .text "2024-01-04"), ("updated_at", .text "2024-01-04")]

/-- The sample with that work package. -/
def hiddenStore : Store :=
  Store.ofRows (sampleRows ++ [(.workPackages, hiddenRow)])

/-- The hidden work package is added to the sample. -/
theorem hiddenStore_eq : hiddenStore = sampleSession.pool.store.add .workPackages
    (Store.recordFor .workPackages 4 hiddenRow) := by
  decide +kernel

/-- The work packages of the first two projects with the second status. -/
def doneQuery : Query :=
  ⟨[⟨.plain "status_id", .equals, ["2"], false⟩], none, .projects [1, 2], []⟩

/-- A scope without the third project does not show the difference. -/
theorem agree_hiddenStore :
    Store.Agree (.projects [1, 2]) sampleSession.pool.store hiddenStore := by
  rw [hiddenStore_eq]
  refine Store.agree_add_workPackage ?_
  rintro ⟨id, hid, project⟩
  have third : (Store.recordFor .workPackages 4 hiddenRow).get "project_id" = .int 3 := by
    decide +kernel
  rw [third] at project
  rw [← Store.Value.int.inj project] at hid
  simp at hid

/-- The sample counts the same with and without the hidden work package. -/
theorem count_doneQuery_hiddenStore :
    (sampleSession.count doneQuery).result =
      ((sampleSession.onStore hiddenStore).count doneQuery).result := by
  have short : ¬doneQuery.HasLongPattern := by
    rintro ⟨c, hc, pattern, hpattern, -⟩
    rw [List.mem_singleton.mp hc] at hpattern
    cases hpattern
  have h := (Store.reachable_ofRows sampleRows).integrity
  have h' := (Store.reachable_ofRows (sampleRows ++ [(.workPackages, hiddenRow)])).integrity
  have alike := hidden_workPackages_alike (q := doneQuery) (by rintro sql ⟨⟩) h h'
    agree_hiddenStore
  exact alike.1.eq short

/-- The work packages of the first two projects with the second status and a text in their `id`. -/
def textQuery (text : String) : Query :=
  { doneQuery with filters := doneQuery.filters ++ [⟨.plain "id", .contains, [text], false⟩] }

/-- The selection of that query, for the pattern of the text. -/
def patternSelection (pattern : String) : Selection :=
  ⟨[], [.oneOf projectColumn false [.whole 1, .whole 2],
    .oneOf ⟨.workPackages, "status_id"⟩ false [.text "2"], .like .workPackageId false pattern]⟩

/-- The sample query for a text has the selection for the pattern of the text. -/
theorem selection_textQuery (s : Store) (text : String) :
    (sampleSession.onStore s).selection (textQuery text) =
      .ok (patternSelection ("%" ++ Text.lowercase text ++ "%")) :=
  rfl

/-- The sample query for a text counts what the store counts for the pattern of the text. -/
theorem count_textQuery (s : Store) (text : String) :
    ((sampleSession.onStore s).count (textQuery text)).result =
      (s.count sampleSession.planner
        (patternSelection ("%" ++ Text.lowercase text ++ "%"))).mapError QueryError.store := by
  have isOpen : (sampleSession.onStore s).pool.read = .ok s := rfl
  rw [result_count, selection_textQuery, isOpen]
  rfl

/-- The store takes statements on this selection, if the pattern can stand in them. -/
theorem accepts_patternSelection {pattern : String}
    (h : Store.readableLiteral (.text pattern) = true) :
    Store.accepts (patternSelection pattern) = true := by
  simp only [Store.accepts, patternSelection, List.all_cons, List.all_nil, Store.readable, h]
  rfl

/-- The status is looked up first, then the pattern is met, and the project comes last. -/
theorem tests_patternSelection (pattern : String) :
    sampleSession.planner.tests (patternSelection pattern).conditions =
      [.oneOf ⟨.workPackages, "status_id"⟩ false [.text "2"], .like .workPackageId false pattern,
        .oneOf projectColumn false [.whole 1, .whole 2]] :=
  rfl

/-- No work package of the sample has the second status, so none is compared with the pattern. -/
theorem count_patternSelection_sample {pattern : String}
    (h : Store.readableLiteral (.text pattern) = true) :
    sampleSession.pool.store.count sampleSession.planner (patternSelection pattern) = .ok 0 := by
  have fails : ∀ row ∈ Store.joinedRows sampleSession.pool.store [],
      (truth sampleSession.pool.store row
        (.oneOf ⟨.workPackages, "status_id"⟩ false [.text "2"])).holds = false := by
    decide +kernel
  have none : Store.satisfying sampleSession.pool.store
      (sampleSession.planner.tests (patternSelection pattern).conditions)
      (Store.joinedRows sampleSession.pool.store []) = .ok [] := by
    rw [tests_patternSelection]
    exact Store.satisfying_of_first_fails rfl fails
  unfold Store.count select
  rw [accepts_patternSelection h, if_pos rfl]
  exact congrArg (· >>= fun rows => pure (Store.countDistinct rows)) none

/-- The hidden work package has the second status, so it is compared with the pattern. -/
theorem count_patternSelection_hiddenStore {pattern : String}
    (h : Store.readableLiteral (.text pattern) = true)
    (long : Store.maxPatternBytes < pattern.utf8ByteSize) :
    hiddenStore.count sampleSession.planner (patternSelection pattern) = .error .refused := by
  have mem : Row.alone (Store.recordFor .workPackages 4 hiddenRow) ∈
      Store.joinedRows hiddenStore [] := by decide +kernel
  have holds : (truth hiddenStore (.alone (Store.recordFor .workPackages 4 hiddenRow))
      (.oneOf ⟨.workPackages, "status_id"⟩ false [.text "2"])).holds = true := by decide +kernel
  have met : Store.satisfies hiddenStore (.alone (Store.recordFor .workPackages 4 hiddenRow))
      (sampleSession.planner.tests (patternSelection pattern).conditions) = .error .refused := by
    have tooLong : tooLong (.like .workPackageId false pattern) = true := decide_eq_true long
    rw [tests_patternSelection, Store.satisfies, holds, Store.satisfies, tooLong]
    rfl
  unfold Store.count select
  rw [accepts_patternSelection h, if_pos rfl]
  exact congrArg (· >>= fun rows => pure (Store.countDistinct rows))
    (Store.satisfying_of_refused mem met)

/-- A text has at least as many bytes as characters. -/
theorem length_le_utf8ByteSize (l : List Char) : l.length ≤ (String.ofList l).utf8ByteSize := by
  induction l with
  | nil => exact Nat.zero_le _
  | cons c l ih =>
    have size := c.utf8Size_pos
    rw [String.ofList_cons, String.utf8ByteSize_append, String.utf8ByteSize_singleton,
      List.length_cons]
    omega

/-- A run of one small letter is in lower case. -/
theorem lowerAfter_replicate (n : Nat) (before : List Char) :
    Text.lowerAfter before (List.replicate n 'a') = List.replicate n 'a' := by
  induction n generalizing before with
  | zero => rfl
  | succ n ih =>
    rw [List.replicate_succ, Text.lowerAfter, ih]
    rfl

/-- A text of so many letters. -/
def letters (n : Nat) : String :=
  String.ofList (List.replicate n 'a')

/-- The pattern of a text of letters has at least as many bytes. -/
theorem pattern_letters (n : Nat) :
    Store.readableLiteral (.text ("%" ++ Text.lowercase (letters n) ++ "%")) = true ∧
      n < ("%" ++ Text.lowercase (letters n) ++ "%").utf8ByteSize := by
  have lower : Text.lowercase (letters n) = String.ofList (List.replicate n 'a') := by
    unfold letters Text.lowercase
    rw [String.toList_ofList, lowerAfter_replicate]
  have sign : ("%" : String).utf8ByteSize = 1 := by decide
  have size := length_le_utf8ByteSize (List.replicate n 'a')
  rw [List.length_replicate] at size
  rw [lower]
  refine ⟨by simp [Store.readableLiteral], ?_⟩
  rw [String.utf8ByteSize_append, String.utf8ByteSize_append, sign]
  omega

/-- A hidden work package can make the store refuse a query that looks for a text too long to be
compared with; without it there is nothing to compare. -/
theorem hidden_workPackage_refuses_count :
    Store.Agree (textQuery (letters 50000)).scope sampleSession.pool.store hiddenStore ∧
      (sampleSession.count (textQuery (letters 50000))).result = .ok 0 ∧
      ((sampleSession.onStore hiddenStore).count (textQuery (letters 50000))).result =
        .error (.store .refused) := by
  obtain ⟨readable, long⟩ := pattern_letters 50000
  refine ⟨agree_hiddenStore, ?_, ?_⟩
  · have sample := count_textQuery sampleSession.pool.store (letters 50000)
    rw [count_patternSelection_sample readable] at sample
    exact sample
  · rw [count_textQuery, count_patternSelection_hiddenStore readable long]
    rfl

end Session

end Worklist
