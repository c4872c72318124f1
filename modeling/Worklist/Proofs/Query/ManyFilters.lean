import Worklist.Proofs.Query.Pages
import Worklist.Proofs.Query.RoleFilter
import Worklist.Proofs.Query.Visibility

/-!
# Queries of many filters

A statement takes over some of the values of its filters as texts. An open store answers the counts
and the groups of up to fifty filters, whatever these texts are, as long as the character U+0000
does not end the statement, no text is too long to be looked for and no lookup has more roles than
the store takes.
-/

set_option autoImplicit false

namespace Worklist

open Sql (Condition Join Literal Selection)
open Store (Record accepts depth literalDepth nameable readable readableLiteral selectionDepth
  tooLong)

/-! ## Texts of days -/

namespace Calendar

/-- The text of a day has digits and signs only. -/
theorem Date.nul_not_mem_text {d : Date} (h : d.FourDigits) : '\x00' ∉ d.text.toList := by
  obtain ⟨low, high⟩ := Date.year_of_fourDigits h
  have digits (width n : Nat) : '\x00' ∉ Number.padZeros width (Nat.toDigits 10 n) := by
    intro mem
    exact absurd (Text.isDigit_of_mem_padZeros _ mem) (by decide)
  unfold Date.text
  rw [Civil.toList_text low high]
  simp [digits]

/-- The text of an instant is free of U+0000. -/
theorem DayEnd.nul_not_mem_timestamp (e : DayEnd) {d : Date} (h : d.FourDigits) :
    '\x00' ∉ (e.timestamp d).toList := by
  have day := Date.nul_not_mem_text h
  unfold DayEnd.timestamp
  cases e <;> simp [day]

end Calendar

/-! ## Conditions of all operators -/

namespace Predicate

/-- The end of a range of days can stand in a statement. -/
theorem readable_bound (f : Field) (e : Calendar.DayEnd) (d : Calendar.Date) :
    readableLiteral (bound f e d) = true := by
  have own := d.fourDigits_clampToFourDigits
  unfold bound
  dsimp only
  rw [Store.readableLiteral_text]
  split_ifs
  · exact Calendar.Date.nul_not_mem_text own
  · exact e.nul_not_mem_timestamp own

/-- The condition of a threshold is plain. -/
theorem isPlain_threshold (c : Sql.Column) (r : Sql.Comparison) (value : String) (dynamic : Bool) :
    (threshold c r value dynamic).IsPlain := by
  have sign := Store.literalDepth_le (.number (Number.leadingReal value.toList))
  unfold threshold
  dsimp only
  split_ifs
  · refine ⟨rfl, ?_⟩
    show max (max 2 1 + 1) (max 3 (literalDepth _) + 1) + 1 ≤ 6
    omega
  · refine ⟨rfl, ?_⟩
    show max 2 (literalDepth _) + 1 ≤ 6
    omega

/-- A comparison with the end of a range of days can be read and is not deep. -/
theorem isPlain_compare_bound (f : Field) (r : Sql.Comparison) (e : Calendar.DayEnd)
    (d : Calendar.Date) : readable (.compare (.column f.column) r (bound f e d)) = true ∧
      depth (.compare (.column f.column) r (bound f e d)) ≤ 3 :=
  ⟨readable_bound f e d, Nat.le_refl 3⟩

/-- The condition of a range of days is plain. -/
theorem isPlain_inRange {f : Field} {range : Calendar.DayRange} {condition : Condition}
    (h : inRange? f range = some condition) : condition.IsPlain := by
  have ends := isPlain_compare_bound f
  unfold inRange? at h
  dsimp only at h
  cases hlower : range.lower? <;> cases hupper : range.upper? <;>
    simp only [hlower, hupper, Option.map_none, Option.map_some, Option.some.injEq,
      reduceCtorEq] at h
  · rename_i last
    rw [← h]
    exact ⟨(ends .le .ending last).1, Nat.le_add_right 3 3⟩
  · rename_i first
    rw [← h]
    exact ⟨(ends .gt .ending _).1, Nat.le_add_right 3 3⟩
  · rename_i first last
    rw [← h]
    refine ⟨?_, Nat.le_add_right 4 2⟩
    show (readable _ && readable _) = true
    rw [(ends .gt .ending _).1, (ends .le .ending last).1]
    rfl

/-- The condition of the current week is plain. -/
theorem isPlain_inWeek {f : Field} {context : FilterContext} {condition : Condition}
    (h : inWeek? f context = some condition) : condition.IsPlain := by
  unfold inWeek? at h
  dsimp only at h
  split at h
  · rw [← Option.some.inj h]
    refine ⟨?_, Nat.le_add_right 3 3⟩
    show (readableLiteral _ && readableLiteral _) = true
    rw [readable_bound, readable_bound]
    rfl
  · cases h

end Predicate

namespace Clause

/-- The values of a clause that its condition takes over as texts. All others become numbers or
days, or play no role. -/
def writtenTexts (c : Clause) : List String :=
  match c.operator with
  | .equals => c.values
  | .notEquals => c.values
  | .contains => [c.firstValue]
  | .notContains => [c.firstValue]
  | _ => []

/-- A clause of a paired operator says the same with no other values than it writes. -/
theorem condition?_writtenTexts {c : Clause} (paired : c.operator ∈ Operator.paired)
    (context : FilterContext) (f : Field) :
    ({ c with values := c.writtenTexts } : Clause).condition? context f =
      c.condition? context f := by
  obtain ⟨key, op, values, dynamic⟩ := c
  have listed : op = .equals ∨ op = .notEquals ∨ op = .isBlank ∨ op = .isPresent ∨
      op = .contains ∨ op = .notContains ∨ op = .openStatus ∨ op = .closedStatus := by
    simpa only [Operator.paired, List.mem_cons, List.not_mem_nil, or_false] using paired
  rcases listed with rfl | rfl | rfl | rfl | rfl | rfl | rfl | rfl <;> rfl

/-- The condition of a clause is plain if the texts that it writes can stand in a statement. -/
theorem isPlain_of_writtenTexts {c : Clause} (texts : ∀ v ∈ c.writtenTexts, '\x00' ∉ v.toList)
    {context : FilterContext} {f : Field} {condition : Condition}
    (compiled : c.condition? context f = some condition) : condition.IsPlain := by
  have ofRange {op : Operator} {n : Int}
      (h : (op.dayRange? context.today n).bind (Predicate.inRange? f) = some condition) :
      condition.IsPlain := by
    obtain ⟨range, -, inRange⟩ := Option.bind_eq_some_iff.mp h
    exact Predicate.isPlain_inRange inRange
  by_cases paired : c.operator ∈ Operator.paired
  · rw [← condition?_writtenTexts paired] at compiled
    exact isPlain_condition (c := { c with values := c.writtenTexts }) paired texts compiled
  · unfold condition? at compiled
    cases op : c.operator <;> simp only [op] at compiled <;> rw [op] at paired
    case atLeast | atMost =>
      rw [← Option.some.inj compiled]
      exact Predicate.isPlain_threshold _ _ _ _
    case thisWeek => exact Predicate.isPlain_inWeek compiled
    case sinceDaysAgo | untilDaysAgo | onDaysAgo | fromDaysAhead | untilDaysAhead | onDaysAhead |
        today => exact ofRange compiled
    all_goals exact absurd (by decide) paired

/-- The tables of the predicate of a clause are that of its field and that of the status. -/
theorem joins_predicate_subset (c : Clause) (context : FilterContext) (f : Field) :
    (c.predicate context f).joins ⊆ .status :: f.requiredJoin?.toList := by
  unfold predicate
  cases c.condition? context f with
  | none => exact List.nil_subset _
  | some condition =>
    intro j hj
    rcases (c.joins_of_field f).2 j hj with rfl | required
    · exact List.mem_cons_self
    · exact List.mem_cons_of_mem _ (Option.mem_toList.mpr required)

/-- A text with the character U+0000 that a clause writes makes its condition unreadable. -/
theorem unreadable_of_writtenTexts {c : Clause} {v : String} (written : v ∈ c.writtenTexts)
    (nul : '\x00' ∈ v.toList) (context : FilterContext) (f : Field) :
    ∃ condition, c.condition? context f = some condition ∧ readable condition = false := by
  have text : readableLiteral (.text v) = false := by
    rw [Bool.eq_false_iff, ne_eq, Store.readableLiteral_text]
    exact not_not_intro nul
  have listed {values : List String} (mem : v ∈ values) :
      (values.map Literal.text).all readableLiteral = false := by
    rw [List.all_map, List.all_eq_false]
    exact ⟨v, mem, by simpa using text⟩
  have pattern : readableLiteral (.text (Text.searchPattern v)) = false := by
    rw [Bool.eq_false_iff, ne_eq, Store.readableLiteral_text, Text.toList_searchPattern]
    simp [Text.nul_mem_lowerAfter nul []]
  unfold condition?
  cases op : c.operator <;> simp only [writtenTexts, op, List.not_mem_nil] at written
  case equals =>
    refine ⟨_, rfl, ?_⟩
    unfold Predicate.equals
    dsimp only
    rw [if_neg (by rw [List.isEmpty_iff]; exact List.ne_nil_of_mem written)]
    split_ifs
    · show (true && (c.values.map Literal.text).all readableLiteral) = false
      rw [listed written]
      rfl
    · exact listed written
  case notEquals =>
    refine ⟨_, rfl, ?_⟩
    unfold Predicate.notEquals
    rw [if_neg (by rw [List.isEmpty_iff]; exact List.ne_nil_of_mem written)]
    show (true && (c.values.map Literal.text).all readableLiteral) = false
    rw [listed written]
    rfl
  case contains =>
    rw [List.mem_singleton.mp written] at pattern
    exact ⟨_, rfl, pattern⟩
  case notContains =>
    rw [List.mem_singleton.mp written] at pattern
    exact ⟨_, rfl, pattern⟩

end Clause

/-! ## Selections of many filters -/

/-- The join of the custom field that a key names. -/
def FieldKey.join? : FieldKey → Option Join
  | .plain _ => none
  | .custom id => some (.customValue id)

/-- A field of the catalog needs the join of its key. -/
theorem Catalog.requiredJoin?_of_resolve {catalog : Catalog} {key : FieldKey} {f : Field}
    (resolved : catalog.resolve key = .ok f) : f.requiredJoin? = key.join? := by
  cases key with
  | custom id =>
    simp only [resolve] at resolved
    split at resolved
    · rw [← Except.ok.inj resolved]
      rfl
    · cases resolved
  | plain name =>
    simp only [resolve] at resolved
    split_ifs at resolved
    · rw [← Except.ok.inj resolved]
      rfl
    · split at resolved
      · rw [← Except.ok.inj resolved]
        rfl
      · cases resolved

/-- The table of a custom field has a name if its number has no sign. -/
theorem nameable_of_join? {key : FieldKey} (named : ∀ id, key = .custom id → 0 ≤ id) {j : Join}
    (own : key.join? = some j) : nameable j = true := by
  cases key with
  | plain name => cases own
  | custom id =>
    rw [← Option.some.inj own]
    exact decide_eq_true (named id rfl)

/-- A selection of so many plain conditions whose tables are joined once each, all of them from a
list of tables. -/
structure Sql.Selection.Within (tables : List Join) (bound : Nat) (sel : Selection) : Prop where
  plain : ∀ c ∈ sel.conditions, c.IsPlain ∧ tooLong c = false
  few : sel.conditions.length ≤ bound
  once : sel.joins.Nodup
  named : ∀ j ∈ sel.joins, nameable j = true
  known : sel.joins ⊆ tables

namespace Sql.Selection.Within

variable {tables : List Join} {bound : Nat} {sel : Selection}

/-- One more filter adds one condition at most, and tables from the list. -/
theorem restrict (h : sel.Within tables bound) {p : Predicate} (answerable : p.Answerable)
    (own : p.joins ⊆ tables) : (p.restrict sel).Within tables (bound + 1) := by
  have plain := answerable.conditions_restrict h.plain
  unfold Predicate.restrict at plain ⊢
  split at plain
  · exact ⟨plain, Nat.le_succ_of_le h.few, h.once, h.named, h.known⟩
  · rename_i condition compiled
    have each {j : Join} (hj : j ∈ p.joins.foldl Join.add sel.joins) :=
      Sql.Join.mem_foldl_add.mp hj
    refine ⟨plain, ?_, Sql.Join.nodup_foldl_add h.once p.joins, ?_, ?_⟩
    · rw [List.length_append, List.length_singleton]
      exact Nat.succ_le_succ h.few
    · intro j hj
      exact (each hj).elim (h.named j) (answerable.named j)
    · intro j hj
      exact (each hj).elim (fun mem => h.known mem) fun mem => own mem

/-- Adding answerable predicates keeps a selection within its tables, with a condition more for
each. -/
theorem foldl_restrict (h : sel.Within tables bound) {predicates : List Predicate}
    (answerable : ∀ p ∈ predicates, p.Answerable) (own : ∀ p ∈ predicates, p.joins ⊆ tables) :
    (predicates.foldl Predicate.restrict sel).Within tables (bound + predicates.length) := by
  induction predicates generalizing sel bound with
  | nil => exact h
  | cons p predicates ih =>
    obtain ⟨first, rest⟩ := List.forall_mem_cons.mp answerable
    obtain ⟨ownFirst, ownRest⟩ := List.forall_mem_cons.mp own
    have next := ih (h.restrict first ownFirst) rest ownRest
    rwa [Nat.add_assoc, Nat.add_comm 1] at next

/-- A field for groups adds its table. -/
theorem provide (h : sel.Within tables bound) {f : Field}
    (named : ∀ j, f.requiredJoin? = some j → nameable j = true)
    (own : f.requiredJoin?.toList ⊆ tables) : (Field.provide sel f).Within tables bound := by
  have each {j : Join} (hj : j ∈ (Field.provide sel f).joins) := Field.mem_joins_provide.mp hj
  refine ⟨?_, ?_, ?_, ?_, ?_⟩
  · rw [Field.conditions_provide]
    exact h.plain
  · rw [Field.conditions_provide]
    exact h.few
  · exact Field.nodup_joins_provide h.once f
  · intro j hj
    exact (each hj).elim (h.named j) fun mem => named j (Option.mem_toList.mp mem)
  · intro j hj
    exact (each hj).elim (fun mem => h.known mem) fun mem => own mem

/-- The store takes the statement of such a selection, and no row makes it give up. -/
theorem exists_select (h : sel.Within tables bound) (fewTables : tables.length ≤ 63)
    (fewConditions : bound ≤ 100) (p : Store.Planner) (s : Store) :
    ∃ rows, s.select p sel = .ok rows := by
  have joins : sel.joins.length ≤ tables.length := (h.once.subperm h.known).length_le
  have deep : selectionDepth sel ≤ 6 + sel.conditions.length + sel.joins.length + 3 :=
    Store.selectionDepth_le (by decide) fun c hc => (h.plain c hc).1.2
  have few := h.few
  have accepted : accepts sel = true := by
    apply Store.accepts_iff.mpr
    refine ⟨fun c hc => (h.plain c hc).1.1, h.named, ?_, ?_⟩
    · unfold Store.maxTables
      omega
    · unfold Store.maxDepth
      omega
  unfold Store.select
  rw [if_pos accepted]
  rcases Store.satisfying_cases s (p.tests sel.conditions)
      (Store.joinedRows s sel.joins) with ok | ⟨-, c, hc, long⟩
  · exact ⟨_, ok⟩
  · rw [(h.plain c ((p.mem_tests _ c).mp hc)).2] at long
    cases long

end Sql.Selection.Within

/-! ## Steps that are refused -/

/-- A selection with a condition that cannot be read is refused. -/
theorem Store.select_of_unreadable {sel : Selection} {c : Condition} (mem : c ∈ sel.conditions)
    (unreadable : readable c = false) (p : Planner) (s : Store) :
    s.select p sel = .error .refused := by
  have rejected : ¬accepts sel = true := by
    intro accepted
    have read := (Store.accepts_iff.mp accepted).1 c mem
    rw [unreadable] at read
    cases read
  exact if_neg rejected

/-! ## Queries of many filters -/

/-- Whether a store can read what a filter writes: no text has the character U+0000, and the roles
of a lookup, with the project of the query, are not more than a lookup takes. -/
def Clause.IsReadable (project? : Option Int) (c : Clause) : Prop :=
  if c.field = assignedToRole then
    c.operator = .equals ∨ c.operator = .notEquals →
      c.values.length + project?.toList.length ≤ Store.maxParameters
  else ∀ v ∈ c.writtenTexts, '\x00' ∉ v.toList

/-- Whether a filter looks for a text that is too long for the store. -/
def Clause.HasLongPattern (c : Clause) : Prop :=
  c.field ≠ assignedToRole ∧
    ∃ pattern, c.pattern? = some pattern ∧ Store.maxPatternBytes < pattern.utf8ByteSize

namespace Session

variable {x : Session} {q : Query}

/-- The tables that the filters of a query and a field for groups may join. -/
def tablesOf (q : Query) (dimension? : Option FieldKey) : List Join :=
  .status :: (q.filters.filterMap (fun c => c.field.join?) ++
    (dimension?.bind FieldKey.join?).toList)

/-- Fifty filters, and a dimension, need no more tables than a statement can have. -/
theorem length_tablesOf (few : q.filters.length ≤ 50) (dimension? : Option FieldKey) :
    (tablesOf q dimension?).length ≤ 63 := by
  have filters : (q.filters.filterMap fun c => c.field.join?).length ≤ q.filters.length :=
    List.length_filterMap_le _ _
  have one : (dimension?.bind FieldKey.join?).toList.length ≤ 1 := by
    cases dimension?.bind FieldKey.join? <;> simp
  unfold tablesOf
  rw [List.length_cons, List.length_append]
  omega

/-- A filter whose key resolves and that the store can read has an answerable predicate. -/
theorem exists_filterPredicate (opened : x.pool.isOpen = true) {project? : Option Int} {c : Clause}
    (resolves : x.Resolves c) (readable : c.IsReadable project?) (short : ¬c.HasLongPattern)
    (named : ∀ id, c.field = .custom id → 0 ≤ id) :
    ∃ p, x.filterPredicate project? c = .ok p ∧ p.Answerable ∧
      p.joins ⊆ .status :: c.field.join?.toList := by
  unfold Clause.IsReadable at readable
  split_ifs at readable with role
  · obtain ⟨key, op, roles, dynamic⟩ := c
    obtain rfl : key = assignedToRole := role
    by_cases asked : op = .equals ∨ op = .notEquals
    · refine ⟨_, filterPredicate_roles op dynamic asked opened (readable asked),
        answerable_assigneeClause asked _ _, ?_⟩
      exact Clause.joins_predicate_subset _ _ _
    · refine ⟨.empty, ?_, ⟨nofun, nofun, Nat.zero_le 2⟩, List.nil_subset _⟩
      unfold filterPredicate rolePredicate
      rw [if_pos rfl, if_neg asked]
  · obtain ⟨f, hf⟩ := resolves.resolve_left role
    have table := Catalog.requiredJoin?_of_resolve hf
    refine ⟨_, filterPredicate_of_resolve hf project?, ?_, ?_⟩
    · apply Clause.answerable_of_isPlain
      · intro condition compiled
        exact Clause.isPlain_of_writtenTexts readable compiled
      · intro pattern hpattern
        exact Nat.le_of_not_lt fun long => short ⟨role, pattern, hpattern, long⟩
      · intro j hj
        exact nameable_of_join? named (table ▸ hj)
    · rw [← table]
      exact c.joins_predicate_subset _ _

/-- A query of readable filters that look for no text too long has a selection that the store
answers, and so does one with a field for groups. -/
theorem within_selection (opened : x.pool.isOpen = true) (builtIn : q.scope.IsBuiltIn)
    (resolves : ∀ c ∈ q.filters, x.Resolves c)
    (readable : ∀ c ∈ q.filters, c.IsReadable q.project?)
    (short : ∀ c ∈ q.filters, ¬c.HasLongPattern)
    (named : ∀ c ∈ q.filters, ∀ id, c.field = .custom id → 0 ≤ id) (dimension? : Option FieldKey) :
    ∃ sel, x.selection q = .ok sel ∧
      sel.Within (tablesOf q dimension?) (2 + q.filters.length) := by
  have each (c : Clause) (hc : c ∈ q.filters) :=
    exists_filterPredicate opened (resolves c hc) (readable c hc) (short c hc) (named c hc)
  obtain ⟨predicates, hp⟩ := exists_mapM_eq_ok fun c hc =>
    (each c hc).imp fun p own => own.1
  have ofFilter (p : Predicate) (mem : p ∈ predicates) :
      p.Answerable ∧ p.joins ⊆ tablesOf q dimension? := by
    obtain ⟨c, hc, hcp⟩ := (mem_of_mapM_eq_ok hp).mp mem
    obtain ⟨p', hp', answerable, joins⟩ := each c hc
    obtain rfl : p = p' := Except.ok.inj (hcp.symm.trans hp')
    refine ⟨answerable, fun j hj => ?_⟩
    rcases List.mem_cons.mp (joins hj) with rfl | own
    · exact List.mem_cons_self
    · apply List.mem_cons_of_mem
      apply List.mem_append_left
      exact List.mem_filterMap.mpr ⟨c, hc, Option.mem_toList.mp own⟩
  have base : q.baseSelection.Within (tablesOf q dimension?) 2 :=
    ⟨q.isPlain_baseSelection builtIn, q.length_baseSelection, List.nodup_nil,
      List.forall_mem_nil _, List.nil_subset _⟩
  refine ⟨_, selection_eq_ok_iff.mpr ⟨predicates, hp, rfl⟩, ?_⟩
  have length : predicates.length = q.filters.length := (mapM_eq_ok_iff.mp hp).length_eq.symm
  rw [← length]
  exact base.foldl_restrict (fun p mem => (ofFilter p mem).1) fun p mem => (ofFilter p mem).2

/-- On an open store a filter whose key resolves has a predicate, or its lookup is refused. -/
theorem filterPredicate_cases (opened : x.pool.isOpen = true) {project? : Option Int} {c : Clause}
    (resolves : x.Resolves c) :
    (∃ p, x.filterPredicate project? c = .ok p) ∨
      x.filterPredicate project? c = .error (.store .refused) := by
  by_cases role : c.field = assignedToRole
  · unfold filterPredicate rolePredicate
    rw [if_pos role]
    split_ifs
    · by_cases few : c.values.length + project?.toList.length ≤ Store.maxParameters
      · rw [roleHolders_eq_ok opened few]
        exact Or.inl ⟨_, rfl⟩
      · rw [roleHolders_refused opened (Nat.lt_of_not_le few)]
        exact Or.inr rfl
    · exact Or.inl ⟨_, rfl⟩
  · obtain ⟨f, hf⟩ := resolves.resolve_left role
    exact Or.inl ⟨_, filterPredicate_of_resolve hf project?⟩

/-- A filter that the store cannot read has no predicate, or one with an unreadable condition. -/
theorem unreadable_filterPredicate (opened : x.pool.isOpen = true) {project? : Option Int}
    {c : Clause} (resolves : x.Resolves c) (unreadable : ¬c.IsReadable project?) {p : Predicate}
    (hp : x.filterPredicate project? c = .ok p) :
    ∃ condition, p.condition? = some condition ∧ readable condition = false := by
  unfold Clause.IsReadable at unreadable
  split_ifs at unreadable with role
  · have asked : c.operator = .equals ∨ c.operator = .notEquals := by
      by_contra other
      exact unreadable fun asked => absurd asked other
    have many : Store.maxParameters < c.values.length + project?.toList.length := by
      by_contra few
      exact unreadable fun _ => Nat.le_of_not_lt few
    unfold filterPredicate rolePredicate at hp
    rw [if_pos role, if_pos asked, roleHolders_refused opened many] at hp
    cases hp
  · obtain ⟨f, hf⟩ := resolves.resolve_left role
    obtain ⟨v, written, nul⟩ : ∃ v ∈ c.writtenTexts, '\x00' ∈ v.toList := by
      by_contra none
      exact unreadable fun v written nul => none ⟨v, written, nul⟩
    rw [filterPredicate_of_resolve hf] at hp
    rw [← Except.ok.inj hp, Clause.predicate_condition?]
    exact Clause.unreadable_of_writtenTexts written nul _ f

/-- A query with an unreadable filter has no selection, or one with an unreadable condition. -/
theorem unreadable_selection (opened : x.pool.isOpen = true)
    (resolves : ∀ c ∈ q.filters, x.Resolves c)
    (unreadable : ∃ c ∈ q.filters, ¬c.IsReadable q.project?) :
    x.selection q = .error (.store .refused) ∨
      ∃ sel, x.selection q = .ok sel ∧ ∃ c ∈ sel.conditions, readable c = false := by
  obtain ⟨c, hc, own⟩ := unreadable
  have each (c : Clause) (hc : c ∈ q.filters) :
      (∃ p, x.filterPredicate q.project? c = .ok p) ∨
        x.filterPredicate q.project? c = .error (.store .refused) :=
    filterPredicate_cases opened (resolves c hc)
  rcases mapM_cases each with ⟨predicates, hp⟩ | refused
  · obtain ⟨p, mem, hcp⟩ := exists_of_mapM_eq_ok hp hc
    obtain ⟨condition, compiled, blind⟩ := unreadable_filterPredicate opened (resolves c hc) own hcp
    refine Or.inr ⟨_, selection_eq_ok_iff.mpr ⟨predicates, hp, rfl⟩, condition, ?_, blind⟩
    rw [Predicate.conditions_foldl_restrict]
    exact List.mem_append_right _ (List.mem_filterMap.mpr ⟨p, mem, compiled⟩)
  · refine Or.inl ?_
    unfold selection
    rw [refused]
    rfl

/-- An open store counts what its rows for the selection show. -/
theorem result_count_of_selection (opened : x.pool.isOpen = true) {sel : Selection}
    (hsel : x.selection q = .ok sel) :
    (x.count q).result =
      ((x.pool.store.select x.planner sel).map Store.countDistinct).mapError QueryError.store := by
  rw [result_count, hsel, read_eq_ok opened]
  show (x.pool.store.count x.planner sel).mapError QueryError.store = _
  unfold Store.count
  cases x.pool.store.select x.planner sel <;> rfl

/-- An open store groups its rows for the selection, with the table of the field joined. -/
theorem result_countByGroup_of_selection (opened : x.pool.isOpen = true) {sel : Selection}
    (hsel : x.selection q = .ok sel) {dimension : FieldKey} {f : Field}
    (hf : x.catalog.resolve dimension = .ok f) :
    (x.countByGroup q dimension).result =
      ((x.pool.store.select x.planner (Field.provide sel f)).map fun rows =>
        groupCounts f (Store.groupsOf f.column (rows.mergeSort
          (Store.rowLe (x.planner.scanOrder (Field.provide sel f).conditions))))).mapError
        QueryError.store := by
  rw [result_countByGroup, hf, hsel, read_eq_ok opened]
  show ((x.pool.store.group x.planner (Field.provide sel f) f.column).mapError QueryError.store >>=
    fun groups => pure (groupCounts f groups)) = _
  unfold Store.group
  cases x.pool.store.select x.planner (Field.provide sel f) <;> rfl

/-- On an open store the values of up to fifty filters make no count and no group fail, if the store
can read what the filters write and no text is too long to be looked for. A query with a filter that
the store cannot read is refused. -/
theorem answers_of_readable (opened : x.pool.isOpen = true) (builtIn : q.scope.IsBuiltIn)
    (few : q.filters.length ≤ 50) (resolves : ∀ c ∈ q.filters, x.Resolves c) :
    ((∀ c ∈ q.filters, c.IsReadable q.project? ∧ ¬c.HasLongPattern) →
      (∀ c ∈ q.filters, ∀ id, c.field = .custom id → 0 ≤ id) →
      (∃ n, (x.count q).result = .ok n) ∧
        ∀ dimension f, x.catalog.resolve dimension = .ok f →
          (∀ id, dimension = .custom id → 0 ≤ id) →
          ∃ counts, (x.countByGroup q dimension).result = .ok counts) ∧
    ((∃ c ∈ q.filters, ¬c.IsReadable q.project?) →
      (x.count q).result = .error (.store .refused) ∧
        ∀ dimension f, x.catalog.resolve dimension = .ok f →
          (x.countByGroup q dimension).result = .error (.store .refused)) := by
  constructor
  · intro fit named
    have within := within_selection opened builtIn resolves (fun c hc => (fit c hc).1)
      (fun c hc => (fit c hc).2) named
    constructor
    · obtain ⟨sel, hsel, small⟩ := within none
      obtain ⟨rows, hrows⟩ :=
        small.exists_select (length_tablesOf few none) (by omega) x.planner x.pool.store
      rw [result_count_of_selection opened hsel, hrows]
      exact ⟨_, rfl⟩
    · intro dimension f hf nonneg
      obtain ⟨sel, hsel, small⟩ := within (some dimension)
      have table := Catalog.requiredJoin?_of_resolve hf
      have grouped : (Field.provide sel f).Within (tablesOf q (some dimension))
          (2 + q.filters.length) := by
        apply small.provide
        · intro j hj
          exact nameable_of_join? nonneg (table ▸ hj)
        · rw [table]
          exact fun j hj => List.mem_cons_of_mem _ (List.mem_append_right _ hj)
      obtain ⟨rows, hrows⟩ :=
        grouped.exists_select (length_tablesOf few _) (by omega) x.planner x.pool.store
      rw [result_countByGroup_of_selection opened hsel hf, hrows]
      exact ⟨_, rfl⟩
  · intro unreadable
    rcases unreadable_selection opened resolves unreadable with refused | ⟨sel, hsel, c, mem, blind⟩
    · refine ⟨?_, fun dimension f hf => ?_⟩
      · rw [result_count, refused]
        rfl
      · rw [result_countByGroup, hf, refused]
        rfl
    · refine ⟨?_, fun dimension f hf => ?_⟩
      · rw [result_count_of_selection opened hsel, Store.select_of_unreadable mem blind]
        rfl
      · have grouped : c ∈ (Field.provide sel f).conditions := by
          rwa [Field.conditions_provide]
        rw [result_countByGroup_of_selection opened hsel hf,
          Store.select_of_unreadable grouped blind]
        rfl

/-! ## Samples -/

/-- The work packages with a subject that is one of some texts. -/
def subjectQuery (texts : List String) : Query :=
  ⟨[⟨.plain "subject", .equals, texts, false⟩], none, .all, []⟩

/-- A quote, a text that is no number and a role make no count fail; U+0000 in a subject does,
unlike in a number. -/
theorem answers_of_readable_sampleSession :
    (∃ n, (sampleSession.count ⟨[⟨.plain "subject", .contains, ["O'Neil"], false⟩,
      ⟨.plain "id", .atLeast, ["a\x00b"], false⟩, ⟨assignedToRole, .equals, ["lead"], false⟩],
        none, .all, []⟩).result = .ok n) ∧
    (sampleSession.count (subjectQuery ["a\x00b"])).result = .error (.store .refused) := by
  have builtIn : Scope.IsBuiltIn .all := by rintro sql ⟨⟩
  constructor
  · refine ((answers_of_readable rfl builtIn (by decide) ?_).1 ?_ ?_).1
    · refine List.forall_mem_cons.mpr ⟨Or.inr ⟨_, rfl⟩, List.forall_mem_cons.mpr
        ⟨Or.inr ⟨_, rfl⟩, List.forall_mem_singleton.mpr (Or.inl rfl)⟩⟩
    · refine List.forall_mem_cons.mpr ⟨⟨?_, ?_⟩, List.forall_mem_cons.mpr
        ⟨⟨?_, ?_⟩, List.forall_mem_singleton.mpr ⟨?_, ?_⟩⟩⟩
      · exact List.forall_mem_singleton.mpr (by decide)
      · rintro ⟨-, pattern, same, long⟩
        rw [← Option.some.inj same] at long
        exact absurd long (by decide)
      · exact List.forall_mem_nil _
      · rintro ⟨-, pattern, ⟨⟩, -⟩
      · exact fun _ => by decide
      · exact fun long => long.1 rfl
    · refine List.forall_mem_cons.mpr ⟨nofun, List.forall_mem_cons.mpr
        ⟨nofun, List.forall_mem_singleton.mpr nofun⟩⟩
  · refine ((answers_of_readable rfl builtIn (by decide) ?_).2 ?_).1
    · exact List.forall_mem_singleton.mpr (Or.inr ⟨_, rfl⟩)
    · refine ⟨_, List.mem_cons_self, fun readable => ?_⟩
      exact readable "a\x00b" List.mem_cons_self (by decide)

/-- The sample with a custom field whose number has a sign. -/
def signedRows : List (Store.Table × Store.NewRow) :=
  sampleRows ++ [(.customFields, [("id", .int (-1)), ("name", .text "Size"),
    ("field_format", .text "int")])]

/-- A session on the store of these rows. -/
def signedSession : Session :=
  ⟨.ofStore (Store.ofRows signedRows), .lookingUp, ⟨[(-1, .int)]⟩, .initial, .first⟩

/-- Counts with one filter each that a store refuses: U+0000 in a text, a text that is too long to
be looked for, too many roles, and a custom field whose number has a sign. -/
theorem refused_counts :
    (sampleSession.count (subjectQuery ["a\x00b"])).result = .error (.store .refused) ∧
    ((sampleSession.onStore hiddenStore).count (textQuery (letters 50000))).result =
      .error (.store .refused) ∧
    (sampleSession.count ⟨[⟨assignedToRole, .equals, List.replicate 32767 "1", false⟩], none, .all,
      []⟩).result = .error (.store .refused) ∧
    (Catalog.load signedSession.pool).map Prod.fst = .ok signedSession.catalog ∧
      (signedSession.count ⟨[⟨.custom (-1), .isPresent, [], false⟩], none, .all, []⟩).result =
        .error (.store .refused) := by
  refine ⟨by decide +kernel, ?_, ?_, ?_, by decide +kernel⟩
  · obtain ⟨readable, long⟩ := pattern_letters 50000
    rw [count_textQuery, count_patternSelection_hiddenStore readable long]
    rfl
  · have roles : sampleSession.roleHolders (List.replicate 32767 "1") none = .error .refused := by
      apply roleHolders_refused rfl
      rw [List.length_replicate]
      decide
    have refused : sampleSession.filterPredicate none
        ⟨assignedToRole, .equals, List.replicate 32767 "1", false⟩ = .error (.store .refused) := by
      unfold filterPredicate rolePredicate
      rw [if_pos rfl, if_pos (Or.inl rfl), roles]
    rw [result_count]
    unfold selection
    rw [List.mapM_cons, refused]
    rfl
  · have one : (signedSession.pool.store.customFields.mergeSort fun a b => decide (a.id ≤ b.id)) =
        signedSession.pool.store.customFields := by
      apply List.mergeSort_of_pairwise
      decide +kernel
    unfold Catalog.load
    rw [read_eq_ok rfl]
    simp only [bind, Except.bind]
    rw [one]
    decide +kernel

end Session

end Worklist
