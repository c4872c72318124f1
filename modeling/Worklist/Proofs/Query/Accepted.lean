import Worklist.Proofs.Query.Composition
import Worklist.Proofs.Text.Search

/-!
# Queries that are answered

A store refuses statements that it cannot read and those that are too large for it. The statement of
one filter is small, so an open store answers it, unless a text cannot stand in a statement or is
too long to be looked for. What it answers are the work packages that the filter is true of.
-/

set_option autoImplicit false

namespace Worklist

open Sql (Condition Join Literal Selection)
open Store (Integrity Record accepts depth found listDepth literalDepth lookupDepth nameable
  readable readableLiteral selectionDepth tooLong)

/-! ## Small statements -/

namespace Store

/-- A lookup inside a condition is at most three deep. -/
theorem lookupDepth_le (c : Condition) : lookupDepth c ≤ 3 := by
  induction c with
  | both a b iha ihb =>
    unfold lookupDepth
    omega
  | either a b iha ihb =>
    unfold lookupDepth
    omega
  | grouped a ih => exact ih
  | _ => simp [lookupDepth]

/-- The condition of a join is at most four deep. -/
theorem joinDepth_le (j : Join) : joinDepth j ≤ 4 := by
  cases j with
  | status => exact Nat.le_succ 3
  | customValue id => exact Nat.le_refl 4

/-- The greatest of some numbers is bounded by what bounds each of them. -/
theorem foldl_max_le {bound : Nat} {l : List Nat} (h : ∀ n ∈ l, n ≤ bound) {start : Nat}
    (hstart : start ≤ bound) : l.foldl max start ≤ bound := by
  induction l generalizing start with
  | nil => exact hstart
  | cons n l ih =>
    obtain ⟨first, rest⟩ := List.forall_mem_cons.mp h
    exact ih rest (Nat.max_le.mpr ⟨hstart, first⟩)

/-- Each further part lies one deeper than the deepest of those before it. -/
theorem foldl_depth_le {parts : List Nat} {bound : Nat} (h : ∀ d ∈ parts, d ≤ bound) {start : Nat}
    (hstart : start ≤ bound) :
    parts.foldl (fun d part => max d part + 1) start ≤ bound + parts.length := by
  induction parts generalizing start bound with
  | nil => exact hstart
  | cons d parts ih =>
    obtain ⟨first, rest⟩ := List.forall_mem_cons.mp h
    have deeper : max start d + 1 ≤ bound + 1 := by omega
    have step := ih (fun e he => Nat.le_succ_of_le (rest e he)) deeper
    rw [List.foldl_cons, List.length_cons]
    omega

/-- The depth of a selection is at most that of its deepest part, and as much more as it has
parts. -/
theorem selectionDepth_le {sel : Selection} {bound : Nat} (join : 4 ≤ bound)
    (h : ∀ c ∈ sel.conditions, depth c ≤ bound) :
    selectionDepth sel ≤ bound + sel.conditions.length + sel.joins.length + 3 := by
  have each : ∀ d ∈ sel.conditions.map depth ++ sel.joins.map joinDepth, d ≤ bound := by
    intro d hd
    rcases List.mem_append.mp hd with hd | hd
    · obtain ⟨c, hc, rfl⟩ := List.mem_map.mp hd
      exact h c hc
    · obtain ⟨j, -, rfl⟩ := List.mem_map.mp hd
      exact Nat.le_trans (joinDepth_le j) join
  have lookups : (sel.conditions.map lookupDepth).foldl max 0 ≤ 3 := by
    apply foldl_max_le ?_ (Nat.zero_le 3)
    intro d hd
    obtain ⟨c, -, rfl⟩ := List.mem_map.mp hd
    exact lookupDepth_le c
  have count : (sel.conditions.map depth ++ sel.joins.map joinDepth).length =
      sel.conditions.length + sel.joins.length := by
    rw [List.length_append, List.length_map, List.length_map]
  unfold selectionDepth
  dsimp only
  generalize sel.conditions.map depth ++ sel.joins.map joinDepth = parts at each count
  -- the first part has no other above it, so the bound counts one part too many
  cases parts with
  | nil => exact Nat.zero_le _
  | cons first rest =>
    obtain ⟨hfirst, hrest⟩ := List.forall_mem_cons.mp each
    have deep := foldl_depth_le hrest hfirst
    rw [List.length_cons] at count
    show rest.foldl (fun d part => max d part + 1) first + _ ≤ _
    omega

/-- A store takes statements on a selection if it can read each condition and each join, and the
tables and the depth are within their limits. -/
theorem accepts_iff {sel : Selection} :
    accepts sel = true ↔ (∀ c ∈ sel.conditions, readable c = true) ∧
      (∀ j ∈ sel.joins, nameable j = true) ∧ sel.joins.length + 1 ≤ maxTables ∧
        selectionDepth sel ≤ maxDepth := by
  unfold accepts
  simp only [Bool.and_eq_true, List.all_eq_true, decide_eq_true_eq, and_assoc]

/-- A selection of few parts, none of which is deep, is taken if it can be read. -/
theorem accepts_of_small {sel : Selection} (read : ∀ c ∈ sel.conditions, readable c = true)
    (named : ∀ j ∈ sel.joins, nameable j = true) (flat : ∀ c ∈ sel.conditions, depth c ≤ 900)
    (few : sel.conditions.length + sel.joins.length ≤ 60) : accepts sel = true := by
  have deep := selectionDepth_le (by decide) flat
  apply accepts_iff.mpr
  refine ⟨read, named, ?_, ?_⟩
  · unfold maxTables
    omega
  · unfold maxDepth
    omega

/-- A constant is at most two deep. -/
theorem literalDepth_le (l : Literal) : literalDepth l ≤ 2 := by
  have sign (p : Prop) [Decidable p] : (if p then 2 else 1) ≤ 2 := by
    split_ifs <;> omega
  cases l with
  | number x => exact sign (x.negative = true)
  | whole n => exact sign (n < 0)
  | text _ | boolean _ => exact Nat.le_succ 1

/-- A list lies at most one above its deepest constant, as one that is alone has a sign above it. -/
theorem listDepth_le {values : List Literal} {bound : Nat}
    (h : ∀ l ∈ values, literalDepth l ≤ bound) : listDepth values ≤ bound + 1 := by
  have flat : values.foldl (fun d l => max d (literalDepth l)) 0 ≤ bound := by
    have each : ∀ d ∈ values.map literalDepth, d ≤ bound := by
      intro d hd
      obtain ⟨l, hl, rfl⟩ := List.mem_map.mp hd
      exact h l hl
    have bounded := foldl_max_le each (Nat.zero_le bound)
    rwa [List.foldl_map] at bounded
  match values, h, flat with
  | [], _, _ => exact Nat.zero_le _
  | [l], h, _ => exact Nat.succ_le_succ (h l List.mem_cons_self)
  | _ :: _ :: _, _, flat => exact Nat.le_succ_of_le flat

/-- A list of texts is at most four deep. -/
theorem depth_oneOf_texts_le (c : Sql.Column) (negated : Bool) (texts : List String) :
    depth (.oneOf c negated (texts.map .text)) ≤ 4 := by
  have list : listDepth (texts.map .text) ≤ 2 := by
    apply listDepth_le
    intro l hl
    obtain ⟨text, -, rfl⟩ := List.mem_map.mp hl
    exact Nat.le_refl 1
  have sign : negationDepth negated ≤ 1 := by
    cases negated <;> decide
  show max 2 (listDepth (texts.map .text)) + 1 + negationDepth negated ≤ 4
  omega

/-- A text can stand in a statement if it is free of U+0000. -/
theorem readableLiteral_text {text : String} :
    readableLiteral (.text text) = true ↔ '\x00' ∉ text.toList := by
  simp [readableLiteral]

end Store

/-! ## Conditions of one filter -/

/-- Whether a condition can be read and is flat enough to stand in a statement with many others. -/
def Sql.Condition.IsPlain (c : Condition) : Prop :=
  readable c = true ∧ Store.depth c ≤ 6

namespace Predicate

variable (c : Sql.Column) {values : List String}

/-- Texts that are free of U+0000 can stand in a statement together. -/
theorem readable_texts (h : ∀ v ∈ values, '\x00' ∉ v.toList) :
    (values.map Literal.text).all readableLiteral = true := by
  rw [List.all_map, List.all_eq_true]
  intro v hv
  exact Store.readableLiteral_text.mpr (h v hv)

/-- Equality with texts that are free of U+0000 is plain. -/
theorem isPlain_equals (h : ∀ v ∈ values, '\x00' ∉ v.toList) : (equals c values).IsPlain := by
  have deep := Store.depth_oneOf_texts_le c false values
  have constants := readable_texts h
  unfold equals
  dsimp only
  split_ifs
  · exact ⟨rfl, by simp [depth]⟩
  · refine ⟨constants, ?_⟩
    show max 3 (depth (.oneOf c false (values.map .text))) + 1 ≤ 6
    omega
  · exact ⟨constants, Nat.le_trans deep (by decide)⟩

/-- Inequality with texts that are free of U+0000 is plain. -/
theorem isPlain_notEquals (h : ∀ v ∈ values, '\x00' ∉ v.toList) :
    (notEquals c values).IsPlain := by
  have deep := Store.depth_oneOf_texts_le c true values
  unfold notEquals
  split_ifs
  · exact ⟨rfl, by simp [depth]⟩
  · refine ⟨readable_texts h, ?_⟩
    show max 3 (depth (.oneOf c true (values.map .text))) + 1 ≤ 6
    omega

/-- The condition for blank values is plain. -/
theorem isPlain_isBlank (dynamic : Bool) : (isBlank c dynamic).IsPlain := by
  cases dynamic with
  | false => exact ⟨rfl, Nat.le_add_left 3 3⟩
  | true => exact ⟨rfl, Nat.le_add_left 4 2⟩

/-- The condition for present values is plain. -/
theorem isPlain_isPresent (dynamic : Bool) : (isPresent c dynamic).IsPlain := by
  cases dynamic with
  | false => exact ⟨rfl, Nat.le_add_left 3 3⟩
  | true => exact ⟨rfl, Nat.le_add_left 4 2⟩

/-- The search for a text that is free of U+0000 is plain. -/
theorem isPlain_contains {value : String} (h : '\x00' ∉ value.toList) (negated : Bool) :
    (contains c negated value).IsPlain := by
  have pattern : readableLiteral (.text (Text.searchPattern value)) = true := by
    rw [Store.readableLiteral_text, Text.toList_searchPattern]
    simp [Text.not_mem_lowerAfter h []]
  refine ⟨pattern, ?_⟩
  cases negated with
  | false => exact Nat.le_add_left 4 2
  | true => exact Nat.le_add_left 5 1

/-- The condition on the flag of the status is plain. -/
theorem isPlain_statusFlag {f : Field} {closed : Bool} {condition : Condition}
    (h : statusFlag? f closed = some condition) : condition.IsPlain := by
  unfold statusFlag? at h
  split_ifs at h
  rw [← Option.some.inj h]
  exact ⟨rfl, Nat.le_add_left 3 3⟩

end Predicate

/-- The operators that come in pairs of opposites. -/
def Operator.paired : List Operator :=
  [.equals, .notEquals, .isBlank, .isPresent, .contains, .notContains, .openStatus, .closedStatus]

/-- A paired operator has a plain condition if its values are free of U+0000. -/
theorem Clause.isPlain_condition {c : Clause} (paired : c.operator ∈ Operator.paired)
    (texts : ∀ v ∈ c.values, '\x00' ∉ v.toList) {context : FilterContext} {f : Field}
    {condition : Condition} (h : c.condition? context f = some condition) : condition.IsPlain := by
  have first : '\x00' ∉ c.firstValue.toList := by
    unfold firstValue
    cases hv : c.values with
    | nil => simp
    | cons v vs => exact texts v (by rw [hv]; exact List.mem_cons_self)
  unfold condition? at h
  simp only [Operator.paired, List.mem_cons, List.not_mem_nil, or_false] at paired
  rcases paired with op | op | op | op | op | op | op | op <;> simp only [op] at h
  · exact Option.some.inj h ▸ Predicate.isPlain_equals f.column texts
  · exact Option.some.inj h ▸ Predicate.isPlain_notEquals f.column texts
  · exact Option.some.inj h ▸ Predicate.isPlain_isBlank f.column _
  · exact Option.some.inj h ▸ Predicate.isPlain_isPresent f.column _
  · exact Option.some.inj h ▸ Predicate.isPlain_contains f.column first false
  · exact Option.some.inj h ▸ Predicate.isPlain_contains f.column first true
  · exact Predicate.isPlain_statusFlag h
  · exact Predicate.isPlain_statusFlag h

/-- Adding joins makes no more of them than there are together. -/
theorem Sql.Join.length_foldl_add_le (joins added : List Join) :
    (added.foldl Join.add joins).length ≤ joins.length + added.length := by
  induction added generalizing joins with
  | nil => exact Nat.le_refl _
  | cons j added ih =>
    have rest := ih (Join.add joins j)
    have step : (Join.add joins j).length ≤ joins.length + 1 := by
      unfold Join.add
      split_ifs
      · exact Nat.le_succ _
      · rw [List.length_append, List.length_singleton]
    rw [List.foldl_cons, List.length_cons]
    omega

/-- A clause has at most two joins: the status, and what its field needs. -/
theorem Clause.joins_of_field (c : Clause) (f : Field) :
    (c.joins f).length ≤ 2 ∧ ∀ j ∈ c.joins f, j = .status ∨ f.requiredJoin? = some j := by
  have own : f.requiredJoin?.toList.length ≤ 1 := by
    cases f.requiredJoin? <;> simp
  have added : (Join.add f.requiredJoin?.toList .status).length ≤ 2 := by
    unfold Join.add
    split_ifs
    · exact Nat.le_succ_of_le own
    · rw [List.length_append, List.length_singleton]
      exact Nat.succ_le_succ own
  have ofOwn : ∀ j ∈ f.requiredJoin?.toList, j = .status ∨ f.requiredJoin? = some j := by
    intro j hj
    exact Or.inr (Option.mem_toList.mp hj)
  have ofAdded : ∀ j ∈ Join.add f.requiredJoin?.toList .status,
      j = .status ∨ f.requiredJoin? = some j := by
    intro j hj
    rcases Join.mem_add.mp hj with hj | hj
    · exact ofOwn j hj
    · exact Or.inl hj
  unfold joins
  cases c.operator with
  | closedStatus | openStatus => exact ⟨added, ofAdded⟩
  | _ => exact ⟨Nat.le_succ_of_le own, ofOwn⟩

/-- The condition of a built-in scope is plain and has no pattern that is too long. -/
theorem Scope.isPlain_condition {scope : Scope} (builtIn : scope.IsBuiltIn) :
    scope.condition.IsPlain ∧ tooLong scope.condition = false := by
  cases scope with
  | all => exact ⟨⟨rfl, Nat.le_add_left 2 4⟩, rfl⟩
  | none => exact ⟨⟨rfl, Nat.le_add_left 2 4⟩, rfl⟩
  | projects ids =>
    cases ids with
    | nil => exact ⟨⟨rfl, Nat.le_add_left 2 4⟩, rfl⟩
    | cons id ids =>
      have deep : listDepth ((id :: ids).map .whole) ≤ 3 :=
        Store.listDepth_le fun l _ => Store.literalDepth_le l
      refine ⟨⟨?_, ?_⟩, rfl⟩
      · show ((id :: ids).map Literal.whole).all readableLiteral = true
        rw [List.all_map, List.all_eq_true]
        exact fun _ _ => rfl
      · show max 2 (listDepth ((id :: ids).map .whole)) + 1 + 0 ≤ 6
        omega
  | memberOf user => exact ⟨⟨rfl, Nat.le_add_left 4 2⟩, rfl⟩
  | trusted sql => exact absurd rfl (builtIn sql)

/-- Before its filters a query with a built-in scope has plain conditions only. -/
theorem Query.isPlain_baseSelection {q : Query} (builtIn : q.scope.IsBuiltIn) :
    ∀ c ∈ q.baseSelection.conditions, c.IsPlain ∧ tooLong c = false := by
  intro c hc
  rcases List.mem_cons.mp hc with rfl | hc
  · exact Scope.isPlain_condition builtIn
  · obtain ⟨id, -, rfl⟩ := List.mem_map.mp hc
    refine ⟨⟨rfl, ?_⟩, rfl⟩
    have deep := Store.literalDepth_le (.whole id)
    show max 2 (literalDepth (.whole id)) + 1 ≤ 6
    omega

/-- Before its filters a query has at most two conditions. -/
theorem Query.length_baseSelection (q : Query) : q.baseSelection.conditions.length ≤ 2 := by
  unfold baseSelection
  cases q.project? <;> simp

/-- A predicate whose statement a store answers: its condition is plain and looks for no text that
is too long, and its few joins have names. -/
structure Predicate.Answerable (p : Predicate) : Prop where
  plain : ∀ c, p.condition? = some c → c.IsPlain ∧ tooLong c = false
  named : ∀ j ∈ p.joins, nameable j = true
  few : p.joins.length ≤ 2

namespace Predicate.Answerable

variable {p : Predicate} {sel : Selection}

/-- The conditions of a selection stay plain and short when an answerable predicate is added. -/
theorem conditions_restrict (h : p.Answerable)
    (base : ∀ c ∈ sel.conditions, c.IsPlain ∧ tooLong c = false) :
    ∀ c ∈ (p.restrict sel).conditions, c.IsPlain ∧ tooLong c = false := by
  intro c mem
  unfold restrict at mem
  split at mem
  · exact base c mem
  · rename_i own same
    rcases List.mem_append.mp mem with mem | mem
    · exact base c mem
    · rw [List.mem_singleton.mp mem]
      exact h.plain own same

/-- Few plain conditions on work packages can be restricted further. -/
theorem accepts_restrict (h : p.Answerable)
    (base : ∀ c ∈ sel.conditions, c.IsPlain ∧ tooLong c = false) (alone : sel.joins = [])
    (few : sel.conditions.length ≤ 2) : accepts (p.restrict sel) = true := by
  have plain := h.conditions_restrict base
  have joins : (∀ j ∈ (p.restrict sel).joins, j ∈ p.joins) ∧
      (p.restrict sel).joins.length ≤ 2 ∧ (p.restrict sel).conditions.length ≤ 3 := by
    unfold restrict
    split
    · rw [alone]
      exact ⟨List.forall_mem_nil _, Nat.zero_le 2, Nat.le_succ_of_le few⟩
    · have length := Join.length_foldl_add_le sel.joins p.joins
      rw [alone] at length ⊢
      have own := h.few
      refine ⟨?_, ?_, ?_⟩
      · intro j hj
        exact (Join.mem_foldl_add.mp hj).resolve_left List.not_mem_nil
      · rw [List.length_nil] at length
        show (p.joins.foldl Join.add []).length ≤ 2
        omega
      · rw [List.length_append, List.length_singleton]
        omega
  obtain ⟨own, fewJoins, fewConditions⟩ := joins
  apply Store.accepts_of_small
  · intro c hc
    exact (plain c hc).1.1
  · intro j hj
    exact h.named j (own j hj)
  · intro c hc
    exact Nat.le_trans (plain c hc).1.2 (by decide)
  · omega

end Predicate.Answerable

/-- The predicate of a clause is answerable if its condition is plain, if it looks for no text that
is too long and if the field is in a table with a name. -/
theorem Clause.answerable_of_isPlain {c : Clause} {context : FilterContext} {f : Field}
    (plain : ∀ condition, c.condition? context f = some condition → condition.IsPlain)
    (short : ∀ pattern, c.pattern? = some pattern → pattern.utf8ByteSize ≤ Store.maxPatternBytes)
    (named : ∀ j, f.requiredJoin? = some j → nameable j = true) :
    (c.predicate context f).Answerable := by
  have joins : (c.predicate context f).joins = c.joins f ∨
      (c.predicate context f).joins = [] := by
    unfold predicate
    cases c.condition? context f with
    | none => exact Or.inr rfl
    | some condition => exact Or.inl rfl
  obtain ⟨few, own⟩ := c.joins_of_field f
  constructor
  · intro condition compiled
    rw [predicate_condition?] at compiled
    refine ⟨plain condition compiled, ?_⟩
    rw [Bool.eq_false_iff]
    intro long
    obtain ⟨pattern, hpattern, beyond⟩ := pattern?_of_tooLong compiled long
    exact absurd (short pattern hpattern) (Nat.not_le.mpr beyond)
  · intro j hj
    rcases joins with same | none
    · rw [same] at hj
      rcases own j hj with rfl | required
      · rfl
      · exact named j required
    · rw [none] at hj
      cases hj
  · rcases joins with same | none
    · rw [same]
      exact few
    · rw [none]
      exact Nat.zero_le 2

/-- The predicate of one of the paired operators is answerable if its texts are, and if the field is
in a table with a name. -/
theorem Clause.answerable {c : Clause} (paired : c.operator ∈ Operator.paired)
    (texts : ∀ v ∈ c.values, '\x00' ∉ v.toList)
    (short : ∀ pattern, c.pattern? = some pattern → pattern.utf8ByteSize ≤ Store.maxPatternBytes)
    {f : Field} (named : ∀ j, f.requiredJoin? = some j → nameable j = true)
    (context : FilterContext) : (c.predicate context f).Answerable :=
  answerable_of_isPlain (fun _ compiled => isPlain_condition paired texts compiled) short named

/-- A work package meets the predicate of a clause if it meets its condition. -/
theorem Clause.meetsPredicate_iff {s : Store} {w : Record} {c : Clause} {context : FilterContext}
    {f : Field} {condition : Condition} (compiled : c.condition? context f = some condition) :
    s.MeetsPredicate w (c.predicate context f) ↔ Store.meets s w condition = true := by
  unfold Store.MeetsPredicate
  rw [predicate_condition?, compiled]
  constructor
  · intro each
    exact each condition rfl
  · intro met other same
    rwa [← Option.some.inj same]

/-! ## Answers -/

namespace Session

/-- The filter by roles is no field. -/
theorem ne_assignedToRole {catalog : Catalog} {key : FieldKey} {f : Field}
    (resolved : catalog.resolve key = .ok f) : key ≠ assignedToRole := by
  rintro rfl
  cases resolved

/-- A filter on a field of the catalog has the predicate of its clause. -/
theorem filterPredicate_of_resolve {x : Session} {c : Clause} {f : Field}
    (resolved : x.catalog.resolve c.field = .ok f) (project? : Option Int) :
    x.filterPredicate project? c = .ok (c.predicate x.filterContext f) := by
  unfold filterPredicate
  rw [if_neg (ne_assignedToRole resolved), resolved]

/-- An open store answers a query whose selection it takes and that looks for no text that is too
long. -/
theorem matching_eq_ok {x : Session} (h : Integrity x.pool.store) (opened : x.pool.isOpen = true)
    {q : Query} {sel : Selection} (hsel : x.selection q = .ok sel) (accepted : accepts sel = true)
    (short : ∀ c ∈ sel.conditions, tooLong c = false) :
    x.matching q = .ok ((found x.pool.store sel).map Record.id).toFinset := by
  have rows :
      Store.select x.planner x.pool.store sel = .ok (Store.foundRows x.pool.store sel) := by
    rcases Store.select_cases x.planner h (provided_selection hsel)
      with ⟨-, ok⟩ | ⟨-, rejected | long⟩
    · exact ok
    · rw [accepted] at rejected
      cases rejected
    · obtain ⟨c, hc, long⟩ := long
      rw [short c hc] at long
      cases long
  unfold matching
  rw [hsel]
  apply mapError_eq_ok_iff.mpr
  rw [read_eq_ok opened]
  show (Store.select x.planner x.pool.store sel).map _ = _
  rw [rows]
  exact congrArg (fun ids => Except.ok ids.toFinset) (Store.ids_foundRows x.pool.store sel)

/-- A work package is found if its `id` is among those found. -/
theorem mem_ids_iff {s : Store} (h : Integrity s) {sel : Selection} {w : Record}
    (hw : w ∈ s.workPackages) :
    w.id ∈ ((found s sel).map Record.id).toFinset ↔ w ∈ found s sel := by
  rw [mem_idsOf]
  constructor
  · rintro ⟨v, hv, same, mem⟩
    rwa [h.eq_of_id_eq (t := .workPackages) hv hw same] at mem
  · intro mem
    exact ⟨w, hw, rfl, mem⟩

/-- An open store answers a query with one filter that is answerable: it finds what the scope and
the project admit and the filter is true of. -/
theorem matching_singleton {x : Session} (h : Integrity x.pool.store)
    (opened : x.pool.isOpen = true) {c : Clause} {project? : Option Int} {scope : Scope}
    (builtIn : scope.IsBuiltIn) (order : List SortKey) {p : Predicate}
    (hp : x.filterPredicate project? c = .ok p) (answerable : p.Answerable) :
    ∃ ids, x.matching ⟨[c], project?, scope, order⟩ = .ok ids ∧
      ∀ w ∈ x.pool.store.workPackages, w.id ∈ ids ↔
        (scope.Admits x.pool.store w ∧ FromProject project? w) ∧
          x.pool.store.MeetsPredicate w p := by
  have hsel : x.selection ⟨[c], project?, scope, order⟩ =
      .ok (p.restrict (Query.baseSelection ⟨[c], project?, scope, order⟩)) := by
    apply selection_eq_ok_iff.mpr
    refine ⟨[p], ?_, rfl⟩
    rw [List.mapM_cons, List.mapM_nil, hp]
    rfl
  have base := Query.isPlain_baseSelection (q := ⟨[c], project?, scope, order⟩) builtIn
  have none : (Query.baseSelection ⟨[c], project?, scope, order⟩).joins = [] := rfl
  have length := Query.length_baseSelection ⟨[c], project?, scope, order⟩
  have accepted := answerable.accepts_restrict base none length
  have ids := matching_eq_ok h opened hsel accepted fun c hc =>
    (answerable.conditions_restrict base c hc).2
  refine ⟨_, ids, ?_⟩
  intro w hw
  rw [mem_ids_iff h hw, mem_found_selection h builtIn hsel hw]
  refine and_congr_right fun _ => ?_
  constructor
  · intro each
    exact each c List.mem_cons_self p hp
  · intro meets d hd p' hp'
    rw [List.mem_singleton.mp hd, hp] at hp'
    rwa [← Except.ok.inj hp']

end Session

end Worklist
