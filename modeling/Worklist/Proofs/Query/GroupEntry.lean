import Worklist.Proofs.Number.Decimal
import Worklist.Proofs.Query.Accepted
import Worklist.Proofs.Query.Histogram
import Worklist.Proofs.Query.Visibility
import Worklist.Proofs.Store.Declared
import Worklist.Proofs.Store.Equality

/-!
# Groups and filters agree

The count of a group is what the query counts with one more filter, the one that asks for the key of
the group. Grouping reads a key from the text of a value, and the filter compares the value with the
text of the key; in columns that hold values of their declared types both tell the same values
apart. One more filter makes a statement deeper, so a store may refuse it where it takes the
grouping.
-/

set_option autoImplicit false

namespace Worklist

open Sql (Column Condition Join Selection)
open Store (Affinity Integrity Record Row Table Value accepts cell columnAffinity found groupsOf
  meets nameable readable sameValue select selectionDepth tooLong valuesOf)

/-! ## Values of declared types -/

namespace Store

/-- Whether all columns hold values of their declared types. -/
def WellTyped (s : Store) : Prop :=
  ∀ t, ∀ r ∈ s.records t, ∀ name, (t.affinity name).declares (r.get name) = true

variable {s : Store}

/-- What a work package has in a column is of the kind that the column is declared with. -/
theorem WellTyped.cell_declared (typed : s.WellTyped) {w : Record} (hw : w ∈ s.workPackages)
    (c : Column) : (columnAffinity c).declares (cell s w c) = true := by
  have missing (a : Affinity) : a.declares .null = true := by
    cases a <;> rfl
  have ofPartner (j : Join) (name : String) : ((joinTable j).affinity name).declares
      (((partner? s j w).map fun r => r.get name).getD .null) = true := by
    cases hp : partner? s j w with
    | none => exact missing _
    | some r => exact typed (joinTable j) r (List.mem_of_find?_eq_some hp) name
  obtain ⟨source, name⟩ := c
  cases source with
  | workPackages => exact typed .workPackages w hw name
  | statuses => exact ofPartner .status name
  | customValues id => exact ofPartner (.customValue id) name
  | other table => exact missing _

/-- It is enough to look at the values that the records hold. -/
theorem wellTyped_of_cells (h : ∀ t, ∀ r ∈ s.records t, ∀ held ∈ r.cells,
    (t.affinity held.1).declares held.2 = true) : s.WellTyped := by
  intro t r hr name
  unfold Record.get
  split_ifs with key
  · have whole : t.affinity name = .integer := by
      rw [key]
      cases t <;> decide
    rw [whole]
    rfl
  · cases found : r.cells.lookup name with
    | none => cases t.affinity name <;> rfl
    | some v =>
      obtain ⟨before, after, split, -⟩ := List.lookup_eq_some_iff.mp found
      apply h t r hr (name, v)
      rw [split]
      exact List.mem_append_right _ List.mem_cons_self

/-- A missing value is taken as one with missing values only. -/
theorem sameValue_null {v w : Value} (same : sameValue v w = true) : v = .null ↔ w = .null := by
  cases v <;> cases w <;> first | exact Iff.rfl | cases same | simp

/-- Declared values that are taken as one are equal, but for real numbers. -/
theorem eq_of_sameValue_declared {a : Affinity} (kind : a ≠ .real) {v w : Value}
    (hv : a.declares v = true) (hw : a.declares w = true) (same : sameValue v w = true) :
    v = w := by
  cases a with
  | real => exact absurd rfl kind
  | integer =>
    rcases Affinity.eq_of_declares_integer hv with rfl | ⟨m, rfl⟩
    · exact ((sameValue_null same).mp rfl).symm
    · rcases Affinity.eq_of_declares_integer hw with rfl | ⟨n, rfl⟩
      · exact (sameValue_null same).mpr rfl
      · rw [sameValue_int.mp same]
  | text =>
    rcases Affinity.eq_of_declares_text hv with rfl | ⟨m, rfl⟩
    · exact ((sameValue_null same).mp rfl).symm
    · rcases Affinity.eq_of_declares_text hw with rfl | ⟨n, rfl⟩
      · exact (sameValue_null same).mpr rfl
      · rw [sameValue_text.mp same]

end Store

/-! ## Keys of declared values -/

/-- A key of a custom field is resolved to a custom field, and no other key is. -/
theorem Catalog.isCustom_of_resolve {catalog : Catalog} {key : FieldKey} {f : Field}
    (resolved : catalog.resolve key = .ok f) : key.isCustom = f.isCustom := by
  cases key with
  | custom id =>
    simp only [resolve] at resolved
    split at resolved
    · rw [← Except.ok.inj resolved]
      rfl
    · cases resolved
  | plain name =>
    simp only [resolve] at resolved
    split_ifs at resolved
    · rw [← Except.ok.inj resolved]
      rfl
    · split at resolved
      · rw [← Except.ok.inj resolved]
        rfl
      · cases resolved

namespace Field

variable {f : Field}

/-- Custom fields hold texts. -/
theorem affinity_of_isCustom (custom : f.isCustom = true) : f.kind.affinity = .text := by
  unfold isCustom at custom
  split at custom
  · rename_i kind
    rw [kind]
    rfl
  · cases custom

/-- Fields of whole numbers that are no custom ones hold whole numbers. -/
theorem affinity_of_isInteger (integer : f.isInteger = true) (plain : f.isCustom = false) :
    f.kind.affinity = .integer := by
  unfold isInteger at integer
  unfold isCustom at plain
  cases kind : f.kind with
  | plain type =>
    rw [kind] at integer
    rw [beq_iff_eq.mp integer]
    rfl
  | status => rfl
  | custom id format =>
    rw [kind] at plain
    cases plain

/-- A value that is shown as a text, and is not dropped as an empty one, has a key of its own. -/
theorem keyOf_ne_null {v : Value} {text : String} (shown : v.text? = some text)
    (kept : (f.isCustom && text.isEmpty) = false) : f.keyOf v ≠ .null := by
  unfold keyOf
  rw [shown, Option.filter_some, kept]
  simp only [Bool.not_false, if_true, GroupKey.decode]
  split
  · split <;> simp
  · simp

/-- Of an attribute, only missing values are read as the key for no value. -/
theorem keyOf_eq_null_iff (plain : f.isCustom = false) {v : Value} :
    f.keyOf v = .null ↔ v = .null := by
  have present {text : String} (shown : v.text? = some text) : f.keyOf v ≠ .null := by
    apply keyOf_ne_null shown
    rw [plain, Bool.false_and]
  cases v with
  | null => exact iff_of_true rfl rfl
  | _ => exact iff_of_false (present rfl) (by simp)

/-- A field of other values than whole numbers reads a text as it is. -/
theorem keyOf_text (other : f.isInteger = false) {text : String}
    (given : f.isCustom = true → text ≠ "") : f.keyOf (.text text) = .text text := by
  have kept : (f.isCustom && text.isEmpty) = false := by
    cases custom : f.isCustom with
    | false => rfl
    | true =>
      rw [Bool.true_and, Bool.eq_false_iff, ne_eq, String.isEmpty_iff]
      exact given custom
  unfold keyOf
  simp only [Value.text?, Option.filter_some, kept, Bool.not_false, if_true, GroupKey.decode, other,
    Bool.false_eq_true, if_false]

/-- In a field of texts the key of a text is that of this text only. -/
theorem keyOf_text_iff (other : f.isInteger = false) {text : String}
    (given : f.isCustom = true → text ≠ "") {v : Value}
    (declared : Affinity.text.declares v = true) : f.keyOf v = .text text ↔ v = .text text := by
  rcases Affinity.eq_of_declares_text declared with rfl | ⟨own, rfl⟩
  · exact iff_of_false (by simp [keyOf_null]) (by simp)
  · by_cases blank : f.isCustom = true ∧ own = ""
    · obtain ⟨custom, rfl⟩ := blank
      rw [keyOf_empty custom]
      apply iff_of_false (by simp)
      intro same
      exact given custom (Value.text.inj same).symm
    · rw [keyOf_text other fun custom empty => blank ⟨custom, empty⟩, GroupKey.text.injEq,
        Value.text.injEq]

/-- In a custom field the missing and the empty values have no key. -/
theorem keyOf_custom_eq_null_iff (custom : f.isCustom = true) {v : Value}
    (declared : Affinity.text.declares v = true) :
    f.keyOf v = .null ↔ v = .null ∨ v = .text "" := by
  rcases Affinity.eq_of_declares_text declared with rfl | ⟨own, rfl⟩
  · exact iff_of_true rfl (Or.inl rfl)
  · by_cases blank : own = ""
    · rw [blank]
      exact iff_of_true (keyOf_empty custom) (Or.inr rfl)
    · have given : own.isEmpty = false := by
        rw [Bool.eq_false_iff, ne_eq, String.isEmpty_iff]
        exact blank
      apply iff_of_false (keyOf_ne_null rfl (by rw [given, Bool.and_false]))
      simp [blank]

/-- In a field of whole numbers the key of a number is that of this number only. -/
theorem keyOf_int_iff (integer : f.isInteger = true) (plain : f.isCustom = false) {k : Int}
    (wide : Number.isInt64 k = true) {v : Value} (declared : Affinity.integer.declares v = true) :
    f.keyOf v = .int k ↔ v = .int k := by
  rcases Affinity.eq_of_declares_integer declared with rfl | ⟨m, rfl⟩
  · exact iff_of_false (by simp [keyOf_null]) (by simp)
  · have read := Number.readInt64?_trim_decimal_iff (m := m) (n := k)
    unfold keyOf
    simp only [Value.text?, Option.filter_some, plain, Bool.false_and, Bool.not_false, if_true,
      GroupKey.decode, integer]
    rw [Value.int.injEq]
    cases own : Number.readInt64? (Text.trim (Number.decimal m).toList) with
    | none =>
      apply iff_of_false (by simp)
      intro same
      rw [own] at read
      exact absurd (read.mpr ⟨same, wide⟩) (by simp)
    | some n =>
      rw [own, Option.some.injEq] at read
      rw [GroupKey.int.injEq, read]
      exact and_iff_left wide

end Field

/-! ## One more filter -/

/-- The query with one more filter. -/
def Query.plus (q : Query) (c : Clause) : Query :=
  { q with filters := q.filters ++ [c] }

/-- What a predicate restricts a selection to finds what the selection finds and the condition is
true of. -/
theorem Store.found_restrict (s : Store) (sel : Selection) {p : Predicate} {condition : Condition}
    (own : p.condition? = some condition) :
    found s (p.restrict sel) = (found s sel).filter fun w => meets s w condition := by
  have conditions : (p.restrict sel).conditions = sel.conditions ++ [condition] := by
    unfold Predicate.restrict
    rw [own]
  unfold found
  rw [conditions, List.filter_filter]
  apply List.filter_congr
  intro w _
  rw [List.all_append, List.all_cons, List.all_nil, Bool.and_true, Bool.and_comm]

/-- Providing a field adds the join that it requires. -/
theorem Field.joins_provide (sel : Selection) (f : Field) :
    (Field.provide sel f).joins = f.requiredJoin?.toList.foldl Join.add sel.joins := by
  unfold provide
  cases f.requiredJoin? <;> rfl

/-- Where a selection is taken with the join of a field, one more condition on the field can only
make it too deep. -/
theorem Store.maxDepth_lt_of_rejected {sel : Selection} {f : Field} {condition : Condition}
    (accepted : accepts (Field.provide sel f) = true) (read : readable condition = true)
    (rejected : accepts (Predicate.restrict sel ⟨some condition, f.requiredJoin?.toList⟩) = false) :
    maxDepth < selectionDepth
      (Predicate.restrict sel ⟨some condition, f.requiredJoin?.toList⟩) := by
  obtain ⟨conditions, named, tables, -⟩ := accepts_iff.mp accepted
  rw [Field.conditions_provide] at conditions
  rw [Field.joins_provide] at named tables
  by_contra flat
  rw [Bool.eq_false_iff] at rejected
  apply rejected
  apply accepts_iff.mpr
  refine ⟨?_, named, tables, Nat.le_of_not_lt flat⟩
  intro c hc
  rcases List.mem_append.mp hc with hc | hc
  · exact conditions c hc
  · rw [List.mem_singleton.mp hc]
    exact read

namespace Session

variable {x : Session} {q : Query} {dimension : FieldKey} {counts : GroupCounts}

/-- A query finds work packages of the store. -/
theorem foundBy_subset (x : Session) (q : Query) : x.foundBy q ⊆ x.pool.store.workPackages := by
  unfold foundBy
  split
  · exact List.filter_subset_self _
  · exact List.nil_subset _

/-- One more filter restricts the selection of a query by its predicate. -/
theorem selection_plus {sel : Selection} (hsel : x.selection q = .ok sel) {c : Clause}
    {p : Predicate} (hp : x.filterPredicate q.project? c = .ok p) :
    x.selection (q.plus c) = .ok (p.restrict sel) := by
  obtain ⟨predicates, own, rfl⟩ := selection_eq_ok_iff.mp hsel
  apply selection_eq_ok_iff.mpr
  refine ⟨predicates ++ [p], ?_, ?_⟩
  · show (q.filters ++ [c]).mapM (x.filterPredicate q.project?) = _
    rw [List.mapM_append, own, List.mapM_cons, List.mapM_nil, hp]
    rfl
  · rw [List.foldl_append]
    rfl

/-- What a grouping that is answered says about the query: the store is open, and it takes the
selection of the query with the join of the dimension. -/
theorem accepts_of_countByGroup (h : Integrity x.pool.store)
    (grouped : (x.countByGroup q dimension).result = .ok counts) :
    ∃ f sel, x.catalog.resolve dimension = .ok f ∧ x.selection q = .ok sel ∧
      x.pool.read = .ok x.pool.store ∧ accepts (Field.provide sel f) = true := by
  rw [result_countByGroup] at grouped
  obtain ⟨f, hf, grouped⟩ := bind_eq_ok_iff.mp grouped
  obtain ⟨sel, hsel, grouped⟩ := bind_eq_ok_iff.mp grouped
  obtain ⟨groups, hgroups, -⟩ := bind_eq_ok_iff.mp grouped
  obtain ⟨s, hs, hgroups⟩ := bind_eq_ok_iff.mp (mapError_eq_ok_iff.mp hgroups)
  obtain rfl : x.pool.store = s := store_of_read hs
  obtain ⟨selected, hselected, -⟩ := bind_eq_ok_iff.mp hgroups
  refine ⟨f, sel, mapError_eq_ok_iff.mp hf, hsel, hs, ?_⟩
  have provided := (provided_selection hsel).provide f
  rcases Store.select_cases x.planner h provided with ⟨accepted, -⟩ | ⟨refused, -⟩
  · exact accepted
  · rw [refused] at hselected
    cases hselected

/-- The count of a key is how many of the work packages that the query finds have a value that is
read as the key, if values that are taken as one do not differ in that. -/
theorem of_countByGroup (h : Integrity x.pool.store)
    (grouped : (x.countByGroup q dimension).result = .ok counts) {f : Field}
    (resolved : x.catalog.resolve dimension = .ok f) {k : GroupKey}
    (respects : ∀ a ∈ x.foundBy q, ∀ b ∈ x.foundBy q,
      sameValue (cell x.pool.store a f.column) (cell x.pool.store b f.column) = true →
      (f.keyOf (cell x.pool.store a f.column) = k ↔
        f.keyOf (cell x.pool.store b f.column) = k)) :
    counts.of k =
      (x.foundBy q).countP fun w => decide (f.keyOf (cell x.pool.store w f.column) = k) := by
  obtain ⟨f', rows, hf', nodup, perm, rfl⟩ := groups_of_countByGroup h grouped
  obtain rfl : f = f' := Except.ok.inj (resolved.symm.trans hf')
  have alike : ∀ v ∈ valuesOf f.column rows, ∀ w ∈ valuesOf f.column rows,
      sameValue v w = true → decide (f.keyOf v = k) = decide (f.keyOf w = k) := by
    intro v hv w hw same
    obtain ⟨a, ha, rfl⟩ := List.mem_map.mp (perm.mem_iff.mp hv)
    obtain ⟨b, hb, rfl⟩ := List.mem_map.mp (perm.mem_iff.mp hw)
    exact decide_eq_decide.mpr (respects a ha b hb same)
  have property := Store.sum_groupsOf nodup (fun text? => decide (GroupKey.decode f
    (text?.filter fun s => !(f.isCustom && s.isEmpty)) = k)) alike
  rw [of_groupCounts]
  refine property.trans ?_
  rw [perm.countP_eq, List.countP_map]
  rfl

/-- Whether the statement of a query is too deep for a store. -/
def TooDeep (x : Session) (q : Query) : Prop :=
  ∃ sel, x.selection q = .ok sel ∧ Store.maxDepth < selectionDepth sel

/-- Whether a query counts a number of work packages, or is refused as its statement is too deep or
because of a text in its filters that is too long. -/
def CountsOrRefused (x : Session) (q : Query) (n : Nat) : Prop :=
  (x.count q).result = .ok n ∨
    (x.count q).result = .error (.store .refused) ∧ (x.TooDeep q ∨ q.HasLongPattern)

/-- A query whose statement is not too deep and that looks for no text that is too long is not
refused. -/
theorem CountsOrRefused.not_refused {q : Query} {n : Nat} (answer : x.CountsOrRefused q n)
    {sel : Selection} (hsel : x.selection q = .ok sel)
    (shallow : selectionDepth sel ≤ Store.maxDepth) (short : ¬q.HasLongPattern) :
    (x.count q).result = .ok n := by
  rcases answer with counted | ⟨-, ⟨sel', hsel', deep⟩ | long⟩
  · exact counted
  · obtain rfl : sel = sel' := Except.ok.inj (hsel.symm.trans hsel')
    exact absurd deep (Nat.not_lt.mpr shallow)
  · exact absurd long short

/-- An open store counts what a query finds, unless it does not take the selection of the query or
meets a pattern that is too long. -/
theorem count_cases (h : Integrity x.pool.store) {q : Query} {sel : Selection}
    (hsel : x.selection q = .ok sel) (isOpen : x.pool.read = .ok x.pool.store) :
    (x.count q).result = .ok (found x.pool.store sel).length ∨
      (x.count q).result = .error (.store .refused) ∧
        (accepts sel = false ∨ ∃ c ∈ sel.conditions, tooLong c = true) := by
  have provided := provided_selection hsel
  have answer : (x.count q).result = ((select x.planner x.pool.store sel).map fun _ =>
      (found x.pool.store sel).length).mapError QueryError.store := by
    rw [result_count, hsel, ← Store.count_eq h provided, isOpen]
    rfl
  rw [answer]
  rcases Store.select_cases x.planner h provided with ⟨-, ok⟩ | ⟨refused, reason⟩
  · left
    rw [ok]
    rfl
  · right
    rw [refused]
    exact ⟨rfl, reason⟩

/-- A query with one more filter on the dimension of a grouping that is answered counts what the
filter is true of among all that the query finds, unless it is refused. -/
theorem count_plus (h : Integrity x.pool.store)
    (grouped : (x.countByGroup q dimension).result = .ok counts) {f : Field}
    (resolved : x.catalog.resolve dimension = .ok f) {c : Clause} (own : c.field = dimension)
    (joins : c.joins f = f.requiredJoin?.toList) {condition : Condition}
    (compiled : c.condition? x.filterContext f = some condition)
    (read : readable condition = true) :
    x.CountsOrRefused (q.plus c)
      ((x.foundBy q).countP fun w => meets x.pool.store w condition) := by
  obtain ⟨f', sel, hf', hsel, isOpen, accepted⟩ := accepts_of_countByGroup h grouped
  obtain rfl : f = f' := Except.ok.inj (resolved.symm.trans hf')
  have hp := filterPredicate_of_resolve (own ▸ resolved) q.project?
  have predicate : c.predicate x.filterContext f = ⟨some condition, f.requiredJoin?.toList⟩ := by
    unfold Clause.predicate
    rw [compiled, joins]
  rw [predicate] at hp
  have hsel' := selection_plus hsel hp
  rcases count_cases h hsel' isOpen with counted | ⟨refused, reason⟩
  · left
    rw [counted, Store.found_restrict _ _ rfl, List.countP_eq_length_filter]
    unfold foundBy
    rw [hsel]
  · right
    refine ⟨refused, ?_⟩
    rcases reason with rejected | long
    -- the grouping has the join of the field already, so only the depth is new
    · left
      exact ⟨_, hsel', Store.maxDepth_lt_of_rejected accepted read rejected⟩
    · right
      exact hasLongPattern_of_selection hsel' long

/-- Adding up groups makes no key that none of them is read as. -/
theorem exists_group_of_mem_groupCounts {f : Field} {groups : List Store.Group}
    {entry : GroupKey × Nat} (h : entry ∈ groupCounts f groups) :
    ∃ g ∈ groups, GroupKey.decode f (groupText? f g) = entry.1 := by
  induction groups using List.reverseRecOn generalizing entry with
  | nil => cases h
  | append_singleton groups g ih =>
    rw [groupCounts_append] at h
    rcases GroupCounts.key_of_mem_add h with own | ⟨old, hold, same⟩
    · exact ⟨g, List.mem_append_right _ (List.mem_singleton.mpr rfl), own.symm⟩
    · obtain ⟨g', hg', key⟩ := ih hold
      exact ⟨g', List.mem_append_left _ hg', key.trans same⟩

/-- Empty text is no key of a custom field. -/
theorem ne_text_empty_of_custom {f : Field} (custom : f.isCustom = true)
    {groups : List Store.Group} {entry : GroupKey × Nat} (h : entry ∈ groupCounts f groups) :
    entry.1 ≠ .text "" := by
  obtain ⟨g, -, key⟩ := exists_group_of_mem_groupCounts h
  rw [← key]
  unfold groupText?
  cases shown : g.text?.filter fun s => !(f.isCustom && s.isEmpty) with
  | none => simp [GroupKey.decode]
  | some text =>
    have kept := (Option.filter_eq_some_iff.mp shown).2
    have nonempty : text ≠ "" := by
      rintro rfl
      rw [custom] at kept
      cases kept
    simp only [GroupKey.decode]
    split
    · split <;> simp [nonempty]
    · simpa using nonempty

/-! ## The entries of a grouping -/

section Entries

variable {f : Field} (h : Integrity x.pool.store) (typed : x.pool.store.WellTyped)
  (grouped : (x.countByGroup q dimension).result = .ok counts)
  (resolved : x.catalog.resolve dimension = .ok f)

include h typed resolved grouped

/-- Where no real numbers are kept, values that are taken as one are read as one key. -/
theorem of_countByGroup_declared (kind : f.kind.affinity ≠ .real) (k : GroupKey) :
    counts.of k =
      (x.foundBy q).countP fun w => decide (f.keyOf (cell x.pool.store w f.column) = k) := by
  apply of_countByGroup h grouped resolved
  intro a ha b hb same
  rw [← Catalog.columnAffinity_of_resolve resolved] at kind
  have declared (w : Record) (hw : w ∈ x.foundBy q) :=
    typed.cell_declared (foundBy_subset x q hw) f.column
  rw [Store.eq_of_sameValue_declared kind (declared a ha) (declared b hb) same]

/-- The filter for missing values counts the group of missing values. -/
theorem count_plus_isBlank :
    x.CountsOrRefused (q.plus (.ofValues dimension .isBlank [])) (counts.of .null) := by
  have column := Catalog.columnAffinity_of_resolve resolved
  have counted : counts.of .null = (x.foundBy q).countP fun w =>
      meets x.pool.store w (Predicate.isBlank f.column (dimension.isCustom || f.isCustom)) := by
    have entry : counts.of .null = (x.foundBy q).countP fun w =>
        decide (f.keyOf (cell x.pool.store w f.column) = .null) := by
      -- an attribute may hold real numbers, which are taken as one with others but are not missing
      cases custom : f.isCustom with
      | true =>
        apply of_countByGroup_declared h typed grouped resolved
        rw [Field.affinity_of_isCustom custom]
        decide
      | false =>
        apply of_countByGroup h grouped resolved
        intro a _ b _ same
        rw [Field.keyOf_eq_null_iff custom, Field.keyOf_eq_null_iff custom]
        exact Store.sameValue_null same
    rw [entry]
    apply List.countP_congr
    intro w hw
    rw [decide_eq_true_iff, Store.meets_isBlank, Catalog.isCustom_of_resolve resolved, Bool.or_self]
    cases custom : f.isCustom with
    | true =>
      have declared := typed.cell_declared (foundBy_subset x q hw) f.column
      rw [column, Field.affinity_of_isCustom custom] at declared
      rw [Field.keyOf_custom_eq_null_iff custom declared]
      simp
    | false =>
      rw [Field.keyOf_eq_null_iff custom]
      simp
  rw [counted]
  exact count_plus h grouped resolved rfl rfl rfl (Predicate.isPlain_isBlank f.column _).1

/-- The filter for a text that is the text of a key counts the group of the key, if the condition
says of each value whether it is read as the key. -/
theorem count_plus_equals (kind : f.kind.affinity ≠ .real) {k : GroupKey}
    (readable : '\x00' ∉ k.label.toList) (value : k ≠ .null) (named : k.label ≠ missingValue)
    (same : ∀ v, f.kind.affinity.declares v = true → v ≠ .null →
      (f.kind.affinity.among [k.label] v = true ↔ f.keyOf v = k)) :
    x.CountsOrRefused (q.plus (.ofValues dimension .equals [.text k.label])) (counts.of k) := by
  have column := Catalog.columnAffinity_of_resolve resolved
  have counted : counts.of k = (x.foundBy q).countP fun w =>
      meets x.pool.store w (Predicate.equals f.column [k.label]) := by
    rw [of_countByGroup_declared h typed grouped resolved kind]
    apply List.countP_congr
    intro w hw
    have declared := typed.cell_declared (foundBy_subset x q hw) f.column
    rw [column] at declared
    rw [decide_eq_true_iff, Store.meets_equals, column, List.mem_singleton]
    by_cases missing : cell x.pool.store w f.column = .null
    · rw [missing]
      apply iff_of_false
      · exact fun null => value null.symm
      · rintro (⟨-, own⟩ | ⟨present, -⟩)
        · exact named own.symm
        · exact present rfl
    · rw [same _ declared missing]
      simp [missing]
  have plain : (Predicate.equals f.column [k.label]).IsPlain :=
    Predicate.isPlain_equals f.column (List.forall_mem_singleton.mpr readable)
  rw [counted]
  exact count_plus h grouped resolved rfl rfl rfl plain.1

/-- The count of a number is what the query counts with a filter for the text of the number, unless
it is refused. -/
theorem count_plus_int (integer : f.isInteger = true) (plain : f.isCustom = false) {k : Int}
    (wide : Number.isInt64 k = true) (other : k ≠ -1) :
    x.CountsOrRefused (q.plus (.ofValues dimension .equals [.text (GroupKey.int k).label]))
      (counts.of (.int k)) := by
  have affinity := Field.affinity_of_isInteger integer plain
  apply count_plus_equals h typed grouped resolved
  · rw [affinity]
    decide
  · exact Number.not_mem_decimal rfl (by decide) k
  · simp
  · intro named
    have same : Number.decimal k = Number.decimal (-1) := named
    exact other (Number.decimal_injective same)
  · intro v declared present
    rw [affinity] at declared ⊢
    obtain ⟨m, rfl⟩ := (Affinity.eq_of_declares_integer declared).resolve_left present
    have among := Affinity.among_decimals (List.forall_mem_singleton.mpr wide) (m := m)
    rw [List.mem_singleton] at among
    rw [Field.keyOf_int_iff integer plain wide declared, Value.int.injEq]
    exact among

/-- The count of a text is what the query counts with a filter for the text, unless it is refused.
-/
theorem count_plus_text (other : f.isInteger = false) (affinity : f.kind.affinity = .text)
    {text : String} (free : '\x00' ∉ text.toList) (named : text ≠ missingValue)
    (given : f.isCustom = true → text ≠ "") :
    x.CountsOrRefused (q.plus (.ofValues dimension .equals [.text (GroupKey.text text).label]))
      (counts.of (.text text)) := by
  apply count_plus_equals h typed grouped resolved
  · rw [affinity]
    decide
  · exact free
  · simp
  · exact named
  · intro v declared present
    rw [affinity] at declared ⊢
    obtain ⟨own, rfl⟩ := (Affinity.eq_of_declares_text declared).resolve_left present
    rw [Field.keyOf_text_iff other given declared, Value.text.injEq]
    exact Affinity.among_text

end Entries

end Session

/-! ## Samples -/

namespace Session

/-- The values of the sample are of the kinds that their columns are declared with. -/
theorem wellTyped_sampleSession : sampleSession.pool.store.WellTyped := by
  apply Store.wellTyped_of_cells
  intro t
  cases t <;> decide +kernel

/-- One work package, without a due date. -/
def deepRows : List (Table × Store.NewRow) :=
  [(.projects, [("name", .text "one")]),
    (.workPackages, [("project_id", .int 1), ("subject", .text "alpha"),
      ("created_at", .text "2024-01-01"), ("updated_at", .text "2024-01-01")])]

/-- A session on the store of these rows. -/
def deepSession : Session :=
  ⟨.ofStore (Store.ofRows deepRows), .lookingUp, ⟨[]⟩, .initial, .first⟩

/-- A query that asks for a subject so often that its statement is as deep as a store can bear. -/
def deepQuery : Query :=
  ⟨List.replicate 997 ⟨.plain "subject", .isPresent, [], false⟩, none, .all, []⟩

end Session

end Worklist
