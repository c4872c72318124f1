import Mathlib.Data.List.Sort
import Worklist.Proofs.Store.Joined
import Worklist.Store.Select

/-!
# What a selection finds

A condition reads a work package only through the columns that it names, so whether it is true of a
work package does not depend on what else is joined. A selection therefore finds the work packages
that meet each of its conditions, each in one row, in whatever order the conditions are tested; or
it is refused, because the store cannot take it or because of a pattern that is too long.
-/

set_option autoImplicit false

namespace Worklist.Sql

/-- The joins that make the columns of a condition available. -/
def Condition.joins (c : Condition) : List Join :=
  c.columns.filterMap fun column => column.source.join?

/-- Whether a selection joins every table that its conditions read. -/
def Selection.Provided (sel : Selection) : Prop :=
  ∀ c ∈ sel.conditions, ∀ column ∈ c.columns, column.Provided sel.joins

/-- The joins of a condition provide all columns that it reads. -/
theorem Condition.provided_joins (c : Condition) :
    ∀ column ∈ c.columns, column.Provided c.joins :=
  fun column hcolumn _ hj => List.mem_filterMap.mpr ⟨column, hcolumn, hj⟩

end Worklist.Sql

namespace Worklist.Store

open Sql (Column Condition Join Operand Selection)

/-! ## Conditions on a work package -/

/-- The comparison of an operand reads its column only. -/
theorem compareWith_congr {row row' : Row} {o : Operand} (h : row.get o.read = row'.get o.read)
    (r : Sql.Comparison) (l : Sql.Literal) : compareWith row o r l = compareWith row' o r l := by
  have value : operandValue row o = operandValue row' o := by
    cases o with
    | column c => exact h
    | decimal c => exact congrArg Value.castNumber h
  unfold compareWith
  rw [value]

/-- A condition says the same about rows that agree in the columns that it reads. -/
theorem truth_congr (s : Store) {row row' : Row} (c : Condition)
    (h : ∀ column ∈ c.columns, row.get column = row'.get column) :
    truth s row c = truth s row' c := by
  induction c with
  | constant holds => rfl
  | isNull c negated => simp only [truth, h c (List.mem_singleton.mpr rfl)]
  | compare o r l => exact compareWith_congr (h o.read (List.mem_singleton.mpr rfl)) r l
  | oneOf c negated values =>
    have read : row.get (Operand.column c).read = row'.get (Operand.column c).read :=
      h c (List.mem_singleton.mpr rfl)
    simp only [truth, funext (compareWith_congr read .eq)]
  | projectOfMember c user => simp only [truth, h c (List.mem_singleton.mpr rfl)]
  | like c negated pattern => simp only [truth, h c (List.mem_singleton.mpr rfl)]
  | between c lower upper =>
    have read : row.get (Operand.column c).read = row'.get (Operand.column c).read :=
      h c (List.mem_singleton.mpr rfl)
    simp only [truth, compareWith_congr read]
  | both a b iha ihb =>
    simp only [truth]
    rw [iha fun c hc => h c (List.mem_append_left _ hc),
      ihb fun c hc => h c (List.mem_append_right _ hc)]
  | either a b iha ihb =>
    simp only [truth]
    rw [iha fun c hc => h c (List.mem_append_left _ hc),
      ihb fun c hc => h c (List.mem_append_right _ hc)]
  | grouped a ih => exact ih h
  | verbatim sql => rfl

/-- Whether a condition is true of a work package, with the tables joined that it reads. -/
def meets (s : Store) (workPackage : Record) (c : Condition) : Bool :=
  (truth s (completed s c.joins workPackage) c).holds

/-- Whatever else is joined, a condition is true of a work package or is not. -/
theorem holds_truth_completed (s : Store) {joins : List Join} (workPackage : Record) {c : Condition}
    (h : ∀ column ∈ c.columns, column.Provided joins) :
    (truth s (completed s joins workPackage) c).holds = meets s workPackage c := by
  unfold meets
  rw [truth_congr s c]
  intro column hcolumn
  rw [get_completed s workPackage (h column hcolumn),
    get_completed s workPackage (c.provided_joins column hcolumn)]

/-! ## Testing a row -/

/-- A row that is tested satisfies the conditions if all of them are true of it. The test fails only
at a pattern that is too long. -/
theorem satisfies_cases (s : Store) (row : Row) (conditions : List Condition) :
    satisfies s row conditions = .ok (conditions.all fun c => (truth s row c).holds) ∨
      satisfies s row conditions = .error .refused ∧ ∃ c ∈ conditions, tooLong c = true := by
  induction conditions with
  | nil => exact Or.inl rfl
  | cons c rest ih =>
    rw [satisfies, List.all_cons]
    cases hlong : tooLong c with
    | true => exact Or.inr ⟨rfl, c, List.mem_cons_self, hlong⟩
    | false =>
      cases hc : (truth s row c).holds with
      -- the rest is not tested, so a pattern in it plays no role
      | false => exact Or.inl rfl
      | true =>
        rcases ih with ok | ⟨refused, d, hd, hlong⟩
        · exact Or.inl (by rw [ok]; rfl)
        · exact Or.inr ⟨by rw [refused]; rfl, d, List.mem_cons_of_mem c hd, hlong⟩

/-- The rows that pass the test are those that satisfy the conditions, if the test does not fail. -/
theorem satisfying_cases (s : Store) (conditions : List Condition) (rows : List Row) :
    satisfying s conditions rows =
        .ok (rows.filter fun row => conditions.all fun c => (truth s row c).holds) ∨
      satisfying s conditions rows = .error .refused ∧ ∃ c ∈ conditions, tooLong c = true := by
  induction rows with
  | nil => exact Or.inl rfl
  | cons row rest ih =>
    rw [satisfying, List.filter_cons]
    rcases satisfies_cases s row conditions with ok | ⟨refused, long⟩
    · rw [ok]
      rcases ih with okRest | ⟨refusedRest, long⟩
      · rw [okRest]
        exact Or.inl rfl
      · rw [refusedRest]
        exact Or.inr ⟨rfl, long⟩
    · rw [refused]
      exact Or.inr ⟨rfl, long⟩

/-- Rows that fail the first test are not tested any further. -/
theorem satisfying_of_first_fails {s : Store} {c : Condition} {rest : List Condition}
    {rows : List Row} (short : tooLong c = false)
    (fails : ∀ row ∈ rows, (truth s row c).holds = false) :
    satisfying s (c :: rest) rows = .ok [] := by
  induction rows with
  | nil => rfl
  | cons row rows ih =>
    have hrow : satisfies s row (c :: rest) = .ok false := by
      rw [satisfies, short, fails row List.mem_cons_self]
      rfl
    rw [satisfying, hrow, ih fun r hr => fails r (List.mem_cons_of_mem row hr)]
    rfl

/-- One row whose test fails is enough to fail the test of all. -/
theorem satisfying_of_refused {s : Store} {conditions : List Condition} {rows : List Row}
    {row : Row} (mem : row ∈ rows) (refused : satisfies s row conditions = .error .refused) :
    satisfying s conditions rows = .error .refused := by
  induction rows with
  | nil => exact absurd mem List.not_mem_nil
  | cons first rows ih =>
    rw [satisfying]
    rcases satisfies_cases s first conditions with ok | ⟨refusedFirst, -⟩
    · have other : row ∈ rows := by
        refine (List.mem_cons.mp mem).resolve_left ?_
        rintro rfl
        rw [ok] at refused
        cases refused
      rw [ok, ih other]
      rfl
    · rw [refusedFirst]
      rfl

/-! ## Selections -/

/-- The work packages that meet each condition of a selection. -/
def found (s : Store) (sel : Selection) : List Record :=
  s.workPackages.filter fun workPackage => sel.conditions.all (meets s workPackage)

/-- The rows of a selection: what it finds, each work package once with its joins. -/
def foundRows (s : Store) (sel : Selection) : List Row :=
  (found s sel).map (completed s sel.joins)

/-- A selection that is taken has the rows of what it finds. It is refused only if the store cannot
take it, or at a pattern that is too long. -/
theorem select_cases (p : Planner) {s : Store} (h : Integrity s) {sel : Selection}
    (provided : sel.Provided) :
    accepts sel = true ∧ select p s sel = .ok (foundRows s sel) ∨
      select p s sel = .error .refused ∧
        (accepts sel = false ∨ ∃ c ∈ sel.conditions, tooLong c = true) := by
  unfold select
  cases haccepts : accepts sel with
  | false => exact Or.inr ⟨rfl, Or.inl rfl⟩
  | true =>
    have same (workPackage : Record) :
        ((p.tests sel.conditions).all fun c =>
            (truth s (completed s sel.joins workPackage) c).holds) =
          sel.conditions.all (meets s workPackage) := by
      rw [p.all_tests, Bool.eq_iff_iff, List.all_eq_true, List.all_eq_true]
      refine forall₂_congr fun c hc => ?_
      rw [holds_truth_completed s workPackage (provided c hc)]
    rcases satisfying_cases s (p.tests sel.conditions) (joinedRows s sel.joins) with
      ok | ⟨refused, c, hc, long⟩
    · refine Or.inl ⟨rfl, ?_⟩
      rw [if_pos rfl, ok, joinedRows_eq h, List.filter_map]
      unfold foundRows found
      simp only [Function.comp_def, same]
    · exact Or.inr ⟨by rw [if_pos rfl, refused], Or.inr ⟨c, (p.mem_tests _ c).mp hc, long⟩⟩

/-- A selection that is answered has the rows of what it finds. -/
theorem eq_foundRows_of_select {p : Planner} {s : Store} (h : Integrity s) {sel : Selection}
    (provided : sel.Provided) {rows : List Row} (ok : select p s sel = .ok rows) :
    rows = foundRows s sel := by
  rcases select_cases p h provided with ⟨-, found⟩ | ⟨refused, -⟩
  · rw [found] at ok
    exact (Except.ok.inj ok).symm
  · rw [refused] at ok
    cases ok

/-- The rows of a selection have the `id`s of what it finds. -/
theorem ids_foundRows (s : Store) (sel : Selection) :
    (foundRows s sel).map (fun row => row.workPackage.id) = (found s sel).map Record.id := by
  simp [foundRows, Function.comp_def]

/-- No two work packages that are found have the same `id`. -/
theorem nodup_found {s : Store} (h : Integrity s) (sel : Selection) :
    ((found s sel).map Record.id).Nodup :=
  (h.ids .workPackages).sublist (List.filter_sublist.map Record.id)

/-- No two rows of a selection have the same `id`. -/
theorem nodup_foundRows {s : Store} (h : Integrity s) (sel : Selection) :
    ((foundRows s sel).map fun row => row.workPackage.id).Nodup := by
  rw [ids_foundRows]
  exact nodup_found h sel

/-- A list without repetitions stays as it is. -/
theorem distinct_of_nodup {α : Type} [DecidableEq α] {l : List α} (h : l.Nodup) :
    distinct l = l := by
  induction l with
  | nil => rfl
  | cons a l ih =>
    rw [List.nodup_cons] at h
    rw [distinct, if_neg h.1, ih h.2]

/-- Sorted without repetitions, whole numbers ascend strictly. -/
theorem ascending_mergeSort_distinct (l : List Int) :
    ((distinct l).mergeSort fun a b => decide (a ≤ b)).Pairwise (· < ·) := by
  have sorted : ((distinct l).mergeSort fun a b => decide (a ≤ b)).Pairwise
      fun a b => decide (a ≤ b) = true := by
    refine List.pairwise_mergeSort ?_ ?_ (distinct l)
    · intro a b c hab hbc
      exact decide_eq_true (Int.le_trans (of_decide_eq_true hab) (of_decide_eq_true hbc))
    · intro a b
      rcases Int.le_total a b with h | h <;> simp [h]
  have nodup : ((distinct l).mergeSort fun a b => decide (a ≤ b)).Nodup :=
    (List.mergeSort_perm (distinct l) _).nodup_iff.mpr (nodup_distinct l)
  refine (sorted.and nodup).imp ?_
  rintro a b ⟨le, ne⟩
  exact lt_of_le_of_ne (of_decide_eq_true le) ne

/-- Whole numbers in ascending order, each once, do not depend on how they came. -/
theorem mergeSort_distinct_congr {l l' : List Int} (same : ∀ n, n ∈ l ↔ n ∈ l') :
    (distinct l).mergeSort (fun a b => decide (a ≤ b)) =
      (distinct l').mergeSort fun a b => decide (a ≤ b) := by
  refine (ascending_mergeSort_distinct l).eq_of_mem_iff (ascending_mergeSort_distinct l') ?_
  intro n
  rw [List.mem_mergeSort, List.mem_mergeSort, mem_distinct, mem_distinct, same]

/-- Counting rows of different work packages counts the rows. -/
theorem countDistinct_of_nodup {rows : List Row}
    (h : (rows.map fun row => row.workPackage.id).Nodup) : countDistinct rows = rows.length := by
  unfold countDistinct
  rw [distinct_of_nodup h, List.length_map]

end Worklist.Store
