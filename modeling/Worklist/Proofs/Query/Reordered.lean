import Worklist.Proofs.Query.Visibility

/-!
# The order in which records came in

Two stores may hold the same records, put into them in different orders. They keep the rules of the
schema together, a selection has the same rows in both or is refused by both, and every page of a
query is the same.
-/

set_option autoImplicit false

namespace Worklist.Store

open Sql (Condition Join OrderTerm Selection)

/-- Whether two stores hold the same records, in whatever order. -/
def Reordered (s s' : Store) : Prop :=
  ∀ t, (s.records t).Perm (s'.records t)

/-! ## The test of rows -/

/-- The test of rows fails exactly if it fails for one of them. -/
theorem satisfying_eq_refused_iff {s : Store} {conditions : List Condition} {rows : List Row} :
    satisfying s conditions rows = .error .refused ↔
      ∃ row ∈ rows, satisfies s row conditions = .error .refused := by
  constructor
  · intro refused
    by_contra none
    have tested : ∀ row ∈ rows, ∃ holds, satisfies s row conditions = .ok holds := by
      intro row hrow
      rcases satisfies_cases s row conditions with ok | ⟨refusedRow, -⟩
      · exact ⟨_, ok⟩
      · exact absurd ⟨row, hrow, refusedRow⟩ none
    clear none
    induction rows with
    | nil => cases refused
    | cons row rows ih =>
      obtain ⟨holds, ok⟩ := tested row List.mem_cons_self
      rw [satisfying, ok] at refused
      cases rest : satisfying s conditions rows with
      | ok kept =>
        rw [rest] at refused
        cases refused
      | error e =>
        rw [rest] at refused
        have same : e = .refused := Except.error.inj refused
        rw [same] at rest
        exact ih rest fun r hr => tested r (List.mem_cons_of_mem row hr)
  · rintro ⟨row, hrow, refused⟩
    exact satisfying_of_refused hrow refused

/-- Rows in another order pass the same test, or fail it alike. -/
theorem satisfying_perm (s : Store) (conditions : List Condition) {rows rows' : List Row}
    (perm : rows.Perm rows') :
    (∃ kept kept', satisfying s conditions rows = .ok kept ∧
      satisfying s conditions rows' = .ok kept' ∧ kept.Perm kept') ∨
    satisfying s conditions rows = .error .refused ∧
      satisfying s conditions rows' = .error .refused := by
  have alike : satisfying s conditions rows = .error .refused ↔
      satisfying s conditions rows' = .error .refused := by
    rw [satisfying_eq_refused_iff, satisfying_eq_refused_iff]
    exact exists_congr fun row => and_congr_left fun _ => perm.mem_iff
  rcases satisfying_cases s conditions rows with ok | ⟨refused, -⟩
  · rcases satisfying_cases s conditions rows' with ok' | ⟨refused', -⟩
    · exact Or.inl ⟨_, _, ok, ok', perm.filter _⟩
    · rw [alike.mpr refused'] at ok
      cases ok
  · exact Or.inr ⟨refused, alike.mp refused⟩

namespace Reordered

variable {s s' : Store}

/-- The rules of the schema do not speak of the order of records. -/
theorem integrity (same : Reordered s s') (h : Integrity s) : Integrity s' where
  ids t := ((same t).map Record.id).nodup_iff.mp (h.ids t)
  keys t := by
    refine ((same t).pairwise_iff ?_).mp (h.keys t)
    intro a b different
    rw [← different]
    unfold sameKey
    simp only [Bool.beq_comm]
  required t r hr := h.required t r ((same t).mem_iff.mpr hr)
  references t r hr c hc target htarget := by
    have known (id : Int) : s.hasId target id = s'.hasId target id := (same target).any_eq
    simpa only [known] using h.references t r ((same t).mem_iff.mpr hr) c hc target htarget
  kept t r hr := h.kept t r ((same t).mem_iff.mpr hr)

/-- The records of a table in the order of their `id` are the same. -/
theorem sorted_eq (same : Reordered s s') (h : Integrity s) (t : Table) :
    (s'.records t).mergeSort (fun a b => decide (a.id ≤ b.id)) =
      (s.records t).mergeSort fun a b => decide (a.id ≤ b.id) := by
  have sorted (l : List Record) :
      (l.mergeSort fun a b => decide (a.id ≤ b.id)).Pairwise fun a b => a.id ≤ b.id := by
    refine (List.pairwise_mergeSort ?_ ?_ l).imp of_decide_eq_true
    · intro a b c hab hbc
      simp only [decide_eq_true_eq] at *
      omega
    · intro a b
      simp only [Bool.or_eq_true, decide_eq_true_eq]
      omega
  have perm : ((s'.records t).mergeSort fun a b => decide (a.id ≤ b.id)).Perm
      ((s.records t).mergeSort fun a b => decide (a.id ≤ b.id)) :=
    (List.mergeSort_perm _ _).trans ((same t).symm.trans (List.mergeSort_perm _ _).symm)
  refine perm.eq_of_pairwise ?_ (sorted _) (sorted _)
  intro a b ha hb hab hba
  have inOther : a ∈ s.records t := (same t).mem_iff.mpr (List.mem_mergeSort.mp ha)
  exact h.eq_of_id_eq inOther (List.mem_mergeSort.mp hb) (Int.le_antisymm hab hba)

/-- Stores with the same records agree for the scope that admits everything. -/
theorem agree (same : Reordered s s') : Agree .all s s' where
  tables t _ _ _ := (same t).mem_iff
  workPackages _ _ := (same .workPackages).mem_iff
  customValues _ _ _ _ _ := (same .customValues).mem_iff

/-- Stores with the same records have the same joined rows, in some order. -/
theorem joinedRows_perm (same : Reordered s s') (h : Integrity s) (joins : List Join) :
    (joinedRows s joins).Perm (joinedRows s' joins) := by
  have h' := same.integrity h
  have rows : s.workPackages.map (completed s joins) = s.workPackages.map (completed s' joins) :=
    List.map_congr_left fun w hw => same.agree.completed_eq h h' hw trivial joins
  rw [joinedRows_eq h, joinedRows_eq h', rows]
  exact (same .workPackages).map _

/-- Stores with the same records test a row alike. -/
theorem satisfies_eq (same : Reordered s s') (row : Row) (conditions : List Condition) :
    satisfies s row conditions = satisfies s' row conditions := by
  induction conditions with
  | nil => rfl
  | cons c rest ih => rw [satisfies, satisfies, same.agree.holds_truth_eq, ih]

/-- Stores with the same records test rows alike. -/
theorem satisfying_eq (same : Reordered s s') (conditions : List Condition) (rows : List Row) :
    satisfying s conditions rows = satisfying s' conditions rows := by
  induction rows with
  | nil => rfl
  | cons row rows ih => rw [satisfying, satisfying, same.satisfies_eq, ih]

/-- What is read off the rows of a selection, whatever their order, is the same in stores with the
same records. -/
theorem select_bind {α : Type} (same : Reordered s s') (h : Integrity s) (p : Planner)
    {sel : Selection} (provided : sel.Provided) {f : List Row → Except StoreError α}
    (hf : ∀ rows rows' : List Row, rows.Perm rows' →
      (rows.map fun row => row.workPackage.id).Nodup → f rows = f rows') :
    select p s' sel >>= f = select p s sel >>= f := by
  cases accepted : accepts sel with
  | false =>
    unfold select
    rw [accepted]
    rfl
  | true =>
    have select_eq (s : Store) : select p s sel =
        satisfying s (p.tests sel.conditions) (joinedRows s sel.joins) := by
      unfold select
      rw [if_pos accepted]
    have perm := same.joinedRows_perm h sel.joins
    have other : select p s' sel =
        satisfying s (p.tests sel.conditions) (joinedRows s' sel.joins) := by
      rw [select_eq, same.satisfying_eq]
    rcases satisfying_perm s (p.tests sel.conditions) perm with
      ⟨rows, rows', ok, ok', rows_perm⟩ | ⟨refused, refused'⟩
    · have own : rows = foundRows s sel :=
        eq_foundRows_of_select h provided ((select_eq s).trans ok)
      have nodup : (rows.map fun row => row.workPackage.id).Nodup := by
        rw [own]
        exact nodup_foundRows h sel
      rw [other, select_eq, ok, ok']
      exact (hf rows rows' rows_perm nodup).symm
    · rw [other, select_eq, refused, refused']

/-- Stores with the same records count alike. -/
theorem count_eq (same : Reordered s s') (h : Integrity s) (p : Planner) {sel : Selection}
    (provided : sel.Provided) : s'.count p sel = s.count p sel := by
  refine same.select_bind h p provided ?_
  intro rows rows' perm nodup
  have nodup' := (perm.map fun row => row.workPackage.id).nodup_iff.mp nodup
  rw [countDistinct_of_nodup nodup, countDistinct_of_nodup nodup', perm.length_eq]

/-- Stores with the same records have the same pages of an order that ends by the `id`. -/
theorem page_eq (same : Reordered s s') (h : Integrity s) (p : Planner) {sel : Selection}
    (provided : sel.Provided) {order : List OrderTerm} (ordered : EndsById order)
    (limit offset : Nat) : s'.page p sel order limit offset = s.page p sel order limit offset := by
  unfold page
  split_ifs
  · rfl
  · refine same.select_bind h p provided ?_
    intro rows rows' perm nodup
    rw [mergeSort_eq_of_perm ordered perm nodup]

end Reordered

end Worklist.Store

namespace Worklist.Session

open Store (Integrity Reordered)

/-- The catalog does not depend on the order in which custom fields came in. -/
theorem load_reordered {x : Session} (h : Integrity x.pool.store) {s' : Store}
    (same : Reordered x.pool.store s') :
    Catalog.load (x.onStore s').pool = Catalog.load x.pool := by
  have sorted : (s'.customFields.mergeSort fun a b => decide (a.id ≤ b.id)) =
      x.pool.store.customFields.mergeSort fun a b => decide (a.id ≤ b.id) :=
    same.sorted_eq h .customFields
  unfold Catalog.load onStore Pool.read
  cases x.pool.isOpen with
  | false => rfl
  | true => simp only [if_true, bind, Except.bind, sorted]

/-- A page of a query does not depend on the order in which records came in. -/
theorem page_reordered {x : Session} (h : Integrity x.pool.store) {s' : Store}
    (same : Reordered x.pool.store s') (q : Query) (p : Pagination) :
    ((x.onStore s').page q p).result = (x.page q p).result := by
  rw [result_page, result_page, selection_onStore same.agree]
  cases hsel : x.selection q with
  | error e => rfl
  | ok sel =>
    have sameFields : (x.onStore s').sortFields q = x.sortFields q := rfl
    rw [sameFields]
    cases x.sortFields q with
    | error e => rfl
    | ok fields =>
      have provided := provided_pageSelection (provided_selection hsel) fields
      have counted := same.count_eq h x.planner provided
      have shown := same.page_eq h x.planner provided (endsById_orderTerms fields)
        (p.size x.settings) (p.offset x.settings)
      unfold pageItems onStore Pool.read
      cases x.pool.isOpen with
      | false => rfl
      | true =>
        simp only [if_true, bind, Except.bind]
        rw [counted, shown]

end Worklist.Session
