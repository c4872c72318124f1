import Mathlib.Data.List.Sort
import Worklist.Store.Select

/-!
# The order of values and of rows

The order of values is a total preorder: it is lexicographic in the kind of a value, the size of a
number and the text. The order of rows by some columns is one too, and it tells rows apart as soon
as one of the columns is the `id` and no two rows share it. Sorting then has one result only, in
whatever order the rows came.
-/

set_option autoImplicit false

namespace Worklist.Store

open Std (OrientedCmp TransCmp)
open Sql (Column OrderTerm)

/-! ## Values -/

namespace Value

/-- Nothing, a number or a text, in this order. -/
def rank : Value → Nat
  | .null => 0
  | .text _ => 2
  | _ => 1

/-- The text of a text value, and the empty text for all others. -/
def textPart : Value → String
  | .text s => s
  | _ => ""

/-- Values are ordered by kind, then by size, then as texts. -/
theorem order_eq_lex :
    order = compareLex (compareOn rank) (compareLex (compareOn size) (compareOn textPart)) := by
  -- Two numbers differ in their sizes only, and the sizes stay closed.
  have number (a b : Value) (rank_eq : compareOn rank a b = .eq)
      (text_eq : compareOn textPart a b = .eq) (h : order a b = compareOn size a b) :
      order a b =
        compareLex (compareOn rank) (compareLex (compareOn size) (compareOn textPart)) a b := by
    unfold compareLex
    rw [rank_eq, text_eq, h]
    cases compareOn size a b <;> rfl
  have empty : compareOn textPart .null .null = .eq := Std.ReflCmp.compare_self
  funext a b
  cases a <;> cases b <;> first | exact number _ _ rfl empty rfl | rfl

instance : TransCmp order := by
  rw [order_eq_lex]
  infer_instance

/-- Whole numbers are in their order. -/
theorem order_int (m n : Int) : order (.int m) (.int n) = compare m n := by
  have positive : (0 : Int) < Number.twoTo 1074 := by
    exact_mod_cast Number.twoTo_pos 1074
  change compare (m * Number.twoTo 1074 : Int) (n * Number.twoTo 1074) = compare m n
  rcases lt_trichotomy m n with h | h | h
  · rw [compare_lt_iff_lt.mpr h, compare_lt_iff_lt]
    exact Int.mul_lt_mul_of_pos_right h positive
  · rw [h]
    exact (compare_eq_iff_eq.mpr rfl).trans (compare_eq_iff_eq.mpr rfl).symm
  · rw [compare_gt_iff_gt.mpr h, compare_gt_iff_gt]
    exact Int.mul_lt_mul_of_pos_right h positive

/-- Texts are in their order. -/
theorem order_text (s t : String) : order (.text s) (.text t) = compare s t := rfl

end Value

/-! ## Rows -/

instance (t : OrderTerm) : TransCmp (termOrder t) := by
  have direct : TransCmp fun a b : Value =>
      if t.descending then b.order a else a.order b := by
    cases t.descending
    · exact inferInstanceAs (TransCmp Value.order)
    · have ascending : TransCmp Value.order := inferInstance
      exact ascending.opposite
  cases h : t.nullsLast
  · have plain : termOrder t = fun a b => if t.descending then b.order a else a.order b := by
      funext a b
      simp [termOrder, h]
    rw [plain]
    exact direct
  · have ranked : termOrder t = compareLex (compareOn Value.isNull) fun a b =>
        if t.descending then b.order a else a.order b := by
      funext a b
      simp [termOrder, h, compareLex, compareOn]
    rw [ranked]
    infer_instance

instance (terms : List OrderTerm) : TransCmp (rowOrder terms) := by
  induction terms with
  | nil => exact { eq_swap := rfl, isLE_trans := fun _ _ => rfl }
  | cons t terms ih =>
    have first : TransCmp fun a b : Row => termOrder t (a.get t.column) (b.get t.column) :=
      { eq_swap := by intro a b; exact OrientedCmp.eq_swap
        isLE_trans := by intro a b c; exact TransCmp.isLE_trans }
    have lex : rowOrder (t :: terms) = compareLex
        (fun a b : Row => termOrder t (a.get t.column) (b.get t.column)) (rowOrder terms) := rfl
    rw [lex]
    infer_instance

/-- A row may stand before another if the order does not place it after that one. -/
theorem rowLe_iff {terms : List OrderTerm} {a b : Row} :
    rowLe terms a b = true ↔ (rowOrder terms a b).isLE = true := by
  unfold rowLe
  cases rowOrder terms a b <;> decide

/-- A row that may stand before another may stand before all that the other may stand before. -/
theorem rowLe_trans (terms : List OrderTerm) (a b c : Row) (hab : rowLe terms a b = true)
    (hbc : rowLe terms b c = true) : rowLe terms a c = true := by
  rw [rowLe_iff] at hab hbc ⊢
  exact TransCmp.isLE_trans hab hbc

/-- Of two rows one may stand before the other. -/
theorem rowLe_total (terms : List OrderTerm) (a b : Row) :
    (rowLe terms a b || rowLe terms b a) = true := by
  have swap : rowOrder terms a b = (rowOrder terms b a).swap := OrientedCmp.eq_swap
  unfold rowLe
  rw [swap]
  cases rowOrder terms b a <;> rfl

/-- Rows that an order leaves equal are equal in each of its columns. -/
theorem termOrder_eq_of_rowOrder_eq {terms : List OrderTerm} {a b : Row} {t : OrderTerm}
    (ht : t ∈ terms) (h : rowOrder terms a b = .eq) :
    termOrder t (a.get t.column) (b.get t.column) = .eq := by
  induction terms with
  | nil => exact absurd ht List.not_mem_nil
  | cons u terms ih =>
    have both : (termOrder u (a.get u.column) (b.get u.column)).then (rowOrder terms a b) = .eq := h
    rw [Ordering.then_eq_eq] at both
    rcases List.mem_cons.mp ht with rfl | ht
    · exact both.1
    · exact ih ht both.2

/-- Whether an order has a term for the `id`. -/
def EndsById (terms : List OrderTerm) : Prop :=
  ∃ t ∈ terms, t.column = .workPackageId

/-- Rows that an order with the `id` leaves equal are rows of one `id`. -/
theorem id_eq_of_rowOrder_eq {terms : List OrderTerm} (hid : EndsById terms) {a b : Row}
    (h : rowOrder terms a b = .eq) : a.workPackage.id = b.workPackage.id := by
  obtain ⟨t, ht, column⟩ := hid
  have equal := termOrder_eq_of_rowOrder_eq ht h
  have cell (row : Row) : row.get t.column = .int row.workPackage.id := by
    rw [column]
    rfl
  rw [cell, cell] at equal
  have direct : Value.order (.int a.workPackage.id) (.int b.workPackage.id) = .eq := by
    unfold termOrder at equal
    have ranks : compare (Value.int a.workPackage.id).isNull (Value.int b.workPackage.id).isNull =
        .eq := rfl
    cases hd : t.descending <;> cases hn : t.nullsLast <;>
      simp only [hd, hn, ranks, Ordering.then, if_true, Bool.false_eq_true, if_false] at equal
    · exact equal
    · exact equal
    · exact OrientedCmp.eq_symm equal
    · exact OrientedCmp.eq_symm equal
  rw [Value.order_int] at direct
  exact compare_eq_iff_eq.mp direct

/-- Sorting rows of different `id` by an order with the `id` does not depend on how they came. -/
theorem mergeSort_eq_of_perm {terms : List OrderTerm} (hid : EndsById terms) {rows rows' : List Row}
    (perm : rows.Perm rows') (nodup : (rows.map fun row => row.workPackage.id).Nodup) :
    rows.mergeSort (rowLe terms) = rows'.mergeSort (rowLe terms) := by
  have sorted (l : List Row) :
      (l.mergeSort (rowLe terms)).Pairwise fun a b => rowLe terms a b = true :=
    List.pairwise_mergeSort (rowLe_trans terms) (rowLe_total terms) l
  have sortedPerm : (rows.mergeSort (rowLe terms)).Perm (rows'.mergeSort (rowLe terms)) :=
    (List.mergeSort_perm rows _).trans (perm.trans (List.mergeSort_perm rows' _).symm)
  refine sortedPerm.eq_of_pairwise ?_ (sorted rows) (sorted rows')
  intro a b ha hb hab hba
  have ha' : a ∈ rows := List.mem_mergeSort.mp ha
  have hb' : b ∈ rows := perm.mem_iff.mpr (List.mem_mergeSort.mp hb)
  have equal : rowOrder terms a b = .eq :=
    OrientedCmp.isLE_antisymm (rowLe_iff.mp hab) (rowLe_iff.mp hba)
  exact List.inj_on_of_nodup_map nodup ha' hb' (id_eq_of_rowOrder_eq hid equal)

/-- The order in which a store meets work packages has the `id`. -/
theorem endsById_scanOrder (p : Planner) (conditions : List Sql.Condition) :
    EndsById (p.scanOrder conditions) :=
  ⟨⟨.workPackageId, false, false⟩, List.mem_append_right _ (List.mem_singleton.mpr rfl), rfl⟩

end Worklist.Store
