import Mathlib
import Worklist.Proofs.Number.Units
import Worklist.Proofs.Store.RowOrder
import Worklist.Proofs.Store.Selected

/-!
# Groups of rows

A store takes values as one if its order does not tell them apart. This is an equivalence, and the
first values of a list have exactly one value of each class, so every row lies in exactly one group.
Texts that are taken as one are equal, and so are two whole numbers and two real ones; a whole
number and a real one may be taken as one and still have different texts.
-/

set_option autoImplicit false

namespace Worklist.Store

open Std (LawfulEqCmp OrientedCmp ReflCmp TransCmp)
open Sql (Column Join Selection)

/-! ## Values that are taken as one -/

/-- A value is taken as one with itself. -/
theorem sameValue_refl (v : Value) : sameValue v v = true :=
  beq_iff_eq.mpr ReflCmp.compare_self

/-- Values that are taken as one compare alike. -/
theorem sameValue_congr {u v : Value} (h : sameValue u v = true) (w : Value) :
    sameValue u w = sameValue v w := by
  unfold sameValue
  rw [TransCmp.congr_left (beq_iff_eq.mp h)]

/-- It does not matter which of two values is taken as the other. -/
theorem sameValue_comm (u v : Value) : sameValue u v = sameValue v u := by
  rw [Bool.eq_iff_iff]
  unfold sameValue
  rw [beq_iff_eq, beq_iff_eq]
  exact ⟨OrientedCmp.eq_symm, OrientedCmp.eq_symm⟩

/-- Values that are taken as one are equal, if they are not zeros of different signs and no whole
number is taken as one with another number. -/
theorem eq_of_sameValue {u v : Value} (nonzero : ∀ x, u = .real x → x.mantissa ≠ 0)
    (left : ∀ n, u = .int n → v = .int n) (right : ∀ n, v = .int n → u = .int n)
    (h : sameValue u v = true) : u = v := by
  have order := beq_iff_eq.mp h
  have infinite (negative : Bool) :
      (Value.infinite negative).size.natAbs = Number.twoTo 2098 := by
    unfold Value.size
    cases negative
    · exact Int.natAbs_natCast _
    · exact (Int.natAbs_neg _).trans (Int.natAbs_natCast _)
  cases u with
  | null =>
    cases v with
    | null => rfl
    | _ => cases order
  | int n => exact (left n rfl).symm
  | real x =>
    cases v with
    | null => cases order
    | int n => cases right n rfl
    | real y =>
      have sizes : x.units = y.units := compare_eq_iff_eq.mp order
      rw [Number.Binary64.eq_of_units_eq sizes (nonzero x rfl)]
    | infinite negative =>
      have sizes : x.units = (Value.infinite negative).size := compare_eq_iff_eq.mp order
      have less := x.natAbs_units_lt
      rw [sizes, infinite] at less
      exact absurd less (Nat.lt_irrefl _)
    | text t => cases order
  | infinite negative =>
    cases v with
    | null => cases order
    | int n => cases right n rfl
    | real y =>
      have sizes : (Value.infinite negative).size = y.units := compare_eq_iff_eq.mp order
      have less := y.natAbs_units_lt
      rw [← sizes, infinite] at less
      exact absurd less (Nat.lt_irrefl _)
    | infinite negative' =>
      have sizes : (Value.infinite negative).size = (Value.infinite negative').size :=
        compare_eq_iff_eq.mp order
      have positive := Number.twoTo_pos 2098
      unfold Value.size at sizes
      cases negative <;> cases negative'
      · rfl
      · simp only [if_true, if_false, Bool.false_eq_true] at sizes
        omega
      · simp only [if_true, if_false, Bool.false_eq_true] at sizes
        omega
      · rfl
    | text t => cases order
  | text s =>
    cases v with
    | text t =>
      rw [Value.order_text] at order
      exact congrArg Value.text (LawfulEqCmp.eq_of_compare order)
    | _ => cases order

/-! ## The first values of a list -/

/-- The first values of a list are in the list. -/
theorem mem_of_mem_firstValues {v : Value} {values : List Value} (h : v ∈ firstValues values) :
    v ∈ values := by
  induction values with
  | nil => exact h
  | cons u values ih =>
    rcases List.mem_cons.mp h with rfl | h
    · exact List.mem_cons_self
    · exact List.mem_cons_of_mem u (ih (List.mem_filter.mp h).1)

/-- Exactly one of the first values is taken as one with a value of the list. -/
theorem countP_firstValues {values : List Value} {w : Value} (h : w ∈ values) :
    (firstValues values).countP (fun v => sameValue v w) = 1 := by
  induction values with
  | nil => exact absurd h List.not_mem_nil
  | cons u values ih =>
    rw [firstValues, List.countP_cons, List.countP_filter]
    cases huw : sameValue u w with
    | true =>
      have none : (firstValues values).countP
          (fun v => sameValue v w && !sameValue u v) = 0 := by
        rw [List.countP_eq_zero]
        intro v _ both
        rw [sameValue_congr huw v, sameValue_comm w v] at both
        simp at both
      rw [none]
      rfl
    | false =>
      have other : (firstValues values).countP (fun v => sameValue v w && !sameValue u v) =
          (firstValues values).countP fun v => sameValue v w := by
        refine List.countP_congr fun v _ => ?_
        cases huv : sameValue u v with
        | true => simp [← sameValue_congr huv w, huw]
        | false => simp
      have mem : w ∈ values := by
        refine (List.mem_cons.mp h).resolve_left ?_
        rintro rfl
        rw [sameValue_refl] at huw
        cases huw
      rw [other, ih mem]
      rfl

/-- One more value is counted for those values that are taken as one with it. -/
theorem sum_countP_cons (classes : List Value) (w : Value) (values : List Value) :
    (classes.map fun v => (w :: values).countP (sameValue v)).sum =
      (classes.map fun v => values.countP (sameValue v)).sum +
        classes.countP fun v => sameValue v w := by
  induction classes with
  | nil => rfl
  | cons v classes ih =>
    rw [List.map_cons, List.map_cons, List.sum_cons, List.sum_cons, ih, List.countP_cons,
      List.countP_cons]
    omega

/-- Where a property does not tell values apart that are taken as one, the classes with the property
have as many values together as the list has with it. -/
theorem sum_countP_firstValues {values : List Value} {property : Value → Bool}
    (respects : ∀ v ∈ values, ∀ w ∈ values, sameValue v w = true → property v = property w) :
    (((firstValues values).filter property).map fun v => values.countP (sameValue v)).sum =
      values.countP property := by
  -- the list that is counted grows up to the list whose first values are taken
  suffices each : ∀ counted, counted ⊆ values →
      (((firstValues values).filter property).map fun v => counted.countP (sameValue v)).sum =
        counted.countP property from each values (List.Subset.refl values)
  intro counted sub
  induction counted with
  | nil => simp
  | cons w counted ih =>
    have mem : w ∈ values := sub List.mem_cons_self
    have one : ((firstValues values).filter property).countP (fun v => sameValue v w) =
        if property w then 1 else 0 := by
      have alike : (firstValues values).countP (fun v => sameValue v w && property v) =
          (firstValues values).countP fun v => sameValue v w && property w := by
        refine List.countP_congr fun v hv => ?_
        cases hvw : sameValue v w with
        | true => rw [respects v (mem_of_mem_firstValues hv) w mem hvw]
        | false => simp
      rw [List.countP_filter, alike]
      cases property w with
      | true => simpa using countP_firstValues mem
      | false => simp
    rw [sum_countP_cons, ih fun v hv => sub (List.mem_cons_of_mem w hv), one, List.countP_cons]

/-! ## Groups -/

/-- The values of rows in a column. -/
def valuesOf (column : Column) (rows : List Row) : List Value :=
  rows.map fun row => row.get column

/-- The groups of rows of different work packages: each first value with how many rows have it. -/
theorem groupsOf_eq {column : Column} {rows : List Row}
    (nodup : (rows.map fun row => row.workPackage.id).Nodup) :
    groupsOf column rows = (firstValues (valuesOf column rows)).map fun v =>
      ⟨v.text?, (valuesOf column rows).countP (sameValue v)⟩ := by
  refine List.map_congr_left fun v _ => ?_
  have sub : ((rowsWith column v rows).map fun row => row.workPackage.id).Nodup :=
    nodup.sublist (List.filter_sublist.map _)
  have count : countDistinct (rowsWith column v rows) =
      (valuesOf column rows).countP (sameValue v) := by
    rw [countDistinct_of_nodup sub, valuesOf, List.countP_map, List.countP_eq_length_filter]
    rfl
  rw [count]

/-- Rows that come in the order in which the store meets them are grouped as they are. -/
theorem group_of_sorted {p : Planner} {s : Store} {sel : Selection} {column : Column}
    {rows : List Row} (ok : select p s sel = .ok rows)
    (sorted : rows.Pairwise fun a b => rowLe (p.scanOrder sel.conditions) a b = true) :
    group p s sel column = .ok (groupsOf column rows) := by
  unfold group
  rw [ok]
  exact congrArg (fun rows => Except.ok (groupsOf column rows)) (List.mergeSort_of_pairwise sorted)

/-- No group is empty. -/
theorem count_ne_zero_of_mem_groupsOf {column : Column} {rows : List Row}
    (nodup : (rows.map fun row => row.workPackage.id).Nodup) {g : Group}
    (h : g ∈ groupsOf column rows) : g.count ≠ 0 := by
  rw [groupsOf_eq nodup] at h
  obtain ⟨v, hv, rfl⟩ := List.mem_map.mp h
  have mem := mem_of_mem_firstValues hv
  have positive := List.countP_pos_iff.mpr ⟨v, mem, sameValue_refl v⟩
  exact Nat.ne_of_gt positive

/-- The groups whose text has a property have as many rows together as there are rows with such a
text, if values that are taken as one do not differ in it. -/
theorem sum_groupsOf {column : Column} {rows : List Row}
    (nodup : (rows.map fun row => row.workPackage.id).Nodup) (property : Option String → Bool)
    (respects : ∀ v ∈ valuesOf column rows, ∀ w ∈ valuesOf column rows, sameValue v w = true →
      property v.text? = property w.text?) :
    (((groupsOf column rows).filter fun g => property g.text?).map Group.count).sum =
      (valuesOf column rows).countP fun v => property v.text? := by
  rw [groupsOf_eq nodup, List.filter_map, List.map_map]
  exact sum_countP_firstValues respects

/-- The groups of rows have all the rows together. -/
theorem sum_groupsOf_all {column : Column} {rows : List Row}
    (nodup : (rows.map fun row => row.workPackage.id).Nodup) :
    ((groupsOf column rows).map Group.count).sum = rows.length := by
  have all : (((groupsOf column rows).filter fun _ => true).map Group.count).sum =
      (valuesOf column rows).countP fun _ => true :=
    sum_groupsOf nodup (fun _ => true) fun _ _ _ _ _ => rfl
  rw [List.filter_true, List.countP_true] at all
  rw [all, valuesOf, List.length_map]

/-! ## Values of what is found -/

/-- Where numbers are not kept as real ones, no real number is zero. -/
theorem mantissa_ne_zero_of_keep {a : Affinity} (ha : a ≠ .real) {v : Value} {x : Number.Binary64}
    (h : a.keep v = .real x) : x.mantissa ≠ 0 := by
  have ofWhole {u : Value} (h : u.toInteger = .real x) : x.mantissa ≠ 0 := by
    intro zero
    have whole := Number.Binary64.toWhole?_of_mantissa_eq_zero zero
    cases u with
    | real y =>
      unfold Value.toInteger at h
      cases hy : y.toWhole? with
      | none =>
        simp only [hy, Value.real.injEq] at h
        rw [h, whole] at hy
        cases hy
      | some n =>
        simp only [hy] at h
        split_ifs at h with range
        rw [Value.real.inj h, whole] at hy
        rw [← Option.some.inj hy] at range
        exact range ⟨by decide, by decide⟩
    | _ => cases h
  cases a with
  | real => exact absurd rfl ha
  | integer =>
    cases v with
    | text s =>
      cases hs : numberOfText? s with
      | none => simp [Affinity.keep, hs] at h
      | some u => exact ofWhole (u := u) (by simpa [Affinity.keep, hs] using h)
    | real y => exact ofWhole (u := .real y) h
    | _ => cases h
  | text => cases v <;> cases h

/-- A work package has in a column what the affinity of the column keeps of some value. -/
theorem cell_kept {s : Store} (h : Integrity s) {w : Record} (hw : w ∈ s.workPackages)
    (c : Column) : ∃ v, cell s w c = (columnAffinity c).keep v := by
  have ofPartner (j : Join) (name : String) :
      ∃ v, ((partner? s j w).map fun r => r.get name).getD .null =
        ((joinTable j).affinity name).keep v := by
    cases hp : partner? s j w with
    | none =>
      refine ⟨.null, ?_⟩
      cases (joinTable j).affinity name <;> rfl
    | some r => exact h.kept (joinTable j) r (List.mem_of_find?_eq_some hp) name
  obtain ⟨source, name⟩ := c
  cases source with
  | workPackages => exact h.kept .workPackages w hw name
  | statuses => exact ofPartner .status name
  | customValues id => exact ofPartner (.customValue id) name
  | other table => exact ⟨.null, rfl⟩

end Worklist.Store
