import Mathlib.Algebra.Order.Floor.Div
import Worklist.Proofs.Query.Composition
import Worklist.Proofs.Store.Declared
import Worklist.Proofs.Store.FewerJoins

/-!
# Pages

The pages of a query are cut out of one list, which has each work package that the query finds once.
A page has the members of the list from its first place on, so the pages up to the last one make up
the list and the pages beyond are empty. This holds for every size that is asked for, as long as the
places can be counted with 32 bits.
-/

set_option autoImplicit false

namespace Worklist

open Sql (Selection)
open Store (Affinity Integrity Record Row Table Value arranged found foundRows select)

/-! ## Cutting a list -/

/-- The windows of a list, one after the other, are a start of the list. -/
theorem flatMap_windows {α : Type} (l : List α) (size count : Nat) :
    (List.range' 1 count).flatMap (fun p => (l.drop ((p - 1) * size)).take size) =
      l.take (count * size) := by
  induction count with
  | zero => simp
  | succ count ih =>
    have place : 1 + 1 * count - 1 = count := by omega
    rw [List.range'_concat, List.flatMap_append, ih, List.flatMap_singleton, place, Nat.succ_mul,
      List.take_add]

/-- As many windows as the list fills make up the list. -/
theorem flatMap_windows_ceilDiv {α : Type} (l : List α) {size : Nat} (positive : 0 < size) :
    (List.range' 1 (l.length ⌈/⌉ size)).flatMap (fun p => (l.drop ((p - 1) * size)).take size) =
      l := by
  have reach : l.length ≤ size * (l.length ⌈/⌉ size) :=
    (ceilDiv_le_iff_le_mul positive).mp (Nat.le_refl _)
  rw [flatMap_windows, Nat.mul_comm]
  exact List.take_of_length_le reach

/-- The windows beyond those that the list fills are empty, and no others are. -/
theorem window_eq_nil_iff {α : Type} (l : List α) {size p : Nat} (positive : 0 < size)
    (first : 1 ≤ p) :
    (l.drop ((p - 1) * size)).take size = [] ↔ l.length ⌈/⌉ size < p := by
  have some_place : size ≠ 0 := by omega
  rw [List.take_eq_nil_iff, or_iff_right some_place, List.drop_eq_nil_iff, Nat.mul_comm,
    ← ceilDiv_le_iff_le_mul positive]
  omega

/-- A list has nothing from a place on that lies beyond its end, nor from the end on. -/
theorem drop_min {α : Type} {l : List α} {place last : Nat} (h : l.length ≤ last) :
    l.drop (min place last) = l.drop place := by
  by_cases inside : place ≤ last
  · rw [Nat.min_eq_left inside]
  · rw [Nat.min_eq_right (by omega), List.drop_eq_nil_of_le h, List.drop_eq_nil_of_le (by omega)]

namespace Session

/-! ## The list behind the pages -/

/-- Providing a field keeps the joins that were there, in front. -/
theorem prefix_joins_provide (sel : Selection) (f : Field) :
    sel.joins <+: (Field.provide sel f).joins := by
  unfold Field.provide
  cases f.requiredJoin? with
  | none => exact List.prefix_rfl
  | some j =>
    show sel.joins <+: Sql.Join.add sel.joins j
    unfold Sql.Join.add
    split_ifs
    · exact List.prefix_rfl
    · exact List.prefix_append _ _

/-- The joins of an order come behind those of the filters. -/
theorem prefix_joins_pageSelection (sel : Selection) (fields : List (Field × Bool)) :
    sel.joins <+: (pageSelection sel fields).joins := by
  unfold pageSelection
  induction fields.map Prod.fst generalizing sel with
  | nil => exact List.prefix_rfl
  | cons f fields ih => exact (prefix_joins_provide sel f).trans (ih (Field.provide sel f))

/-- What a page that was answered shows about its query: the filters and the sort keys are resolved,
and the store is open and takes the statement. -/
structure Answered (x : Session) (q : Query) (sel : Selection) (fields : List (Field × Bool)) :
    Prop where
  selection : x.selection q = .ok sel
  sortFields : x.sortFields q = .ok fields
  read : x.pool.read = .ok x.pool.store
  taken : select x.planner x.pool.store (pageSelection sel fields) =
    .ok (foundRows x.pool.store (pageSelection sel fields))
  terms : Store.orderTermCount (orderTerms fields) ≤ Store.maxOrderTerms

/-- A page that is answered shows that its query is. -/
theorem exists_answered {x : Session} (h : Integrity x.pool.store) {q : Query} {p : Pagination}
    {page : Page WorkPackage} (ok : (x.page q p).result = .ok page) :
    ∃ sel fields, x.Answered q sel fields := by
  rw [result_page] at ok
  obtain ⟨sel, hsel, ok⟩ := bind_eq_ok_iff.mp ok
  obtain ⟨fields, hfields, ok⟩ := bind_eq_ok_iff.mp ok
  obtain ⟨total, -, ok⟩ := bind_eq_ok_iff.mp ok
  obtain ⟨items, hitems, -⟩ := bind_eq_ok_iff.mp ok
  obtain ⟨s, hread, hitems⟩ := bind_eq_ok_iff.mp (mapError_eq_ok_iff.mp hitems)
  obtain rfl : x.pool.store = s := store_of_read hread
  obtain ⟨rows, hrows, -⟩ := bind_eq_ok_iff.mp hitems
  have provided := provided_pageSelection (provided_selection hsel) fields
  unfold Store.page at hrows
  split_ifs at hrows with tooMany
  · cases hrows
  · obtain ⟨selected, hselected, -⟩ := bind_eq_ok_iff.mp hrows
    refine ⟨sel, fields, hsel, hfields, hread, ?_, Nat.le_of_not_lt tooMany⟩
    rw [hselected, Store.eq_foundRows_of_select h provided hselected]

namespace Answered

variable {x : Session} {q : Query} {sel : Selection} {fields : List (Field × Bool)}

/-- A query with an answered page finds what it finds without the order. -/
theorem matching_eq (answered : x.Answered q sel fields) (h : Integrity x.pool.store) :
    x.matching q = .ok ((found x.pool.store sel).map Record.id).toFinset := by
  obtain ⟨extra, hextra⟩ := prefix_joins_pageSelection sel fields
  have same : (⟨sel.joins ++ extra, sel.conditions⟩ : Selection) = pageSelection sel fields := by
    rw [hextra, ← conditions_pageSelection sel fields]
  have taken := answered.taken
  rw [← same] at taken
  have alone : select x.planner x.pool.store sel = .ok (foundRows x.pool.store sel) :=
    Store.select_of_append h (provided_selection answered.selection) taken
  unfold matching idsOf
  rw [answered.selection, answered.read, ← Store.ids_foundRows]
  show Except.mapError QueryError.store ((select x.planner x.pool.store sel).map _) = _
  rw [alone]
  rfl

/-- Every page of a query with an answered page is cut out of one list. -/
theorem page_eq (answered : x.Answered q sel fields) (h : Integrity x.pool.store)
    {all : List WorkPackage}
    (listed : List.Forall₂ (fun r w => WorkPackage.ofRecord r = .ok w)
      (arranged x.pool.store sel (orderTerms fields)) all) (p : Pagination) :
    (x.page q p).result = .ok ⟨(all.drop (p.offset x.settings)).take (p.size x.settings),
      all.length, p.number, p.size x.settings⟩ := by
  have provided := provided_pageSelection (provided_selection answered.selection) fields
  have available : ∀ t ∈ orderTerms fields, t.column.Provided (pageSelection sel fields).joins :=
    available_pageSelection (resolved_of_sortFields answered.sortFields)
  have total : (found x.pool.store (pageSelection sel fields)).length = all.length := by
    rw [found_pageSelection, ← listed.length_eq]
    exact (List.length_mergeSort _).symm
  obtain ⟨rows, hrows⟩ : ∃ rows,
      x.pool.store.page x.planner (pageSelection sel fields) (orderTerms fields)
        (p.size x.settings) (p.offset x.settings) = .ok rows := by
    unfold Store.page
    rw [if_neg (Nat.not_lt.mpr answered.terms), answered.taken]
    exact ⟨_, rfl⟩
  have shown : rows.map Row.workPackage =
      ((arranged x.pool.store sel (orderTerms fields)).drop (p.offset x.settings)).take
        (p.size x.settings) := by
    rw [Store.page_eq h provided available hrows, arranged_pageSelection]
  have items : rows.mapM (fun row => WorkPackage.ofRecord row.workPackage) =
      .ok ((all.drop (p.offset x.settings)).take (p.size x.settings)) := by
    have slice := List.forall₂_take (p.size x.settings)
      (List.forall₂_drop (p.offset x.settings) listed)
    rw [← shown] at slice
    rw [← mapM_eq_ok_iff, List.mapM_map] at slice
    exact slice
  rw [result_page, answered.selection]
  refine bind_eq_ok_iff.mpr ⟨sel, rfl, bind_eq_ok_iff.mpr ⟨fields, answered.sortFields, ?_⟩⟩
  refine bind_eq_ok_iff.mpr ⟨all.length, mapError_eq_ok_iff.mpr ?_, ?_⟩
  · rw [answered.read, ← total]
    show x.pool.store.count x.planner (pageSelection sel fields) = _
    rw [Store.count_eq h provided, answered.taken]
    rfl
  · refine bind_eq_ok_iff.mpr ⟨_, mapError_eq_ok_iff.mpr ?_, rfl⟩
    exact bind_eq_ok_iff.mpr ⟨_, answered.read, bind_eq_ok_iff.mpr ⟨rows, hrows, items⟩⟩

/-- The list behind the pages: all that the query finds, as the order arranges it. -/
theorem exists_listing (answered : x.Answered q sel fields) (h : Integrity x.pool.store)
    (declared : x.pool.store.HoldsDeclared) :
    ∃ all : List WorkPackage,
      List.Forall₂ (fun r w => WorkPackage.ofRecord r = .ok w)
        (arranged x.pool.store sel (orderTerms fields)) all ∧
      (all.map WorkPackage.id).Nodup ∧
      x.matching q = .ok (all.map WorkPackage.id).toFinset ∧
      ∀ w ∈ all, ∃ r ∈ x.pool.store.workPackages, WorkPackage.ofRecord r = .ok w := by
  have perm : (arranged x.pool.store sel (orderTerms fields)).Perm (found x.pool.store sel) :=
    List.mergeSort_perm _ _
  have stored : ∀ r ∈ arranged x.pool.store sel (orderTerms fields),
      r ∈ x.pool.store.workPackages := by
    intro r hr
    exact (List.mem_filter.mp (perm.mem_iff.mp hr)).1
  obtain ⟨all, hall⟩ := exists_mapM_eq_ok fun r hr =>
    WorkPackage.exists_ofRecord h declared (stored r hr)
  have listed := mapM_eq_ok_iff.mp hall
  have ids : all.map WorkPackage.id =
      (arranged x.pool.store sel (orderTerms fields)).map Record.id := by
    have equal : List.Forall₂ Eq (all.map WorkPackage.id)
        ((arranged x.pool.store sel (orderTerms fields)).map Record.id) := by
      rw [List.forall₂_map_left_iff, List.forall₂_map_right_iff]
      exact (listed.imp fun r w hw => WorkPackage.id_eq_of_ofRecord hw).flip
    rwa [List.forall₂_eq_eq_eq] at equal
  have ids_perm : (all.map WorkPackage.id).Perm ((found x.pool.store sel).map Record.id) := by
    rw [ids]
    exact perm.map Record.id
  refine ⟨all, listed, ?_, ?_, ?_⟩
  · apply ids_perm.nodup_iff.mpr
    exact Store.nodup_found h sel
  · rw [answered.matching_eq h, List.toFinset_eq_of_perm _ _ ids_perm]
  · intro w hw
    obtain ⟨r, hr, hw⟩ := (mem_of_mapM_eq_ok hall).mp hw
    exact ⟨r, stored r hr, hw⟩

end Answered

/-! ## Pages of every size -/

/-- A page is no larger than the greatest size, or one. -/
theorem size_le (p : Pagination) (settings : Settings) :
    p.size settings ≤ max 1 settings.maxPerPage := by
  unfold Pagination.size
  omega

/-- A place that is counted with 32 bits at most is the place itself for a list that is no longer
than that. -/
theorem take_drop_offset {l : List WorkPackage} (few : l.length ≤ Number.maxUInt32)
    (p : Pagination) (settings : Settings) :
    (l.drop (p.offset settings)).take (p.size settings) =
      (l.drop ((max p.page 1 - 1) * p.size settings)).take (p.size settings) := by
  unfold Pagination.offset Pagination.number
  rw [drop_min few]

/-- All work packages by their subjects, the last subject first. -/
def bySubject : Query := ⟨[], none, .all, [⟨.plain "subject", true⟩]⟩

end Session

end Worklist
