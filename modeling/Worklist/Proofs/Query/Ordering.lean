import Worklist.Proofs.Query.Pages
import Worklist.Proofs.Query.Reordered

/-!
# The order of pages

A page lists work packages by the sort keys of its query, the first key that tells two of them apart
deciding. Missing values come last in both directions, and the `id` decides where no key does;
without any keys the greatest `id` comes first. This is a strict total order on the work packages of
a store, so the pages do not depend on the order in which records came in.
-/

set_option autoImplicit false

namespace Worklist.Store

open Std (OrientedCmp ReflCmp TransCmp)
open Sql (Column OrderTerm)

/-! ## What stands before what -/

/-- Whether a value stands before another when a column is sorted in a direction: what is missing
comes last. -/
def Value.Before (descending : Bool) (v w : Value) : Prop :=
  v ≠ .null ∧ (w = .null ∨ (if descending then w.order v else v.order w) = .lt)

/-- Whether a work package stands before another by the columns of some fields in their directions.
What ties in all of them is sorted by ascending `id`. -/
def Precedes (s : Store) (a b : Record) : List (Field × Bool) → Prop
  | [] => a.id < b.id
  | (f, descending) :: fields =>
    (cell s a f.column).Before descending (cell s b f.column) ∨
      (cell s a f.column).order (cell s b f.column) = .eq ∧ Precedes s a b fields

/-- Whether a work package stands before another in the order that sort keys ask for; without keys
the greatest `id` comes first. -/
def StandsBefore (s : Store) (fields : List (Field × Bool)) (a b : Record) : Prop :=
  if fields = [] then b.id < a.id else Precedes s a b fields

instance (descending : Bool) (v w : Value) : Decidable (v.Before descending w) :=
  inferInstanceAs (Decidable (_ ∧ _))

instance (s : Store) (a b : Record) : DecidablePred (Precedes s a b) := fun fields => by
  induction fields with
  | nil => exact inferInstanceAs (Decidable (_ < _))
  | cons f fields ih => exact inferInstanceAs (Decidable (_ ∨ _ ∧ _))

instance (s : Store) (fields : List (Field × Bool)) : DecidableRel (StandsBefore s fields) :=
  fun _ _ => inferInstanceAs (Decidable (ite _ _ _))

/-! ## One column -/

/-- The term of an order for a field: missing values are moved to the end, except for the `id`,
which is never missing. -/
def fieldTerm (f : Field × Bool) : OrderTerm :=
  ⟨f.1.column, f.2, decide (f.1.column ≠ .workPackageId)⟩

/-- Every value comes after the missing one. -/
theorem order_null_right {v : Value} (h : v ≠ .null) : v.order .null = .gt := by
  cases v <;> first | rfl | exact absurd rfl h

/-- The missing value comes before every other. -/
theorem order_null_left {v : Value} (h : v ≠ .null) : Value.order .null v = .lt := by
  cases v <;> first | rfl | exact absurd rfl h

/-- A value that is there is not missing. -/
theorem isNull_eq_false {v : Value} (h : v ≠ .null) : v.isNull = false := by
  cases v <;> first | rfl | exact absurd rfl h

/-- A term that moves missing values to the end compares as the values stand. -/
theorem termOrder_nullsLast (column : Column) (descending : Bool) (v w : Value) :
    (termOrder ⟨column, descending, true⟩ v w = .lt ↔ v.Before descending w) ∧
      (termOrder ⟨column, descending, true⟩ v w = .eq ↔ v.order w = .eq) := by
  have later : compare true false = .gt := rfl
  have earlier : compare false true = .lt := rfl
  have swap : v.order w = (w.order v).swap := OrientedCmp.eq_swap
  unfold termOrder Value.Before
  by_cases hv : v = .null
  · by_cases hw : w = .null
    · have same : Value.order .null .null = .eq := rfl
      cases descending <;> simp [hv, hw, same, Ordering.then]
    · have null : Value.isNull .null = true := rfl
      cases descending <;>
        simp [hv, null, isNull_eq_false hw, order_null_left hw, later, Ordering.then]
  · by_cases hw : w = .null
    · have null : Value.isNull .null = true := rfl
      cases descending <;>
        simp [hv, hw, null, isNull_eq_false hv, order_null_right hv, earlier, Ordering.then]
    · rw [isNull_eq_false hv, isNull_eq_false hw, swap]
      cases descending <;> cases w.order v <;> simp [hv, hw, Ordering.then]

/-- Whole numbers are in their order, or in the opposite one. -/
theorem before_int (descending : Bool) (m n : Int) :
    (Value.int m).Before descending (.int n) ↔ if descending then n < m else m < n := by
  unfold Value.Before
  rw [Value.order_int, Value.order_int]
  cases descending <;> simp [compare_lt_iff_lt]

/-- A term without a place for missing values compares as the values stand, if none is missing. -/
theorem termOrder_whole (column : Column) (descending : Bool) (m n : Int) :
    (termOrder ⟨column, descending, false⟩ (.int m) (.int n) = .lt ↔
        (Value.int m).Before descending (.int n)) ∧
      (termOrder ⟨column, descending, false⟩ (.int m) (.int n) = .eq ↔
        (Value.int m).order (.int n) = .eq) := by
  have swap : (Value.int m).order (.int n) = ((Value.int n).order (.int m)).swap :=
    OrientedCmp.eq_swap
  unfold termOrder Value.Before
  rw [swap]
  cases descending <;> cases (Value.int n).order (.int m) <;> simp

/-- The term of a field compares work packages as their values stand. -/
theorem termOrder_fieldTerm (s : Store) (f : Field × Bool) (a b : Record) :
    (termOrder (fieldTerm f) (cell s a f.1.column) (cell s b f.1.column) = .lt ↔
        (cell s a f.1.column).Before f.2 (cell s b f.1.column)) ∧
      (termOrder (fieldTerm f) (cell s a f.1.column) (cell s b f.1.column) = .eq ↔
        (cell s a f.1.column).order (cell s b f.1.column) = .eq) := by
  by_cases own : f.1.column = .workPackageId
  · have whole (r : Record) : cell s r f.1.column = .int r.id := by
      rw [own]
      rfl
    have plain : fieldTerm f = ⟨f.1.column, f.2, false⟩ := by
      unfold fieldTerm
      rw [decide_eq_false (not_not_intro own)]
    rw [whole, whole, plain]
    exact termOrder_whole f.1.column f.2 a.id b.id
  · have last : fieldTerm f = ⟨f.1.column, f.2, true⟩ := by
      unfold fieldTerm
      rw [decide_eq_true own]
    rw [last]
    exact termOrder_nullsLast f.1.column f.2 _ _

/-! ## All columns -/

/-- Later columns decide where earlier ones do not. -/
theorem rowOrder_append (terms last : List OrderTerm) (a b : Row) :
    rowOrder (terms ++ last) a b = (rowOrder terms a b).then (rowOrder last a b) := by
  induction terms with
  | nil => rfl
  | cons t terms ih =>
    show (termOrder t _ _).then (rowOrder (terms ++ last) a b) =
      ((termOrder t _ _).then (rowOrder terms a b)).then (rowOrder last a b)
    rw [ih]
    cases termOrder t (a.get t.column) (b.get t.column) <;> rfl

/-- The term for the `id` that ends an order. -/
def idTerm (descending : Bool) : OrderTerm :=
  ⟨.workPackageId, descending, false⟩

/-- The column of the `id` puts rows in the order of their `id`s. -/
theorem rowOrder_idTerm (descending : Bool) (a b : Row) :
    rowOrder [idTerm descending] a b = .lt ↔
      if descending then b.workPackage.id < a.workPackage.id
      else a.workPackage.id < b.workPackage.id := by
  have alone : rowOrder [idTerm descending] a b =
      termOrder (idTerm descending) (.int a.workPackage.id) (.int b.workPackage.id) := by
    show (termOrder (idTerm descending) (.int a.workPackage.id)
      (.int b.workPackage.id)).then .eq = _
    exact Ordering.then_eq
  rw [alone, ← before_int]
  exact (termOrder_whole _ descending _ _).1

/-- A row that shows a work package has the values of its fields. -/
def Shows (s : Store) (fields : List (Field × Bool)) (row : Row) (workPackage : Record) : Prop :=
  row.workPackage = workPackage ∧
    ∀ f ∈ fields, row.get f.1.column = cell s workPackage f.1.column

/-- The terms of fields, and at last the `id`, order rows as their work packages precede one
another. -/
theorem rowOrder_fields {s : Store} {fields : List (Field × Bool)} {a b : Record} {rowA rowB : Row}
    (showsA : Shows s fields rowA a) (showsB : Shows s fields rowB b) :
    rowOrder (fields.map fieldTerm ++ [idTerm false]) rowA rowB = .lt ↔ Precedes s a b fields := by
  induction fields with
  | nil =>
    rw [List.map_nil, List.nil_append, rowOrder_idTerm, showsA.1, showsB.1]
    rfl
  | cons f fields ih =>
    have rest := ih ⟨showsA.1, fun g hg => showsA.2 g (List.mem_cons_of_mem f hg)⟩
      ⟨showsB.1, fun g hg => showsB.2 g (List.mem_cons_of_mem f hg)⟩
    obtain ⟨before, tied⟩ := termOrder_fieldTerm s f a b
    have first : rowOrder ((f :: fields).map fieldTerm ++ [idTerm false]) rowA rowB =
        (termOrder (fieldTerm f) (cell s a f.1.column) (cell s b f.1.column)).then
          (rowOrder (fields.map fieldTerm ++ [idTerm false]) rowA rowB) := by
      rw [← showsA.2 f List.mem_cons_self, ← showsB.2 f List.mem_cons_self]
      rfl
    rw [first, Ordering.then_eq_lt, before, tied, rest]
    rfl

/-- An order that has the `id` is not refined by the `id` at its end. -/
theorem rowOrder_endsById {terms : List OrderTerm} (ends : EndsById terms) (a b : Row) :
    rowOrder (terms ++ [idTerm false]) a b = rowOrder terms a b := by
  rw [rowOrder_append]
  cases decided : rowOrder terms a b with
  | lt => rfl
  | gt => rfl
  | eq =>
    have same := id_eq_of_rowOrder_eq ends decided
    have tied : termOrder (idTerm false) (.int a.workPackage.id) (.int b.workPackage.id) = .eq := by
      rw [same]
      exact ReflCmp.compare_self
    show (termOrder (idTerm false) (.int a.workPackage.id) (.int b.workPackage.id)).then .eq = .eq
    rw [tied]
    rfl

end Worklist.Store

namespace Worklist.Session

open Std (OrientedCmp TransCmp)
open Sql (Selection)
open Store (Integrity Record Reordered Row StandsBefore arranged completed found orderJoins
  recordLe rowLe rowOrder)

/-! ## The order of sort keys -/

/-- The terms of sort keys are those of their fields, with the `id` at the end unless they have
it. -/
theorem orderTerms_cases {fields : List (Field × Bool)} (some_key : fields ≠ []) :
    orderTerms fields = fields.map Store.fieldTerm ∧
        Store.EndsById (fields.map Store.fieldTerm) ∨
      orderTerms fields = fields.map Store.fieldTerm ++ [Store.idTerm false] := by
  have ends := endsById_orderTerms fields
  cases fields with
  | nil => exact absurd rfl some_key
  | cons f rest =>
    by_cases own : ((f :: rest).any fun g => g.1.column == .workPackageId) = true
    · have terms : orderTerms (f :: rest) = (f :: rest).map Store.fieldTerm := if_pos own
      rw [terms] at ends
      exact Or.inl ⟨terms, ends⟩
    · exact Or.inr (if_neg own)

/-- By its sort keys an order ranks as the terms of the keys and then the `id` do, whether or not
the `id` is among the keys. -/
theorem rowOrder_orderTerms {fields : List (Field × Bool)} (some_key : fields ≠ []) (a b : Row) :
    rowOrder (orderTerms fields) a b =
      rowOrder (fields.map Store.fieldTerm ++ [Store.idTerm false]) a b := by
  rcases orderTerms_cases some_key with ⟨terms, ends⟩ | terms
  · rw [terms, Store.rowOrder_endsById ends]
  · rw [terms]

/-- The row of a work package with what an order by fields reads. -/
def orderRow (s : Store) (fields : List (Field × Bool)) (workPackage : Record) : Row :=
  completed s (orderJoins (orderTerms fields)) workPackage

/-- The row that an order reads shows the work package in the columns of the sort keys. -/
theorem shows_orderRow (s : Store) {fields : List (Field × Bool)} (some_key : fields ≠ [])
    (workPackage : Record) :
    Store.Shows s fields (orderRow s fields workPackage) workPackage := by
  have mem_terms : ∀ f ∈ fields, Store.fieldTerm f ∈ orderTerms fields := by
    intro f hf
    have own := List.mem_map_of_mem (f := Store.fieldTerm) hf
    rcases orderTerms_cases some_key with ⟨terms, -⟩ | terms
    · rwa [terms]
    · rw [terms]
      exact List.mem_append_left _ own
  refine ⟨Store.completed_workPackage _ _ _, fun f hf => Store.get_completed _ _ ?_⟩
  exact fun j hj => List.mem_filterMap.mpr ⟨Store.fieldTerm f, mem_terms f hf, hj⟩

/-- A work package stands before another exactly if the order of the statement puts it there. -/
theorem standsBefore_iff (s : Store) (fields : List (Field × Bool)) (a b : Record) :
    StandsBefore s fields a b ↔
      rowOrder (orderTerms fields) (orderRow s fields a) (orderRow s fields b) = .lt := by
  unfold StandsBefore
  by_cases keyless : fields = []
  · rw [if_pos keyless, keyless]
    exact (Store.rowOrder_idTerm true (orderRow s [] a) (orderRow s [] b)).symm
  · rw [if_neg keyless, rowOrder_orderTerms keyless]
    exact (Store.rowOrder_fields (shows_orderRow s keyless a) (shows_orderRow s keyless b)).symm

/-- Two work packages that are not one stand one before the other. -/
theorem standsBefore_total {s : Store} (h : Integrity s) (fields : List (Field × Bool))
    {a b : Record} (ha : a ∈ s.workPackages) (hb : b ∈ s.workPackages) (different : a ≠ b) :
    StandsBefore s fields a b ∨ StandsBefore s fields b a := by
  have swap : rowOrder (orderTerms fields) (orderRow s fields b) (orderRow s fields a) =
      (rowOrder (orderTerms fields) (orderRow s fields a) (orderRow s fields b)).swap :=
    OrientedCmp.eq_swap
  rw [standsBefore_iff, standsBefore_iff, swap]
  cases decided : rowOrder (orderTerms fields) (orderRow s fields a) (orderRow s fields b) with
  | lt => exact Or.inl rfl
  | gt => exact Or.inr rfl
  | eq =>
    have ids := Store.id_eq_of_rowOrder_eq (endsById_orderTerms fields) decided
    have same : a.id = b.id := by
      simpa only [orderRow, Store.completed_workPackage] using ids
    exact absurd (h.eq_of_id_eq (t := .workPackages) ha hb same) different

/-- What stands before another stands before all that the other stands before. -/
theorem standsBefore_trans {s : Store} {fields : List (Field × Bool)} {a b c : Record}
    (hab : StandsBefore s fields a b) (hbc : StandsBefore s fields b c) :
    StandsBefore s fields a c := by
  rw [standsBefore_iff] at hab hbc ⊢
  exact TransCmp.lt_trans hab hbc

/-- No work package stands before itself. -/
theorem standsBefore_irrefl (s : Store) (fields : List (Field × Bool)) (a : Record) :
    ¬StandsBefore s fields a a := by
  have tied : rowOrder (orderTerms fields) (orderRow s fields a) (orderRow s fields a) = .eq :=
    Std.ReflCmp.compare_self
  rw [standsBefore_iff, tied]
  exact nofun

/-- Sort keys put the work packages of a store into one strict total order. -/
theorem isStrictTotalOrder_standsBefore {s : Store} (h : Integrity s)
    (fields : List (Field × Bool)) :
    IsStrictTotalOrder {r // r ∈ s.workPackages} fun a b => StandsBefore s fields a b where
  irrefl a := standsBefore_irrefl s fields a
  trans _ _ _ := standsBefore_trans
  trichotomous a b := by
    intro notBefore notAfter
    by_contra different
    have other : a.1 ≠ b.1 := fun same => different (Subtype.ext same)
    rcases standsBefore_total h fields a.2 b.2 other with before | after
    · exact notBefore before
    · exact notAfter after

/-- What a selection finds is arranged as sort keys ask for. -/
theorem pairwise_arranged {s : Store} (h : Integrity s) (sel : Selection)
    (fields : List (Field × Bool)) :
    (arranged s sel (orderTerms fields)).Pairwise (StandsBefore s fields) := by
  have sorted : (arranged s sel (orderTerms fields)).Pairwise fun a b =>
      recordLe s (orderTerms fields) a b = true := by
    refine List.pairwise_mergeSort ?_ ?_ (found s sel)
    · intro a b c
      exact Store.rowLe_trans _ _ _ _
    · intro a b
      exact Store.rowLe_total _ _ _
  have perm : (arranged s sel (orderTerms fields)).Perm (found s sel) := List.mergeSort_perm _ _
  have distinct : (arranged s sel (orderTerms fields)).Pairwise fun a b => a ≠ b :=
    ((perm.map Record.id).nodup_iff.mpr (Store.nodup_found h sel)).of_map
  have stored : ∀ r ∈ arranged s sel (orderTerms fields), r ∈ s.workPackages :=
    fun r hr => (List.mem_filter.mp (perm.mem_iff.mp hr)).1
  refine (sorted.and distinct).imp_of_mem ?_
  rintro a b ha hb ⟨le, different⟩
  refine (standsBefore_total h fields (stored a ha) (stored b hb) different).resolve_right ?_
  intro after
  rw [standsBefore_iff, ← OrientedCmp.gt_iff_lt] at after
  have notAfter : (rowOrder (orderTerms fields) (orderRow s fields a) (orderRow s fields b)).isLE =
      true := Store.rowLe_iff.mp le
  rw [after] at notAfter
  cases notAfter

/-- There is one list only of what a selection finds in the order of sort keys. -/
theorem arranged_eq {s : Store} (h : Integrity s) {sel : Selection} {fields : List (Field × Bool)}
    {listed : List Record} (perm : listed.Perm (found s sel))
    (sorted : listed.Pairwise (StandsBefore s fields)) :
    arranged s sel (orderTerms fields) = listed := by
  have same : (arranged s sel (orderTerms fields)).Perm listed :=
    (List.mergeSort_perm _ _).trans perm.symm
  refine same.eq_of_pairwise ?_ (pairwise_arranged h sel fields) sorted
  intro a b _ _ hab hba
  exact absurd (standsBefore_trans hab hba) (standsBefore_irrefl s fields a)

/-! ## Pages -/

/-- A page that was answered shows the records from its first place on, as the sort keys arrange
what the query finds. -/
theorem items_of_page {x : Session} (h : Integrity x.pool.store) {q : Query} {p : Pagination}
    {page : Page WorkPackage} (answered : (x.page q p).result = .ok page) {sel : Selection}
    (hsel : x.selection q = .ok sel) {fields : List (Field × Bool)}
    (hfields : x.sortFields q = .ok fields) :
    List.Forall₂ (fun r w => WorkPackage.ofRecord r = .ok w)
      (((arranged x.pool.store sel (orderTerms fields)).drop (p.offset x.settings)).take
        (p.size x.settings)) page.items := by
  rw [result_page] at answered
  obtain ⟨sel', hsel', answered⟩ := bind_eq_ok_iff.mp answered
  obtain rfl : sel = sel' := Except.ok.inj (hsel.symm.trans hsel')
  obtain ⟨fields', hfields', answered⟩ := bind_eq_ok_iff.mp answered
  obtain rfl : fields = fields' := Except.ok.inj (hfields.symm.trans hfields')
  obtain ⟨total, -, answered⟩ := bind_eq_ok_iff.mp answered
  obtain ⟨items, hitems, shown⟩ := bind_eq_ok_iff.mp answered
  rw [← Except.ok.inj shown]
  obtain ⟨s, hread, hitems⟩ := bind_eq_ok_iff.mp (mapError_eq_ok_iff.mp hitems)
  obtain rfl : x.pool.store = s := store_of_read hread
  obtain ⟨rows, hrows, hitems⟩ := bind_eq_ok_iff.mp hitems
  have provided := provided_pageSelection (provided_selection hsel) fields
  have available : ∀ t ∈ orderTerms fields, t.column.Provided (pageSelection sel fields).joins :=
    available_pageSelection (resolved_of_sortFields hfields)
  have cut := Store.page_eq h provided available hrows
  rw [arranged_pageSelection] at cut
  rw [← cut, List.forall₂_map_left_iff]
  exact mapM_eq_ok_iff.mp hitems

/-- Sort keys ask for a strict total order of the work packages. Each page of a query is cut out of
one list, which has what the query finds in this order, so no page depends on the order in which
records came in, nor does the catalog. -/
theorem pages_ordered {x : Session} (h : Integrity x.pool.store) {q : Query} {p₀ : Pagination}
    {page₀ : Page WorkPackage} (answered : (x.page q p₀).result = .ok page₀) :
    ∃ fields, x.sortFields q = .ok fields ∧
      (IsStrictTotalOrder {r // r ∈ x.pool.store.workPackages} fun a b =>
        StandsBefore x.pool.store fields a b) ∧
      (∃ all : List Record, all.Pairwise (StandsBefore x.pool.store fields) ∧
        (∀ r ∈ all, r ∈ x.pool.store.workPackages) ∧
        x.matching q = .ok (all.map Record.id).toFinset ∧
        ∀ p page, (x.page q p).result = .ok page →
          List.Forall₂ (fun r w => WorkPackage.ofRecord r = .ok w)
            ((all.drop (p.offset x.settings)).take (p.size x.settings)) page.items) ∧
      ∀ s', Reordered x.pool.store s' →
        Catalog.load (x.onStore s').pool = Catalog.load x.pool ∧
        ∀ p, ((x.onStore s').page q p).result = (x.page q p).result := by
  obtain ⟨sel, fields, shown⟩ := exists_answered h answered
  have perm : (arranged x.pool.store sel (orderTerms fields)).Perm (found x.pool.store sel) :=
    List.mergeSort_perm _ _
  refine ⟨fields, shown.sortFields, isStrictTotalOrder_standsBefore h fields, ?_, ?_⟩
  · refine ⟨_, pairwise_arranged h sel fields, ?_, ?_, ?_⟩
    · intro r hr
      exact (List.mem_filter.mp (perm.mem_iff.mp hr)).1
    · rw [shown.matching_eq h, List.toFinset_eq_of_perm _ _ (perm.map Record.id)]
    · intro p page hpage
      exact items_of_page h hpage shown.selection shown.sortFields
  · intro s' same
    exact ⟨load_reordered h same, fun p => page_reordered h same q p⟩

/-- All work packages, the greatest status first. -/
def byStatusQuery : Query :=
  ⟨[], none, .all, [⟨.plain "status_id", true⟩]⟩

/-- In the sample the two work packages with a status come first, by ascending `id`, and the one
without a status comes last, however the records came in. -/
theorem pages_ordered_byStatusQuery :
    ∃ page, (sampleSession.page byStatusQuery ⟨1, none⟩).result = .ok page ∧
      page.items.map WorkPackage.id = [1, 3, 2] ∧
      ∀ s', Reordered sampleSession.pool.store s' →
        ((sampleSession.onStore s').page byStatusQuery ⟨1, none⟩).result = .ok page := by
  have h := (Store.reachable_ofRows sampleRows).integrity
  have answered : sampleSession.Answered byStatusQuery ⟨[], [.constant true]⟩
      [(Field.plain "status_id" .integer, true)] :=
    ⟨rfl, rfl, rfl, by decide +kernel, by decide⟩
  let inOrder : List Record :=
    [0, 2, 1].filterMap fun place : Nat => sampleSession.pool.store.workPackages[place]?
  have arranged_eq : arranged sampleSession.pool.store ⟨[], [.constant true]⟩
      (orderTerms [(Field.plain "status_id" .integer, true)]) = inOrder :=
    arranged_eq h (by decide +kernel) (by decide +kernel)
  obtain ⟨all, hall, ids⟩ : ∃ all, inOrder.mapM WorkPackage.ofRecord = .ok all ∧
      all.map WorkPackage.id = [1, 3, 2] := by
    have shown : (inOrder.mapM WorkPackage.ofRecord).map (fun all => all.map WorkPackage.id) =
        .ok [1, 3, 2] := by
      decide +kernel
    cases hall : inOrder.mapM WorkPackage.ofRecord with
    | error e =>
      rw [hall] at shown
      cases shown
    | ok all =>
      rw [hall] at shown
      exact ⟨all, rfl, Except.ok.inj shown⟩
  have listed := mapM_eq_ok_iff.mp hall
  rw [← arranged_eq] at listed
  have page := answered.page_eq h listed ⟨1, none⟩
  have few : all.length = 3 := by
    rw [← List.length_map WorkPackage.id, ids]
    rfl
  have whole : (all.drop (Pagination.offset ⟨1, none⟩ sampleSession.settings)).take
      (Pagination.size ⟨1, none⟩ sampleSession.settings) = all :=
    List.take_of_length_le (few.trans_le (by decide))
  rw [whole] at page
  obtain ⟨fields, -, -, -, same⟩ := pages_ordered h page
  exact ⟨_, page, ids, fun s' reordered => ((same s' reordered).2 _).trans page⟩

end Worklist.Session
