import Worklist.Proofs.Query.Selection
import Worklist.Proofs.Store.RowOrder

/-!
# Answers

What a session answers in terms of what a selection finds. A count is how many work packages are
found, and a page is cut out of them as an order arranges them. Joins that an order or a group adds
change nothing about what is found. If all keys of a query resolve, only the store can fail it.
-/

set_option autoImplicit false

namespace Worklist.Store

open Sql (Column Condition Join OrderTerm Selection)

/-! ## Counting and arranging -/

/-- What is found depends on the conditions of a selection only. -/
theorem found_congr (s : Store) {sel sel' : Selection} (h : sel.conditions = sel'.conditions) :
    found s sel = found s sel' := by
  unfold found
  rw [h]

/-- A count is how many work packages are found. -/
theorem count_eq {p : Planner} {s : Store} (h : Integrity s) {sel : Selection}
    (provided : sel.Provided) :
    count p s sel = (select p s sel).map fun _ => (found s sel).length := by
  unfold count
  rcases select_cases p h provided with ⟨-, ok⟩ | ⟨refused, -⟩
  · have counted : countDistinct (foundRows s sel) = (found s sel).length := by
      rw [countDistinct_of_nodup (nodup_foundRows h sel), foundRows, List.length_map]
    rw [ok]
    exact congrArg Except.ok counted
  · rw [refused]
    rfl

/-- The joins of the tables whose columns an order reads. -/
def orderJoins (order : List OrderTerm) : List Join :=
  order.filterMap fun t => t.column.source.join?

/-- Whether a work package may stand before another in an order. -/
def recordLe (s : Store) (order : List OrderTerm) (a b : Record) : Bool :=
  rowLe order (completed s (orderJoins order) a) (completed s (orderJoins order) b)

/-- What a selection finds, as an order arranges it. -/
def arranged (s : Store) (sel : Selection) (order : List OrderTerm) : List Record :=
  (found s sel).mergeSort (recordLe s order)

/-- The order of rows reads the columns of the order only. -/
theorem rowOrder_congr {order : List OrderTerm} {a a' b b' : Row}
    (ha : ∀ t ∈ order, a.get t.column = a'.get t.column)
    (hb : ∀ t ∈ order, b.get t.column = b'.get t.column) :
    rowOrder order a b = rowOrder order a' b' := by
  induction order with
  | nil => rfl
  | cons t order ih =>
    have rest := ih (fun u hu => ha u (List.mem_cons_of_mem t hu))
      fun u hu => hb u (List.mem_cons_of_mem t hu)
    unfold rowOrder at rest ⊢
    rw [List.foldr_cons, List.foldr_cons, rest, ha t List.mem_cons_self, hb t List.mem_cons_self]

/-- Rows are ordered as their work packages are, whatever else is joined. -/
theorem rowLe_completed (s : Store) {joins : List Join} {order : List OrderTerm}
    (provided : ∀ t ∈ order, t.column.Provided joins) (a b : Record) :
    rowLe order (completed s joins a) (completed s joins b) = recordLe s order a b := by
  have same (workPackage : Record) : ∀ t ∈ order,
      (completed s joins workPackage).get t.column =
        (completed s (orderJoins order) workPackage).get t.column := by
    intro t ht
    have own : t.column.Provided (orderJoins order) :=
      fun j hj => List.mem_filterMap.mpr ⟨t, ht, hj⟩
    rw [get_completed s workPackage (provided t ht), get_completed s workPackage own]
  unfold recordLe rowLe
  rw [rowOrder_congr (same a) (same b)]

/-- The sorted rows of a selection are the work packages as the order arranges them. -/
theorem workPackages_mergeSort (s : Store) {sel : Selection} {order : List OrderTerm}
    (provided : ∀ t ∈ order, t.column.Provided sel.joins) :
    ((foundRows s sel).mergeSort (rowLe order)).map Row.workPackage = arranged s sel order := by
  have sorted : (foundRows s sel).mergeSort (rowLe order) =
      (arranged s sel order).map (completed s sel.joins) := by
    refine (List.map_mergeSort ?_).symm
    intro a _ b _
    exact (rowLe_completed s provided a b).symm
  rw [sorted, List.map_map]
  exact List.map_id'' (fun workPackage => completed_workPackage s sel.joins workPackage) _

/-- A page is cut out of what is found, as the order arranges it. -/
theorem page_eq {p : Planner} {s : Store} (h : Integrity s) {sel : Selection}
    (provided : sel.Provided) {order : List OrderTerm}
    (available : ∀ t ∈ order, t.column.Provided sel.joins) {limit offset : Nat} {rows : List Row}
    (ok : page p s sel order limit offset = .ok rows) :
    rows.map Row.workPackage = ((arranged s sel order).drop offset).take limit := by
  unfold page at ok
  split_ifs at ok
  · cases ok
  · obtain ⟨selected, hselected, ok⟩ := bind_eq_ok_iff.mp ok
    rw [← Except.ok.inj ok, eq_foundRows_of_select h provided hselected, List.map_take,
      List.map_drop, workPackages_mergeSort s available]

end Worklist.Store

namespace Worklist

open Sql (Column OrderTerm Selection)
open Store (Integrity Record arranged found foundRows select)

/-- A work package has the `id` of its record. -/
theorem WorkPackage.id_eq_of_ofRecord {r : Record} {w : WorkPackage}
    (h : WorkPackage.ofRecord r = .ok w) : w.id = r.id := by
  have first : WorkPackage.wholeIn r "id" = .ok r.id := rfl
  unfold WorkPackage.ofRecord at h
  simp only [bind_eq_ok_iff, first] at h
  obtain ⟨id, hid, h⟩ := h
  obtain ⟨_, -, _, -, _, -, _, -, _, -, _, -, _, -, _, -, _, -, _, -, _, -, h⟩ := h
  rw [← Except.ok.inj h, ← Except.ok.inj hid]

/-! ## Results without their statements -/

namespace Outcome

/-- The result of two steps in a row is that of the second after the first. -/
theorem result_bind {α β : Type} (o : Outcome α) (next : α → Outcome β) :
    (o >>= next).result = o.result >>= fun a => (next a).result := by
  change (o.andThen next).result = _
  cases h : o.result with
  | ok a =>
    rw [andThen_of_ok next h]
    rfl
  | error e =>
    rw [andThen_of_error next h]
    rfl

end Outcome

namespace Session

/-- An open pool gives its store. -/
theorem store_of_read {pool : Pool} {s : Store} (h : pool.read = .ok s) : pool.store = s := by
  unfold Pool.read at h
  split_ifs at h
  exact Except.ok.inj h

/-- An open pool can be read. -/
theorem read_eq_ok {pool : Pool} (opened : pool.isOpen = true) : pool.read = .ok pool.store :=
  if_pos opened

/-- A closed pool cannot be read. -/
theorem read_eq_error {pool : Pool} (closed : pool.isOpen = false) :
    pool.read = .error .poolClosed :=
  if_neg (by rw [closed]; decide)

/-- The result of a count: the selection of the query first, and then the count of the store. -/
theorem result_count (x : Session) (q : Query) :
    (x.count q).result = x.selection q >>= fun sel =>
      (x.pool.read >>= fun s => s.count x.planner sel).mapError QueryError.store := by
  unfold count
  rw [Outcome.result_bind]
  rfl

/-- The result of a grouping: the field of the dimension, the selection of the query, the groups of
the store, and their counts by key. -/
theorem result_countByGroup (x : Session) (q : Query) (dimension : FieldKey) :
    (x.countByGroup q dimension).result =
      (do
        let f ← (x.catalog.resolve dimension).mapError QueryError.resolution
        let sel ← x.selection q
        let groups ← (x.pool.read >>= fun s =>
          s.group x.planner (Field.provide sel f) f.column).mapError QueryError.store
        pure (groupCounts f groups)) := by
  unfold countByGroup
  simp only [Outcome.result_bind]
  rfl

/-- The selection of a page, with the joins that its order needs. -/
def pageSelection (sel : Selection) (fields : List (Field × Bool)) : Selection :=
  (fields.map Prod.fst).foldl Field.provide sel

/-- The work packages on a page. -/
def pageItems (x : Session) (sel : Selection) (fields : List (Field × Bool)) (p : Pagination) :
    Except StoreError (List WorkPackage) :=
  x.pool.read >>= fun s => do
    let rows ← s.page x.planner (pageSelection sel fields) (orderTerms fields) (p.size x.settings)
      (p.offset x.settings)
    rows.mapM fun row => WorkPackage.ofRecord row.workPackage

/-- The result of a page: the selection of the query, the fields of its order, the total, and the
work packages on the page. -/
theorem result_page (x : Session) (q : Query) (p : Pagination) :
    (x.page q p).result =
      (do
        let sel ← x.selection q
        let fields ← x.sortFields q
        let total ← (x.pool.read >>= fun s =>
          s.count x.planner (pageSelection sel fields)).mapError QueryError.store
        let items ← (x.pageItems sel fields p).mapError QueryError.store
        pure ⟨items, total, p.number, p.size x.settings⟩) := by
  unfold page
  simp only [Outcome.result_bind]
  rfl

/-! ## Fields of an order -/

/-- The fields of an order are resolved. -/
theorem resolved_of_sortFields {x : Session} {q : Query} {fields : List (Field × Bool)}
    (h : x.sortFields q = .ok fields) : ∀ f ∈ fields, f.1.Resolved := by
  intro f hf
  obtain ⟨key, -, hkey⟩ := (mem_of_mapM_eq_ok h).mp hf
  split at hkey
  · cases hkey
  · rename_i own hown
    rw [← Except.ok.inj hkey]
    exact Catalog.resolved_of_resolveSortable hown

/-- A column of an order is the column of one of its fields, or the `id`. -/
theorem column_of_mem_orderTerms {fields : List (Field × Bool)} {t : OrderTerm}
    (ht : t ∈ orderTerms fields) :
    t.column = .workPackageId ∨ ∃ f ∈ fields, t.column = f.1.column := by
  have ofFields (fields : List (Field × Bool))
      (ht : t ∈ fields.map fun f =>
        (⟨f.1.column, f.2, decide (f.1.column ≠ .workPackageId)⟩ : OrderTerm)) :
      ∃ f ∈ fields, t.column = f.1.column := by
    obtain ⟨f, hf, rfl⟩ := List.mem_map.mp ht
    exact ⟨f, hf, rfl⟩
  cases fields with
  | nil =>
    rw [List.mem_singleton.mp ht]
    exact Or.inl rfl
  | cons f fields =>
    simp only [orderTerms] at ht
    split_ifs at ht
    · exact Or.inr (ofFields _ ht)
    · rcases List.mem_append.mp ht with ht | ht
      · exact Or.inr (ofFields _ ht)
      · rw [List.mem_singleton.mp ht]
        exact Or.inl rfl

/-- Every order has the `id` among its terms. -/
theorem endsById_orderTerms (fields : List (Field × Bool)) :
    Store.EndsById (orderTerms fields) := by
  cases fields with
  | nil => exact ⟨_, List.mem_cons_self, rfl⟩
  | cons f fields =>
    simp only [orderTerms]
    split_ifs with h
    · obtain ⟨g, hg, column⟩ := List.any_eq_true.mp h
      exact ⟨_, List.mem_map_of_mem hg, beq_iff_eq.mp column⟩
    · exact ⟨_, List.mem_append_right _ (List.mem_singleton.mpr rfl), rfl⟩

/-- The joins of an order add no condition. -/
theorem conditions_pageSelection (sel : Selection) (fields : List (Field × Bool)) :
    (pageSelection sel fields).conditions = sel.conditions :=
  Field.conditions_foldl_provide _ _

/-- The selection of a page has the joins for all that it reads. -/
theorem provided_pageSelection {sel : Selection} (h : sel.Provided)
    (fields : List (Field × Bool)) : (pageSelection sel fields).Provided := by
  refine h.of_joins (conditions_pageSelection sel fields) ?_
  exact fun j hj => Field.mem_joins_foldl_provide.mpr (Or.inl hj)

/-- The selection of a page has the joins for the columns of its order. -/
theorem available_pageSelection {sel : Selection} {fields : List (Field × Bool)}
    (resolved : ∀ f ∈ fields, f.1.Resolved) :
    ∀ t ∈ orderTerms fields, t.column.Provided (pageSelection sel fields).joins := by
  intro t ht
  rcases column_of_mem_orderTerms ht with id | ⟨f, hf, column⟩
  · rw [id]
    intro j hj
    cases hj
  · rw [column]
    refine (resolved f hf).provided.mono ?_
    intro j hj
    exact Field.mem_joins_foldl_provide.mpr (Or.inr ⟨f.1, List.mem_map_of_mem hf, hj⟩)

/-- The joins of an order change nothing about what is found. -/
theorem found_pageSelection (s : Store) (sel : Selection) (fields : List (Field × Bool)) :
    found s (pageSelection sel fields) = found s sel :=
  Store.found_congr s (conditions_pageSelection sel fields)

/-- The joins of an order change nothing about how it arranges what is found. -/
theorem arranged_pageSelection (s : Store) (sel : Selection) (fields : List (Field × Bool)) :
    arranged s (pageSelection sel fields) (orderTerms fields) =
      arranged s sel (orderTerms fields) := by
  unfold arranged
  rw [found_pageSelection]

end Session

/-! ## A sample -/

/-- Three projects, two statuses and three work packages, two of which have the first status. -/
def sampleRows : List (Store.Table × Store.NewRow) :=
  [(.projects, [("name", .text "one")]), (.projects, [("name", .text "two")]),
    (.projects, [("name", .text "three")]), (.statuses, [("name", .text "new")]),
    (.statuses, [("name", .text "done"), ("is_closed", .int 1)]),
    (.workPackages, [("project_id", .int 1), ("subject", .text "alpha"), ("status_id", .int 1),
      ("created_at", .text "2024-01-01"), ("updated_at", .text "2024-01-01")]),
    (.workPackages, [("project_id", .int 1), ("subject", .text "beta"),
      ("created_at", .text "2024-01-02"), ("updated_at", .text "2024-01-02")]),
    (.workPackages, [("project_id", .int 2), ("subject", .text "alphabet"), ("status_id", .int 1),
      ("created_at", .text "2024-01-03"), ("updated_at", .text "2024-01-03")])]

/-- A session on the store of these rows. -/
def sampleSession : Session :=
  ⟨.ofStore (Store.ofRows sampleRows), .lookingUp, ⟨[]⟩, .initial, .first⟩

/-- The work packages of the first project that are open and have a text in their subject. -/
def sampleQuery : Query :=
  ⟨[⟨.plain "status_id", .openStatus, [], false⟩, ⟨.plain "subject", .contains, ["Alpha"], false⟩],
    some 1, .projects [1, 2], [⟨.plain "subject", true⟩]⟩

end Worklist
