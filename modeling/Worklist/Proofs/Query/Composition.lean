import Mathlib.Data.Finset.Card
import Worklist.Proofs.Query.Admission
import Worklist.Proofs.Query.Answers

/-!
# Queries compose

The work packages that a query finds are those that its scope admits, that are from its project and
that each of its filters finds alone. How many filters there are, in which order they come and what
else is joined plays no role, for what is found, for how many there are and for the pages.
-/

set_option autoImplicit false

namespace Worklist

open Sql (Column Condition Selection)
open Store (Integrity Reachable Record Row arranged found foundRows meets select)

/-! ## Failing in the store -/

/-- Whether a result is not an error of the store. -/
def NoStoreError {α : Type} (r : Except QueryError α) : Prop :=
  ∀ e, r ≠ .error (.store e)

/-- Whether a result can only be an error of the store. -/
def FailsInStore {α : Type} (r : Except QueryError α) : Prop :=
  ∀ e, r = .error e → ∃ cause, e = .store cause

/-- What can fail in the store only, and does not, succeeds. -/
theorem FailsInStore.ok_of_noStoreError {α : Type} {r : Except QueryError α} (h : FailsInStore r)
    (answered : NoStoreError r) : ∃ a, r = .ok a := by
  cases hr : r with
  | ok a => exact ⟨a, rfl⟩
  | error e =>
    obtain ⟨cause, rfl⟩ := h e hr
    exact absurd hr (answered cause)

/-- A success is no failure. -/
theorem failsInStore_ok {α : Type} (a : α) : FailsInStore (.ok a) := by
  intro e h
  cases h

/-- An answer of the store fails in the store only. -/
theorem failsInStore_mapError {α : Type} (r : Except StoreError α) :
    FailsInStore (r.mapError QueryError.store) := by
  intro e h
  cases r with
  | ok a => cases h
  | error cause => exact ⟨cause, (Except.error.inj h).symm⟩

/-- Steps that fail in the store only do so together. -/
theorem FailsInStore.bind {α β : Type} {r : Except QueryError α} {f : α → Except QueryError β}
    (h : FailsInStore r) (hf : ∀ a, FailsInStore (f a)) : FailsInStore (r >>= f) := by
  intro e he
  cases hr : r with
  | ok a =>
    rw [hr] at he
    exact hf a e he
  | error e' =>
    rw [hr] at he
    rw [← Except.error.inj he]
    exact h e' hr

/-- A step for each member of a list fails in the store only if each of them does. -/
theorem failsInStore_mapM {α β : Type} {f : α → Except QueryError β} {l : List α}
    (h : ∀ a ∈ l, FailsInStore (f a)) : FailsInStore (l.mapM f) := by
  induction l with
  | nil => exact failsInStore_ok []
  | cons a l ih =>
    rw [List.mapM_cons]
    refine (h a List.mem_cons_self).bind fun b => ?_
    refine (ih fun c hc => h c (List.mem_cons_of_mem a hc)).bind fun bs => ?_
    exact failsInStore_ok (b :: bs)

/-! ## What is meant -/

namespace Store

/-- The `id`s that a scope admits. -/
def admittedIds (s : Store) (scope : Scope) : Set Int :=
  {id | ∃ workPackage ∈ s.workPackages, workPackage.id = id ∧ scope.Admits s workPackage}

/-- The `id`s that are from the project of a query, all of them if it has none. -/
def projectIds (s : Store) (project? : Option Int) : Set Int :=
  {id | ∃ workPackage ∈ s.workPackages, workPackage.id = id ∧ FromProject project? workPackage}

/-- Whether the demand of a predicate is true of a work package. -/
def MeetsPredicate (s : Store) (workPackage : Record) (p : Predicate) : Prop :=
  ∀ condition, p.condition? = some condition → meets s workPackage condition = true

/-- What predicates restrict a selection to is what it finds and what each of them is true of. -/
theorem mem_found_foldl_restrict {s : Store} {sel : Selection} {predicates : List Predicate}
    {workPackage : Record} :
    workPackage ∈ found s (predicates.foldl Predicate.restrict sel) ↔
      workPackage ∈ found s sel ∧ ∀ p ∈ predicates, MeetsPredicate s workPackage p := by
  unfold found MeetsPredicate
  rw [List.mem_filter, List.mem_filter, Predicate.conditions_foldl_restrict, List.all_append,
    Bool.and_eq_true, and_assoc]
  refine and_congr_right fun _ => and_congr_right fun _ => ?_
  rw [List.all_eq_true]
  simp only [List.mem_filterMap, forall_exists_index, and_imp]
  exact ⟨fun h p hp c hc => h c p hp hc, fun h c p hp hc => h p hp c hc⟩

end Store

/-- The selection that a predicate alone restricts. -/
def Predicate.selection (p : Predicate) : Selection :=
  [p].foldl Predicate.restrict ⟨[], [.constant true]⟩

namespace Session

/-- Whether the key of a filter resolves; the filter by roles has no key to resolve. -/
def Resolves (x : Session) (c : Clause) : Prop :=
  c.field = assignedToRole ∨ ∃ f, x.catalog.resolve c.field = .ok f

/-- Whether all sort keys of a query resolve. -/
def ResolvesOrder (x : Session) (q : Query) : Prop :=
  ∀ key ∈ q.order, ∃ f, x.catalog.resolveSortable key.field = .ok f

/-- The `id`s of the work packages that a selection has. -/
def idsOf (x : Session) (sel : Selection) : Except QueryError (Finset Int) :=
  (x.pool.read >>= fun s => (select x.planner s sel).map fun rows =>
    (rows.map fun row => row.workPackage.id).toFinset).mapError QueryError.store

/-- The `id`s of the work packages that a query finds. -/
def matching (x : Session) (q : Query) : Except QueryError (Finset Int) :=
  x.selection q >>= x.idsOf

/-- The `id`s of the work packages that a filter finds alone, where roles are those held in a
project, if it is given. -/
def matchingFilter (x : Session) (project? : Option Int) (c : Clause) :
    Except QueryError (Finset Int) :=
  x.filterPredicate project? c >>= fun p => x.idsOf p.selection

/-- Without a project a filter finds alone what the query with that filter only finds. -/
theorem matchingFilter_none (x : Session) (c : Clause) :
    x.matchingFilter none c = x.matching ⟨[c], none, .all, []⟩ := by
  unfold matchingFilter matching selection
  rw [List.mapM_cons, List.mapM_nil]
  cases x.filterPredicate none c <;> rfl

/-- Only the filter by roles asks for the project of a query. -/
theorem matchingFilter_of_ne {x : Session} {project? : Option Int} {c : Clause}
    (h : c.field ≠ assignedToRole) : x.matchingFilter project? c = x.matchingFilter none c := by
  unfold matchingFilter filterPredicate
  rw [if_neg h, if_neg h]

/-! ## Failing queries -/

/-- A filter whose key resolves has a predicate, unless the store fails to look roles up. -/
theorem failsInStore_filterPredicate {x : Session} {project? : Option Int} {c : Clause}
    (h : x.Resolves c) : FailsInStore (x.filterPredicate project? c) := by
  unfold filterPredicate
  split_ifs with hrole
  · unfold rolePredicate
    split_ifs
    · cases x.roleHolders c.values project? with
      | error cause => exact failsInStore_mapError (.error cause)
      | ok users => exact failsInStore_ok _
    · exact failsInStore_ok _
  · obtain ⟨f, hf⟩ := h.resolve_left hrole
    rw [hf]
    exact failsInStore_ok _

/-- A query whose filters resolve has a selection, unless the store fails to look roles up. -/
theorem failsInStore_selection {x : Session} {q : Query} (h : ∀ c ∈ q.filters, x.Resolves c) :
    FailsInStore (x.selection q) := by
  refine (failsInStore_mapM fun c hc => failsInStore_filterPredicate (h c hc)).bind fun ps => ?_
  exact failsInStore_ok _

/-- What a query finds can fail in the store only, if its filters resolve. -/
theorem failsInStore_matching {x : Session} {q : Query} (h : ∀ c ∈ q.filters, x.Resolves c) :
    FailsInStore (x.matching q) :=
  (failsInStore_selection h).bind fun _ => failsInStore_mapError _

/-- What a filter finds alone can fail in the store only, if it resolves. -/
theorem failsInStore_matchingFilter {x : Session} {c : Clause} (h : x.Resolves c)
    (project? : Option Int) : FailsInStore (x.matchingFilter project? c) :=
  (failsInStore_filterPredicate h).bind fun _ => failsInStore_mapError _

/-- The fields of an order that resolves do not fail. -/
theorem failsInStore_sortFields {x : Session} {q : Query} (h : x.ResolvesOrder q) :
    FailsInStore (x.sortFields q) := by
  refine failsInStore_mapM fun key hkey => ?_
  obtain ⟨f, hf⟩ := h key hkey
  rw [hf]
  exact failsInStore_ok _

/-- A page can fail in the store only, if the filters and the order of its query resolve. -/
theorem failsInStore_page {x : Session} {q : Query} (filters : ∀ c ∈ q.filters, x.Resolves c)
    (order : x.ResolvesOrder q) (p : Pagination) : FailsInStore (x.page q p).result := by
  rw [result_page]
  refine (failsInStore_selection filters).bind fun sel => ?_
  refine (failsInStore_sortFields order).bind fun fields => ?_
  refine (failsInStore_mapError _).bind fun total => ?_
  refine (failsInStore_mapError _).bind fun items => ?_
  exact failsInStore_ok _

/-! ## Answered queries -/

/-- What a selection has, if it is answered: the `id`s of all that it finds. -/
theorem idsOf_eq_ok {x : Session} (h : Integrity x.pool.store) {sel : Selection}
    (provided : sel.Provided) {ids : Finset Int} (ok : x.idsOf sel = .ok ids) :
    x.pool.read = .ok x.pool.store ∧
      select x.planner x.pool.store sel = .ok (foundRows x.pool.store sel) ∧
      ids = ((found x.pool.store sel).map Record.id).toFinset := by
  obtain ⟨s, hread, ok⟩ := bind_eq_ok_iff.mp (mapError_eq_ok_iff.mp ok)
  obtain rfl : x.pool.store = s := store_of_read hread
  rcases Store.select_cases x.planner h provided with ⟨-, hselect⟩ | ⟨refused, -⟩
  · refine ⟨hread, hselect, ?_⟩
    rw [← Store.ids_foundRows]
    rw [hselect] at ok
    exact (Except.ok.inj ok).symm
  · rw [refused] at ok
    cases ok

/-- The `id`s of what is found are those of the work packages that are found. -/
theorem mem_idsOf {s : Store} {sel : Selection} {id : Int} :
    id ∈ ((found s sel).map Record.id).toFinset ↔
      ∃ w ∈ s.workPackages, w.id = id ∧ w ∈ found s sel := by
  rw [List.mem_toFinset, List.mem_map]
  constructor
  · rintro ⟨w, hw, hid⟩
    exact ⟨w, (List.mem_filter.mp hw).1, hid, hw⟩
  · rintro ⟨w, -, hid, hw⟩
    exact ⟨w, hw, hid⟩

/-- The work packages that are found have as many `id`s. -/
theorem card_idsOf {s : Store} (h : Integrity s) (sel : Selection) :
    ((found s sel).map Record.id).toFinset.card = (found s sel).length := by
  rw [List.toFinset_card_of_nodup (Store.nodup_found h sel), List.length_map]

/-- What a filter finds alone, if it is answered: all work packages that its predicate is true
of. -/
theorem mem_matchingFilter {x : Session} (h : Integrity x.pool.store) {project? : Option Int}
    {c : Clause} {p : Predicate} (hp : x.filterPredicate project? c = .ok p) {ids : Finset Int}
    (ok : x.matchingFilter project? c = .ok ids) {id : Int} :
    id ∈ ids ↔ ∃ w ∈ x.pool.store.workPackages,
      w.id = id ∧ Store.MeetsPredicate x.pool.store w p := by
  have all : (⟨[], [.constant true]⟩ : Selection).Provided := by
    intro c hc column hcolumn
    rw [List.mem_singleton.mp hc] at hcolumn
    cases hcolumn
  have provided : p.selection.Provided :=
    Predicate.provided_restrict (provided_filterPredicate hp) all
  unfold matchingFilter at ok
  rw [hp] at ok
  obtain ⟨-, -, rfl⟩ := idsOf_eq_ok h provided ok
  rw [mem_idsOf]
  refine exists_congr fun w => and_congr_right fun hw => and_congr_right fun _ => ?_
  unfold Predicate.selection
  rw [Store.mem_found_foldl_restrict, List.forall_mem_singleton]
  refine and_iff_right (List.mem_filter.mpr ⟨hw, rfl⟩)

/-- What a query finds, if it is answered: what its scope and its project admit and the predicate of
each filter is true of. -/
theorem mem_found_selection {x : Session} (h : Integrity x.pool.store) {q : Query}
    (builtIn : q.scope.IsBuiltIn) {sel : Selection} (hsel : x.selection q = .ok sel) {w : Record}
    (hw : w ∈ x.pool.store.workPackages) :
    w ∈ found x.pool.store sel ↔
      (q.scope.Admits x.pool.store w ∧ FromProject q.project? w) ∧
        ∀ c ∈ q.filters, ∀ p, x.filterPredicate q.project? c = .ok p →
          Store.MeetsPredicate x.pool.store w p := by
  obtain ⟨predicates, hp, rfl⟩ := selection_eq_ok_iff.mp hsel
  rw [Store.mem_found_foldl_restrict]
  refine and_congr ?_ ?_
  · unfold found
    rw [List.mem_filter, Store.meets_baseSelection h hw builtIn]
    exact and_iff_right hw
  · constructor
    · intro each c hc p hcp
      exact each p ((mem_of_mapM_eq_ok hp).mpr ⟨c, hc, hcp⟩)
    · intro each p mem
      obtain ⟨c, hc, hcp⟩ := (mem_of_mapM_eq_ok hp).mp mem
      exact each c hc p hcp

/-- A query with an answered page has a selection. -/
theorem exists_selection_of_page {x : Session} {q : Query} {p : Pagination}
    {page : Page WorkPackage} (ok : (x.page q p).result = .ok page) :
    ∃ sel, x.selection q = .ok sel := by
  rw [result_page] at ok
  obtain ⟨sel, hsel, -⟩ := bind_eq_ok_iff.mp ok
  exact ⟨sel, hsel⟩

/-- The page of a query, if it is answered: how many work packages are found, and a part of them as
the order arranges them. -/
theorem page_eq_ok {x : Session} (h : Integrity x.pool.store) {q : Query} {p : Pagination}
    {sel : Selection} (hsel : x.selection q = .ok sel) {page : Page WorkPackage}
    (ok : (x.page q p).result = .ok page) :
    ∃ fields items, x.sortFields q = .ok fields ∧
      (((arranged x.pool.store sel (orderTerms fields)).drop (p.offset x.settings)).take
        (p.size x.settings)).mapM WorkPackage.ofRecord = .ok items ∧
      page = ⟨items, (found x.pool.store sel).length, p.number, p.size x.settings⟩ := by
  rw [result_page] at ok
  obtain ⟨sel', hsel', ok⟩ := bind_eq_ok_iff.mp ok
  obtain rfl : sel = sel' := Except.ok.inj (hsel.symm.trans hsel')
  obtain ⟨fields, hfields, ok⟩ := bind_eq_ok_iff.mp ok
  obtain ⟨total, htotal, ok⟩ := bind_eq_ok_iff.mp ok
  obtain ⟨items, hitems, ok⟩ := bind_eq_ok_iff.mp ok
  have provided := provided_pageSelection (provided_selection hsel) fields
  obtain ⟨s, hs, htotal⟩ := bind_eq_ok_iff.mp (mapError_eq_ok_iff.mp htotal)
  obtain ⟨s', hs', hitems⟩ := bind_eq_ok_iff.mp (mapError_eq_ok_iff.mp hitems)
  obtain rfl : x.pool.store = s := store_of_read hs
  obtain rfl : x.pool.store = s' := store_of_read hs'
  obtain ⟨rows, hrows, hitems⟩ := bind_eq_ok_iff.mp hitems
  have listed := Store.page_eq h provided
    (available_pageSelection (resolved_of_sortFields hfields)) hrows
  refine ⟨fields, items, hfields, ?_, ?_⟩
  · rw [← arranged_pageSelection, ← listed, List.mapM_map]
    exact hitems
  · rw [Store.count_eq h provided, found_pageSelection] at htotal
    cases hselect : select x.planner x.pool.store (pageSelection sel fields) with
    | error e =>
      rw [hselect] at htotal
      cases htotal
    | ok selected =>
      rw [hselect] at htotal
      rw [← Except.ok.inj ok, ← Except.ok.inj htotal]

/-- An answered query finds as many work packages as it counts. -/
theorem count_of_matching {x : Session} (h : Integrity x.pool.store) {q : Query} {ids : Finset Int}
    (ok : x.matching q = .ok ids) : (x.count q).result = .ok ids.card := by
  obtain ⟨sel, hsel, ok⟩ := bind_eq_ok_iff.mp ok
  have provided := provided_selection hsel
  obtain ⟨hread, hselect, rfl⟩ := idsOf_eq_ok h provided ok
  have counted : x.pool.store.count x.planner sel = .ok (found x.pool.store sel).length := by
    rw [Store.count_eq h provided, hselect]
    rfl
  rw [result_count, hsel, card_idsOf h]
  refine bind_eq_ok_iff.mpr ⟨sel, rfl, mapError_eq_ok_iff.mpr ?_⟩
  exact bind_eq_ok_iff.mpr ⟨_, hread, counted⟩

/-- Queries that differ in their filters, but have the same ones, find the same work packages. -/
theorem found_congr_filters {x : Session} (h : Integrity x.pool.store) {q : Query}
    (builtIn : q.scope.IsBuiltIn) {filters : List Clause} (same : ∀ c, c ∈ filters ↔ c ∈ q.filters)
    {sel sel' : Selection} (hsel : x.selection q = .ok sel)
    (hsel' : x.selection { q with filters := filters } = .ok sel') :
    found x.pool.store sel' = found x.pool.store sel := by
  refine List.filter_congr fun w hw => ?_
  have inFound (sel : Selection) : sel.conditions.all (meets x.pool.store w) = true ↔
      w ∈ found x.pool.store sel := by
    unfold found
    rw [List.mem_filter]
    exact (and_iff_right hw).symm
  have scope : ({ q with filters := filters } : Query).scope.IsBuiltIn := builtIn
  rw [Bool.eq_iff_iff, inFound, inFound, mem_found_selection h builtIn hsel hw,
    mem_found_selection h scope hsel' hw]
  exact and_congr_right fun _ => forall_congr' fun c => by rw [same]

/-- An `id` is among those that a query finds if the scope admits it, it is from the project and
each filter finds it alone. -/
theorem mem_matching {x : Session} (h : Integrity x.pool.store) {q : Query}
    (builtIn : q.scope.IsBuiltIn) {ids : Finset Int} (hids : x.matching q = .ok ids)
    {filterIds : Clause → Finset Int}
    (alone : ∀ c ∈ q.filters, x.matchingFilter q.project? c = .ok (filterIds c)) {id : Int} :
    id ∈ ids ↔ id ∈ x.pool.store.admittedIds q.scope ∧
      id ∈ x.pool.store.projectIds q.project? ∧ ∀ c ∈ q.filters, id ∈ filterIds c := by
  obtain ⟨sel, hsel, hidsOf⟩ := bind_eq_ok_iff.mp hids
  obtain ⟨-, -, rfl⟩ := idsOf_eq_ok h (provided_selection hsel) hidsOf
  -- two work packages with the same `id` are one
  have unique {w w' : Record} (hw : w ∈ x.pool.store.workPackages)
      (hw' : w' ∈ x.pool.store.workPackages) (hid : w.id = id) (hid' : w'.id = id) : w = w' :=
    h.eq_of_id_eq (t := .workPackages) hw hw' (hid.trans hid'.symm)
  rw [mem_idsOf]
  constructor
  · rintro ⟨w, hw, hid, hfound⟩
    obtain ⟨⟨admitted, project⟩, each⟩ := (mem_found_selection h builtIn hsel hw).mp hfound
    refine ⟨⟨w, hw, hid, admitted⟩, ⟨w, hw, hid, project⟩, fun c hc => ?_⟩
    obtain ⟨p, hp, -⟩ := bind_eq_ok_iff.mp (alone c hc)
    exact (mem_matchingFilter h hp (alone c hc)).mpr ⟨w, hw, hid, each c hc p hp⟩
  · rintro ⟨⟨w, hw, hid, admitted⟩, ⟨w', hw', hid', project⟩, each⟩
    obtain rfl := unique hw hw' hid hid'
    refine ⟨w, hw, hid, (mem_found_selection h builtIn hsel hw).mpr ⟨⟨admitted, project⟩, ?_⟩⟩
    intro c hc p hp
    obtain ⟨w', hw', hid', met⟩ := (mem_matchingFilter h hp (alone c hc)).mp (each c hc)
    obtain rfl := unique hw hw' hid hid'
    exact met

/-- The total of a page is how many work packages the query finds, and it lists some of them. -/
theorem page_of_matching {x : Session} (h : Integrity x.pool.store) {q : Query} {ids : Finset Int}
    (hids : x.matching q = .ok ids) {p : Pagination} {page : Page WorkPackage}
    (ok : (x.page q p).result = .ok page) :
    page.total = ids.card ∧ ∀ w ∈ page.items, w.id ∈ ids := by
  obtain ⟨sel, hsel, hidsOf⟩ := bind_eq_ok_iff.mp hids
  obtain ⟨-, -, rfl⟩ := idsOf_eq_ok h (provided_selection hsel) hidsOf
  obtain ⟨fields, items, -, hitems, rfl⟩ := page_eq_ok h hsel ok
  refine ⟨(card_idsOf h sel).symm, ?_⟩
  intro w hw
  obtain ⟨r, hr, hw⟩ := (mem_of_mapM_eq_ok hitems).mp hw
  have hfound : r ∈ found x.pool.store sel :=
    List.mem_mergeSort.mp (List.mem_of_mem_drop (List.mem_of_mem_take hr))
  rw [WorkPackage.id_eq_of_ofRecord hw, List.mem_toFinset]
  exact List.mem_map_of_mem hfound

/-- The same filters in another order, or repeated, find the same `id`s. -/
theorem matching_congr_filters {x : Session} (h : Integrity x.pool.store) {q : Query}
    (builtIn : q.scope.IsBuiltIn) {filters : List Clause} (same : ∀ c, c ∈ filters ↔ c ∈ q.filters)
    {ids ids' : Finset Int} (hids : x.matching q = .ok ids)
    (hids' : x.matching { q with filters := filters } = .ok ids') : ids' = ids := by
  obtain ⟨sel, hsel, hidsOf⟩ := bind_eq_ok_iff.mp hids
  obtain ⟨sel', hsel', hidsOf'⟩ := bind_eq_ok_iff.mp hids'
  obtain ⟨-, -, rfl⟩ := idsOf_eq_ok h (provided_selection hsel) hidsOf
  obtain ⟨-, -, rfl⟩ := idsOf_eq_ok h (provided_selection hsel') hidsOf'
  rw [found_congr_filters h builtIn same hsel hsel']

/-- The same filters in another order, or repeated, have the same pages. -/
theorem page_congr_filters {x : Session} (h : Integrity x.pool.store) {q : Query}
    (builtIn : q.scope.IsBuiltIn) {filters : List Clause} (same : ∀ c, c ∈ filters ↔ c ∈ q.filters)
    {p : Pagination} {page page' : Page WorkPackage} (ok : (x.page q p).result = .ok page)
    (ok' : (x.page { q with filters := filters } p).result = .ok page') : page' = page := by
  obtain ⟨sel, hsel⟩ := exists_selection_of_page ok
  obtain ⟨sel', hsel'⟩ := exists_selection_of_page ok'
  obtain ⟨fields, items, hfields, hitems, rfl⟩ := page_eq_ok h hsel ok
  obtain ⟨fields', items', hfields', hitems', rfl⟩ := page_eq_ok h hsel' ok'
  have equal : found x.pool.store sel' = found x.pool.store sel :=
    found_congr_filters h builtIn same hsel hsel'
  obtain rfl : fields' = fields := Except.ok.inj (hfields'.symm.trans hfields)
  unfold arranged at hitems hitems'
  rw [equal, hitems] at hitems'
  rw [equal, Except.ok.inj hitems']

/-- The `id`s that a query finds are those that its scope admits, that are from its project and that
each filter finds alone. The count is how many they are, and so is the total of each page, which
lists some of them. None of this changes when the same filters come in another order or repeatedly,
as long as the store answers. -/
theorem matching_composes {x : Session} {q : Query} (reachable : Reachable x.pool.store)
    (builtIn : q.scope.IsBuiltIn) (filters : ∀ c ∈ q.filters, x.Resolves c)
    (order : x.ResolvesOrder q) (answered : NoStoreError (x.matching q))
    (alone : ∀ c ∈ q.filters, NoStoreError (x.matchingFilter q.project? c)) :
    ∃ (ids : Finset Int) (filterIds : Clause → Finset Int),
      x.matching q = .ok ids ∧
      (∀ c ∈ q.filters, x.matchingFilter q.project? c = .ok (filterIds c)) ∧
      (∀ id, id ∈ ids ↔ id ∈ x.pool.store.admittedIds q.scope ∧
        id ∈ x.pool.store.projectIds q.project? ∧ ∀ c ∈ q.filters, id ∈ filterIds c) ∧
      (x.count q).result = .ok ids.card ∧
      (∀ p, NoStoreError (x.page q p).result → ∃ page, (x.page q p).result = .ok page ∧
        page.total = ids.card ∧ ∀ w ∈ page.items, w.id ∈ ids) ∧
      ∀ filters', (∀ c, c ∈ filters' ↔ c ∈ q.filters) →
        (NoStoreError (x.matching { q with filters := filters' }) →
          x.matching { q with filters := filters' } = .ok ids ∧
          (x.count { q with filters := filters' }).result = .ok ids.card) ∧
        ∀ p, NoStoreError (x.page q p).result →
          NoStoreError (x.page { q with filters := filters' } p).result →
          (x.page { q with filters := filters' } p).result = (x.page q p).result := by
  have h := reachable.integrity
  obtain ⟨ids, hids⟩ := (failsInStore_matching filters).ok_of_noStoreError answered
  have each (c : Clause) : ∃ ids, c ∈ q.filters → x.matchingFilter q.project? c = .ok ids := by
    by_cases hc : c ∈ q.filters
    · have fails := failsInStore_matchingFilter (filters c hc) q.project?
      obtain ⟨ids, hok⟩ := fails.ok_of_noStoreError (alone c hc)
      exact ⟨ids, fun _ => hok⟩
    · exact ⟨∅, fun mem => absurd mem hc⟩
  -- to a clause that is no filter of the query any set may be given
  choose filterIds hfilterIds using each
  refine ⟨ids, filterIds, hids, hfilterIds, fun id => mem_matching h builtIn hids hfilterIds,
    count_of_matching h hids, ?_, ?_⟩
  · intro p hp
    obtain ⟨page, hpage⟩ := (failsInStore_page filters order p).ok_of_noStoreError hp
    exact ⟨page, hpage, page_of_matching h hids hpage⟩
  · intro filters' same
    have resolve (c : Clause) (hc : c ∈ filters') : x.Resolves c := filters c ((same c).mp hc)
    refine ⟨?_, ?_⟩
    · intro answered'
      obtain ⟨ids', hids'⟩ := (failsInStore_matching (q := { q with filters := filters' })
        resolve).ok_of_noStoreError answered'
      have equal : ids' = ids := matching_congr_filters h builtIn same hids hids'
      rw [← equal]
      exact ⟨hids', count_of_matching h hids'⟩
    · intro p hp hp'
      obtain ⟨page, hpage⟩ := (failsInStore_page filters order p).ok_of_noStoreError hp
      obtain ⟨page', hpage'⟩ := (failsInStore_page (q := { q with filters := filters' })
        resolve order p).ok_of_noStoreError hp'
      rw [hpage, hpage', page_congr_filters h builtIn same hpage hpage']

/-- One work package is found by both filters, in the project and in the scope. -/
theorem matching_composes_sampleQuery :
    ∃ (ids : Finset Int) (filterIds : Clause → Finset Int),
      sampleSession.matching sampleQuery = .ok ids ∧
      (∀ c ∈ sampleQuery.filters, sampleSession.matchingFilter (some 1) c = .ok (filterIds c)) ∧
      (∀ id, id ∈ ids ↔ id ∈ sampleSession.pool.store.admittedIds (.projects [1, 2]) ∧
        id ∈ sampleSession.pool.store.projectIds (some 1) ∧
        ∀ c ∈ sampleQuery.filters, id ∈ filterIds c) ∧
      (sampleSession.count sampleQuery).result = .ok ids.card ∧ ids = {1} := by
  have found : sampleSession.matching sampleQuery = .ok {1} := by decide +kernel
  have answered : NoStoreError (sampleSession.matching sampleQuery) := by
    rw [found]
    rintro e ⟨⟩
  have resolve : ∀ c ∈ sampleQuery.filters, sampleSession.Resolves c := by
    simp only [sampleQuery, List.forall_mem_cons]
    exact ⟨Or.inr ⟨_, rfl⟩, Or.inr ⟨_, rfl⟩, by simp⟩
  have order : sampleSession.ResolvesOrder sampleQuery := by
    simp only [ResolvesOrder, sampleQuery, List.forall_mem_singleton]
    exact ⟨_, rfl⟩
  have alone : ∀ c ∈ sampleQuery.filters,
      NoStoreError (sampleSession.matchingFilter sampleQuery.project? c) := by
    have open_ids : sampleSession.matchingFilter (some 1)
        ⟨.plain "status_id", .openStatus, [], false⟩ = .ok {1, 3} := by decide +kernel
    have text_ids : sampleSession.matchingFilter (some 1)
        ⟨.plain "subject", .contains, ["Alpha"], false⟩ = .ok {1, 3} := by decide +kernel
    simp only [sampleQuery, List.forall_mem_cons, open_ids, text_ids]
    exact ⟨by rintro e ⟨⟩, by rintro e ⟨⟩, by simp⟩
  obtain ⟨ids, filterIds, hids, halone, hmem, hcount, -⟩ := matching_composes
    (Store.reachable_ofRows sampleRows) (by rintro sql ⟨⟩) resolve order answered alone
  exact ⟨ids, filterIds, hids, halone, hmem, hcount, Except.ok.inj (hids.symm.trans found)⟩

end Session

end Worklist
