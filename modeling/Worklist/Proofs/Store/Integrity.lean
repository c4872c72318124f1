import Mathlib.Data.List.Nodup
import Worklist.Store.Insert

/-!
# The integrity of stores

A store that is reached from the empty one by putting rows into it keeps the rules of the schema:
no two records of a table share their `id` or its key, required columns have values, references are
missing or point at a record, and every column holds what its affinity keeps. One insertion
preserves the rules, and induction carries them to every reachable store.
-/

set_option autoImplicit false

namespace Worklist.Store

/-- The stores that insertions lead to, one after the other, from the empty one. -/
inductive Reachable : Store → Prop where
  | empty : Reachable Store.empty
  | insert {s s' : Store} {t : Table} {row : NewRow} (before : Reachable s)
      (inserted : s.insert t row = .ok s') : Reachable s'

/-- The rules of the schema, as a store keeps them. -/
structure Integrity (s : Store) : Prop where
  /-- No two records of a table have one `id`. -/
  ids : ∀ t, ((s.records t).map Record.id).Nodup
  /-- No two records of a table agree in its key. -/
  keys : ∀ t, (s.records t).Pairwise fun a b => sameKey t a b = false
  /-- Required columns have a value. -/
  required : ∀ t, ∀ r ∈ s.records t, ∀ c ∈ t.columns, c.required = true → r.get c.name ≠ .null
  /-- What refers to a table is missing or the `id` of one of its records. -/
  references : ∀ t, ∀ r ∈ s.records t, ∀ c ∈ t.columns, ∀ target, c.refersTo? = some target →
    r.get c.name = .null ∨ ∃ id, r.get c.name = .int id ∧ s.hasId target id = true
  /-- A column holds what its affinity keeps of some value. -/
  kept : ∀ t, ∀ r ∈ s.records t, ∀ name, ∃ v, r.get name = (t.affinity name).keep v

/-! ## One insertion -/

/-- What an insertion that succeeds does: it adds the record of the row, which passed the check. -/
theorem insert_cases {s s' : Store} {t : Table} {row : NewRow} (h : s.insert t row = .ok s') :
    ∃ id, check s t (recordFor t id row) = .ok () ∧ s' = s.add t (recordFor t id row) := by
  unfold insert at h
  split at h
  · cases h
  · cases hid : idFor s t row with
    | error e => rw [hid] at h; cases h
    | ok id =>
      rw [hid] at h
      cases hcheck : check s t (recordFor t id row) with
      | error e =>
        simp only [bind, Except.bind, hcheck] at h
        cases h
      | ok u =>
        simp only [bind, Except.bind, hcheck, pure, Except.pure, Except.ok.injEq] at h
        exact ⟨id, hcheck, h.symm⟩

/-- What the check of a record establishes. -/
theorem check_cases {s : Store} {t : Table} {r : Record} (h : check s t r = .ok ()) :
    missingColumn? t r = none ∧ s.hasId t r.id = false ∧ (s.records t).any (sameKey t r) = false ∧
      t.columns.all (refers s t r) = true := by
  unfold check at h
  split at h
  · cases h
  · rename_i complete
    split_ifs at h with hid hkey hrefers
    exact ⟨complete, by simpa using hid, by simpa using hkey, hrefers⟩

/-- Named entries are looked up by their names. -/
theorem lookup_map_eq {α β : Type} (name : α → String) (value : α → β) (entries : List α)
    (key : String) : (entries.map fun e => (name e, value e)).lookup key =
      (entries.find? fun e => name e == key).map value := by
  induction entries with
  | nil => rfl
  | cons e entries ih =>
    rw [List.map_cons, List.lookup_cons, List.find?_cons, Bool.beq_comm]
    cases name e == key with
    | true => rfl
    | false => exact ih

/-- A new record holds what the affinity of each column keeps. -/
theorem kept_recordFor (t : Table) (id : Int) (row : NewRow) (name : String) :
    ∃ v, (recordFor t id row).get name = (t.affinity name).keep v := by
  unfold Record.get
  split_ifs with isId
  · have own : t.affinity "id" = .integer := by
      cases t <;> rfl
    exact ⟨.int id, by rw [isId, own]; rfl⟩
  · have found := lookup_map_eq TableColumn.name
      (fun c : TableColumn => c.affinity.keep ((row.lookup c.name).getD c.initial)) t.columns name
    have cells : (recordFor t id row).cells.lookup name = _ := found
    rw [cells]
    unfold Table.affinity
    cases t.columns.find? fun c => c.name == name with
    | none => exact ⟨.null, rfl⟩
    | some c => exact ⟨_, rfl⟩

/-- A record that refers to what exists, or to itself, does so when it is in its table. -/
theorem hasId_add_of_refers {s : Store} {t : Table} {r : Record} {c : TableColumn} {target : Table}
    (hc : c.refersTo? = some target) (h : refers s t r c = true) :
    r.get c.name = .null ∨ ∃ id, r.get c.name = .int id ∧ (s.add t r).hasId target id = true := by
  unfold refers at h
  rw [hc] at h
  cases hv : r.get c.name with
  | null => exact Or.inl rfl
  | int id =>
    rw [hv] at h
    refine Or.inr ⟨id, rfl, ?_⟩
    unfold hasId at h ⊢
    rw [records_add]
    by_cases ht : t = target
    · subst ht
      simp only [beq_self_eq_true, Bool.true_and, Bool.or_eq_true, List.any_eq_true,
        beq_iff_eq] at h
      rw [if_pos rfl, List.any_append, Bool.or_eq_true]
      rcases h with ⟨x, hx, e⟩ | e
      · exact Or.inl (List.any_eq_true.mpr ⟨x, hx, beq_iff_eq.mpr e⟩)
      · exact Or.inr (by simp [e])
    · have different : (target == t) = false := beq_eq_false_iff_ne.mpr (Ne.symm ht)
      rw [if_neg ht]
      simpa only [different, Bool.false_and, Bool.or_false] using h
  | real x => rw [hv] at h; cases h
  | infinite negative => rw [hv] at h; cases h
  | text s => rw [hv] at h; cases h

/-- A record that is there stays there when another one is added. -/
theorem hasId_add {s : Store} {t target : Table} {r : Record} {id : Int}
    (h : s.hasId target id = true) : (s.add t r).hasId target id = true := by
  unfold hasId at h ⊢
  rw [records_add]
  split
  · rw [List.any_append, h, Bool.true_or]
  · exact h

/-- One insertion keeps the rules of the schema. -/
theorem Integrity.insert {s s' : Store} {t : Table} {row : NewRow} (before : Integrity s)
    (h : s.insert t row = .ok s') : Integrity s' := by
  obtain ⟨id, hcheck, rfl⟩ := insert_cases h
  obtain ⟨complete, freshId, freshKey, refersAll⟩ := check_cases hcheck
  generalize hr : recordFor t id row = r at *
  -- a record of the new store was there before, or it is the one that was added
  have mem_records (u : Table) (x : Record) (hx : x ∈ (s.add t r).records u) :
      x ∈ s.records u ∨ (u = t ∧ x = r) := by
    rw [records_add] at hx
    split at hx
    · rename_i htu
      rcases List.mem_append.mp hx with hx | hx
      · exact Or.inl hx
      · exact Or.inr ⟨htu.symm, List.mem_singleton.mp hx⟩
    · exact Or.inl hx
  -- the check said of the new record what each rule says of the records before it
  refine ⟨?_, ?_, ?_, ?_, ?_⟩
  · intro u
    rw [records_add]
    split
    · rename_i htu
      subst htu
      rw [List.map_append, List.nodup_append]
      refine ⟨before.ids t, List.nodup_singleton _, ?_⟩
      intro a ha b hb
      obtain ⟨x, hx, rfl⟩ := List.mem_map.mp ha
      rw [List.map_singleton, List.mem_singleton] at hb
      intro e
      have found : s.hasId t r.id = true :=
        List.any_eq_true.mpr ⟨x, hx, beq_iff_eq.mpr (e.trans hb)⟩
      rw [freshId] at found
      cases found
    · exact before.ids u
  · intro u
    rw [records_add]
    split
    · rename_i htu
      subst htu
      rw [List.pairwise_append]
      refine ⟨before.keys t, List.pairwise_singleton _ _, ?_⟩
      intro a ha b hb
      rw [List.mem_singleton.mp hb]
      have different := List.any_eq_false.mp freshKey a ha
      have symmetric : sameKey t a r = sameKey t r a := by
        unfold sameKey
        simp only [Bool.beq_comm]
      rw [symmetric]
      simpa using different
    · exact before.keys u
  · intro u x hx c hc hrequired
    rcases mem_records u x hx with hx | ⟨rfl, rfl⟩
    · exact before.required u x hx c hc hrequired
    · unfold missingColumn? at complete
      rw [Option.map_eq_none_iff, List.find?_eq_none] at complete
      have present := complete c hc
      intro missing
      rw [hrequired, missing] at present
      exact present rfl
  · intro u x hx c hc target htarget
    rcases mem_records u x hx with hx | ⟨rfl, rfl⟩
    · rcases before.references u x hx c hc target htarget with missing | ⟨id', hv, hid⟩
      · exact Or.inl missing
      · exact Or.inr ⟨id', hv, hasId_add hid⟩
    · exact hasId_add_of_refers htarget (List.all_eq_true.mp refersAll c hc)
  · intro u x hx name
    rcases mem_records u x hx with hx | ⟨rfl, rfl⟩
    · exact before.kept u x hx name
    · rw [← hr]
      exact kept_recordFor u id row name

/-! ## All insertions -/

/-- The store without records has its integrity. -/
theorem integrity_empty : Integrity Store.empty where
  ids t := by cases t <;> exact List.nodup_nil
  keys t := by cases t <;> exact List.Pairwise.nil
  required t r hr := by cases t <;> cases hr
  references t r hr := by cases t <;> cases hr
  kept t r hr := by cases t <;> cases hr

/-- Every store that insertions lead to keeps the rules of the schema. -/
theorem Reachable.integrity {s : Store} (h : Reachable s) : Integrity s := by
  induction h with
  | empty => exact integrity_empty
  | insert _ inserted ih => exact ih.insert inserted

/-- Puts rows into tables, one after the other. -/
def insertAll (s : Store) (rows : List (Table × NewRow)) : Except InsertError Store :=
  rows.foldlM (fun s row => s.insert row.1 row.2) s

/-- Rows that are put in one after the other lead to a reachable store. -/
theorem Reachable.insertAll {s s' : Store} (h : Reachable s) {rows : List (Table × NewRow)}
    (ok : s.insertAll rows = .ok s') : Reachable s' := by
  induction rows generalizing s with
  | nil =>
    rw [← Except.ok.inj ok]
    exact h
  | cons row rows ih =>
    cases hrow : s.insert row.1 row.2 with
    | error e =>
      simp only [Store.insertAll, List.foldlM_cons, hrow, bind, Except.bind] at ok
      cases ok
    | ok next =>
      simp only [Store.insertAll, List.foldlM_cons, hrow, bind, Except.bind] at ok
      exact ih (h.insert hrow) ok

/-- The store that rows lead to, if none of them is refused. -/
def ofRows (rows : List (Table × NewRow)) : Store :=
  (Store.empty.insertAll rows).toOption.getD Store.empty

/-- The store of some rows can be reached. -/
theorem reachable_ofRows (rows : List (Table × NewRow)) : Reachable (ofRows rows) := by
  unfold ofRows
  cases h : Store.empty.insertAll rows with
  | error e => exact .empty
  | ok s => exact Reachable.empty.insertAll h

/-! ## What the rules say about a record -/

/-- Records of one table with one `id` are one record. -/
theorem Integrity.eq_of_id_eq {s : Store} (h : Integrity s) {t : Table} {a b : Record}
    (ha : a ∈ s.records t) (hb : b ∈ s.records t) (hid : a.id = b.id) : a = b :=
  List.inj_on_of_nodup_map (h.ids t) ha hb hid

/-- A required column that refers to a table holds the `id` of one of its records. -/
theorem Integrity.whole_of_required {s : Store} (h : Integrity s) {t : Table} {r : Record}
    (hr : r ∈ s.records t) {c : TableColumn} (hc : c ∈ t.columns) (hrequired : c.required = true)
    {target : Table} (htarget : c.refersTo? = some target) :
    ∃ id, r.get c.name = .int id := by
  rcases h.references t r hr c hc target htarget with missing | ⟨id, hv, -⟩
  · exact absurd missing (h.required t r hr c hc hrequired)
  · exact ⟨id, hv⟩

end Worklist.Store
