import Worklist.Proofs.Query.Answers
import Worklist.Proofs.Store.Grouped

/-!
# Group counts are a histogram

The order of group keys is strict and total, and adding to group counts keeps them ascending and
changes the count of one key only. So the counts of a query sum up to how many work packages it
finds, and the count of a key is how many of these have a value that is read as the key. The store
shows one value for all that it takes as one, which matters only where such values differ.
-/

set_option autoImplicit false

namespace Worklist

open Std (LawfulEqCmp OrientedCmp ReflCmp TransCmp)
open Sql (Column Selection)
open Store (Group Integrity Record Row Value cell columnAffinity completed found foundRows
  groupsOf sameValue select valuesOf)

/-! ## The order of keys -/

namespace GroupKey

/-- No value, a whole number or a text, in this order. -/
def rank : GroupKey → Nat
  | .null => 0
  | .int _ => 1
  | .text _ => 2

/-- The number of a key, and zero for all others. -/
def intPart : GroupKey → Int
  | .int n => n
  | _ => 0

/-- The text of a key, and the empty text for all others. -/
def textPart : GroupKey → String
  | .text s => s
  | _ => ""

/-- Keys are ordered by kind, then as numbers, then as texts. -/
theorem order_eq_lex :
    order = compareLex (compareOn rank) (compareLex (compareOn intPart) (compareOn textPart)) := by
  funext a b
  cases a <;> cases b <;>
    simp [order, compareLex, compareOn, rank, intPart, textPart, Nat.compare_eq_lt.mpr,
      Nat.compare_eq_gt.mpr]

instance : TransCmp order := by
  rw [order_eq_lex]
  infer_instance

instance : LawfulEqCmp order where
  eq_of_compare {a b} h := by
    match a, b, h with
    | .null, .null, _ => rfl
    | .int m, .int n, h =>
      have equal : compare m n = .eq := h
      rw [LawfulEqCmp.eq_of_compare equal]
    | .text s, .text t, h =>
      have equal : compare s t = .eq := h
      rw [LawfulEqCmp.eq_of_compare equal]

/-- In the order of keys a key is equal to itself. -/
@[simp]
theorem order_self (key : GroupKey) : key.order key = .eq :=
  ReflCmp.compare_self

end GroupKey

/-! ## Adding to counts -/

namespace GroupCounts

/-- The count of a key; a key that has no entry has none. -/
def of (counts : GroupCounts) (key : GroupKey) : Nat :=
  (counts.lookup key).getD 0

/-- All counts together. -/
def total (counts : GroupCounts) : Nat :=
  (counts.map Prod.snd).sum

/-- Whether keys ascend strictly. -/
def Ascending (counts : GroupCounts) : Prop :=
  counts.Pairwise fun a b => a.1.order b.1 = .lt

/-- Adding to one count adds to the total. -/
theorem total_add (counts : GroupCounts) (key : GroupKey) (n : Nat) :
    (counts.add key n).total = counts.total + n := by
  induction counts with
  | nil => simp [add, total]
  | cons entry counts ih =>
    obtain ⟨k, m⟩ := entry
    rw [add]
    unfold total at ih ⊢
    split
    · simp only [List.map_cons, List.sum_cons]
      omega
    · simp only [List.map_cons, List.sum_cons]
      omega
    · rw [List.map_cons, List.map_cons, List.sum_cons, List.sum_cons, ih]
      omega

/-- After adding there is no key but those there were and the one that was added to. -/
theorem key_of_mem_add {counts : GroupCounts} {key : GroupKey} {n : Nat} {entry : GroupKey × Nat}
    (h : entry ∈ counts.add key n) : entry.1 = key ∨ ∃ old ∈ counts, old.1 = entry.1 := by
  induction counts with
  | nil =>
    rw [List.mem_singleton.mp h]
    exact Or.inl rfl
  | cons first counts ih =>
    obtain ⟨k, m⟩ := first
    rw [add] at h
    split at h
    · rcases List.mem_cons.mp h with rfl | h
      · exact Or.inl rfl
      · exact Or.inr ⟨entry, h, rfl⟩
    · rcases List.mem_cons.mp h with rfl | h
      · exact Or.inr ⟨(k, m), List.mem_cons_self, rfl⟩
      · exact Or.inr ⟨entry, List.mem_cons_of_mem _ h, rfl⟩
    · rcases List.mem_cons.mp h with rfl | h
      · exact Or.inr ⟨(k, m), List.mem_cons_self, rfl⟩
      · rcases ih h with own | ⟨old, hold, same⟩
        · exact Or.inl own
        · exact Or.inr ⟨old, List.mem_cons_of_mem _ hold, same⟩

/-- Adding keeps keys in strictly ascending order. -/
theorem Ascending.add {counts : GroupCounts} (h : counts.Ascending) (key : GroupKey) (n : Nat) :
    (counts.add key n).Ascending := by
  induction counts with
  | nil => exact List.pairwise_singleton _ _
  | cons entry counts ih =>
    obtain ⟨k, m⟩ := entry
    obtain ⟨least, rest⟩ := List.pairwise_cons.mp h
    rw [GroupCounts.add]
    split
    · rename_i smaller
      refine List.pairwise_cons.mpr ⟨?_, h⟩
      intro later hlater
      rcases List.mem_cons.mp hlater with rfl | hlater
      · exact smaller
      · exact TransCmp.lt_trans smaller (least later hlater)
    · exact List.pairwise_cons.mpr ⟨least, rest⟩
    · rename_i greater
      refine List.pairwise_cons.mpr ⟨?_, ih rest⟩
      intro later hlater
      rcases key_of_mem_add hlater with own | ⟨old, hold, same⟩
      · rw [own]
        exact OrientedCmp.lt_of_gt greater
      · rw [← same]
        exact least old hold

/-- A key before all entries has no count. -/
theorem of_eq_zero {counts : GroupCounts} {key : GroupKey}
    (h : ∀ entry ∈ counts, key.order entry.1 = .lt) : counts.of key = 0 := by
  have none : counts.lookup key = none := by
    rw [List.lookup_eq_none_iff]
    intro entry hentry
    rw [bne_iff_ne]
    rintro rfl
    have self := h entry hentry
    rw [GroupKey.order_self] at self
    cases self
  unfold of
  rw [none]
  rfl

/-- The count of a key is that of the first entry with it. -/
theorem of_cons (k : GroupKey) (m : Nat) (counts : GroupCounts) (key : GroupKey) :
    of ((k, m) :: counts) key = if key = k then m else counts.of key := by
  unfold of
  rw [List.lookup_cons]
  by_cases h : key = k
  · rw [h, beq_self_eq_true, if_pos rfl]
    rfl
  · rw [beq_eq_false_iff_ne.mpr h, if_neg h]

/-- Adding changes the count of the one key only. -/
theorem Ascending.of_add {counts : GroupCounts} (h : counts.Ascending) (key : GroupKey) (n : Nat)
    (k : GroupKey) : (counts.add key n).of k = counts.of k + if k = key then n else 0 := by
  induction counts with
  | nil =>
    rw [GroupCounts.add, of_cons]
    split_ifs <;> simp [of]
  | cons entry counts ih =>
    obtain ⟨l, m⟩ := entry
    obtain ⟨least, rest⟩ := List.pairwise_cons.mp h
    rw [GroupCounts.add]
    split
    · rename_i smaller
      have absent : of ((l, m) :: counts) key = 0 := by
        refine of_eq_zero fun later hlater => ?_
        rcases List.mem_cons.mp hlater with rfl | hlater
        · exact smaller
        · exact TransCmp.lt_trans smaller (least later hlater)
      rw [of_cons key n]
      by_cases hk : k = key
      · rw [if_pos hk, if_pos hk, hk, absent, Nat.zero_add]
      · rw [if_neg hk, if_neg hk, Nat.add_zero]
    · rename_i equal
      obtain rfl : key = l := LawfulEqCmp.eq_of_compare equal
      rw [of_cons, of_cons]
      split_ifs <;> rfl
    · rename_i greater
      have different : key ≠ l := by
        rintro rfl
        rw [GroupKey.order_self] at greater
        cases greater
      rw [of_cons, of_cons, ih rest]
      by_cases hk : k = l
      · rw [if_pos hk, if_pos hk, if_neg fun e => different (e.symm.trans hk), Nat.add_zero]
      · rw [if_neg hk, if_neg hk]

/-- Adding to counts that are not zero leaves none that is zero. -/
theorem ne_zero_add {counts : GroupCounts} (h : ∀ entry ∈ counts, entry.2 ≠ 0) (key : GroupKey)
    {n : Nat} (hn : n ≠ 0) : ∀ entry ∈ counts.add key n, entry.2 ≠ 0 := by
  induction counts with
  | nil =>
    intro entry hentry
    rw [List.mem_singleton.mp hentry]
    exact hn
  | cons first counts ih =>
    obtain ⟨k, m⟩ := first
    rw [List.forall_mem_cons] at h
    rw [GroupCounts.add]
    split
    · rw [List.forall_mem_cons, List.forall_mem_cons]
      exact ⟨hn, h⟩
    · rw [List.forall_mem_cons]
      exact ⟨by simp only; omega, h.2⟩
    · rw [List.forall_mem_cons]
      exact ⟨h.1, ih h.2⟩

end GroupCounts

/-! ## Counting groups -/

/-- The key that a value of a field is read as. -/
def Field.keyOf (f : Field) (v : Value) : GroupKey :=
  .decode f (v.text?.filter fun s => !(f.isCustom && s.isEmpty))

/-- No value has no key. -/
theorem Field.keyOf_null (f : Field) : f.keyOf .null = .null := rfl

/-- An empty value of a custom field has no key. -/
theorem Field.keyOf_empty {f : Field} (h : f.isCustom = true) : f.keyOf (.text "") = .null := by
  unfold keyOf
  simp only [Value.text?, Option.filter, h]
  rfl

/-- All texts that a field of whole numbers reads as one number have this number as key. -/
theorem Field.keyOf_whole {f : Field} (h : f.isInteger = true) {s : String} {n : Int}
    (hn : Number.readInt64? (Text.trim s.toList) = some n) : f.keyOf (.text s) = .int n := by
  have nonempty : s.isEmpty = false := by
    rw [← Bool.not_eq_true, String.isEmpty_iff]
    rintro rfl
    cases hn
  unfold keyOf
  simp only [Value.text?, Option.filter, nonempty, Bool.and_false, Bool.not_false, if_true,
    GroupKey.decode, h, hn]

namespace Session

/-- One more group is added to the count of its key. -/
theorem groupCounts_append (f : Field) (groups : List Group) (g : Group) :
    groupCounts f (groups ++ [g]) =
      (groupCounts f groups).add (.decode f (groupText? f g)) g.count := by
  unfold groupCounts
  rw [List.foldl_append]
  rfl

/-- The counts of groups are in ascending order of their keys. -/
theorem ascending_groupCounts (f : Field) (groups : List Group) :
    (groupCounts f groups).Ascending := by
  induction groups using List.reverseRecOn with
  | nil => exact List.Pairwise.nil
  | append_singleton groups g ih =>
    rw [groupCounts_append]
    exact ih.add _ _

/-- The counts of groups have the total of the groups. -/
theorem total_groupCounts (f : Field) (groups : List Group) :
    (groupCounts f groups).total = (groups.map Group.count).sum := by
  induction groups using List.reverseRecOn with
  | nil => rfl
  | append_singleton groups g ih =>
    rw [groupCounts_append, GroupCounts.total_add, ih]
    simp

/-- The count of a key is how much is in the groups that are read as the key. -/
theorem of_groupCounts (f : Field) (groups : List Group) (k : GroupKey) :
    (groupCounts f groups).of k =
      ((groups.filter fun g => decide (GroupKey.decode f (groupText? f g) = k)).map
        Group.count).sum := by
  -- groups are added from the left, so the last one is added to the counts of the others
  induction groups using List.reverseRecOn with
  | nil => rfl
  | append_singleton groups g ih =>
    rw [groupCounts_append, (ascending_groupCounts f groups).of_add, ih, List.filter_append,
      List.map_append, List.sum_append]
    congr 1
    by_cases hk : GroupKey.decode f (groupText? f g) = k
    · simp [hk]
    · simp [hk, Ne.symm hk]

/-- The counts of groups that are not empty are not zero. -/
theorem ne_zero_groupCounts (f : Field) {groups : List Group} (h : ∀ g ∈ groups, g.count ≠ 0) :
    ∀ entry ∈ groupCounts f groups, entry.2 ≠ 0 := by
  induction groups using List.reverseRecOn with
  | nil =>
    intro entry hentry
    cases hentry
  | append_singleton groups g ih =>
    rw [groupCounts_append]
    refine GroupCounts.ne_zero_add (ih fun g' hg' => h g' (List.mem_append_left _ hg')) _ ?_
    exact h g (List.mem_append_right _ (List.mem_singleton.mpr rfl))

/-- The work packages that a query finds; none if one of its filters has no predicate. -/
def foundBy (x : Session) (q : Query) : List Record :=
  match x.selection q with
  | .ok sel => found x.pool.store sel
  | .error _ => []

/-- Whether a whole number that one of some work packages has in a column is taken as one only with
itself. -/
def WholesApart (s : Store) (c : Column) (workPackages : List Record) : Prop :=
  ∀ a ∈ workPackages, ∀ b ∈ workPackages, ∀ n, cell s a c = .int n →
    sameValue (.int n) (cell s b c) = true → cell s b c = .int n

/-- Values of a column that does not turn numbers into real ones are told apart, if whole numbers
are. -/
theorem eq_of_sameValue_cell {s : Store} (h : Integrity s) {c : Column}
    (kind : columnAffinity c ≠ .real) {workPackages : List Record}
    (sub : workPackages ⊆ s.workPackages)
    (apart : columnAffinity c = .integer → WholesApart s c workPackages) {a b : Record}
    (ha : a ∈ workPackages) (hb : b ∈ workPackages)
    (same : sameValue (cell s a c) (cell s b c) = true) : cell s a c = cell s b c := by
  obtain ⟨v, hv⟩ := Store.cell_kept h (sub ha) c
  obtain ⟨w, hw⟩ := Store.cell_kept h (sub hb) c
  have integer {v : Value} {n : Int} (h : (columnAffinity c).keep v = .int n) :
      columnAffinity c = .integer := by
    cases hc : columnAffinity c with
    | integer => rfl
    | real => exact absurd hc kind
    | text =>
      rw [hc] at h
      cases v <;> cases h
  refine Store.eq_of_sameValue ?_ ?_ ?_ same
  · intro x hx
    exact Store.mantissa_ne_zero_of_keep kind (hv.symm.trans hx)
  · intro n hn
    exact apart (integer (hv.symm.trans hn)) a ha b hb n hn (hn ▸ same)
  · intro n hn
    rw [Store.sameValue_comm, hn] at same
    exact apart (integer (hw.symm.trans hn)) b hb a ha n hn same

/-- The groups of a query, if it is answered, are those of the rows that it finds in some order. -/
theorem groups_of_countByGroup {x : Session} (h : Integrity x.pool.store) {q : Query}
    {dimension : FieldKey} {counts : GroupCounts}
    (ok : (x.countByGroup q dimension).result = .ok counts) :
    ∃ f rows, x.catalog.resolve dimension = .ok f ∧
      (rows.map fun row => row.workPackage.id).Nodup ∧
      (valuesOf f.column rows).Perm
        ((x.foundBy q).map fun w => cell x.pool.store w f.column) ∧
      counts = groupCounts f (groupsOf f.column rows) := by
  rw [result_countByGroup] at ok
  obtain ⟨f, hf, ok⟩ := bind_eq_ok_iff.mp ok
  obtain ⟨sel, hsel, ok⟩ := bind_eq_ok_iff.mp ok
  obtain ⟨groups, hgroups, ok⟩ := bind_eq_ok_iff.mp ok
  obtain ⟨s, hs, hgroups⟩ := bind_eq_ok_iff.mp (mapError_eq_ok_iff.mp hgroups)
  obtain rfl : x.pool.store = s := store_of_read hs
  obtain ⟨selected, hselected, hgroups⟩ := bind_eq_ok_iff.mp hgroups
  have resolved := Catalog.resolved_of_resolve (mapError_eq_ok_iff.mp hf)
  have provided := (provided_selection hsel).provide f
  obtain rfl := Store.eq_foundRows_of_select h provided hselected
  have available : f.column.Provided (Field.provide sel f).joins :=
    resolved.provided.mono fun j hj => Field.mem_joins_provide.mpr (Or.inr hj)
  have perm := List.mergeSort_perm (foundRows x.pool.store (Field.provide sel f))
    (Store.rowLe (x.planner.scanOrder (Field.provide sel f).conditions))
  refine ⟨f, (foundRows x.pool.store (Field.provide sel f)).mergeSort
    (Store.rowLe (x.planner.scanOrder (Field.provide sel f).conditions)), mapError_eq_ok_iff.mp hf,
    ?_, ?_, ?_⟩
  · exact (perm.map _).nodup_iff.mpr (Store.nodup_foundRows h _)
  · refine (perm.map fun row => row.get f.column).trans (List.Perm.of_eq ?_)
    have found : x.foundBy q = found x.pool.store (Field.provide sel f) := by
      rw [Store.found_congr x.pool.store (Field.conditions_provide sel f)]
      unfold foundBy
      rw [hsel]
    rw [found, foundRows, List.map_map]
    exact List.map_congr_left fun w _ => Store.get_completed x.pool.store w available
  · rw [← Except.ok.inj ok, ← Except.ok.inj hgroups]

/-- An open store whose rows for a grouping come in the order in which it meets them counts the
groups of these rows. -/
theorem result_countByGroup_of_sorted {x : Session} {q : Query} {dimension : FieldKey} {f : Field}
    {sel : Selection} (resolved : x.catalog.resolve dimension = .ok f)
    (hsel : x.selection q = .ok sel) (isOpen : x.pool.read = .ok x.pool.store)
    {rows : List Row} (ok : select x.planner x.pool.store (Field.provide sel f) = .ok rows)
    (sorted : rows.Pairwise fun a b =>
      Store.rowLe (x.planner.scanOrder (Field.provide sel f).conditions) a b = true) :
    (x.countByGroup q dimension).result = .ok (groupCounts f (groupsOf f.column rows)) := by
  have groups : (x.pool.read >>= fun s => s.group x.planner (Field.provide sel f) f.column) =
      .ok (groupsOf f.column rows) := by
    rw [isOpen]
    exact Store.group_of_sorted ok sorted
  rw [result_countByGroup]
  refine bind_eq_ok_iff.mpr ⟨f, mapError_eq_ok_iff.mpr resolved, ?_⟩
  refine bind_eq_ok_iff.mpr ⟨sel, hsel, ?_⟩
  exact bind_eq_ok_iff.mpr ⟨_, mapError_eq_ok_iff.mpr groups, rfl⟩

/-- An answered query counts the work packages that it finds. -/
theorem count_eq_length_foundBy {x : Session} (h : Integrity x.pool.store) {q : Query} {n : Nat}
    (ok : (x.count q).result = .ok n) : n = (x.foundBy q).length := by
  rw [result_count] at ok
  obtain ⟨sel, hsel, ok⟩ := bind_eq_ok_iff.mp ok
  obtain ⟨s, hs, ok⟩ := bind_eq_ok_iff.mp (mapError_eq_ok_iff.mp ok)
  obtain rfl : x.pool.store = s := store_of_read hs
  rw [Store.count_eq h (provided_selection hsel)] at ok
  unfold foundBy
  rw [hsel]
  cases hselect : select x.planner x.pool.store sel with
  | error e =>
    rw [hselect] at ok
    cases ok
  | ok selected =>
    rw [hselect] at ok
    exact (Except.ok.inj ok).symm

/-- All work packages. -/
def allQuery : Query := ⟨[], none, .all, []⟩

/-- Two work packages whose types are the least whole number of 64 bits, once as a whole number and
once as a real one. -/
def leastRows : List (Store.Table × Store.NewRow) :=
  [(.projects, [("name", .text "one")]),
    (.workPackages, [("project_id", .int 1), ("subject", .text "alpha"),
      ("type_id", .int (-9223372036854775808)), ("created_at", .text "2024-01-01"),
      ("updated_at", .text "2024-01-01")]),
    (.workPackages, [("project_id", .int 1), ("subject", .text "beta"),
      ("type_id", .text "-9223372036854775808.0"), ("created_at", .text "2024-01-02"),
      ("updated_at", .text "2024-01-02")])]

/-- A session on the store of these rows. -/
def leastSession : Session :=
  ⟨.ofStore (Store.ofRows leastRows), .lookingUp, ⟨[]⟩, .initial, .first⟩

end Session

end Worklist
