import Mathlib.Data.List.Induction
import Worklist.Proofs.Store.Integrity
import Worklist.Store.Row

/-!
# One row for each work package

In a store that keeps the rules of the schema a join finds at most one record for a work package,
so the joined rows are the work packages themselves, each completed by what the joins bring to it.
The value of a column in a completed row does not depend on the other joins.
-/

set_option autoImplicit false

namespace Worklist.Sql

/-- The join that makes the columns of a table available; those of work packages need none. -/
def Source.join? : Source → Option Join
  | .workPackages => none
  | .statuses => some .status
  | .customValues id => some (.customValue id)
  | .other _ => none

/-- Whether joins make a column available. -/
def Column.Provided (joins : List Join) (c : Column) : Prop :=
  ∀ j, c.source.join? = some j → j ∈ joins

/-- A column that some joins provide is provided by more of them. -/
theorem Column.Provided.mono {joins joins' : List Join} {c : Column} (h : c.Provided joins)
    (sub : joins ⊆ joins') : c.Provided joins' :=
  fun j hj => sub (h j hj)

end Worklist.Sql

namespace Worklist.Store

open Sql (Column Join)

/-- The record that a join finds for a work package. -/
def partner? (s : Store) (j : Join) (workPackage : Record) : Option Record :=
  (s.records (joinTable j)).find? (joinMatches j workPackage)

/-- A work package with all that joins bring to it. -/
def completed (s : Store) (joins : List Join) (workPackage : Record) : Row :=
  joins.foldl (fun row j => row.bring j (partner? s j workPackage)) (.alone workPackage)

/-- The value that a work package has in a column, its own or that of its partner. -/
def cell (s : Store) (workPackage : Record) (c : Column) : Value :=
  match c.source with
  | .workPackages => workPackage.get c.name
  | .statuses => ((partner? s .status workPackage).map fun r => r.get c.name).getD .null
  | .customValues id =>
    ((partner? s (.customValue id) workPackage).map fun r => r.get c.name).getD .null
  | .other _ => .null

/-! ## At most one partner -/

/-- Where no two members of a list have a property, the first one that has it is the only one. -/
theorem filter_eq_toList_find? {α : Type} (p : α → Bool) {l : List α}
    (unique : l.Pairwise fun a b => ¬(p a = true ∧ p b = true)) :
    l.filter p = (l.find? p).toList := by
  induction l with
  | nil => rfl
  | cons a l ih =>
    rw [List.pairwise_cons] at unique
    rw [List.filter_cons, List.find?_cons]
    cases ha : p a with
    | false => exact ih unique.2
    | true =>
      have none : l.filter p = [] := by
        rw [List.filter_eq_nil_iff]
        exact fun b hb hpb => unique.1 b hb ⟨ha, hpb⟩
      simp [none]

/-- A join finds at most one record for a work package: statuses differ in their `id`, and values of
custom fields in their key. -/
theorem joinMatches_unique {s : Store} (h : Integrity s) (j : Join) (workPackage : Record) :
    (s.records (joinTable j)).Pairwise fun a b =>
      ¬(joinMatches j workPackage a = true ∧ joinMatches j workPackage b = true) := by
  cases j with
  | status =>
    have ids : (s.records .statuses).Pairwise fun a b => a.id ≠ b.id :=
      List.pairwise_map.mp (h.ids .statuses)
    refine ids.imp ?_
    intro a b different both
    simp only [joinMatches, beq_iff_eq] at both
    exact different (by simpa using both.1.symm.trans both.2)
  | customValue id =>
    refine (h.keys .customValues).imp ?_
    intro a b different both
    simp only [joinMatches, Bool.and_eq_true, beq_iff_eq] at both
    obtain ⟨⟨ownerA, fieldA⟩, ownerB, fieldB⟩ := both
    have same : sameKey .customValues a b = true := by
      simp [sameKey, Table.key, ownerA, ownerB, fieldA, fieldB]
    rw [same] at different
    cases different

/-- A record that a join matches with a work package is the partner of the work package. -/
theorem partner?_eq_some {s : Store} (h : Integrity s) {j : Join} {workPackage r : Record}
    (mem : r ∈ s.records (joinTable j)) (belongs : joinMatches j workPackage r = true) :
    partner? s j workPackage = some r := by
  have alone := filter_eq_toList_find? _ (joinMatches_unique h j workPackage)
  have listed : r ∈ (s.records (joinTable j)).filter (joinMatches j workPackage) :=
    List.mem_filter.mpr ⟨mem, belongs⟩
  rw [alone, Option.mem_toList] at listed
  exact listed

/-- A join makes one row of a row. -/
theorem joinRow_eq {s : Store} (h : Integrity s) (j : Join) (row : Row) :
    joinRow s j row = [row.bring j (partner? s j row.workPackage)] := by
  have found := filter_eq_toList_find? _ (joinMatches_unique h j row.workPackage)
  unfold joinRow partner?
  rw [found]
  cases (s.records (joinTable j)).find? (joinMatches j row.workPackage) <;> rfl

/-- Joining records leaves the work package of a row as it is. -/
theorem workPackage_foldl_bring (f : Join → Option Record) (joins : List Join) (row : Row) :
    (joins.foldl (fun row j => row.bring j (f j)) row).workPackage = row.workPackage := by
  induction joins generalizing row with
  | nil => rfl
  | cons j joins ih => exact ih (row.bring j (f j))

/-- The completed row of a work package is one of this work package. -/
@[simp]
theorem completed_workPackage (s : Store) (joins : List Join) (workPackage : Record) :
    (completed s joins workPackage).workPackage = workPackage :=
  workPackage_foldl_bring _ _ _

/-- The joined rows are the work packages, each completed once. -/
theorem joinedRows_eq {s : Store} (h : Integrity s) (joins : List Join) :
    joinedRows s joins = s.workPackages.map (completed s joins) := by
  -- induction on the joins from the last one, which completes what the others brought
  induction joins using List.reverseRecOn with
  | nil => rfl
  | append_singleton joins j ih =>
    unfold joinedRows at ih ⊢
    rw [List.foldl_append, ih, List.foldl_cons, List.foldl_nil, List.flatMap_map]
    have step (workPackage : Record) : joinRow s j (completed s joins workPackage) =
        [completed s (joins ++ [j]) workPackage] := by
      rw [joinRow_eq h, completed_workPackage]
      unfold completed
      rw [List.foldl_append]
      rfl
    simp only [step]
    exact List.map_eq_flatMap.symm

/-! ## Reading a completed row -/

/-- What joins brought to a row, the last one first. -/
theorem joined_completed (s : Store) (joins : List Join) (workPackage : Record) :
    (completed s joins workPackage).joined =
      joins.reverse.map fun j => (j, partner? s j workPackage) := by
  induction joins using List.reverseRecOn with
  | nil => rfl
  | append_singleton joins j ih =>
    unfold completed at ih ⊢
    rw [List.foldl_append, List.reverse_append, List.map_append]
    exact congrArg ((j, partner? s j workPackage) :: ·) ih

/-- Looking a key up in a table that is computed from the keys computes its value. -/
theorem lookup_map_of_key {α β : Type} [DecidableEq α] (f : α → β) {keys : List α} {a : α}
    (h : a ∈ keys) : (keys.map fun k => (k, f k)).lookup a = some (f a) := by
  induction keys with
  | nil => exact absurd h List.not_mem_nil
  | cons k keys ih =>
    rw [List.map_cons, List.lookup_cons]
    by_cases hk : a = k
    · rw [hk, beq_self_eq_true]
    · rw [beq_eq_false_iff_ne.mpr hk]
      exact ih ((List.mem_cons.mp h).resolve_left hk)

/-- The columns of a joined table are those of the partner, whatever else was joined. -/
theorem getJoined_completed (s : Store) {joins : List Join} (workPackage : Record) {j : Join}
    (h : j ∈ joins) (name : String) :
    (completed s joins workPackage).getJoined j name =
      ((partner? s j workPackage).map fun r => r.get name).getD .null := by
  have found : (completed s joins workPackage).joined.lookup j =
      some (partner? s j workPackage) := by
    rw [joined_completed]
    exact lookup_map_of_key _ (List.mem_reverse.mpr h)
  unfold Row.getJoined
  rw [found]
  cases partner? s j workPackage <;> rfl

/-- A column that the joins make available has the value of the work package in it. -/
theorem get_completed (s : Store) {joins : List Join} (workPackage : Record) {c : Column}
    (h : c.Provided joins) : (completed s joins workPackage).get c = cell s workPackage c := by
  obtain ⟨source, name⟩ := c
  cases source with
  | workPackages =>
    change (completed s joins workPackage).workPackage.get name = workPackage.get name
    rw [completed_workPackage]
  | statuses => exact getJoined_completed s workPackage (h _ rfl) name
  | customValues id => exact getJoined_completed s workPackage (h _ rfl) name
  | other _ => rfl

end Worklist.Store
