import Worklist.Proofs.Store.Selected

/-!
# Selections with fewer joins

A store that answers a selection also answers the same conditions with fewer joins: the statement
only gets smaller, and each row meets the conditions as before.
-/

set_option autoImplicit false

namespace Worklist.Store

open Sql (Condition Join Selection)

/-! ## The limits of a statement -/

/-- A condition is no less deep than its first part. -/
theorem le_foldl_max_succ (depth : Nat) (parts : List Nat) :
    depth ≤ parts.foldl (fun d part => max d part + 1) depth := by
  induction parts generalizing depth with
  | nil => exact Nat.le_refl depth
  | cons part parts ih =>
    have rest := ih (max depth part + 1)
    rw [List.foldl_cons]
    omega

/-- More joins make a statement no less deep. -/
theorem selectionDepth_le_append (joins extra : List Join) (conditions : List Condition) :
    selectionDepth ⟨joins, conditions⟩ ≤ selectionDepth ⟨joins ++ extra, conditions⟩ := by
  unfold selectionDepth
  simp only [List.map_append, ← List.append_assoc]
  cases conditions.map depth ++ joins.map joinDepth with
  | nil => exact Nat.zero_le _
  | cons first rest =>
    simp only [List.cons_append, List.foldl_append]
    apply Nat.add_le_add_right
    exact le_foldl_max_succ _ _

/-- A store that takes a statement with more joins takes it with fewer. -/
theorem accepts_of_append {joins extra : List Join} {conditions : List Condition}
    (h : accepts ⟨joins ++ extra, conditions⟩ = true) : accepts ⟨joins, conditions⟩ = true := by
  have shallow := selectionDepth_le_append joins extra conditions
  unfold accepts at h ⊢
  simp only [Bool.and_eq_true, decide_eq_true_eq, List.all_append, List.length_append] at h ⊢
  obtain ⟨⟨⟨readable, nameable, -⟩, tables⟩, deep⟩ := h
  refine ⟨⟨⟨readable, nameable⟩, ?_⟩, ?_⟩
  · omega
  · omega

/-! ## The test of rows -/

/-- Rows of which the conditions say the same are tested alike. -/
theorem satisfies_congr {s : Store} {row row' : Row} {conditions : List Condition}
    (same : ∀ c ∈ conditions, (truth s row c).holds = (truth s row' c).holds) :
    satisfies s row conditions = satisfies s row' conditions := by
  induction conditions with
  | nil => rfl
  | cons c rest ih =>
    rw [satisfies, satisfies, same c List.mem_cons_self,
      ih fun d hd => same d (List.mem_cons_of_mem c hd)]

/-- If rows of one kind can be tested, so can rows of another kind that are tested alike. -/
theorem exists_satisfying_congr {s : Store} {conditions : List Condition} {f g : Record → Row}
    {workPackages : List Record}
    (same : ∀ w ∈ workPackages, satisfies s (f w) conditions = satisfies s (g w) conditions)
    {rows : List Row} (ok : satisfying s conditions (workPackages.map f) = .ok rows) :
    ∃ rows', satisfying s conditions (workPackages.map g) = .ok rows' := by
  induction workPackages generalizing rows with
  | nil => exact ⟨[], rfl⟩
  | cons w workPackages ih =>
    rw [List.map_cons, satisfying] at ok ⊢
    rw [← same w List.mem_cons_self]
    cases first : satisfies s (f w) conditions with
    | error e =>
      rw [first] at ok
      cases ok
    | ok holds =>
      rw [first] at ok
      cases rest : satisfying s conditions (workPackages.map f) with
      | error e =>
        rw [rest] at ok
        cases ok
      | ok others =>
        obtain ⟨rows', hrows⟩ := ih (fun v hv => same v (List.mem_cons_of_mem w hv)) rest
        rw [hrows]
        exact ⟨_, rfl⟩

/-- A selection that is answered is answered with fewer joins too, as long as these provide what its
conditions read. -/
theorem select_of_append {p : Planner} {s : Store} (h : Integrity s) {joins extra : List Join}
    {conditions : List Condition} (provided : Selection.Provided ⟨joins, conditions⟩)
    {rows : List Row} (ok : select p s ⟨joins ++ extra, conditions⟩ = .ok rows) :
    select p s ⟨joins, conditions⟩ = .ok (foundRows s ⟨joins, conditions⟩) := by
  unfold select at ok
  split_ifs at ok with accepted
  rw [joinedRows_eq h] at ok
  have same : ∀ w ∈ s.workPackages,
      satisfies s (completed s (joins ++ extra) w) (p.tests conditions) =
        satisfies s (completed s joins w) (p.tests conditions) := by
    intro w _
    apply satisfies_congr
    intro c hc
    have reads := provided c ((p.mem_tests conditions c).mp hc)
    rw [holds_truth_completed s w reads, holds_truth_completed s w]
    intro column hcolumn
    exact (reads column hcolumn).mono (List.subset_append_left joins extra)
  obtain ⟨rows', hrows⟩ := exists_satisfying_congr same ok
  have answered : select p s ⟨joins, conditions⟩ = .ok rows' := by
    unfold select
    rw [if_pos (accepts_of_append accepted), joinedRows_eq h]
    exact hrows
  rw [answered, eq_foundRows_of_select h provided answered]

end Worklist.Store
