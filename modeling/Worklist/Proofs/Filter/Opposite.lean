import Worklist.Proofs.Query.Accepted
import Worklist.Proofs.Store.Equality

/-!
# Opposite operators

Of two opposite operators with the same values exactly one finds a work package that has a value. A
work package without a value is none of a list, it is one of a list that names the missing value,
and it neither contains a text nor is without it. Whether the status is open or closed is asked of
the status that a work package has.
-/

set_option autoImplicit false

namespace Worklist

open Sql (Column Condition)
open Store (Integrity Record Table Value cell columnAffinity joinMatches meets nameable partner?
  truth)

/-! ## The status of a work package -/

/-- The column that says whether a status is closed. -/
def closedColumn : Column := ⟨.statuses, "is_closed"⟩

namespace Store

variable {s : Store} {w : Record}

/-- The flag of a work package with a status is that of the status. -/
theorem cell_closedColumn (h : Integrity s) {status : Record} (hs : status ∈ s.statuses)
    (own : w.get "status_id" = .int status.id) :
    cell s w closedColumn = status.get "is_closed" := by
  have found : partner? s .status w = some status :=
    partner?_eq_some (j := .status) h hs (beq_iff_eq.mpr own)
  show ((partner? s .status w).map fun r => r.get "is_closed").getD .null = _
  rw [found]
  rfl

/-- A work package without a status has no flag. -/
theorem cell_closedColumn_of_missing (missing : w.get "status_id" = .null) :
    cell s w closedColumn = .null := by
  have none : partner? s .status w = Option.none := by
    apply List.find?_eq_none.mpr
    intro status _ belongs
    have same : w.get "status_id" = .int status.id := beq_iff_eq.mp belongs
    rw [missing] at same
    cases same
  show ((partner? s .status w).map fun r => r.get "is_closed").getD .null = _
  rw [none]
  rfl

/-- The condition on the flag of the status. -/
def flagCondition (closed : Bool) : Condition :=
  .compare (.column closedColumn) .eq (.boolean closed)

/-- The condition on the flag reads the column of the flag only. -/
theorem eq_closedColumn_of_mem {closed : Bool} {c : Column}
    (h : c ∈ (flagCondition closed).columns) : c = closedColumn :=
  List.mem_singleton.mp h

/-- A flag meets the condition if it is the number of the truth value that is asked for. -/
theorem meets_flagCondition {n : Int} (flag : cell s w closedColumn = .int n) (closed : Bool) :
    meets s w (flagCondition closed) = true ↔ n = if closed then 1 else 0 := by
  obtain ⟨row, value, same⟩ := exists_row_of_column s w (@eq_closedColumn_of_mem closed)
  rw [same]
  show (compareValues .eq (row.get closedColumn) (.int (if closed then 1 else 0))).holds = true ↔ _
  rw [value, flag, holds_compareValues_int]

/-- No flag meets neither condition on the flag. -/
theorem not_meets_flagCondition (flag : cell s w closedColumn = .null) (closed : Bool) :
    ¬meets s w (flagCondition closed) = true := by
  obtain ⟨row, value, same⟩ := exists_row_of_column s w (@eq_closedColumn_of_mem closed)
  rw [same]
  show ¬(compareWith row (.column closedColumn) .eq (.boolean closed)).holds = true
  rw [compareWith_null (o := .column closedColumn) (value.trans flag)]
  exact Bool.false_ne_true

end Store

/-! ## Opposites -/

/-- How operators with the same values on a field divide work packages, where it is known which
operators find a work package. -/
structure Divides (s : Store) (f : Field) (w : Record) (values : List String)
    (finds : Operator → Prop) : Prop where
  equals_of_present : values ≠ [] → cell s w f.column ≠ .null →
    (finds .equals ↔ ¬finds .notEquals)
  equals_of_missing : values ≠ [] → cell s w f.column = .null →
    finds .notEquals ∧ (finds .equals ↔ missingValue ∈ values)
  equals_of_empty : values = [] → finds .notEquals ∧ ¬finds .equals
  blank : finds .isBlank ↔ ¬finds .isPresent
  contains_of_present : cell s w f.column ≠ .null → (finds .contains ↔ ¬finds .notContains)
  contains_of_missing : cell s w f.column = .null → ¬finds .contains ∧ ¬finds .notContains
  status_of_flag : f.kind = .status → ∀ status ∈ s.statuses, w.get "status_id" = .int status.id →
    status.get "is_closed" = .int 0 ∨ status.get "is_closed" = .int 1 →
    (finds .openStatus ↔ ¬finds .closedStatus)
  status_of_missing : f.kind = .status → w.get "status_id" = .null →
    ¬finds .openStatus ∧ ¬finds .closedStatus

/-- Whether operators divide the work packages depends on what the paired ones find only. -/
theorem Divides.congr {s : Store} {f : Field} {w : Record} {values : List String}
    {finds finds' : Operator → Prop} (h : Divides s f w values finds)
    (same : ∀ op ∈ Operator.paired, finds' op ↔ finds op) : Divides s f w values finds' := by
  simp only [Operator.paired, List.forall_mem_cons] at same
  obtain ⟨equals, notEquals, blank, present, contains, notContains, opened, closed, -⟩ := same
  constructor
  · rw [equals, notEquals]
    exact h.equals_of_present
  · rw [equals, notEquals]
    exact h.equals_of_missing
  · rw [equals, notEquals]
    exact h.equals_of_empty
  · rw [blank, present]
    exact h.blank
  · rw [contains, notContains]
    exact h.contains_of_present
  · rw [contains, notContains]
    exact h.contains_of_missing
  · rw [opened, closed]
    exact h.status_of_flag
  · rw [opened, closed]
    exact h.status_of_missing

namespace Clause

variable {s : Store} {w : Record} {context : FilterContext} {f : Field} {key : FieldKey}
  {values : List String} {dynamic : Bool}

/-- Equality finds the values among those given, and missing ones if these are asked for. -/
theorem meets_equals_iff :
    s.MeetsPredicate w (predicate ⟨key, .equals, values, dynamic⟩ context f) ↔
      cell s w f.column = .null ∧ missingValue ∈ values ∨
        cell s w f.column ≠ .null ∧
          (columnAffinity f.column).among values (cell s w f.column) = true := by
  have compiled : condition? ⟨key, .equals, values, dynamic⟩ context f =
      some (Predicate.equals f.column values) := rfl
  rw [meetsPredicate_iff compiled, Store.meets_equals]

/-- Inequality finds the values that are not among those given, and all missing ones. -/
theorem meets_notEquals_iff :
    s.MeetsPredicate w (predicate ⟨key, .notEquals, values, dynamic⟩ context f) ↔
      cell s w f.column = .null ∨
        (columnAffinity f.column).among values (cell s w f.column) = false := by
  have compiled : condition? ⟨key, .notEquals, values, dynamic⟩ context f =
      some (Predicate.notEquals f.column values) := rfl
  rw [meetsPredicate_iff compiled, Store.meets_notEquals]

/-- Blank are the missing values, and where values are dynamic the empty text. -/
theorem meets_isBlank_iff :
    s.MeetsPredicate w (predicate ⟨key, .isBlank, values, dynamic⟩ context f) ↔
      cell s w f.column = .null ∨
        (dynamic || f.isCustom) = true ∧ cell s w f.column = .text "" := by
  have compiled : condition? ⟨key, .isBlank, values, dynamic⟩ context f =
      some (Predicate.isBlank f.column (dynamic || f.isCustom)) := rfl
  rw [meetsPredicate_iff compiled, Store.meets_isBlank]

/-- Present is every value that is not blank. -/
theorem meets_isPresent_iff :
    s.MeetsPredicate w (predicate ⟨key, .isPresent, values, dynamic⟩ context f) ↔
      ¬(cell s w f.column = .null ∨
        (dynamic || f.isCustom) = true ∧ cell s w f.column = .text "") := by
  have compiled : condition? ⟨key, .isPresent, values, dynamic⟩ context f =
      some (Predicate.isPresent f.column (dynamic || f.isCustom)) := rfl
  rw [meetsPredicate_iff compiled, Store.meets_isPresent]

/-- The predicates of one field divide the work packages of a store. -/
theorem divides (h : Integrity s) (key : FieldKey) (values : List String) (dynamic : Bool)
    (context : FilterContext) (f : Field) (w : Record) :
    Divides s f w values fun op =>
      s.MeetsPredicate w (predicate ⟨key, op, values, dynamic⟩ context f) := by
  have text (negated : Bool) : s.MeetsPredicate w (predicate
      ⟨key, if negated then .notContains else .contains, values, dynamic⟩ context f) ↔
        ∃ text, (cell s w f.column).text? = some text ∧
          (negated != Text.like (Text.searchPattern (values.headD "")).toList
            (Store.patternText text)) = true := by
    have compiled : condition? ⟨key, if negated then .notContains else .contains, values, dynamic⟩
        context f = some (Predicate.contains f.column negated (values.headD "")) := by
      cases negated <;> rfl
    rw [meetsPredicate_iff compiled, Store.meets_contains]
  have contains := text false
  have notContains := text true
  have flag (closed : Bool) (status : f.kind = .status) : s.MeetsPredicate w (predicate
      ⟨key, if closed then .closedStatus else .openStatus, values, dynamic⟩ context f) ↔
        meets s w (Store.flagCondition closed) = true := by
    have compiled : condition? ⟨key, if closed then .closedStatus else .openStatus, values, dynamic⟩
        context f = some (Store.flagCondition closed) := by
      cases closed <;> exact if_pos status
    rw [meetsPredicate_iff compiled]
  have opened := flag false
  have closed := flag true
  simp only [Bool.false_eq_true, if_false, if_true] at contains notContains opened closed
  constructor
  · intro _ present
    rw [meets_equals_iff, meets_notEquals_iff]
    simp [present]
  · intro _ missing
    rw [meets_equals_iff, meets_notEquals_iff]
    simp [missing]
  · intro empty
    rw [meets_equals_iff, meets_notEquals_iff, empty]
    simp [Store.Affinity.among]
  · rw [meets_isBlank_iff, meets_isPresent_iff, not_not]
  · intro present
    rw [contains, notContains]
    cases value : cell s w f.column with
    | null => exact absurd value present
    | _ => simp [Value.text?]
  · intro missing
    rw [contains, notContains, missing]
    simp [Value.text?]
  · intro kind status hs own known
    rw [opened kind, closed kind]
    have value := Store.cell_closedColumn h hs own
    rcases known with zero | one
    · rw [zero] at value
      rw [Store.meets_flagCondition value, Store.meets_flagCondition value]
      decide
    · rw [one] at value
      rw [Store.meets_flagCondition value, Store.meets_flagCondition value]
      decide
  · intro kind missing
    have value := Store.cell_closedColumn_of_missing (s := s) missing
    rw [opened kind, closed kind]
    exact ⟨Store.not_meets_flagCondition value false, Store.not_meets_flagCondition value true⟩

end Clause

namespace Session

end Session

end Worklist
