import Worklist.Proofs.Filter.DayRange
import Worklist.Proofs.Query.Composition

/-!
# Blank values under an order

A custom field writes a missing value as empty text too, which is the least of all texts. A filter
by an order that asks for more than some text leaves empty text out on its own, and a threshold
leaves it out by a test. A filter that asks for the days up to some day has neither, so it finds the
empty text, although it does not find a work package without a value.
-/

set_option autoImplicit false

namespace Worklist

open Calendar (Date DayEnd DayRange)
open Sql (Column Comparison Condition Join)
open Store (Integrity Record Row Table Value cell columnAffinity compareWith completed joinMatches
  meets partner? truth)

/-! ## Values of a custom field -/

namespace Store

/-- A work package has empty text as its value of a custom field. -/
def HasBlankValue (s : Store) (workPackage : Record) (id : Int) : Prop :=
  ∃ r ∈ s.customValues, joinMatches (.customValue id) workPackage r = true ∧
    r.get "value" = .text ""

/-- A work package has no value of a custom field. -/
def HasNoValue (s : Store) (workPackage : Record) (id : Int) : Prop :=
  ∀ r ∈ s.customValues, joinMatches (.customValue id) workPackage r = false

instance (s : Store) (workPackage : Record) (id : Int) :
    Decidable (HasBlankValue s workPackage id) :=
  inferInstanceAs (Decidable (∃ r ∈ s.customValues, _))

/-- A work package with a blank value has the empty text in the joined column. -/
theorem cell_of_hasBlankValue {s : Store} (h : Integrity s) {workPackage : Record} {id : Int}
    (blank : HasBlankValue s workPackage id) :
    cell s workPackage ⟨.customValues id, "value"⟩ = .text "" := by
  obtain ⟨r, mem, belongs, value⟩ := blank
  have found : partner? s (.customValue id) workPackage = some r := partner?_eq_some h mem belongs
  unfold cell
  simp only [found, Option.map_some, Option.getD_some]
  exact value

/-- A work package without a value has nothing in the joined column. -/
theorem cell_of_hasNoValue {s : Store} {workPackage : Record} {id : Int}
    (none : HasNoValue s workPackage id) :
    cell s workPackage ⟨.customValues id, "value"⟩ = .null := by
  have missing : partner? s (.customValue id) workPackage = Option.none := by
    apply List.find?_eq_none.mpr
    intro r mem belongs
    rw [none r mem] at belongs
    cases belongs
  unfold cell
  simp only [missing, Option.map_none, Option.getD_none]

end Store

/-- What the key of a custom field resolves to is that custom field. -/
theorem Catalog.eq_custom_of_resolve {catalog : Catalog} {id : Int} {f : Field}
    (h : catalog.resolve (.custom id) = .ok f) : ∃ format, f = Field.custom id format := by
  simp only [resolve] at h
  split at h
  · exact ⟨_, (Except.ok.inj h).symm⟩
  · cases h

/-! ## Comparing missing values -/

/-- The two values of a custom field that count as missing. -/
def Store.Value.IsMissing (v : Value) : Prop :=
  v = .null ∨ v = .text ""

namespace Store.Value.IsMissing

variable {row : Row} {c : Column}

/-- A missing value fails a comparison with a text that the empty text fails. -/
theorem not_holds (missing : (row.get c).IsMissing) (affinity : columnAffinity c = .text)
    {r : Comparison} {limit : String} (fails : orderMeets r (compare "" limit) = false) :
    (compareWith row (.column c) r (.text limit)).holds = false := by
  rcases missing with null | empty
  · rw [compareWith_null null]
    rfl
  · rw [compareWith_text affinity empty, Truth.holds_ofBool]
    exact fails

/-- A missing value is greater than no text. -/
theorem not_gt (missing : (row.get c).IsMissing) (affinity : columnAffinity c = .text)
    (limit : String) : (compareWith row (.column c) .gt (.text limit)).holds = false :=
  missing.not_holds affinity (beq_eq_false_iff_ne.mpr (Text.compare_empty_ne_gt limit))

/-- Empty text is up to every text, and no value is not. -/
theorem le_iff (missing : (row.get c).IsMissing) (affinity : columnAffinity c = .text)
    (limit : String) :
    (compareWith row (.column c) .le (.text limit)).holds = true ↔ row.get c = .text "" := by
  rcases missing with null | empty
  · rw [compareWith_null null, null]
    exact iff_of_false (by decide) (by simp)
  · rw [compareWith_text affinity empty, Truth.holds_ofBool]
    exact iff_of_true (bne_iff_ne.mpr (Text.compare_empty_ne_gt limit)) empty

end Store.Value.IsMissing

/-! ## Conditions on a missing value -/

namespace Predicate

variable {f : Field} {row : Row}

/-- The end of a range of days is never written as the empty text. -/
theorem bound_ne_empty (f : Field) (e : DayEnd) (d : Date) :
    ∃ limit, limit ≠ "" ∧ bound f e d = .text limit := by
  refine ⟨_, ?_, rfl⟩
  intro empty
  have chars := congrArg String.toList empty
  split_ifs at chars
  · simp [Date.text, Calendar.Civil.text] at chars
  · simp [DayEnd.timestamp, Date.text, Calendar.Civil.text] at chars

/-- A missing value of a custom field is on neither side of a threshold. -/
theorem not_holds_threshold (missing : (row.get f.column).IsMissing)
    (affinity : columnAffinity f.column = .text) (s : Store) (r : Comparison) (value : String) :
    (truth s row (threshold f.column r value true)).holds = false := by
  have tested : (compareWith row (.column f.column) .ne (.text "")).holds = false :=
    missing.not_holds affinity (by decide)
  show (Store.Truth.and (compareWith row (.column f.column) .ne (.text "")) _).holds = false
  rw [Store.Truth.holds_and, tested, Bool.false_and]

/-- A missing value lies in no week. -/
theorem not_holds_inWeek (missing : (row.get f.column).IsMissing)
    (affinity : columnAffinity f.column = .text) (s : Store) {context : FilterContext}
    {condition : Condition} (compiled : inWeek? f context = some condition) :
    (truth s row condition).holds = false := by
  rw [← Option.some.inj compiled]
  show (Store.Truth.and (compareWith row (.column f.column) .ge _) _).holds = false
  obtain ⟨limit, text, written⟩ :=
    bound_ne_empty f .beginning (context.weekStart.weekOf context.today)
  rw [Store.Truth.holds_and, written, missing.not_holds affinity, Bool.false_and]
  rw [Text.compare_empty text]
  rfl

/-- A range leaves missing values out, but for empty text if it has no lower end. -/
theorem holds_inRange_iff (missing : (row.get f.column).IsMissing)
    (affinity : columnAffinity f.column = .text) (s : Store) {range : DayRange}
    {condition : Condition} (compiled : inRange? f range = some condition) :
    (truth s row condition).holds = true ↔
      range.lower? = none ∧ row.get f.column = .text "" := by
  obtain ⟨lower?, upper?⟩ := range
  cases lower? with
  | none =>
    cases upper? with
    | none => cases compiled
    | some last =>
      rw [← Option.some.inj compiled]
      show (compareWith row (.column f.column) .le _).holds = true ↔ _
      rw [and_iff_right rfl]
      exact missing.le_iff affinity _
  | some first =>
    have fails (d : Date) :
        (compareWith row (.column f.column) .gt (bound f .ending d)).holds = false :=
      missing.not_gt affinity _
    cases upper? with
    | none =>
      rw [← Option.some.inj compiled]
      show (compareWith row (.column f.column) .gt _).holds = true ↔ _
      rw [fails]
      simp
    | some last =>
      rw [← Option.some.inj compiled]
      show (Store.Truth.and (compareWith row (.column f.column) .gt _) _).holds = true ↔ _
      rw [Store.Truth.holds_and, fails]
      simp

end Predicate

/-! ## Filters by an order -/

/-- The operators that put values in an order. -/
def Operator.ordering : List Operator :=
  [.atLeast, .atMost, .thisWeek] ++ Operator.relative

namespace Clause

/-- What a condition on a custom field says about missing values: none of them satisfies it, but for
empty text if days up to some day are asked for. -/
def JudgesMissing (c : Clause) (id : Int) (condition : Condition) : Prop :=
  ∀ (s : Store) (row : Row), (row.get ⟨.customValues id, "value"⟩).IsMissing →
    ((truth s row condition).holds = true ↔
      (c.operator = .untilDaysAgo ∨ c.operator = .untilDaysAhead) ∧
        row.get ⟨.customValues id, "value"⟩ = .text "")

/-- An operator without offsets judges missing values as expected if its condition is true of none
of them. -/
theorem judgesMissing_of_not_holds {c : Clause} {id : Int} {condition : Condition}
    (other : c.operator ∉ Operator.relative)
    (fails : ∀ (s : Store) (row : Row), (row.get ⟨.customValues id, "value"⟩).IsMissing →
      (truth s row condition).holds = false) : c.JudgesMissing id condition := by
  intro s row missing
  rw [fails s row missing]
  apply iff_of_false Bool.false_ne_true
  rintro ⟨op | op, -⟩ <;> exact other (by rw [op]; decide)

/-- Each operator of ordering has a condition on a custom field, which reads its value and judges
missing values as expected. -/
theorem condition?_of_ordering {c : Clause} (ordering : c.operator ∈ Operator.ordering)
    (context : FilterContext) (id : Int) (format : Format) :
    ∃ condition, c.condition? context (Field.custom id format) = some condition ∧
      ⟨.customValues id, "value"⟩ ∈ condition.columns ∧ c.JudgesMissing id condition := by
  have affinity : columnAffinity (Field.custom id format).column = .text := rfl
  by_cases relative : c.operator ∈ Operator.relative
  · obtain ⟨range, hrange, ended, same⟩ :=
      condition?_of_relative relative context (Field.custom id format)
    obtain ⟨condition, compiled⟩ := Predicate.exists_inRange? (Field.custom id format) ended
    refine ⟨condition, same.trans compiled, (Predicate.inRange?_spec compiled).1, ?_⟩
    intro s row missing
    rw [← Operator.lower?_eq_none_iff hrange]
    exact Predicate.holds_inRange_iff missing affinity s compiled
  · have rest := (List.mem_append.mp ordering).resolve_right relative
    have dynamic : (c.dynamic || (Field.custom id format).isCustom) = true := Bool.or_true _
    have number (r : Comparison) : c.JudgesMissing id
        (Predicate.threshold (Field.custom id format).column r c.firstValue true) := by
      apply judgesMissing_of_not_holds relative
      intro s row missing
      exact Predicate.not_holds_threshold missing affinity s r c.firstValue
    simp only [List.mem_cons, List.not_mem_nil, or_false] at rest
    unfold condition?
    simp only [dynamic]
    rcases rest with op | op | op
    · simp only [op]
      exact ⟨_, rfl, List.mem_cons_self, number .ge⟩
    · simp only [op]
      exact ⟨_, rfl, List.mem_cons_self, number .le⟩
    · simp only [op]
      refine ⟨_, rfl, List.mem_cons_self, judgesMissing_of_not_holds relative ?_⟩
      intro s row missing
      exact Predicate.not_holds_inWeek missing affinity s rfl

/-- A filter by an order finds no work package without a value of its custom field. It finds one
with a blank value exactly if it asks for the days up to some day. -/
theorem meetsPredicate_missing {s : Store} (h : Integrity s) (catalog : Catalog)
    (context : FilterContext) {c : Clause} (ordering : c.operator ∈ Operator.ordering) {id : Int}
    (own : c.field = .custom id) {f : Field} (resolved : catalog.resolve c.field = .ok f)
    (workPackage : Record) :
    (s.HasNoValue workPackage id → ¬s.MeetsPredicate workPackage (c.predicate context f)) ∧
      (s.HasBlankValue workPackage id →
        (s.MeetsPredicate workPackage (c.predicate context f) ↔
          c.operator = .untilDaysAgo ∨ c.operator = .untilDaysAhead)) := by
  rw [own] at resolved
  obtain ⟨format, rfl⟩ := Catalog.eq_custom_of_resolve resolved
  obtain ⟨condition, compiled, reads, judges⟩ := condition?_of_ordering ordering context id format
  have value := Store.get_joins s workPackage reads
  have meeting : s.MeetsPredicate workPackage (c.predicate context (Field.custom id format)) ↔
      meets s workPackage condition = true := by
    unfold Store.MeetsPredicate
    rw [predicate_condition?, compiled]
    constructor
    · intro each
      exact each condition rfl
    · intro met other same
      rwa [← Option.some.inj same]
  constructor
  · intro none
    rw [Store.cell_of_hasNoValue none] at value
    rw [meeting, show meets s workPackage condition = true ↔ _ from
      judges s _ (Or.inl value), value]
    simp
  · intro blank
    rw [Store.cell_of_hasBlankValue h blank] at value
    rw [meeting, show meets s workPackage condition = true ↔ _ from
      judges s _ (Or.inr value), value]
    simp

end Clause

/-! ## A sample -/

/-- One work package with a blank value of a custom field of days. -/
def blankRows : List (Table × Store.NewRow) :=
  [(.projects, [("name", .text "one")]),
    (.workPackages, [("project_id", .int 1), ("subject", .text "alpha"),
      ("created_at", .text "2024-03-11 00:00:00"), ("updated_at", .text "2024-03-11 00:00:00")]),
    (.customFields, [("name", .text "Delivery"), ("field_format", .text "date")]),
    (.customValues, [("customized_id", .int 1), ("custom_field_id", .int 1),
      ("value", .text "")])]

/-- A session on the store of these rows. -/
def blankSession : Session :=
  ⟨.ofStore (Store.ofRows blankRows), .lookingUp, ⟨[(1, .date)]⟩, .initial, sampleDay⟩

/-- The clause that asks for the days of the custom field up to today. -/
def untilTodayClause : Clause := ⟨.custom 1, .untilDaysAgo, ["0"], true⟩

/-- The blank value is among the days up to today. -/
theorem Clause.meetsPredicate_missing_blankSession :
    ∃ workPackage ∈ blankSession.pool.store.workPackages,
      blankSession.pool.store.HasBlankValue workPackage 1 ∧
      blankSession.pool.store.MeetsPredicate workPackage
        (untilTodayClause.predicate blankSession.filterContext (Field.custom 1 .date)) := by
  obtain ⟨workPackage, mem, blank⟩ : ∃ workPackage ∈ blankSession.pool.store.workPackages,
      blankSession.pool.store.HasBlankValue workPackage 1 := by
    decide +kernel
  have finds := (Clause.meetsPredicate_missing (Store.reachable_ofRows blankRows).integrity
    blankSession.catalog blankSession.filterContext (c := untilTodayClause) (by decide) rfl rfl
    workPackage).2 blank
  exact ⟨workPackage, mem, blank, finds.mpr (Or.inl rfl)⟩

/-- The only work package is found although its value is blank. -/
theorem Session.count_untilTodayClause_blankSession :
    (∀ workPackage ∈ blankSession.pool.store.workPackages,
      blankSession.pool.store.HasBlankValue workPackage 1) ∧
    (blankSession.count ⟨[untilTodayClause], none, .all, []⟩).result = .ok 1 := by
  constructor
  · decide +kernel
  · decide +kernel

end Worklist
