import Worklist.Proofs.Filter.DayRange

/-!
# Ranges of days far away

An offset may lead out of the years of four digits, and out of the calendar. The end of a range is
then written as the nearest day of these years, so a range that has none of their days still finds
nothing, and one that has all of them finds all. The first day of year zero is the exception. A
lower end is written as the day before it, and the first of the written days has none before it; an
upper end before that day is written as the day itself.
-/

set_option autoImplicit false

namespace Worklist

open Calendar (Date DayRange)
open Store (Record cell columnAffinity meets)

/-- For the first day of year zero every lower end lies too high, and every upper end high
enough. -/
theorem Calendar.DayRange.containsClamped_firstOfFourDigits (range : DayRange) :
    range.containsClamped Date.firstOfFourDigits = true ↔ range.lower? = none := by
  have low (e : Date) : Date.firstOfFourDigits ≤ e.clampToFourDigits :=
    e.fourDigits_clampToFourDigits.1
  obtain ⟨lower?, upper?⟩ := range
  have upper : (upper?.all fun last =>
      decide (Date.firstOfFourDigits ≤ last.clampToFourDigits)) = true := by
    cases upper? with
    | none => rfl
    | some last => exact decide_eq_true (low last)
  cases lower? with
  | none => exact iff_of_true upper rfl
  | some first =>
    have lower : decide ((first.previous?.getD Date.first).clampToFourDigits <
        Date.firstOfFourDigits) = false := decide_eq_false (Int.not_lt.mpr (low _))
    apply iff_of_false _ (Option.some_ne_none first)
    show ¬(decide _ && _) = true
    rw [lower, Bool.false_and]
    exact Bool.false_ne_true

namespace Clause

/-- A filter that counts days from today finds a work package with a day of a four-digit year if its
range has the day once its ends are moved into these years. -/
theorem meets_relative_eq_containsClamped (catalog : Catalog) (context : FilterContext)
    {c : Clause} (relative : c.operator ∈ Operator.relative) {f : Field}
    (resolved : catalog.resolve c.field = .ok f) (s : Store) (workPackage : Record) {d : Date}
    (written : f.Writes d (cell s workPackage f.column)) (own : d.FourDigits) :
    ∃ range condition,
      c.operator.dayRange? context.today (Number.leadingInt c.firstValue.toList) = some range ∧
      (c.predicate context f).condition? = some condition ∧
      meets s workPackage condition = range.containsClamped d := by
  obtain ⟨range, hrange, ended, same⟩ := condition?_of_relative relative context f
  obtain ⟨condition, hcondition⟩ := Predicate.exists_inRange? f ended
  obtain ⟨reads, holds⟩ := Predicate.inRange?_clamped hcondition
  have affinity : columnAffinity f.column = .text :=
    (Catalog.columnAffinity_of_resolve resolved).trans written.affinity_kind
  refine ⟨range, condition, hrange, ?_, ?_⟩
  · rw [predicate_condition?]
    exact same.trans hcondition
  · rw [← Store.get_joins s workPackage reads] at written
    exact holds s _ d written affinity own

/-- Where the range of a filter has no day of the years of four digits, the filter finds none of
these days, and where it has all of them it finds all, from the second day of year zero on. The
first one is found exactly by the filters that ask for the days up to some day. -/
theorem meets_relative_saturated (catalog : Catalog) (context : FilterContext) {c : Clause}
    (relative : c.operator ∈ Operator.relative) {f : Field}
    (resolved : catalog.resolve c.field = .ok f) (s : Store) (workPackage : Record) {d : Date}
    (written : f.Writes d (cell s workPackage f.column)) (own : d.FourDigits) :
    ∃ range condition,
      c.operator.dayRange? context.today (Number.leadingInt c.firstValue.toList) = some range ∧
      (c.predicate context f).condition? = some condition ∧
      ((∀ e : Date, e.FourDigits → range.contains e = false) →
        (meets s workPackage condition = true ↔ d = Date.firstOfFourDigits ∧
          (c.operator = .untilDaysAgo ∨ c.operator = .untilDaysAhead))) ∧
      ((∀ e : Date, e.FourDigits → range.contains e = true) →
        (meets s workPackage condition = true ↔ d ≠ Date.firstOfFourDigits ∨
          (c.operator = .untilDaysAgo ∨ c.operator = .untilDaysAhead))) := by
  obtain ⟨range, condition, hrange, compiled, holds⟩ :=
    meets_relative_eq_containsClamped catalog context relative resolved s workPackage written own
  refine ⟨range, condition, hrange, compiled, ?_⟩
  rw [holds, ← Operator.lower?_eq_none_iff hrange]
  by_cases first : d = Date.firstOfFourDigits
  · rw [first, range.containsClamped_firstOfFourDigits]
    simp
  · have later : Date.firstOfFourDigits.number ≠ d.number :=
      fun same => first (Date.eq_of_number_eq same.symm)
    have low : Date.firstOfFourDigits < d := Int.lt_iff_le_and_ne.mpr ⟨own.1, later⟩
    rw [range.containsClamped_eq low own.2]
    constructor
    · intro none
      simp [none d own, first]
    · intro all
      simp [all d own, first]

end Clause

/-! ## A sample -/

/-- Two work packages, one that starts on the first day of year zero and one on the second. -/
def yearZeroRows : List (Store.Table × Store.NewRow) :=
  [(.projects, [("name", .text "one")]),
    (.workPackages, [("project_id", .int 1), ("subject", .text "alpha"),
      ("start_date", .text "0000-01-01"), ("created_at", .text "2024-01-01 00:00:00"),
      ("updated_at", .text "2024-01-01 00:00:00")]),
    (.workPackages, [("project_id", .int 1), ("subject", .text "beta"),
      ("start_date", .text "0000-01-02"), ("created_at", .text "2024-01-01 00:00:00"),
      ("updated_at", .text "2024-01-01 00:00:00")])]

/-- A session on the store of these rows. -/
def yearZeroSession : Session :=
  ⟨.ofStore (Store.ofRows yearZeroRows), .lookingUp, ⟨[]⟩, .initial, sampleDay⟩

/-- The clause that asks for the starts from far before the calendar on. -/
def sinceEverClause : Clause :=
  ⟨.plain "start_date", .sinceDaysAgo, ["99999999999999"], false⟩

/-- The clause that asks for the starts up to a day far before the calendar. -/
def untilNeverClause : Clause :=
  ⟨.plain "start_date", .untilDaysAgo, ["99999999999999"], false⟩

/-- A start on the second day of year zero is not before the calendar. -/
theorem Clause.meets_relative_saturated_yearZeroSession :
    ∃ workPackage ∈ yearZeroSession.pool.store.workPackages, ∃ condition,
      (untilNeverClause.predicate yearZeroSession.filterContext
        (Field.plain "start_date" .date)).condition? = some condition ∧
      meets yearZeroSession.pool.store workPackage condition = false := by
  let second : Date := Date.firstOfFourDigits.shift 1
  obtain ⟨workPackage, mem, start⟩ : ∃ workPackage ∈ yearZeroSession.pool.store.workPackages,
      workPackage.get "start_date" = .text second.text := by
    decide +kernel
  have written : (Field.plain "start_date" .date).Writes second
      (cell yearZeroSession.pool.store workPackage ⟨.workPackages, "start_date"⟩) := by
    show Field.Writes _ _ (workPackage.get "start_date")
    rw [start]
    exact .day rfl
  obtain ⟨range, condition, hrange, compiled, none, -⟩ := meets_relative_saturated
    yearZeroSession.catalog yearZeroSession.filterContext (c := untilNeverClause) (by decide)
    (f := Field.plain "start_date" .date) rfl yearZeroSession.pool.store workPackage written
    ⟨by decide, by decide⟩
  refine ⟨workPackage, mem, condition, compiled, ?_⟩
  have ends : range = ⟨Option.none, some Date.first⟩ := by
    have own : untilNeverClause.operator.dayRange? yearZeroSession.filterContext.today
        (Number.leadingInt untilNeverClause.firstValue.toList) =
          some ⟨Option.none, some Date.first⟩ := by
      decide +kernel
    exact Option.some.inj (hrange.symm.trans own)
  have before (e : Date) (own : e.FourDigits) : range.contains e = false := by
    have outside : ¬e ≤ Date.first :=
      Int.not_le.mpr (Int.lt_of_lt_of_le (by decide) own.1)
    rw [ends]
    exact decide_eq_false outside
  rw [Bool.eq_false_iff, ne_eq, none before]
  rintro ⟨first, -⟩
  exact absurd first (by decide)

/-- All days from year zero on lie after a day before the calendar and none of them before it, and
yet the start on the first of them is missing in the one count and found in the other. -/
theorem Session.count_yearZeroSession :
    (∃ range, sinceEverClause.operator.dayRange? yearZeroSession.today
        (Number.leadingInt sinceEverClause.firstValue.toList) = some range ∧
      (∀ e : Date, e.FourDigits → range.contains e = true) ∧
      (yearZeroSession.count ⟨[sinceEverClause], none, .all, []⟩).result = .ok 1) ∧
    (∃ range, untilNeverClause.operator.dayRange? yearZeroSession.today
        (Number.leadingInt untilNeverClause.firstValue.toList) = some range ∧
      (∀ e : Date, e.FourDigits → range.contains e = false) ∧
      (yearZeroSession.count ⟨[untilNeverClause], none, .all, []⟩).result = .ok 1) ∧
    yearZeroSession.pool.store.workPackages.map (fun w => w.get "start_date") =
      [.text Date.firstOfFourDigits.text, .text (Date.firstOfFourDigits.shift 1).text] := by
  refine ⟨⟨⟨some Date.first, none⟩, by decide +kernel, ?_, by decide +kernel⟩,
    ⟨⟨none, some Date.first⟩, by decide +kernel, ?_, by decide +kernel⟩, by decide +kernel⟩
  · intro e _
    show (decide (Date.first ≤ e) && true) = true
    rw [Bool.and_true]
    exact decide_eq_true e.first_le
  · intro e own
    have outside : ¬e ≤ Date.first :=
      Int.not_le.mpr (Int.lt_of_lt_of_le (by decide) own.1)
    exact decide_eq_false outside

end Worklist
