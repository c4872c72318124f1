import Worklist.Proofs.Filter.DayRange
import Worklist.Proofs.Query.Answers

/-!
# The filter by the current week

The filter by the current week compares texts too: an instant has to lie between the beginnings of
the first day of the week and of the same day one week later. These are written with a fraction of a
second, and instants of a store are not, so an instant at the beginning of a day is the lesser text
of the two. The end of the week is included because of that, and its beginning is left out.
-/

set_option autoImplicit false

namespace Worklist

open Calendar (Date DayEnd TimeOfDay WeekStart)
open Sql (Column)
open Store (Record Row cell columnAffinity compareWith meets truth)

/-! ## The days of the current week -/

namespace Calendar

/-- The week of a day starts at most six days before it. -/
theorem WeekStart.number_weekOf (w : WeekStart) {today : Date}
    (low : firstDayNumber + 6 ≤ today.number) :
    today.number - 6 ≤ (w.weekOf today).number ∧ (w.weekOf today).number ≤ today.number := by
  have inside := today.le_last
  unfold weekOf
  rw [Date.number_shift (by omega) (by omega)]
  omega

/-- For a day of the years 1 to 9998 the days of its week have years of four digits. -/
theorem WeekStart.fourDigits_currentWeek (w : WeekStart) {today : Date}
    (low : 1 ≤ today.civil.year) (high : today.civil.year ≤ 9998) :
    (w.weekOf today).FourDigits ∧ ((w.weekOf today).shift 7).FourDigits := by
  have years : (366 : Int) ≤ today.number ∧ today.number < 3652060 :=
    Date.number_bounds low (Int.lt_add_one_of_le high)
  have first : firstDayNumber < 0 := by decide
  have last : 3652425 < lastDayNumber := by decide
  have week_before : firstDayNumber + 6 ≤ today.number := by omega
  obtain ⟨from_week, to_today⟩ := w.number_weekOf week_before
  have next : ((w.weekOf today).shift 7).number = (w.weekOf today).number + 7 :=
    Date.number_shift (by omega) (by omega)
  have zero : Date.firstOfFourDigits.number = 0 := rfl
  have nines : Date.lastOfFourDigits.number = 3652424 := by decide
  refine ⟨⟨?_, ?_⟩, ⟨?_, ?_⟩⟩
  · show Date.firstOfFourDigits.number ≤ (w.weekOf today).number
    omega
  · show (w.weekOf today).number ≤ Date.lastOfFourDigits.number
    omega
  · show Date.firstOfFourDigits.number ≤ ((w.weekOf today).shift 7).number
    omega
  · show ((w.weekOf today).shift 7).number ≤ Date.lastOfFourDigits.number
    omega

end Calendar

/-! ## The filter -/

/-- The beginning of a day bounds a field of instants as the instant at midnight. -/
theorem Predicate.bound_beginning {f : Field} (isInstant : f.kind = .plain .dateTime) {e : Date}
    (h : e.FourDigits) : bound f .beginning e = .text (DayEnd.beginning.timestamp e) := by
  unfold bound
  simp only
  rw [Field.isDateOnly_of_dateTime isInstant, Date.clampToFourDigits_of_fourDigits h]
  rfl

/-- An instant to the second lies between the beginnings of two days if it comes after the first and
not after the second of them. -/
theorem Predicate.holds_between_beginnings {s : Store} {row : Row} {c : Column}
    {d first last : Date} {t : TimeOfDay} (affinity : columnAffinity c = .text)
    (value : row.get c = .text (d.stamp t [])) (own : d.FourDigits)
    (first_digits : first.FourDigits) (last_digits : last.FourDigits) :
    (truth s row (.between c (.text (DayEnd.beginning.timestamp first))
        (.text (DayEnd.beginning.timestamp last)))).holds = true ↔
      first.instant .midnight < d.instant t ∧ d.instant t ≤ last.instant .midnight := by
  show (Store.Truth.and (compareWith row (.column c) .ge _)
    (compareWith row (.column c) .le _)).holds = true ↔ _
  rw [Store.Truth.holds_and, Store.compareWith_text affinity value,
    Store.compareWith_text affinity value, Store.Truth.holds_ofBool, Store.Truth.holds_ofBool,
    Bool.and_eq_true, Date.compare_stamp_beginning own first_digits,
    Date.compare_stamp_beginning own last_digits]
  apply and_congr
  · by_cases after : first.instant .midnight < d.instant t
    · rw [if_pos after]
      exact iff_of_true rfl after
    · rw [if_neg after]
      exact iff_of_false Bool.false_ne_true after
  · by_cases beyond : last.instant .midnight < d.instant t
    · rw [if_pos beyond]
      exact iff_of_false Bool.false_ne_true (Int.not_le.mpr beyond)
    · rw [if_neg beyond]
      exact iff_of_true rfl (Int.not_lt.mp beyond)

namespace Clause

/-- The condition of the filter by the current week on a field of instants. -/
theorem condition?_of_thisWeek {c : Clause} (current : c.operator = .thisWeek)
    {context : FilterContext} {f : Field} (isInstant : f.kind = .plain .dateTime)
    {first last : Date}
    (week : context.weekStart.currentWeek context.today = ⟨some first, some last⟩)
    (first_digits : first.FourDigits) (last_digits : last.FourDigits) :
    c.condition? context f = some (.between f.column
      (.text (DayEnd.beginning.timestamp first)) (.text (DayEnd.beginning.timestamp last))) := by
  unfold condition?
  rw [current]
  simp only [Predicate.inWeek?, week]
  rw [Predicate.bound_beginning isInstant first_digits,
    Predicate.bound_beginning isInstant last_digits]

/-- The filter by the current week finds the instants after the beginning of its first day and up to
that of the same day one week later. -/
theorem meets_thisWeek_iff (catalog : Catalog) (context : FilterContext) {c : Clause}
    (current : c.operator = .thisWeek) {f : Field} (resolved : catalog.resolve c.field = .ok f)
    (isInstant : f.kind = .plain .dateTime) (s : Store) (workPackage : Record) {d : Date}
    {t : TimeOfDay} (stored : cell s workPackage f.column = .text (d.stamp t []))
    (fourDigits : d.FourDigits) (low : 1 ≤ context.today.civil.year)
    (high : context.today.civil.year ≤ 9998) :
    ∃ first last condition,
      context.weekStart.currentWeek context.today = ⟨some first, some last⟩ ∧
      (c.predicate context f).condition? = some condition ∧
      (meets s workPackage condition = true ↔
        first.instant .midnight < d.instant t ∧ d.instant t ≤ last.instant .midnight) := by
  obtain ⟨first_digits, last_digits⟩ := context.weekStart.fourDigits_currentWeek low high
  generalize hfirst : context.weekStart.weekOf context.today = first at first_digits last_digits
  have week : context.weekStart.currentWeek context.today = ⟨some first, some (first.shift 7)⟩ := by
    unfold WeekStart.currentWeek
    rw [hfirst]
  have affinity : columnAffinity f.column = .text := by
    rw [Catalog.columnAffinity_of_resolve resolved, isInstant]
    rfl
  refine ⟨first, first.shift 7, .between f.column (.text (DayEnd.beginning.timestamp first))
    (.text (DayEnd.beginning.timestamp (first.shift 7))), week, ?_, ?_⟩
  · rw [predicate_condition?]
    exact condition?_of_thisWeek current isInstant week first_digits last_digits
  · apply Predicate.holds_between_beginnings affinity ?_ fourDigits first_digits last_digits
    rw [← stored]
    exact Store.get_joins s workPackage List.mem_cons_self

end Clause

/-- A work package that was made at the end of the week of the sample day. -/
def endOfWeekRecord : Record :=
  ⟨1, [("created_at", .text ((sampleDay.shift 3).stamp .midnight []))]⟩

/-- The end of the week is included. -/
theorem Clause.meets_thisWeek_endOfWeekRecord :
    ∃ condition, (predicate ⟨.plain "created_at", .thisWeek, [], false⟩ ⟨sampleDay, .monday⟩
        (Field.plain "created_at" .dateTime)).condition? = some condition ∧
      meets .empty endOfWeekRecord condition = true := by
  obtain ⟨first, last, condition, week, compiled, holds⟩ := meets_thisWeek_iff ⟨[]⟩
    ⟨sampleDay, .monday⟩ (c := ⟨.plain "created_at", .thisWeek, [], false⟩) rfl
    (f := Field.plain "created_at" .dateTime) rfl rfl .empty endOfWeekRecord
    (d := sampleDay.shift 3) (t := .midnight) rfl ⟨by decide, by decide⟩ (by decide) (by decide)
  refine ⟨condition, compiled, holds.mpr ?_⟩
  have ends : WeekStart.monday.currentWeek sampleDay =
      ⟨some (sampleDay.shift (-4)), some (sampleDay.shift 3)⟩ := by decide
  have same := ends.symm.trans week
  injection same with hfirst hlast
  rw [← Option.some.inj hfirst, ← Option.some.inj hlast]
  decide

namespace Session

/-- One work package, made in the first second of a week. -/
def weekRows : List (Store.Table × Store.NewRow) :=
  [(.projects, [("name", .text "one")]),
    (.workPackages, [("project_id", .int 1), ("subject", .text "alpha"),
      ("created_at", .text "2024-03-11 00:00:00"), ("updated_at", .text "2024-03-11 00:00:00")])]

/-- A session on the store of these rows, on the Friday of that week. -/
def weekSession : Session :=
  ⟨.ofStore (Store.ofRows weekRows), .lookingUp, ⟨[]⟩, .initial, sampleDay⟩

/-- The work packages that were made in the current week. -/
def weekQuery : Query := ⟨[⟨.plain "created_at", .thisWeek, [], false⟩], none, .all, []⟩

/-- The week begins in the second in which the work package was made, and yet it is not found. -/
theorem count_weekQuery_weekSession :
    ∃ first last,
      weekSession.settings.weekStart.currentWeek weekSession.today = ⟨some first, some last⟩ ∧
      weekSession.pool.store.workPackages.map (fun w => w.get "created_at") =
        [.text (first.stamp .midnight [])] ∧
      first.instant .midnight ≤ last.instant .midnight ∧
      (weekSession.count weekQuery).result = .ok 0 := by
  refine ⟨sampleDay.shift (-4), sampleDay.shift 3, ?_, ?_, ?_, ?_⟩
  · decide
  · decide +kernel
  · decide
  · decide +kernel

end Session

end Worklist
