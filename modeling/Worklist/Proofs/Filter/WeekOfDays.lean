import Worklist.Proofs.Filter.CurrentWeek

/-!
# The current week on fields of days

On a field of days the filter by the current week has no time of day to compare, so it finds exactly
the days from the first one of the week to the same day one week later, both included. The week is
the one week that holds today and starts on the day that weeks start on. Where it reaches out of the
years of four digits its ends are moved into them, which no day of these years can tell.
-/

set_option autoImplicit false

namespace Worklist

open Calendar (Date DayEnd WeekStart)
open Sql (Column Condition)
open Store (Record Row cell columnAffinity compareWith meets truth)

/-! ## The one week of a day -/

namespace Calendar

/-- Days of four-digit years are so far from the ends of the calendar that weeks do not reach
them. -/
theorem Date.FourDigits.inside {d : Date} (h : d.FourDigits) :
    firstDayNumber + 14 ≤ d.number ∧ d.number ≤ lastDayNumber - 14 := by
  have low : Date.firstOfFourDigits.number ≤ d.number := h.1
  have high : d.number ≤ Date.lastOfFourDigits.number := h.2
  have first : firstDayNumber + 14 ≤ Date.firstOfFourDigits.number := by decide
  have last : Date.lastOfFourDigits.number ≤ lastDayNumber - 14 := by decide
  omega

/-- The days whose week may be the one of a day: it starts on the right day of the week, not after
the day, and at most six days before it. -/
def WeekStart.StartsWeekOf (w : WeekStart) (start today : Date) : Prop :=
  start ≤ today ∧ today ≤ start.shift 6 ∧ start.weekday = w.weekday

/-- A week begins as many days ago as have passed since the day that weeks start on. -/
theorem WeekStart.number_weekOf_eq (w : WeekStart) {today : Date} (own : today.FourDigits) :
    (w.weekOf today).number = today.number - (today.weekday - w.weekday) % 7 := by
  obtain ⟨low, high⟩ := own.inside
  unfold weekOf
  rw [Date.number_shift (by omega) (by omega)]
  omega

/-- The week of a day starts on the day that weeks start on, and it holds the day. -/
theorem WeekStart.startsWeekOf_weekOf (w : WeekStart) {today : Date} (own : today.FourDigits) :
    w.StartsWeekOf (w.weekOf today) today := by
  obtain ⟨low, high⟩ := own.inside
  have number := w.number_weekOf_eq own
  have six : ((w.weekOf today).shift 6).number = (w.weekOf today).number + 6 :=
    Date.number_shift (by omega) (by omega)
  have known : 0 ≤ w.weekday ∧ w.weekday ≤ 6 := by cases w <;> decide
  refine ⟨?_, ?_, ?_⟩
  · show (w.weekOf today).number ≤ today.number
    omega
  · show today.number ≤ ((w.weekOf today).shift 6).number
    omega
  · have weekday : today.weekday = (today.number + 5) % 7 := rfl
    show ((w.weekOf today).number + 5) % 7 = w.weekday
    omega

namespace WeekStart.StartsWeekOf

variable {w : WeekStart} {start today : Date}

/-- The start of the week of today lies no more than six days back. -/
theorem number_bounds (h : w.StartsWeekOf start today) (own : today.FourDigits) :
    start.number ≤ today.number ∧ today.number ≤ start.number + 6 := by
  obtain ⟨before, after, -⟩ := h
  obtain ⟨-, high⟩ := own.inside
  have low := start.first_le
  change start.number ≤ today.number at before
  change today.number ≤ (start.shift 6).number at after
  rw [Date.number_shift (by omega) (by omega)] at after
  exact ⟨before, after⟩

/-- No other day starts the week of a day: two such days are less than seven days apart and on the
same day of the week. -/
theorem eq {start' : Date} (h : w.StartsWeekOf start today) (h' : w.StartsWeekOf start' today)
    (own : today.FourDigits) : start = start' := by
  have between := h.number_bounds own
  have between' := h'.number_bounds own
  have same : (start.number + 5) % 7 = (start'.number + 5) % 7 := h.2.2.trans h'.2.2.symm
  exact Date.eq_of_number_eq (by omega)

/-- The week neither starts after the years of four digits nor ends before them. -/
theorem reaches (h : w.StartsWeekOf start today) (own : today.FourDigits) :
    start ≤ Date.lastOfFourDigits ∧ Date.firstOfFourDigits ≤ start.shift 7 := by
  obtain ⟨before, after⟩ := h.number_bounds own
  obtain ⟨-, high⟩ := own.inside
  have low := start.first_le
  have from_zero : Date.firstOfFourDigits.number ≤ today.number := own.1
  refine ⟨Int.le_trans before own.2, ?_⟩
  show Date.firstOfFourDigits.number ≤ (start.shift 7).number
  rw [Date.number_shift (by omega) (by omega)]
  omega

end WeekStart.StartsWeekOf

/-- The fifteenth of March 2024 was a Friday, the fourth day after Monday. -/
example : sampleDay.weekday = 4 := by decide

/-! ## Ends moved into the years of four digits -/

/-- For days of four-digit years a lower bound within or before these years stays the same bound
when it is moved into them. -/
theorem Date.clampToFourDigits_le_iff {d e : Date} (own : d.FourDigits)
    (below : e ≤ lastOfFourDigits) : e.clampToFourDigits ≤ d ↔ e ≤ d := by
  unfold clampToFourDigits
  split_ifs with before after
  · exact iff_of_true own.1 (Int.le_trans (Int.le_of_lt before) own.1)
  · exact absurd below (Int.not_le.mpr after)
  · exact Iff.rfl

/-- For days of four-digit years an upper bound within or after these years stays the same bound
when it is moved into them. -/
theorem Date.le_clampToFourDigits_iff {d e : Date} (own : d.FourDigits)
    (above : firstOfFourDigits ≤ e) : d ≤ e.clampToFourDigits ↔ d ≤ e := by
  unfold clampToFourDigits
  split_ifs with before after
  · exact absurd above (Int.not_le.mpr before)
  · exact iff_of_true own.2 (Int.le_trans own.2 (Int.le_of_lt after))
  · exact Iff.rfl

end Calendar

/-! ## The filter -/

/-- A day lies between the texts of two days if it lies between these days, once they are moved into
the years of four digits. -/
theorem Predicate.holds_between_days {f : Field} (dateOnly : f.isDateOnly = true) {s : Store}
    {row : Row} (affinity : columnAffinity f.column = .text) {d : Date}
    (value : row.get f.column = .text d.text) (own : d.FourDigits) (first last : Date) :
    (truth s row (.between f.column (bound f .beginning first)
        (bound f .beginning last))).holds = true ↔
      first.clampToFourDigits ≤ d ∧ d ≤ last.clampToFourDigits := by
  have written (e : Date) : bound f .beginning e = .text e.clampToFourDigits.text := by
    unfold bound
    simp only [dateOnly, if_true]
  have order (e : Date) : compare d.text e.clampToFourDigits.text =
      compare d.number e.clampToFourDigits.number :=
    Date.compare_text own e.fourDigits_clampToFourDigits
  show (Store.Truth.and (compareWith row (.column f.column) .ge _)
    (compareWith row (.column f.column) .le _)).holds = true ↔ _
  rw [Store.Truth.holds_and, written, written, Store.compareWith_text affinity value,
    Store.compareWith_text affinity value, Store.Truth.holds_ofBool, Store.Truth.holds_ofBool,
    Bool.and_eq_true, order, order]
  apply and_congr
  · show (compare d.number _ != .lt) = true ↔ _
    rw [bne_iff_ne, ne_eq, compare_lt_iff_lt]
    exact Int.not_lt
  · show (compare d.number _ != .gt) = true ↔ _
    rw [bne_iff_ne, ne_eq, compare_gt_iff_gt]
    exact Int.not_lt

namespace Clause

/-- For a day of a four-digit year as today, the current week starts on the one day that is at most
six days back and on the right day of the week. On a field of days the filter finds the days from
that one to the same day of the next week, also where the week has other days than those of
four-digit years. -/
theorem meets_thisWeek_day_iff (catalog : Catalog) (context : FilterContext) {c : Clause}
    (current : c.operator = .thisWeek) {f : Field} (resolved : catalog.resolve c.field = .ok f)
    (dateOnly : f.isDateOnly = true) (s : Store) (workPackage : Record) {d : Date}
    (stored : cell s workPackage f.column = .text d.text) (fourDigits : d.FourDigits)
    (own : context.today.FourDigits) :
    (∀ start, context.weekStart.StartsWeekOf start context.today ↔
      start = context.weekStart.weekOf context.today) ∧
    ∃ condition, (c.predicate context f).condition? = some condition ∧
      (meets s workPackage condition = true ↔
        context.weekStart.weekOf context.today ≤ d ∧
          d ≤ (context.weekStart.weekOf context.today).shift 7) := by
  have starts := context.weekStart.startsWeekOf_weekOf own
  constructor
  · intro start
    constructor
    · intro other
      exact other.eq starts own
    · rintro rfl
      exact starts
  · have compiled : c.condition? context f = Predicate.inWeek? f context := by
      unfold condition?
      rw [current]
    refine ⟨_, (predicate_condition? c context f).trans compiled, ?_⟩
    have affinity : columnAffinity f.column = .text :=
      (Catalog.columnAffinity_of_resolve resolved).trans
        (Field.Writes.day (d := d) dateOnly).affinity_kind
    obtain ⟨below, above⟩ := starts.reaches own
    show (truth s _ _).holds = true ↔ _
    rw [Predicate.holds_between_days dateOnly affinity
        ((Store.get_joins s workPackage List.mem_cons_self).trans stored) fourDigits,
      Date.clampToFourDigits_le_iff fourDigits below,
      Date.le_clampToFourDigits_iff fourDigits above]

end Clause

/-- A work package that is due on the last day of year 9999. -/
def lastDayRecord : Record :=
  ⟨1, [("due_date", .text Date.lastOfFourDigits.text)]⟩

/-- It is due in the current week of that day, which ends in year 10000. -/
theorem Clause.meets_thisWeek_day_lastDayRecord :
    Date.lastOfFourDigits < (WeekStart.monday.weekOf Date.lastOfFourDigits).shift 7 ∧
    ∃ condition, (predicate ⟨.plain "due_date", .thisWeek, [], false⟩
        ⟨Date.lastOfFourDigits, .monday⟩ (Field.plain "due_date" .date)).condition? =
          some condition ∧
      meets .empty lastDayRecord condition = true := by
  have own : Date.lastOfFourDigits.FourDigits := ⟨by decide, by decide⟩
  obtain ⟨-, condition, compiled, holds⟩ := meets_thisWeek_day_iff ⟨[]⟩
    ⟨Date.lastOfFourDigits, .monday⟩ (c := ⟨.plain "due_date", .thisWeek, [], false⟩) rfl
    (f := Field.plain "due_date" .date) rfl rfl .empty lastDayRecord rfl own own
  refine ⟨by decide, condition, compiled, holds.mpr ?_⟩
  exact ⟨by decide, by decide⟩

end Worklist
