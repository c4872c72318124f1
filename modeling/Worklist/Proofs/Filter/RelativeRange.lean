import Worklist.Proofs.Calendar.Shift
import Worklist.Proofs.Filter.DayRange

/-!
# Ranges counted from today

The ends of a range that is counted from today are the days of the calendar nearest to where the
counts lead. Counting back is counting ahead by the opposite number, for every number of days, the
least one of 64 bits included. To be on a day is to be on it or later and on it or earlier, also
where the day is the end of the calendar.
-/

set_option autoImplicit false

namespace Worklist

open Calendar (Date DayRange Span WeekStart nearestDayNumber)

namespace Operator

/-- How many days ahead of today the ends of the range of a relative operator lie. -/
def daysAhead (op : Operator) (n : Int) : Int :=
  match op with
  | .sinceDaysAgo => -n
  | .untilDaysAgo => -n
  | .onDaysAgo => -n
  | .fromDaysAhead => n
  | .untilDaysAhead => n
  | .onDaysAhead => n
  | _ => 0

/-- Both ends of the range of a relative operator lie where its count of days leads. -/
theorem end_of_dayRange? {op : Operator} {today : Date} {n : Int} {range : DayRange}
    (h : op.dayRange? today n = some range) {d : Date}
    (isEnd : d ∈ range.lower? ∨ d ∈ range.upper?) :
    d = today.shift (op.daysAhead n) := by
  cases op with
  | equals | notEquals | isBlank | isPresent | atLeast | atMost | closedStatus | openStatus
  | thisWeek | contains | notContains => cases h
  | sinceDaysAgo | untilDaysAgo | onDaysAgo =>
    rw [← Option.some.inj h] at isEnd
    simpa [DayRange.ofOffsets, Date.shift_saturate, eq_comm, daysAhead] using isEnd
  | fromDaysAhead | untilDaysAhead | onDaysAhead | today =>
    rw [← Option.some.inj h] at isEnd
    simpa [DayRange.ofOffsets, eq_comm, daysAhead] using isEnd

/-- Whether an operator stands for the days that two others have in common, of which one has no
last day and the other one no first day. -/
def IsMeetOf (on onwards upTo : Operator) (today : Date) (n : Int) : Prop :=
  ∃ a b, onwards.dayRange? today n = some a ∧ a.upper? = none ∧
    upTo.dayRange? today n = some b ∧ b.lower? = none ∧
    on.dayRange? today n = some (a.intersect b)

/-- The day some days ago is what the ranges since and until it have in common. -/
theorem onDaysAgo_isMeetOf (today : Date) (n : Int) :
    onDaysAgo.IsMeetOf .sinceDaysAgo .untilDaysAgo today n :=
  ⟨_, _, rfl, rfl, rfl, rfl, rfl⟩

/-- The day some days ahead is what the ranges from and until it have in common. -/
theorem onDaysAhead_isMeetOf (today : Date) (n : Int) :
    onDaysAhead.IsMeetOf .fromDaysAhead .untilDaysAhead today n :=
  ⟨_, _, rfl, rfl, rfl, rfl, rfl⟩

end Operator

/-- Days counted from today are exact up to the ends of the calendar. An end of a range is the day
nearest to today's number and the count, also when the count is taken as a span of time first, and
it moves with today and with the count. The ends of the range of an operator are where its count
leads, the first one not after the last one, as in the current week; being on a day is the meet of
the two halves. A day lies in a meet if it lies in both ranges. -/
theorem relativeRanges_exact :
    (∀ (today : Date) (lower? upper? : Option Int),
      (DayRange.ofOffsets today lower? upper?).lower?.map Date.number =
          lower?.map (fun n => nearestDayNumber (today.number + n)) ∧
        (DayRange.ofOffsets today lower? upper?).upper?.map Date.number =
          upper?.map fun n => nearestDayNumber (today.number + n)) ∧
    (∀ (today : Date) (n : Int), today.shift n =
      ((Span.ofDays? n).bind today.add?).getD (if n < 0 then Date.first else Date.last)) ∧
    (∀ (today later : Date) (m n : Int), today ≤ later → m ≤ n →
      ∃ a b, DayRange.ofOffsets today (some m) (some m) = ⟨some a, some a⟩ ∧
        DayRange.ofOffsets later (some n) (some n) = ⟨some b, some b⟩ ∧ a ≤ b) ∧
    (∀ (op : Operator) (today : Date) (n : Int) (range : DayRange),
      op.dayRange? today n = some range →
      (∀ d : Date, d ∈ range.lower? ∨ d ∈ range.upper? →
        d.number = nearestDayNumber (today.number + op.daysAhead n)) ∧
      ∀ lower ∈ range.lower?, ∀ upper ∈ range.upper?, lower ≤ upper) ∧
    (∀ (w : WeekStart) (today : Date), ∀ lower ∈ (w.currentWeek today).lower?,
      ∀ upper ∈ (w.currentWeek today).upper?, lower ≤ upper) ∧
    (∀ (today : Date) (n : Int),
      Operator.onDaysAgo.IsMeetOf .sinceDaysAgo .untilDaysAgo today n ∧
        Operator.onDaysAhead.IsMeetOf .fromDaysAhead .untilDaysAhead today n) ∧
    ∀ (a b : DayRange) (d : Date),
      (a.intersect b).contains d = true ↔ a.contains d = true ∧ b.contains d = true := by
  refine ⟨?exact, Date.shift_eq_add?, ?monotone, ?operators, ?week, ?meets, ?common⟩
  case exact =>
    intro today lower? upper?
    have nearest : Date.number ∘ today.shift = fun n => nearestDayNumber (today.number + n) :=
      funext today.number_shift_eq
    constructor
    · rw [← nearest, ← Option.map_map]
      rfl
    · rw [← nearest, ← Option.map_map]
      rfl
  case monotone =>
    intro today later m n days counts
    exact ⟨_, _, rfl, rfl, Date.shift_mono days counts⟩
  case operators =>
    intro op today n range h
    constructor
    · intro d isEnd
      rw [Operator.end_of_dayRange? h isEnd, Date.number_shift_eq]
    · intro lower hlower upper hupper
      rw [Operator.end_of_dayRange? h (Or.inl hlower), Operator.end_of_dayRange? h (Or.inr hupper)]
      exact Int.le_refl _
  case week =>
    rintro w today lower ⟨⟩ upper ⟨⟩
    exact Date.le_shift _ (by decide)
  case meets =>
    intro today n
    exact ⟨Operator.onDaysAgo_isMeetOf today n, Operator.onDaysAhead_isMeetOf today n⟩
  case common =>
    intro a b d
    exact DayRange.contains_intersect

/-- The least number of 64 bits, counted back, leads to the last day of the calendar. -/
theorem relativeRanges_exact_minInt64 :
    sampleDay ≤ sampleDay.shift 1 ∧ Number.minInt64 ≤ 0 ∧
      (∃ a b, DayRange.ofOffsets sampleDay (some Number.minInt64) (some Number.minInt64) =
          ⟨some a, some a⟩ ∧
        DayRange.ofOffsets (sampleDay.shift 1) (some 0) (some 0) = ⟨some b, some b⟩ ∧ a ≤ b) ∧
      ∃ range, Operator.onDaysAgo.dayRange? sampleDay Number.minInt64 = some range ∧
        ∀ d : Date, d ∈ range.lower? ∨ d ∈ range.upper? → d.number = Date.last.number := by
  have later : sampleDay ≤ sampleDay.shift 1 := by decide
  have negative : Number.minInt64 ≤ 0 := by decide
  obtain ⟨-, -, monotone, operators, -⟩ := relativeRanges_exact
  refine ⟨later, negative, monotone _ _ _ _ later negative, _, rfl, ?_⟩
  intro d isEnd
  rw [(operators .onDaysAgo sampleDay Number.minInt64 _ rfl).1 d isEnd]
  decide

end Worklist
