import Worklist.Calendar.Range
import Worklist.Proofs.Calendar.Order

/-!
# Shifting days

A shift adds to the number of a day and stays at the end of the calendar that it would leave: where
it leads is the day of the calendar that is nearest to the sum. Counting the shift as a span of time
first, which cannot be arbitrarily long either, leads to the same day. So later days and greater
shifts never lead to an earlier day.

A day lies in the intersection of two ranges exactly if it lies in both of them.
-/

set_option autoImplicit false

namespace Worklist.Calendar

/-- The number of the day of the calendar that is nearest to a number. -/
def nearestDayNumber (number : Int) : Int :=
  max firstDayNumber (min lastDayNumber number)

/-- A later number has no earlier nearest day. -/
theorem nearestDayNumber_mono {m n : Int} (h : m ≤ n) :
    nearestDayNumber m ≤ nearestDayNumber n := by
  unfold nearestDayNumber
  omega

/-- The calendar does not end before it begins. -/
theorem first_le_last : firstDayNumber ≤ lastDayNumber := by
  decide

/-! ## Spans of time -/

/-- The greatest number of whole days in a span of time, which is counted in milliseconds of 64
bits. -/
def maxSpanDays : Int :=
  Number.maxInt64 / 86400000

/-- A span of time in whole days. -/
structure Span where
  days : Int
  neg_le : -maxSpanDays ≤ days
  le_max : days ≤ maxSpanDays

/-- The span of some days, if there is one that long. -/
def Span.ofDays? (days : Int) : Option Span :=
  if h : -maxSpanDays ≤ days ∧ days ≤ maxSpanDays then some ⟨days, h.1, h.2⟩ else none

namespace Date

/-- The day that lies a span of time later, if the calendar has it. -/
def add? (d : Date) (span : Span) : Option Date :=
  ofNumber? (d.number + span.days)

/-- A number that is none of a day lies before the first day or after the last one. -/
theorem ofNumber?_eq_none {number : Int} (h : number < firstDayNumber ∨ lastDayNumber < number) :
    ofNumber? number = none := by
  unfold ofNumber?
  rw [dif_neg (by omega)]

/-- No span leads from one end of the calendar beyond its other end. -/
theorem ofNumber?_of_long (d : Date) {days : Int}
    (long : ¬(-maxSpanDays ≤ days ∧ days ≤ maxSpanDays)) :
    ofNumber? (d.number + days) = none := by
  have calendar : lastDayNumber - firstDayNumber ≤ maxSpanDays := by decide
  have from_start := d.first_le
  have to_end := d.le_last
  exact ofNumber?_eq_none (by omega)

/-- It makes no difference that a shift is counted as a span of time first: what is too long for a
span leaves the calendar on the same side. -/
theorem shift_eq_add? (d : Date) (days : Int) :
    d.shift days =
      ((Span.ofDays? days).bind d.add?).getD (if days < 0 then first else last) := by
  unfold shift Span.ofDays?
  by_cases short : -maxSpanDays ≤ days ∧ days ≤ maxSpanDays
  · rw [dif_pos short]
    rfl
  · rw [dif_neg short, d.ofNumber?_of_long short]
    rfl

/-! ## Where a shift leads -/

/-- A shift leads to the day of the calendar that is nearest to the sum. -/
theorem number_shift_eq (d : Date) (days : Int) :
    (d.shift days).number = nearestDayNumber (d.number + days) := by
  have from_start := d.first_le
  have to_end := d.le_last
  by_cases inside : firstDayNumber ≤ d.number + days ∧ d.number + days ≤ lastDayNumber
  · rw [number_shift inside.1 inside.2]
    unfold nearestDayNumber
    omega
  · have outside : d.number + days < firstDayNumber ∨ lastDayNumber < d.number + days := by omega
    unfold shift
    rw [ofNumber?_eq_none outside, Option.getD_none]
    -- the sign of the shift tells which end of the calendar it would leave
    split_ifs with back
    · show firstDayNumber = _
      unfold nearestDayNumber
      omega
    · show lastDayNumber = _
      unfold nearestDayNumber
      have := first_le_last
      omega

/-- A later day and a further shift lead to no earlier day. -/
theorem shift_mono {d e : Date} {m n : Int} (days : d ≤ e) (shifts : m ≤ n) :
    d.shift m ≤ e.shift n := by
  have sum : d.number + m ≤ e.number + n := Int.add_le_add days shifts
  show (d.shift m).number ≤ (e.shift n).number
  rw [number_shift_eq, number_shift_eq]
  exact nearestDayNumber_mono sum

/-- A shift ahead leads to no earlier day. -/
theorem le_shift (d : Date) {days : Int} (ahead : 0 ≤ days) : d ≤ d.shift days := by
  have from_start := d.first_le
  have to_end := d.le_last
  show d.number ≤ (d.shift days).number
  rw [number_shift_eq]
  unfold nearestDayNumber
  omega

/-- Shifts that come to the same day of the calendar are the same. -/
theorem shift_congr (d : Date) {m n : Int}
    (h : nearestDayNumber (d.number + m) = nearestDayNumber (d.number + n)) :
    d.shift m = d.shift n := by
  apply eq_of_number_eq
  rw [number_shift_eq, number_shift_eq, h]

/-- A shift beyond 64 bits leads no further than the nearest one of 64 bits. -/
theorem shift_saturate (d : Date) (days : Int) : d.shift (Number.saturate days) = d.shift days := by
  have from_start := d.first_le
  have to_end := d.le_last
  have wide : Number.minInt64 ≤ firstDayNumber - lastDayNumber ∧
      lastDayNumber - firstDayNumber ≤ Number.maxInt64 := by
    decide
  apply shift_congr
  unfold nearestDayNumber Number.saturate
  omega

/-! ## The ends of a range -/

/-- The later one of two days is no later than a day if neither of them is. -/
theorem later_le_iff {a b d : Date} : later a b ≤ d ↔ a ≤ d ∧ b ≤ d := by
  show (later a b).number ≤ d.number ↔ a.number ≤ d.number ∧ b.number ≤ d.number
  unfold later
  split_ifs with order
  · have : a.number ≤ b.number := order
    omega
  · have : ¬a.number ≤ b.number := order
    omega

/-- The earlier one of two days is no earlier than a day if neither of them is. -/
theorem le_earlier_iff {a b d : Date} : d ≤ earlier a b ↔ d ≤ a ∧ d ≤ b := by
  show d.number ≤ (earlier a b).number ↔ d.number ≤ a.number ∧ d.number ≤ b.number
  unfold earlier
  split_ifs with order
  · have : a.number ≤ b.number := order
    omega
  · have : ¬a.number ≤ b.number := order
    omega

end Date

namespace DayRange

/-- A range contains a day if each end that the range has is on the right side of it. -/
theorem contains_iff {r : DayRange} {d : Date} :
    r.contains d = true ↔ (∀ lower ∈ r.lower?, lower ≤ d) ∧ ∀ upper ∈ r.upper?, d ≤ upper := by
  obtain ⟨lower?, upper?⟩ := r
  cases lower? <;> cases upper? <;> simp [contains]

/-- What lies on one side of the tighter of two ends lies on that side of both. -/
theorem forall_mem_tighter (holds : Date → Prop) {pick : Date → Date → Date}
    (picked : ∀ a b, holds (pick a b) ↔ holds a ∧ holds b) (a? b? : Option Date) :
    (∀ e ∈ tighter pick a? b?, holds e) ↔ (∀ a ∈ a?, holds a) ∧ ∀ b ∈ b?, holds b := by
  cases a? <;> cases b? <;> simp [tighter, picked]

/-- A day lies in the intersection of two ranges exactly if it lies in both. -/
theorem contains_intersect {r s : DayRange} {d : Date} :
    (r.intersect s).contains d = true ↔ r.contains d = true ∧ s.contains d = true := by
  have lower := forall_mem_tighter (· ≤ d) (fun _ _ => Date.later_le_iff)
    r.lower? s.lower?
  have upper := forall_mem_tighter (d ≤ ·) (fun _ _ => Date.le_earlier_iff)
    r.upper? s.upper?
  simp only [contains_iff, intersect, lower, upper]
  exact and_and_and_comm

end DayRange

end Worklist.Calendar
