import Mathlib.Order.SuccPred.Basic
import Mathlib.Order.Interval.Basic
import Mathlib.Tactic.SplitIfs
import Mathlib.Algebra.Order.Group.Int
import Worklist.Calendar.Date
import Worklist.Proofs.Text.Order

/-!
# Days in order

The year, the month and the day of the month of a day number are a date of the calendar with that
number. So days come in the order of their dates, and as long as years have four digits that is the
order of their texts. Moving a day into these years does not move it past another day of them.
-/

set_option autoImplicit false

namespace Worklist.Calendar

open Std (OrientedCmp ReflCmp)

/-! ## Years -/

/-- A year has the days of its twelve months. -/
theorem daysBeforeYear_succ (year : Int) :
    daysBeforeYear (year + 1) = daysBeforeYear year + daysBeforeMonth (isLeap year) 13 := by
  have length : daysBeforeMonth (isLeap year) 13 = if isLeap year then 366 else 365 := by
    cases isLeap year <;> rfl
  rw [length]
  unfold daysBeforeYear isLeap
  split_ifs with leap
  · simp only [Bool.and_eq_true, Bool.or_eq_true, beq_iff_eq, bne_iff_ne] at leap
    omega
  · simp only [Bool.and_eq_true, Bool.or_eq_true, beq_iff_eq, bne_iff_ne] at leap
    omega

/-- The years begin one after the other. -/
theorem daysBeforeYear_lt {year later : Int} (h : year < later) :
    daysBeforeYear year < daysBeforeYear later := by
  unfold daysBeforeYear
  omega

/-- A year ends no later than a later year begins. -/
theorem daysBeforeYear_succ_le {year later : Int} (h : year < later) :
    daysBeforeYear (year + 1) ≤ daysBeforeYear later := by
  by_cases next : year + 1 = later
  · rw [next]
  · exact Int.le_of_lt (daysBeforeYear_lt (by omega))

/-- A day lies in its year. -/
theorem yearOfDay_bounds (day : Int) :
    daysBeforeYear (yearOfDay day) ≤ day ∧ day < daysBeforeYear (yearOfDay day + 1) := by
  -- the mean year brings the estimate within one year of the year that is looked for
  have close : daysBeforeYear (day * 400 / 146097 - 1) ≤ day ∧
      day < daysBeforeYear (day * 400 / 146097 + 2) := by
    unfold daysBeforeYear
    omega
  unfold yearOfDay
  simp only
  split_ifs with early here
  · rw [Int.sub_add_cancel]
    exact ⟨close.1, early⟩
  · exact ⟨by omega, here⟩
  · refine ⟨by omega, ?_⟩
    rw [Int.add_assoc]
    exact close.2

/-! ## Months -/

/-- How far a bound reaches along consecutive numbers: up to the first one beyond it. -/
theorem length_takeWhile_range' (f : Nat → Nat) (bound first count : Nat) :
    let k := ((List.range' first count).takeWhile fun m => decide (f m ≤ bound)).length
    k ≤ count ∧ (∀ i < k, f (first + i) ≤ bound) ∧ (k < count → bound < f (first + k)) := by
  induction count generalizing first with
  | zero => simp
  | succ count ih =>
    intro k
    obtain ⟨short, reached, beyond⟩ := ih (first + 1)
    by_cases h : f first ≤ bound
    · have split : k = ((List.range' (first + 1) count).takeWhile
          fun m => decide (f m ≤ bound)).length + 1 := by
        simp [k, List.range'_succ, h]
      rw [split]
      refine ⟨by omega, ?_, ?_⟩
      · intro i hi
        cases i with
        | zero => exact h
        | succ i =>
          rw [Nat.add_comm i 1, ← Nat.add_assoc]
          exact reached i (by omega)
      · intro hk
        rw [Nat.add_comm _ 1, ← Nat.add_assoc]
        exact beyond (by omega)
    · have none : k = 0 := by
        simp [k, List.range'_succ, h]
      rw [none]
      exact ⟨by omega, by omega, fun _ => Nat.lt_of_not_le h⟩

/-- A day of a year lies in its month. -/
theorem monthOfDay_bounds {leap : Bool} {day : Nat} (h : day < daysBeforeMonth leap 13) :
    1 ≤ monthOfDay leap day ∧ monthOfDay leap day ≤ 12 ∧
      daysBeforeMonth leap (monthOfDay leap day) ≤ day ∧
      day < daysBeforeMonth leap (monthOfDay leap day + 1) := by
  obtain ⟨short, reached, beyond⟩ := length_takeWhile_range' (daysBeforeMonth leap) day 2 11
  have month : monthOfDay leap day = 1 + ((List.range' 2 11).takeWhile
      fun m => decide (daysBeforeMonth leap m ≤ day)).length := rfl
  revert month
  generalize ((List.range' 2 11).takeWhile fun m => decide (daysBeforeMonth leap m ≤ day)).length
    = k at short reached beyond
  intro month
  rw [month]
  refine ⟨by omega, by omega, ?_, ?_⟩
  · cases k with
    | zero =>
      have january : daysBeforeMonth leap 1 = 0 := by cases leap <;> rfl
      show daysBeforeMonth leap 1 ≤ day
      rw [january]
      exact Nat.zero_le day
    | succ k =>
      have last := reached k (by omega)
      rwa [show 1 + (k + 1) = 2 + k by omega]
  · by_cases hk : k < 11
    · rw [show 1 + k + 1 = 2 + k by omega]
      exact beyond hk
    · rwa [show 1 + k + 1 = 13 by omega]

namespace Civil

/-! ## Dates -/

/-- A date of the calendar lies in its month. -/
theorem isValid_iff {c : Civil} :
    c.isValid = true ↔ 1 ≤ c.month ∧ c.month ≤ 12 ∧ 1 ≤ c.day ∧
      daysBeforeMonth (isLeap c.year) c.month + c.day ≤
        daysBeforeMonth (isLeap c.year) (c.month + 1) := by
  simp only [isValid, Bool.and_eq_true, decide_eq_true_eq]
  unfold daysInMonth
  omega

/-- The date of a day number is a date of the calendar, and it has that number. -/
theorem ofDayNumber_spec (number : Int) :
    (ofDayNumber number).isValid = true ∧ (ofDayNumber number).dayNumber = number := by
  obtain ⟨from_start, before_next⟩ := yearOfDay_bounds number
  rw [daysBeforeYear_succ] at before_next
  have inYear : (number - daysBeforeYear (yearOfDay number)).toNat <
      daysBeforeMonth (isLeap (yearOfDay number)) 13 := by omega
  obtain ⟨first, last, from_month, before_month⟩ := monthOfDay_bounds inYear
  constructor
  · rw [isValid_iff]
    simp only [ofDayNumber]
    omega
  · simp only [dayNumber, ofDayNumber]
    omega

/-- Dates in order: by year, then by month, then by day of the month. -/
def order : Civil → Civil → Ordering :=
  compareLex (compareOn year) (compareLex (compareOn month) (compareOn day))

/-- The months of a year begin one after the other. -/
theorem daysBeforeMonth_le : ∀ leap, ∀ later < 14, ∀ month ≤ later,
    daysBeforeMonth leap month ≤ daysBeforeMonth leap later := by
  decide

/-- A date that comes first has the smaller day number. -/
theorem dayNumber_lt_of_order {a b : Civil} (ha : a.isValid = true) (hb : b.isValid = true)
    (h : order a b = .lt) : a.dayNumber < b.dayNumber := by
  obtain ⟨first_a, last_a, day_a, inside_a⟩ := isValid_iff.mp ha
  obtain ⟨first_b, last_b, day_b, inside_b⟩ := isValid_iff.mp hb
  simp only [order, compareLex, compareOn, Ordering.then_eq_lt, compare_lt_iff_lt,
    compare_eq_iff_eq] at h
  unfold dayNumber
  rcases h with years | ⟨same_year, months | ⟨same_month, days⟩⟩
  · have year_end := daysBeforeMonth_le (isLeap a.year) 13 (by omega) (a.month + 1) (by omega)
    have next_year := daysBeforeYear_succ_le years
    rw [daysBeforeYear_succ] at next_year
    omega
  · rw [same_year] at inside_a ⊢
    have month_end := daysBeforeMonth_le (isLeap b.year) b.month (by omega) (a.month + 1) months
    omega
  · rw [same_year, same_month]
    omega

/-- Dates of the calendar come in the order of their day numbers. -/
theorem compare_dayNumber {a b : Civil} (ha : a.isValid = true) (hb : b.isValid = true) :
    compare a.dayNumber b.dayNumber = order a b := by
  have oriented : OrientedCmp order := by
    unfold order
    infer_instance
  cases h : order a b with
  | lt => exact compare_lt_iff_lt.mpr (dayNumber_lt_of_order ha hb h)
  | eq =>
    simp only [order, compareLex, compareOn, Ordering.then_eq_eq, compare_eq_iff_eq] at h
    obtain ⟨years, months, days⟩ := h
    unfold dayNumber
    rw [years, months, days]
    exact ReflCmp.compare_self
  | gt =>
    exact compare_gt_iff_gt.mpr (dayNumber_lt_of_order hb ha (OrientedCmp.lt_of_gt h))

/-! ## Texts of dates -/

/-- The text of a date with a year of four digits. -/
theorem toList_text {c : Civil} (low : 0 ≤ c.year) (high : c.year ≤ 9999) :
    c.text.toList = Number.padZeros 4 (Nat.toDigits 10 c.year.natAbs) ++
      (['-'] ++ (Number.padZeros 2 (Nat.toDigits 10 c.month) ++
        (['-'] ++ Number.padZeros 2 (Nat.toDigits 10 c.day)))) := by
  have year : yearText c.year = Number.padZeros 4 (Nat.toDigits 10 c.year.natAbs) :=
    if_pos ⟨low, high⟩
  unfold text
  rw [String.toList_ofList, year]
  simp

end Civil

namespace Date

/-- Whether the year of a day has four digits. -/
def FourDigits (d : Date) : Prop :=
  firstOfFourDigits ≤ d ∧ d ≤ lastOfFourDigits

/-- A day that is written with four digits of a year is of the years 0 to 9999. -/
theorem year_of_fourDigits {d : Date} (h : d.FourDigits) :
    0 ≤ d.civil.year ∧ d.civil.year ≤ 9999 := by
  obtain ⟨from_start, before_next⟩ := yearOfDay_bounds d.number
  have low : daysBeforeYear 0 ≤ d.number := h.1
  have high : d.number ≤ daysBeforeYear (9999 + 1) - 1 := h.2
  show 0 ≤ yearOfDay d.number ∧ yearOfDay d.number ≤ 9999
  constructor
  · by_contra negative
    have := daysBeforeYear_succ_le (Int.not_le.mp negative)
    omega
  · by_contra large
    have := daysBeforeYear_succ_le (Int.not_le.mp large)
    omega

/-- The month and the day of the month have two digits. -/
theorem parts_lt (d : Date) : d.civil.month < 10 ^ 2 ∧ d.civil.day < 10 ^ 2 := by
  obtain ⟨first, last, day, inside⟩ := Civil.isValid_iff.mp (Civil.ofDayNumber_spec d.number).1
  have short : ∀ leap, ∀ month < 13,
      daysBeforeMonth leap (month + 1) ≤ daysBeforeMonth leap month + 31 := by
    decide
  have inside_month := short (isLeap d.civil.year) d.civil.month (Nat.lt_succ_of_le last)
  show (Civil.ofDayNumber d.number).month < 10 ^ 2 ∧ (Civil.ofDayNumber d.number).day < 10 ^ 2
  unfold civil at inside_month
  omega

/-- Texts that start with days of four-digit years come in the order of these days, and then in that
of what follows. -/
theorem compare_text_append {a b : Date} (ha : a.FourDigits) (hb : b.FourDigits)
    (s t : List Char) :
    compare (a.text.toList ++ s) (b.text.toList ++ t) =
      (compare a.number b.number).then (compare s t) := by
  obtain ⟨low_a, high_a⟩ := year_of_fourDigits ha
  obtain ⟨low_b, high_b⟩ := year_of_fourDigits hb
  obtain ⟨month_a, day_a⟩ := a.parts_lt
  obtain ⟨month_b, day_b⟩ := b.parts_lt
  have year_a : a.civil.year.natAbs < 10 ^ 4 := by omega
  have year_b : b.civil.year.natAbs < 10 ^ 4 := by omega
  have same_length {width m n : Nat} (positive : 0 < width) (hm : m < 10 ^ width)
      (hn : n < 10 ^ width) : (Number.padZeros width (Nat.toDigits 10 m)).length =
        (Number.padZeros width (Nat.toDigits 10 n)).length :=
    (Text.length_padZeros positive hm).trans (Text.length_padZeros positive hn).symm
  -- the texts are compared part by part
  have parts : compare (a.text.toList ++ s) (b.text.toList ++ t) =
      (compare a.civil.year.natAbs b.civil.year.natAbs).then
        ((compare a.civil.month b.civil.month).then
          ((compare a.civil.day b.civil.day).then (compare s t))) := by
    unfold text
    rw [Civil.toList_text low_a high_a, Civil.toList_text low_b high_b]
    simp only [List.append_assoc]
    rw [Text.compare_append (same_length (by decide) year_a year_b), Text.compare_append_left,
      Text.compare_append (same_length (by decide) month_a month_b), Text.compare_append_left,
      Text.compare_append (same_length (by decide) day_a day_b),
      Text.compare_padZeros (by decide) year_a year_b,
      Text.compare_padZeros (by decide) month_a month_b,
      Text.compare_padZeros (by decide) day_a day_b]
  have years : compare a.civil.year.natAbs b.civil.year.natAbs =
      compare a.civil.year b.civil.year := by
    rcases lt_trichotomy a.civil.year b.civil.year with h | h | h
    · rw [compare_lt_iff_lt.mpr h]
      exact compare_lt_iff_lt.mpr (by omega)
    · rw [compare_eq_iff_eq.mpr h]
      exact compare_eq_iff_eq.mpr (congrArg Int.natAbs h)
    · rw [compare_gt_iff_gt.mpr h]
      exact compare_gt_iff_gt.mpr (by omega)
  have numbers : compare a.number b.number = Civil.order a.civil b.civil := by
    have spec_a := Civil.ofDayNumber_spec a.number
    have spec_b := Civil.ofDayNumber_spec b.number
    have dates := Civil.compare_dayNumber spec_a.1 spec_b.1
    rwa [spec_a.2, spec_b.2] at dates
  rw [parts, years, numbers]
  simp only [Civil.order, compareLex, compareOn, Ordering.then_assoc]

/-- Days of four-digit years come in the order of their texts. -/
theorem compare_text {a b : Date} (ha : a.FourDigits) (hb : b.FourDigits) :
    compare a.text b.text = compare a.number b.number := by
  have bare := compare_text_append ha hb [] []
  rw [List.append_nil, List.append_nil] at bare
  rw [Text.compare_toList, bare]
  exact Ordering.then_eq

/-! ## Moving days -/

/-- The number of a day tells which day it is. -/
theorem eq_of_number_eq {a b : Date} (h : a.number = b.number) : a = b := by
  cases a
  cases b
  cases h
  rfl

/-- A shift that stays in the calendar adds to the number of the day. -/
theorem number_shift {d : Date} {days : Int} (low : firstDayNumber ≤ d.number + days)
    (high : d.number + days ≤ lastDayNumber) : (d.shift days).number = d.number + days := by
  unfold shift ofNumber?
  rw [dif_pos ⟨low, high⟩]
  rfl

/-- A day within the years of four digits stays where it is. -/
theorem clampToFourDigits_of_fourDigits {d : Date} (h : d.FourDigits) :
    d.clampToFourDigits = d := by
  have low : ¬d < firstOfFourDigits := Int.not_lt.mpr h.1
  have high : ¬lastOfFourDigits < d := Int.not_lt.mpr h.2
  unfold clampToFourDigits
  rw [if_neg low, if_neg high]

/-- A day comes after the years before its own and before the years after it. -/
theorem number_bounds {d : Date} {year later : Int} (low : year ≤ d.civil.year)
    (high : d.civil.year < later) :
    daysBeforeYear year ≤ d.number ∧ d.number < daysBeforeYear later := by
  obtain ⟨from_start, before_next⟩ := yearOfDay_bounds d.number
  change year ≤ yearOfDay d.number at low
  have to_later := daysBeforeYear_succ_le high
  change daysBeforeYear (yearOfDay d.number + 1) ≤ _ at to_later
  have to_own : daysBeforeYear year ≤ daysBeforeYear (yearOfDay d.number) := by
    unfold daysBeforeYear
    omega
  omega

/-- Every day is moved into the years of four digits. -/
theorem fourDigits_clampToFourDigits (d : Date) : d.clampToFourDigits.FourDigits := by
  unfold clampToFourDigits FourDigits
  split_ifs with before after
  · exact ⟨Int.le_refl _, by decide⟩
  · exact ⟨by decide, Int.le_refl _⟩
  · exact ⟨Int.not_lt.mp before, Int.not_lt.mp after⟩

/-- Moving a day into the years of four digits does not move it past a day of these years, unless
that is the first one of them. -/
theorem clampToFourDigits_lt_iff {d e : Date} (low : firstOfFourDigits < d)
    (high : d ≤ lastOfFourDigits) : e.clampToFourDigits < d ↔ e < d := by
  have first : firstOfFourDigits.number < d.number := low
  have last : d.number ≤ lastOfFourDigits.number := high
  unfold clampToFourDigits
  split_ifs with before after
  · have below : e.number < firstOfFourDigits.number := before
    exact iff_of_true low (Int.lt_trans below first)
  · have above : lastOfFourDigits.number < e.number := after
    exact iff_of_false (Int.not_lt.mpr high) (Int.not_lt.mpr (by omega))
  · exact Iff.rfl

/-- What comes after the day before some day is not before that day. -/
theorem previous_lt_iff {d e : Date} (low : first < d) :
    e.previous?.getD first < d ↔ e ≤ d := by
  have start : firstDayNumber < d.number := low
  unfold previous? ofNumber?
  split_ifs with exists_day
  · show e.number - 1 < d.number ↔ e.number ≤ d.number
    omega
  · have from_start := e.first_le
    have to_end := e.le_last
    have isFirst : e.number = firstDayNumber := by omega
    refine iff_of_true low ?_
    show e.number ≤ d.number
    omega

end Date

end Worklist.Calendar
