import Worklist.Proofs.Calendar.Order

/-!
# Instants of a day

An instant is written as its day, a blank and the time of day, and may go on with a fraction of a
second. The ends of a day are written with six digits of a fraction. No instant to the microsecond
comes after the last one of its day, so the texts of instants come after the end of a day exactly
when their days do. A text without a fraction comes before the one of the same instant that has a
fraction.
-/

set_option autoImplicit false

namespace Worklist.Calendar

open Std (OrientedCmp ReflCmp)

/-- A time of day, to the second. -/
structure TimeOfDay where
  hour : Nat
  minute : Nat
  second : Nat
  hour_lt : hour < 24
  minute_lt : minute < 60
  second_lt : second < 60

namespace TimeOfDay

/-- The first second of a day. -/
def midnight : TimeOfDay := ⟨0, 0, 0, by omega, by omega, by omega⟩

/-- The last second of a day. -/
def lastSecond : TimeOfDay := ⟨23, 59, 59, by omega, by omega, by omega⟩

/-- How many seconds of the day have passed. -/
def seconds (t : TimeOfDay) : Nat :=
  60 * (60 * t.hour + t.minute) + t.second

/-- No time of day is later than the last second. -/
theorem seconds_le (t : TimeOfDay) : t.seconds ≤ lastSecond.seconds := by
  have hour := t.hour_lt
  have minute := t.minute_lt
  have second := t.second_lt
  show 60 * (60 * t.hour + t.minute) + t.second ≤ 86399
  omega

/-- The text of a time of day: hour, minute and second, joined by colons. -/
def chars (t : TimeOfDay) : List Char :=
  Number.padZeros 2 (Nat.toDigits 10 t.hour) ++
    ([':'] ++ (Number.padZeros 2 (Nat.toDigits 10 t.minute) ++
      ([':'] ++ Number.padZeros 2 (Nat.toDigits 10 t.second))))

/-- Texts that start with times of day come in the order of these times, and then in that of what
follows. -/
theorem compare_chars_append (t u : TimeOfDay) (rest rest' : List Char) :
    compare (t.chars ++ rest) (u.chars ++ rest') =
      (compare t.seconds u.seconds).then (compare rest rest') := by
  have length {n : Nat} (h : n < 60) :
      (Number.padZeros 2 (Nat.toDigits 10 n)).length = 2 :=
    Text.length_padZeros (by decide) (Nat.lt_trans h (by decide))
  have order {m n : Nat} (hm : m < 60) (hn : n < 60) :
      compare (Number.padZeros 2 (Nat.toDigits 10 m)) (Number.padZeros 2 (Nat.toDigits 10 n)) =
        compare m n :=
    Text.compare_padZeros (by decide) (Nat.lt_trans hm (by decide)) (Nat.lt_trans hn (by decide))
  have hour_t : t.hour < 60 := Nat.lt_trans t.hour_lt (by decide)
  have hour_u : u.hour < 60 := Nat.lt_trans u.hour_lt (by decide)
  -- the texts are compared part by part, and so are the counts of seconds
  have parts : compare (t.chars ++ rest) (u.chars ++ rest') =
      (compare t.hour u.hour).then ((compare t.minute u.minute).then
        ((compare t.second u.second).then (compare rest rest'))) := by
    simp only [chars, List.append_assoc]
    rw [Text.compare_append ((length hour_t).trans (length hour_u).symm),
      Text.compare_append_left,
      Text.compare_append ((length t.minute_lt).trans (length u.minute_lt).symm),
      Text.compare_append_left,
      Text.compare_append ((length t.second_lt).trans (length u.second_lt).symm),
      order hour_t hour_u, order t.minute_lt u.minute_lt, order t.second_lt u.second_lt]
  have counts : compare t.seconds u.seconds =
      ((compare t.hour u.hour).then (compare t.minute u.minute)).then
        (compare t.second u.second) := by
    unfold seconds
    rw [Text.compare_mul_add t.second_lt u.second_lt, Text.compare_mul_add t.minute_lt u.minute_lt]
  rw [parts, counts]
  simp only [Ordering.then_assoc]

end TimeOfDay

/-! ## Fractions of a second -/

/-- The text of a fraction: a point and its digits, or nothing without digits. -/
def fractionChars : List Char → List Char
  | [] => []
  | digits => '.' :: digits

/-- No digits come after as many nines. -/
theorem compare_nines {digits : List Char} {count : Nat} (h : ∀ c ∈ digits, c.isDigit = true)
    (short : digits.length ≤ count) : compare digits (List.replicate count '9') ≠ .gt := by
  induction digits generalizing count with
  | nil =>
    cases count with
    | zero =>
      show (Ordering.eq : Ordering) ≠ .gt
      decide
    | succ count =>
      show (Ordering.lt : Ordering) ≠ .gt
      decide
  | cons c digits ih =>
    obtain ⟨hc, hdigits⟩ := List.forall_mem_cons.mp h
    cases count with
    | zero => simp at short
    | succ count =>
      have bounds := Text.toNat_of_isDigit hc
      have nine : '9'.toNat = 57 := rfl
      rw [List.replicate_succ, List.compare_cons_cons, Text.compare_digit hc (by decide), nine]
      by_cases below : c.toNat < 57
      · have first : compare (c.toNat - 48) (57 - 48) = .lt := Nat.compare_eq_lt.mpr (by omega)
        rw [first]
        show (Ordering.lt : Ordering) ≠ .gt
        decide
      · have first : compare (c.toNat - 48) (57 - 48) = .eq := Nat.compare_eq_eq.mpr (by omega)
        rw [first]
        exact ih hdigits (by simpa using short)

/-- No fraction of at most six digits is written later than six nines. -/
theorem compare_fractionChars {digits : List Char} (h : ∀ c ∈ digits, c.isDigit = true)
    (short : digits.length ≤ 6) :
    compare (fractionChars digits) ['.', '9', '9', '9', '9', '9', '9'] ≠ .gt := by
  cases digits with
  | nil =>
    show (Ordering.lt : Ordering) ≠ .gt
    decide
  | cons c digits =>
    have nines := compare_nines h short
    have rest : compare (fractionChars (c :: digits)) ['.', '9', '9', '9', '9', '9', '9'] =
        compare (c :: digits) (List.replicate 6 '9') := Text.compare_append_left ['.'] _ _
    rwa [rest]

/-! ## Texts of instants -/

namespace Date

/-- The text of an instant: the day, a blank, the time of day and the fraction of its second. -/
def stamp (d : Date) (t : TimeOfDay) (fraction : List Char) : String :=
  String.ofList (d.text.toList ++ (' ' :: (t.chars ++ fractionChars fraction)))

/-- An instant is written as its day, a blank, the time and the fraction. -/
theorem toList_stamp (d : Date) (t : TimeOfDay) (fraction : List Char) :
    (d.stamp t fraction).toList = d.text.toList ++ ([' '] ++ (t.chars ++ fractionChars fraction)) :=
  String.toList_ofList

/-- An instant to the second, as the count of seconds since the first day of year zero. -/
def instant (d : Date) (t : TimeOfDay) : Int :=
  86400 * d.number + t.seconds

end Date

namespace DayEnd

/-- The time at an end of a day: midnight, or the last second. -/
def time : DayEnd → TimeOfDay
  | .beginning => .midnight
  | .ending => .lastSecond

/-- The six digits of the fraction at an end of a day: the least ones, or the greatest. -/
def fraction : DayEnd → List Char
  | .beginning => ['0', '0', '0', '0', '0', '0']
  | .ending => ['9', '9', '9', '9', '9', '9']

/-- The ends of a day are written as instants. -/
theorem timestamp_eq_stamp (e : DayEnd) (d : Date) :
    e.timestamp d = d.stamp e.time e.fraction := by
  apply String.toList_inj.mp
  unfold timestamp
  rw [String.toList_append, Date.toList_stamp]
  cases e <;> rfl

end DayEnd

namespace Date

/-- Texts of instants come in the order of the days, then of the times and then of the
fractions. -/
theorem compare_stamp {d e : Date} (hd : d.FourDigits) (he : e.FourDigits) (t u : TimeOfDay)
    (fraction fraction' : List Char) :
    compare (d.stamp t fraction) (e.stamp u fraction') =
      (compare d.number e.number).then ((compare t.seconds u.seconds).then
        (compare (fractionChars fraction) (fractionChars fraction'))) := by
  rw [Text.compare_toList, toList_stamp, toList_stamp, compare_text_append hd he,
    Text.compare_append_left, TimeOfDay.compare_chars_append]

/-- An instant of a day comes after the end of another one if its day does. -/
theorem compare_stamp_ending {d e : Date} (hd : d.FourDigits) (he : e.FourDigits) (t : TimeOfDay)
    {fraction : List Char} (digits : ∀ c ∈ fraction, c.isDigit = true)
    (short : fraction.length ≤ 6) :
    compare (d.stamp t fraction) (DayEnd.ending.timestamp e) = .gt ↔ e < d := by
  have within : (compare t.seconds TimeOfDay.lastSecond.seconds).then
      (compare (fractionChars fraction) (fractionChars DayEnd.ending.fraction)) ≠ .gt := by
    intro later
    rcases Ordering.then_eq_gt.mp later with time | ⟨-, rest⟩
    · exact absurd (Nat.compare_eq_gt.mp time) (Nat.not_lt.mpr t.seconds_le)
    · exact compare_fractionChars digits short rest
  rw [DayEnd.timestamp_eq_stamp, compare_stamp hd he]
  show (compare d.number e.number).then _ = .gt ↔ e.number < d.number
  rw [Ordering.then_eq_gt, compare_gt_iff_gt]
  exact or_iff_left fun h => within h.2

/-- An instant to the second comes after the beginning of a day if it is a later one, else before
it: the same instant as the beginning is written without the zeros of the fraction. -/
theorem compare_stamp_beginning {d e : Date} (hd : d.FourDigits) (he : e.FourDigits)
    (t : TimeOfDay) :
    compare (d.stamp t []) (DayEnd.beginning.timestamp e) =
      if e.instant .midnight < d.instant t then .gt else .lt := by
  have shorter : compare (fractionChars []) (fractionChars DayEnd.beginning.fraction) = .lt := rfl
  have inside := t.seconds_le
  have none : TimeOfDay.midnight.seconds = 0 := rfl
  have last : TimeOfDay.lastSecond.seconds = 86399 := rfl
  rw [DayEnd.timestamp_eq_stamp, compare_stamp hd he, shorter]
  show (compare d.number e.number).then
    ((compare t.seconds TimeOfDay.midnight.seconds).then .lt) = _
  unfold instant
  rw [none]
  rcases lt_trichotomy d.number e.number with before | same | after
  · rw [compare_lt_iff_lt.mpr before, if_neg (by omega)]
    rfl
  · rw [compare_eq_iff_eq.mpr same]
    by_cases midnight : t.seconds = 0
    · rw [midnight, if_neg (by omega)]
      rfl
    · rw [Nat.compare_eq_gt.mpr (by omega : 0 < t.seconds), if_pos (by omega)]
      rfl
  · rw [compare_gt_iff_gt.mpr after, if_pos (by omega)]
    rfl

end Date

end Worklist.Calendar
