import Worklist.Number.Layout

/-!
# Years, months and days

The Gregorian calendar carried through all years, and the count of days from its year zero. A civil
date is a year, a month and a day of the month; `Civil.ofDayNumber` and `Civil.dayNumber` go between
these and day numbers.
-/

set_option autoImplicit false

namespace Worklist.Calendar

/-- Whether a year has a twenty-ninth of February. -/
def isLeap (year : Int) : Bool :=
  year % 4 == 0 && (year % 100 != 0 || year % 400 == 0)

/-- How many days lie between the start of year zero and the start of a year. -/
def daysBeforeYear (year : Int) : Int :=
  365 * year + (year + 3) / 4 - (year + 99) / 100 + (year + 399) / 400

/-- How many days of a year lie before a month; month thirteen stands for the end of the year. -/
def daysBeforeMonth (leap : Bool) (month : Nat) : Nat :=
  let common := match month with
    | 0 | 1 => 0
    | 2 => 31
    | 3 => 59
    | 4 => 90
    | 5 => 120
    | 6 => 151
    | 7 => 181
    | 8 => 212
    | 9 => 243
    | 10 => 273
    | 11 => 304
    | 12 => 334
    | _ => 365
  if leap && decide (2 < month) then common + 1 else common

/-- How many days a month has. -/
def daysInMonth (leap : Bool) (month : Nat) : Nat :=
  daysBeforeMonth leap (month + 1) - daysBeforeMonth leap month

/-- The year that holds a day: an estimate from the mean year, which is off by one at most. -/
def yearOfDay (day : Int) : Int :=
  let estimate := day * 400 / 146097
  if day < daysBeforeYear estimate then estimate - 1
  else if day < daysBeforeYear (estimate + 1) then estimate
  else estimate + 1

/-- The month that holds a day of the year, the first day being zero. -/
def monthOfDay (leap : Bool) (day : Nat) : Nat :=
  1 + ([2, 3, 4, 5, 6, 7, 8, 9, 10, 11, 12].takeWhile fun m => daysBeforeMonth leap m ≤ day).length

/-- A date by year, month and day of the month. -/
structure Civil where
  year : Int
  month : Nat
  day : Nat
  deriving DecidableEq, Repr

namespace Civil

/-- Whether the calendar has the date. -/
def isValid (c : Civil) : Bool :=
  decide (1 ≤ c.month) && decide (c.month ≤ 12) && decide (1 ≤ c.day) &&
    decide (c.day ≤ daysInMonth (isLeap c.year) c.month)

/-- The count of days from the first day of year zero to the date. -/
def dayNumber (c : Civil) : Int :=
  daysBeforeYear c.year + (daysBeforeMonth (isLeap c.year) c.month + c.day - 1 : Nat)

/-- The date with a day number. -/
def ofDayNumber (number : Int) : Civil :=
  let year := yearOfDay number
  let leap := isLeap year
  let day := (number - daysBeforeYear year).toNat
  let month := monthOfDay leap day
  ⟨year, month, day - daysBeforeMonth leap month + 1⟩

/-- The text of a year: four digits from year 0 to year 9999, and a sign with at least four digits
for all others. -/
def yearText (year : Int) : List Char :=
  let digits := Number.padZeros 4 (Nat.toDigits 10 year.natAbs)
  if 0 ≤ year ∧ year ≤ 9999 then digits
  else (if year < 0 then '-' else '+') :: digits

/-- The text of a date: year, month and day, joined by hyphens. -/
def text (c : Civil) : String :=
  String.ofList (yearText c.year ++ '-' :: Number.padZeros 2 (Nat.toDigits 10 c.month) ++
    '-' :: Number.padZeros 2 (Nat.toDigits 10 c.day))

end Civil

end Worklist.Calendar
