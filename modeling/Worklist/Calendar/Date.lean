import Worklist.Calendar.Civil

/-!
# Days of the calendar

A `Date` is a day of the representable calendar, from the first day of year -262143 to the last day
of year 262142. Shifting a date by days stays at the end of the calendar that it would leave.
-/

set_option autoImplicit false

namespace Worklist.Calendar

/-- The day number of the first representable day. -/
def firstDayNumber : Int := daysBeforeYear (-262143)

/-- The day number of the last representable day. -/
def lastDayNumber : Int := daysBeforeYear 262143 - 1

/-- A representable day. -/
structure Date where
  /-- Days since the first day of year zero. -/
  number : Int
  first_le : firstDayNumber ≤ number
  le_last : number ≤ lastDayNumber

namespace Date

instance : DecidableEq Date := fun a b =>
  if h : a.number = b.number then
    isTrue (by cases a; cases b; cases h; rfl)
  else isFalse fun e => h (congrArg number e)

/-- The first representable day. -/
def first : Date := ⟨firstDayNumber, by decide, by decide⟩

/-- The last representable day. -/
def last : Date := ⟨lastDayNumber, by decide, by decide⟩

instance : Inhabited Date := ⟨first⟩

instance : LE Date := ⟨fun a b => a.number ≤ b.number⟩

instance : LT Date := ⟨fun a b => a.number < b.number⟩

instance (a b : Date) : Decidable (a ≤ b) := Int.decLe a.number b.number

instance (a b : Date) : Decidable (a < b) := Int.decLt a.number b.number

/-- The day with a number, if the calendar has it. -/
def ofNumber? (number : Int) : Option Date :=
  if h : firstDayNumber ≤ number ∧ number ≤ lastDayNumber then some ⟨number, h.1, h.2⟩ else none

/-- The day with a year, a month and a day of the month, if the calendar has it. -/
def ofCivil? (c : Civil) : Option Date :=
  if c.isValid then ofNumber? c.dayNumber else none

/-- Year, month and day of the month. -/
def civil (d : Date) : Civil :=
  Civil.ofDayNumber d.number

/-- The text of a day. -/
def text (d : Date) : String :=
  d.civil.text

/-- The later of two days. -/
def later (a b : Date) : Date :=
  if a ≤ b then b else a

/-- The earlier of two days. -/
def earlier (a b : Date) : Date :=
  if a ≤ b then a else b

/-- The day that lies `days` later; the end of the calendar on that side if it has no such day. -/
def shift (d : Date) (days : Int) : Date :=
  (ofNumber? (d.number + days)).getD (if days < 0 then first else last)

/-- The day before, if the calendar has it. -/
def previous? (d : Date) : Option Date :=
  ofNumber? (d.number - 1)

/-- The first day of year 0. -/
def firstOfFourDigits : Date := ⟨0, by decide, by decide⟩

/-- The last day of year 9999. -/
def lastOfFourDigits : Date := ⟨daysBeforeYear 10000 - 1, by decide, by decide⟩

/-- The nearest day whose year has four digits, so that its text has no sign and days compare as
their texts do. -/
def clampToFourDigits (d : Date) : Date :=
  if d < firstOfFourDigits then firstOfFourDigits
  else if lastOfFourDigits < d then lastOfFourDigits
  else d

/-- The day of the week, Monday being zero. -/
def weekday (d : Date) : Int :=
  (d.number + 5) % 7

end Date

/-- An end of a day, as a time of that day to the microsecond. -/
inductive DayEnd where
  | beginning
  | ending
  deriving DecidableEq, Repr

/-- The text of the first or the last instant of a day. -/
def DayEnd.timestamp (e : DayEnd) (d : Date) : String :=
  d.text ++ match e with
    | .beginning => " 00:00:00.000000"
    | .ending => " 23:59:59.999999"

end Worklist.Calendar
