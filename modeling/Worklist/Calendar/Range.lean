import Worklist.Calendar.Date
import Worklist.Number.Range

/-!
# Ranges of days

A `DayRange` is a closed range of days that may be open to either side. Relative ranges are given
by offsets from today, and the current week by the day that weeks start on.
-/

set_option autoImplicit false

namespace Worklist.Calendar

/-- The days from `lower?` to `upper?`, both included; a missing end leaves that side open. -/
structure DayRange where
  lower? : Option Date
  upper? : Option Date
  deriving DecidableEq

namespace DayRange

/-- All days. -/
def all : DayRange := ⟨none, none⟩

/-- Whether a day lies in a range. -/
def contains (r : DayRange) (d : Date) : Bool :=
  r.lower?.all (fun lower => decide (lower ≤ d)) && r.upper?.all (fun upper => decide (d ≤ upper))

/-- The tighter of two ends, where there are two. -/
def tighter (pick : Date → Date → Date) : Option Date → Option Date → Option Date
  | some a, some b => some (pick a b)
  | some a, none => some a
  | none, b => b

/-- The days that lie in both ranges. -/
def intersect (r s : DayRange) : DayRange :=
  ⟨tighter Date.later r.lower? s.lower?, tighter Date.earlier r.upper? s.upper?⟩

/-- The range whose ends lie some days after today; a missing offset leaves that side open. -/
def ofOffsets (today : Date) (lower? upper? : Option Int) : DayRange :=
  ⟨lower?.map today.shift, upper?.map today.shift⟩

end DayRange

/-- The day that weeks start on. -/
inductive WeekStart where
  | monday
  | sunday
  deriving DecidableEq, Repr

namespace WeekStart

/-- The number of the day, Monday being zero. -/
def weekday : WeekStart → Int
  | .monday => 0
  | .sunday => 6

/-- The name of the day in settings. -/
def name : WeekStart → String
  | .monday => "monday"
  | .sunday => "sunday"

/-- Both days, in the order in which messages name them. -/
def all : List WeekStart := [.monday, .sunday]

/-- The day with a name. -/
def ofName? (name : String) : Option WeekStart :=
  all.find? fun w => w.name == name

/-- The first day of the week that holds a day. -/
def weekOf (w : WeekStart) (today : Date) : Date :=
  today.shift (-((today.weekday - w.weekday) % 7))

/-- The current week: its first day to the same day of the week after it, both included. -/
def currentWeek (w : WeekStart) (today : Date) : DayRange :=
  let start := w.weekOf today
  ⟨some start, some (start.shift 7)⟩

end WeekStart

end Worklist.Calendar
