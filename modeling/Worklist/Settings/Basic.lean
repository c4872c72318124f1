import Worklist.Calendar.Range
import Worklist.Json.Fault
import Worklist.Notice
import Worklist.Text.Blank

/-!
# Settings

What queries need to know besides their store: the day that weeks start on, and the size of a page
that is used when none is asked for and that is allowed at most.
-/

set_option autoImplicit false

namespace Worklist

open Calendar (WeekStart)

/-- The settings of queries. -/
structure Settings where
  weekStart : WeekStart
  defaultPerPage : Nat
  maxPerPage : Nat
  deriving DecidableEq, Repr

/-- Pages larger than this are worth a notice. -/
def largePage : Nat := 5000

/-- The variables of the environment that override settings. -/
inductive Variable where
  | firstDayOfWeek
  | perPage
  | maxPerPage
  deriving DecidableEq, Repr

/-- The name of a variable. -/
def Variable.name : Variable → String
  | .firstDayOfWeek => "WORKPACK_FIRST_DAY_OF_WEEK"
  | .perPage => "WORKPACK_PER_PAGE"
  | .maxPerPage => "WORKPACK_MAX_PER_PAGE"

/-- Why settings cannot be had. -/
inductive SettingsError where
  | fileMissing (file : String)
  | fileUnreadable (file : String)
  | fileMalformed (file : String) (fault : Json.Fault)
  | unknownWeekStart (text : String)
  | badNumber (setting : Variable) (text : String) (fault : Number.WholeFault)
  | noPage
  | defaultTooLarge (defaultPerPage maxPerPage : Nat)
  deriving DecidableEq

/-- The wording of a day that weeks cannot start on. -/
def unknownWeekStartMessage (text : String) : String :=
  "Unsupported first day of week: " ++ text

/-- The wording of why settings cannot be had. -/
def SettingsError.message : SettingsError → String
  | .fileMissing file => "Config file not found: " ++ file
  | .fileUnreadable file =>
    "Failed to read config file: " ++ file ++ ": stream did not contain valid UTF-8"
  | .fileMalformed file fault => "Failed to parse config file: " ++ file ++ ": " ++ fault.message
  | .unknownWeekStart text =>
    "Invalid " ++ Variable.firstDayOfWeek.name ++ ": " ++ unknownWeekStartMessage text
  | .badNumber setting text fault =>
    "Invalid " ++ setting.name ++ ": " ++ text ++ ": " ++ fault.message
  | .noPage => "Configuration error: max_per_page must be greater than 0"
  | .defaultTooLarge defaultPerPage maxPerPage =>
    "Configuration error: default_per_page (" ++ toString defaultPerPage ++
      ") exceeds max_per_page (" ++ toString maxPerPage ++ ")"

/-- Reads the day that weeks start on from its name, a short name or its number, in either case of
ASCII letters; what is no such day comes back as it was compared. -/
def Calendar.WeekStart.parse (s : String) : Except String WeekStart :=
  let text := String.ofList ((Text.trim s.toList).map Char.toLower)
  if text = "monday" ∨ text = "mon" ∨ text = "1" then .ok .monday
  else if text = "sunday" ∨ text = "sun" ∨ text = "7" then .ok .sunday
  else .error text

namespace Settings

/-- The settings without a file and an environment. -/
def initial : Settings := ⟨.monday, 25, 500⟩

instance : Inhabited Settings := ⟨initial⟩

/-- Checks that pages can have a size, and that the default size is allowed. -/
def validate (s : Settings) : Except SettingsError (List Notice) :=
  if s.maxPerPage = 0 then .error .noPage
  else if s.maxPerPage < s.defaultPerPage then
    .error (.defaultTooLarge s.defaultPerPage s.maxPerPage)
  else .ok (if largePage < s.maxPerPage then [.largePages s.maxPerPage] else [])

end Settings

end Worklist
