import Worklist.Json.Reader
import Worklist.Names
import Worklist.Settings.Basic

/-!
# Loading settings

Settings come from three places: the initial ones, a file over these, and the environment over both.
The merged settings are checked at the end. A file is a JSON object; its keys that mean nothing are
kept for a notice.
-/

set_option autoImplicit false

namespace Worklist

open Calendar (WeekStart)
open Json (Fault Tree)

/-- What a settings file sets. -/
structure FileSettings where
  weekStart? : Option WeekStart
  defaultPerPage? : Option Nat
  maxPerPage? : Option Nat
  /-- The keys that mean nothing, in the order of their first mention. -/
  unknown : List String
  deriving DecidableEq, Repr

namespace FileSettings

/-- The members of a file that have been met; a setting that was met may have no value. -/
structure Draft where
  weekStart? : Option (Option WeekStart) := none
  defaultPerPage? : Option (Option Nat) := none
  maxPerPage? : Option (Option Nat) := none
  unknown : List String := []

/-- Room for nested lists and objects within the file: they stand inside of its object. -/
def valueRoom : Nat := Json.nestingLimit - 1

/-- Takes up one member of the file. -/
def Draft.take (d : Draft) (key : String) (t : Tree) : Except Fault Draft :=
  if key = "first_day_of_week" then do
    let value ← Json.takeField key d.weekStart? (Tree.asOptional WeekStart.ofTree) t
    pure { d with weekStart? := value }
  else if key = "default_per_page" then do
    let value ← Json.takeField key d.defaultPerPage? (Tree.asOptional Tree.asUInt32) t
    pure { d with defaultPerPage? := value }
  else if key = "max_per_page" then do
    let value ← Json.takeField key d.maxPerPage? (Tree.asOptional Tree.asUInt32) t
    pure { d with maxPerPage? := value }
  else do
    let _ ← t.keep valueRoom
    pure { d with unknown := if key ∈ d.unknown then d.unknown else d.unknown ++ [key] }

/-- Reads a settings file. -/
def read : Tree → Except Fault FileSettings
  | .object members ending => do
    let d ← members.foldlM (fun (d : Draft) m => do d.take (← m.1) m.2) {}
    Tree.raise? ending.fault?
    pure ⟨d.weekStart?.join, d.defaultPerPage?.join, d.maxPerPage?.join, d.unknown⟩
  | t => t.mismatch "struct FileConfig"

/-- Reads the text of a settings file. -/
def parse (s : String) : Except Fault FileSettings :=
  Json.readDocument read s

/-- The notices that a file is worth. -/
def notices (f : FileSettings) : List Notice :=
  if f.unknown.isEmpty then [] else [.unknownSettings f.unknown]

/-- Settings with what a file sets over them. -/
def apply (f : FileSettings) (s : Settings) : Settings :=
  { weekStart := f.weekStart?.getD s.weekStart
    defaultPerPage := f.defaultPerPage?.getD s.defaultPerPage
    maxPerPage := f.maxPerPage?.getD s.maxPerPage }

end FileSettings

/-- A settings file that was asked for: its name, and its bytes if it exists. -/
structure SettingsFile where
  name : String
  content? : Option ByteArray

/-- The variables of the environment that are set, with the bytes that they are set to. -/
abbrev Environment := Variable → Option ByteArray

/-- The text of a variable. One whose bytes are no text passes for one that is not set. -/
def Environment.text? (env : Environment) (v : Variable) : Option String :=
  (env v).bind String.fromUTF8?

namespace Settings

/-- Reads a settings file that was asked for. -/
def readFile (file : SettingsFile) : Except SettingsError FileSettings :=
  match file.content? with
  | none => .error (.fileMissing file.name)
  | some bytes =>
    match String.fromUTF8? bytes with
    | none => .error (.fileUnreadable file.name)
    | some text =>
      match FileSettings.parse text with
      | .error fault => .error (.fileMalformed file.name fault)
      | .ok settings => .ok settings

/-- The number that a variable sets, or the value without it. -/
def numberFrom (env : Environment) (v : Variable) (otherwise : Nat) : Except SettingsError Nat :=
  match env.text? v with
  | none => .ok otherwise
  | some text =>
    match Number.readUInt32 (Text.trim text.toList) with
    | .ok n => .ok n
    | .error fault => .error (.badNumber v text fault)

/-- The day that the environment lets weeks start on, or the day without it. -/
def weekStartFrom (env : Environment) (otherwise : WeekStart) : Except SettingsError WeekStart :=
  match env.text? .firstDayOfWeek with
  | none => .ok otherwise
  | some text =>
    match WeekStart.parse text with
    | .ok day => .ok day
    | .error compared => .error (.unknownWeekStart compared)

/-- Settings with what the environment sets over them. -/
def applyEnvironment (env : Environment) (s : Settings) : Except SettingsError Settings := do
  let weekStart ← weekStartFrom env s.weekStart
  let defaultPerPage ← numberFrom env .perPage s.defaultPerPage
  let maxPerPage ← numberFrom env .maxPerPage s.maxPerPage
  pure ⟨weekStart, defaultPerPage, maxPerPage⟩

/-- Settings with the environment over them, checked. -/
def finish (env : Environment) (s : Settings) :
    Except SettingsError (Settings × List Notice) := do
  let s ← s.applyEnvironment env
  let notices ← s.validate
  pure (s, notices)

/-- Loads the settings, with the notices that came up on the way, which a failure keeps. -/
def load (file? : Option SettingsFile) (env : Environment) :
    Except SettingsError Settings × List Notice :=
  let fileSettings := file?.mapM readFile
  match fileSettings with
  | .error e => (.error e, [])
  | .ok fileSettings? =>
    let before := (fileSettings?.map FileSettings.notices).getD []
    let merged := (fileSettings?.map fun f => f.apply initial).getD initial
    match finish env merged with
    | .error e => (.error e, before)
    | .ok (s, after) => (.ok s, before ++ after)

end Settings

end Worklist
