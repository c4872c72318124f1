import Worklist.Proofs.Json.Complete
import Worklist.Proofs.Settings.File
import Worklist.Query.Basic

/-!
# Which place a setting comes from

Each setting is that of its variable if the variable is set to a text, else that of the file if the
file has a value for it, else the initial one. Where each place can be read and the merged settings
are within their bounds they are loaded, and otherwise loading fails, also if what cannot be read
would have been overridden. Keys that name no setting change nothing, and a variable that is set to
bytes that are no text does not make loading fail: it changes nothing either.
-/

set_option autoImplicit false

namespace Worklist

open Calendar (WeekStart)
open Json (Document Tree keyed)

/-- Whether a file exists and is the text of one object, which has some members. -/
def SettingsFile.HasMembers (file : SettingsFile) (members : List (String × Tree)) : Prop :=
  ∃ bytes text, file.content? = some bytes ∧ String.fromUTF8? bytes = some text ∧
    Document.read text = ⟨.object (keyed members) .closed, false⟩

/-- A file has one list of members. -/
theorem SettingsFile.HasMembers.unique {file : SettingsFile}
    {members members' : List (String × Tree)} (object : file.HasMembers members)
    (object' : file.HasMembers members') : members = members' := by
  obtain ⟨bytes, text, content, decoded, read⟩ := object
  obtain ⟨bytes', text', content', decoded', read'⟩ := object'
  cases content.symm.trans content'
  cases decoded.symm.trans decoded'
  have same := (Tree.object.inj (congrArg Document.tree (read.symm.trans read'))).1
  refine List.map_injective_iff.mpr ?_ same
  rintro ⟨key, t⟩ ⟨key', t'⟩ pair
  cases pair
  rfl

namespace Settings

/-- What the file that was asked for sets; without one nothing is set. -/
inductive FileSays : Option SettingsFile → FileSettings → Prop where
  | absent : FileSays none ⟨none, none, none, []⟩
  | document {file : SettingsFile} {f : FileSettings} {members : List (String × Tree)}
      (object : file.HasMembers members) (own : f.Describes members) : FileSays (some file) f

/-- The value of a setting that has three places to come from: the text of its variable, its value
in a file, and its initial value. -/
inductive Chosen {ε α : Type} (parse : String → Except ε α) (text? : Option String)
    (file? : Option α) (initial : α) : α → Prop where
  | environment {text : String} {a : α} (set : text? = some text) (own : parse text = .ok a) :
      Chosen parse text? file? initial a
  | file {a : α} (unset : text? = none) (own : file? = some a) : Chosen parse text? file? initial a
  | initial (unset : text? = none) (missing : file? = none) :
      Chosen parse text? file? initial initial

/-- The number of 32 bits that a text names between blanks. -/
def parseNumber (text : String) : Except Number.WholeFault Nat :=
  Number.readUInt32 (Text.trim text.toList)

/-- Whether settings are those of the environment over those of a file over the initial ones. -/
structure Merges (f : FileSettings) (env : Environment) (c : Settings) : Prop where
  weekStart : Chosen WeekStart.parse (env.text? .firstDayOfWeek) f.weekStart? .monday c.weekStart
  defaultPerPage : Chosen parseNumber (env.text? .perPage) f.defaultPerPage? 25 c.defaultPerPage
  maxPerPage : Chosen parseNumber (env.text? .maxPerPage) f.maxPerPage? 500 c.maxPerPage

end Settings

/-- Whether a text has a value for a variable. -/
def Variable.Accepts : Variable → String → Prop
  | .firstDayOfWeek, text => ∃ day, WeekStart.parse text = .ok day
  | .perPage, text => ∃ n, Settings.parseNumber text = .ok n
  | .maxPerPage, text => ∃ n, Settings.parseNumber text = .ok n

namespace Settings

/-! ## The file -/

/-- A file is read as what it says, and not at all if it says nothing. -/
theorem readFile_eq_ok_iff {file : SettingsFile} {f : FileSettings} :
    readFile file = .ok f ↔ FileSays (some file) f := by
  unfold readFile FileSettings.parse
  constructor
  · intro h
    split at h
    case h_1 => cases h
    case h_2 bytes content =>
      split at h
      case h_1 => cases h
      case h_2 text decoded =>
        split at h
        case h_1 => cases h
        case h_2 own =>
          cases h
          obtain ⟨t, read, own⟩ := Json.readDocument_eq_ok_iff.mp own
          obtain ⟨members, rfl, describes⟩ := FileSettings.read_eq_ok_iff.mp own
          exact .document ⟨bytes, text, content, decoded, read⟩ describes
  · intro h
    cases h with
    | document object own =>
      obtain ⟨bytes, text, content, decoded, read⟩ := object
      have parsed := Json.readDocument_eq_ok_iff.mpr
        ⟨_, read, FileSettings.read_eq_ok_iff.mpr ⟨_, rfl, own⟩⟩
      rw [content]
      dsimp only
      rw [decoded]
      dsimp only
      rw [parsed]

/-! ## The environment -/

section Chosen

variable {ε α : Type} {parse : String → Except ε α} {file? : Option α} {initial a : α}

/-- Without a text the value of the file is chosen, or the initial one. -/
theorem chosen_none_iff : Chosen parse none file? initial a ↔ file?.getD initial = a := by
  constructor
  · rintro (⟨⟨⟩, -⟩ | ⟨-, rfl⟩ | ⟨-, rfl⟩) <;> rfl
  · rintro rfl
    cases file? with
    | none => exact .initial rfl rfl
    | some value => exact .file rfl rfl

/-- A text is chosen over everything else, if it has a value. -/
theorem chosen_some_iff {text : String} :
    Chosen parse (some text) file? initial a ↔ parse text = .ok a := by
  constructor
  · rintro (⟨⟨⟩, own⟩ | ⟨⟨⟩, -⟩ | ⟨⟨⟩, -⟩)
    exact own
  · exact .environment rfl

/-- A value can be chosen if the text, where there is one, has a value. -/
theorem exists_chosen {text? : Option String}
    (accepted : ∀ text, text? = some text → ∃ a, parse text = .ok a) :
    ∃ a, Chosen parse text? file? initial a := by
  cases text? with
  | none => exact ⟨_, chosen_none_iff.mpr rfl⟩
  | some text =>
    obtain ⟨a, own⟩ := accepted text rfl
    exact ⟨a, chosen_some_iff.mpr own⟩

end Chosen

/-- The first day of weeks is the chosen one. -/
theorem weekStartFrom_eq_ok_iff {env : Environment} {file? : Option WeekStart}
    {initial day : WeekStart} :
    weekStartFrom env (file?.getD initial) = .ok day ↔
      Chosen WeekStart.parse (env.text? .firstDayOfWeek) file? initial day := by
  unfold weekStartFrom
  cases env.text? .firstDayOfWeek with
  | none => rw [chosen_none_iff, Except.ok.injEq]
  | some text =>
    rw [chosen_some_iff]
    cases own : WeekStart.parse text with
    | error compared => simp [own]
    | ok own => simp [own]

/-- A number of the settings is the chosen one. -/
theorem numberFrom_eq_ok_iff {env : Environment} {v : Variable} {file? : Option Nat}
    {initial n : Nat} :
    numberFrom env v (file?.getD initial) = .ok n ↔
      Chosen parseNumber (env.text? v) file? initial n := by
  unfold numberFrom
  cases env.text? v with
  | none => rw [chosen_none_iff, Except.ok.injEq]
  | some text =>
    rw [chosen_some_iff, parseNumber]
    cases own : Number.readUInt32 (Text.trim text.toList) with
    | error fault => simp [own]
    | ok own => simp [own]

/-- The environment is applied to what a file sets by merging them. -/
theorem applyEnvironment_eq_ok_iff {f : FileSettings} {env : Environment} {c : Settings} :
    (f.apply initial).applyEnvironment env = .ok c ↔ Merges f env c := by
  unfold applyEnvironment
  simp only [bind_eq_ok_iff]
  constructor
  · rintro ⟨day, weekStart, n, default, k, max, same⟩
    cases same
    exact ⟨weekStartFrom_eq_ok_iff.mp weekStart, numberFrom_eq_ok_iff.mp default,
      numberFrom_eq_ok_iff.mp max⟩
  · rintro ⟨weekStart, default, max⟩
    exact ⟨_, weekStartFrom_eq_ok_iff.mpr weekStart, _, numberFrom_eq_ok_iff.mpr default, _,
      numberFrom_eq_ok_iff.mpr max, rfl⟩

/-! ## The settings -/

/-- Settings are valid if a page has room and the default size does not exceed the greatest one. -/
theorem exists_validate_iff {c : Settings} :
    (∃ notices, c.validate = .ok notices) ↔ 1 ≤ c.maxPerPage ∧ c.defaultPerPage ≤ c.maxPerPage := by
  unfold validate
  split_ifs with none exceeds
  · exact iff_of_false (by rintro ⟨notices, ⟨⟩⟩) (by omega)
  · exact iff_of_false (by rintro ⟨notices, ⟨⟩⟩) (by omega)
  · exact iff_of_true ⟨_, rfl⟩ (by omega)
  · exact iff_of_true ⟨_, rfl⟩ (by omega)

/-- Settings are finished if they are merged and valid. -/
theorem exists_finish_iff {f : FileSettings} {env : Environment} {c : Settings} :
    (∃ notices, finish env (f.apply initial) = .ok (c, notices)) ↔
      Merges f env c ∧ 1 ≤ c.maxPerPage ∧ c.defaultPerPage ≤ c.maxPerPage := by
  unfold finish
  simp only [bind_eq_ok_iff, applyEnvironment_eq_ok_iff]
  rw [← exists_validate_iff]
  constructor
  · rintro ⟨notices, c', merges, n, valid, same⟩
    cases same
    exact ⟨merges, _, valid⟩
  · rintro ⟨merges, notices, valid⟩
    exact ⟨notices, c, merges, notices, valid, rfl⟩

/-- Where the file can be read, the settings are those that it leads to. -/
theorem load_of_readable {file? : Option SettingsFile} {f? : Option FileSettings}
    (read : file?.mapM readFile = .ok f?) (env : Environment) :
    (load file? env).1 =
      (finish env ((f?.map fun f => f.apply initial).getD initial)).map Prod.fst := by
  unfold load
  rw [read]
  dsimp only
  cases finish env ((f?.map fun f => f.apply initial).getD initial) <;> rfl

/-- Where the file cannot be read, its error is the answer. -/
theorem load_of_unreadable {file? : Option SettingsFile} {e : SettingsError}
    (read : file?.mapM readFile = .error e) (env : Environment) :
    (load file? env).1 = .error e := by
  unfold load
  rw [read]

/-- Settings are loaded from what the file sets. -/
theorem load_eq_ok_iff {file? : Option SettingsFile} {env : Environment} {c : Settings} :
    (load file? env).1 = .ok c ↔ ∃ f, FileSays file? f ∧ Merges f env c ∧
      1 ≤ c.maxPerPage ∧ c.defaultPerPage ≤ c.maxPerPage := by
  simp only [← exists_finish_iff]
  have finished (s : Settings) :
      (finish env s).map Prod.fst = .ok c ↔ ∃ notices, finish env s = .ok (c, notices) := by
    cases finish env s with
    | error e => simp [Except.map]
    | ok answer => simp [Except.map, Prod.ext_iff]
  cases file? with
  | none =>
    have read : (none : Option SettingsFile).mapM readFile = .ok none := rfl
    rw [load_of_readable read, finished]
    constructor
    · exact fun h => ⟨_, .absent, h⟩
    · rintro ⟨f, ⟨⟩, h⟩
      exact h
  | some file =>
    cases own : readFile file with
    | error e =>
      have read : (some file).mapM readFile = .error e := by
        rw [Option.mapM_some, own]
        rfl
      rw [load_of_unreadable read]
      refine iff_of_false (by rintro ⟨⟩) ?_
      rintro ⟨f, own', -⟩
      cases own.symm.trans (readFile_eq_ok_iff.mpr own')
    | ok f =>
      have read : (some file).mapM readFile = .ok (some f) := by
        rw [Option.mapM_some, own]
        rfl
      rw [load_of_readable read, finished]
      constructor
      · exact fun h => ⟨f, readFile_eq_ok_iff.mp own, h⟩
      · rintro ⟨f', own', h⟩
        cases own.symm.trans (readFile_eq_ok_iff.mpr own')
        exact h

/-! ## Variables that are no text -/

/-- Environments in which the variables have the same texts load the same settings. -/
theorem load_congr_text (file? : Option SettingsFile) {env env' : Environment}
    (same : ∀ v, env.text? v = env'.text? v) : load file? env = load file? env' := by
  simp only [load, finish, applyEnvironment, numberFrom, weekStartFrom, same]

/-- A variable that is set to bytes that are no text changes no text when it is not set. -/
theorem text?_update_of_stray {env : Environment} {v : Variable} {bytes : ByteArray}
    (set : env v = some bytes) (stray : String.fromUTF8? bytes = none) (w : Variable) :
    env.text? w = Environment.text? (Function.update env v none) w := by
  unfold Environment.text?
  by_cases own : w = v
  · subst own
    rw [set, Function.update_self]
    exact stray
  · rw [Function.update_of_ne own]

/-! ## Where loading fails -/

/-- A file says one thing. -/
theorem FileSays.unique {file? : Option SettingsFile} {f f' : FileSettings} (own : FileSays file? f)
    (own' : FileSays file? f') : f = f' := by
  cases file? with
  | none =>
    cases own
    cases own'
    rfl
  | some file =>
    exact Except.ok.inj ((readFile_eq_ok_iff.mpr own).symm.trans (readFile_eq_ok_iff.mpr own'))

/-- There is one way to merge settings. -/
theorem Merges.unique {f : FileSettings} {env : Environment} {c c' : Settings}
    (merges : Merges f env c) (merges' : Merges f env c') : c = c' :=
  Except.ok.inj
    ((applyEnvironment_eq_ok_iff.mpr merges).symm.trans (applyEnvironment_eq_ok_iff.mpr merges'))

/-- Where settings are merged, the text of each variable has a value. -/
theorem Merges.accepts {f : FileSettings} {env : Environment} {c : Settings}
    (merges : Merges f env c) {v : Variable} {text : String} (set : env.text? v = some text) :
    v.Accepts text := by
  obtain ⟨weekStart, default, max⟩ := merges
  cases v with
  | firstDayOfWeek => exact ⟨_, chosen_some_iff.mp (set ▸ weekStart)⟩
  | perPage => exact ⟨_, chosen_some_iff.mp (set ▸ default)⟩
  | maxPerPage => exact ⟨_, chosen_some_iff.mp (set ▸ max)⟩

/-- Where every variable that is set has a value, there are merged settings. -/
theorem exists_merges {env : Environment}
    (accepted : ∀ v text, env.text? v = some text → v.Accepts text) (f : FileSettings) :
    ∃ c, Merges f env c := by
  obtain ⟨day, weekStart⟩ := exists_chosen (accepted .firstDayOfWeek)
  obtain ⟨n, default⟩ := exists_chosen (accepted .perPage)
  obtain ⟨k, max⟩ := exists_chosen (accepted .maxPerPage)
  exact ⟨⟨day, n, k⟩, weekStart, default, max⟩

/-- Files that agree on the settings are loaded as the same ones, whatever else they hold. -/
theorem load_of_filter_eq {file file' : SettingsFile} {members members' : List (String × Tree)}
    {env : Environment} {c : Settings} (object : file.HasMembers members)
    (object' : file'.HasMembers members')
    (same : (members.filter fun m => m.1 ∈ FileSettings.keys) =
      members'.filter fun m => m.1 ∈ FileSettings.keys)
    (others : ∀ m ∈ members', m.1 ∉ FileSettings.keys →
      m.2.keptFault? FileSettings.valueRoom = none)
    (loaded : (load (some file) env).1 = .ok c) : (load (some file') env).1 = .ok c := by
  obtain ⟨f, own, merges, bounds⟩ := load_eq_ok_iff.mp loaded
  cases own with
  | document read describes =>
    obtain rfl := read.unique object
    have own' := describes.of_filter_eq same others
    have merges' : Merges { f with unknown := FileSettings.unknownKeys members' } env c :=
      ⟨merges.weekStart, merges.defaultPerPage, merges.maxPerPage⟩
    exact load_eq_ok_iff.mpr ⟨_, .document object' own', merges', bounds⟩

/-- Loading succeeds with settings that come each from the environment, else from the file, else
from the start, and are within their bounds. It fails where the file cannot be read as settings, the
text of a variable has no value, or the bounds are violated. A page whose size is not asked for has
the default size, and one place at least. Files that agree on the settings are loaded as the same
ones, whatever else they hold. A variable that is set to bytes that are no text is passed over as if
it were not set. -/
theorem load_by_precedence (file? : Option SettingsFile) (env : Environment) :
    (∀ c, (load file? env).1 = .ok c ↔
      ∃ f, FileSays file? f ∧ Merges f env c ∧
        1 ≤ c.maxPerPage ∧ c.defaultPerPage ≤ c.maxPerPage) ∧
    ((∃ e, (load file? env).1 = .error e) ↔
      (∀ f, ¬ FileSays file? f) ∨ (∃ v text, env.text? v = some text ∧ ¬ v.Accepts text) ∨
      ∃ f c, FileSays file? f ∧ Merges f env c ∧
        (c.maxPerPage = 0 ∨ c.maxPerPage < c.defaultPerPage)) ∧
    (∀ c page, (load file? env).1 = .ok c →
      (Pagination.mk page none).size c = max 1 c.defaultPerPage) ∧
    (∀ file file' members members', file? = some file → file.HasMembers members →
      file'.HasMembers members' →
      (members.filter fun m => m.1 ∈ FileSettings.keys) =
        (members'.filter fun m => m.1 ∈ FileSettings.keys) →
      (∀ m ∈ members ++ members', m.1 ∉ FileSettings.keys →
        m.2.keptFault? FileSettings.valueRoom = none) →
      ∀ c, (load file? env).1 = .ok c ↔ (load (some file') env).1 = .ok c) ∧
    ∀ v bytes, env v = some bytes → String.fromUTF8? bytes = none →
      load file? env = load file? (Function.update env v none) := by
  refine ⟨fun c => load_eq_ok_iff, ?fails, ?size, ?unknown, ?stray⟩
  case fails =>
    constructor
    · rintro ⟨e, fails⟩
      by_cases readable : ∃ f, FileSays file? f
      · obtain ⟨f, own⟩ := readable
        by_cases accepted : ∀ v text, env.text? v = some text → v.Accepts text
        · obtain ⟨c, merges⟩ := exists_merges accepted f
          refine .inr (.inr ⟨f, c, own, merges, ?_⟩)
          by_contra within
          have loaded := load_eq_ok_iff.mpr ⟨f, own, merges, by omega⟩
          cases fails.symm.trans loaded
        · simp only [not_forall] at accepted
          obtain ⟨v, text, set, refused⟩ := accepted
          exact .inr (.inl ⟨v, text, set, refused⟩)
      · exact .inl (not_exists.mp readable)
    · intro reason
      cases loaded : (load file? env).1 with
      | error e => exact ⟨e, rfl⟩
      | ok c =>
        obtain ⟨f, own, merges, bounds⟩ := load_eq_ok_iff.mp loaded
        rcases reason with unreadable | ⟨v, text, set, refused⟩ | ⟨f', c', own', merges', violated⟩
        · exact absurd own (unreadable f)
        · exact absurd (merges.accepts set) refused
        · obtain rfl := own.unique own'
          obtain rfl := merges.unique merges'
          omega
  case size =>
    intro c page loaded
    obtain ⟨f, -, -, bounds⟩ := load_eq_ok_iff.mp loaded
    show max 1 (min c.defaultPerPage (max c.maxPerPage 1)) = _
    rw [Nat.max_eq_left bounds.1, Nat.min_eq_left bounds.2]
  case unknown =>
    rintro file file' members members' rfl object object' same others c
    obtain ⟨kept, kept'⟩ := List.forall_mem_append.mp others
    constructor
    · exact load_of_filter_eq object object' same kept'
    · exact load_of_filter_eq object' object same.symm kept
  case stray =>
    intro v bytes set stray
    exact load_congr_text file? (text?_update_of_stray set stray)

/-- A file with the text of an object. -/
def fileOf (members : List (String × Tree)) : SettingsFile :=
  ⟨"settings.json", some (Tree.object (keyed members) .closed).write.toUTF8⟩

/-- The file with the text of an object has the members of the object. -/
theorem hasMembers_fileOf {members : List (String × Tree)}
    (complete : (Tree.object (keyed members) .closed).isComplete = true)
    (writable : ∀ t ∈ (Tree.object (keyed members) .closed).tokens, t.isWritable = true) :
    (fileOf members).HasMembers members :=
  ⟨_, _, rfl, dif_pos (String.isValidUTF8 _), Document.read_write complete writable⟩

/-- A file that sets one setting, leaves another one open, and holds an unknown key. -/
def sampleMembers : List (String × Tree) :=
  [("default_per_page", .number (.ok (.natural 50))), ("colour", .list [.null] .closed),
    ("first_day_of_week", .null)]

/-- The members of this file that are settings. -/
def plainMembers : List (String × Tree) :=
  [("default_per_page", .number (.ok (.natural 50))), ("first_day_of_week", .null)]

/-- An environment that sets what the file does not set. -/
def sampleEnvironment : Environment
  | .firstDayOfWeek => some " Sun".toUTF8
  | .perPage => none
  | .maxPerPage => some "+100 ".toUTF8

/-- The byte 255 alone, which begins no character. -/
def strayByte : ByteArray := ⟨#[255]⟩

/-- The sample sets the default size and holds one key that means nothing. -/
theorem describes_sampleMembers :
    FileSettings.Describes ⟨none, some 50, none, ["colour"]⟩ sampleMembers := by
  refine ⟨.null rfl, .given rfl (.natural (by decide)), .absent rfl, by decide, by decide⟩

/-- The first day and the greatest size come from the sample environment, the default size from the
sample file. -/
theorem merges_sampleEnvironment :
    Merges ⟨none, some 50, none, ["colour"]⟩ sampleEnvironment ⟨.sunday, 50, 100⟩ :=
  ⟨.environment rfl (by decide), .file rfl rfl, .environment rfl (by decide)⟩

/-- The day and the greatest size come from the environment, and the default size from the file,
with or without the unknown key, also if the variable of the default size is set to a stray byte; a
missing file fails whatever the environment sets. -/
theorem load_by_precedence_sample :
    (load (some (fileOf sampleMembers)) sampleEnvironment).1 = .ok ⟨.sunday, 50, 100⟩ ∧
    (load (some (fileOf plainMembers)) sampleEnvironment).1 = .ok ⟨.sunday, 50, 100⟩ ∧
    (Pagination.mk 1 none).size ⟨.sunday, 50, 100⟩ = 50 ∧
    (load (some (fileOf sampleMembers))
      (Function.update sampleEnvironment .perPage (some strayByte))).1 =
        .ok ⟨.sunday, 50, 100⟩ ∧
    ∃ e, (load (some ⟨"settings.json", none⟩) sampleEnvironment).1 = .error e := by
  have object : (fileOf sampleMembers).HasMembers sampleMembers :=
    hasMembers_fileOf (by decide) (by decide)
  have object' : (fileOf plainMembers).HasMembers plainMembers :=
    hasMembers_fileOf (by decide) (by decide)
  obtain ⟨loads, -, size, unknown, -⟩ :=
    load_by_precedence (some (fileOf sampleMembers)) sampleEnvironment
  have loaded := (loads ⟨.sunday, 50, 100⟩).mpr
    ⟨_, .document object describes_sampleMembers, merges_sampleEnvironment, by decide, by decide⟩
  refine ⟨loaded, ?plain, size _ 1 loaded, ?stray, ?missing⟩
  case plain =>
    exact (unknown _ _ _ _ rfl object object' rfl (by decide) _).mp loaded
  case stray =>
    obtain ⟨-, -, -, -, stray⟩ := load_by_precedence (some (fileOf sampleMembers))
      (Function.update sampleEnvironment .perPage (some strayByte))
    have unset : Function.update (Function.update sampleEnvironment .perPage (some strayByte))
        .perPage none = sampleEnvironment := by
      rw [Function.update_idem]
      exact Function.update_eq_self .perPage sampleEnvironment
    rw [stray .perPage strayByte (Function.update_self ..) (by decide), unset]
    exact loaded
  case missing =>
    obtain ⟨-, fails, -⟩ := load_by_precedence (some ⟨"settings.json", none⟩) sampleEnvironment
    refine fails.mpr (.inl fun f own => ?_)
    cases own with
    | document object own =>
      obtain ⟨bytes, text, ⟨⟩, -⟩ := object

/-- An environment that sets the default size to a stray byte, and nothing else. -/
def strayEnvironment : Environment
  | .perPage => some strayByte
  | _ => none

/-- The default size is set, to what is not even a text, and yet the initial settings are loaded. -/
theorem load_strayEnvironment :
    strayEnvironment .perPage = some strayByte ∧ String.fromUTF8? strayByte = none ∧
      load none strayEnvironment = (.ok initial, []) :=
  ⟨rfl, by decide, rfl⟩

end Settings

end Worklist
