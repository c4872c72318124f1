import Worklist.Proofs.Calendar.Timestamp
import Worklist.Proofs.Query.Selection

/-!
# Filters by days

A filter by days that are counted from today compares texts: the value of a field with the end of a
day, which is written as the field writes days. For a field of days and for one of instants the
comparison says whether the day of the value lies in the range that the operator stands for,
wherever the ends of the range lie in the calendar.
-/

set_option autoImplicit false

namespace Worklist

open Calendar (Date DayEnd DayRange TimeOfDay)
open Sql (Column Comparison Condition Literal Operand)
open Store (Affinity Record Row Table Value cell columnAffinity compareWith completed meets
  orderMeets truth)

/-! ## Comparing texts -/

namespace Store

/-- A text in a column of texts is compared with a constant text as texts are. -/
theorem compareWith_text {row : Row} {c : Column} {text : String}
    (affinity : columnAffinity c = .text) (value : row.get c = .text text) (r : Comparison)
    (limit : String) :
    compareWith row (.column c) r (.text limit) = .ofBool (orderMeets r (compare text limit)) := by
  show compareValues r (row.get c) ((columnAffinity c).adapt (.text limit)) = _
  rw [value, affinity]
  rfl

/-- A comparison with no value is neither true nor false. -/
theorem compareWith_null {row : Row} {o : Operand} (value : row.get o.read = .null)
    (r : Comparison) (l : Literal) : compareWith row o r l = .unknown := by
  have missing : operandValue row o = .null := by
    cases o with
    | column c => exact value
    | decimal c => exact congrArg Value.castNumber value
  unfold compareWith
  rw [missing]
  rfl

/-- A condition that reads a column reads the value that the work package has in it. -/
theorem get_joins (s : Store) (workPackage : Record) {condition : Condition} {c : Column}
    (reads : c ∈ condition.columns) :
    (completed s condition.joins workPackage).get c = cell s workPackage c :=
  get_completed s workPackage (condition.provided_joins c reads)

end Store

/-! ## Columns of days and instants -/

/-- The kind of value that the column of an attribute prefers. -/
def AttributeType.affinity : AttributeType → Affinity
  | .integer => .integer
  | .float => .real
  | .text => .text
  | .date => .text
  | .dateTime => .text

/-- Each attribute has the kind of values that its column is declared with. -/
theorem affinity_filterableAttributes :
    ∀ entry ∈ filterableAttributes,
      Table.workPackages.affinity entry.1 = entry.2.affinity := by
  decide

/-- The kind of value that the column of a field prefers. -/
def FieldKind.affinity : FieldKind → Affinity
  | .plain type => type.affinity
  | .status => .integer
  | .custom _ _ => .text

/-- A field of the catalog has the kind of values that its column holds. -/
theorem Catalog.columnAffinity_of_resolve {catalog : Catalog} {key : FieldKey} {f : Field}
    (h : catalog.resolve key = .ok f) : columnAffinity f.column = f.kind.affinity := by
  cases key with
  | custom id =>
    simp only [resolve] at h
    split at h
    · rw [← Except.ok.inj h]
      rfl
    · cases h
  | plain name =>
    simp only [resolve] at h
    split_ifs at h with isStatus
    · rw [← Except.ok.inj h]
      rfl
    · split at h
      · rename_i type found
        rw [← Except.ok.inj h]
        obtain ⟨before, after, split, -⟩ := List.lookup_eq_some_iff.mp found
        have mem : (name, type) ∈ filterableAttributes := by
          rw [split]
          exact List.mem_append_right _ List.mem_cons_self
        exact affinity_filterableAttributes (name, type) mem
      · cases h

/-- The values by which a field says that something is on a day: a field of days has the day, and a
field of instants has an instant of the day, to the microsecond at most. -/
inductive Field.Writes (f : Field) (d : Date) : Value → Prop where
  | day (dateOnly : f.isDateOnly = true) : Writes f d (.text d.text)
  | instant (isInstant : f.kind = .plain .dateTime) (t : TimeOfDay) (fraction : List Char)
      (digits : ∀ c ∈ fraction, c.isDigit = true) (short : fraction.length ≤ 6) :
      Writes f d (.text (d.stamp t fraction))

/-- A field of instants is not one of days. -/
theorem Field.isDateOnly_of_dateTime {f : Field} (isInstant : f.kind = .plain .dateTime) :
    f.isDateOnly = false := by
  unfold isDateOnly
  rw [isInstant]

/-- Days and instants are kept as texts. -/
theorem Field.Writes.affinity_kind {f : Field} {d : Date} {v : Value} (h : f.Writes d v) :
    f.kind.affinity = .text := by
  cases h with
  | day dateOnly =>
    unfold Field.isDateOnly at dateOnly
    split at dateOnly
    · rename_i kind
      rw [kind]
      rfl
    · rename_i kind
      rw [kind]
      rfl
    · cases dateOnly
  | instant isInstant =>
    rw [isInstant]
    rfl

/-! ## The ends of a range -/

namespace Field.Writes

variable {f : Field} {d : Date} {row : Row}

/-- The text of a value comes after that of the end of a day if its day comes after that day, as far
as days have years of four digits. -/
theorem compare_bound {v : Value} (h : f.Writes d v) (own : d.FourDigits) (e : Date) :
    ∃ text limit, v = .text text ∧ Predicate.bound f .ending e = .text limit ∧
      (compare text limit = .gt ↔ e.clampToFourDigits < d) := by
  have other := e.fourDigits_clampToFourDigits
  cases h with
  | day dateOnly =>
    refine ⟨_, _, rfl, rfl, ?_⟩
    rw [dateOnly, if_pos rfl, Date.compare_text own other]
    exact compare_gt_iff_gt
  | instant isInstant t fraction digits short =>
    refine ⟨_, _, rfl, rfl, ?_⟩
    rw [Field.isDateOnly_of_dateTime isInstant, if_neg Bool.false_ne_true]
    exact Date.compare_stamp_ending own other t digits short

/-- A written day passes a lower bound if it comes after the day of the bound. -/
theorem holds_gt (h : f.Writes d (row.get f.column)) (affinity : columnAffinity f.column = .text)
    (own : d.FourDigits) (e : Date) :
    (compareWith row (.column f.column) .gt (Predicate.bound f .ending e)).holds =
      decide (e.clampToFourDigits < d) := by
  obtain ⟨text, limit, value, bound, order⟩ := h.compare_bound own e
  rw [bound, Store.compareWith_text affinity value, Store.Truth.holds_ofBool, Bool.eq_iff_iff,
    decide_eq_true_iff, ← order]
  exact beq_iff_eq

/-- A written day passes an upper bound if it does not come after the day of the bound. -/
theorem holds_le (h : f.Writes d (row.get f.column)) (affinity : columnAffinity f.column = .text)
    (own : d.FourDigits) (e : Date) :
    (compareWith row (.column f.column) .le (Predicate.bound f .ending e)).holds =
      decide (d ≤ e.clampToFourDigits) := by
  obtain ⟨text, limit, value, bound, order⟩ := h.compare_bound own e
  have opposite : d ≤ e.clampToFourDigits ↔ ¬e.clampToFourDigits < d := Int.not_lt.symm
  rw [bound, Store.compareWith_text affinity value, Store.Truth.holds_ofBool, Bool.eq_iff_iff,
    decide_eq_true_iff, opposite, ← order]
  exact bne_iff_ne

end Field.Writes

/-! ## Ranges -/

/-- Whether a day comes after the day before the first one of a range and is up to the last one, as
far as these two have years of four digits. -/
def Calendar.DayRange.containsClamped (range : DayRange) (d : Date) : Bool :=
  range.lower?.all (fun lower =>
    decide ((lower.previous?.getD Date.first).clampToFourDigits < d)) &&
  range.upper?.all fun upper => decide (d ≤ upper.clampToFourDigits)

/-- Moving the ends of a range changes nothing for the days from the second one of year zero on. -/
theorem Calendar.DayRange.containsClamped_eq (range : DayRange) {d : Date}
    (low : Date.firstOfFourDigits < d) (high : d ≤ Date.lastOfFourDigits) :
    range.containsClamped d = range.contains d := by
  have start : Date.first < d := Int.lt_trans (by decide) low
  have lower (e : Date) : (e.previous?.getD Date.first).clampToFourDigits < d ↔ e ≤ d :=
    (Date.clampToFourDigits_lt_iff low high).trans (Date.previous_lt_iff start)
  have upper (e : Date) : d ≤ e.clampToFourDigits ↔ d ≤ e :=
    (Int.not_lt.symm.trans (not_congr (Date.clampToFourDigits_lt_iff low high))).trans Int.not_lt
  simp only [containsClamped, contains, lower, upper]

namespace Predicate

/-- The condition of a range reads the field, and it is true of a row if the range has its day once
its ends are moved into the years of four digits. -/
theorem inRange?_clamped {f : Field} {range : DayRange} {condition : Condition}
    (compiled : inRange? f range = some condition) :
    f.column ∈ condition.columns ∧
      ∀ (s : Store) (row : Row) (d : Date), f.Writes d (row.get f.column) →
        columnAffinity f.column = .text → d.FourDigits →
        (truth s row condition).holds = range.containsClamped d := by
  obtain ⟨lower?, upper?⟩ := range
  cases lower? with
  | none =>
    cases upper? with
    | none => cases compiled
    | some last =>
      rw [← Option.some.inj compiled]
      refine ⟨List.mem_singleton.mpr rfl, ?_⟩
      intro s row d written affinity own
      exact written.holds_le affinity own last
  | some first =>
    -- a lower end is a comparison with the end of the day before it
    cases upper? with
    | none =>
      rw [← Option.some.inj compiled]
      refine ⟨List.mem_singleton.mpr rfl, ?_⟩
      intro s row d written affinity own
      show (compareWith row (.column f.column) .gt _).holds = (decide _ && true)
      rw [Bool.and_true]
      exact written.holds_gt affinity own _
    | some last =>
      rw [← Option.some.inj compiled]
      refine ⟨List.mem_cons_self, ?_⟩
      intro s row d written affinity own
      show (Store.Truth.and (compareWith row (.column f.column) .gt _)
        (compareWith row (.column f.column) .le _)).holds = (decide _ && decide _)
      rw [Store.Truth.holds_and, written.holds_gt affinity own, written.holds_le affinity own last]

/-- The condition of a range reads the field, and it is true of a row if the range has its day. -/
theorem inRange?_spec {f : Field} {range : DayRange} {condition : Condition}
    (compiled : inRange? f range = some condition) :
    f.column ∈ condition.columns ∧
      ∀ (s : Store) (row : Row) (d : Date), f.Writes d (row.get f.column) →
        columnAffinity f.column = .text → Date.firstOfFourDigits < d →
        d ≤ Date.lastOfFourDigits → (truth s row condition).holds = range.contains d := by
  obtain ⟨reads, holds⟩ := inRange?_clamped compiled
  refine ⟨reads, ?_⟩
  intro s row d written affinity low high
  rw [holds s row d written affinity ⟨Int.le_of_lt low, high⟩, range.containsClamped_eq low high]

/-- A range with an end has a condition. -/
theorem exists_inRange? (f : Field) {range : DayRange} (ended : range ≠ .all) :
    ∃ condition, inRange? f range = some condition := by
  obtain ⟨lower?, upper?⟩ := range
  cases lower? with
  | none =>
    cases upper? with
    | none => exact absurd rfl ended
    | some last => exact ⟨_, rfl⟩
  | some first =>
    cases upper? with
    | none => exact ⟨_, rfl⟩
    | some last => exact ⟨_, rfl⟩

end Predicate

/-! ## Relative filters -/

/-- The operators that count days from today. -/
def Operator.relative : List Operator :=
  [.sinceDaysAgo, .untilDaysAgo, .onDaysAgo, .fromDaysAhead, .untilDaysAhead, .onDaysAhead, .today]

/-- The ranges without a lower end are those up to some day. -/
theorem Operator.lower?_eq_none_iff {op : Operator} {today : Date} {n : Int} {range : DayRange}
    (h : op.dayRange? today n = some range) :
    range.lower? = none ↔ op = .untilDaysAgo ∨ op = .untilDaysAhead := by
  cases op with
  | equals | notEquals | isBlank | isPresent | atLeast | atMost | closedStatus | openStatus
  | thisWeek | contains | notContains => cases h
  | sinceDaysAgo | untilDaysAgo | onDaysAgo | fromDaysAhead | untilDaysAhead | onDaysAhead
  | today =>
    rw [← Option.some.inj h]
    simp [DayRange.ofOffsets]

namespace Clause

/-- A clause that counts days from today stands for a range with an end, and its condition is that
of the range. -/
theorem condition?_of_relative {c : Clause} (relative : c.operator ∈ Operator.relative)
    (context : FilterContext) (f : Field) :
    ∃ range, c.operator.dayRange? context.today (Number.leadingInt c.firstValue.toList) =
        some range ∧ range ≠ .all ∧ c.condition? context f = Predicate.inRange? f range := by
  unfold condition?
  simp only [Operator.relative, List.mem_cons, List.not_mem_nil, or_false] at relative
  rcases relative with op | op | op | op | op | op | op <;> rw [op] <;>
    exact ⟨_, rfl, by simp [DayRange.ofOffsets, DayRange.all], rfl⟩

/-- A filter that counts days from today finds the work packages whose day lies in its range: its
condition is true of a work package with a day exactly if the range has the day. -/
theorem meets_relative_eq_contains (catalog : Catalog) (context : FilterContext) {c : Clause}
    (relative : c.operator ∈ Operator.relative) {f : Field}
    (resolved : catalog.resolve c.field = .ok f) (s : Store) (workPackage : Record) {d : Date}
    (written : f.Writes d (cell s workPackage f.column)) (low : Date.firstOfFourDigits < d)
    (high : d ≤ Date.lastOfFourDigits) :
    ∃ range condition,
      c.operator.dayRange? context.today (Number.leadingInt c.firstValue.toList) = some range ∧
      (c.predicate context f).condition? = some condition ∧
      meets s workPackage condition = range.contains d := by
  obtain ⟨range, hrange, ended, same⟩ := condition?_of_relative relative context f
  obtain ⟨condition, hcondition⟩ := Predicate.exists_inRange? f ended
  obtain ⟨reads, holds⟩ := Predicate.inRange?_spec hcondition
  refine ⟨range, condition, hrange, ?_, ?_⟩
  · rw [predicate_condition?]
    exact same.trans hcondition
  · have affinity : columnAffinity f.column = .text :=
      (Catalog.columnAffinity_of_resolve resolved).trans written.affinity_kind
    rw [← Store.get_joins s workPackage reads] at written
    exact holds s _ d written affinity low high

end Clause

/-- The fifteenth of March 2024, a Friday. -/
def sampleDay : Date :=
  (Date.ofCivil? ⟨2024, 3, 15⟩).getD .first

/-- A work package that was made in the last microsecond of that day. -/
def sampleRecord : Record :=
  ⟨1, [("created_at", .text (sampleDay.stamp .lastSecond ['9', '9', '9', '9', '9', '9']))]⟩

/-- It was made one day ago, as seen from the next day. -/
theorem Clause.meets_relative_sampleRecord :
    ∃ range condition,
      Operator.onDaysAgo.dayRange? (sampleDay.shift 1) (Number.leadingInt ['1']) = some range ∧
      (Clause.predicate ⟨.plain "created_at", .onDaysAgo, ["1"], false⟩
        ⟨sampleDay.shift 1, .monday⟩ (Field.plain "created_at" .dateTime)).condition? =
          some condition ∧
      meets .empty sampleRecord condition = true := by
  have written : (Field.plain "created_at" .dateTime).Writes sampleDay
      (cell .empty sampleRecord ⟨.workPackages, "created_at"⟩) :=
    .instant rfl .lastSecond ['9', '9', '9', '9', '9', '9'] (List.all_eq_true.mp rfl) (by decide)
  have contained (range : DayRange)
      (h : Operator.onDaysAgo.dayRange? (sampleDay.shift 1) (Number.leadingInt ['1']) =
        some range) : range.contains sampleDay = true := by
    rw [← Option.some.inj h]
    decide
  obtain ⟨range, condition, hrange, compiled, holds⟩ := meets_relative_eq_contains ⟨[]⟩
    ⟨sampleDay.shift 1, .monday⟩ (c := ⟨.plain "created_at", .onDaysAgo, ["1"], false⟩)
    (by decide) rfl .empty sampleRecord written (by decide) (by decide)
  exact ⟨range, condition, hrange, compiled, holds.trans (contained range hrange)⟩

end Worklist
