import Worklist.Proofs.Filter.DayRange
import Worklist.Proofs.Number.Decimal
import Worklist.Proofs.Store.Grouped
import Worklist.Proofs.Text.Search

/-!
# Equality with constants

What the conditions of equality say about a row: whether the value in a column is taken as one with
one of some constants, each read as the column prefers it. A missing value is equal to nothing, and
it is not unequal to anything either. Beside it stand the conditions on blank values, which look for
missing values and for empty text.
-/

set_option autoImplicit false

namespace Worklist

open Sql (Column Condition)
open Store (Record)

namespace Store

namespace Truth

/-- Known truth values are true together if one of them is. -/
theorem any_map_ofBool {α : Type} (p : α → Bool) (l : List α) :
    any (l.map fun a => ofBool (p a)) = ofBool (l.any p) := by
  induction l with
  | nil => rfl
  | cons a l ih =>
    unfold any at ih ⊢
    rw [List.map_cons, List.foldr_cons, ih, List.any_cons]
    cases p a <;> cases l.any p <;> rfl

/-- Unknown truth values are unknown together. -/
theorem any_map_unknown {α : Type} {l : List α} (h : l ≠ []) :
    any (l.map fun _ => unknown) = unknown := by
  induction l with
  | nil => exact absurd rfl h
  | cons a l ih =>
    by_cases rest : l = []
    · rw [rest]
      rfl
    · have unknown_rest := ih rest
      unfold any at unknown_rest ⊢
      rw [List.map_cons, List.foldr_cons, unknown_rest]
      rfl

/-- Negation turns a known truth value round. -/
theorem negatedIf_ofBool (negated b : Bool) :
    negatedIf negated (ofBool b) = ofBool (negated != b) := by
  cases negated <;> cases b <;> rfl

/-- Negation leaves an unknown truth value as it is. -/
theorem negatedIf_unknown (negated : Bool) : negatedIf negated unknown = unknown := by
  cases negated <;> rfl

end Truth

/-! ## Constants are values -/

/-- A number that is read is not missing. -/
theorem isNull_readScaled (negative : Bool) (coefficient : Nat) (power : Int) :
    (readScaled negative coefficient power).isNull = false := by
  unfold readScaled
  split
  · rfl
  · dsimp only
    split <;> rfl

/-- The value of a scanned number is not missing. -/
theorem isNull_value (n : ScannedNumber) : n.value.isNull = false := by
  unfold ScannedNumber.value
  dsimp only
  generalize (if n.numeral.negative = true then _ else _ : Int) = whole
  split_ifs
  · rfl
  · exact isNull_readScaled _ _ _

/-- A text that is adapted to a column is not missing. -/
theorem isNull_adapt_text (a : Affinity) (text : String) :
    (a.adapt (.text text)).isNull = false := by
  have number : ((numberOfText? text).getD (.text text)).isNull = false := by
    unfold numberOfText?
    split
    · split_ifs
      · exact isNull_value _
      · rfl
    · rfl
  cases a with
  | integer => exact number
  | real => exact number
  | text => rfl

/-- Empty text is no number, so every column reads it as it is. -/
@[simp]
theorem adapt_empty (a : Affinity) : a.adapt (.text "") = .text "" := by
  cases a <;> rfl

/-- Only the empty text is taken as the empty text. -/
theorem sameValue_empty_iff {v : Value} : sameValue v (.text "") = true ↔ v = .text "" := by
  constructor
  · intro same
    apply eq_of_sameValue ?_ ?_ ?_ same
    · rintro x rfl
      cases same
    · rintro n rfl
      cases same
    · rintro n ⟨⟩
  · rintro rfl
    exact sameValue_refl _

/-- Whole numbers are taken as one if they are the same. -/
theorem sameValue_int {m n : Int} : sameValue (.int m) (.int n) = true ↔ m = n := by
  unfold sameValue
  rw [Value.order_int, beq_iff_eq, compare_eq_iff_eq]

/-- Texts are taken as one if they are the same. -/
theorem sameValue_text {s t : String} : sameValue (.text s) (.text t) = true ↔ s = t := by
  unfold sameValue
  rw [Value.order_text, beq_iff_eq, compare_eq_iff_eq]

/-! ## Conditions of equality -/

/-- Whether a value is one of some texts, each read as a column reads it. -/
def Affinity.among (a : Affinity) (texts : List String) (v : Value) : Bool :=
  texts.any fun text => sameValue v (a.adapt (.text text))

/-- In a column of whole numbers the text of a number is the number. -/
theorem Affinity.adapt_decimal {n : Int} (wide : Number.isInt64 n = true) :
    integer.adapt (.text (Number.decimal n)) = .int n := by
  show (numberOfText? (Number.decimal n)).getD _ = _
  rw [numberOfText?_decimal wide]
  rfl

/-- A whole number is among decimal texts if it is one of their numbers. -/
theorem Affinity.among_decimals {numbers : List Int}
    (wide : ∀ n ∈ numbers, Number.isInt64 n = true) {m : Int} :
    integer.among (numbers.map Number.decimal) (.int m) = true ↔ m ∈ numbers := by
  unfold among
  rw [List.any_map, List.any_eq_true]
  constructor
  · rintro ⟨n, mem, same⟩
    rw [Function.comp_apply, adapt_decimal (wide n mem), sameValue_int] at same
    rwa [same]
  · intro mem
    refine ⟨m, mem, ?_⟩
    rw [Function.comp_apply, adapt_decimal (wide m mem), sameValue_int]

/-- A text is among one text if it is this one. -/
theorem Affinity.among_text {text own : String} :
    Affinity.text.among [text] (.text own) = true ↔ own = text := by
  unfold among
  rw [List.any_cons, List.any_nil, Bool.or_false]
  exact sameValue_text

variable {s : Store} {row : Row} {c : Column}

/-- A value that is there is equal to a text if it is taken as one with the text, adapted to the
column. -/
theorem compareWith_eq_text (present : row.get c ≠ .null) (text : String) :
    compareWith row (.column c) .eq (.text text) =
      .ofBool (sameValue (row.get c) ((columnAffinity c).adapt (.text text))) := by
  have value : (row.get c).isNull = false := by
    cases h : row.get c with
    | null => exact absurd h present
    | _ => rfl
  have constant := isNull_adapt_text (columnAffinity c) text
  show compareValues .eq (row.get c) ((columnAffinity c).adapt (.text text)) = _
  unfold compareValues
  rw [value, constant]
  rfl

/-- A value that is there is in a list of texts if it is among them. -/
theorem truth_oneOf (present : row.get c ≠ .null) (negated : Bool) (texts : List String) :
    truth s row (.oneOf c negated (texts.map .text)) =
      .ofBool (negated != (columnAffinity c).among texts (row.get c)) := by
  have each : (texts.map .text).map (compareWith row (.column c) .eq) =
      texts.map fun text => .ofBool (sameValue (row.get c)
        ((columnAffinity c).adapt (.text text))) := by
    rw [List.map_map]
    apply List.map_congr_left
    intro text _
    exact compareWith_eq_text present text
  simp only [truth]
  rw [each, Truth.any_map_ofBool, Truth.negatedIf_ofBool]
  rfl

/-- Of a missing value it is unknown whether it is in a list. -/
theorem truth_oneOf_null (missing : row.get c = .null) (negated : Bool) {texts : List String}
    (some : texts ≠ []) : truth s row (.oneOf c negated (texts.map .text)) = .unknown := by
  have each : (texts.map .text).map (compareWith row (.column c) .eq) =
      texts.map fun _ => .unknown := by
    rw [List.map_map]
    apply List.map_congr_left
    intro text _
    exact compareWith_null missing .eq (.text text)
  simp only [truth]
  rw [each, Truth.any_map_unknown some, Truth.negatedIf_unknown]

/-- A value that is there is equal to the empty text if it is the empty text. -/
theorem truth_eq_empty (present : row.get c ≠ .null) :
    truth s row (.compare (.column c) .eq (.text "")) =
      .ofBool (decide (row.get c = .text "")) := by
  simp only [truth]
  rw [compareWith_eq_text present, adapt_empty]
  congr 1
  rw [Bool.eq_iff_iff, sameValue_empty_iff, decide_eq_true_iff]

/-- A value that is there differs from the empty text if it is not the empty text. -/
theorem truth_ne_empty (present : row.get c ≠ .null) :
    truth s row (.compare (.column c) .ne (.text "")) =
      .ofBool (decide (row.get c ≠ .text "")) := by
  have opposite : compareWith row (.column c) .ne (.text "") =
      (compareWith row (.column c) .eq (.text "")).not := by
    unfold compareWith compareValues
    split
    · rfl
    · unfold orderMeets
      cases (operandValue row (.column c)).order _ <;> rfl
  simp only [truth]
  rw [opposite, show compareWith row (.column c) .eq (.text "") = _ from
    truth_eq_empty (s := s) present]
  by_cases empty : row.get c = .text ""
  · simp [empty, Truth.ofBool, Truth.not]
  · simp [empty, Truth.ofBool, Truth.not]

/-- The test for missing values is true of these, and the opposite test of all others. -/
theorem holds_isNull (negated : Bool) :
    (truth s row (.isNull c negated)).holds = true ↔ (row.get c = .null ↔ negated = false) := by
  have missing : (row.get c).isNull = true ↔ row.get c = .null := by
    cases row.get c <;> simp [Value.isNull]
  simp only [truth]
  rw [Truth.negatedIf_ofBool, Truth.holds_ofBool]
  cases negated <;> simp [← missing]

end Store

/-! ## Conditions of filters -/

namespace Predicate

open Store (truth columnAffinity)

variable (s : Store) (row : Store.Row) (c : Column)

omit s row in
/-- Equality with some values is a test for a list, and for missing values if these are asked for.
-/
theorem equals_eq {values : List String} (some : values ≠ []) :
    equals c values =
      if missingValue ∈ values then
        .grouped (.either (.isNull c false) (.oneOf c false (values.map .text)))
      else .oneOf c false (values.map .text) := by
  have given : values.isEmpty = false := by simpa using some
  unfold equals
  simp only [given, Bool.false_eq_true, if_false]

omit c in
/-- An alternative in brackets is true if one of its parts is. -/
theorem holds_truth_either (a b : Condition) :
    (truth s row (.grouped (.either a b))).holds = true ↔
      (truth s row a).holds = true ∨ (truth s row b).holds = true := by
  show (Store.Truth.or (truth s row a) (truth s row b)).holds = true ↔ _
  rw [Store.Truth.holds_or, Bool.or_eq_true]

omit c in
/-- A conjunction in brackets is true if both of its parts are. -/
theorem holds_truth_both (a b : Condition) :
    (truth s row (.grouped (.both a b))).holds = true ↔
      (truth s row a).holds = true ∧ (truth s row b).holds = true := by
  show (Store.Truth.and (truth s row a) (truth s row b)).holds = true ↔ _
  rw [Store.Truth.holds_and, Bool.and_eq_true]

/-- A missing value is one of a list if the list names the missing value. -/
theorem holds_equals (values : List String) :
    (truth s row (equals c values)).holds = true ↔
      row.get c = .null ∧ missingValue ∈ values ∨
        row.get c ≠ .null ∧ (columnAffinity c).among values (row.get c) = true := by
  by_cases none : values = []
  · simp [none, equals, truth, Store.Truth.holds_ofBool, Store.Affinity.among]
  · rw [equals_eq c none]
    by_cases missing : row.get c = .null
    · have unknown := Store.truth_oneOf_null (s := s) missing false none
      split_ifs with named
      · rw [holds_truth_either, Store.holds_isNull, unknown]
        simp [missing, named]
      · rw [unknown]
        simp [missing, named, Store.Truth.holds]
    · have decided := Store.truth_oneOf (s := s) missing false values
      split_ifs with named
      · rw [holds_truth_either, Store.holds_isNull, decided, Store.Truth.holds_ofBool]
        simp [missing]
      · rw [decided, Store.Truth.holds_ofBool]
        simp [missing]

/-- A missing value is none of a list. -/
theorem holds_notEquals (values : List String) :
    (truth s row (notEquals c values)).holds = true ↔
      row.get c = .null ∨ (columnAffinity c).among values (row.get c) = false := by
  unfold notEquals
  by_cases none : values = []
  · simp [none, truth, Store.Truth.holds_ofBool, Store.Affinity.among]
  · have given : values.isEmpty = false := by simpa using none
    rw [given, if_neg Bool.false_ne_true, holds_truth_either, Store.holds_isNull]
    by_cases missing : row.get c = .null
    · simp [missing]
    · rw [Store.truth_oneOf missing, Store.Truth.holds_ofBool]
      simp [missing]

/-- The condition for blank values is true of missing ones, and of the empty text where values are
dynamic. -/
theorem holds_isBlank (dynamic : Bool) :
    (truth s row (isBlank c dynamic)).holds = true ↔
      row.get c = .null ∨ dynamic = true ∧ row.get c = .text "" := by
  unfold isBlank
  cases dynamic with
  | false =>
    rw [if_neg Bool.false_ne_true, Store.holds_isNull]
    simp
  | true =>
    rw [if_pos rfl, holds_truth_either, Store.holds_isNull]
    by_cases missing : row.get c = .null
    · simp [missing]
    · rw [Store.truth_eq_empty missing, Store.Truth.holds_ofBool]
      simp [missing]

/-- The condition for present values is true of those that are not blank. -/
theorem holds_isPresent (dynamic : Bool) :
    (truth s row (isPresent c dynamic)).holds = true ↔
      ¬(row.get c = .null ∨ dynamic = true ∧ row.get c = .text "") := by
  unfold isPresent
  cases dynamic with
  | false =>
    rw [if_neg Bool.false_ne_true, Store.holds_isNull]
    simp
  | true =>
    rw [if_pos rfl, holds_truth_both, Store.holds_isNull]
    by_cases missing : row.get c = .null
    · simp [missing]
    · rw [Store.truth_ne_empty missing, Store.Truth.holds_ofBool]
      simp [missing]

/-- A text is looked for in the text of a value, up to the character that ends it for the store. -/
theorem holds_contains (negated : Bool) (value : String) :
    (truth s row (contains c negated value)).holds = true ↔
      ∃ text, (row.get c).text? = some text ∧
        (negated != Text.like (Text.searchPattern value).toList
          (Store.patternText text)) = true := by
  unfold contains Text.searchPattern
  simp only [truth, Store.likePattern]
  cases (row.get c).text? with
  | none =>
    rw [Store.Truth.negatedIf_unknown]
    simp [Store.Truth.holds]
  | some text =>
    rw [Store.Truth.negatedIf_ofBool, Store.Truth.holds_ofBool]
    simp

end Predicate

/-! ## Conditions on work packages -/

namespace Store

open Predicate

/-- A condition that reads one column only is decided by the value that the work package has in
it. -/
theorem exists_row_of_column (s : Store) (w : Record) {c : Column} {condition : Condition}
    (only : ∀ column ∈ condition.columns, column = c) :
    ∃ row, row.get c = cell s w c ∧ meets s w condition = (truth s row condition).holds := by
  have provided : c.Provided c.source.join?.toList := fun _ hj => Option.mem_toList.mpr hj
  refine ⟨completed s c.source.join?.toList w, get_completed s w provided, ?_⟩
  rw [holds_truth_completed]
  intro column hcolumn
  rw [only column hcolumn]
  exact provided

variable (s : Store) (w : Record) (c : Column)

/-- Equality is true of the values among those given, and of missing ones if these are asked for. -/
theorem meets_equals (values : List String) :
    meets s w (equals c values) = true ↔
      cell s w c = .null ∧ missingValue ∈ values ∨
        cell s w c ≠ .null ∧ (columnAffinity c).among values (cell s w c) = true := by
  have only : ∀ column ∈ (equals c values).columns, column = c := by
    unfold equals
    dsimp only
    split_ifs <;> simp [Condition.columns]
  obtain ⟨row, value, same⟩ := exists_row_of_column s w only
  rw [same, holds_equals, value]

/-- Inequality is true of the values that are not among those given, and of all missing ones. -/
theorem meets_notEquals (values : List String) :
    meets s w (notEquals c values) = true ↔
      cell s w c = .null ∨ (columnAffinity c).among values (cell s w c) = false := by
  have only : ∀ column ∈ (notEquals c values).columns, column = c := by
    unfold notEquals
    split_ifs <;> simp [Condition.columns]
  obtain ⟨row, value, same⟩ := exists_row_of_column s w only
  rw [same, holds_notEquals, value]

/-- Blank are the missing values, and where values are dynamic the empty text. -/
theorem meets_isBlank (dynamic : Bool) :
    meets s w (isBlank c dynamic) = true ↔
      cell s w c = .null ∨ dynamic = true ∧ cell s w c = .text "" := by
  have only : ∀ column ∈ (isBlank c dynamic).columns, column = c := by
    unfold isBlank
    split_ifs <;> simp [Condition.columns, Sql.Operand.read]
  obtain ⟨row, value, same⟩ := exists_row_of_column s w only
  rw [same, holds_isBlank, value]

/-- Present is what is not blank. -/
theorem meets_isPresent (dynamic : Bool) :
    meets s w (isPresent c dynamic) = true ↔
      ¬(cell s w c = .null ∨ dynamic = true ∧ cell s w c = .text "") := by
  have only : ∀ column ∈ (isPresent c dynamic).columns, column = c := by
    unfold isPresent
    split_ifs <;> simp [Condition.columns, Sql.Operand.read]
  obtain ⟨row, value, same⟩ := exists_row_of_column s w only
  rw [same, holds_isPresent, value]

/-- A search is true of the values whose text is like the pattern, or is not. -/
theorem meets_contains (negated : Bool) (value : String) :
    meets s w (contains c negated value) = true ↔
      ∃ text, (cell s w c).text? = some text ∧
        (negated != Text.like (Text.searchPattern value).toList (patternText text)) = true := by
  have only : ∀ column ∈ (contains c negated value).columns, column = c := by
    simp [contains, Condition.columns]
  obtain ⟨row, own, same⟩ := exists_row_of_column s w only
  rw [same, holds_contains, own]

end Store

end Worklist
