import Worklist.Proofs.Filter.Blank
import Worklist.Proofs.Number.WholeReal
import Worklist.Proofs.Store.Equality
import Worklist.Proofs.Store.Literal
import Worklist.Proofs.Store.NumberAtStart

/-!
# Filters by a threshold

A threshold is a binary number. On a column of whole numbers a filter finds the numbers on one side
of the binary number nearest to the one that was given, so a threshold is exact as long as it is a
binary number itself. On a custom field the values are texts, and what does not start with a number
is compared as zero: it is left out only if it is empty, and found otherwise by every threshold that
zero meets.
-/

set_option autoImplicit false

namespace Worklist

open Number (Binary64)
open Sql (Column Comparison Condition Operand)
open Store (Affinity Record Row Value cell columnAffinity compareWith meets orderMeets truth)

/-! ## Comparing with a constant number -/

namespace Store

open Predicate (threshold)

/-- A number is read as a finite one or as an infinite one of its sign. -/
theorem readScaled_cases (negative : Bool) (coefficient : Nat) (power : Int) :
    (∃ x, readScaled negative coefficient power = .real x) ∨
      readScaled negative coefficient power = .infinite negative := by
  unfold readScaled
  split_ifs
  · exact Or.inl ⟨_, rfl⟩
  · dsimp only
    split
    · exact Or.inl ⟨_, rfl⟩
    · exact Or.inr rfl

/-- A whole number is compared with a constant by their sizes, where the constant is not taken as
text. -/
theorem compareWith_number {row : Row} {o : Operand} {n : Int}
    (value : operandValue row o = .int n) (affinity : operandAffinity o ≠ .text) (r : Comparison)
    (y : Binary64) :
    compareWith row o r (.number y) =
      .ofBool (orderMeets r (compare (Binary64.wholeUnits n) (readLiteral y).size)) := by
  have number : (∃ x, readLiteral y = .real x) ∨ readLiteral y = .infinite y.negative :=
    readScaled_cases _ _ _
  have kept : (operandAffinity o).adapt (readLiteral y) = readLiteral y := by
    cases kind : operandAffinity o with
    | text => exact absurd kind affinity
    | integer => rcases number with ⟨x, real⟩ | infinite <;> simp only [*, Affinity.adapt]
    | real => rcases number with ⟨x, real⟩ | infinite <;> simp only [*, Affinity.adapt]
  show compareValues r (operandValue row o) ((operandAffinity o).adapt (readLiteral y)) = _
  rw [kept, value]
  rcases number with ⟨x, real⟩ | infinite
  · rw [real]
    rfl
  · rw [infinite]
    rfl

/-! ## Conditions with a threshold -/

variable (s : Store) (w : Record) {c : Column} (r : Comparison) (value : String)

/-- A whole number meets a threshold as it compares, exactly, with the number that the store reads
from the literal of the threshold. -/
theorem meets_threshold_of_int (affinity : columnAffinity c = .integer) {x : Int}
    (stored : cell s w c = .int x) :
    meets s w (threshold c r value false) = true ↔
      orderMeets r (compare (Binary64.wholeUnits x)
        (readLiteral (Number.leadingReal value.toList)).size) = true := by
  have only : ∀ column ∈ (threshold c r value false).columns, column = c := by
    simp [threshold, Condition.columns, Operand.read]
  obtain ⟨row, own, same⟩ := exists_row_of_column s w only
  have number : operandValue row (.column c) = .int x := own.trans stored
  have numeric : operandAffinity (.column c) ≠ .text := by
    show columnAffinity c ≠ .text
    rw [affinity]
    decide
  rw [same]
  show (compareWith row (.column c) r (.number _)).holds = true ↔ _
  rw [compareWith_number number numeric, Truth.holds_ofBool]

/-- Text that does not start with a number is on the side of zero, and empty text on neither
side. -/
theorem meets_threshold_of_zero (affinity : columnAffinity c = .text) {t : String}
    (stored : cell s w c = .text t) (zero : numberAtStart t = .int 0) :
    meets s w (threshold c r value true) = true ↔
      t ≠ "" ∧ orderMeets r
        (compare 0 (readLiteral (Number.leadingReal value.toList)).size) = true := by
  have only : ∀ column ∈ (threshold c r value true).columns, column = c := by
    simp [threshold, Condition.columns, Operand.read]
  obtain ⟨row, own, same⟩ := exists_row_of_column s w only
  have text : row.get c = .text t := own.trans stored
  have number : operandValue row (.decimal c) = .int 0 := by
    show (row.get c).castNumber = .int 0
    rw [text]
    exact zero
  have given : (compareWith row (.column c) .ne (.text "")).holds = true ↔ t ≠ "" := by
    rw [compareWith_text affinity text, Truth.holds_ofBool]
    show (compare t "" != .eq) = true ↔ _
    rw [bne_iff_ne, ne_eq, compare_eq_iff_eq]
  rw [same]
  show (truth s row (.grouped (.both (.compare (.column c) .ne (.text ""))
    (.compare (.decimal c) r (.number _))))).holds = true ↔ _
  rw [Predicate.holds_truth_both]
  show (compareWith row (.column c) .ne (.text "")).holds = true ∧
    (compareWith row (.decimal c) r (.number _)).holds = true ↔ _
  rw [given, compareWith_number number Affinity.noConfusion, Truth.holds_ofBool]
  unfold Binary64.wholeUnits
  rw [Int.zero_mul]

end Store

/-- The comparison with a threshold that an operator asks for. -/
def Operator.comparison? : Operator → Option Comparison
  | .atLeast => some .ge
  | .atMost => some .le
  | _ => none

/-- What the comparison with a threshold says about an order. -/
theorem Operator.orderMeets_compare {op : Operator} {r : Comparison} (h : op.comparison? = some r)
    (a b : Int) :
    orderMeets r (compare a b) = true ↔ op = .atLeast ∧ b ≤ a ∨ op = .atMost ∧ a ≤ b := by
  unfold comparison? at h
  split at h
  · obtain rfl := Option.some.inj h
    show (compare a b != .lt) = true ↔ _
    rw [bne_iff_ne, ne_eq, compare_lt_iff_lt, Int.not_lt]
    simp
  · obtain rfl := Option.some.inj h
    show (compare a b != .gt) = true ↔ _
    rw [bne_iff_ne, ne_eq, compare_gt_iff_gt, Int.not_lt]
    simp
  · cases h

namespace Clause

/-- An operator of comparison has a threshold for its condition. -/
theorem condition?_of_comparison {c : Clause} {r : Comparison}
    (h : c.operator.comparison? = some r) (context : FilterContext) (f : Field) :
    c.condition? context f =
      some (Predicate.threshold f.column r c.firstValue (c.dynamic || f.isCustom)) := by
  unfold Operator.comparison? at h
  unfold condition?
  split at h
  · rename_i op
    obtain rfl := Option.some.inj h
    simp only [op]
  · rename_i op
    obtain rfl := Option.some.inj h
    simp only [op]
  · cases h

/-! ## Columns of whole numbers -/

/-- On a column of whole numbers a threshold is the number of the format nearest to the one that
was given, and the numbers on the side that the filter asks for are found, with the threshold. A
number of the format, such as every whole number up to two to the fifty-third, is a threshold as it
is. -/
theorem meets_threshold_whole (catalog : Catalog) (context : FilterContext) {c : Clause} {n : Int}
    (given : c.firstValue = (FilterValue.int n).normalize) (wide : Number.isInt64 n = true)
    (plain : c.dynamic = false) {r : Comparison} (side : c.operator.comparison? = some r)
    {f : Field} (resolved : catalog.resolve c.field = .ok f) (integer : f.kind.affinity = .integer)
    (s : Store) (workPackage : Record) {x : Int} (stored : cell s workPackage f.column = .int x) :
    (∃ y : Binary64, Binary64.nearest (decide (n < 0)) n.natAbs 1 = some y ∧
      y.units = Binary64.wholeUnits (Binary64.nearestWhole n) ∧ y.IsNearestTo n) ∧
    ((∃ z : Binary64, z.units = Binary64.wholeUnits n) → Binary64.nearestWhole n = n) ∧
    (n.natAbs ≤ 2 ^ 53 → Binary64.nearestWhole n = n) ∧
    ∃ condition, (c.predicate context f).condition? = some condition ∧
      (meets s workPackage condition = true ↔
        c.operator = .atLeast ∧ Binary64.nearestWhole n ≤ x ∨
          c.operator = .atMost ∧ x ≤ Binary64.nearestWhole n) := by
  obtain ⟨y, k, nearest, whole, small, units⟩ := Binary64.exists_nearestWhole wide
  refine ⟨⟨y, nearest, units, Binary64.isNearestTo_of_nearest nearest⟩,
    fun ⟨z, same⟩ => Binary64.nearestWhole_of_exact wide same,
    Binary64.nearestWhole_of_small wide, ?_⟩
  have affinity : columnAffinity f.column = .integer :=
    (Catalog.columnAffinity_of_resolve resolved).trans integer
  have custom : f.isCustom = false := by
    unfold Field.isCustom
    cases kind : f.kind with
    | custom id format =>
      rw [kind] at integer
      cases integer
    | plain type => rfl
    | status => rfl
  have limit : Number.leadingReal c.firstValue.toList = y := by
    rw [given]
    exact Binary64.leadingReal_decimal nearest
  refine ⟨_, (predicate_condition? c context f).trans (condition?_of_comparison side context f), ?_⟩
  rw [plain, custom, Bool.or_self, Store.meets_threshold_of_int s workPackage r _ affinity stored,
    limit, Store.readLiteral_of_whole whole small]
  show orderMeets r (compare (Binary64.wholeUnits x) y.units) = true ↔ _
  rw [units, show compare (Binary64.wholeUnits x) (Binary64.wholeUnits _) = compare x _ from
    Value.order_int x _, Operator.orderMeets_compare side]

/-! ## Texts that are no numbers -/

/-- A text that does not start with a number, and is not empty, is found by a threshold on a custom
field exactly if zero is on the side that the filter asks for. -/
theorem meets_threshold_of_no_number (catalog : Catalog) (context : FilterContext) {c : Clause}
    {r : Comparison} (side : c.operator.comparison? = some r) {id : Int}
    (own : c.field = .custom id) {f : Field} (resolved : catalog.resolve c.field = .ok f)
    (s : Store) (workPackage : Record) {t : String}
    (stored : cell s workPackage f.column = .text t)
    (none : Number.Numeral.leadingLength (Text.trimLeft t.toList) = 0) :
    ∃ condition, (c.predicate context f).condition? = some condition ∧
      (meets s workPackage condition = true ↔
        t ≠ "" ∧
          (c.operator = .atLeast ∧ (Number.leadingReal c.firstValue.toList).units ≤ 0 ∨
            c.operator = .atMost ∧ 0 ≤ (Number.leadingReal c.firstValue.toList).units)) := by
  rw [own] at resolved
  obtain ⟨format, rfl⟩ := Catalog.eq_custom_of_resolve resolved
  refine ⟨_, (predicate_condition? c context _).trans (condition?_of_comparison side context _), ?_⟩
  have dynamic : (c.dynamic || (Field.custom id format).isCustom) = true := Bool.or_true _
  obtain ⟨upTo, from_⟩ := Store.sign_size_readLiteral (Number.leadingReal c.firstValue.toList)
  rw [dynamic, Store.meets_threshold_of_zero s workPackage r _ rfl stored
    (Store.numberAtStart_eq_zero none), Operator.orderMeets_compare side, upTo, from_]

end Clause

/-! ## Samples -/

/-- One work package that is done to two to the fifty-third. -/
def powerRows : List (Store.Table × Store.NewRow) :=
  [(.projects, [("name", .text "one")]),
    (.workPackages, [("project_id", .int 1), ("subject", .text "alpha"),
      ("done_ratio", .int 9007199254740992), ("created_at", .text "2024-01-01 00:00:00"),
      ("updated_at", .text "2024-01-01 00:00:00")])]

/-- A session on the store of these rows. -/
def powerSession : Session :=
  ⟨.ofStore (Store.ofRows powerRows), .lookingUp, ⟨[]⟩, .initial, sampleDay⟩

/-- The clause that asks for more than that, by one. -/
def pastPowerClause : Clause :=
  .ofValues (.plain "done_ratio") .atLeast [.int 9007199254740993]

/-- The number that was given is no binary one, and the nearest of these is what is stored. -/
theorem Clause.meets_threshold_whole_powerSession :
    ∃ workPackage ∈ powerSession.pool.store.workPackages, ∃ condition,
      (pastPowerClause.predicate powerSession.filterContext
        (Field.plain "done_ratio" .integer)).condition? = some condition ∧
      meets powerSession.pool.store workPackage condition = true := by
  obtain ⟨workPackage, mem, stored⟩ : ∃ workPackage ∈ powerSession.pool.store.workPackages,
      workPackage.get "done_ratio" = .int 9007199254740992 := by
    decide +kernel
  obtain ⟨-, -, -, condition, compiled, found⟩ := Clause.meets_threshold_whole
    powerSession.catalog powerSession.filterContext (c := pastPowerClause)
    (n := 9007199254740993) rfl (by decide) rfl (r := .ge) rfl
    (f := Field.plain "done_ratio" .integer) rfl rfl powerSession.pool.store workPackage stored
  refine ⟨workPackage, mem, condition, compiled, found.mpr (Or.inl ⟨rfl, ?_⟩)⟩
  decide +kernel

/-- No work package is done to what is asked for, and the count is one. -/
theorem Session.count_pastPowerClause :
    powerSession.pool.store.workPackages.map (fun w => w.get "done_ratio") =
      [.int 9007199254740992] ∧
    ¬(9007199254740993 : Int) ≤ 9007199254740992 ∧
    (powerSession.count ⟨[pastPowerClause], none, .all, []⟩).result = .ok 1 := by
  refine ⟨by decide +kernel, by decide, by decide +kernel⟩

/-- One work package with a word as its value of a custom field of whole numbers. -/
def wordRows : List (Store.Table × Store.NewRow) :=
  [(.projects, [("name", .text "one")]),
    (.workPackages, [("project_id", .int 1), ("subject", .text "alpha"),
      ("created_at", .text "2024-01-01 00:00:00"), ("updated_at", .text "2024-01-01 00:00:00")]),
    (.customFields, [("name", .text "Points"), ("field_format", .text "int")]),
    (.customValues, [("customized_id", .int 1), ("custom_field_id", .int 1),
      ("value", .text "abc")])]

/-- A session on the store of these rows. -/
def wordSession : Session :=
  ⟨.ofStore (Store.ofRows wordRows), .lookingUp, ⟨[(1, .int)]⟩, .initial, sampleDay⟩

/-- The clause that asks for at most five of the custom field. -/
def upToFiveClause : Clause := .ofValues (.custom 1) .atMost [.int 5]

/-- The clause that asks for at least minus five of the custom field. -/
def fromMinusFiveClause : Clause := .ofValues (.custom 1) .atLeast [.int (-5)]

/-- The word is found among the numbers up to five. -/
theorem Clause.meets_threshold_of_no_number_wordSession :
    ∃ workPackage ∈ wordSession.pool.store.workPackages, ∃ condition,
      (upToFiveClause.predicate wordSession.filterContext (Field.custom 1 .int)).condition? =
        some condition ∧
      meets wordSession.pool.store workPackage condition = true := by
  obtain ⟨workPackage, mem, stored⟩ : ∃ workPackage ∈ wordSession.pool.store.workPackages,
      cell wordSession.pool.store workPackage (Field.custom 1 .int).column = .text "abc" := by
    decide +kernel
  obtain ⟨condition, compiled, found⟩ := Clause.meets_threshold_of_no_number wordSession.catalog
    wordSession.filterContext (c := upToFiveClause) (r := .le) rfl rfl
    (f := Field.custom 1 .int) rfl wordSession.pool.store workPackage stored (by decide)
  refine ⟨workPackage, mem, condition, compiled, found.mpr ⟨by decide, Or.inr ⟨rfl, ?_⟩⟩⟩
  decide +kernel

/-- The word is no number, and both clauses count it. -/
theorem Session.count_wordSession :
    Number.Numeral.leadingLength (Text.trimLeft "abc".toList) = 0 ∧
    (∀ workPackage ∈ wordSession.pool.store.workPackages,
      cell wordSession.pool.store workPackage (Field.custom 1 .int).column = .text "abc") ∧
    (wordSession.count ⟨[upToFiveClause], none, .all, []⟩).result = .ok 1 ∧
    (wordSession.count ⟨[fromMinusFiveClause], none, .all, []⟩).result = .ok 1 := by
  refine ⟨by decide, by decide +kernel, by decide +kernel, by decide +kernel⟩

end Worklist
