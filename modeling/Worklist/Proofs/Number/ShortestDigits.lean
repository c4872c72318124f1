import Mathlib.Data.Rat.Floor
import Worklist.Number.Shortest
import Worklist.Proofs.Number.Nearest

/-!
# Shortest digits read back

The digits of a number are taken from the coarsest power of ten that has a multiple in the rounding
interval of the number. A power of ten is tried by the two multiples next to the number, which
decide for all of them. Seventeen powers are tried, and the last one is narrower than the interval,
so digits are always found, and the number that they stand for rounds to the number.
-/

set_option autoImplicit false

namespace Worklist.Number.Binary64

/-! ## Multiples of a power of ten in an interval -/

/-- A number lies between two others. It may be one of them if the interval is closed. -/
def Between (closed : Bool) (low high q : ℚ) : Prop :=
  if closed then low ≤ q ∧ q ≤ high else low < q ∧ q < high

/-- Where a number lies between two others, so does all that stands nearer to the inside. -/
theorem Between.mono {closed : Bool} {low high q r : ℚ} (h : Between closed low high q)
    (above : q ≤ r ∨ low < r) (below : r ≤ q ∨ r < high) : Between closed low high r := by
  unfold Between at h ⊢
  cases closed with
  | true =>
    obtain ⟨hlow, hhigh⟩ := h
    exact ⟨above.elim hlow.trans le_of_lt, below.elim (fun le => le.trans hhigh) le_of_lt⟩
  | false =>
    obtain ⟨hlow, hhigh⟩ := h
    exact ⟨above.elim hlow.trans_le id, below.elim (fun le => le.trans_lt hhigh) id⟩

/-- Powers of ten are positive. -/
theorem ten_zpow_pos (j : ℤ) : (0 : ℚ) < 10 ^ j := zpow_pos (by norm_num) j

/-- The denominator of a scaled number is positive. -/
theorem scaled_den_pos (x : ℕ) (e j : ℤ) : 0 < (scaled x e j).2 :=
  Nat.mul_pos (twoTo_pos _) (tenTo_pos _)

/-- The scaled number as a quotient. -/
theorem scaled_quotient (x : ℕ) (e j : ℤ) :
    ((scaled x e j).1 : ℚ) / (scaled x e j).2 = x * 2 ^ e / 10 ^ j := by
  unfold scaled
  rw [← pow_toNat_div two_ne_zero e, ← pow_toNat_div (b := 10) (by norm_num) j]
  push_cast
  field_simp

/-- A multiple of a power of ten is compared with a scaled number without fractions. -/
theorem scaled_le_iff (x c : ℕ) (e j : ℤ) :
    ((scaled x e j).1 ≤ c * (scaled x e j).2 ↔ (x * 2 ^ e : ℚ) ≤ c * 10 ^ j) ∧
    (c * (scaled x e j).2 ≤ (scaled x e j).1 ↔ (c * 10 ^ j : ℚ) ≤ x * 2 ^ e) := by
  have wide : (0 : ℚ) < (scaled x e j).2 := Nat.cast_pos.mpr (scaled_den_pos x e j)
  have ten := ten_zpow_pos j
  have quotient := scaled_quotient x e j
  constructor
  · rw [← div_le_iff₀ ten, ← quotient, div_le_iff₀ wide]
    exact_mod_cast Iff.rfl
  · rw [← le_div_iff₀ ten, ← quotient, le_div_iff₀ wide]
    exact_mod_cast Iff.rfl

/-- The denominator does not depend on what is scaled. -/
theorem scaled_den (x y : ℕ) (e j : ℤ) : (scaled x e j).2 = (scaled y e j).2 := rfl

/-- The test of a decimal number against the scaled ends of an interval says whether it lies between
them. -/
theorem inside_iff (low high c : ℕ) (closed : Bool) (e j : ℤ) :
    (if closed then decide ((scaled low e j).1 ≤ c * (scaled low e j).2) &&
        decide (c * (scaled low e j).2 ≤ (scaled high e j).1)
      else decide ((scaled low e j).1 < c * (scaled low e j).2) &&
        decide (c * (scaled low e j).2 < (scaled high e j).1)) = true ↔
      Between closed (low * 2 ^ e) (high * 2 ^ e) (c * 10 ^ j) := by
  obtain ⟨low_le, le_low⟩ := scaled_le_iff low c e j
  obtain ⟨high_le, le_high⟩ := scaled_le_iff high c e j
  rw [scaled_den high low] at high_le le_high
  unfold Between
  cases closed with
  | true => simp only [if_true, Bool.and_eq_true, decide_eq_true_eq, low_le, le_high]
  | false =>
    simp only [Bool.false_eq_true, if_false, Bool.and_eq_true, decide_eq_true_eq, ← not_le, le_low,
      high_le]

/-- The nearer one of two multiples is one of the two. -/
theorem nearerOf_cases (tieUp : Bool) (num : ℕ) {den : ℕ} (positive : 0 < den) :
    nearerOf tieUp num den (num / den) = num / den ∨
      nearerOf tieUp num den (num / den) = if num % den = 0 then num / den else num / den + 1 := by
  unfold nearerOf
  simp only
  by_cases exact : num % den = 0
  · have whole : num - num / den * den = 0 := by
      rw [Nat.div_mul_cancel (Nat.dvd_of_mod_eq_zero exact), Nat.sub_self]
    left
    rw [whole, if_pos positive]
  · rw [if_neg exact]
    split_ifs
    · exact Or.inl rfl
    · exact Or.inr rfl
    · exact Or.inl rfl

section Grid

variable {tieUp closed : Bool} {low value high : ℕ} {e j : ℤ}

/-- What is found lies in the interval. -/
theorem between_of_gridPoint? {c : ℕ} (h : gridPoint? tieUp low value high closed e j = some c) :
    Between closed (low * 2 ^ e) (high * 2 ^ e) (c * 10 ^ j) := by
  rw [← inside_iff]
  unfold gridPoint? at h
  simp only at h
  split at h
  · rename_i below above
    rw [← Option.some.inj h]
    rcases nearerOf_cases tieUp (scaled value e j).1 (scaled_den_pos value e j) with near | near
    · rw [near]
      exact below
    · rw [near]
      exact above
  · rename_i below _
    rw [← Option.some.inj h]
    exact below
  · rename_i _ above
    rw [← Option.some.inj h]
    exact above
  · cases h

/-- The next whole number from a quotient on: it reaches the quotient, and is the least that
does. -/
theorem nextWhole (num : ℕ) {den : ℕ} (positive : 0 < den) {next : ℕ}
    (h : next = if num % den = 0 then num / den else num / den + 1) :
    num ≤ next * den ∧ ∀ c, num ≤ c * den → next ≤ c := by
  have split := Nat.div_add_mod' num den
  have small := Nat.mod_lt num positive
  rw [h]
  split_ifs with exact
  · refine ⟨by omega, fun c hc => ?_⟩
    exact (Nat.div_le_div_right hc).trans_eq (Nat.mul_div_cancel c positive)
  · constructor
    · rw [Nat.succ_mul]
      omega
    · intro c hc
      refine Nat.succ_le_of_lt ((Nat.div_lt_iff_lt_mul positive).mpr (Nat.lt_of_le_of_ne hc ?_))
      rintro rfl
      exact exact (Nat.mul_mod_left c den)

/-- Where nothing is found there is no multiple in the interval. Of the multiples up to the value
the greatest one stands nearest to the inside, and of those above it the least one. -/
theorem not_between_of_gridPoint? (h : gridPoint? tieUp low value high closed e j = none)
    (above : low < value) (below : value < high) (c : ℕ) :
    ¬Between closed (low * 2 ^ e) (high * 2 ^ e) (c * 10 ^ j) := by
  have scale := two_zpow_pos e
  have ten := ten_zpow_pos j
  have low_lt : (low * 2 ^ e : ℚ) < value * 2 ^ e :=
    mul_lt_mul_of_pos_right (Nat.cast_lt.mpr above) scale
  have lt_high : (value * 2 ^ e : ℚ) < high * 2 ^ e :=
    mul_lt_mul_of_pos_right (Nat.cast_lt.mpr below) scale
  have multiple_le {k k' : ℕ} (le : k ≤ k') : (k * 10 ^ j : ℚ) ≤ k' * 10 ^ j :=
    mul_le_mul_of_nonneg_right (Nat.cast_le.mpr le) ten.le
  have positive := scaled_den_pos value e j
  have compared (k : ℕ) := scaled_le_iff value k e j
  unfold gridPoint? at h
  simp only at h
  split at h
  · cases h
  · cases h
  · cases h
  · rename_i notBelow notAbove
    intro between
    rcases Nat.le_total (c * (scaled value e j).2) (scaled value e j).1 with upTo | beyond
    · have least : c ≤ (scaled value e j).1 / (scaled value e j).2 :=
        (Nat.le_div_iff_mul_le positive).mpr upTo
      have reached := (compared _).2.mp (Nat.div_mul_le_self (scaled value e j).1 _)
      have inside := between.mono (Or.inl (multiple_le least)) (Or.inr (reached.trans_lt lt_high))
      rw [← inside_iff] at inside
      exact Bool.false_ne_true (notBelow.symm.trans inside)
    · obtain ⟨reaches, least⟩ := nextWhole (scaled value e j).1 positive rfl
      have reached := (compared _).1.mp reaches
      have inside := between.mono (Or.inr (low_lt.trans_le reached))
        (Or.inl (multiple_le (least c beyond)))
      rw [← inside_iff] at inside
      exact Bool.false_ne_true (notAbove.symm.trans inside)

end Grid

/-- A power of ten that is less than an interval is long has a multiple inside. -/
theorem exists_between {low high : ℚ} (nonneg : 0 ≤ low) {g : ℚ} (positive : 0 < g)
    (narrow : low + g < high) (closed : Bool) : ∃ c : ℕ, Between closed low high (c * g) := by
  have floor_le : (⌊low / g⌋₊ : ℚ) * g ≤ low := by
    rw [← le_div_iff₀ positive]
    exact Nat.floor_le (div_nonneg nonneg positive.le)
  have lt_next : low < (⌊low / g⌋₊ + 1 : ℕ) * g := by
    rw [← div_lt_iff₀ positive]
    exact_mod_cast Nat.lt_floor_add_one (low / g)
  have below : ((⌊low / g⌋₊ + 1 : ℕ) : ℚ) * g < high := by
    push_cast
    linarith
  refine ⟨⌊low / g⌋₊ + 1, ?_⟩
  unfold Between
  split_ifs
  · exact ⟨lt_next.le, below.le⟩
  · exact ⟨lt_next, below⟩

/-! ## The order of a number -/

/-- The test against a power of ten compares the quotient with it. -/
theorem belowTen_iff (num : ℕ) {den : ℕ} (positive : 0 < den) (k : ℤ) :
    belowTen num den k = true ↔ (num : ℚ) / den < 10 ^ k := by
  have wide : (0 : ℚ) < den := Nat.cast_pos.mpr positive
  have scale : (0 : ℚ) < 10 ^ (-k).toNat := by positivity
  unfold belowTen
  rw [decide_eq_true_iff, ← pow_toNat_div (b := 10) (by norm_num) k, div_lt_div_iff₀ wide scale,
    ← cast_tenTo, ← cast_tenTo, mul_comm (tenTo k.toNat : ℚ)]
  exact_mod_cast Iff.rfl

/-- Powers of ten and of two are compared by a power of ten that is near to one of two. -/
theorem ten_zpow_le_two_zpow {j b : ℤ} {p q : ℕ} (some : q ≠ 0) (exponents : j * q ≤ b * p)
    (powers : ((10 : ℚ) ^ p) ^ b ≤ (2 ^ q) ^ b) : (10 : ℚ) ^ j ≤ 2 ^ b := by
  have ten : (0 : ℚ) ≤ 10 ^ j := (ten_zpow_pos j).le
  refine (pow_le_pow_iff_left₀ ten (two_zpow_pos b).le some).mp ?_
  calc ((10 : ℚ) ^ j) ^ q = 10 ^ (j * q) := by rw [zpow_mul, zpow_natCast]
    _ ≤ 10 ^ (b * p) := zpow_le_zpow_right₀ (by norm_num) exponents
    _ = (10 ^ p) ^ b := by rw [mul_comm, zpow_mul, zpow_natCast]
    _ ≤ (2 ^ q) ^ b := powers
    _ = (2 ^ b) ^ q := by rw [← zpow_natCast, ← zpow_natCast, ← zpow_mul, ← zpow_mul, mul_comm]

/-- The estimate of the decimal order by the binary one is at most one too large. -/
theorem ten_zpow_estimate_le {k b : ℤ} (low : -20000 ≤ b) (high : b ≤ 100000)
    (estimate : k * 100000 ≤ b * 30103) : (10 : ℚ) ^ (k - 1) ≤ 2 ^ b := by
  rcases Int.le_total 0 b with large | small
  · refine ten_zpow_le_two_zpow (p := 59) (q := 196) (by decide) (by omega) ?_
    exact zpow_le_zpow_left₀ large (by positivity) (by norm_num)
  · refine ten_zpow_le_two_zpow (p := 28) (q := 93) (by decide) (by omega) ?_
    have powers : ((2 : ℚ) ^ 93) ^ (-b) ≤ (10 ^ 28) ^ (-b) :=
      zpow_le_zpow_left₀ (by omega) (by positivity) (by norm_num)
    rw [zpow_neg, zpow_neg] at powers
    exact (inv_le_inv₀ (by positivity) (by positivity)).mp powers

/-- The power of ten of its order is not above a quotient. -/
theorem ten_zpow_decimalOrder_le {num den : ℕ} (nonzero : num ≠ 0) (positive : 0 < den)
    (low : -20000 ≤ binaryOrder num den) (high : binaryOrder num den ≤ 100000) :
    (10 : ℚ) ^ decimalOrder num den ≤ num / den := by
  have below (k : ℤ) := belowTen_iff num positive k
  unfold decimalOrder
  simp only
  split_ifs with less next
  · have estimate : Int.fdiv (binaryOrder num den * 30103) 100000 * 100000 ≤
        binaryOrder num den * 30103 := by
      rw [Int.fdiv_eq_ediv_of_nonneg _ (by decide)]
      omega
    exact (ten_zpow_estimate_le low high estimate).trans (binaryOrder_spec nonzero positive).1
  · exact not_lt.mp fun lt => less ((below _).mpr lt)
  · exact not_lt.mp fun lt => next ((below _).mpr lt)

/-- A quotient of at least one has no negative order. -/
theorem decimalOrder_nonneg {num den : ℕ} (positive : 0 < den) (one : (1 : ℚ) ≤ num / den) :
    0 ≤ decimalOrder num den := by
  have nonzero : num ≠ 0 := by
    rintro rfl
    norm_num at one
  have order : 0 ≤ binaryOrder num den := by
    have bounds := one.trans_lt (binaryOrder_spec nonzero positive).2
    rw [← zpow_zero (2 : ℚ), two_zpow_lt_iff] at bounds
    omega
  have estimate : 0 ≤ Int.fdiv (binaryOrder num den * 30103) 100000 := by
    rw [Int.fdiv_eq_ediv_of_nonneg _ (by decide)]
    omega
  unfold decimalOrder
  simp only
  split_ifs with less
  · by_contra negative
    have zero : Int.fdiv (binaryOrder num den * 30103) 100000 = 0 := by omega
    rw [zero, belowTen_iff num positive, zpow_zero] at less
    exact absurd one (not_le.mpr less)
  · exact estimate
  · omega

/-! ## The digits -/

/-- The first one that is found has nothing before it. -/
theorem exists_first_of_findSome? {α : Type} {f : ℕ → Option α} {n : ℕ} {a : α}
    (h : (List.range n).findSome? f = some a) : ∃ i < n, f i = some a ∧ ∀ k < i, f k = none := by
  induction n with
  | zero => cases h
  | succ n ih =>
    rw [List.range_succ, List.findSome?_append] at h
    cases before : (List.range n).findSome? f with
    | some b =>
      rw [before, Option.some_or] at h
      obtain ⟨i, less, found, first⟩ := ih (before.trans h)
      exact ⟨i, by omega, found, first⟩
    | none =>
      rw [before, Option.none_or, List.findSome?_singleton] at h
      refine ⟨n, Nat.lt_succ_self n, h, fun k less => ?_⟩
      exact List.findSome?_eq_none_iff.mp before k (List.mem_range.mpr less)

variable {x : Binary64}

/-- What is rounded to a number reaches down below it. -/
theorem lowQuarters_lt (nonzero : x.mantissa ≠ 0) : x.lowQuarters < 4 * x.mantissa := by
  unfold lowQuarters
  split_ifs <;> omega

/-- The rounding interval as what lies between its ends. -/
theorem covers_iff_between (q : ℚ) :
    x.Covers q ↔ Between (x.mantissa % 2 == 0) (x.lowQuarters * 2 ^ (x.exponent - 2))
      ((4 * x.mantissa + 2 : ℕ) * 2 ^ (x.exponent - 2)) q := by
  unfold Between
  split_ifs with even
  · rw [beq_iff_eq] at even
    exact ⟨fun h => ⟨h.low, h.high⟩, fun h => ⟨h.1, h.2, fun _ => even⟩⟩
  · rw [beq_iff_eq] at even
    constructor
    · intro h
      refine ⟨lt_of_le_of_ne h.low fun same => ?_, lt_of_le_of_ne h.high fun same => ?_⟩
      · exact even (h.even_of_end (Or.inl same.symm))
      · exact even (h.even_of_end (Or.inr same))
    · rintro ⟨low, high⟩
      refine ⟨low.le, high.le, ?_⟩
      rintro (same | same)
      · exact absurd same low.ne'
      · exact absurd same high.ne

/-- The order of a number: that of its first decimal digit. -/
def order (x : Binary64) : ℤ :=
  decimalOrder (scaled (4 * x.mantissa) (x.exponent - 2) 0).1
    (scaled (4 * x.mantissa) (x.exponent - 2) 0).2

/-- The size of a number from its quarters. -/
theorem magnitude_eq_quarters (x : Binary64) :
    x.magnitude = (4 * x.mantissa : ℕ) * 2 ^ (x.exponent - 2) := by
  unfold magnitude
  rw [Covers.exponent_eq]
  push_cast
  ring

/-- The scaled number is the size of the number. -/
theorem scaled_magnitude (x : Binary64) :
    ((scaled (4 * x.mantissa) (x.exponent - 2) 0).1 : ℚ) /
      (scaled (4 * x.mantissa) (x.exponent - 2) 0).2 = x.magnitude := by
  rw [scaled_quotient, zpow_zero, div_one, magnitude_eq_quarters]

/-- The scaled size of a number other than zero is not zero. -/
theorem scaled_magnitude_ne_zero (nonzero : x.mantissa ≠ 0) :
    (scaled (4 * x.mantissa) (x.exponent - 2) 0).1 ≠ 0 :=
  (Nat.mul_pos (Nat.mul_pos (by omega) (twoTo_pos _)) (tenTo_pos _)).ne'

/-- The order of a number in powers of two lies within the format. -/
theorem binaryOrder_bounds (nonzero : x.mantissa ≠ 0) :
    -1074 ≤ binaryOrder (scaled (4 * x.mantissa) (x.exponent - 2) 0).1
        (scaled (4 * x.mantissa) (x.exponent - 2) 0).2 ∧
      binaryOrder (scaled (4 * x.mantissa) (x.exponent - 2) 0).1
        (scaled (4 * x.mantissa) (x.exponent - 2) 0).2 < 1024 := by
  obtain ⟨short, least, greatest, -⟩ := x.canonical
  obtain ⟨low, high⟩ := binaryOrder_spec (scaled_magnitude_ne_zero nonzero)
    (scaled_den_pos (4 * x.mantissa) (x.exponent - 2) 0)
  rw [scaled_magnitude] at low high
  have scale := two_zpow_pos x.exponent
  have above : (2 : ℚ) ^ x.exponent ≤ x.magnitude := by
    have one : (1 : ℚ) ≤ x.mantissa := by exact_mod_cast Nat.one_le_iff_ne_zero.mpr nonzero
    exact le_mul_of_one_le_left scale.le one
  have below : x.magnitude < 2 ^ (x.exponent + 53) := by
    refine lt_of_lt_of_eq ?_ (two_zpow_add_natCast x.exponent 53).symm
    exact mul_lt_mul_of_pos_right (by exact_mod_cast short) scale
  have lower := two_zpow_lt_iff.mp (above.trans_lt high)
  have upper := two_zpow_lt_iff.mp (low.trans_lt below)
  omega

/-- A number is at least the power of ten of its order. -/
theorem ten_zpow_order_le (nonzero : x.mantissa ≠ 0) : (10 : ℚ) ^ x.order ≤ x.magnitude := by
  obtain ⟨lower, upper⟩ := binaryOrder_bounds nonzero
  rw [← scaled_magnitude]
  exact ten_zpow_decimalOrder_le (scaled_magnitude_ne_zero nonzero) (scaled_den_pos _ _ _)
    (by omega) (by omega)

/-- The order of a number in powers of ten lies within the format. -/
theorem order_bounds (nonzero : x.mantissa ≠ 0) : -325 ≤ x.order ∧ x.order ≤ 309 := by
  obtain ⟨lower, upper⟩ := binaryOrder_bounds nonzero
  unfold order decimalOrder
  rw [Int.fdiv_eq_ediv_of_nonneg _ (by decide)]
  simp only
  split_ifs <;> omega

/-- A whole number but zero has a first digit before the point. -/
theorem order_nonneg (one : 1 ≤ x.magnitude) : 0 ≤ x.order := by
  rw [← scaled_magnitude] at one
  exact decimalOrder_nonneg (scaled_den_pos _ _ _) one

/-- Seventeen digits are enough for every number. -/
theorem exists_covers (nonzero : x.mantissa ≠ 0) : ∃ c : ℕ, x.Covers (c * 10 ^ (x.order - 16)) := by
  have short : x.mantissa < 2 ^ 53 := x.canonical.1
  have scale := two_zpow_pos (x.exponent - 2)
  have order := ten_zpow_order_le nonzero
  have split : (10 : ℚ) ^ x.order = 10 ^ (x.order - 16) * 10 ^ 16 := by
    rw [← zpow_natCast, ← zpow_add₀ (by norm_num)]
    congr 1
    ring
  rw [split, magnitude_eq_quarters] at order
  -- an interval is three or four quarters long, and longer than a unit of the seventeenth digit
  have narrow : (x.lowQuarters * 2 ^ (x.exponent - 2) : ℚ) + 10 ^ (x.order - 16) <
      (4 * x.mantissa + 2 : ℕ) * 2 ^ (x.exponent - 2) := by
    unfold lowQuarters
    split_ifs with power
    · have mantissa : (x.mantissa : ℚ) = 2 ^ 52 := by exact_mod_cast power.1
      rw [Nat.cast_sub (by omega)]
      push_cast at order ⊢
      rw [mantissa] at order ⊢
      linarith
    · have bound : (4 * x.mantissa : ℚ) * 2 ^ (x.exponent - 2) ≤
          4 * 2 ^ 53 * 2 ^ (x.exponent - 2) :=
        mul_le_mul_of_nonneg_right (by exact_mod_cast (by omega)) scale.le
      rw [Nat.cast_sub (by omega)]
      push_cast at order ⊢
      linarith
  obtain ⟨c, between⟩ := exists_between (by positivity) (ten_zpow_pos _) narrow
    (x.mantissa % 2 == 0)
  exact ⟨c, (covers_iff_between _).mpr between⟩

/-- The shortest digits lie in the rounding interval of a number, and no coarser power of ten has a
multiple in it. -/
theorem shortest_spec (tieUp : Bool) (nonzero : x.mantissa ≠ 0) :
    x.Covers ((x.shortest tieUp).1 * 10 ^ (x.shortest tieUp).2) ∧
      (x.shortest tieUp).2 ≤ x.order ∧
      ∀ j, x.order - 16 ≤ j → j ≤ x.order → (∃ c : ℕ, x.Covers (c * 10 ^ j)) →
        j ≤ (x.shortest tieUp).2 := by
  -- the powers are tried one after the other
  let grid (i : ℕ) : Option (ℕ × ℤ) :=
    (gridPoint? tieUp x.lowQuarters (4 * x.mantissa) (4 * x.mantissa + 2) (x.mantissa % 2 == 0)
      (x.exponent - 2) (x.order - i)).map fun c => (c, x.order - i)
  have tried : x.shortest tieUp = ((List.range 17).findSome? grid).getD (0, 0) := by
    unfold shortest
    rw [if_neg nonzero]
    rfl
  have missed (i : ℕ) (none : grid i = none) (c : ℕ) : ¬x.Covers (c * 10 ^ (x.order - i)) := by
    rw [covers_iff_between]
    exact not_between_of_gridPoint? (Option.map_eq_none_iff.mp none) (lowQuarters_lt nonzero)
      (by omega) c
  cases found : (List.range 17).findSome? grid with
  | none =>
    obtain ⟨c, covers⟩ := exists_covers nonzero
    exact absurd covers
      (missed 16 (List.findSome?_eq_none_iff.mp found 16 (List.mem_range.mpr (by decide))) c)
  | some digits =>
    obtain ⟨i, -, here, before⟩ := exists_first_of_findSome? found
    obtain ⟨c, point, same⟩ := Option.map_eq_some_iff.mp here
    rw [tried, found, Option.getD_some, ← same]
    refine ⟨?_, by simp only; omega, ?_⟩
    · rw [covers_iff_between]
      exact between_of_gridPoint? point
    · rintro j least most ⟨c', covers⟩
      by_contra coarser
      refine missed (x.order - j).toNat (before _ (by omega)) c' ?_
      rw [Int.toNat_of_nonneg (by omega), sub_sub_cancel]
      exact covers

/-- A number is in its own rounding interval. -/
theorem covers_magnitude (nonzero : x.mantissa ≠ 0) : x.Covers x.magnitude := by
  have scale := two_zpow_pos (x.exponent - 2)
  have low : (x.lowQuarters : ℚ) * 2 ^ (x.exponent - 2) < x.magnitude := by
    rw [magnitude_eq_quarters]
    exact mul_lt_mul_of_pos_right (Nat.cast_lt.mpr (lowQuarters_lt nonzero)) scale
  have high : x.magnitude < (4 * x.mantissa + 2 : ℕ) * 2 ^ (x.exponent - 2) := by
    rw [magnitude_eq_quarters]
    exact mul_lt_mul_of_pos_right (Nat.cast_lt.mpr (by omega)) scale
  refine ⟨low.le, high.le, ?_⟩
  rintro (same | same)
  · exact absurd same low.ne'
  · exact absurd same high.ne

/-- The digits of a whole number are those of a whole number. -/
theorem shortest_power_nonneg (tieUp : Bool) {n : ℕ} (some : n ≠ 0) (whole : x.magnitude = n) :
    0 ≤ (x.shortest tieUp).2 := by
  have nonzero : x.mantissa ≠ 0 := by
    intro zero
    unfold magnitude at whole
    rw [zero, Nat.cast_zero, zero_mul] at whole
    exact some (by exact_mod_cast whole.symm)
  obtain ⟨-, -, coarsest⟩ := shortest_spec tieUp nonzero
  have order : 0 ≤ x.order := by
    refine order_nonneg ?_
    rw [whole]
    exact_mod_cast Nat.one_le_iff_ne_zero.mpr some
  rcases Int.le_total x.order 16 with few | many
  · refine coarsest 0 (by omega) order ⟨n, ?_⟩
    rw [zpow_zero, mul_one, ← whole]
    exact covers_magnitude nonzero
  · have last := coarsest (x.order - 16) (by omega) (by omega) (exists_covers nonzero)
    omega

/-- No digits are further away from the point than the first ones, or the last ones, that a number
of the format can have. -/
theorem natAbs_shortest_lt (tieUp : Bool) (nonzero : x.mantissa ≠ 0) :
    (x.shortest tieUp).2.natAbs < 400 := by
  obtain ⟨-, most, coarsest⟩ := shortest_spec tieUp nonzero
  have least := coarsest (x.order - 16) (by omega) (by omega) (exists_covers nonzero)
  have bounds := order_bounds nonzero
  omega

end Worklist.Number.Binary64
