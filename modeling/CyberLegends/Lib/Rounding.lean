import Mathlib.Algebra.Order.Floor.Ring
import Mathlib.Algebra.Order.Floor.Semiring
import Mathlib.Data.Int.Log
import Mathlib.Data.Rat.Floor
import Mathlib.Tactic.Linarith
import Mathlib.Tactic.Positivity
import Mathlib.Tactic.Ring

/-! Decimal rounding of a number that is not negative: to a whole number, and to the digits that a
context has. -/

namespace CyberLegends.Lib

/-! ### To a whole number -/

/-- A tie goes to the even neighbour. -/
def halfEven (x : ℚ) : ℕ :=
  if x - ⌊x⌋₊ < 1 / 2 ∨ (x - ⌊x⌋₊ = 1 / 2 ∧ ⌊x⌋₊ % 2 = 0) then ⌊x⌋₊ else ⌊x⌋₊ + 1

/-- A tie goes up. -/
def halfUp (x : ℚ) : ℕ := ⌊x + 1 / 2⌋₊

section
variable {x : ℚ} {n : ℕ}

@[simp] theorem halfEven_natCast (n : ℕ) : halfEven n = n := by
  simp [halfEven]

@[simp] theorem halfUp_natCast (n : ℕ) : halfUp n = n := by
  unfold halfUp
  rw [Nat.floor_eq_iff (by positivity)]
  constructor
  · linarith
  · linarith

theorem le_halfEven_of_natCast_le (above : (n : ℚ) ≤ x) : n ≤ halfEven x := by
  have low : n ≤ ⌊x⌋₊ := Nat.le_floor above
  unfold halfEven
  split
  · exact low
  · omega

theorem halfEven_le_of_le_natCast (nonneg : 0 ≤ x) (below : x ≤ n) : halfEven x ≤ n := by
  have low := Nat.floor_le nonneg
  unfold halfEven
  split
  · exact_mod_cast low.trans below
  next high =>
    have above : 1 / 2 ≤ x - ⌊x⌋₊ := le_of_not_gt fun under => high (Or.inl under)
    have less : (⌊x⌋₊ : ℚ) < n := by linarith
    have : ⌊x⌋₊ < n := by exact_mod_cast less
    omega

theorem halfEven_mono {y : ℚ} (nonneg : 0 ≤ x) (le : x ≤ y) : halfEven x ≤ halfEven y := by
  have least : ⌊y⌋₊ ≤ halfEven y := le_halfEven_of_natCast_le (Nat.floor_le (nonneg.trans le))
  have floors : ⌊x⌋₊ ≤ ⌊y⌋₊ := Nat.floor_le_floor le
  rcases floors.eq_or_lt with same | less
  · -- with one floor, what stays below the half of the greater number does so of the less one
    unfold halfEven
    rw [← same]
    split
    · split <;> omega
    next high =>
      rw [if_neg]
      rintro (below | ⟨half, even⟩)
      · exact high (Or.inl (by linarith))
      · rcases (sub_le_sub_right le (⌊x⌋₊ : ℚ)).trans_eq half |>.eq_or_lt with same | less
        · exact high (Or.inr ⟨same, even⟩)
        · exact high (Or.inl less)
  · have most : halfEven x ≤ ⌊x⌋₊ + 1 := by
      unfold halfEven
      split <;> omega
    omega

theorem halfUp_mono {y : ℚ} (le : x ≤ y) : halfUp x ≤ halfUp y :=
  Nat.floor_le_floor (by linarith)

theorem halfUp_lt_iff (nonneg : 0 ≤ x) : halfUp x < n ↔ x < n - 1 / 2 := by
  unfold halfUp
  rw [Nat.floor_lt (by linarith)]
  constructor
  · intro below
    linarith
  · intro below
    linarith

end

/-! ### To the digits of a context -/

/-- The digits of a coefficient, and the least and greatest exponents of a leading digit. -/
structure Context where
  prec : ℕ
  eMin : ℤ
  eMax : ℤ
  prec_pos : 0 < prec
  ordered : eMin ≤ eMax

namespace Context
variable (context : Context)

/-- The least exponent of a coefficient. -/
def eTiny : ℤ := context.eMin - (context.prec - 1)

/-- The greatest exponent of a full coefficient. -/
def eTop : ℤ := context.eMax - (context.prec - 1)

/-- The exponent of the last digit that a number keeps. -/
def place (x : ℚ) : ℤ := max (Int.log 10 x - (context.prec - 1)) context.eTiny

/-- The number that a number which is not negative rounds to, however great. -/
def round (x : ℚ) : ℚ := halfEven (x / 10 ^ context.place x) * 10 ^ context.place x

variable {context} {x : ℚ} {m : ℤ} {n : ℕ}

theorem ten_zpow_pos (m : ℤ) : (0 : ℚ) < 10 ^ m := zpow_pos (by norm_num) m

theorem natCast_mul_zpow {m e : ℤ} (le : e ≤ m) :
    (n : ℚ) * 10 ^ m / 10 ^ e = ((n * 10 ^ (m - e).toNat : ℕ) : ℚ) := by
  obtain ⟨k, rfl⟩ : ∃ k : ℕ, m = e + k := ⟨(m - e).toNat, by omega⟩
  have exponent : (e + k - e).toNat = k := by omega
  rw [exponent, zpow_add₀ (by norm_num), zpow_natCast, Nat.cast_mul, Nat.cast_pow]
  field_simp
  norm_num

theorem log_lt_of_lt (positive : 0 < x) (below : x < 10 ^ m) : Int.log 10 x < m := by
  have := (Int.lt_zpow_iff_log_lt (b := 10) (by norm_num) (x := m) positive).mp
  exact this (by exact_mod_cast below)

theorem le_log_of_le (positive : 0 < x) (above : 10 ^ m ≤ x) : m ≤ Int.log 10 x := by
  have := (Int.zpow_le_iff_le_log (b := 10) (by norm_num) (x := m) positive).mp
  exact this (by exact_mod_cast above)

theorem zpow_log_le (positive : 0 < x) : (10 : ℚ) ^ Int.log 10 x ≤ x := by
  have := Int.zpow_log_le_self (b := 10) (by norm_num) positive
  exact_mod_cast this

theorem round_nonneg : 0 ≤ context.round x :=
  mul_nonneg (Nat.cast_nonneg _) (ten_zpow_pos _).le

@[simp] theorem round_zero : context.round 0 = 0 := by
  have zero : halfEven 0 = 0 := halfEven_natCast 0
  simp [round, zero]

/-- A number whose digits the context has rounds to itself. -/
theorem round_eq_self (value : x = n * 10 ^ m) (low : context.eTiny ≤ m)
    (digits : n < 10 ^ context.prec) : context.round x = x := by
  rcases Nat.eq_zero_or_pos n with rfl | positive
  · simp [value]
  have pos : 0 < x := value ▸ mul_pos (by exact_mod_cast positive) (ten_zpow_pos m)
  have below : x < 10 ^ ((context.prec : ℤ) + m) := by
    rw [value, zpow_add₀ (by norm_num), zpow_natCast]
    exact mul_lt_mul_of_pos_right (by exact_mod_cast digits) (ten_zpow_pos m)
  have place : context.place x ≤ m := by
    have := log_lt_of_lt pos below
    unfold Context.place
    omega
  unfold round
  have whole : x / 10 ^ context.place x
      = ((n * 10 ^ (m - context.place x).toNat : ℕ) : ℚ) := by
    rw [← natCast_mul_zpow place, ← value]
  rw [whole, halfEven_natCast, ← whole, div_mul_cancel₀ _ (ten_zpow_pos _).ne']

theorem zpow_le_round (low : context.eTiny ≤ m) (above : 10 ^ m ≤ x) :
    10 ^ m ≤ context.round x := by
  have pos : 0 < x := (ten_zpow_pos m).trans_le above
  have log := le_log_of_le pos above
  -- the exponent to compare with: that of the leading digit when the place lies above `m`
  obtain ⟨k, place_le, le, power⟩ : ∃ k, context.place x ≤ k ∧ m ≤ k ∧ 10 ^ k ≤ x := by
    by_cases place : context.place x ≤ m
    · exact ⟨m, place, le_rfl, above⟩
    · refine ⟨Int.log 10 x, ?_, log, zpow_log_le pos⟩
      have := context.prec_pos
      unfold Context.place at place ⊢
      omega
  have whole : (((1 * 10 ^ (k - context.place x).toNat : ℕ)) : ℚ) ≤ x / 10 ^ context.place x := by
    rw [← natCast_mul_zpow place_le, Nat.cast_one, one_mul]
    exact div_le_div_of_nonneg_right power (ten_zpow_pos _).le
  have rounded := le_halfEven_of_natCast_le whole
  calc (10 : ℚ) ^ m ≤ 10 ^ k := zpow_le_zpow_right₀ (by norm_num) le
    _ = ((1 * 10 ^ (k - context.place x).toNat : ℕ) : ℚ) * 10 ^ context.place x := by
        rw [← natCast_mul_zpow place_le, Nat.cast_one, one_mul,
          div_mul_cancel₀ _ (ten_zpow_pos _).ne']
    _ ≤ context.round x :=
        mul_le_mul_of_nonneg_right (by exact_mod_cast rounded) (ten_zpow_pos _).le

theorem round_le_zpow (nonneg : 0 ≤ x) (place : context.place x ≤ m) (below : x ≤ 10 ^ m) :
    context.round x ≤ 10 ^ m := by
  have whole : x / 10 ^ context.place x
      ≤ ((1 * 10 ^ (m - context.place x).toNat : ℕ) : ℚ) := by
    rw [← natCast_mul_zpow place, Nat.cast_one, one_mul]
    exact div_le_div_of_nonneg_right below (ten_zpow_pos _).le
  have rounded := halfEven_le_of_le_natCast (div_nonneg nonneg (ten_zpow_pos _).le) whole
  calc context.round x
      ≤ ((1 * 10 ^ (m - context.place x).toNat : ℕ) : ℚ) * 10 ^ context.place x :=
        mul_le_mul_of_nonneg_right (by exact_mod_cast rounded) (ten_zpow_pos _).le
    _ = 10 ^ m := by
        rw [← natCast_mul_zpow place, Nat.cast_one, one_mul,
          div_mul_cancel₀ _ (ten_zpow_pos _).ne']

theorem round_mono {y : ℚ} (nonneg : 0 ≤ x) (le : x ≤ y) : context.round x ≤ context.round y := by
  rcases nonneg.eq_or_lt with rfl | positive
  · rw [round_zero]
    exact round_nonneg
  have log : Int.log 10 x ≤ Int.log 10 y := Int.log_mono_right positive le
  have places : context.place x ≤ context.place y := by
    unfold place
    omega
  have unit := ten_zpow_pos (context.place x)
  rcases places.eq_or_lt with same | less
  · have units : x / 10 ^ context.place x ≤ y / 10 ^ context.place x :=
      div_le_div_of_nonneg_right le unit.le
    have rounded := halfEven_mono (div_nonneg nonneg unit.le) units
    unfold round
    rw [← same]
    exact mul_le_mul_of_nonneg_right (by exact_mod_cast rounded) unit.le
  · -- the power of ten of the greater number lies between the two
    have digits := context.prec_pos
    have lower : Int.log 10 x < Int.log 10 y ∧ context.eTiny ≤ Int.log 10 y ∧
        context.place x ≤ Int.log 10 y := by
      unfold place at less ⊢
      omega
    have below : x < 10 ^ Int.log 10 y := by
      have := (Int.lt_zpow_iff_log_lt (b := 10) (by norm_num) (x := Int.log 10 y) positive).mpr
      exact_mod_cast this lower.1
    exact (round_le_zpow nonneg lower.2.2 below.le).trans
      (zpow_le_round lower.2.1 (zpow_log_le (positive.trans_le le)))

theorem full_zpow (m : ℤ) :
    (10 : ℚ) ^ (context.prec + m : ℤ) = 10 ^ context.prec * 10 ^ m := by
  rw [zpow_add₀ (by norm_num), zpow_natCast]

end Context
end CyberLegends.Lib
