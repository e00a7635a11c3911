import CyberLegends.DataAnalysis.Processor

/-! The figures of the business impact: minutes saved, and rates in six places. -/

namespace CyberLegends.BusinessImpact

open CyberLegends.Lib Context DataAnalysis

/-! ### The calculator -/

def ofInt (n : ℤ) : Decimal := .finite (decide (n < 0)) n.natAbs 0

def one : Decimal := .finite false 1 0

/-- The first of two numbers unless the second is greater. -/
def maxDecimal (a b : Decimal) : Except Signal Decimal :=
  (b.le a).map fun most => if most then a else b

/-- The first of two numbers unless the second is less. -/
def minDecimal (a b : Decimal) : Except Signal Decimal :=
  (a.le b).map fun least => if least then a else b

def minutesSaved (manualMinutes aiMinutes : Decimal) : Except Signal Decimal := do
  let saved ← defaultContext.sub manualMinutes aiMinutes
  let saved ← maxDecimal saved Decimal.zero
  defaultContext.quantize (-2) saved

def automationRate (automatedSteps stepsBefore : ℤ) : Except Signal Decimal := do
  let value ← defaultContext.div (ofInt (max automatedSteps 0))
    (ofInt (max stepsBefore 1))
  let value ← minDecimal value one
  defaultContext.quantize (-6) value

def ratio (numerator denominator : ℤ) : Except Signal Decimal :=
  if denominator ≤ 0 then defaultContext.quantize (-6) Decimal.zero
  else
    defaultContext.div (ofInt (max numerator 0)) (ofInt denominator) >>=
      defaultContext.quantize (-6)

def firstPassAcceptanceRate (accepted completed : ℤ) : Except Signal Decimal :=
  ratio accepted completed

def revisionRate (tasksWithRework completed : ℤ) : Except Signal Decimal :=
  ratio tasksWithRework completed

def errorRate (tasksWithErrors completed : ℤ) : Except Signal Decimal :=
  ratio tasksWithErrors completed

def wouldUseAgainRate (positive feedbackCount : ℤ) : Except Signal Decimal :=
  ratio positive feedbackCount

def userSatisfaction (ratings : List ℤ) : Except Signal Decimal :=
  if ratings = [] then defaultContext.quantize (-2) Decimal.zero
  else
    defaultContext.div (ofInt ratings.sum) (ofInt ratings.length) >>=
      defaultContext.quantize (-2)

/-! ### What the figures are -/

/-- The units of `10 ^ m` that a quotient is shown with. -/
def unitsOf (m : ℤ) (x : ℚ) : ℕ := halfUp (defaultContext.round x / 10 ^ m)

section
variable {m : ℤ} {x y : ℚ} {n d : ℕ}

theorem unitsOf_mono (nonneg : 0 ≤ x) (le : x ≤ y) : unitsOf m x ≤ unitsOf m y :=
  halfUp_mono (div_le_div_of_nonneg_right (round_mono nonneg le) (ten_zpow_pos m).le)

/-- A whole number of few digits is shown as it is. -/
theorem unitsOf_natCast (low : m ≤ 0) (digits : n < 10 ^ 28) :
    unitsOf m n = n * 10 ^ (-m).toNat := by
  have whole : defaultContext.round (n : ℚ) = n :=
    round_eq_self (m := 0) (by simp) (by decide) digits
  have units := natCast_mul_zpow (n := n) (m := 0) (e := m) low
  rw [zpow_zero, mul_one, zero_sub] at units
  rw [unitsOf, whole, units, halfUp_natCast]

@[simp] theorem ofInt_natCast (n : ℕ) : ofInt n = .finite false n 0 := by
  simp [ofInt]

/-- A number that is at most ten has an answer in so few places. -/
theorem quantize_ok {negative : Bool} {coefficient : ℕ} {exponent : ℤ}
    (small : (coefficient : ℚ) * 10 ^ exponent ≤ 10) (least : -6 ≤ m) (most : m ≤ 0) :
    defaultContext.quantize m (.finite negative coefficient exponent)
      = .ok (.finite negative (halfUp (coefficient * 10 ^ exponent / 10 ^ m)) m) := by
  have units : halfUp (coefficient * 10 ^ exponent / 10 ^ m) ≤ 10 ^ 7 := by
    have whole := natCast_mul_zpow (n := 10) (m := 0) (e := m) most
    rw [zpow_zero, mul_one, zero_sub] at whole
    calc halfUp (coefficient * 10 ^ exponent / 10 ^ m)
        ≤ halfUp ((10 * 10 ^ (-m).toNat : ℕ) : ℚ) := by
          rw [← whole]
          exact halfUp_mono (div_le_div_of_nonneg_right small (ten_zpow_pos m).le)
      _ = 10 * 10 ^ (-m).toNat := halfUp_natCast _
      _ ≤ 10 * 10 ^ 6 := Nat.mul_le_mul_left _ (Nat.pow_le_pow_right (by decide) (by omega))
      _ = 10 ^ 7 := by norm_num
  have log : Nat.log 10 (halfUp (coefficient * 10 ^ exponent / 10 ^ m)) ≤ 7 :=
    (Nat.log_mono_right units).trans_eq (Nat.log_pow (by decide) 7)
  have tiny : defaultContext.eTiny = -1000026 := by decide
  have greatest : defaultContext.eMax = 999999 := rfl
  have digits : halfUp (coefficient * 10 ^ exponent / 10 ^ m) < 10 ^ defaultContext.prec :=
    units.trans_lt (Nat.pow_lt_pow_right (by decide) (by decide))
  exact if_pos ⟨by omega, by omega, digits, by omega⟩

theorem div_natCast (positive : 0 < d) :
    defaultContext.div (.finite false n 0) (.finite false d 0)
      = defaultContext.finish false (n / d) 0 := by
  simp [div, positive.ne']

/-- So has a quotient. -/
theorem quotient_ok (positive : 0 < d) (small : n ≤ 10 * d) (least : -6 ≤ m) (most : m ≤ 0) :
    (defaultContext.div (.finite false n 0) (.finite false d 0) >>= defaultContext.quantize m)
      = .ok (.finite false (unitsOf m (n / d)) m) := by
  have nonneg : (0 : ℚ) ≤ n / d := by positivity
  have ten : (n / d : ℚ) ≤ (10 : ℕ) := by
    rw [div_le_iff₀ (by exact_mod_cast positive)]
    exact_mod_cast small
  have whole : defaultContext.round ((10 : ℕ) : ℚ) = (10 : ℕ) :=
    round_eq_self (m := 0) (n := 10) (by simp) (by decide) (by decide)
  have rounded := (defaultContext.round_mono nonneg ten).trans_eq whole
  have small : defaultContext.round (n / d) < 10 ^ (defaultContext.eMax + 1) := by
    refine rounded.trans_lt ?_
    calc (((10 : ℕ) : ℚ)) = 10 ^ (1 : ℤ) := by norm_num
      _ < 10 ^ (defaultContext.eMax + 1) := zpow_lt_zpow_right₀ (by norm_num) (by decide)
  obtain ⟨coefficient, exponent, answered, value⟩ :=
    defaultContext.finish_ok nonneg small false 0
  rw [div_natCast positive, answered, ok_bind, quantize_ok (value.trans_le rounded) least most, value]
  rfl

/-- The rate of a task is a number unless a count is too great to divide. -/
theorem automationRate_bounded (automatedSteps stepsBefore : ℤ) :
    Bounded (automationRate automatedSteps stepsBefore) := by
  obtain ⟨steps, count⟩ : ∃ n : ℕ, max automatedSteps 0 = n := ⟨_, (Int.toNat_eq_max _).symm⟩
  obtain ⟨before, total⟩ : ∃ n : ℕ, max stepsBefore 1 = n :=
    ⟨(max stepsBefore 1).toNat, by omega⟩
  unfold automationRate
  rw [count, total, ofInt_natCast, ofInt_natCast]
  have nonneg : (0 : ℚ) ≤ steps / before := by positivity
  rw [div_natCast (by omega)]
  rcases defaultContext.finish_cases nonneg false 0 with
    ⟨coefficient, exponent, answered, -, -⟩ | ⟨exceeds, -⟩
  · rw [answered, ok_bind]
    simp only [minDecimal, one, Decimal.le, Except.map, ok_bind, Decimal.toRat, Bool.false_eq_true,
      if_false, decide_eq_true_eq]
    split
    next most =>
      rw [quantize_ok (most.trans (by norm_num)) (by decide) (by decide)]
      exact .inl ⟨_, rfl, rfl⟩
    next =>
      rw [quantize_ok (by norm_num) (by decide) (by decide)]
      exact .inl ⟨_, rfl, rfl⟩
  · rw [exceeds]
    exact .inr rfl

end
end CyberLegends.BusinessImpact
