import CyberLegends.BusinessImpact.Acceptance

/-! The constraints of the impact and feedback tables: the operations write no row that breaks one. -/

namespace CyberLegends.BusinessImpact

open CyberLegends.Core Lib Context Actions Security DataAnalysis

/-! ### Constraints -/

/-- What the constraints call an acceptance at the first pass. -/
def firstPass (outputAccepted : Option Bool) (editingMinutes : Numeric 12 2) (reworkCount : ℤ) :
    Bool :=
  outputAccepted = some true ∧ editingMinutes.units = 0 ∧ reworkCount = 0

def AITaskImpactModel.checked (row : AITaskImpactModel) : Bool :=
  0 ≤ row.minutesSaved.units ∧ 0 ≤ row.automationRate.units ∧ row.automationRate.units ≤ 10 ^ 6 ∧
    (row.acceptedWithoutEditing → firstPass row.outputAccepted row.editingMinutes row.reworkCount)

def UserFeedbackModel.checked (row : UserFeedbackModel) : Bool :=
  1 ≤ row.rating ∧ row.rating ≤ 5 ∧ 0 ≤ row.editingMinutes.units ∧ 0 ≤ row.reworkCount ∧
    (row.acceptedWithoutEditing → firstPass row.outputAccepted row.editingMinutes row.reworkCount)

section
variable {precision scale : ℕ} {value : Decimal} {number : Numeric precision scale}

/-- The units that a column makes of a number. -/
def roundedUnits (scale : ℕ) (x : ℚ) : ℤ :=
  if x < 0 then -(halfUp (|x| * 10 ^ scale) : ℤ) else halfUp (|x| * 10 ^ scale)

theorem ofDecimal_eq_some : Numeric.ofDecimal value = some number
    ↔ number.units = roundedUnits scale value.toRat := by
  obtain ⟨units, fits⟩ := number
  dsimp only [Numeric.ofDecimal]
  rw [← roundedUnits]
  split
  · rename_i small
    rw [Option.some.injEq, Numeric.mk.injEq, eq_comm]
  · rename_i large
    refine iff_of_false (by simp) ?_
    rintro rfl
    exact large fits

theorem roundedUnits_of_nonneg {x : ℚ} (nonneg : 0 ≤ x) :
    roundedUnits scale x = halfUp (x * 10 ^ scale) := by
  rw [roundedUnits, if_neg (not_lt.mpr nonneg), abs_of_nonneg nonneg]

theorem ofDecimal_nonneg (keeps : Numeric.ofDecimal value = some number) (nonneg : 0 ≤ value.toRat) :
    0 ≤ number.units := by
  rw [ofDecimal_eq_some.mp keeps, roundedUnits_of_nonneg nonneg]
  exact Int.natCast_nonneg _

theorem ofDecimal_zero_units (keeps : Numeric.ofDecimal value = some number)
    (zero : value.toRat = 0) : number.units = 0 := by
  have none_up : halfUp 0 = 0 := halfUp_natCast 0
  rw [ofDecimal_eq_some.mp keeps, roundedUnits_of_nonneg zero.ge, zero, zero_mul, none_up]
  rfl

theorem toDecimal_toRat : number.toDecimal.toRat = number.units / 10 ^ scale := by
  obtain ⟨units, fits⟩ := number
  obtain ⟨n, rfl | rfl⟩ := units.eq_nat_or_neg
  · simp [Numeric.toDecimal, Decimal.toRat, zpow_neg, div_eq_mul_inv]
  · by_cases none : n = 0
    · simp [Numeric.toDecimal, Decimal.toRat, none]
    · simp [Numeric.toDecimal, Decimal.toRat, none, zpow_neg, div_eq_mul_inv]

/-- A number that a column holds is kept as it is. -/
theorem ofDecimal_toDecimal (same : value.toRat = number.toDecimal.toRat) :
    Numeric.ofDecimal value = some number := by
  have power : (0 : ℚ) < 10 ^ scale := by positivity
  rw [ofDecimal_eq_some, same, toDecimal_toRat]
  obtain ⟨units, fits⟩ := number
  obtain ⟨n, rfl | rfl⟩ := units.eq_nat_or_neg
  · have nonneg : (0 : ℚ) ≤ ((n : ℤ) : ℚ) / 10 ^ scale := by positivity
    rw [roundedUnits_of_nonneg nonneg, div_mul_cancel₀ _ power.ne', Int.cast_natCast,
      halfUp_natCast]
  · rw [Int.cast_neg, neg_div, Int.cast_natCast]
    have nonneg : (0 : ℚ) ≤ n / 10 ^ scale := by positivity
    rcases nonneg.eq_or_lt with zero | positive
    · have none : n = 0 := by
        have := (div_eq_zero_iff.mp zero.symm).resolve_right power.ne'
        exact_mod_cast this
      subst none
      have none_up : halfUp 0 = 0 := halfUp_natCast 0
      simp [roundedUnits, none_up]
    · rw [roundedUnits, if_pos (neg_lt_zero.mpr positive), abs_neg, abs_of_pos positive,
        div_mul_cancel₀ _ power.ne', halfUp_natCast]

end

/-! ### Figures that are written -/

/-- What is not less than zero, as far as it is a number. -/
theorem maxDecimal_zero {a most : Decimal} (larger : maxDecimal a Decimal.zero = .ok most) :
    0 ≤ most.toRat ∧ (most.isFinite = true ∨ ∃ negative, most = .infinity negative) := by
  simp only [maxDecimal, map_eq_ok] at larger
  obtain ⟨chosen, compared, rfl⟩ := larger
  split
  · rename_i above
    subst above
    cases a with
    | finite negative coefficient exponent =>
      have order := of_decide_eq_true (Except.ok.inj compared)
      exact ⟨Decimal.toRat_zero.symm.trans_le order, .inl rfl⟩
    | infinity negative => exact ⟨le_refl _, .inr ⟨negative, rfl⟩⟩
    | nan => cases compared
  · exact ⟨Decimal.toRat_zero.ge, .inl rfl⟩

theorem quantize_nonneg {a quantized : Decimal} {m : ℤ} (nonneg : 0 ≤ a.toRat)
    (number : a.isFinite = true ∨ ∃ negative, a = .infinity negative)
    (computes : defaultContext.quantize m a = .ok quantized) : 0 ≤ quantized.toRat := by
  obtain finite | ⟨negative, rfl⟩ := number
  · cases a with
    | finite negative coefficient exponent =>
      simp only [quantize] at computes
      split at computes
      · obtain rfl := Except.ok.inj computes
        have power := ten_zpow_pos m
        cases negative with
        | false =>
          simp only [Decimal.toRat, Bool.false_eq_true, if_false]
          positivity
        | true =>
          -- a negative number that is not less than zero is zero
          have none_up : halfUp 0 = 0 := halfUp_natCast 0
          have magnitude : (coefficient : ℚ) * 10 ^ exponent = 0 := by
            have least : (0 : ℚ) ≤ coefficient * 10 ^ exponent :=
              mul_nonneg (Nat.cast_nonneg _) (ten_zpow_pos _).le
            simp only [Decimal.toRat, if_true] at nonneg
            linarith
          simp [Decimal.toRat, magnitude, none_up]
      · cases computes
    | infinity => cases finite
    | nan => cases finite
  · cases computes

/-- Minutes that are saved are not negative. -/
theorem minutesSaved_nonneg {manual ai saved : Decimal}
    (computes : minutesSaved manual ai = .ok saved) : 0 ≤ saved.toRat := by
  simp only [minutesSaved, bind_eq_ok] at computes
  obtain ⟨difference, -, most, larger, quantized⟩ := computes
  obtain ⟨nonneg, number⟩ := maxDecimal_zero larger
  exact quantize_nonneg nonneg number quantized

/-- A rate of automation is at most one, in millionths. -/
theorem automationRate_le {automatedSteps stepsBefore : ℤ} {rate : Decimal}
    (computes : automationRate automatedSteps stepsBefore = .ok rate) :
    ∃ units ≤ 10 ^ 6, rate = .finite false units (-6) := by
  obtain ⟨steps, count⟩ : ∃ n : ℕ, max automatedSteps 0 = n := ⟨_, (Int.toNat_eq_max _).symm⟩
  obtain ⟨before, total⟩ : ∃ n : ℕ, max stepsBefore 1 = n :=
    ⟨(max stepsBefore 1).toNat, by omega⟩
  have whole : halfUp (((1 : ℕ) : ℚ) / 10 ^ (-6 : ℤ)) = 10 ^ 6 := by
    have units := natCast_mul_zpow (n := 1) (m := 0) (e := -6) (by decide)
    rw [zpow_zero, mul_one] at units
    rw [units, halfUp_natCast]
    rfl
  have few : ∀ x : ℚ, x ≤ 1 → halfUp (x / 10 ^ (-6 : ℤ)) ≤ 10 ^ 6 := by
    intro x most
    rw [← whole]
    refine halfUp_mono (div_le_div_of_nonneg_right ?_ (ten_zpow_pos _).le)
    rwa [Nat.cast_one]
  unfold automationRate at computes
  rw [count, total, ofInt_natCast, ofInt_natCast, div_natCast (by omega)] at computes
  have nonneg : (0 : ℚ) ≤ steps / before := by positivity
  rcases defaultContext.finish_cases nonneg false 0 with
    ⟨coefficient, exponent, answered, -, -⟩ | ⟨exceeds, -⟩
  · rw [answered, ok_bind] at computes
    simp only [minDecimal, one, Decimal.le, Except.map, ok_bind, Decimal.toRat, Bool.false_eq_true,
      if_false, decide_eq_true_eq] at computes
    split at computes
    · rename_i most
      have one_at_most : (coefficient : ℚ) * 10 ^ exponent ≤ 1 := by simpa using most
      rw [quantize_ok (one_at_most.trans (by norm_num)) (by decide) (by decide)] at computes
      exact ⟨_, few _ one_at_most, (Except.ok.inj computes).symm⟩
    · rw [quantize_ok (by norm_num) (by decide) (by decide)] at computes
      exact ⟨_, few _ (by norm_num), (Except.ok.inj computes).symm⟩
  · rw [exceeds] at computes
    cases computes

/-! ### Rows that are written -/

section
variable {fields : AcceptanceFields} {checks : List (String × Bool)} {now : Timestamp}
  {editing : Numeric 12 2} {rework : ℤ}

theorem validate_fields (valid : fields.validate checks = .ok ()) :
    0 ≤ fields.editingMinutes.toRat ∧ 0 ≤ fields.reworkCount := by
  unfold AcceptanceFields.validate at valid
  split at valid
  · rename_i passed
    have each := fun check member =>
      failedFields_eq_nil.mp passed check (List.mem_append_left checks member)
    have minutes := each ("editing_minutes", amount fields.editingMinutes) (by
      simp [AcceptanceFields.checks])
    have count := each ("rework_count", 0 ≤ fields.reworkCount) (by simp [AcceptanceFields.checks])
    exact ⟨(of_decide_eq_true minutes).2, by simpa using count⟩
  · cases valid

/-- What a request says of the first pass is so of the columns. -/
theorem firstPass_columns (valid : fields.validateAcceptance = .ok ())
    (minutes : Numeric.ofDecimal fields.editingMinutes = some editing)
    (count : integer fields.reworkCount = some rework)
    (unedited : fields.acceptedWithoutEditing = true) :
    firstPass fields.outputAccepted editing rework = true := by
  obtain ⟨output, zero, none⟩ := validateAcceptance_ok valid unedited
  have units := ofDecimal_zero_units minutes zero
  have same := integer_eq_some count
  simp [firstPass, output, units, same, none]

theorem feedbackModel_checked {task : AppliedWorkflowTaskModel} {data : UserFeedbackCreate}
    {version : ℤ × Timestamp} {row : UserFeedbackModel} (valid : data.validate = .ok ())
    (made : Store.feedbackModel task data version = .ok row) : row.checked = true := by
  have rated := feedbackModel_rating valid made
  obtain ⟨nonneg, count⟩ := validate_fields valid
  simp only [Store.feedbackModel, bind_eq_ok, pure_eq_ok, kept_eq_ok] at made
  obtain ⟨editing, minutes, rework, counted, kept, -, rfl⟩ := made
  have units := ofDecimal_nonneg minutes nonneg
  have same := integer_eq_some counted
  have first := firstPass_columns (validate_ok valid).1 minutes counted
  simp only [UserFeedbackModel.checked, decide_eq_true_eq]
  exact ⟨rated.1, rated.2, units, same ▸ count, first⟩

/-- The version and the time of a feedback row are those that it was given. -/
theorem feedbackModel_version {task : AppliedWorkflowTaskModel} {data : UserFeedbackCreate}
    {version : ℤ × Timestamp} {row : UserFeedbackModel}
    (made : Store.feedbackModel task data version = .ok row) :
    row.version = version.1 ∧ row.createdAt = version.2 := by
  simp only [Store.feedbackModel, bind_eq_ok, pure_eq_ok, kept_eq_ok] at made
  obtain ⟨editing, -, rework, -, kept, keeps, rfl⟩ := made
  exact ⟨integer_eq_some keeps, rfl⟩

variable {store store' : Store} {taskRunId : Uuid} {actor : AuthenticatedActor}

theorem computed_eq_ok {x : Except Signal Decimal} {value : Decimal} :
    computed x = .ok value ↔ x = .ok value := by
  cases x with
  | error signal => simp [computed]
  | ok value' => simp [computed]

theorem impactModel_checked {task : AppliedWorkflowTaskModel} {data : TaskImpactCreate}
    {manualDuration aiDuration : Decimal} {provenance : String × String}
    {row : AITaskImpactModel} (valid : data.toAcceptanceFields.validateAcceptance = .ok ())
    (made : Store.impactModel now task data manualDuration aiDuration provenance
      (store.knownAcceptance taskRunId data.outputAccepted) = .ok row) : row.checked = true := by
  simp only [Store.impactModel, bind_eq_ok, pure_eq_ok, kept_eq_ok] at made
  obtain ⟨saved, saves, rate, rates, manual, -, ai, -, before, -, after, -, steps, -, editing,
    minutes, rework, count, errors, -, units, keeps, automation, shows, rfl⟩ := made
  have least : 0 ≤ units.units :=
    ofDecimal_nonneg keeps (minutesSaved_nonneg (computed_eq_ok.mp saves))
  obtain ⟨millionths, most, rfl⟩ := automationRate_le (computed_eq_ok.mp rates)
  have share : automation.units = millionths := by
    rw [ofDecimal_eq_some.mp shows, toRat_millionths, roundedUnits_of_nonneg (by positivity),
      div_mul_cancel₀ _ (by positivity), halfUp_natCast]
  have first : data.acceptedWithoutEditing = true →
      firstPass (store.knownAcceptance taskRunId data.outputAccepted) editing rework = true := by
    intro unedited
    have passed := firstPass_columns valid minutes count unedited
    have accepted := (validateAcceptance_ok valid unedited).1
    have known : store.knownAcceptance taskRunId data.outputAccepted = data.outputAccepted := by
      simp only [Store.knownAcceptance, accepted]
    rwa [known]
  simp only [AITaskImpactModel.checked, decide_eq_true_eq]
  exact ⟨least, by omega, by omega, first⟩

/-- A record adds a row that meets the constraints, and leaves the rest as it is. -/
theorem recordImpact_cases {data : TaskImpactCreate}
    (recorded : store.recordImpact now taskRunId data actor = .ok store') :
    ∃ row, row.checked = true ∧
      store' = { store with impacts := store.impacts.insert taskRunId row } := by
  simp only [Store.recordImpact, bind_eq_ok] at recorded
  obtain ⟨⟨⟩, valid, task, -, -, -, manual, -, ai, -, provenance, -, row, made, created⟩ := recorded
  have checked := impactModel_checked (validate_ok valid).1 made
  unfold Store.createImpact at created
  split at created
  · cases created
  · exact ⟨row, checked, (Except.ok.inj created).symm⟩

theorem reviewed_checked {impact : AITaskImpactModel} (decision : ReviewDecision)
    (checked : impact.checked = true) : (Store.reviewed decision impact).checked = true := by
  simp only [AITaskImpactModel.checked, firstPass, Store.reviewed, decide_eq_true_eq,
    Bool.and_eq_true, Option.some.injEq] at checked ⊢
  obtain ⟨saved, least, most, first⟩ := checked
  refine ⟨saved, least, most, ?_⟩
  rintro ⟨approves, was⟩
  exact ⟨approves, (first was).2⟩

end
end CyberLegends.BusinessImpact
