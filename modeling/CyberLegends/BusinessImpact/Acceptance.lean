import CyberLegends.BusinessImpact.Service

/-! What is accepted without editing was accepted and was not edited, whatever is recorded, and the rates
of acceptance keep to their order. -/

namespace CyberLegends.BusinessImpact

open CyberLegends.Core Lib Context Actions Security DataAnalysis

/-- What a row says that was accepted without editing. -/
def AITaskImpactModel.Accepted (row : AITaskImpactModel) : Prop :=
  row.acceptedWithoutEditing →
    row.outputAccepted = some true ∧ row.editingMinutes.toDecimal.toRat = 0 ∧ row.reworkCount = 0

structure Store.Sound (store : Store) : Prop where
  impacts : store.impacts.All fun _ row => row.Accepted
  feedback : store.feedback.All fun _ row => 1 ≤ row.rating ∧ row.rating ≤ 5

/-! ### Requests that are accepted -/

section
variable {α : Type} {fields : AcceptanceFields} {checks : List (String × Bool)}

theorem kept_eq_ok {x : Option α} {a : α} : kept x = .ok a ↔ x = some a := by
  cases x with
  | none => simp [kept]
  | some b => simp [kept]

theorem integer_eq_some {n m : ℤ} (keeps : integer n = some m) : m = n := by
  unfold integer at keeps
  split at keeps
  · exact (Option.some.inj keeps).symm
  · cases keeps

theorem failedFields_eq_nil : failedFields checks = [] ↔ ∀ check ∈ checks, check.2 = true := by
  simp [failedFields, List.filter_eq_nil_iff]

/-- A request that says that nothing was edited says that the output was accepted. -/
theorem validateAcceptance_ok (valid : fields.validateAcceptance = .ok ())
    (unedited : fields.acceptedWithoutEditing = true) :
    fields.outputAccepted = some true ∧ fields.editingMinutes.toRat = 0 ∧
      fields.reworkCount = 0 := by
  unfold AcceptanceFields.validateAcceptance at valid
  rw [if_pos unedited] at valid
  split at valid
  · cases valid
  next accepted =>
    split at valid
    · cases valid
    next zero =>
      obtain ⟨editing, rework⟩ := not_or.mp zero
      exact ⟨not_not.mp accepted, not_not.mp editing, not_not.mp rework⟩

theorem validate_ok (valid : fields.validate checks = .ok ()) :
    fields.validateAcceptance = .ok () ∧ ∀ check ∈ checks, check.2 = true := by
  unfold AcceptanceFields.validate at valid
  split at valid
  next passed =>
    refine ⟨valid, fun check member => ?_⟩
    exact failedFields_eq_nil.mp passed check (List.mem_append_right _ member)
  · cases valid

variable {precision scale : ℕ}

theorem toDecimal_zero {number : Numeric precision scale} (zero : number.units = 0) :
    number.toDecimal.toRat = 0 := by
  simp [Numeric.toDecimal, Decimal.toRat, zero]

theorem ofDecimal_zero {value : Decimal} {number : Numeric precision scale}
    (zero : value.toRat = 0) (keeps : Numeric.ofDecimal value = some number) :
    number.toDecimal.toRat = 0 := by
  have none_up : halfUp 0 = 0 := halfUp_natCast 0
  unfold Numeric.ofDecimal at keeps
  simp only [zero, abs_zero, zero_mul, none_up, lt_irrefl, if_false] at keeps
  split at keeps
  · exact toDecimal_zero (by rw [← Option.some.inj keeps]; rfl)
  · cases keeps

end

/-! ### What each operation keeps -/

section
variable {store store' : Store} {now : Timestamp} {taskRunId : Uuid} {actor : AuthenticatedActor}

/-- The rows of an accepted request. -/
theorem accepted_row {fields : AcceptanceFields} {row : AITaskImpactModel}
    (valid : fields.validateAcceptance = .ok ())
    (flag : row.acceptedWithoutEditing = fields.acceptedWithoutEditing)
    (accepted : fields.outputAccepted = some true → row.outputAccepted = some true)
    (editing : Numeric.ofDecimal fields.editingMinutes = some row.editingMinutes)
    (rework : integer fields.reworkCount = some row.reworkCount) : row.Accepted := by
  intro unedited
  obtain ⟨output, zero, none⟩ := validateAcceptance_ok valid (flag ▸ unedited)
  exact ⟨accepted output, ofDecimal_zero zero editing, (integer_eq_some rework).trans none⟩

theorem impactModel_accepted {task : AppliedWorkflowTaskModel} {data : TaskImpactCreate}
    {manualDuration aiDuration : Decimal} {provenance : String × String}
    {row : AITaskImpactModel} (valid : data.toAcceptanceFields.validateAcceptance = .ok ())
    (made : Store.impactModel now task data manualDuration aiDuration provenance
      (store.knownAcceptance taskRunId data.outputAccepted) = .ok row) : row.Accepted := by
  simp only [Store.impactModel, bind_eq_ok, pure_eq_ok, kept_eq_ok] at made
  obtain ⟨saved, -, rate, -, manual, -, ai, -, before, -, after, -, steps, -, editing, editing_eq,
    rework, rework_eq, errors, -, minutes, -, automation, -, rfl⟩ := made
  refine accepted_row valid rfl (fun accepted => ?_) editing_eq rework_eq
  simp only [Store.knownAcceptance, accepted]

theorem Store.Sound.recordImpact {data : TaskImpactCreate} (sound : store.Sound)
    (recorded : store.recordImpact now taskRunId data actor = .ok store') : store'.Sound := by
  simp only [Store.recordImpact, bind_eq_ok] at recorded
  obtain ⟨⟨⟩, valid, task, -, -, -, manual, -, ai, -, provenance, -, row, made, created⟩ := recorded
  have accepted := impactModel_accepted (validate_ok valid).1 made
  unfold Store.createImpact at created
  split at created
  · cases created
  · cases created
    exact { sound with impacts := sound.impacts.insert accepted }

theorem accept_accepted {data : UserFeedbackCreate} {impact row : AITaskImpactModel}
    (valid : data.toAcceptanceFields.validateAcceptance = .ok ())
    (accepts : Store.accept data impact = .ok row) : row.Accepted := by
  simp only [Store.accept, bind_eq_ok, pure_eq_ok, kept_eq_ok] at accepts
  obtain ⟨editing, editing_eq, rework, rework_eq, rfl⟩ := accepts
  exact accepted_row valid rfl id editing_eq rework_eq

theorem Store.Sound.acceptImpact {data : UserFeedbackCreate} (sound : store.Sound)
    (valid : data.toAcceptanceFields.validateAcceptance = .ok ())
    {impacts : Table Uuid AITaskImpactModel}
    (accepts : store.acceptImpact taskRunId data = .ok impacts) :
    impacts.All fun _ row => row.Accepted := by
  unfold Store.acceptImpact at accepts
  split at accepts
  · obtain ⟨row, accepted, rfl⟩ := map_eq_ok.mp accepts
    exact sound.impacts.insert (accept_accepted valid accepted)
  · cases accepts
    exact sound.impacts

theorem feedbackModel_rating {task : AppliedWorkflowTaskModel} {data : UserFeedbackCreate}
    {version : ℤ × Timestamp} {row : UserFeedbackModel} (valid : data.validate = .ok ())
    (made : Store.feedbackModel task data version = .ok row) : 1 ≤ row.rating ∧ row.rating ≤ 5 := by
  have rated := (validate_ok valid).2 ("rating", score data.rating) List.mem_cons_self
  simp only [Store.feedbackModel, bind_eq_ok, pure_eq_ok] at made
  obtain ⟨editing, -, rework, -, kept, -, rfl⟩ := made
  simpa [score] using rated

theorem Store.Sound.recordFeedback {data : UserFeedbackCreate} (sound : store.Sound)
    (recorded : store.recordFeedback now taskRunId data actor = .ok store') : store'.Sound := by
  simp only [Store.recordFeedback, bind_eq_ok, pure_eq_ok] at recorded
  obtain ⟨⟨⟩, valid, task, -, impacts, accepts, version, -, row, made, rfl⟩ := recorded
  exact {
    impacts := sound.acceptImpact (validate_ok valid).1 accepts
    feedback := sound.feedback.insert (feedbackModel_rating valid made) }

/-- A review leaves the flag only with the acceptance. -/
theorem reviewed_accepted {decision : ReviewDecision} {impact : AITaskImpactModel}
    (accepted : impact.Accepted) : (Store.reviewed decision impact).Accepted := by
  intro unedited
  obtain ⟨approves, was⟩ := Bool.and_eq_true_iff.mp unedited
  obtain ⟨-, editing, rework⟩ := accepted was
  exact ⟨congrArg some approves, editing, rework⟩

theorem Store.Sound.review {assetId : Uuid} {data : MediaReviewRequest} (sound : store.Sound)
    (recorded : store.review assetId data actor = .ok store') : store'.Sound := by
  simp only [Store.review, bind_eq_ok, pure_eq_ok] at recorded
  obtain ⟨-, -, -, -, asset, -, status, -, reviews, -, rfl⟩ := recorded
  refine { feedback := sound.feedback, impacts := ?_ }
  show Table.All _ (store.reviewImpact asset data.decision)
  unfold Store.reviewImpact
  split
  · exact sound.impacts
  · split
    · exact sound.impacts
    next impact found =>
      exact sound.impacts.insert (reviewed_accepted (sound.impacts _ impact found))

theorem Store.Sound.answer (sound : store.Sound) {event : ImpactEvent}
    (answered : store.answer event = .ok store') : store'.Sound := by
  cases event with
  | recordImpact => exact sound.recordImpact answered
  | recordFeedback => exact sound.recordFeedback answered
  | review => exact sound.review answered
  | others =>
    cases answered
    exact { impacts := sound.impacts, feedback := sound.feedback }

end

theorem Store.Sound.step {store : Store} (sound : store.Sound) (event : ImpactEvent) :
    (businessImpact.step store event).Sound := by
  show ((store.answer event).toOption.getD store).Sound
  cases answered : store.answer event with
  | error => exact sound
  | ok store' => exact sound.answer answered

theorem reachable_sound {store : Store} (reachable : businessImpact.Reachable store) :
    store.Sound :=
  reachable.holds { impacts := Table.All.empty, feedback := Table.All.empty }
    fun _ event sound => sound.step event

/-! ### Figures -/

section
variable {m : ℤ} {n d : ℕ} {values : List Decimal}

theorem quantize_zero (least : -6 ≤ m) (most : m ≤ 0) :
    defaultContext.quantize m Decimal.zero = .ok (.finite false 0 m) := by
  have none_up : halfUp 0 = 0 := halfUp_natCast 0
  have tiny : defaultContext.eTiny = -1000026 := by decide
  have greatest : defaultContext.eMax = 999999 := rfl
  have fits : defaultContext.eTiny ≤ m ∧ m ≤ defaultContext.eMax ∧ 0 < 10 ^ defaultContext.prec ∧
      m + Nat.log 10 0 ≤ defaultContext.eMax := by
    refine ⟨by omega, by omega, Nat.pow_pos (by decide), ?_⟩
    rw [Nat.log_zero_right]
    omega
  simp only [quantize, Decimal.zero, Nat.cast_zero, zero_mul, zero_div, none_up]
  exact if_pos fits

/-- A ratio of counts in millionths. -/
def millionths (n d : ℕ) : ℕ := if d = 0 then 0 else unitsOf (-6) (n / d)

theorem ratio_ok (le : n ≤ d) : ratio n d = .ok (.finite false (millionths n d) (-6)) := by
  unfold ratio millionths
  by_cases none : d = 0
  · rw [if_pos (by omega), if_pos none, quantize_zero (by decide) (by decide)]
  · have positive : 0 < d := Nat.pos_of_ne_zero none
    rw [if_neg (by omega), if_neg none, max_eq_left (Int.natCast_nonneg n), ofInt_natCast,
      ofInt_natCast, quotient_ok positive (by omega) (by decide) (by decide)]

theorem millionths_le (le : n ≤ d) : millionths n d ≤ 10 ^ 6 := by
  unfold millionths
  split
  · exact Nat.zero_le _
  next some =>
    have positive : (0 : ℚ) < d := by exact_mod_cast Nat.pos_of_ne_zero some
    have most : (n / d : ℚ) ≤ (1 : ℕ) := by
      rw [div_le_iff₀ positive]
      exact_mod_cast (by omega : n ≤ 1 * d)
    refine (unitsOf_mono (by positivity) most).trans ?_
    rw [unitsOf_natCast (by decide) (by decide)]
    decide

theorem millionths_mono {n' : ℕ} (le : n ≤ n') : millionths n d ≤ millionths n' d := by
  unfold millionths
  split
  · exact le_refl _
  · refine unitsOf_mono (by positivity) (div_le_div_of_nonneg_right ?_ (Nat.cast_nonneg d))
    exact_mod_cast le

theorem toRat_millionths (units : ℕ) :
    (Decimal.finite false units (-6)).toRat = units / 10 ^ 6 := by
  simp [Decimal.toRat, div_eq_mul_inv, zpow_neg]

theorem ratio_bounded (le : n ≤ d) : Bounded (ratio n d) := .inl ⟨_, ratio_ok le, rfl⟩

end

/-- Ratings keep their mean to two places. -/
theorem userSatisfaction_bounded {ratings : List ℤ}
    (scored : ∀ rating ∈ ratings, 1 ≤ rating ∧ rating ≤ 5) : Bounded (userSatisfaction ratings) := by
  unfold userSatisfaction
  by_cases none : ratings = []
  · rw [if_pos none, quantize_zero (by decide) (by decide)]
    exact .inl ⟨_, rfl, rfl⟩
  · have total : 0 ≤ ratings.sum ∧ ratings.sum ≤ 5 * ratings.length := by
      clear none
      induction ratings with
      | nil => exact ⟨le_refl _, le_refl _⟩
      | cons rating ratings ih =>
        obtain ⟨here, later⟩ := List.forall_mem_cons.mp scored
        obtain ⟨least, most⟩ := ih later
        rw [List.sum_cons, List.length_cons]
        omega
    obtain ⟨n, count⟩ : ∃ n : ℕ, ratings.sum = n := ⟨ratings.sum.toNat, by omega⟩
    have some : 0 < ratings.length := List.length_pos_iff.mpr none
    rw [if_neg none, count, ofInt_natCast, ofInt_natCast,
      quotient_ok some (by omega) (by decide) (by decide)]
    exact .inl ⟨_, rfl, rfl⟩

section
variable {impacts : List (Uuid × AITaskImpactModel)} {feedback : List UserFeedbackModel}

theorem averageAutomation_bounded : Bounded (averageAutomation impacts) := by
  unfold averageAutomation
  by_cases none : impacts = []
  · rw [if_pos none]
    exact .inl ⟨_, rfl, rfl⟩
  · rw [if_neg none]
    have finite : ∀ d ∈ impacts.map (·.2.automationRate.toDecimal), d.isFinite := fun d member => by
      obtain ⟨entry, -, rfl⟩ := List.mem_map.mp member
      rfl
    have some : impacts.length ≠ 0 := fun empty => none (List.length_eq_zero_iff.mp empty)
    rcases defaultContext.sum_bounded finite with ⟨total, added, number⟩ | exceeds
    · rw [added, ofInt_natCast]
      exact defaultContext.div_bounded number some
    · rw [exceeds]
      exact .inr rfl

/-- Nothing but a sum that is too great keeps the figures from an answer. -/
theorem figures_error {signal : Signal}
    (scored : ∀ row ∈ feedback, 1 ≤ row.rating ∧ row.rating ≤ 5)
    (error : figures impacts feedback = .error signal) : signal = .overflow := by
  have finite {precision scale : ℕ} (column : AITaskImpactModel → Numeric precision scale) :
      Bounded (defaultContext.sum (impacts.map fun entry => (column entry.2).toDecimal)) := by
    refine defaultContext.sum_bounded fun d member => ?_
    obtain ⟨entry, -, rfl⟩ := List.mem_map.mp member
    rfl
  have ratings : ∀ rating ∈ feedback.map (·.rating), 1 ≤ rating ∧ rating ≤ 5 := by
    intro rating member
    obtain ⟨row, there, rfl⟩ := List.mem_map.mp member
    exact scored row there
  unfold figures at error
  refine (finite (·.minutesSaved)).bind (fun _ => ?_) error
  refine (finite (·.estimatedCost)).bind fun _ => ?_
  refine averageAutomation_bounded.bind fun _ => ?_
  refine (ratio_bounded List.countP_le_length).bind fun _ => ?_
  refine (ratio_bounded List.countP_le_length).bind fun _ => ?_
  refine (ratio_bounded List.countP_le_length).bind fun _ => ?_
  refine (ratio_bounded List.countP_le_length).bind fun _ => ?_
  refine (ratio_bounded List.countP_le_length).bind fun _ => ?_
  refine (userSatisfaction_bounded ratings).bind fun _ => ?_
  refine (ratio_bounded List.countP_le_length).bind fun _ answered => ?_
  cases answered

theorem figures_acceptance {report : BusinessImpactAnalytics}
    (answered : figures impacts feedback = .ok report) :
    humanAcceptance impacts = .ok report.humanAcceptanceRate ∧
      firstPassAcceptance impacts = .ok report.firstPassAcceptanceRate := by
  simp only [figures, bind_eq_ok, pure_eq_ok] at answered
  obtain ⟨minutes, -, cost, -, automation, -, success, -, human, human_eq, first, first_eq,
    revision, -, errors, -, satisfaction, -, again, -, rfl⟩ := answered
  exact ⟨human_eq, first_eq⟩

/-- What was accepted without editing is among what was accepted. -/
theorem acceptance_order (accepted : ∀ entry ∈ impacts, entry.2.Accepted) :
    ∃ firstPass human : ℕ, firstPass ≤ human ∧ human ≤ 10 ^ 6 ∧
      firstPassAcceptance impacts = .ok (.finite false firstPass (-6)) ∧
      humanAcceptance impacts = .ok (.finite false human (-6)) := by
  have fewer : (withKnownAcceptance impacts).countP (·.2.acceptedWithoutEditing)
      ≤ (withKnownAcceptance impacts).countP (·.2.outputAccepted = some true) := by
    refine List.countP_mono_left fun entry member unedited => ?_
    have there : entry ∈ impacts := (List.mem_filter.mp member).1
    exact decide_eq_true (accepted entry there unedited).1
  have known : (withKnownAcceptance impacts).countP (·.2.outputAccepted = some true)
      ≤ (withKnownAcceptance impacts).length := List.countP_le_length
  exact ⟨_, _, millionths_mono fewer, millionths_le known, ratio_ok (fewer.trans known),
    ratio_ok known⟩

end

theorem mem_listImpacts {store : Store} {filter : AnalyticsFilter}
    {entry : Uuid × AITaskImpactModel} (member : entry ∈ store.listImpacts filter) :
    store.impacts.lookup entry.1 = some entry.2 := by
  have listed := ((List.perm_insertionSort _ _).mem_iff.mp member)
  obtain ⟨row, there, rfl⟩ := List.mem_map.mp (List.mem_filter.mp listed).1
  exact AList.mem_lookup_iff.mpr there

theorem mem_listFeedback {store : Store} {filter : AnalyticsFilter} {row : UserFeedbackModel}
    (member : row ∈ store.listFeedback filter) : ∃ key, store.feedback.lookup key = some row := by
  obtain ⟨entry, there, rfl⟩ := List.mem_map.mp (List.mem_filter.mp member).1
  exact ⟨entry.1, AList.mem_lookup_iff.mpr there⟩

/-- Whatever is recorded and reviewed in whatever order: a row that says that nothing was edited says that
the output was accepted and that there was neither editing nor rework. The rates of acceptance of the
rows that a filter admits are finite numbers, in order between zero and one, and nothing is divided
by zero: no figure signals anything but a result that is too great. -/
theorem acceptance_laws (events : List ImpactEvent) (filter : AnalyticsFilter) :
    let store := businessImpact.run businessImpact.init events
    (∀ taskRunId row, store.impacts.lookup taskRunId = some row →
      row.acceptedWithoutEditing → row.outputAccepted = some true ∧
        row.editingMinutes.toDecimal.toRat = 0 ∧ row.reworkCount = 0) ∧
    (∃ firstPass human : Decimal, firstPass.isFinite ∧ human.isFinite ∧
      firstPassAcceptance (store.listImpacts filter) = .ok firstPass ∧
      humanAcceptance (store.listImpacts filter) = .ok human ∧
      0 ≤ firstPass.toRat ∧ firstPass.toRat ≤ human.toRat ∧ human.toRat ≤ 1 ∧
      ∀ report, store.analytics filter = .ok report →
        report.firstPassAcceptanceRate = firstPass ∧ report.humanAcceptanceRate = human) ∧
    (∀ signal, store.analytics filter = .error signal → signal = .overflow) ∧
    ∀ automatedSteps stepsBefore signal,
      automationRate automatedSteps stepsBefore = .error signal → signal = .overflow := by
  intro store
  have sound : store.Sound := reachable_sound ⟨events, rfl⟩
  refine ⟨sound.impacts, ?_, fun signal error => ?_, fun automatedSteps stepsBefore signal error => ?_⟩
  · have accepted : ∀ entry ∈ store.listImpacts filter, entry.2.Accepted := fun entry member =>
      sound.impacts _ _ (mem_listImpacts member)
    obtain ⟨firstPass, human, order, most, first_eq, human_eq⟩ := acceptance_order accepted
    refine ⟨_, _, rfl, rfl, first_eq, human_eq, ?_, ?_, ?_, fun report answered => ?_⟩
    · rw [toRat_millionths]
      positivity
    · rw [toRat_millionths, toRat_millionths]
      exact div_le_div_of_nonneg_right (by exact_mod_cast order) (by positivity)
    · rw [toRat_millionths]
      exact div_le_one_of_le₀ (by exact_mod_cast most) (by positivity)
    · obtain ⟨human_is, first_is⟩ := figures_acceptance answered
      exact ⟨Except.ok.inj (first_is.symm.trans first_eq),
        Except.ok.inj (human_is.symm.trans human_eq)⟩
  · refine figures_error (fun row member => ?_) error
    obtain ⟨key, there⟩ := mem_listFeedback member
    exact sound.feedback key row there
  · rcases automationRate_bounded automatedSteps stepsBefore with ⟨rate, answered, -⟩ | exceeds
    · rw [answered] at error
      cases error
    · exact (Except.error.inj (error.symm.trans exceeds))

/-- An output that was accepted as it was, until the review of its asset rejects it. -/
example :
    let task : AppliedWorkflowTaskModel := {
      workflowType := .imageGeneration, status := .completed, createdBy := "ada",
      promptVersionId := none, provider := some "mock", model := some "image",
      estimatedCost := ⟨0, by decide⟩, durationMs := some 90000 }
    let data : TaskImpactCreate := {
      outputAccepted := some true, acceptedWithoutEditing := true, editingMinutes := Decimal.zero,
      reworkCount := 0, manualDurationBaselineOverride := some (ofInt 20), stepsBefore := 4,
      automatedSteps := 3, errorCount := 0 }
    let actor : AuthenticatedActor := ⟨"grace", .manager⟩
    let recorded := businessImpact.run businessImpact.init [
      .others (AList.singleton 1 task) [] (AList.singleton 2 ⟨some 1, .readyForReview⟩),
      .recordImpact 5 1 data actor]
    let rejected := businessImpact.run recorded [
      .review 2 { decision := .reject, comment := some "blurred" } actor]
    (recorded.impacts.lookup 1).map (fun row => (row.acceptedWithoutEditing, row.minutesSaved.units))
        = some (true, 1850) ∧
      (rejected.impacts.lookup 1).map (fun row => (row.acceptedWithoutEditing, row.outputAccepted))
        = some (false, some false) := by
  decide +kernel

end CyberLegends.BusinessImpact
