import CyberLegends.Workflow.Loop
import CyberLegends.Workflow.Transitions

/-! What each operation on a locked pair commits, and the two ways in which any of them can change
the rows: it leaves the statuses alone, or moves both rows along one transition. -/

namespace CyberLegends.Workflow

open CyberLegends.Core Lib

/-! ### Operations -/

namespace LockedPair

variable {pair pair' : LockedPair} {settings : Settings} {now : Timestamp}

theorem transitionCheckpoint_ok {expectedStatus nextStatus : CampaignStatus}
    {nextStep : WorkflowStep} :
    pair.transitionCheckpoint expectedStatus nextStatus nextStep = .ok pair' ↔
      pair.workflow.status = expectedStatus ∧ nextStatus ∈ allowedTransitions expectedStatus ∧
        pair' = pair.setStatus nextStatus nextStep := by
  constructor
  · intro h
    obtain ⟨_, expected, h⟩ := bind_eq_ok.mp h
    obtain ⟨_, valid, result⟩ := bind_eq_ok.mp h
    exact ⟨ensureExpectedStatus_ok.mp expected, ensureValidTransition_ok.mp valid,
      (pure_eq_ok.mp result).symm⟩
  · rintro ⟨expected, valid, rfl⟩
    refine bind_eq_ok.mpr ⟨(), ensureExpectedStatus_ok.mpr expected, ?_⟩
    exact bind_eq_ok.mpr ⟨(), ensureValidTransition_ok.mpr valid, rfl⟩

theorem saveAnalysisCheckpoint_ok {analysis : String}
    (h : pair.saveAnalysisCheckpoint analysis = .ok pair') :
    pair.workflow.status = .analyzing ∧
      pair' = { pair with
        campaign := { pair.campaign with briefAnalysis := some analysis } : LockedPair }.setStatus
          .generating .generateContent := by
  obtain ⟨_, expected, h⟩ := bind_eq_ok.mp h
  exact ⟨ensureExpectedStatus_ok.mp expected, (transitionLocked_ok h).2⟩

theorem saveContentCheckpoint_ok {content : String}
    (h : pair.saveContentCheckpoint content = .ok pair') :
    pair.workflow.status = .generating ∧
      pair' = { pair with
        campaign := { pair.campaign with generatedContent := some content } : LockedPair }.setStatus
          .reviewing .reviewContent := by
  obtain ⟨_, expected, h⟩ := bind_eq_ok.mp h
  exact ⟨ensureExpectedStatus_ok.mp expected, (transitionLocked_ok h).2⟩

/-- The pair with a verdict saved, the retries counted and the status moved on. -/
def reviewed (pair : LockedPair) (review : QualityReview) (retries : Nat)
    (nextStatus : CampaignStatus) (nextStep : WorkflowStep) : LockedPair :=
  { workflow :=
      { pair.workflow with
        qualityScore := some review.qualityScore
        retryCount := pair.workflow.retryCount + retries }
    campaign :=
      { pair.campaign with
        qualityReview := some review
        qualityScore := some review.qualityScore
        retryCount := pair.campaign.retryCount + retries } : LockedPair }.setStatus
    nextStatus nextStep

theorem saveReviewDecisionCheckpoint_ok {review : QualityReview}
    (h : pair.saveReviewDecisionCheckpoint settings review = .ok pair') :
    pair.workflow.status = .reviewing ∧ ∃ retries nextStatus nextStep,
      pair' = pair.reviewed review retries nextStatus nextStep ∧
        nextStatus ∈ allowedTransitions .reviewing ∧ nextStatus ≠ .failed ∧
        (nextStatus = .pendingApproval ↔ review.status = .pass) := by
  obtain ⟨_, expected, h⟩ := bind_eq_ok.mp h
  refine ⟨ensureExpectedStatus_ok.mp expected, ?_⟩
  cases verdict : review.status with
  | pass =>
    simp only [verdict] at h
    exact ⟨0, .pendingApproval, .humanReview, (transitionLocked_ok h).2, by decide, by decide,
      by simp⟩
  | manualReviewRequired =>
    simp only [verdict] at h
    exact ⟨0, .manualReviewRequired, .humanReview, (transitionLocked_ok h).2, by decide, by decide,
      by simp⟩
  | fail =>
    simp only [verdict] at h
    split at h
    · exact ⟨0, .manualReviewRequired, .humanReview, (transitionLocked_ok h).2, by decide,
        by decide, by simp⟩
    · exact ⟨1, .generating, .generateContent, (transitionLocked_ok h).2, by decide, by decide,
        by simp⟩

/-- The statuses that a failure ends. -/
def failable (status : CampaignStatus) : Bool :=
  status = .received ∨ status = .validating ∨ status = .analyzing ∨ status = .generating ∨
    status = .reviewing

theorem failable_iff (status : CampaignStatus) :
    failable status = true ↔
      keepsStatus status = false ∧ canTransition status .failed = true := by
  cases status <;> decide

theorem persistFailure_eq {errorCode errorMessage : String} :
    pair.persistFailure errorCode errorMessage now = some pair' ↔
      failable pair.workflow.status = true ∧ pair' =
        { workflow :=
            { pair.workflow with
              status := .failed
              currentStep := .complete
              errorCode := some errorCode
              errorMessage := some errorMessage
              completedAt := some now }
          campaign := { pair.campaign with status := .failed } } := by
  rw [failable_iff]
  unfold persistFailure
  cases keeps : keepsStatus pair.workflow.status with
  | true => simp
  | false =>
    cases valid : canTransition pair.workflow.status .failed with
    | true => simp [eq_comm]
    | false => simp

theorem recordLlmCall_ok (h : pair.recordLlmCall settings = .ok pair') :
    pair' = { pair with
      workflow := { pair.workflow with llmCallCount := pair.workflow.llmCallCount + 1 } } := by
  unfold recordLlmCall at h
  split at h
  · cases h
  · cases h
    rfl

/-- The version of the campaign after a decision. -/
def decidedVersion (pair : LockedPair) (decision : ApprovalDecision) : Nat :=
  match decision with
  | .requestRevision => pair.campaign.version + 1
  | _ => pair.campaign.version

theorem decide_ok {request : ApprovalRequest} {decided : Bool} {actorId : String}
    {actorRole : UserRole} {record : ApprovalRecordModel}
    (h : pair.decide request decided actorId actorRole now = .ok (pair', record)) :
    decided = false ∧ pair.workflow.status = .pendingApproval ∧
      pair.campaign.version = request.expectedVersion ∧ pair' =
        { workflow :=
            { pair.workflow with
              status := ApprovalDecision.nextStatus request.decision
              currentStep := .complete
              completedAt := some now }
          campaign :=
            { pair.campaign with
              status := ApprovalDecision.nextStatus request.decision
              version := pair.decidedVersion request.decision } } := by
  unfold LockedPair.decide at h
  split at h
  · cases h
  · rename_i open_
    split at h
    · cases h
    · rename_i pending
      split at h
      · cases h
      · rename_i version
        obtain ⟨_, -, result⟩ := bind_eq_ok.mp h
        cases result
        refine ⟨by simpa using open_, by simpa using pending, by simpa using version, ?_⟩
        unfold decidedVersion
        cases request.decision <;> rfl

end LockedPair

/-! ### Changes -/

/-- The statuses in which an open workflow can be moved. -/
def working (status : CampaignStatus) : Bool :=
  LockedPair.failable status ∨ status = .pendingApproval

/-- The statuses that close a workflow. -/
def closing (status : CampaignStatus) : Bool :=
  status = .approved ∨ status = .rejected ∨ status = .failed ∨ status = .revisionRequired

/-- What an agent has made of the campaign is not lost. -/
structure ArtifactsKept (campaign campaign' : CampaignModel) : Prop where
  analysis : campaign.briefAnalysis.isSome → campaign'.briefAnalysis.isSome
  content : campaign.generatedContent.isSome → campaign'.generatedContent.isSome

theorem ArtifactsKept.of_same {campaign campaign' : CampaignModel}
    (analysis : campaign'.briefAnalysis = campaign.briefAnalysis)
    (content : campaign'.generatedContent = campaign.generatedContent) :
    ArtifactsKept campaign campaign' where
  analysis h := by rw [analysis]; exact h
  content h := by rw [content]; exact h

/-- What an operation on a locked pair does to its rows. -/
inductive PairChange (pair pair' : LockedPair) : Prop
  | quiet
      (workflow : ∃ llmCallCount, pair'.workflow = { pair.workflow with llmCallCount })
      (campaign : pair'.campaign = pair.campaign ∨
        pair.campaign.version < pair'.campaign.version ∧
          pair'.campaign.status = pair.campaign.status ∧
          pair'.campaign.briefAnalysis = pair.campaign.briefAnalysis)
      (artifacts : ArtifactsKept pair.campaign pair'.campaign)
  | moved
      (source : working pair.workflow.status = true)
      (edge : pair'.workflow.status ∈ allowedTransitions pair.workflow.status)
      (agrees : pair'.campaign.status = pair'.workflow.status)
      (campaignId : pair'.workflow.campaignId = pair.workflow.campaignId)
      (revision : pair'.workflow.revisionNumber = pair.workflow.revisionNumber)
      (version : pair.campaign.version ≤ pair'.campaign.version)
      (completed : pair'.workflow.completedAt.isSome = closing pair'.workflow.status ∨
        pair'.workflow.completedAt = pair.workflow.completedAt ∧
          closing pair'.workflow.status = false)
      (analysis : pair.workflow.status ≠ .analyzing →
        pair'.campaign.briefAnalysis = pair.campaign.briefAnalysis)
      (analyzed : pair.workflow.status = .analyzing →
        pair'.campaign.briefAnalysis.isSome ∨ pair'.workflow.status = .failed)
      (kept : pair.workflow.completedAt ≠ none → pair'.workflow.completedAt ≠ none)
      (clear : pair'.workflow.status ≠ .needsClarification)
      (artifacts : ArtifactsKept pair.campaign pair'.campaign)
      (drafted : pair'.workflow.status = .reviewing → pair'.campaign.generatedContent.isSome)

theorem PairChange.campaignId {pair pair' : LockedPair} (change : PairChange pair pair') :
    pair'.workflow.campaignId = pair.workflow.campaignId := by
  cases change with
  | quiet workflow =>
    obtain ⟨llmCallCount, same⟩ := workflow
    rw [same]
  | moved source edge agrees campaignId => exact campaignId

theorem PairChange.of_transition {pair : LockedPair} {expectedStatus nextStatus : CampaignStatus}
    {nextStep : WorkflowStep} (held : pair.workflow.status = expectedStatus)
    (rule : checkpointAfter expectedStatus = some (nextStatus, nextStep))
    (valid : nextStatus ∈ allowedTransitions expectedStatus)
    (other : expectedStatus ≠ .revisionRequired) :
    PairChange pair (pair.setStatus nextStatus nextStep) := by
  subst held
  have facts : working pair.workflow.status = true ∧ closing nextStatus = false ∧
      pair.workflow.status ≠ .analyzing ∧ nextStatus ≠ .needsClarification ∧
        nextStatus ≠ .reviewing := by
    cases status : pair.workflow.status <;> rw [status] at rule valid other <;> cases rule <;>
      first | exact absurd rfl other | decide
  exact .moved facts.1 valid rfl rfl rfl (Nat.le_refl _) (.inr ⟨rfl, facts.2.1⟩) (fun _ => rfl)
    (fun analyzing => absurd analyzing facts.2.2.1) id facts.2.2.2.1 (.of_same rfl rfl)
    (fun reviewing => absurd reviewing facts.2.2.2.2)

theorem PairChange.of_save {settings : Settings} {pair pair' : LockedPair} {output : AgentOutput}
    (saved : output.save settings pair = .ok pair') : PairChange pair pair' := by
  cases output with
  | analysis analysis =>
    obtain ⟨held, rfl⟩ := LockedPair.saveAnalysisCheckpoint_ok saved
    refine .moved (by rw [held]; rfl) ?_ rfl rfl rfl (Nat.le_refl _) (.inr ⟨rfl, rfl⟩)
      (fun other => absurd held other) (fun _ => .inl rfl) id (by intro h; cases h)
      ⟨fun _ => rfl, id⟩ (by intro h; cases h)
    rw [held]
    show CampaignStatus.generating ∈ _
    decide
  | content content =>
    obtain ⟨held, rfl⟩ := LockedPair.saveContentCheckpoint_ok saved
    refine .moved (by rw [held]; rfl) ?_ rfl rfl rfl (Nat.le_refl _) (.inr ⟨rfl, rfl⟩)
      (fun _ => rfl) (by rw [held]; intro h; cases h) id (by intro h; cases h)
      ⟨id, fun _ => rfl⟩ (fun _ => rfl)
    rw [held]
    show CampaignStatus.reviewing ∈ _
    decide
  | review review =>
    obtain ⟨held, retries, nextStatus, nextStep, rfl, edge, notFailed, -⟩ :=
      LockedPair.saveReviewDecisionCheckpoint_ok saved
    refine .moved (by rw [held]; rfl) (by rw [held]; exact edge) rfl rfl rfl (Nat.le_refl _)
      (.inr ⟨rfl, ?_⟩) (fun _ => rfl) (by rw [held]; intro h; cases h) id ?_ (.of_same rfl rfl) ?_
    · revert edge notFailed
      show nextStatus ∈ allowedTransitions .reviewing → nextStatus ≠ .failed → closing nextStatus = _
      cases nextStatus <;> decide
    · revert edge
      show nextStatus ∈ allowedTransitions .reviewing → nextStatus ≠ _
      cases nextStatus <;> decide
    · intro reviewing
      have same : nextStatus = .reviewing := reviewing
      rw [same] at edge
      exact absurd edge (by decide)

theorem PairChange.of_failure {pair pair' : LockedPair} {errorCode errorMessage : String}
    {now : Timestamp} (failed : pair.persistFailure errorCode errorMessage now = some pair') :
    PairChange pair pair' := by
  obtain ⟨admitted, rfl⟩ := LockedPair.persistFailure_eq.mp failed
  refine .moved ?_ ?_ rfl rfl rfl (Nat.le_refl _) (.inl rfl) (fun _ => rfl) (fun _ => .inr rfl)
    (fun _ => by simp) (by intro h; cases h) (.of_same rfl rfl) (by intro h; cases h)
  · unfold working
    simp [admitted]
  · exact canTransition_iff.mp ((LockedPair.failable_iff _).mp admitted).2

theorem PairChange.of_count {settings : Settings} {pair pair' : LockedPair}
    (counted : pair.recordLlmCall settings = .ok pair') : PairChange pair pair' := by
  rw [LockedPair.recordLlmCall_ok counted]
  exact .quiet ⟨_, rfl⟩ (.inl rfl) (.of_same rfl rfl)

theorem PairChange.of_decision {pair pair' : LockedPair} {request : ApprovalRequest}
    {decided : Bool} {actorId : String} {actorRole : UserRole} {now : Timestamp}
    {record : ApprovalRecordModel}
    (h : pair.decide request decided actorId actorRole now = .ok (pair', record)) :
    PairChange pair pair' := by
  obtain ⟨-, held, -, rfl⟩ := LockedPair.decide_ok h
  have version : pair.campaign.version ≤ pair.decidedVersion request.decision := by
    unfold LockedPair.decidedVersion
    split <;> omega
  refine .moved (by rw [held]; rfl) ?_ rfl rfl rfl version (.inl ?_) (fun _ => rfl)
    (by rw [held]; intro h; cases h) (fun _ => by simp) ?_ (.of_same rfl rfl) ?_
  · rw [held]
    show ApprovalDecision.nextStatus request.decision ∈ _
    cases request.decision <;> decide
  · show true = closing (ApprovalDecision.nextStatus request.decision)
    cases request.decision <;> rfl
  · show ApprovalDecision.nextStatus request.decision ≠ _
    cases request.decision <;> decide
  · show ApprovalDecision.nextStatus request.decision = _ → _
    cases request.decision <;> exact nofun

/-- An action that the policy admits in the statuses of its guard. -/
theorem PairChange.of_action {pair pair' : LockedPair} {guard : ActionExecutionGuard}
    {action : WorkflowStore.CampaignAction}
    (reserved : guard.expectedWorkflowStatus ∈ action.allowedStatuses)
    (h : pair.act guard action.effect = .ok pair') : PairChange pair pair' := by
  unfold LockedPair.act at h
  split at h
  · rename_i admitted
    have held : pair.workflow.status = guard.expectedWorkflowStatus := by
      simp [LockedPair.admits] at admitted
      exact admitted.2.2.1
    have moves : ∀ {nextStatus step}, guard.expectedWorkflowStatus = .reviewing →
        (nextStatus = .generating ∨ nextStatus = .manualReviewRequired) →
        PairChange pair (pair.setStatus nextStatus step) := by
      intro nextStatus step reviewing next
      rw [reviewing] at held
      refine .moved (by rw [held]; rfl) ?_ rfl rfl rfl (Nat.le_refl _) (.inr ⟨rfl, ?_⟩)
        (fun _ => rfl) (by rw [held]; intro h; cases h) id ?_ (.of_same rfl rfl) ?_
      · rw [held]
        rcases next with rfl | rfl
        · show CampaignStatus.generating ∈ _
          decide
        · show CampaignStatus.manualReviewRequired ∈ _
          decide
      · rcases next with rfl | rfl <;> rfl
      · show nextStatus ≠ _
        rcases next with rfl | rfl <;> decide
      · show nextStatus = _ → _
        rcases next with rfl | rfl <;> exact nofun
    cases action with
    | validateOnly =>
      cases h
      exact .quiet ⟨_, rfl⟩ (.inl rfl) (.of_same rfl rfl)
    | updateCampaignMetadata =>
      cases h
      exact .quiet ⟨_, rfl⟩ (.inr ⟨Nat.lt_succ_self _, rfl, rfl⟩) (.of_same rfl rfl)
    | requestCampaignRegeneration =>
      simp only [WorkflowStore.CampaignAction.effect] at h
      split at h
      · cases h
        exact moves (List.mem_singleton.mp reserved) (.inl rfl)
      · cases h
    | markForManualReview =>
      simp only [WorkflowStore.CampaignAction.effect] at h
      split at h
      · cases h
        exact moves (List.mem_singleton.mp reserved) (.inr rfl)
      · cases h
  · cases h

end CyberLegends.Workflow
