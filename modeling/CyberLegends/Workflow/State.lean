import CyberLegends.Core.Constants

/-! The states of a workflow and the transitions between them. -/

namespace CyberLegends.Workflow

open CyberLegends.Core

/-- The statuses that may follow a status. -/
def allowedTransitions : CampaignStatus → List CampaignStatus
  | .received => [.validating, .failed]
  | .validating => [.analyzing, .needsClarification, .failed]
  | .analyzing => [.generating, .needsClarification, .failed]
  | .generating => [.reviewing, .failed]
  | .reviewing => [.generating, .manualReviewRequired, .pendingApproval, .failed]
  | .manualReviewRequired => [.pendingApproval, .revisionRequired, .rejected]
  | .pendingApproval => [.approved, .rejected, .revisionRequired]
  | .revisionRequired => [.generating, .rejected]
  | .needsClarification => [.validating, .rejected]
  | .approved => []
  | .rejected => []
  | .failed => []

def canTransition (currentStatus nextStatus : CampaignStatus) : Bool :=
  (allowedTransitions currentStatus).contains nextStatus

theorem canTransition_iff {status nextStatus : CampaignStatus} :
    canTransition status nextStatus = true ↔ nextStatus ∈ allowedTransitions status := by
  unfold canTransition
  exact List.contains_iff_mem

/-- No status follows itself, so every transition changes the column. -/
theorem canTransition_irrefl (status : CampaignStatus) : canTransition status status = false := by
  cases status <;> decide

end CyberLegends.Workflow
