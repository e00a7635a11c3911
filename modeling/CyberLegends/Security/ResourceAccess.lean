import CyberLegends.Actions.Repository

/-! Who may read a campaign, a workflow, an applied task and a media asset, as it is checked when one
of them is read. -/

namespace CyberLegends.Security

open CyberLegends.Core Lib Actions

/-! ### Rows -/

structure CampaignModel where
  createdBy : String
  status : CampaignStatus
  isEvaluation : Bool
  createdAt : Timestamp
  deriving DecidableEq, Repr

structure WorkflowRunModel where
  campaignId : String
  isEvaluation : Bool
  startedAt : Timestamp
  deriving DecidableEq, Repr

inductive AppliedWorkflowType
  | campaignContent
  | dataAnalysis
  | documentProcessing
  | imageGeneration
  | videoStoryboard
  deriving DecidableEq, Repr

structure AppliedWorkflowTaskModel where
  createdBy : String
  workflowType : AppliedWorkflowType
  status : AppliedTaskStatus
  createdAt : Timestamp
  deriving DecidableEq, Repr

inductive MediaAssetType
  | image
  | videoStoryboard
  | video
  deriving DecidableEq, Repr

structure MediaAssetModel where
  campaignId : Option String
  createdBy : String
  assetType : MediaAssetType
  status : MediaAssetStatus
  createdAt : Timestamp
  deriving DecidableEq, Repr

/-- The tables whose rows have an owner. -/
structure Database where
  campaigns : Table String CampaignModel
  workflowRuns : Table Uuid WorkflowRunModel
  appliedTasks : Table Uuid AppliedWorkflowTaskModel
  mediaAssets : Table Uuid MediaAssetModel

/-! ### Checks -/

inductive AccessError
  | campaignNotFound (message : String)
  | workflowNotFound (message : String)
  | m7ResourceNotFound (message : String)
  | authorization (message : String)
  deriving DecidableEq, Repr

def elevatedBusinessRoles : List UserRole := [.manager, .admin, .system]

def reviewableCampaignStatuses : List CampaignStatus :=
  [.reviewing, .manualReviewRequired, .pendingApproval]

def hasBusinessOverride (actor : AuthenticatedActor) : Bool := actor.role ∈ elevatedBusinessRoles

variable (db : Database) (actor : AuthenticatedActor)

/-- The actor may read the campaign, or write it. -/
def campaignAllowed (campaign : CampaignModel) (write : Bool) : Bool :=
  if !write ∧ actor.role = .reviewer then campaign.status ∈ reviewableCampaignStatuses
  else hasBusinessOverride actor ∨ campaign.createdBy = actor.actorId

def requireCampaignAccess (campaignId : String) (write : Bool) : Except AccessError CampaignModel :=
  match db.campaigns.lookup campaignId with
  | none => .error (.campaignNotFound "Campaign not found")
  | some campaign =>
    if campaignAllowed actor campaign write then .ok campaign
    else .error (.authorization "Actor cannot access this campaign")

def requireWorkflowAccess (workflowId : Uuid) (write : Bool) :
    Except AccessError WorkflowRunModel :=
  match db.workflowRuns.lookup workflowId with
  | none => .error (.workflowNotFound "Workflow not found")
  | some workflow => do
    let _ ← requireCampaignAccess db actor workflow.campaignId write
    return workflow

def requireTaskAccess (taskRunId : Uuid) : Except AccessError AppliedWorkflowTaskModel :=
  match db.appliedTasks.lookup taskRunId with
  | none => .error (.m7ResourceNotFound "Applied workflow task not found")
  | some task =>
    if !hasBusinessOverride actor ∧ task.createdBy ≠ actor.actorId then
      .error (.authorization "Actor cannot access this applied workflow task")
    else .ok task

def requireMediaAccess (mediaAssetId : Uuid) (review : Bool) : Except AccessError MediaAssetModel :=
  match db.mediaAssets.lookup mediaAssetId with
  | none => .error (.m7ResourceNotFound "Media asset not found")
  | some asset =>
    if review then
      if actor.role ∉ [.reviewer, .manager, .admin] then
        .error (.authorization "Reviewer role is required")
      else if actor.role = .reviewer ∧ asset.status ≠ .readyForReview then
        .error (.authorization "Media asset is not available for review")
      else .ok asset
    else if hasBusinessOverride actor ∨ asset.createdBy = actor.actorId then .ok asset
    else if actor.role = .reviewer ∧ asset.status = .readyForReview then .ok asset
    else
      match asset.campaignId with
      | some campaignId => do
        let _ ← requireCampaignAccess db actor campaignId false
        return asset
      | none => .error (.authorization "Actor cannot access this media asset")

/-! ### What the checks let through -/

section

variable {db actor}

theorem requireCampaignAccess_ok {campaignId : String} {write : Bool} {campaign : CampaignModel}
    (row : db.campaigns.lookup campaignId = some campaign)
    (allowed : campaignAllowed actor campaign write = true) :
    requireCampaignAccess db actor campaignId write = .ok campaign := by
  unfold requireCampaignAccess
  rw [row]
  exact if_pos allowed

theorem requireWorkflowAccess_ok {workflowId : Uuid} {write : Bool} {workflow : WorkflowRunModel}
    {campaign : CampaignModel} (row : db.workflowRuns.lookup workflowId = some workflow)
    (access : requireCampaignAccess db actor workflow.campaignId write = .ok campaign) :
    requireWorkflowAccess db actor workflowId write = .ok workflow := by
  unfold requireWorkflowAccess
  rw [row]
  dsimp only
  rw [access]
  rfl

theorem requireTaskAccess_ok {taskRunId : Uuid} {task : AppliedWorkflowTaskModel}
    (row : db.appliedTasks.lookup taskRunId = some task)
    (allowed : hasBusinessOverride actor = true ∨ task.createdBy = actor.actorId) :
    requireTaskAccess db actor taskRunId = .ok task := by
  unfold requireTaskAccess
  rw [row]
  refine if_neg fun refused => ?_
  rcases allowed with override | owner
  · rw [override] at refused
    exact absurd refused.1 (by decide)
  · exact refused.2 owner

theorem requireMediaAccess_ok {mediaAssetId : Uuid} {asset : MediaAssetModel}
    (row : db.mediaAssets.lookup mediaAssetId = some asset)
    (allowed : (hasBusinessOverride actor = true ∨ asset.createdBy = actor.actorId) ∨
      (actor.role = .reviewer ∧ asset.status = .readyForReview)) :
    requireMediaAccess db actor mediaAssetId false = .ok asset := by
  unfold requireMediaAccess
  rw [row]
  dsimp only
  rw [if_neg Bool.false_ne_true]
  by_cases own : hasBusinessOverride actor = true ∨ asset.createdBy = actor.actorId
  · exact if_pos own
  · rw [if_neg own]
    exact if_pos (allowed.resolve_left own)

end

end CyberLegends.Security
