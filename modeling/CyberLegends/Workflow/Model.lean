import CyberLegends.Core.Config
import CyberLegends.Lib.Session
import CyberLegends.Workflow.State

/-! The rows of campaigns and workflows, and the operations that write a workflow together with its
campaign while they hold both rows. -/

namespace CyberLegends.Workflow

open CyberLegends.Core Lib

abbrev CampaignId := String

abbrev WorkflowId := Uuid

/-- The verdict of a quality review. -/
inductive ReviewStatus
  | pass
  | fail
  | manualReviewRequired
  deriving DecidableEq, Repr

/-- A quality review; `details` stands for the scores and texts that are only stored. -/
structure QualityReview where
  status : ReviewStatus
  qualityScore : Nat
  details : String := ""
  deriving DecidableEq, Repr

/-- The fields of a brief that only an update of the whole brief writes. -/
structure CampaignBrief where
  gameName : String := ""
  genre : String := ""
  market : String := ""
  platforms : List String := []
  campaignObjective : String := ""
  launchDate : Option String := none
  rawBrief : Option String := none
  deriving DecidableEq, Repr

structure CampaignModel where
  status : CampaignStatus := .received
  version : Nat := 1
  retryCount : Nat := 0
  briefAnalysis : Option String := none
  generatedContent : Option String := none
  qualityReview : Option QualityReview := none
  qualityScore : Option Nat := none
  brief : CampaignBrief := {}
  tone : String := ""
  targetAudience : String := ""
  promotion : Option String := none
  deriving DecidableEq, Repr

structure WorkflowRunModel where
  campaignId : CampaignId
  revisionNumber : Nat := 0
  status : CampaignStatus := .received
  currentStep : WorkflowStep := .receiveCampaign
  llmCallCount : Nat := 0
  retryCount : Nat := 0
  qualityScore : Option Nat := none
  errorCode : Option String := none
  errorMessage : Option String := none
  completedAt : Option Timestamp := none
  deriving DecidableEq, Repr

structure ApprovalRecordModel where
  campaignId : CampaignId
  decision : ApprovalDecision
  feedback : Option String
  actorId : String
  actorRole : UserRole
  previousVersion : Nat
  resultingVersion : Nat
  deriving DecidableEq, Repr

/-- The flush of a campaign, column by column. -/
def CampaignModel.flush (loaded assigned committed : CampaignModel) : CampaignModel where
  status := Lib.flush loaded.status assigned.status committed.status
  version := Lib.flush loaded.version assigned.version committed.version
  retryCount := Lib.flush loaded.retryCount assigned.retryCount committed.retryCount
  briefAnalysis := Lib.flush loaded.briefAnalysis assigned.briefAnalysis committed.briefAnalysis
  generatedContent :=
    Lib.flush loaded.generatedContent assigned.generatedContent committed.generatedContent
  qualityReview := Lib.flush loaded.qualityReview assigned.qualityReview committed.qualityReview
  qualityScore := Lib.flush loaded.qualityScore assigned.qualityScore committed.qualityScore
  brief := Lib.flush loaded.brief assigned.brief committed.brief
  tone := Lib.flush loaded.tone assigned.tone committed.tone
  targetAudience :=
    Lib.flush loaded.targetAudience assigned.targetAudience committed.targetAudience
  promotion := Lib.flush loaded.promotion assigned.promotion committed.promotion

/-- The flush of a workflow, column by column. -/
def WorkflowRunModel.flush (loaded assigned committed : WorkflowRunModel) : WorkflowRunModel where
  campaignId := Lib.flush loaded.campaignId assigned.campaignId committed.campaignId
  revisionNumber :=
    Lib.flush loaded.revisionNumber assigned.revisionNumber committed.revisionNumber
  status := Lib.flush loaded.status assigned.status committed.status
  currentStep := Lib.flush loaded.currentStep assigned.currentStep committed.currentStep
  llmCallCount := Lib.flush loaded.llmCallCount assigned.llmCallCount committed.llmCallCount
  retryCount := Lib.flush loaded.retryCount assigned.retryCount committed.retryCount
  qualityScore := Lib.flush loaded.qualityScore assigned.qualityScore committed.qualityScore
  errorCode := Lib.flush loaded.errorCode assigned.errorCode committed.errorCode
  errorMessage := Lib.flush loaded.errorMessage assigned.errorMessage committed.errorMessage
  completedAt := Lib.flush loaded.completedAt assigned.completedAt committed.completedAt

/-! ### Errors -/

inductive WorkflowError
  | workflowNotFound (message : String)
  | campaignNotFound (message : String)
  | versionConflict (message : String)
  | invalidStateTransition (currentStatus nextStatus : CampaignStatus)
  | workflowLimit (message : String)
  | approvalNotAllowed (message : String)
  | approvalAlreadyDecided (message : String)
  | actionScopeConflict (message : String)
  | actionStateChanged (message : String)
  deriving DecidableEq, Repr

def ensureValidTransition (currentStatus nextStatus : CampaignStatus) :
    Except WorkflowError Unit :=
  if canTransition currentStatus nextStatus then .ok ()
  else .error (.invalidStateTransition currentStatus nextStatus)

def ensureExpectedStatus (actualStatus expectedStatus : CampaignStatus) :
    Except WorkflowError Unit :=
  if actualStatus ≠ expectedStatus then
    .error (.versionConflict "Workflow state changed during execution")
  else .ok ()

/-! ### The locked pair -/

/-- A workflow and its campaign as the session that holds both rows sees them. -/
structure LockedPair where
  workflow : WorkflowRunModel
  campaign : CampaignModel
  deriving DecidableEq, Repr

namespace LockedPair

variable (pair : LockedPair)

/-- Sets the status of both rows and the step of the workflow. -/
def setStatus (status : CampaignStatus) (step : WorkflowStep) : LockedPair where
  workflow := { pair.workflow with status, currentStep := step }
  campaign := { pair.campaign with status }

def transitionLocked (nextStatus : CampaignStatus) (nextStep : WorkflowStep) :
    Except WorkflowError LockedPair := do
  ensureValidTransition pair.workflow.status nextStatus
  return pair.setStatus nextStatus nextStep

def transitionCheckpoint (expectedStatus nextStatus : CampaignStatus) (nextStep : WorkflowStep) :
    Except WorkflowError LockedPair := do
  ensureExpectedStatus pair.workflow.status expectedStatus
  ensureValidTransition expectedStatus nextStatus
  return pair.setStatus nextStatus nextStep

def saveAnalysisCheckpoint (analysis : String) : Except WorkflowError LockedPair := do
  ensureExpectedStatus pair.workflow.status .analyzing
  let campaign := { pair.campaign with briefAnalysis := some analysis }
  { pair with campaign }.transitionLocked .generating .generateContent

def saveContentCheckpoint (content : String) : Except WorkflowError LockedPair := do
  ensureExpectedStatus pair.workflow.status .generating
  let campaign := { pair.campaign with generatedContent := some content }
  { pair with campaign }.transitionLocked .reviewing .reviewContent

def saveReviewDecisionCheckpoint (settings : Settings) (review : QualityReview) :
    Except WorkflowError LockedPair := do
  ensureExpectedStatus pair.workflow.status .reviewing
  let campaign :=
    { pair.campaign with qualityReview := some review, qualityScore := some review.qualityScore }
  let workflow := { pair.workflow with qualityScore := some review.qualityScore }
  let pair : LockedPair := { workflow, campaign }
  match review.status with
  | .pass => pair.transitionLocked .pendingApproval .humanReview
  | .manualReviewRequired => pair.transitionLocked .manualReviewRequired .humanReview
  | .fail =>
    if workflow.retryCount ≥ settings.maxContentRetries then
      pair.transitionLocked .manualReviewRequired .humanReview
    else
      let workflow := { workflow with retryCount := workflow.retryCount + 1 }
      let campaign := { campaign with retryCount := campaign.retryCount + 1 }
      { workflow, campaign : LockedPair }.transitionLocked .generating .generateContent

/-- Whether a failure leaves a workflow in this status as it is. -/
def keepsStatus (status : CampaignStatus) : Bool :=
  status = .approved ∨ status = .rejected ∨ status = .failed ∨ status = .pendingApproval ∨
    status = .manualReviewRequired

/-- The record of a failure; nothing when the status does not admit it. -/
def persistFailure (errorCode errorMessage : String) (now : Timestamp) : Option LockedPair :=
  if keepsStatus pair.workflow.status then none
  else if canTransition pair.workflow.status .failed then
    some
      { workflow :=
          { pair.workflow with
            status := .failed
            currentStep := .complete
            errorCode := some errorCode
            errorMessage := some errorMessage
            completedAt := some now }
        campaign := { pair.campaign with status := .failed } }
  else none

def transition (nextStatus : CampaignStatus) (step : Option WorkflowStep) :
    Except WorkflowError LockedPair := do
  ensureValidTransition pair.workflow.status nextStatus
  return pair.setStatus nextStatus (step.getD pair.workflow.currentStep)

def recordLlmCall (settings : Settings) : Except WorkflowError LockedPair :=
  if pair.workflow.llmCallCount ≥ settings.maxLlmCallsPerWorkflow then
    .error (.workflowLimit "LLM call budget exhausted")
  else
    let workflow := { pair.workflow with llmCallCount := pair.workflow.llmCallCount + 1 }
    .ok { pair with workflow }

end LockedPair

/-! ### Approvals -/

structure ApprovalRequest where
  campaignId : CampaignId
  workflowId : WorkflowId
  decision : ApprovalDecision
  feedback : Option String := none
  expectedVersion : Nat := 1
  deriving DecidableEq, Repr

def isApprover (role : UserRole) : Bool :=
  role = .reviewer ∨ role = .manager ∨ role = .admin

def ApprovalDecision.nextStatus : ApprovalDecision → CampaignStatus
  | .approve => .approved
  | .reject => .rejected
  | .requestRevision => .revisionRequired

/-- The decision on a locked pair, `decided` telling whether the workflow has a record already. -/
def LockedPair.decide (pair : LockedPair) (request : ApprovalRequest) (decided : Bool)
    (actorId : String) (actorRole : UserRole) (now : Timestamp) :
    Except WorkflowError (LockedPair × ApprovalRecordModel) :=
  if decided then .error (.approvalAlreadyDecided "Workflow already has an approval decision")
  else if pair.workflow.status ≠ .pendingApproval then
    .error (.approvalNotAllowed "Workflow is not pending approval")
  else if pair.campaign.version ≠ request.expectedVersion then
    .error (.versionConflict "Campaign version does not match")
  else do
    let nextStatus := ApprovalDecision.nextStatus request.decision
    let resultingVersion :=
      match request.decision with
      | .requestRevision => pair.campaign.version + 1
      | _ => pair.campaign.version
    ensureValidTransition pair.workflow.status nextStatus
    let workflow :=
      { pair.workflow with
        status := nextStatus, currentStep := .complete, completedAt := some now }
    let campaign := { pair.campaign with status := nextStatus, version := resultingVersion }
    return ({ workflow, campaign },
      { campaignId := request.campaignId
        decision := request.decision
        feedback := request.feedback
        actorId
        actorRole
        previousVersion := pair.campaign.version
        resultingVersion })

/-! ### Controlled actions -/

/-- The state that a reserved action expects to find. -/
structure ActionExecutionGuard where
  campaignId : CampaignId
  workflowId : WorkflowId
  expectedCampaignStatus : CampaignStatus
  expectedCampaignVersion : Nat
  expectedWorkflowStatus : CampaignStatus
  expectedRevisionNumber : Nat
  deriving DecidableEq, Repr

/-- What the handler of an action does to the pair that its guard admits. -/
inductive ActionEffect
  | validate
  | updateMetadata (tone targetAudience promotion : Option String)
  | transition (nextStatus : CampaignStatus) (step : WorkflowStep)
  deriving DecidableEq, Repr

def LockedPair.admits (pair : LockedPair) (guard : ActionExecutionGuard) : Bool :=
  pair.campaign.status = guard.expectedCampaignStatus ∧
    pair.campaign.version = guard.expectedCampaignVersion ∧
    pair.workflow.status = guard.expectedWorkflowStatus ∧
    pair.workflow.revisionNumber = guard.expectedRevisionNumber

def LockedPair.act (pair : LockedPair) (guard : ActionExecutionGuard) (effect : ActionEffect) :
    Except WorkflowError LockedPair :=
  if pair.admits guard then
    match effect with
    | .validate => .ok pair
    | .updateMetadata tone targetAudience promotion =>
      let campaign :=
        { pair.campaign with
          tone := tone.getD pair.campaign.tone
          targetAudience := targetAudience.getD pair.campaign.targetAudience
          promotion := promotion.or pair.campaign.promotion
          version := pair.campaign.version + 1 }
      .ok { pair with campaign }
    | .transition nextStatus step =>
      if canTransition pair.workflow.status nextStatus then .ok (pair.setStatus nextStatus step)
      else .error (.actionStateChanged "Reserved workflow transition is no longer valid")
  else .error (.actionStateChanged "Campaign or workflow changed after action reservation")

end CyberLegends.Workflow
