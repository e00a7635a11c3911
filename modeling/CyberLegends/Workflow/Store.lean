import CyberLegends.Workflow.Sessions

/-! The services on campaigns and workflows, each in one transaction on the rows as they are
committed. What a session does that has loaded a row before is the matter of the module on
sessions. -/

namespace CyberLegends.Workflow

open CyberLegends.Core Lib

structure AgentRunModel where
  workflowId : WorkflowId
  agentName : AgentName
  status : AgentRunStatus := .created
  deriving DecidableEq, Repr

def AgentRunModel.active (run : AgentRunModel) : Bool :=
  run.status = .created ∨ run.status = .running

/-- The tables that the runs of workflows work on. -/
structure WorkflowStore extends Database where
  agentRuns : Table Uuid AgentRunModel := ∅
  nextAgentRun : Uuid := 0

/-! ### Pairs -/

/-- A workflow and its campaign, both locked. -/
def Database.pair (db : Database) (workflowId : WorkflowId) : Option LockedPair := do
  let workflow ← db.workflows.lookup workflowId
  let campaign ← db.campaigns.lookup workflow.campaignId
  return { workflow, campaign }

namespace WorkflowStore

variable (store : WorkflowStore)

/-- Commits what a transaction has assigned to a pair. -/
def setPair (workflowId : WorkflowId) (pair : LockedPair) : WorkflowStore :=
  { store with
    workflows := store.workflows.insert workflowId pair.workflow
    campaigns := store.campaigns.insert pair.workflow.campaignId pair.campaign }

/-! ### Campaigns -/

/-- The fields that a request writes to a campaign. -/
structure CampaignCreate where
  brief : CampaignBrief
  tone : String
  targetAudience : String
  promotion : Option String
  deriving DecidableEq, Repr

def createCampaign (campaignId : CampaignId) (payload : CampaignCreate) : Option WorkflowStore :=
  if campaignId ∈ store.campaigns then none
  else
    let campaign : CampaignModel :=
      { brief := payload.brief
        tone := payload.tone
        targetAudience := payload.targetAudience
        promotion := payload.promotion }
    some { store with campaigns := store.campaigns.insert campaignId campaign }

def updateCampaign (campaignId : CampaignId) (payload : CampaignCreate) : Option WorkflowStore :=
  match store.campaigns.lookup campaignId with
  | none => none
  | some campaign =>
    let campaign :=
      { campaign with
        brief := payload.brief
        tone := payload.tone
        targetAudience := payload.targetAudience
        promotion := payload.promotion
        version := campaign.version + 1 }
    some { store with campaigns := store.campaigns.insert campaignId campaign }

/-! ### Workflows -/

/-- The statuses of a workflow that is neither decided nor failed. -/
def isActiveStatus (status : CampaignStatus) : Bool :=
  status ≠ .approved ∧ status ≠ .rejected ∧ status ≠ .failed

def getActiveForCampaign (campaignId : CampaignId) : Bool :=
  store.workflows.entries.any fun entry =>
    entry.2.campaignId = campaignId ∧ isActiveStatus entry.2.status ∧ entry.2.completedAt = none

/-- The revision numbers of the workflows of a campaign that a request for a revision has closed. -/
def closedRevisions (campaignId : CampaignId) : List Nat :=
  (store.workflows.entries.filter fun entry =>
    entry.2.campaignId = campaignId ∧ entry.2.status = .revisionRequired ∧
      entry.2.completedAt ≠ none).map fun entry => entry.2.revisionNumber

/-- The highest of them. -/
def latestRevisionParentForCampaign (campaignId : CampaignId) : Option Nat :=
  (store.closedRevisions campaignId).max?

def insertWorkflow (workflowId : WorkflowId) (workflow : WorkflowRunModel) :
    Option WorkflowStore :=
  if workflowId ∈ store.workflows then none
  else some { store with workflows := store.workflows.insert workflowId workflow }

def createWorkflow (campaignId : CampaignId) (workflowId : WorkflowId) : Option WorkflowStore :=
  match store.campaigns.lookup campaignId with
  | none => none
  | some campaign =>
    if campaign.status ≠ .received ∧ campaign.status ≠ .revisionRequired then none
    else if store.getActiveForCampaign campaignId then none
    else if campaign.status = .revisionRequired then
      match store.latestRevisionParentForCampaign campaignId with
      | none => none
      | some revisionNumber =>
        store.insertWorkflow workflowId
          { campaignId
            status := .revisionRequired
            currentStep := .humanReview
            revisionNumber := revisionNumber + 1 }
    else store.insertWorkflow workflowId { campaignId }

/-! ### Decisions and actions -/

/-- An approval decision on the rows that it locks. -/
def decide (request : ApprovalRequest) (actorId : String) (actorRole : UserRole)
    (now : Timestamp) : Option WorkflowStore :=
  if isApprover actorRole then
    match store.pair request.workflowId with
    | none => none
    | some pair =>
      if pair.workflow.campaignId ≠ request.campaignId then none
      else
        match pair.decide request (request.workflowId ∈ store.approvals) actorId actorRole now with
        | .error _ => none
        | .ok (decided, record) =>
          some { store.setPair request.workflowId decided with
            approvals := store.approvals.insert request.workflowId record }
  else none

/-- The controlled actions that the registry defines, those without an effect under one name. -/
inductive CampaignAction
  | validateOnly
  | updateCampaignMetadata (tone targetAudience promotion : Option String)
  | requestCampaignRegeneration
  | markForManualReview
  deriving DecidableEq, Repr

def CampaignAction.effect : CampaignAction → ActionEffect
  | validateOnly => .validate
  | updateCampaignMetadata tone targetAudience promotion =>
    .updateMetadata tone targetAudience promotion
  | requestCampaignRegeneration => .transition .generating .generateContent
  | markForManualReview => .transition .manualReviewRequired .humanReview

/-- The statuses of campaign and workflow in which the policy lets an action be reserved. -/
def CampaignAction.allowedStatuses : CampaignAction → List CampaignStatus
  | validateOnly =>
    [.analyzing, .generating, .reviewing, .manualReviewRequired, .pendingApproval,
      .revisionRequired]
  | updateCampaignMetadata .. => [.received, .needsClarification, .revisionRequired]
  | requestCampaignRegeneration | markForManualReview => [.reviewing]

/-- The handler of an action that was reserved under `guard`. -/
def act (guard : ActionExecutionGuard) (action : CampaignAction) : Option WorkflowStore :=
  if guard.expectedCampaignStatus ∈ action.allowedStatuses ∧
      guard.expectedWorkflowStatus ∈ action.allowedStatuses then
    match store.pair guard.workflowId with
    | none => none
    | some pair =>
      if pair.workflow.campaignId ≠ guard.campaignId then none
      else
        (pair.act guard action.effect).toOption.map fun acted =>
          store.setPair guard.workflowId acted
  else none

/-! ### The runs of agents -/

/-- Whether a run of the agent on the workflow is under way. -/
def findActive (workflowId : WorkflowId) (agentName : AgentName) : Bool :=
  store.agentRuns.entries.any fun entry =>
    entry.2.workflowId = workflowId ∧ entry.2.agentName = agentName ∧ entry.2.active

def setAgentRun (agentRunId : Uuid) (run : AgentRunModel) : WorkflowStore :=
  { store with agentRuns := store.agentRuns.insert agentRunId run }

/-- A new run of an agent, unless one is under way. -/
def createRun (workflowId : WorkflowId) (agentName : AgentName) : Option WorkflowStore :=
  if store.findActive workflowId agentName then none
  else
    some { store.setAgentRun store.nextAgentRun { workflowId, agentName } with
      nextAgentRun := store.nextAgentRun + 1 }

/-- Moves a run that is in one of the statuses `from`; nothing when it is in another. -/
def moveRun (agentRunId : Uuid) (sources : List AgentRunStatus) (status : AgentRunStatus) :
    Option WorkflowStore :=
  match store.agentRuns.lookup agentRunId with
  | none => none
  | some run =>
    if run.status ∈ sources then some (store.setAgentRun agentRunId { run with status }) else none

def startRun (agentRunId : Uuid) : Option WorkflowStore :=
  store.moveRun agentRunId [.created] .running

def completeRun (agentRunId : Uuid) : Option WorkflowStore :=
  store.moveRun agentRunId [.running] .completed

def failRun (agentRunId : Uuid) (limit : Bool) : Option WorkflowStore :=
  store.moveRun agentRunId [.created, .running] (if limit then .limitExceeded else .failed)

end WorkflowStore

end CyberLegends.Workflow
