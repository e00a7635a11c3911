import CyberLegends.Actions.Repository
import CyberLegends.Workflow.Sessions

/-! The reservation of an execution and its finalization. A reservation locks the campaign, the
workflow and the request, evaluates the policy again on the rows as they are committed, and holds the
locks until it commits or rolls back, so it is one step. -/

namespace CyberLegends.Actions

open CyberLegends.Core Lib Workflow

/-- The tables that a reservation reads. -/
structure ActionStore where
  db : Database := {}
  requests : Table ActionRequestId AgentActionRequestModel := ∅
  executions : Table ActionExecutionId AgentActionExecutionModel := ∅

/-- The end of a reservation that reserves nothing: the request as it commits it, nothing when it
rolls back, and the error that it raises. -/
structure Refusal where
  committed : Option AgentActionRequestModel
  error : ActionError

/-- What a reservation commits. -/
structure Reservation where
  request : AgentActionRequestModel
  execution : AgentActionExecutionModel

def rollback {α : Type} (error : ActionError) : Except Refusal α :=
  .error { committed := none, error }

def commitAndRaise {α : Type} (request : AgentActionRequestModel) (error : ActionError) :
    Except Refusal α :=
  .error { committed := some request, error }

/-- The count of the requests of a workflow, of which a listing shows a hundred. -/
def ActionStore.previousActionCount (store : ActionStore) (workflowId : WorkflowId) : Nat :=
  min 100 (store.requests.entries.countP fun entry => entry.2.workflowId = workflowId)

/-- The context in which the policy on a request is evaluated again. -/
def ActionStore.context (store : ActionStore) (request : AgentActionRequestModel)
    (campaign : CampaignModel) (workflow : WorkflowRunModel) : PolicyEvaluationContext where
  agentRunId := request.agentRunId
  workflowId := request.workflowId
  campaignId := request.campaignId
  agentName := request.agentName
  actionName := request.actionName
  arguments := request.arguments
  campaignStatus := campaign.status
  workflowStatus := workflow.status
  actorId := request.approvedBy
  actorRole := request.approvedRole
  revisionNumber := workflow.revisionNumber
  previousActionCount := store.previousActionCount request.workflowId

/-! ### Reservation -/

/-- The refusals that a fresh policy result leads to. -/
def authorize (settings : Settings) (request : AgentActionRequestModel)
    (current : PolicyEvaluationResult) (context : PolicyEvaluationContext) (now : Timestamp) :
    Except Refusal Unit :=
  if current.decision = .forbidden then
    let reason := "Fresh policy denied execution: " ++ current.reason
    commitAndRaise
      ((request.saveLatestPolicyResult current context (some "POLICY_REEVALUATION_DENIED")
        (some reason) now).rejectAfterPolicyReevaluation reason now)
      (.policyReevaluationDenied "Action is no longer allowed by current policy")
  else if request.expiresAt.any fun expiry => expiry ≤ now then
    commitAndRaise ((request.expire request.version).getD request)
      (.expired "Action request has expired")
  else if current.decision = .approvalRequired then
    if request.status = .proposed then
      let ttl := (current.expiresIn.map ApprovalTtl.seconds).getD settings.actionApprovalTtlSeconds
      commitAndRaise
        ((request.saveLatestPolicyResult current context
          (some "POLICY_REEVALUATION_APPROVAL_REQUIRED")
          (some "Fresh policy now requires human approval") now).markPendingApproval
            (now + seconds ttl))
        (.policyApprovalRequired "Fresh policy requires human approval")
    else if request.status ≠ .approved then
      commitAndRaise request (.approvalRequired "Action requires human approval")
    else if !roleSatisfiesRequirement request.approvedRole current.requiredRole then
      let reason := "Existing approval does not satisfy the current required role"
      commitAndRaise
        ((request.saveLatestPolicyResult current context
          (some "POLICY_REEVALUATION_APPROVAL_REQUIRED")
          (some reason) now).rejectAfterPolicyReevaluation reason now)
        (.policyApprovalRequired reason)
    else .ok ()
  else if request.policyDecision = .approvalRequired ∧ request.status ≠ .approved then
    commitAndRaise request
      (.policyApprovalRequired "Original request lifecycle still requires human approval")
  else if request.status ≠ .proposed ∧ request.status ≠ .approved then
    rollback (.executionConflict "Action is no longer executable")
  else .ok ()

/-- The execution of an authorized request. The table of executions holds at most one for each
request and one for each idempotency key. -/
def createExecution (store : ActionStore) (requestId : ActionRequestId)
    (request : AgentActionRequestModel) (definition : Option ActionDefinition)
    (guard : ActionExecutionGuard) (now : Timestamp) : Except Refusal Reservation :=
  if store.executions.entries.any fun entry =>
      entry.2.idempotencyKey = request.idempotencyKey then
    rollback (.executionConflict "Action has already been executed")
  else if definition.isNone then
    rollback (.policyDenied "Unregistered action cannot execute")
  else if store.executions.entries.any fun entry => entry.2.actionRequestId = requestId then
    rollback (.executionConflict "Action execution already exists")
  else
    let execution : AgentActionExecutionModel :=
      { actionRequestId := requestId, idempotencyKey := request.idempotencyKey, guard }
    .ok { request := request.markExecuting, execution := execution.markRunning now }

/-- The reservation of a request whose rows are locked. -/
def reserveLocked (registry : ActionRegistry) (settings : Settings) (store : ActionStore)
    (requestId : ActionRequestId) (request : AgentActionRequestModel) (campaign : CampaignModel)
    (workflow : WorkflowRunModel) (expectedVersion : Option Nat) (now : Timestamp) :
    Except Refusal Reservation :=
  if request.status = .expired then
    rollback (.expired "Action request has expired")
  else if request.status ∈ ([.executing, .completed, .failed, .rejected] :
      List ActionRequestStatus) then
    rollback (.executionConflict "Action has already been executed")
  else if expectedVersion.any fun version => request.version ≠ version then
    rollback (.versionConflict "Action request version is stale")
  else do
    let definition := registry.get request.actionName
    let context := store.context request campaign workflow
    let current := evaluate context definition
    let request := request.saveLatestPolicyResult current context none none now
    authorize settings request current context now
    createExecution store requestId request definition
      { campaignId := request.campaignId
        workflowId := request.workflowId
        expectedCampaignStatus := campaign.status
        expectedCampaignVersion := campaign.version
        expectedWorkflowStatus := workflow.status
        expectedRevisionNumber := workflow.revisionNumber }
      now

/-- A reservation, which locks the campaign and the workflow that its hint names. -/
def reserve (registry : ActionRegistry) (settings : Settings) (store : ActionStore)
    (requestId : ActionRequestId) (campaignId : CampaignId) (workflowId : WorkflowId)
    (expectedVersion : Option Nat) (now : Timestamp) : Except Refusal Reservation :=
  match store.db.campaigns.lookup campaignId with
  | none => rollback (.scopeConflict "Action campaign scope is unavailable")
  | some campaign =>
    match store.db.workflows.lookup workflowId with
    | none => rollback (.scopeConflict "Action workflow scope is invalid")
    | some workflow =>
      if workflow.campaignId ≠ campaignId then
        rollback (.scopeConflict "Action workflow scope is invalid")
      else
        match store.requests.lookup requestId with
        | none => rollback (.scopeConflict "Action request scope changed")
        | some request =>
          if request.campaignId ≠ campaignId ∨ request.workflowId ≠ workflowId then
            rollback (.scopeConflict "Action request scope changed")
          else
            reserveLocked registry settings store requestId request campaign workflow
              expectedVersion now

/-! ### Finalization -/

/-- How the handler of an action ends. -/
inductive HandlerOutcome
  | success (resultSummary : String)
  | failure (errorCode errorMessage : String)
  | cancelled
  deriving DecidableEq, Repr

def HandlerOutcome.finishExecution (execution : AgentActionExecutionModel) (now : Timestamp) :
    HandlerOutcome → AgentActionExecutionModel
  | success resultSummary => execution.markCompleted resultSummary now
  | failure errorCode errorMessage => execution.markFailed errorCode errorMessage now
  | cancelled => execution.markCancelled "Action execution was cancelled" now

def HandlerOutcome.finishRequest (request : AgentActionRequestModel) :
    HandlerOutcome → AgentActionRequestModel
  | success _ => request.markCompleted
  | _ => request.markFailed

/-- The outbox event of a finalization; a cancelled execution has none. -/
def HandlerOutcome.eventType : HandlerOutcome → Option OutboxEventType
  | success _ => some .actionCompleted
  | failure _ _ => some .actionFailed
  | cancelled => none

/-- The rows that a finalization locks; an execution that has ended is refused. -/
def requiredRows (store : ActionStore) (requestId : ActionRequestId)
    (executionId : ActionExecutionId) :
    Except ActionError (AgentActionRequestModel × AgentActionExecutionModel) :=
  match store.requests.lookup requestId with
  | none => .error (.requestNotFound "Action request not found")
  | some request =>
    match store.executions.lookup executionId with
    | none => .error (.executionConflict "Action execution audit is missing")
    | some execution =>
      if execution.status ≠ .running then
        .error (.executionConflict "Action execution is already terminal")
      else .ok (request, execution)

end CyberLegends.Actions
