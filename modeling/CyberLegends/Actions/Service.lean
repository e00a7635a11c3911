import CyberLegends.Actions.Executor
import CyberLegends.Lib.Machine

/-! The service of controlled actions. A call reads without a lock, checks what it has read and issues
its statement afterwards, so that calls of other callers may come between. -/

namespace CyberLegends.Actions

open CyberLegends.Core Lib Workflow

abbrev CallerId := Nat

structure AgentRunModel where
  workflowId : WorkflowId
  campaignId : CampaignId
  agentName : AgentName
  deriving DecidableEq, Repr

/-- What an agent proposes, its texts and arguments sanitized. -/
structure AgentActionProposal where
  actionName : String
  arguments : Json
  rationaleSummary : String

/-- A proposal with the policy evaluated on it. -/
structure EvaluatedProposal where
  rationaleSummary : String
  context : PolicyEvaluationContext
  policy : PolicyEvaluationResult

/-- What a caller does next. -/
inductive ActionCall
  | propose (proposal : EvaluatedProposal)
  | approve (requestId : ActionRequestId) (actor : AuthenticatedActor) (expectedVersion : Nat)
  | reject (requestId : ActionRequestId) (actor : AuthenticatedActor) (reason : String)
      (expectedVersion : Nat)
  | expire (requestId : ActionRequestId) (expectedVersion : Nat)
  | execute (requestId : ActionRequestId) (expectedVersion : Option Nat)
  | reserve (requestId : ActionRequestId) (expectedVersion : Option Nat)
      (campaignId : CampaignId) (workflowId : WorkflowId)
  | handle (requestId : ActionRequestId) (executionId : ActionExecutionId)

structure ActionWorld extends ActionStore where
  runs : Table Uuid AgentRunModel := ∅
  /-- The executions with an outbox event, and the types of their events. -/
  events : List (ActionExecutionId × OutboxEventType) := []
  calls : Table CallerId ActionCall := ∅

/-- What the actions are configured with. The idempotency key of a proposal is a hash of its scope,
its action and its normalized arguments. -/
structure ActionConfig where
  settings : Settings := {}
  registry : ActionRegistry
  buildIdempotencyKey : CampaignId → WorkflowId → Nat → String → Json → String

namespace ActionWorld

variable (config : ActionConfig) (w : ActionWorld)

def setCall (caller : CallerId) (call : ActionCall) : ActionWorld :=
  { w with calls := w.calls.insert caller call }

def endCall (caller : CallerId) : ActionWorld := { w with calls := w.calls.erase caller }

def setRequest (requestId : ActionRequestId) (request : AgentActionRequestModel) : ActionWorld :=
  { w with requests := w.requests.insert requestId request }

/-! ### The unlocked beginnings of calls -/

/-- The policy on a proposal, in the campaign and workflow of its agent run. -/
def evaluateProposal (agentRunId : Uuid) (agentName : AgentName)
    (proposal : AgentActionProposal) : Option EvaluatedProposal := do
  let run ← w.runs.lookup agentRunId
  let campaign ← w.db.campaigns.lookup run.campaignId
  let workflow ← w.db.workflows.lookup run.workflowId
  if run.agentName ≠ agentName then none
  else
    let context : PolicyEvaluationContext :=
      { agentRunId
        workflowId := run.workflowId
        campaignId := run.campaignId
        agentName
        actionName := proposal.actionName
        arguments := proposal.arguments
        campaignStatus := campaign.status
        workflowStatus := workflow.status
        revisionNumber := workflow.revisionNumber
        previousActionCount := w.previousActionCount run.workflowId }
    some
      { rationaleSummary := proposal.rationaleSummary
        context
        policy := evaluate context (config.registry.get proposal.actionName) }

def propose (caller : CallerId) (agentRunId : Uuid) (agentName : AgentName)
    (proposal : AgentActionProposal) : ActionWorld :=
  match w.evaluateProposal config agentRunId agentName proposal with
  | none => w.endCall caller
  | some evaluated => w.setCall caller (.propose evaluated)

/-- The checks that an approval and a rejection make on the request as they have read it. -/
def checkDecision (request : AgentActionRequestModel) (actor : AuthenticatedActor)
    (expectedVersion : Nat) : Except ActionError Unit := do
  requireActionApproval actor request.requiredRole request.agentName
  if request.version ≠ expectedVersion then
    .error (.versionConflict "Action request version is stale")
  else if request.status ≠ .pendingApproval then
    .error (.alreadyDecided "Action request is not pending approval")
  else .ok ()

def approve (caller : CallerId) (requestId : ActionRequestId) (actor : AuthenticatedActor)
    (expectedVersion : Nat) (now : Timestamp) : ActionWorld :=
  match w.requests.lookup requestId with
  | none => w.endCall caller
  | some request =>
    match checkDecision request actor expectedVersion with
    | .error _ => w.endCall caller
    | .ok () =>
      if request.expiresAt.any fun expiry => expiry ≤ now then
        w.setCall caller (.expire requestId expectedVersion)
      else w.setCall caller (.approve requestId actor expectedVersion)

def reject (caller : CallerId) (requestId : ActionRequestId) (actor : AuthenticatedActor)
    (expectedVersion : Nat) (reason : String) : ActionWorld :=
  match w.requests.lookup requestId with
  | none => w.endCall caller
  | some request =>
    match checkDecision request actor expectedVersion with
    | .error _ => w.endCall caller
    | .ok () => w.setCall caller (.reject requestId actor reason expectedVersion)

def execute (caller : CallerId) (requestId : ActionRequestId) (actor : AuthenticatedActor)
    (expectedVersion : Nat) : ActionWorld :=
  match w.requests.lookup requestId with
  | none => w.endCall caller
  | some request =>
    match requireActionExecution actor request.requiredRole with
    | .error _ => w.endCall caller
    | .ok () => w.setCall caller (.execute requestId (some expectedVersion))

/-! ### Their statements and commits -/

/-- The row of a new request. -/
def createProposal (evaluated : EvaluatedProposal) (now : Timestamp) : AgentActionRequestModel :=
  let context := evaluated.context
  let policy := evaluated.policy
  let ttl := (policy.expiresIn.map ApprovalTtl.seconds).getD
    config.settings.actionApprovalTtlSeconds
  { agentRunId := context.agentRunId
    workflowId := context.workflowId
    campaignId := context.campaignId
    agentName := context.agentName
    actionName := context.actionName
    arguments := context.arguments
    rationaleSummary := evaluated.rationaleSummary
    policyDecision := policy.decision
    policyReasonCode := policy.reasonCode
    policyReason := policy.reason
    requiredRole := policy.requiredRole
    lastPolicy :=
      { decision := policy.decision
        reasonCode := policy.reasonCode
        reason := policy.reason
        requiredRole := policy.requiredRole
        campaignStatus := context.campaignStatus
        workflowStatus := context.workflowStatus
        revisionNumber := context.revisionNumber
        evaluatedAt := now }
    status :=
      match policy.decision with
      | .safe => .proposed
      | .approvalRequired => .pendingApproval
      | .forbidden => .rejected
    expiresAt := if policy.decision = .approvalRequired then some (now + seconds ttl) else none
    rejectedAt := if policy.decision = .forbidden then some now else none
    rejectionReason := if policy.decision = .forbidden then some policy.reason else none
    idempotencyKey := config.buildIdempotencyKey context.campaignId context.workflowId
      context.revisionNumber context.actionName context.arguments }

/-- Inserts a proposal unless a request has its key; a safe one is executed at once. -/
def insertProposal (caller : CallerId) (requestId : ActionRequestId)
    (evaluated : EvaluatedProposal) (now : Timestamp) : ActionWorld :=
  let request := createProposal config evaluated now
  if (w.requests.entries.any fun entry => entry.2.idempotencyKey = request.idempotencyKey) ∨
      requestId ∈ w.requests then
    w.endCall caller
  else
    let inserted := w.setRequest requestId request
    if evaluated.policy.decision = .safe then inserted.setCall caller (.execute requestId none)
    else inserted.endCall caller

/-- A conditional update of a request, which ends its call whether or not it finds its row. -/
def updateRequest (caller : CallerId) (requestId : ActionRequestId)
    (update : AgentActionRequestModel → Option AgentActionRequestModel) : ActionWorld :=
  match (w.requests.lookup requestId).bind update with
  | none => w.endCall caller
  | some request => (w.setRequest requestId request).endCall caller

/-- The reservation of an execution under a new identifier. -/
def reserve (caller : CallerId) (requestId : ActionRequestId) (expectedVersion : Option Nat)
    (campaignId : CampaignId) (workflowId : WorkflowId) (executionId : ActionExecutionId)
    (now : Timestamp) : ActionWorld :=
  match Actions.reserve config.registry config.settings w.toActionStore requestId campaignId
      workflowId expectedVersion now with
  | .error { committed := none, .. } => w.endCall caller
  | .error { committed := some request, .. } => (w.setRequest requestId request).endCall caller
  | .ok { request, execution } =>
    if executionId ∈ w.executions then w.endCall caller
    else
      { w.setRequest requestId request with
        executions := w.executions.insert executionId execution }.setCall caller
          (.handle requestId executionId)

/-- What a caller does next, `identifier` being the identifier of a row that it inserts. -/
def proceed (caller : CallerId) (identifier : Uuid) (now : Timestamp) : ActionWorld :=
  match w.calls.lookup caller with
  | none => w
  | some (.propose evaluated) => w.insertProposal config caller identifier evaluated now
  | some (.approve requestId actor expectedVersion) =>
    w.updateRequest caller requestId fun request =>
      request.approve actor.actorId actor.role expectedVersion now
  | some (.reject requestId actor reason expectedVersion) =>
    w.updateRequest caller requestId fun request =>
      request.reject actor.actorId reason expectedVersion now
  | some (.expire requestId expectedVersion) =>
    w.updateRequest caller requestId fun request => request.expire expectedVersion
  | some (.execute requestId expectedVersion) =>
    match w.requests.lookup requestId with
    | none => w.endCall caller
    | some hint =>
      w.setCall caller (.reserve requestId expectedVersion hint.campaignId hint.workflowId)
  | some (.reserve requestId expectedVersion campaignId workflowId) =>
    w.reserve config caller requestId expectedVersion campaignId workflowId identifier now
  | some (.handle _ _) => w

def addEvent (executionId : ActionExecutionId) : Option OutboxEventType → ActionWorld
  | none => w
  | some eventType =>
    if (executionId, eventType) ∈ w.events then w
    else { w with events := (executionId, eventType) :: w.events }

/-- The finalization of an execution whose handler has ended. -/
def finish (caller : CallerId) (outcome : HandlerOutcome) (now : Timestamp) : ActionWorld :=
  match w.calls.lookup caller with
  | some (.handle requestId executionId) =>
    match requiredRows w.toActionStore requestId executionId with
    | .error _ => w.endCall caller
    | .ok (request, execution) =>
      ({ w.setRequest requestId (outcome.finishRequest request) with
        executions := w.executions.insert executionId
          (outcome.finishExecution execution now) }.addEvent executionId
            outcome.eventType).endCall caller
  | _ => w

end ActionWorld

inductive ActionEvent
  /-- Anything that others do to campaigns, workflows and agent runs. -/
  | elsewhere (db : Database) (runs : Table Uuid AgentRunModel)
  | propose (caller : CallerId) (agentRunId : Uuid) (agentName : AgentName)
      (proposal : AgentActionProposal)
  | approve (caller : CallerId) (requestId : ActionRequestId) (actor : AuthenticatedActor)
      (expectedVersion : Nat) (now : Timestamp)
  | reject (caller : CallerId) (requestId : ActionRequestId) (actor : AuthenticatedActor)
      (expectedVersion : Nat) (reason : String)
  | execute (caller : CallerId) (requestId : ActionRequestId) (actor : AuthenticatedActor)
      (expectedVersion : Nat)
  | proceed (caller : CallerId) (identifier : Uuid) (now : Timestamp)
  | finish (caller : CallerId) (outcome : HandlerOutcome) (now : Timestamp)
  | abandon (caller : CallerId)

def ActionWorld.step (config : ActionConfig) (w : ActionWorld) : ActionEvent → ActionWorld
  | .elsewhere db runs => { w with db, runs }
  | .propose caller agentRunId agentName proposal =>
    w.propose config caller agentRunId agentName proposal
  | .approve caller requestId actor expectedVersion now =>
    w.approve caller requestId actor expectedVersion now
  | .reject caller requestId actor expectedVersion reason =>
    w.reject caller requestId actor expectedVersion reason
  | .execute caller requestId actor expectedVersion =>
    w.execute caller requestId actor expectedVersion
  | .proceed caller identifier now => w.proceed config caller identifier now
  | .finish caller outcome now => w.finish caller outcome now
  | .abandon caller => w.endCall caller

/-- Any number of callers, from the empty tables. -/
def actionMachine (config : ActionConfig) : Machine ActionWorld ActionEvent where
  init := {}
  step := ActionWorld.step config

end CyberLegends.Actions
