import CyberLegends.Actions.Policy

/-! The rows of action requests and of their executions, the transitions that the repositories make
on them, and the roles that a transition requires. -/

namespace CyberLegends.Actions

open CyberLegends.Core Lib Workflow

abbrev ActionRequestId := Uuid

abbrev ActionExecutionId := Uuid

instance : LawfulBEq (ActionExecutionId × OutboxEventType) := inferInstance

/-- The columns that hold the latest evaluation of the policy on a request. -/
structure LatestPolicy where
  decision : PolicyDecision
  reasonCode : String
  reason : String
  requiredRole : Option UserRole
  campaignStatus : CampaignStatus
  workflowStatus : CampaignStatus
  revisionNumber : Nat
  evaluatedAt : Timestamp

structure AgentActionRequestModel where
  agentRunId : Uuid
  workflowId : WorkflowId
  campaignId : CampaignId
  agentName : AgentName
  actionName : String
  arguments : Json
  rationaleSummary : String
  policyDecision : PolicyDecision
  policyReasonCode : String
  policyReason : String
  requiredRole : Option UserRole
  lastPolicy : LatestPolicy
  status : ActionRequestStatus := .proposed
  expiresAt : Option Timestamp := none
  approvedBy : Option String := none
  approvedRole : Option UserRole := none
  approvedAt : Option Timestamp := none
  rejectedBy : Option String := none
  rejectedAt : Option Timestamp := none
  rejectionReason : Option String := none
  version : Nat := 1
  idempotencyKey : String

/-- The columns of an execution that follow its memory entry. -/
structure MemoryColumns where
  recordStatus : MemoryRecordStatus := .notRequired
  recordAttempts : Nat := 0
  recordErrorCode : Option String := none
  recordErrorMessage : Option String := none
  recordedAt : Option Timestamp := none
  deriving DecidableEq, Repr

structure AgentActionExecutionModel where
  actionRequestId : ActionRequestId
  status : ActionExecutionStatus := .created
  idempotencyKey : String
  startedAt : Option Timestamp := none
  completedAt : Option Timestamp := none
  resultSummary : Option String := none
  errorCode : Option String := none
  errorMessage : Option String := none
  guard : ActionExecutionGuard
  memory : MemoryColumns := {}
  deriving DecidableEq, Repr

/-! ### Transitions of a request -/

namespace AgentActionRequestModel

variable (request : AgentActionRequestModel)

/-- Records an evaluation; a reason given with it takes the place of the policy's own. -/
def saveLatestPolicyResult (policy : PolicyEvaluationResult) (context : PolicyEvaluationContext)
    (reasonCode reason : Option String) (now : Timestamp) : AgentActionRequestModel :=
  { request with
    lastPolicy :=
      { decision := policy.decision
        reasonCode := reasonCode.getD policy.reasonCode
        reason := reason.getD policy.reason
        requiredRole := policy.requiredRole
        campaignStatus := context.campaignStatus
        workflowStatus := context.workflowStatus
        revisionNumber := context.revisionNumber
        evaluatedAt := now } }

def rejectAfterPolicyReevaluation (reason : String) (now : Timestamp) : AgentActionRequestModel :=
  { request with
    status := .rejected
    rejectedAt := some now
    rejectionReason := some reason
    version := request.version + 1 }

def markPendingApproval (expiresAt : Timestamp) : AgentActionRequestModel :=
  { request with
    status := .pendingApproval, expiresAt := some expiresAt, version := request.version + 1 }

/-- The row that an approval writes; nothing when its condition excludes the row. -/
def approve (actorId : String) (actorRole : UserRole) (expectedVersion : Nat) (now : Timestamp) :
    Option AgentActionRequestModel :=
  if request.version = expectedVersion ∧ request.status = .pendingApproval then
    some { request with
      status := .approved
      approvedBy := some actorId
      approvedRole := some actorRole
      approvedAt := some now
      version := request.version + 1 }
  else none

def reject (actorId reason : String) (expectedVersion : Nat) (now : Timestamp) :
    Option AgentActionRequestModel :=
  if request.version = expectedVersion ∧
      (request.status = .proposed ∨ request.status = .pendingApproval) then
    some { request with
      status := .rejected
      rejectedBy := some actorId
      rejectedAt := some now
      rejectionReason := some reason
      version := request.version + 1 }
  else none

def expire (expectedVersion : Nat) : Option AgentActionRequestModel :=
  if request.version = expectedVersion ∧
      (request.status = .pendingApproval ∨ request.status = .approved) then
    some { request with status := .expired, version := request.version + 1 }
  else none

def markExecuting : AgentActionRequestModel :=
  { request with status := .executing, version := request.version + 1 }

def markCompleted : AgentActionRequestModel :=
  { request with status := .completed, version := request.version + 1 }

def markFailed : AgentActionRequestModel :=
  { request with status := .failed, version := request.version + 1 }

end AgentActionRequestModel

/-! ### Transitions of an execution -/

namespace AgentActionExecutionModel

variable (execution : AgentActionExecutionModel)

def markRunning (now : Timestamp) : AgentActionExecutionModel :=
  { execution with status := .running, startedAt := some now }

def memoryPending : MemoryColumns := { execution.memory with recordStatus := .pending }

def markCompleted (resultSummary : String) (now : Timestamp) : AgentActionExecutionModel :=
  { execution with
    status := .completed
    resultSummary := some resultSummary
    completedAt := some now
    memory := execution.memoryPending }

def markFailed (errorCode errorMessage : String) (now : Timestamp) : AgentActionExecutionModel :=
  { execution with
    status := .failed
    errorCode := some errorCode
    errorMessage := some errorMessage
    completedAt := some now
    memory := execution.memoryPending }

def markCancelled (errorMessage : String) (now : Timestamp) : AgentActionExecutionModel :=
  { execution with
    status := .cancelled
    errorCode := some "ACTION_CANCELLED"
    errorMessage := some errorMessage
    completedAt := some now
    memory := execution.memoryPending }

end AgentActionExecutionModel

namespace MemoryColumns

variable (columns : MemoryColumns)

def startMemoryRecordAttempt : MemoryColumns :=
  { columns with
    recordStatus := .pending
    recordAttempts := columns.recordAttempts + 1
    recordErrorCode := none
    recordErrorMessage := none }

def markMemoryRecorded (now : Timestamp) : MemoryColumns :=
  { columns with
    recordStatus := .recorded
    recordedAt := some now
    recordErrorCode := none
    recordErrorMessage := none }

def markMemoryRecordFailed (errorCode errorMessage : String) : MemoryColumns :=
  { columns with
    recordStatus := .failed
    recordErrorCode := some errorCode
    recordErrorMessage := some errorMessage }

end MemoryColumns

/-! ### Errors and roles -/

inductive ActionError
  | requestNotFound (message : String)
  | scopeConflict (message : String)
  | expired (message : String)
  | executionConflict (message : String)
  | versionConflict (message : String)
  | alreadyDecided (message : String)
  | policyReevaluationDenied (message : String)
  | policyApprovalRequired (message : String)
  | approvalRequired (message : String)
  | policyDenied (message : String)
  | authorization (message : String)
  deriving DecidableEq, Repr

/-- The level of a role in decisions on actions, for the roles that have one. -/
def actionRoleLevel : UserRole → Option Nat
  | .reviewer => some 1
  | .manager => some 2
  | .admin => some 3
  | _ => none

def roleSatisfiesRequirement : Option UserRole → Option UserRole → Bool
  | some actual, some required =>
    (actionRoleLevel actual).getD 0 ≥ (actionRoleLevel required).getD 99
  | _, required => required.isNone

structure AuthenticatedActor where
  actorId : String
  role : UserRole
  deriving DecidableEq, Repr

/-- The actor id under which an agent acts. -/
def agentActorId (agentName : AgentName) : String := "agent:" ++ agentName.value

def requireActionApproval (actor : AuthenticatedActor) (requiredRole : Option UserRole)
    (agentName : AgentName) : Except ActionError Unit :=
  if actor.role = .system ∨ actor.actorId = agentActorId agentName then
    .error (.authorization "Agents and SYSTEM cannot approve actions")
  else if !roleSatisfiesRequirement (some actor.role) (some (requiredRole.getD .admin)) then
    .error (.authorization "Actor role cannot approve this action")
  else .ok ()

def requireActionExecution (actor : AuthenticatedActor) (requiredRole : Option UserRole) :
    Except ActionError Unit :=
  if actor.role = .system then
    .error (.authorization "SYSTEM cannot execute approved human actions")
  else if !roleSatisfiesRequirement (some actor.role) (some (requiredRole.getD .admin)) then
    .error (.authorization "Actor role cannot execute this action")
  else .ok ()

theorem requireActionApproval_ok {actor : AuthenticatedActor} {requiredRole : Option UserRole}
    {agentName : AgentName} (h : requireActionApproval actor requiredRole agentName = .ok ()) :
    actor.role ≠ .system ∧ actor.actorId ≠ agentActorId agentName := by
  unfold requireActionApproval at h
  split at h
  · cases h
  · rename_i human
    exact not_or.mp human

end CyberLegends.Actions
