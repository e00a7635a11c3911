import CyberLegends.Actions.Service
import CyberLegends.Jobs.Worker

/-! The executor of controlled actions, one step for each of its transactions: the reservation on the
request as its session has loaded it, the handler, the finalization, and the memory of how the action
ended, which reconcilers record as well. -/

namespace CyberLegends.Actions

open CyberLegends.Core Lib Workflow Jobs

/-! ### Rows of a session -/

/-- The flush of the latest policy, column by column. -/
def LatestPolicy.flush (loaded assigned committed : LatestPolicy) : LatestPolicy where
  decision := Lib.flush loaded.decision assigned.decision committed.decision
  reasonCode := Lib.flush loaded.reasonCode assigned.reasonCode committed.reasonCode
  reason := Lib.flush loaded.reason assigned.reason committed.reason
  requiredRole := Lib.flush loaded.requiredRole assigned.requiredRole committed.requiredRole
  campaignStatus := Lib.flush loaded.campaignStatus assigned.campaignStatus committed.campaignStatus
  workflowStatus := Lib.flush loaded.workflowStatus assigned.workflowStatus committed.workflowStatus
  revisionNumber := Lib.flush loaded.revisionNumber assigned.revisionNumber committed.revisionNumber
  evaluatedAt := Lib.flush loaded.evaluatedAt assigned.evaluatedAt committed.evaluatedAt

/-- The flush of a request; a reservation assigns none of the other columns. -/
def AgentActionRequestModel.flush (loaded assigned committed : AgentActionRequestModel) :
    AgentActionRequestModel :=
  { committed with
    lastPolicy := loaded.lastPolicy.flush assigned.lastPolicy committed.lastPolicy
    status := Lib.flush loaded.status assigned.status committed.status
    expiresAt := Lib.flush loaded.expiresAt assigned.expiresAt committed.expiresAt
    rejectedAt := Lib.flush loaded.rejectedAt assigned.rejectedAt committed.rejectedAt
    rejectionReason :=
      Lib.flush loaded.rejectionReason assigned.rejectionReason committed.rejectionReason
    version := Lib.flush loaded.version assigned.version committed.version }

/-- The request that a refused reservation commits. -/
def AgentActionRequestModel.commitRefusal (loaded assigned committed : AgentActionRequestModel) :
    AgentActionRequestModel :=
  if assigned.status = .expired then
    -- an expiry is a conditional statement on the committed row
    let flushed := loaded.flush
      { assigned with status := loaded.status, version := loaded.version } committed
    (flushed.expire loaded.version).getD flushed
  else loaded.flush assigned committed

def MemoryColumns.flush (loaded assigned committed : MemoryColumns) : MemoryColumns where
  recordStatus := Lib.flush loaded.recordStatus assigned.recordStatus committed.recordStatus
  recordAttempts := Lib.flush loaded.recordAttempts assigned.recordAttempts committed.recordAttempts
  recordErrorCode :=
    Lib.flush loaded.recordErrorCode assigned.recordErrorCode committed.recordErrorCode
  recordErrorMessage :=
    Lib.flush loaded.recordErrorMessage assigned.recordErrorMessage committed.recordErrorMessage
  recordedAt := Lib.flush loaded.recordedAt assigned.recordedAt committed.recordedAt

/-- A reservation on the request as the session has loaded it; the lock does not refresh it. -/
def reserveLoaded (registry : ActionRegistry) (settings : Settings) (store : ActionStore)
    (requestId : ActionRequestId) (hint : AgentActionRequestModel) (expectedVersion : Option Nat)
    (now : Timestamp) : Except Refusal Reservation :=
  match store.db.campaigns.lookup hint.campaignId with
  | none => rollback (.scopeConflict "Action campaign scope is unavailable")
  | some campaign =>
    match store.db.workflows.lookup hint.workflowId with
    | none => rollback (.scopeConflict "Action workflow scope is invalid")
    | some workflow =>
      if workflow.campaignId ≠ hint.campaignId then
        rollback (.scopeConflict "Action workflow scope is invalid")
      else if requestId ∉ store.requests then
        rollback (.scopeConflict "Action request scope changed")
      else
        reserveLocked registry settings store requestId hint campaign workflow expectedVersion now

/-! ### Errors -/

/-- What an awaited call raises: an error of the application, a timeout, or anything else. -/
inductive Failure
  | application (errorCode errorMessage : String) (retryable : Bool)
  | timeout
  | other (retryable : Bool)
  deriving DecidableEq, Repr

namespace Failure

/-- The error as the worker of a job sees it. -/
def toHandlerError : Failure → HandlerError
  | application errorCode errorMessage retryable => .failure errorCode errorMessage retryable
  | timeout => .failure "JOB_HANDLER_ERROR" "Background job handler failed" false
  | other retryable => .failure "JOB_HANDLER_ERROR" "Background job handler failed" retryable

/-- The code, the message and the kind of the error that the executor makes of one inside its try
block. -/
def wrap : Failure → String × String × Bool
  | application errorCode errorMessage retryable => (errorCode, errorMessage, retryable)
  | timeout => ("ACTION_EXECUTION_ERROR", "Action execution timed out", false)
  | other _ => ("ACTION_EXECUTION_ERROR", "Controlled action execution failed", false)

/-- The code and the message under which a memory attempt is recorded as failed. -/
def memoryError : Failure → String × String
  | application errorCode errorMessage _ => (errorCode, errorMessage)
  | _ => ("MEMORY_RECORDING_ERROR", "Action memory recording failed")

end Failure

namespace ActionError

def errorCode : ActionError → String
  | requestNotFound _ => "ACTION_REQUEST_NOT_FOUND"
  | scopeConflict _ => "ACTION_SCOPE_CONFLICT"
  | expired _ => "ACTION_EXPIRED"
  | executionConflict _ => "ACTION_EXECUTION_CONFLICT"
  | versionConflict _ => "ACTION_VERSION_CONFLICT"
  | alreadyDecided _ => "ACTION_ALREADY_DECIDED"
  | policyReevaluationDenied _ => "POLICY_REEVALUATION_DENIED"
  | policyApprovalRequired _ => "POLICY_REEVALUATION_APPROVAL_REQUIRED"
  | approvalRequired _ => "ACTION_APPROVAL_REQUIRED"
  | policyDenied _ => "POLICY_DENIED"
  | authorization _ => "AUTHORIZATION_ERROR"

def message : ActionError → String
  | requestNotFound message | scopeConflict message | expired message | executionConflict message
  | versionConflict message | alreadyDecided message | policyReevaluationDenied message
  | policyApprovalRequired message | approvalRequired message | policyDenied message
  | authorization message => message

def failure (error : ActionError) : Failure := .application error.errorCode error.message false

end ActionError

/-! ### Where executors and reconcilers stand -/

/-- The next transaction of the record of a terminal execution, with the columns of the execution that
its session has loaded. -/
inductive RecordStage
  | start (loaded : Option MemoryColumns)
  | insert (loaded : MemoryColumns)
  | mark (loaded : Option MemoryColumns)
  | fail (errorCode errorMessage : String)
  deriving DecidableEq, Repr

/-- What one transaction of a record leads to. -/
inductive RecordOutcome
  | continues (stage : RecordStage)
  | returns
  | raises (failure : Failure)
  deriving DecidableEq, Repr

/-- The kind of memory entry about the end of an execution. -/
def HandlerOutcome.memoryEventType : HandlerOutcome → MemoryEventType
  | success _ => .actionCompleted
  | _ => .actionFailed

/-- The next step of an executor. A finalization and the record that follows it come with the error
that is raised at their end; the one without an error is inside the try block. -/
inductive Executor
  | hint (requestId : ActionRequestId) (expectedVersion : Option Nat)
  | reserve (requestId : ActionRequestId) (expectedVersion : Option Nat)
      (hint : AgentActionRequestModel)
  | start (requestId : ActionRequestId) (executionId : ActionExecutionId)
  | handle (requestId : ActionRequestId) (executionId : ActionExecutionId)
  | finalize (requestId : ActionRequestId) (executionId : ActionExecutionId)
      (outcome : HandlerOutcome) (raised : Option HandlerError)
  | record (requestId : ActionRequestId) (executionId : ActionExecutionId)
      (eventType : MemoryEventType) (raised : Option HandlerError) (stage : RecordStage)

/-- The next step of a reconciler. -/
inductive Reconciler
  | next (executionIds : List ActionExecutionId)
  | record (requestId : ActionRequestId) (executionId : ActionExecutionId)
      (eventType : MemoryEventType) (stage : RecordStage) (executionIds : List ActionExecutionId)
  deriving DecidableEq, Repr

/-- What the outside world answers: an identifier for a new row, the result of the action, or an
error. -/
inductive Answer
  | proceed (identifier : Uuid)
  | success (resultSummary : String)
  | error (failure : Failure)
  deriving DecidableEq, Repr

structure MemoryEntry where
  campaignId : CampaignId
  workflowId : WorkflowId
  agentRunId : Uuid
  actionRequestId : ActionRequestId
  actionExecutionId : ActionExecutionId
  eventType : MemoryEventType
  importance : Nat
  deriving DecidableEq, Repr

inductive Activity
  | executor (executor : Executor)
  | reconciler (reconciler : Reconciler)

/-- The service with its executors and reconcilers, the memory entries about executions, and the
requests whose handlers have been started, one entry for each start. -/
structure ExecutorWorld extends ActionWorld where
  entries : List MemoryEntry := []
  handled : List ActionRequestId := []
  activities : Table CallerId Activity := ∅

namespace ExecutorWorld

variable (config : ActionConfig) (now : Timestamp) (w : ExecutorWorld)

def setRequest (requestId : ActionRequestId) (request : AgentActionRequestModel) : ExecutorWorld :=
  { w with requests := w.requests.insert requestId request }

def setExecution (executionId : ActionExecutionId) (execution : AgentActionExecutionModel) :
    ExecutorWorld :=
  { w with executions := w.executions.insert executionId execution }

def addEvent (executionId : ActionExecutionId) (eventType : OutboxEventType) : ExecutorWorld :=
  if (executionId, eventType) ∈ w.events then w
  else { w with events := (executionId, eventType) :: w.events }

/-! ### The memory of an execution -/

/-- The kind of memory entry about a terminal execution. -/
def eventTypeOf (status : ActionExecutionStatus) : MemoryEventType :=
  if status = .completed then .actionCompleted else .actionFailed

def importanceOf (eventType : MemoryEventType) : Nat :=
  if eventType = .actionCompleted then 4 else 5

def agentContextError (message : String) : Failure :=
  .application "AGENT_CONTEXT_ERROR" message false

/-- The checks of the scope of an entry. -/
def validateScope (entry : MemoryEntry) : Except Failure Unit :=
  match w.db.campaigns.lookup entry.campaignId with
  | none => .error (.application "CAMPAIGN_NOT_FOUND" "Campaign not found" false)
  | some _ =>
    match w.db.workflows.lookup entry.workflowId with
    | none => .error (.application "WORKFLOW_NOT_FOUND" "Workflow not found" false)
    | some workflow =>
      if workflow.campaignId ≠ entry.campaignId then
        .error (agentContextError "Memory workflow scope does not match campaign")
      else if !(w.runs.lookup entry.agentRunId).any (fun run =>
          run.campaignId = entry.campaignId ∧ run.workflowId = entry.workflowId) then
        .error (agentContextError "Memory Agent run scope is invalid")
      else if !(w.requests.lookup entry.actionRequestId).any (fun request =>
          request.campaignId = entry.campaignId ∧ request.workflowId = entry.workflowId ∧
            request.agentRunId = entry.agentRunId) then
        .error (agentContextError "Memory action request scope is invalid")
      else if !(w.executions.lookup entry.actionExecutionId).any (fun execution =>
          execution.actionRequestId = entry.actionRequestId) then
        .error (agentContextError "Memory action execution scope is invalid")
      else .ok ()

/-- The entry that the record of an execution inserts. -/
def memoryEntry (requestId : ActionRequestId) (request : AgentActionRequestModel)
    (executionId : ActionExecutionId) (eventType : MemoryEventType) : MemoryEntry where
  campaignId := request.campaignId
  workflowId := request.workflowId
  agentRunId := request.agentRunId
  actionRequestId := requestId
  actionExecutionId := executionId
  eventType := eventType
  importance := importanceOf eventType

/-- The insertion of an entry, unless the execution has one of its kind. Whether the session still
has the execution loaded afterwards is returned with it. -/
def recordEvent (entry : MemoryEntry) : Except Failure (ExecutorWorld × Bool) := do
  w.validateScope entry
  if w.entries.any fun other =>
      other.actionExecutionId = entry.actionExecutionId ∧ other.eventType = entry.eventType then
    return (w, false)
  else return ({ w with entries := entry :: w.entries }, true)

/-- One transaction of the record of a terminal execution. -/
def record (requestId : ActionRequestId) (executionId : ActionExecutionId)
    (eventType : MemoryEventType) (answer : Answer) (stage : RecordStage) :
    ExecutorWorld × RecordOutcome :=
  match stage, answer with
  | .start _, .error failure | .fail _ _, .error failure => (w, .raises failure)
  | .insert _, .error failure | .mark _, .error failure =>
    (w, .continues (.fail failure.memoryError.1 failure.memoryError.2))
  | .start loaded, _ =>
    match w.executions.lookup executionId with
    | none =>
      (w, .raises (ActionError.executionConflict "Action execution audit is missing").failure)
    | some execution =>
      if !(w.requests.lookup requestId).any fun _ => execution.actionRequestId = requestId then
        (w, .raises (ActionError.scopeConflict "Action memory scope is invalid").failure)
      else
        let loaded := loaded.getD execution.memory
        if loaded.recordStatus = .recorded then (w, .returns)
        else
          let assigned := loaded.startMemoryRecordAttempt
          (w.setExecution executionId
            { execution with memory := loaded.flush assigned execution.memory },
            .continues (.insert assigned))
  | .insert loaded, _ =>
    match w.requests.lookup requestId with
    | none => (w, .continues (.fail "ACTION_SCOPE_CONFLICT" "Action memory scope is invalid"))
    | some request =>
      match w.recordEvent (memoryEntry requestId request executionId eventType) with
      | .error failure => (w, .continues (.fail failure.memoryError.1 failure.memoryError.2))
      | .ok (recorded, kept) => (recorded, .continues (.mark (if kept then some loaded else none)))
  | .mark loaded, _ =>
    match w.executions.lookup executionId with
    | none =>
      (w, .continues (.fail "ACTION_EXECUTION_CONFLICT" "Action execution audit is missing"))
    | some execution =>
      let loaded := loaded.getD execution.memory
      (w.setExecution executionId
        { execution with
          memory := loaded.flush (loaded.markMemoryRecorded now) execution.memory }, .returns)
  | .fail errorCode errorMessage, _ =>
    match w.executions.lookup executionId with
    | none => (w, .returns)
    | some execution =>
      ((w.setExecution executionId
        { execution with
          memory := execution.memory.markMemoryRecordFailed errorCode errorMessage }).addEvent
            executionId .memoryReconciliationRequired, .returns)

/-! ### Executors -/

/-- The reservation, committed under a new identifier. -/
def reserve (requestId : ActionRequestId) (expectedVersion : Option Nat)
    (hint : AgentActionRequestModel) (identifier : ActionExecutionId) :
    ExecutorWorld × Outcome Executor :=
  match w.requests.lookup requestId,
      reserveLoaded config.registry config.settings w.toActionStore requestId hint
        expectedVersion now with
  | some committed, .error { committed := some assigned, error } =>
    (w.setRequest requestId (hint.commitRefusal assigned committed),
      .raises error.failure.toHandlerError)
  | _, .error { error, .. } => (w, .raises error.failure.toHandlerError)
  | none, .ok _ => (w, .raises (Failure.other false).toHandlerError)
  | some committed, .ok { request, execution } =>
    -- the primary key refuses an identifier that is taken
    if identifier ∈ w.executions then
      (w, .raises (.failure "PERSISTENCE_ERROR" "Unable to reserve action execution" false))
    else
      ((w.setRequest requestId (hint.flush request committed)).setExecution identifier execution,
        .continues (.start requestId identifier))

/-- Whether the input model of the action accepts the arguments of the request. -/
def validInput (requestId : ActionRequestId) : Bool :=
  (w.requests.lookup requestId).any fun request =>
    ((config.registry.get request.actionName).bind fun definition =>
      definition.inputModel request.arguments).isSome

/-- The finalization of a failure, which is raised afterwards. -/
def fail (requestId : ActionRequestId) (executionId : ActionExecutionId)
    (errorCode errorMessage : String) (retryable : Bool) : Executor :=
  .finalize requestId executionId (.failure errorCode errorMessage)
    (some (.failure errorCode errorMessage retryable))

/-- Where an error in the try block takes the executor. -/
def except (requestId : ActionRequestId) (executionId : ActionExecutionId) (failure : Failure) :
    Executor :=
  let (errorCode, errorMessage, retryable) := failure.wrap
  fail requestId executionId errorCode errorMessage retryable

/-- A finalization, committed. -/
def finalize (requestId : ActionRequestId) (executionId : ActionExecutionId)
    (outcome : HandlerOutcome) : Except ActionError (ExecutorWorld × MemoryColumns) :=
  match requiredRows w.toActionStore requestId executionId with
  | .error error => .error error
  | .ok (request, execution) =>
    let finished := outcome.finishExecution execution now
    let updated := (w.setRequest requestId (outcome.finishRequest request)).setExecution executionId
      finished
    .ok (match outcome.eventType with
      | none => updated
      | some eventType => updated.addEvent executionId eventType, finished.memory)

/-- One step of an executor. -/
def execute (answer : Answer) (executor : Executor) : ExecutorWorld × Outcome Executor :=
  match executor, answer with
  | .hint _ _, .error failure | .reserve _ _ _, .error failure =>
    (w, .raises failure.toHandlerError)
  | .hint requestId expectedVersion, _ =>
    match w.requests.lookup requestId with
    | none =>
      (w, .raises
        (ActionError.requestNotFound "Action request not found").failure.toHandlerError)
    | some hint => (w, .continues (.reserve requestId expectedVersion hint))
  | .reserve requestId expectedVersion hint, .proceed identifier =>
    w.reserve config now requestId expectedVersion hint identifier
  | .start requestId executionId, _ =>
    if w.validInput config requestId then
      ({ w with handled := requestId :: w.handled }, .continues (.handle requestId executionId))
    else
      -- the reservation has validated the same arguments
      (w, .continues (fail requestId executionId "ACTION_EXECUTION_ERROR"
        "Action input validation failed" false))
  | .handle requestId executionId, .success resultSummary =>
    (w, .continues (.finalize requestId executionId (.success resultSummary) none))
  | .handle requestId executionId, .error failure
  | .finalize requestId executionId _ none, .error failure =>
    (w, .continues (except requestId executionId failure))
  | .finalize _ _ _ (some _), .error failure => (w, .raises failure.toHandlerError)
  | .finalize requestId executionId outcome raised, _ =>
    match w.finalize now requestId executionId outcome, raised with
    | .error error, none => (w, .continues (except requestId executionId error.failure))
    | .error error, some _ => (w, .raises error.failure.toHandlerError)
    | .ok (finalized, columns), raised =>
      (finalized, .continues
        (.record requestId executionId outcome.memoryEventType raised (.start (some columns))))
  | .record requestId executionId eventType raised stage, answer =>
    match w.record now requestId executionId eventType answer stage, raised with
    | (recorded, .continues stage), raised =>
      (recorded, .continues (.record requestId executionId eventType raised stage))
    | (recorded, .returns), none => (recorded, .returns)
    | (recorded, .returns), some error => (recorded, .raises error)
    | (recorded, .raises failure), none =>
      (recorded, .continues (except requestId executionId failure))
    | (recorded, .raises failure), some _ => (recorded, .raises failure.toHandlerError)
  | executor, _ => (w, .continues executor)

/-! ### Reconcilers -/

/-- Whether the list of a reconciler may name the execution. -/
def reconcilable (executionId : ActionExecutionId) : Bool :=
  (w.executions.lookup executionId).any fun execution =>
    (execution.status = .completed ∨ execution.status = .failed ∨ execution.status = .cancelled) ∧
      (execution.memory.recordStatus = .pending ∨ execution.memory.recordStatus = .failed)

/-- One step of a reconciler. -/
def reconcile (answer : Answer) (reconciler : Reconciler) : ExecutorWorld × Outcome Reconciler :=
  match reconciler, answer with
  | .next _, .error failure => (w, .raises failure.toHandlerError)
  | .next [], _ => (w, .returns)
  | .next (executionId :: executionIds), _ =>
    match w.executions.lookup executionId with
    | none => (w, .continues (.next executionIds))
    | some execution =>
      if execution.actionRequestId ∈ w.requests then
        (w, .continues (.record execution.actionRequestId executionId
          (eventTypeOf execution.status) (.start none) executionIds))
      else (w, .continues (.next executionIds))
  | .record requestId executionId eventType stage executionIds, answer =>
    match w.record now requestId executionId eventType answer stage with
    | (recorded, .continues stage) =>
      (recorded, .continues (.record requestId executionId eventType stage executionIds))
    | (recorded, .returns) => (recorded, .continues (.next executionIds))
    | (recorded, .raises failure) => (recorded, .raises failure.toHandlerError)

end ExecutorWorld

/-- Where an executor that is cancelled goes on. The finalization of a cancelled execution is
shielded. -/
def Executor.interrupted : Executor → Option Executor
  | .hint .. | .reserve .. | .start .. => none
  | .handle requestId executionId
  | .finalize requestId executionId _ none
  | .record requestId executionId _ none _ =>
    some (.finalize requestId executionId .cancelled (some .cancelledError))
  | .finalize requestId executionId outcome (some raised) =>
    if raised = .cancelledError then some (.finalize requestId executionId outcome (some raised))
    else none
  | .record requestId executionId eventType (some raised) stage =>
    if raised = .cancelledError then some (.record requestId executionId eventType (some raised) stage)
    else none

/-! ### The system -/

/-- The events of the service. A reconciler comes with the executions that its list has named; any
step of an executor or reconciler with the answer of the outside world. -/
inductive ExecutorEvent
  | service (event : ActionEvent)
  | reconcile (caller : CallerId) (limit : Int) (executionIds : List ActionExecutionId)
  | advance (caller : CallerId) (answer : Answer) (now : Timestamp)
  | interrupt (caller : CallerId)
  | lose (caller : CallerId)

namespace ExecutorWorld

variable (config : ActionConfig) (w : ExecutorWorld)

def setActivity (caller : CallerId) (activity : Activity) : ExecutorWorld :=
  { w with activities := w.activities.insert caller activity }

def endActivity (caller : CallerId) : ExecutorWorld :=
  { w with activities := w.activities.erase caller }

/-- The service up to its executors: a call that comes to execute a request becomes one. -/
def serve (event : ActionEvent) : ExecutorWorld :=
  let next : ExecutorWorld := { w with toActionWorld := w.toActionWorld.step config event }
  match event with
  | .proceed caller _ _ =>
    match w.calls.lookup caller with
    | some (.execute requestId expectedVersion) =>
      if caller ∈ w.activities then w
      else
        { w with toActionWorld := w.endCall caller }.setActivity caller
          (.executor (.hint requestId expectedVersion))
    | _ => next
  | _ => next

/-- A list of executions to reconcile, under the limit in its range. -/
def beginReconcile (caller : CallerId) (limit : Int) (executionIds : List ActionExecutionId) :
    ExecutorWorld :=
  if executionIds.Nodup ∧ (executionIds.length : Int) ≤ min (max limit 1) 100 ∧
      executionIds.all w.reconcilable ∧ caller ∉ w.activities then
    w.setActivity caller (.reconciler (.next executionIds))
  else w

def advance (caller : CallerId) (answer : Answer) (now : Timestamp) : ExecutorWorld :=
  match w.activities.lookup caller with
  | none => w
  | some (.executor executor) =>
    match w.execute config now answer executor with
    | (next, .continues executor) => next.setActivity caller (.executor executor)
    | (next, _) => next.endActivity caller
  | some (.reconciler reconciler) =>
    match w.reconcile now answer reconciler with
    | (next, .continues reconciler) => next.setActivity caller (.reconciler reconciler)
    | (next, _) => next.endActivity caller

/-- A cancellation reaches the activity of a caller; a reconciler ends. -/
def interrupt (caller : CallerId) : ExecutorWorld :=
  match w.activities.lookup caller with
  | none => w
  | some (.executor executor) =>
    match executor.interrupted with
    | none => w.endActivity caller
    | some executor => w.setActivity caller (.executor executor)
  | some (.reconciler _) => w.endActivity caller

def step : ExecutorEvent → ExecutorWorld
  | .service event => w.serve config event
  | .reconcile caller limit executionIds => w.beginReconcile caller limit executionIds
  | .advance caller answer now => w.advance config caller answer now
  | .interrupt caller => w.interrupt caller
  | .lose caller => w.endActivity caller

end ExecutorWorld

/-- Any number of callers, executors and reconcilers, from the empty tables. -/
def executorMachine (config : ActionConfig) : Machine ExecutorWorld ExecutorEvent where
  init := {}
  step := ExecutorWorld.step config

end CyberLegends.Actions
