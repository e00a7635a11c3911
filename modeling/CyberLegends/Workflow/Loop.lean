import CyberLegends.Jobs.Worker
import CyberLegends.Workflow.Store

/-! The run of a workflow by its job: the loop over the statuses, the orchestrator that runs an agent
inside it, and the handling of errors, one step for each transaction. A checkpoint acts on the rows
as they are committed. -/

namespace CyberLegends.Workflow

open CyberLegends.Core Lib Jobs

/-! ### Errors -/

/-- The classes of exceptions that a run can meet. A class that no code tells from its siblings
comes with its error code alone. -/
inductive ErrorClass
  | workflowNotFound
  | campaignNotFound
  | invalidStateTransition
  | versionConflict
  | conflict (errorCode : String)
  | agentExecution (errorCode : String)
  | agentLimit (errorCode : String)
  | toolTimeout
  | llmProvider
  | llmProviderUnavailable
  | llmRateLimit
  | llmResponse
  | llmTimeout
  | workflowExecution
  | workflowLimit
  | databaseUnavailable
  | retryableJob
  | jobLeaseLost
  | application (errorCode : String)
  /-- An error of the database driver that comes with a lost connection or an unavailable server. -/
  | operational
  /-- Any other exception that is not the application's own. -/
  | exception
  deriving DecidableEq, Repr

namespace ErrorClass

/-- The code of an error of the application. -/
def errorCode : ErrorClass → Option String
  | workflowNotFound => some "WORKFLOW_NOT_FOUND"
  | campaignNotFound => some "CAMPAIGN_NOT_FOUND"
  | invalidStateTransition => some "INVALID_STATE_TRANSITION"
  | versionConflict => some "VERSION_CONFLICT"
  | toolTimeout => some "TOOL_TIMEOUT"
  | llmProvider => some "LLM_PROVIDER_ERROR"
  | llmProviderUnavailable => some "LLM_PROVIDER_UNAVAILABLE"
  | llmRateLimit => some "LLM_RATE_LIMITED"
  | llmResponse => some "LLM_RESPONSE_ERROR"
  | llmTimeout => some "LLM_TIMEOUT"
  | workflowExecution => some "WORKFLOW_EXECUTION_ERROR"
  | workflowLimit => some "WORKFLOW_LIMIT_ERROR"
  | databaseUnavailable => some "DATABASE_UNAVAILABLE"
  | retryableJob => some "JOB_TRANSIENT_ERROR"
  | jobLeaseLost => some "JOB_LEASE_LOST"
  | conflict errorCode | agentExecution errorCode | agentLimit errorCode
  | application errorCode => some errorCode
  | operational | exception => none

/-- Whether the class is one of `CONFLICT_ERRORS`. -/
def isConflict : ErrorClass → Bool
  | workflowNotFound | campaignNotFound | invalidStateTransition | versionConflict
  | conflict _ => true
  | _ => false

/-- Whether the class is one of `EXECUTION_FAILURE_ERRORS`. -/
def isExecutionFailure : ErrorClass → Bool
  | agentExecution _ | agentLimit _ | toolTimeout | llmProvider | llmProviderUnavailable
  | llmRateLimit | llmResponse | llmTimeout | workflowExecution | workflowLimit => true
  | _ => false

/-- Whether the class is one of `LIMIT_ERRORS`. -/
def isLimit : ErrorClass → Bool
  | agentLimit _ => true
  | _ => false

def classifyJobError : ErrorClass → JobErrorClassification
  | retryableJob | llmTimeout | llmRateLimit | llmProviderUnavailable | databaseUnavailable
  | toolTimeout | jobLeaseLost | operational => .retryable
  | _ => .nonRetryable

end ErrorClass

/-- An exception, with the one that it was raised from. -/
structure RaisedError where
  errorClass : ErrorClass
  message : String
  cause : Option ErrorClass := none
  deriving DecidableEq, Repr

namespace RaisedError

variable (error : RaisedError)

/-- The error that the run first met. -/
def origin : ErrorClass := error.cause.getD error.errorClass

/-- The error as the worker of the job sees it. -/
def toHandlerError : HandlerError :=
  let retryable := error.errorClass.classifyJobError = .retryable
  match error.errorClass.errorCode with
  | some errorCode => .failure errorCode error.message retryable
  | none => .failure "JOB_HANDLER_ERROR" "Background job handler failed" retryable

/-- The error as the orchestrator raises it. -/
def wrapAgent : RaisedError :=
  if error.errorClass.errorCode.isSome then error
  else
    { errorClass := .agentExecution "AGENT_EXECUTION_ERROR"
      message := "Agent specialist execution failed"
      cause := some error.origin }

/-- The error that stands for one without a treatment of its own. -/
def wrapWorkflow : RaisedError where
  errorClass := .workflowExecution
  message := "Workflow execution failed"
  cause := some error.origin

def ofWorkflowError : WorkflowError → RaisedError
  | .workflowNotFound message => { errorClass := .workflowNotFound, message }
  | .campaignNotFound message => { errorClass := .campaignNotFound, message }
  | .versionConflict message => { errorClass := .versionConflict, message }
  | .invalidStateTransition currentStatus nextStatus =>
    { errorClass := .invalidStateTransition
      message :=
        "Cannot transition from " ++ currentStatus.value ++ " to " ++ nextStatus.value ++ "." }
  | .workflowLimit message => { errorClass := .workflowLimit, message }
  | .approvalNotAllowed message => { errorClass := .conflict "APPROVAL_NOT_ALLOWED", message }
  | .approvalAlreadyDecided message =>
    { errorClass := .conflict "APPROVAL_ALREADY_DECIDED", message }
  | .actionScopeConflict message =>
    { errorClass := .application "ACTION_SCOPE_CONFLICT", message }
  | .actionStateChanged message => { errorClass := .application "ACTION_STATE_CHANGED", message }

end RaisedError

/-! ### Where a run stands -/

/-- What an agent is given of the campaign. -/
structure AgentContext where
  agentName : AgentName
  briefAnalysis : Option String := none
  generatedContent : Option String := none
  deriving DecidableEq, Repr

/-- The final output of an agent. -/
inductive AgentOutput
  | analysis (analysis : String)
  | content (content : String)
  | review (review : QualityReview)
  deriving DecidableEq, Repr

/-- The agent whose output schema the output meets. -/
def AgentOutput.author : AgentOutput → AgentName
  | analysis _ => .briefAnalyst
  | content _ => .contentGenerator
  | review _ => .contentReviewer

/-- The next transaction of the handler of a workflow job. -/
inductive Stage
  | checkpoint
  | getWorkflow
  | readWorkflow
  | readCampaign (workflow : WorkflowRunModel)
  | transition (expectedStatus : CampaignStatus)
  | buildContext (agentName : AgentName)
  | createRun (context : AgentContext)
  | startRun (agentRunId : Uuid) (context : AgentContext)
  | agentLoop (agentRunId : Uuid) (context : AgentContext)
  | agentTurn (agentRunId : Uuid) (context : AgentContext)
  | completeRun (agentRunId : Uuid) (context : AgentContext) (output : AgentOutput)
  | save (context : AgentContext) (output : AgentOutput)
  | recordMemory
  /-- The record of a failed agent; without an error the run was cancelled. -/
  | failRun (agentRunId : Uuid) (limit : Bool) (error : Option RaisedError)
  | persistFailure (error : RaisedError)
  /-- The handler of a job of another kind, once it was checked or before. -/
  | other (checked : Bool)
  deriving DecidableEq, Repr

/-- What the provider, the tools and the database answer. -/
inductive Answer
  | proceed
  | final (output : AgentOutput)
  | error (error : RaisedError)
  deriving DecidableEq, Repr

/-- Where an error takes the loop. -/
def handleError (error : RaisedError) : Outcome Stage :=
  if error.errorClass.isConflict then .raises error.toHandlerError
  else if error.errorClass.isExecutionFailure then .continues (.persistFailure error)
  else .continues (.persistFailure error.wrapWorkflow)

/-- Where an error takes a run that stands at the stage. -/
def Stage.fails (stage : Stage) (error : RaisedError) : Outcome Stage :=
  match stage with
  | checkpoint | getWorkflow | other _ => .raises error.toHandlerError
  | agentLoop agentRunId _ | agentTurn agentRunId _ | completeRun agentRunId _ _ =>
    .continues (.failRun agentRunId error.errorClass.isLimit (some error.wrapAgent))
  -- the record of a failure is given up silently
  | persistFailure recorded => .raises recorded.toHandlerError
  | _ => handleError error

/-- An agent that is cancelled is recorded as failed first. -/
def Stage.interrupted : Stage → Option Stage
  | agentLoop agentRunId _ | agentTurn agentRunId _ | completeRun agentRunId _ _ =>
    some (.failRun agentRunId false none)
  | _ => none

/-! ### The loop -/

/-- Whether the handler of the job returns on a workflow in this status. -/
def handlerReturns (status : CampaignStatus) : Bool :=
  status = .pendingApproval ∨ status = .manualReviewRequired ∨ status = .approved ∨
    status = .rejected ∨ status = .failed

/-- Whether the loop returns on a workflow in this status. -/
def loopReturns (status : CampaignStatus) : Bool :=
  handlerReturns status ∨ status = .needsClarification

/-- The checkpoint that only moves a workflow on from the status. -/
def checkpointAfter : CampaignStatus → Option (CampaignStatus × WorkflowStep)
  | .received => some (.validating, .validateInput)
  | .validating => some (.analyzing, .analyzeBrief)
  | .revisionRequired => some (.generating, .generateContent)
  -- a generation without an analysis, a review without a content
  | .generating => some (.analyzing, .analyzeBrief)
  | .reviewing => some (.generating, .generateContent)
  | _ => none

/-- What the loop does next on a snapshot. -/
def nextStage (status : CampaignStatus) (campaign : CampaignModel) : Outcome Stage :=
  if loopReturns status then .returns
  else
    match status with
    | .analyzing => .continues (.buildContext .briefAnalyst)
    | .generating =>
      .continues <|
        if campaign.briefAnalysis = none then .transition .generating
        else .buildContext .contentGenerator
    | .reviewing =>
      .continues <|
        if campaign.generatedContent = none then .transition .reviewing
        else .buildContext .contentReviewer
    | status => .continues (.transition status)

def agentContextError (message : String) : RaisedError where
  errorClass := .agentExecution "AGENT_CONTEXT_ERROR"
  message := message

/-- The context that the orchestrator builds for an agent. -/
def buildContext (agentName : AgentName) (campaign : CampaignModel) :
    Except RaisedError AgentContext :=
  match agentName with
  | .briefAnalyst => .ok { agentName }
  | .contentGenerator =>
    if campaign.briefAnalysis = none then
      .error (agentContextError "Content generation requires brief analysis")
    else
      .ok
        { agentName
          briefAnalysis := campaign.briefAnalysis
          generatedContent := campaign.generatedContent }
  | .contentReviewer =>
    if campaign.briefAnalysis = none ∨ campaign.generatedContent = none then
      .error (agentContextError "Content review requires analysis and generated content")
    else
      .ok
        { agentName
          briefAnalysis := campaign.briefAnalysis
          generatedContent := campaign.generatedContent }

/-- The checkpoint that saves the output of an agent. -/
def AgentOutput.save (settings : Settings) (pair : LockedPair) :
    AgentOutput → Except WorkflowError LockedPair
  | .analysis saved => pair.saveAnalysisCheckpoint saved
  | .content saved => pair.saveContentCheckpoint saved
  | .review verdict => pair.saveReviewDecisionCheckpoint settings verdict

namespace WorkflowStore

variable (store : WorkflowStore)

def workflowNotFound : RaisedError where
  errorClass := .workflowNotFound
  message := "Workflow not found"

def campaignNotFound : RaisedError where
  errorClass := .campaignNotFound
  message := "Campaign not found"

/-- A workflow and its campaign, or the error for a row that is not there. -/
def loadPair (workflowId : WorkflowId) : Except RaisedError LockedPair :=
  match store.workflows.lookup workflowId with
  | none => .error workflowNotFound
  | some workflow =>
    match store.campaigns.lookup workflow.campaignId with
    | none => .error campaignNotFound
    | some campaign => .ok { workflow, campaign }

/-- One checkpoint on a pair that it locks, where no other session has written the workflow since the read
that comes before the lock. `HintedStage` keeps the two reads apart. -/
def update (workflowId : WorkflowId) (assign : LockedPair → Except WorkflowError LockedPair) :
    Except RaisedError WorkflowStore :=
  match store.loadPair workflowId with
  | .error error => .error error
  | .ok pair =>
    match assign pair with
    | .error error => .error (.ofWorkflowError error)
    | .ok assigned => .ok (store.setPair workflowId assigned)

/-- The record of the failure of a workflow, where its status admits one; this too takes the row as it was
read before the lock for the row that is locked. -/
def persistFailure (workflowId : WorkflowId) (error : RaisedError) (now : Timestamp) :
    WorkflowStore :=
  match store.pair workflowId with
  | none => store
  | some pair =>
    match pair.persistFailure (error.errorClass.errorCode.getD "") error.message now with
    | none => store
    | some failed => store.setPair workflowId failed

end WorkflowStore

def invalidAgentRunTransition : RaisedError where
  errorClass := .agentExecution "INVALID_AGENT_RUN_TRANSITION"
  message := "Invalid agent run transition"

section

variable (settings : Settings) (now : Timestamp) (workerId : String) (job : LeasedJob)
  (jobs : JobStore)

/-- Goes on to `next` unless the cancellation of the job was requested. -/
def jobCheckpoint (next : Outcome Stage) : Outcome Stage :=
  if jobs.cancellationRequested job.jobId workerId then .raises .jobCancelled else next

/-- The transaction of a stage when nothing outside it fails. -/
def Stage.perform (workflowId : WorkflowId) (answer : Answer) (store : WorkflowStore) :
    Stage → Except RaisedError (WorkflowStore × Outcome Stage)
  | checkpoint => .ok (store, jobCheckpoint workerId job jobs (.continues .getWorkflow))
  | getWorkflow =>
    match store.workflows.lookup workflowId with
    | none => .error WorkflowStore.workflowNotFound
    | some workflow =>
      .ok (store, if handlerReturns workflow.status then .returns else .continues .readWorkflow)
  | readWorkflow =>
    match store.workflows.lookup workflowId with
    | none => .error WorkflowStore.workflowNotFound
    | some workflow => .ok (store, .continues (.readCampaign workflow))
  | readCampaign workflow =>
    match store.campaigns.lookup workflow.campaignId with
    | none => .error WorkflowStore.campaignNotFound
    | some campaign => .ok (store, nextStage workflow.status campaign)
  | transition expectedStatus =>
    match checkpointAfter expectedStatus with
    | none =>
      .error
        { errorClass := .workflowExecution
          message := "Workflow cannot resume from " ++ expectedStatus.value }
    | some (nextStatus, nextStep) => do
      let store ← store.update workflowId fun pair =>
        pair.transitionCheckpoint expectedStatus nextStatus nextStep
      return (store, .continues .readWorkflow)
  | buildContext agentName => do
    let pair ← store.loadPair workflowId
    let context ← Workflow.buildContext agentName pair.campaign
    return (store, .continues (.createRun context))
  | createRun context =>
    match store.createRun workflowId context.agentName with
    | none =>
      .error
        { errorClass := .application "AGENT_RUN_ALREADY_ACTIVE"
          message := "Specialist already has an active run" }
    | some created => .ok (created, .continues (.startRun store.nextAgentRun context))
  | startRun agentRunId context =>
    match store.startRun agentRunId with
    | none => .error invalidAgentRunTransition
    | some started => .ok (started, .continues (.agentLoop agentRunId context))
  | agentLoop agentRunId context => do
    let store ← store.update workflowId fun pair => pair.recordLlmCall settings
    return (store, .continues (.agentTurn agentRunId context))
  | agentTurn agentRunId context =>
    match answer with
    | .final output =>
      if output.author = context.agentName then
        .ok (store, .continues (.completeRun agentRunId context output))
      else
        .error
          { errorClass := .agentExecution "AGENT_OUTPUT_VALIDATION_ERROR"
            message := "Agent final output is invalid" }
    -- a turn without a final output calls tools
    | _ => .ok (store, .continues (.agentLoop agentRunId context))
  | completeRun agentRunId context output =>
    match store.completeRun agentRunId with
    | none => .error invalidAgentRunTransition
    | some completed => .ok (completed, .continues (.save context output))
  | save _ output => do
    let store ← store.update workflowId (output.save settings)
    return (store, .continues (if output.author = .contentReviewer then .recordMemory
      else .readWorkflow))
  | recordMemory => .ok (store, .continues .readWorkflow)
  | failRun agentRunId limit error =>
    match store.failRun agentRunId limit with
    | none => .error invalidAgentRunTransition
    | some recorded =>
      .ok (recorded,
        match error with
        | none => .raises .cancelledError
        | some error => handleError error)
  | persistFailure error =>
    .ok (store.persistFailure workflowId error now, .raises error.toHandlerError)
  | other checked =>
    .ok (store, if checked then .returns
      else jobCheckpoint workerId job jobs (.continues (.other true)))

/-- One step of the handler of a workflow job. -/
def Stage.handle (workflowId : WorkflowId) (answer : Answer) (store : WorkflowStore)
    (stage : Stage) : WorkflowStore × Outcome Stage :=
  match answer with
  | .error error => (store, stage.fails error)
  | answer =>
    match stage.perform settings now workerId job jobs workflowId answer store with
    | .ok performed => performed
    | .error error => (store, stage.fails error)

end

/-! ### The system -/

/-- The requests that enqueue a job. -/
inductive Submission
  | runWorkflow (workflowId : WorkflowId)
  | other (payload : JobPayload)
  deriving DecidableEq, Repr

def submit (submission : Submission) (store : WorkflowStore) :
    Option (JobPayload × (JobId → WorkflowStore)) :=
  match submission with
  | .runWorkflow workflowId =>
    if workflowId ∈ store.workflows then some (.workflowRun workflowId, fun _ => store) else none
  | .other payload =>
    match payload with
    | .workflowRun _ => none
    | payload => some (payload, fun _ => store)

/-- The requests on campaigns and workflows, and the actions that the executor runs. -/
inductive Request
  | createCampaign (campaignId : CampaignId) (payload : WorkflowStore.CampaignCreate)
  | updateCampaign (campaignId : CampaignId) (payload : WorkflowStore.CampaignCreate)
  | createWorkflow (campaignId : CampaignId) (workflowId : WorkflowId)
  | decide (request : ApprovalRequest) (actorId : String) (actorRole : UserRole)
  | act (guard : ActionExecutionGuard) (action : WorkflowStore.CampaignAction)
  deriving DecidableEq, Repr

def request (now : Timestamp) (request : Request) (store : WorkflowStore) :
    Option WorkflowStore :=
  match request with
  | .createCampaign campaignId payload => store.createCampaign campaignId payload
  | .updateCampaign campaignId payload => store.updateCampaign campaignId payload
  | .createWorkflow campaignId workflowId => store.createWorkflow campaignId workflowId
  | .decide request actorId actorRole => store.decide request actorId actorRole now
  | .act guard action => store.act guard action

/-- The workflow that a job with the payload runs. -/
def workflowOf : JobPayload → Option WorkflowId
  | .workflowRun workflowId => some workflowId
  | _ => none

/-- The handler of the workflow jobs; the jobs of the other kinds write none of these tables, and
neither does what follows the handler of a workflow job. -/
def workflowHandlers (settings : Settings) : HandlerSystem where
  Resources := WorkflowStore
  Handler := Stage
  Answer := Answer
  Read := Unit
  Submission := Submission
  Request := Request
  start job := if (workflowOf job.payload).isSome then .checkpoint else .other false
  handle now workerId job answer jobs store stage :=
    stage.handle settings now workerId job jobs ((workflowOf job.payload).getD 0) answer store
  interrupted := Stage.interrupted
  ensureRead _ _ := ()
  ensureSuccessConsistency _ store _ _ := (store, .ok false)
  reconcileRead _ _ := ()
  reconcile _ store _ _ _ _ _ := store
  prepareRetryRead _ _ := ()
  prepareRetry store _ _ := store
  submit _ := submit
  request now asked store := (request now asked store).map fun store => (store, none)

/-- The workers and the services on workflows, from empty tables. -/
abbrev workflowApplication (settings : Settings) :
    Machine (World (workflowHandlers settings)) (WorldEvent (workflowHandlers settings)) :=
  workerMachine settings ({} : WorkflowStore)

end CyberLegends.Workflow
