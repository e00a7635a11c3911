import Mathlib.Logic.Basic

/-! The enumerations of the application and the values that the database stores for them. -/

namespace CyberLegends.Core

/-- The kinds of background job. -/
inductive JobType
  | workflowRun
  | actionExecution
  | memoryReconciliation
  | outboxDispatch
  | evaluationRun
  | alertReconciliation
  | promptExperimentRun
  | providerComparisonRun
  | imageGeneration
  | dataAnalysis
  | documentProcessing
  | videoStoryboard
  deriving DecidableEq, Repr

/-- The text stored in the `job_type` column. -/
def JobType.value : JobType → String
  | workflowRun => "WORKFLOW_RUN"
  | actionExecution => "ACTION_EXECUTION"
  | memoryReconciliation => "MEMORY_RECONCILIATION"
  | outboxDispatch => "OUTBOX_DISPATCH"
  | evaluationRun => "EVALUATION_RUN"
  | alertReconciliation => "ALERT_RECONCILIATION"
  | promptExperimentRun => "PROMPT_EXPERIMENT_RUN"
  | providerComparisonRun => "PROVIDER_COMPARISON_RUN"
  | imageGeneration => "IMAGE_GENERATION"
  | dataAnalysis => "DATA_ANALYSIS"
  | documentProcessing => "DOCUMENT_PROCESSING"
  | videoStoryboard => "VIDEO_STORYBOARD"

/-- Every kind of job, in the order of its declaration. -/
def JobType.all : List JobType :=
  [workflowRun, actionExecution, memoryReconciliation, outboxDispatch, evaluationRun,
    alertReconciliation, promptExperimentRun, providerComparisonRun, imageGeneration, dataAnalysis,
    documentProcessing, videoStoryboard]

/-- The kind of job that a `job_type` column names, if it names one. -/
def JobType.ofValue (text : String) : Option JobType := all.find? fun kind => kind.value = text

theorem JobType.ofValue_value (kind : JobType) : ofValue kind.value = some kind := by
  cases kind <;> decide

/-- Where a background job stands. -/
inductive JobStatus
  | pending
  | running
  | succeeded
  | failed
  | cancelled
  | deadLetter
  deriving DecidableEq, Repr

/-- Where one attempt at a job stands. -/
inductive JobAttemptStatus
  | running
  | succeeded
  | failed
  | cancelled
  deriving DecidableEq, Repr

/-- The roles of an authenticated actor. -/
inductive UserRole
  | marketing
  | reviewer
  | manager
  | admin
  | system
  deriving DecidableEq, Repr

def UserRole.value : UserRole → String
  | marketing => "marketing"
  | reviewer => "reviewer"
  | manager => "manager"
  | admin => "admin"
  | system => "system"

/-- The role that a text names, if it names one. -/
def UserRole.ofValue (text : String) : Option UserRole :=
  [marketing, reviewer, manager, admin, system].find? fun role => role.value = text

theorem UserRole.ofValue_value (role : UserRole) : ofValue role.value = some role := by
  cases role <;> decide

/-- Where an applied task stands. -/
inductive AppliedTaskStatus
  | pending
  | processing
  | readyForReview
  | completed
  | failed
  | cancelled
  deriving DecidableEq, Repr

/-- Where a media asset stands. -/
inductive MediaAssetStatus
  | requested
  | generating
  | readyForReview
  | approved
  | rejected
  | failed
  | cancelled
  deriving DecidableEq, Repr

/-- Where one attempt at generating a media asset stands. -/
inductive MediaAttemptStatus
  | started
  | completed
  | failed
  | cancelled
  deriving DecidableEq, Repr

/-- Where a prompt experiment stands. -/
inductive PromptExperimentStatus
  | draft
  | running
  | completed
  | cancelled
  | failed
  deriving DecidableEq, Repr

/-- Where an evaluation run stands. -/
inductive EvaluationRunStatus
  | pending
  | running
  | succeeded
  | failed
  | cancelled
  deriving DecidableEq, Repr

/-- Where an outbox event stands. -/
inductive OutboxStatus
  | pending
  | processing
  | processed
  | failed
  | deadLetter
  deriving DecidableEq, Repr

/-- What becomes of an update on behalf of a lease. -/
inductive LeaseUpdateResult
  | updated
  | notFound
  | invalidState
  | leaseLost
  deriving DecidableEq, Repr

/-- The kinds of outbox event. -/
inductive OutboxEventType
  | workflowCompleted
  | workflowFailed
  | actionCompleted
  | actionFailed
  | memoryReconciliationRequired
  | evaluationRequested
  | promptVersionActivated
  | promptExperimentCompleted
  | taskImpactRecorded
  | userFeedbackReceived
  | mediaReadyForReview
  | mediaApproved
  | mediaRejected
  | dataAnalysisCompleted
  | documentProcessingCompleted
  deriving DecidableEq, Repr

/-- The text stored in the `event_type` column. -/
def OutboxEventType.value : OutboxEventType → String
  | workflowCompleted => "WORKFLOW_COMPLETED"
  | workflowFailed => "WORKFLOW_FAILED"
  | actionCompleted => "ACTION_COMPLETED"
  | actionFailed => "ACTION_FAILED"
  | memoryReconciliationRequired => "MEMORY_RECONCILIATION_REQUIRED"
  | evaluationRequested => "EVALUATION_REQUESTED"
  | promptVersionActivated => "PROMPT_VERSION_ACTIVATED"
  | promptExperimentCompleted => "PROMPT_EXPERIMENT_COMPLETED"
  | taskImpactRecorded => "TASK_IMPACT_RECORDED"
  | userFeedbackReceived => "USER_FEEDBACK_RECEIVED"
  | mediaReadyForReview => "MEDIA_READY_FOR_REVIEW"
  | mediaApproved => "MEDIA_APPROVED"
  | mediaRejected => "MEDIA_REJECTED"
  | dataAnalysisCompleted => "DATA_ANALYSIS_COMPLETED"
  | documentProcessingCompleted => "DOCUMENT_PROCESSING_COMPLETED"

def OutboxEventType.all : List OutboxEventType :=
  [workflowCompleted, workflowFailed, actionCompleted, actionFailed, memoryReconciliationRequired,
    evaluationRequested, promptVersionActivated, promptExperimentCompleted, taskImpactRecorded,
    userFeedbackReceived, mediaReadyForReview, mediaApproved, mediaRejected, dataAnalysisCompleted,
    documentProcessingCompleted]

/-- The kind of event that an `event_type` column names, if it names one. -/
def OutboxEventType.ofValue (text : String) : Option OutboxEventType :=
  all.find? fun kind => kind.value = text

/-- Where a campaign or a workflow stands. -/
inductive CampaignStatus
  | received
  | validating
  | needsClarification
  | analyzing
  | generating
  | reviewing
  | manualReviewRequired
  | pendingApproval
  | revisionRequired
  | approved
  | rejected
  | failed
  deriving DecidableEq, Repr

/-- The text that names a status. -/
def CampaignStatus.value : CampaignStatus → String
  | received => "RECEIVED"
  | validating => "VALIDATING"
  | analyzing => "ANALYZING"
  | generating => "GENERATING"
  | reviewing => "REVIEWING"
  | manualReviewRequired => "MANUAL_REVIEW_REQUIRED"
  | pendingApproval => "PENDING_APPROVAL"
  | approved => "APPROVED"
  | rejected => "REJECTED"
  | revisionRequired => "REVISION_REQUIRED"
  | needsClarification => "NEEDS_CLARIFICATION"
  | failed => "FAILED"

inductive WorkflowStep
  | receiveCampaign
  | validateInput
  | analyzeBrief
  | generateContent
  | reviewContent
  | humanReview
  | complete
  deriving DecidableEq, Repr

inductive ApprovalDecision
  | approve
  | reject
  | requestRevision
  deriving DecidableEq, Repr

inductive AgentName
  | briefAnalyst
  | contentGenerator
  | contentReviewer
  deriving DecidableEq, Repr

/-- The text that names an agent. -/
def AgentName.value : AgentName → String
  | briefAnalyst => "BRIEF_ANALYST"
  | contentGenerator => "CONTENT_GENERATOR"
  | contentReviewer => "CONTENT_REVIEWER"

/-- Where the run of an agent stands. -/
inductive AgentRunStatus
  | created
  | running
  | completed
  | failed
  | limitExceeded
  deriving DecidableEq, Repr

inductive JobErrorClassification
  | retryable
  | nonRetryable
  deriving DecidableEq, Repr

inductive PolicyDecision
  | safe
  | approvalRequired
  | forbidden
  deriving DecidableEq, Repr

/-- Where a request for a controlled action stands. -/
inductive ActionRequestStatus
  | proposed
  | pendingApproval
  | approved
  | rejected
  | executing
  | completed
  | failed
  | expired
  deriving DecidableEq, Repr

inductive ActionExecutionStatus
  | created
  | running
  | completed
  | failed
  | cancelled
  deriving DecidableEq, Repr

/-- Whether the memory entry of an execution has been recorded. -/
inductive MemoryRecordStatus
  | notRequired
  | pending
  | recorded
  | failed
  deriving DecidableEq, Repr

/-- The kinds of memory entry. -/
inductive MemoryEventType
  | workflowRetry
  | reviewFeedback
  | revisionCompleted
  | agentFailed
  | actionProposed
  | policyDecided
  | actionApproved
  | actionRejected
  | actionCompleted
  | actionFailed
  | campaignApprovalDecided
  deriving DecidableEq, Repr

end CyberLegends.Core
