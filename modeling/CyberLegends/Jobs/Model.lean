import CyberLegends.Core.Config
import CyberLegends.Core.Constants
import CyberLegends.Lib.Table
import Mathlib.Algebra.Group.Nat.Defs

/-! The rows of the job store: a background job and the attempts made at it. -/

namespace CyberLegends.Jobs

open CyberLegends.Core Lib

/-- The typed payload of a job, one shape for each kind of job. -/
inductive JobPayload
  | workflowRun (workflowId : Uuid)
  | actionExecution (actionRequestId : Uuid) (expectedVersion : Nat) (actorId actorRole : String)
  | memoryReconciliation (limit : Nat)
  | outboxDispatch (limit : Nat)
  | evaluationRun (evaluationRunId : Uuid)
  | alertReconciliation (limit : Nat)
  | promptExperimentRun (experimentId : Uuid)
  | providerComparisonRun (comparisonId : Uuid)
  | imageGeneration (mediaAssetId : Uuid)
  | dataAnalysis (taskRunId : Uuid)
  | documentProcessing (taskRunId : Uuid)
  | videoStoryboard (mediaAssetId : Uuid)
  deriving DecidableEq, Repr

/-- The kind of job whose payload model accepts the payload. -/
def JobPayload.jobType : JobPayload → JobType
  | workflowRun .. => .workflowRun
  | actionExecution .. => .actionExecution
  | memoryReconciliation .. => .memoryReconciliation
  | outboxDispatch .. => .outboxDispatch
  | evaluationRun .. => .evaluationRun
  | alertReconciliation .. => .alertReconciliation
  | promptExperimentRun .. => .promptExperimentRun
  | providerComparisonRun .. => .providerComparisonRun
  | imageGeneration .. => .imageGeneration
  | dataAnalysis .. => .dataAnalysis
  | documentProcessing .. => .documentProcessing
  | videoStoryboard .. => .videoStoryboard

/-- One attempt at a job. -/
structure JobAttemptModel where
  attemptNumber : Nat
  workerId : String
  status : JobAttemptStatus := .running
  startedAt : Timestamp
  completedAt : Option Timestamp := none
  errorCode : Option String := none
  errorMessage : Option String := none
  deriving DecidableEq, Repr

/-- A background job, with the attempts that refer to it. -/
structure BackgroundJobModel where
  jobType : String
  status : JobStatus := .pending
  payload : JobPayload
  priority : Nat
  attemptCount : Nat := 0
  maxAttempts : Nat
  availableAt : Timestamp
  lockedBy : Option String := none
  lockedAt : Option Timestamp := none
  leaseExpiresAt : Option Timestamp := none
  heartbeatAt : Option Timestamp := none
  cancelRequested : Bool := false
  idempotencyKey : String
  createdAt : Timestamp
  startedAt : Option Timestamp := none
  completedAt : Option Timestamp := none
  errorCode : Option String := none
  errorMessage : Option String := none
  attempts : List JobAttemptModel := []
  deriving DecidableEq, Repr

/-- The identifier of a job. -/
abbrev JobId := Uuid

/-- The job store: every job row under its identifier. -/
abbrev JobStore := Table JobId BackgroundJobModel

/-- The part of a leased row that a worker keeps while it runs the handler. -/
structure LeasedJob where
  jobId : JobId
  jobType : JobType
  payload : JobPayload
  attemptCount : Nat
  maxAttempts : Nat
  deriving DecidableEq, Repr

def BackgroundJobModel.leasedJob (jobId : JobId) (jobType : JobType) (job : BackgroundJobModel) :
    LeasedJob where
  jobId := jobId
  jobType := jobType
  payload := job.payload
  attemptCount := job.attemptCount
  maxAttempts := job.maxAttempts

/-- The errors that operations on the job store raise. -/
inductive JobError
  | jobConflict (message : String)
  | jobLeaseLost (message : String)
  | persistence (message : String)
  | integrity (constraint : String)
  deriving DecidableEq, Repr

/-- The wait before the attempt after attempt `attemptCount`. -/
def retryDelaySeconds (attemptCount baseSeconds maximumSeconds : Nat) : Nat :=
  if attemptCount < 1 then baseSeconds
  else min (baseSeconds * 2 ^ (attemptCount - 1)) maximumSeconds

end CyberLegends.Jobs
