import CyberLegends.Jobs.Model
import CyberLegends.Lib.Session

/-! The resources that jobs work on: applied tasks, media assets with their generation attempts,
prompt experiments, provider comparisons and evaluation runs, and the outbox events about them. -/

namespace CyberLegends.Applied

open CyberLegends.Core Lib Jobs

structure AppliedWorkflowTaskModel where
  status : AppliedTaskStatus := .pending
  result : Option String := none
  errorCode : Option String := none
  errorMessage : Option String := none
  startedAt : Option Timestamp := none
  completedAt : Option Timestamp := none
  deriving DecidableEq, Repr

structure MediaAssetModel where
  taskRunId : Option Uuid
  status : MediaAssetStatus := .requested
  storageUri : Option String := none
  approvedBy : Option String := none
  approvedAt : Option Timestamp := none
  rejectedBy : Option String := none
  rejectedAt : Option Timestamp := none
  rejectionReason : Option String := none
  errorCode : Option String := none
  errorMessage : Option String := none
  completedAt : Option Timestamp := none
  deriving DecidableEq, Repr

structure MediaGenerationAttemptModel where
  mediaAssetId : Uuid
  jobId : JobId
  workerId : String
  jobAttemptNumber : Nat
  attemptNumber : Nat
  status : MediaAttemptStatus := .started
  errorCode : Option String := none
  errorMessage : Option String := none
  completedAt : Option Timestamp := none
  deriving DecidableEq, Repr

structure PromptExperimentModel where
  status : PromptExperimentStatus := .draft
  jobId : Option JobId := none
  errorCode : Option String := none
  errorMessage : Option String := none
  startedAt : Option Timestamp := none
  completedAt : Option Timestamp := none
  deriving DecidableEq, Repr

/-- A provider comparison; the columns used here are those of an experiment. -/
abbrev ProviderComparisonModel := PromptExperimentModel

structure EvaluationRunModel where
  status : EvaluationRunStatus := .pending
  errorCode : Option String := none
  errorMessage : Option String := none
  startedAt : Option Timestamp := none
  completedAt : Option Timestamp := none
  deriving DecidableEq, Repr

/-- What the idempotency key of an outbox event is made of. -/
inductive OutboxKey
  | dataAnalysisCompleted (taskRunId : Uuid)
  | documentProcessingCompleted (taskRunId : Uuid)
  | mediaReadyForReview (mediaAssetId : Uuid)
  | mediaReview (mediaAssetId : Uuid) (approved : Bool)
  | promptExperimentCompleted (experimentId : Uuid)
  | evaluationRequested (evaluationRunId : Uuid)
  deriving DecidableEq, Repr

/-- The tables of the resources. -/
structure Resources where
  tasks : Table Uuid AppliedWorkflowTaskModel := ∅
  assets : Table Uuid MediaAssetModel := ∅
  attempts : Table Uuid MediaGenerationAttemptModel := ∅
  nextAttempt : Uuid := 0
  experiments : Table Uuid PromptExperimentModel := ∅
  comparisons : Table Uuid ProviderComparisonModel := ∅
  evaluations : Table Uuid EvaluationRunModel := ∅
  events : List OutboxKey := []
  /-- The evaluation requests that the outbox has not consumed. -/
  requestedEvaluations : List Uuid := []

/-! ### Flushes of rows that were loaded without a lock -/

def AppliedWorkflowTaskModel.flush (loaded assigned committed : AppliedWorkflowTaskModel) :
    AppliedWorkflowTaskModel where
  status := Lib.flush loaded.status assigned.status committed.status
  result := Lib.flush loaded.result assigned.result committed.result
  errorCode := Lib.flush loaded.errorCode assigned.errorCode committed.errorCode
  errorMessage := Lib.flush loaded.errorMessage assigned.errorMessage committed.errorMessage
  startedAt := Lib.flush loaded.startedAt assigned.startedAt committed.startedAt
  completedAt := Lib.flush loaded.completedAt assigned.completedAt committed.completedAt

/-- The columns of an asset that are written without a lock. -/
def MediaAssetModel.flush (loaded assigned committed : MediaAssetModel) : MediaAssetModel :=
  { committed with
    status := Lib.flush loaded.status assigned.status committed.status
    errorCode := Lib.flush loaded.errorCode assigned.errorCode committed.errorCode
    errorMessage := Lib.flush loaded.errorMessage assigned.errorMessage committed.errorMessage
    completedAt := Lib.flush loaded.completedAt assigned.completedAt committed.completedAt }

def PromptExperimentModel.flush (loaded assigned committed : PromptExperimentModel) :
    PromptExperimentModel :=
  { committed with
    status := Lib.flush loaded.status assigned.status committed.status
    errorCode := Lib.flush loaded.errorCode assigned.errorCode committed.errorCode
    errorMessage := Lib.flush loaded.errorMessage assigned.errorMessage committed.errorMessage
    completedAt := Lib.flush loaded.completedAt assigned.completedAt committed.completedAt }

namespace Resources

variable (r : Resources)

/-- Adds an outbox event unless one with its key is there. -/
def addEvent (key : OutboxKey) : Resources :=
  if key ∈ r.events then r else { r with events := key :: r.events }

/-- Flushes a task row; a task that is not there is not written. -/
def flushTask (taskRunId : Uuid) (loaded assigned : AppliedWorkflowTaskModel) : Resources :=
  match r.tasks.lookup taskRunId with
  | none => r
  | some committed =>
    { r with tasks := r.tasks.insert taskRunId (loaded.flush assigned committed) }

def flushAsset (assetId : Uuid) (loaded assigned : MediaAssetModel) : Resources :=
  match r.assets.lookup assetId with
  | none => r
  | some committed =>
    { r with assets := r.assets.insert assetId (loaded.flush assigned committed) }

def setAttempt (attemptId : Uuid) (attempt : MediaGenerationAttemptModel) : Resources :=
  { r with attempts := r.attempts.insert attemptId attempt }

/-- The identifiers of the started attempts at an asset. -/
def findActiveAttempts (assetId : Uuid) : List Uuid :=
  (r.attempts.entries.filter fun entry =>
    entry.2.mediaAssetId = assetId ∧ entry.2.status = .started).map Sigma.fst

end Resources

end CyberLegends.Applied
