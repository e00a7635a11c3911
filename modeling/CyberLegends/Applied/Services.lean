import CyberLegends.Jobs.Worker
import CyberLegends.Applied.Model

/-! The transactions of the services on the resources: the applied tasks, the media processor and
reviews, the runners of experiments and comparisons, and the evaluation runner. -/

namespace CyberLegends.Applied

open CyberLegends.Core Lib Jobs

def notFound (message : String) : HandlerError := .failure "M7_RESOURCE_NOT_FOUND" message false

/-! ### Applied tasks -/

namespace AppliedWorkflowTaskModel

def markProcessing (now : Timestamp) (task : AppliedWorkflowTaskModel) :
    AppliedWorkflowTaskModel :=
  { task with
    status := .processing
    startedAt := task.startedAt.or (some now)
    errorCode := none
    errorMessage := none }

def complete (now : Timestamp) (result : String) (task : AppliedWorkflowTaskModel) :
    AppliedWorkflowTaskModel :=
  { task with status := .completed, result := some result, completedAt := some now }

end AppliedWorkflowTaskModel

/-! ### Media -/

namespace Resources

variable (r : Resources)

def nextAttemptNumber (assetId : Uuid) : Nat :=
  ((r.attempts.entries.filter fun entry => entry.2.mediaAssetId = assetId).map
    fun entry => entry.2.attemptNumber).foldl max 0 + 1

/-- Adds a started attempt at the asset, whose row the transaction holds. -/
def createStartedAttempt (assetId : Uuid) (job : LeasedJob) (workerId : String) : Resources :=
  { r with
    attempts := r.attempts.insert r.nextAttempt
      { mediaAssetId := assetId
        jobId := job.jobId
        workerId
        jobAttemptNumber := job.attemptCount
        attemptNumber := r.nextAttemptNumber assetId }
    nextAttempt := r.nextAttempt + 1 }

/-- Sets the task of an asset to processing, if the asset has one. -/
def startTask (now : Timestamp) (taskRunId : Option Uuid) : Resources :=
  match taskRunId with
  | none => r
  | some id =>
    match r.tasks.lookup id with
    | none => r
    | some task =>
      let task := { task with status := .processing, startedAt := task.startedAt.or (some now) }
      { r with tasks := r.tasks.insert id task }

/-- The start of an image generation: the new attempt, or nothing when the asset needs none. -/
def startAttempt (now : Timestamp) (assetId : Uuid) (job : LeasedJob) (workerId : String) :
    Except HandlerError (Option (Uuid × Resources)) :=
  match r.assets.lookup assetId with
  | none => .error (notFound "Media asset not found")
  | some asset =>
    if asset.status = .readyForReview ∨ asset.status = .approved then .ok none
    else
      let asset := { asset with status := .generating, errorCode := none, errorMessage := none }
      let started := { r with assets := r.assets.insert assetId asset }.startTask now asset.taskRunId
      .ok (some (r.nextAttempt, started.createStartedAttempt assetId job workerId))

/-- The start of a storyboard generation. -/
def startStoryboard (now : Timestamp) (assetId : Uuid) (job : LeasedJob) (workerId : String) :
    Except HandlerError (Option (Uuid × Resources)) :=
  match r.assets.lookup assetId with
  | none => .error (notFound "Media asset not found")
  | some asset =>
    if asset.status = .readyForReview then .ok none
    else
      match asset.taskRunId.bind fun id => r.tasks.lookup id with
      | none => .error (notFound "Storyboard task not found")
      | some _ =>
        let asset := { asset with status := .generating }
        let started :=
          { r with assets := r.assets.insert assetId asset }.startTask now asset.taskRunId
        .ok (some (r.nextAttempt, started.createStartedAttempt assetId job workerId))

/-- The lease check of the media repository: unlike the job repository's it compares the attempt. -/
def ownsLiveJobLease (jobs : JobStore) (jobId : JobId) (workerId : String)
    (jobAttemptNumber : Nat) (now : Timestamp) : Bool :=
  (jobs.lookup jobId).any fun job =>
    job.status = .running ∧ job.lockedBy = some workerId ∧ job.attemptCount = jobAttemptNumber ∧
      job.leaseExpiresAt.any fun expiry => now < expiry

def stateConflict (message : String) : HandlerError :=
  .failure "MEDIA_ATTEMPT_STATE_CONFLICT" message false

def finalizationError (message : String) : HandlerError :=
  .failure "MEDIA_ATTEMPT_FINALIZATION_ERROR" message false

/-- Completes the task of a finalized asset, which has to be processing. -/
def completeTask (now : Timestamp) (taskRunId : Option Uuid) (output : String) :
    Except HandlerError Resources :=
  match taskRunId.bind fun id => (r.tasks.lookup id).map fun task => (id, task) with
  | none => .ok r
  | some (id, task) =>
    if task.status = .processing then
      .ok { r with tasks := r.tasks.insert id (task.complete now output) }
    else .error (stateConflict "Media task changed before finalization")

/-- The finalization of a generation by the run of `job`; `publish` sets the columns of the asset
that the kind of media has. -/
def finalizeSuccess (publish : MediaAssetModel → MediaAssetModel) (now : Timestamp)
    (jobs : JobStore) (assetId attemptId : Uuid) (job : LeasedJob) (workerId output : String) :
    Except HandlerError Resources :=
  if ownsLiveJobLease jobs job.jobId workerId job.attemptCount now then
    match r.assets.lookup assetId, r.attempts.lookup attemptId with
    | some asset, some attempt =>
      if attempt.status ≠ .started ∨ attempt.workerId ≠ workerId ∨ attempt.jobId ≠ job.jobId ∨
          attempt.jobAttemptNumber ≠ job.attemptCount ∨
          attempt.attemptNumber ≠ job.attemptCount then
        .error (stateConflict "Media attempt changed before finalization")
      else if asset.status ≠ .generating then
        .error (stateConflict "Media asset changed before finalization")
      else do
        let asset := publish { asset with status := .readyForReview, completedAt := some now }
        let r ← { r with assets := r.assets.insert assetId asset }.completeTask now
          asset.taskRunId output
        let r := r.setAttempt attemptId
          { attempt with
            status := .completed, completedAt := some now, errorCode := none, errorMessage := none }
        return r.addEvent (.mediaReadyForReview assetId)
    | _, _ => .error (finalizationError "Media finalization target is missing")
  else .error .mediaAttemptLeaseLost

def finalizeImageSuccess (now : Timestamp) (jobs : JobStore) (assetId attemptId : Uuid)
    (job : LeasedJob) (workerId output : String) : Except HandlerError Resources :=
  r.finalizeSuccess (fun asset => { asset with storageUri := some output }) now jobs assetId
    attemptId job workerId output

def finalizeStoryboardSuccess (now : Timestamp) (jobs : JobStore) (assetId attemptId : Uuid)
    (job : LeasedJob) (workerId output : String) : Except HandlerError Resources :=
  r.finalizeSuccess id now jobs assetId attemptId job workerId output

/-- Closes the attempt of a worker that is still started. -/
def finishAttempt (now : Timestamp) (attemptId : Uuid) (status : MediaAttemptStatus)
    (workerId errorCode errorMessage : String) : Resources :=
  match r.attempts.lookup attemptId with
  | none => r
  | some attempt =>
    if attempt.workerId = workerId ∧ attempt.status = .started then
      r.setAttempt attemptId
        { attempt with
          status
          completedAt := some now
          errorCode := some errorCode
          errorMessage := some errorMessage }
    else r

/-- Closes the listed attempts that are still started. -/
def terminalizeActiveAttempts (now : Timestamp) (status : MediaAttemptStatus)
    (errorCode errorMessage : String) : List Uuid → Resources → Resources
  | [], r => r
  | attemptId :: attemptIds, r =>
    terminalizeActiveAttempts now status errorCode errorMessage attemptIds <|
      match r.attempts.lookup attemptId with
      | none => r
      | some attempt =>
        if attempt.status = .started then
          r.setAttempt attemptId
            { attempt with
              status
              completedAt := some now
              errorCode := some errorCode
              errorMessage := some errorMessage }
        else r

/-- A reviewer's decision: an approval, or a rejection with its reason. -/
inductive Decision
  | approve
  | reject (comment : String)
  deriving DecidableEq, Repr

/-- The review of an asset that is ready for it; nothing when the request is refused. -/
def review (now : Timestamp) (assetId : Uuid) (decision : Decision) (actorId : String)
    (role : UserRole) : Option Resources :=
  if role ≠ .reviewer ∧ role ≠ .manager ∧ role ≠ .admin then none
  else
    match r.assets.lookup assetId with
    | none => none
    | some asset =>
      if asset.status ≠ .readyForReview then none
      else
        match decision with
        | .approve =>
          let asset :=
            { asset with
              status := .approved, approvedBy := some actorId, approvedAt := some now }
          some ({ r with assets := r.assets.insert assetId asset }.addEvent
            (.mediaReview assetId true))
        | .reject comment =>
          if comment = "" then none
          else
            let asset :=
              { asset with
                status := .rejected
                rejectedBy := some actorId
                rejectedAt := some now
                rejectionReason := some comment }
            some ({ r with assets := r.assets.insert assetId asset }.addEvent
              (.mediaReview assetId false))

end Resources

/-! ### Experiments and comparisons -/

/-- The start of the run of an experiment: nothing when it has none to make. -/
def PromptExperimentModel.start (now : Timestamp) (absent : String)
    (experiment : Option PromptExperimentModel) :
    Except HandlerError (Option PromptExperimentModel) :=
  match experiment with
  | none => .error (notFound absent)
  | some experiment =>
    if experiment.status = .completed ∨ experiment.status = .cancelled then .ok none
    else
      .ok (some { experiment with
        status := .running, startedAt := experiment.startedAt.or (some now) })

/-- The completion of the run of an experiment, unless it has been cancelled. -/
def PromptExperimentModel.complete (now : Timestamp) (absent : String)
    (experiment : Option PromptExperimentModel) :
    Except HandlerError (Option PromptExperimentModel) :=
  match experiment with
  | none => .error (notFound absent)
  | some experiment =>
    if experiment.status = .cancelled then .ok none
    else
      .ok (some { experiment with
        status := .completed, completedAt := some now, errorCode := none, errorMessage := none })

/-- The request that runs a draft experiment, with the job that it enqueues. -/
def PromptExperimentModel.run (now : Timestamp) (jobId : JobId)
    (experiment : PromptExperimentModel) : PromptExperimentModel :=
  { experiment with status := .running, startedAt := some now, jobId := some jobId }

/-- The request that cancels an experiment; nothing when it is refused. -/
def PromptExperimentModel.cancel (now : Timestamp) (experiment : PromptExperimentModel) :
    Option PromptExperimentModel :=
  if experiment.status = .draft ∨ experiment.status = .running then
    some { experiment with status := .cancelled, completedAt := some now }
  else none

/-! ### Evaluation runs -/

namespace EvaluationRunModel

/-- The start of an evaluation run: nothing when it has succeeded before. -/
def start (now : Timestamp) (evaluation : Option EvaluationRunModel) :
    Except HandlerError (Option EvaluationRunModel) :=
  match evaluation with
  | none => .error (.failure "EVALUATION_NOT_FOUND" "Evaluation run not found" false)
  | some evaluation =>
    if evaluation.status = .succeeded then .ok none
    else if evaluation.status = .running then
      .error (.failure "EVALUATION_CONFLICT" "Evaluation run is already active" false)
    else
      .ok (some { evaluation with
        status := .running, startedAt := some now, errorCode := none, errorMessage := none })

def finish (now : Timestamp) (evaluation : EvaluationRunModel) : EvaluationRunModel :=
  { evaluation with status := .succeeded, completedAt := some now }

def fail (now : Timestamp) (message : String) (evaluation : EvaluationRunModel) :
    EvaluationRunModel :=
  { evaluation with
    status := .failed
    completedAt := some now
    errorCode := some "EVALUATION_RUN_FAILED"
    errorMessage := some message }

def cancel (now : Timestamp) (evaluation : EvaluationRunModel) : EvaluationRunModel :=
  { evaluation with
    status := .cancelled
    completedAt := some now
    errorCode := some "EVALUATION_CANCELLED"
    errorMessage := some "Evaluation cancellation was requested" }

end EvaluationRunModel

end CyberLegends.Applied
