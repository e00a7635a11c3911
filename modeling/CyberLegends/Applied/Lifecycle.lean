import CyberLegends.Applied.Services

/-! The reconciler of jobs and resources: what a terminal job does to its resource, the check after
a successful handler, and the preparation of a retry. -/

namespace CyberLegends.Applied

open CyberLegends.Core Lib Jobs

/-- What a transaction of the reconciler has read without a lock. -/
inductive Read
  | nothing
  | task (task : Option AppliedWorkflowTaskModel)
  | media (active : List Uuid) (asset : Option MediaAssetModel)
      (task : Option AppliedWorkflowTaskModel)
  | experiment (experiment : Option PromptExperimentModel)
  deriving DecidableEq, Repr

namespace Resources

variable (r : Resources)

/-! ### Terminal jobs -/

def reconcileRead (job : LeasedJob) : Read :=
  match job.payload with
  | .dataAnalysis taskRunId | .documentProcessing taskRunId => .task (r.tasks.lookup taskRunId)
  | .imageGeneration assetId | .videoStoryboard assetId =>
    let asset := r.assets.lookup assetId
    .media (r.findActiveAttempts assetId) asset
      ((asset.bind MediaAssetModel.taskRunId).bind fun id => r.tasks.lookup id)
  | .promptExperimentRun experimentId => .experiment (r.experiments.lookup experimentId)
  | .providerComparisonRun comparisonId => .experiment (r.comparisons.lookup comparisonId)
  | _ => .nothing

/-- A task whose job has ended without a success. -/
def endTask (now : Timestamp) (cancelled : Bool) (errorCode errorMessage : String)
    (task : AppliedWorkflowTaskModel) : AppliedWorkflowTaskModel :=
  { task with
    status := if cancelled then .cancelled else .failed
    errorCode := some errorCode
    errorMessage := some errorMessage
    completedAt := some now }

def endAsset (now : Timestamp) (cancelled : Bool) (errorCode errorMessage : String)
    (asset : MediaAssetModel) : MediaAssetModel :=
  { asset with
    status := if cancelled then .cancelled else .failed
    errorCode := some errorCode
    errorMessage := some errorMessage
    completedAt := some now }

def endExperiment (now : Timestamp) (cancelled : Bool) (errorCode errorMessage : String)
    (experiment : PromptExperimentModel) : PromptExperimentModel :=
  { experiment with
    status := if cancelled then .cancelled else .failed
    errorCode := some errorCode
    errorMessage := some errorMessage
    completedAt := some now }

def flushExperiment (experiments : Table Uuid PromptExperimentModel) (experimentId : Uuid)
    (loaded assigned : PromptExperimentModel) : Table Uuid PromptExperimentModel :=
  match experiments.lookup experimentId with
  | none => experiments
  | some committed => experiments.insert experimentId (loaded.flush assigned committed)

def reconcile (now : Timestamp) (job : LeasedJob) (read : Read) (cancelled : Bool)
    (errorCode errorMessage : String) : Resources :=
  match job.payload, read with
  | .dataAnalysis taskRunId, .task (some task) | .documentProcessing taskRunId, .task (some task) =>
    if task.status = .completed ∨ task.status = .cancelled then r
    else r.flushTask taskRunId task (endTask now cancelled errorCode errorMessage task)
  | .imageGeneration assetId, .media active asset task
  | .videoStoryboard assetId, .media active asset task =>
    let r := terminalizeActiveAttempts now (if cancelled then .cancelled else .failed) errorCode
      errorMessage active r
    match asset with
    | none => r
    | some asset =>
      if asset.status = .approved ∨ asset.status = .rejected ∨ asset.status = .readyForReview then r
      else
        let r := r.flushAsset assetId asset (endAsset now cancelled errorCode errorMessage asset)
        match asset.taskRunId, task with
        | some taskRunId, some task =>
          r.flushTask taskRunId task (endTask now cancelled errorCode errorMessage task)
        | _, _ => r
  | .promptExperimentRun experimentId, .experiment (some experiment) =>
    let ended := endExperiment now cancelled errorCode errorMessage experiment
    { r with experiments := flushExperiment r.experiments experimentId experiment ended }
  | .providerComparisonRun comparisonId, .experiment (some comparison) =>
    let ended := endExperiment now cancelled errorCode errorMessage comparison
    { r with comparisons := flushExperiment r.comparisons comparisonId comparison ended }
  | _, _ => r

/-! ### The check after a successful handler -/

def ensureRead (job : LeasedJob) : Read :=
  match job.payload with
  | .imageGeneration assetId | .videoStoryboard assetId =>
    .media (r.findActiveAttempts assetId) none none
  | _ => .nothing

def orphanedCode : String := "MEDIA_ATTEMPT_ORPHANED"

def incomplete : String := "Media generation finalization was incomplete"

/-- The failure of a media asset whose handler has left it unfinished. -/
def failOrphaned (now : Timestamp) (assetId : Uuid) (active : List Uuid) : Resources :=
  let r :=
    if active = [] then r
    else
      terminalizeActiveAttempts now .failed orphanedCode
        "Successful handler left an active media attempt" (r.findActiveAttempts assetId) r
  match r.assets.lookup assetId with
  | none => r
  | some asset =>
    let failed := endAsset now false orphanedCode incomplete asset
    let r := { r with assets := r.assets.insert assetId failed }
    match asset.taskRunId with
    | none => r
    | some taskRunId =>
      match r.tasks.lookup taskRunId with
      | none => r
      | some task =>
        let failed := endTask now false orphanedCode incomplete task
        { r with tasks := r.tasks.insert taskRunId failed }

/-- Whether the media of a job whose handler has returned is consistent; the media that is not is
failed. Other jobs have no such check. -/
def ensureSuccessConsistency (now : Timestamp) (job : LeasedJob) (read : Read) :
    Resources × Except HandlerError Bool :=
  match job.payload, read with
  | .imageGeneration assetId, .media active _ _ | .videoStoryboard assetId, .media active _ _ =>
    if active = [] ∧ (r.assets.lookup assetId).any (fun asset =>
        asset.status = .readyForReview ∨ asset.status = .approved ∨ asset.status = .rejected) then
      (r, .ok true)
    else
      (r.failOrphaned now assetId active,
        .error (.failure "MEDIA_ATTEMPT_RECONCILIATION_ERROR"
          "Media handler completed without consistent terminal state" false))
  | _, _ => (r, .ok false)

/-! ### Retries -/

def prepareRetryRead (job : LeasedJob) : Read :=
  match job.payload with
  | .dataAnalysis taskRunId | .documentProcessing taskRunId => .task (r.tasks.lookup taskRunId)
  | .imageGeneration assetId | .videoStoryboard assetId =>
    let asset := r.assets.lookup assetId
    .media [] asset ((asset.bind MediaAssetModel.taskRunId).bind fun id => r.tasks.lookup id)
  | .promptExperimentRun experimentId => .experiment (r.experiments.lookup experimentId)
  | .providerComparisonRun comparisonId => .experiment (r.comparisons.lookup comparisonId)
  | _ => .nothing

def resetTask (task : AppliedWorkflowTaskModel) : AppliedWorkflowTaskModel :=
  { task with status := .pending, errorCode := none, errorMessage := none, completedAt := none }

def resetAsset (asset : MediaAssetModel) : MediaAssetModel :=
  { asset with status := .requested, errorCode := none, errorMessage := none, completedAt := none }

def resetExperiment (experiment : PromptExperimentModel) : PromptExperimentModel :=
  { experiment with
    status := .running, errorCode := none, errorMessage := none, completedAt := none }

def prepareRetry (job : LeasedJob) (read : Read) : Resources :=
  match job.payload, read with
  | .dataAnalysis taskRunId, .task (some task) | .documentProcessing taskRunId, .task (some task) =>
    r.flushTask taskRunId task (resetTask task)
  | .imageGeneration assetId, .media _ (some asset) task
  | .videoStoryboard assetId, .media _ (some asset) task =>
    let r := r.flushAsset assetId asset (resetAsset asset)
    match asset.taskRunId, task with
    | some taskRunId, some task => r.flushTask taskRunId task (resetTask task)
    | _, _ => r
  | .promptExperimentRun experimentId, .experiment (some experiment) =>
    { r with experiments :=
        flushExperiment r.experiments experimentId experiment (resetExperiment experiment) }
  | .providerComparisonRun comparisonId, .experiment (some comparison) =>
    { r with comparisons :=
        flushExperiment r.comparisons comparisonId comparison (resetExperiment comparison) }
  | _, _ => r

end Resources

end CyberLegends.Applied
