import CyberLegends.Applied.Lifecycle

/-! The job handlers, one step for each of their transactions, and the system of handlers that the
workers run. -/

namespace CyberLegends.Applied

open CyberLegends.Core Lib Jobs

/-- What the providers, the processors and the database answer to a handler. -/
inductive Answer
  | proceed (output : String)
  | last
  | error (errorCode errorMessage : String) (retryable : Bool)
  deriving DecidableEq, Repr

/-- Where the handler of an applied task stands. -/
inductive TaskStage
  | checkpoint
  | read
  | start (loaded : AppliedWorkflowTaskModel)
  | analyze
  | recheck (result : String)
  | load (result : String)
  | complete (result : String) (loaded : AppliedWorkflowTaskModel)
  deriving DecidableEq, Repr

/-- Where the handler of a media asset stands. -/
inductive MediaStage
  | checkpoint
  | start
  | generate (attemptId : Uuid)
  | recheck (attemptId : Uuid) (output : String)
  | finalize (attemptId : Uuid) (output : String)
  | finish (attemptId : Uuid) (status : MediaAttemptStatus) (error : HandlerError)
  deriving DecidableEq, Repr

/-- Where the runner of an experiment or a comparison stands. -/
inductive RunnerStage
  | start
  | cases
  | complete
  deriving DecidableEq, Repr

inductive EvaluationStage
  | start
  | cases
  | finish
  | fail (error : HandlerError)
  | cancel
  deriving DecidableEq, Repr

/-- Where a handler stands. -/
inductive Handler
  | task (stage : TaskStage)
  | media (stage : MediaStage)
  | runner (stage : RunnerStage)
  | evaluation (stage : EvaluationStage)
  | plain (checked : Bool)
  deriving DecidableEq, Repr

def Handler.start (job : LeasedJob) : Handler :=
  match job.payload with
  | .dataAnalysis _ | .documentProcessing _ => .task .checkpoint
  | .imageGeneration _ | .videoStoryboard _ => .media .checkpoint
  | .promptExperimentRun _ | .providerComparisonRun _ => .runner .start
  | .evaluationRun _ => .evaluation .start
  | _ => .plain false

def Answer.raised (errorCode errorMessage : String) (retryable : Bool) {α : Type} : Outcome α :=
  .raises (.failure errorCode errorMessage retryable)

section

variable (now : Timestamp) (workerId : String) (job : LeasedJob) (answer : Answer)
  (jobs : JobStore) (r : Resources)

/-- Goes on to `next` unless the cancellation of the job was requested. -/
def checkpoint {α : Type} (next : α) : Outcome α :=
  if jobs.cancellationRequested job.jobId workerId then .raises .jobCancelled else .continues next

/-- The handlers of data analysis and document processing. -/
def handleTask (taskRunId : Uuid) (completed : OutboxKey) (stage : TaskStage) :
    Resources × Outcome TaskStage :=
  match answer with
  | .error errorCode errorMessage retryable =>
    (r, Answer.raised errorCode errorMessage retryable)
  | .last => (r, .continues stage)
  | .proceed output =>
    match stage with
    | .checkpoint => (r, checkpoint workerId job jobs .read)
    | .read =>
      match r.tasks.lookup taskRunId with
      | none => (r, .raises (notFound "Applied workflow task not found"))
      | some task => (r, if task.status = .completed then .returns else .continues (.start task))
    | .start loaded => (r.flushTask taskRunId loaded (loaded.markProcessing now), .continues .analyze)
    | .analyze => (r, .continues (.recheck output))
    | .recheck result => (r, checkpoint workerId job jobs (.load result))
    | .load result =>
      match r.tasks.lookup taskRunId with
      | none => (r, .raises (notFound "Applied workflow task not found"))
      | some task => (r, .continues (.complete result task))
    | .complete result loaded =>
      ((r.flushTask taskRunId loaded (loaded.complete now result)).addEvent completed, .returns)

/-- The kinds of media that have a generator. -/
inductive MediaKind
  | image
  | storyboard
  deriving DecidableEq, Repr

def startMedia (kind : MediaKind) (assetId : Uuid) :
    Except HandlerError (Option (Uuid × Resources)) :=
  match kind with
  | .image => r.startAttempt now assetId job workerId
  | .storyboard => r.startStoryboard now assetId job workerId

def finalizeMedia (kind : MediaKind) (assetId attemptId : Uuid) (output : String) :
    Except HandlerError Resources :=
  match kind with
  | .image => r.finalizeImageSuccess now jobs assetId attemptId job workerId output
  | .storyboard => r.finalizeStoryboardSuccess now jobs assetId attemptId job workerId output

/-- The code and the message that a closed attempt keeps of the error that closed it. -/
def safeMediaError (status : MediaAttemptStatus) : HandlerError → String × String
  | .failure errorCode errorMessage _ =>
    if status = .cancelled then ("JOB_CANCELLED", "Media generation was cancelled")
    -- the worker's code for an error that is not the application's own
    else if errorCode = "JOB_HANDLER_ERROR" then ("MEDIA_ERROR", "Media generation failed")
    else (errorCode, errorMessage)
  | .mediaAttemptLeaseLost =>
    if status = .cancelled then ("JOB_CANCELLED", "Media generation was cancelled")
    else ("MEDIA_ATTEMPT_LEASE_LOST", "Media job lease is no longer owned")
  | .jobCancelled | .cancelledError => ("JOB_CANCELLED", "Media generation was cancelled")

/-- The handlers of image and storyboard generation. An error after the start of the attempt closes
it before the error goes on. -/
def handleMedia (kind : MediaKind) (assetId : Uuid) (stage : MediaStage) :
    Resources × Outcome MediaStage :=
  match answer, stage with
  | .last, stage => (r, .continues stage)
  | .error errorCode errorMessage retryable, .checkpoint
  | .error errorCode errorMessage retryable, .start =>
    (r, Answer.raised errorCode errorMessage retryable)
  | .error errorCode errorMessage retryable, .generate attemptId
  | .error errorCode errorMessage retryable, .recheck attemptId _
  | .error errorCode errorMessage retryable, .finalize attemptId _ =>
    (r, .continues (.finish attemptId .failed (.failure errorCode errorMessage retryable)))
  | .error .., .finish .. =>
    (r, .raises (Resources.finalizationError "Unable to terminalize media attempt"))
  | .proceed _, .checkpoint => (r, checkpoint workerId job jobs .start)
  | .proceed _, .start =>
    match startMedia now workerId job r kind assetId with
    | .error error => (r, .raises error)
    | .ok none => (r, .returns)
    | .ok (some (attemptId, r)) => (r, .continues (.generate attemptId))
  | .proceed output, .generate attemptId => (r, .continues (.recheck attemptId output))
  | .proceed _, .recheck attemptId output =>
    (r, .continues <|
      if jobs.cancellationRequested job.jobId workerId then
        .finish attemptId .cancelled .jobCancelled
      else .finalize attemptId output)
  | .proceed _, .finalize attemptId output =>
    match finalizeMedia now workerId job jobs r kind assetId attemptId output with
    | .error error => (r, .continues (.finish attemptId .failed error))
    | .ok r => (r, .returns)
  | .proceed _, .finish attemptId status error =>
    let (errorCode, errorMessage) := safeMediaError status error
    (r.finishAttempt now attemptId status workerId errorCode errorMessage, .raises error)

/-- The runner of an experiment or a comparison on its table, with the event that ends it. -/
def handleRunner (experiments : Table Uuid PromptExperimentModel) (experimentId : Uuid)
    (absent : String) (stage : RunnerStage) :
    Table Uuid PromptExperimentModel × Outcome RunnerStage :=
  match answer, stage with
  | .error errorCode errorMessage retryable, _ =>
    (experiments, Answer.raised errorCode errorMessage retryable)
  | _, .start =>
    match PromptExperimentModel.start now absent (experiments.lookup experimentId) with
    | .error error => (experiments, .raises error)
    | .ok none => (experiments, .returns)
    | .ok (some experiment) => (experiments.insert experimentId experiment, .continues .cases)
  | .proceed _, .cases => (experiments, checkpoint workerId job jobs .cases)
  | .last, .cases => (experiments, .continues .complete)
  | _, .complete =>
    match PromptExperimentModel.complete now absent (experiments.lookup experimentId) with
    | .error error => (experiments, .raises error)
    | .ok none => (experiments, .returns)
    | .ok (some experiment) => (experiments.insert experimentId experiment, .returns)

/-- The handler of an evaluation run. -/
def handleEvaluation (evaluations : Table Uuid EvaluationRunModel) (runId : Uuid)
    (stage : EvaluationStage) : Table Uuid EvaluationRunModel × Outcome EvaluationStage :=
  match stage, answer with
  | .start, .error errorCode errorMessage retryable
  | .fail _, .error errorCode errorMessage retryable
  | .cancel, .error errorCode errorMessage retryable =>
    (evaluations, Answer.raised errorCode errorMessage retryable)
  | .cases, .error errorCode errorMessage retryable
  | .finish, .error errorCode errorMessage retryable =>
    (evaluations, .continues (.fail (.failure errorCode errorMessage retryable)))
  | .start, _ =>
    match EvaluationRunModel.start now (evaluations.lookup runId) with
    | .error error => (evaluations, .raises error)
    | .ok none => (evaluations, .returns)
    | .ok (some evaluation) => (evaluations.insert runId evaluation, .continues .cases)
  | .cases, .proceed _ =>
    (evaluations, .continues <|
      if jobs.cancellationRequested job.jobId workerId then .cancel else .cases)
  | .cases, .last => (evaluations, .continues .finish)
  | .finish, _ =>
    match evaluations.lookup runId with
    | none =>
      (evaluations, .continues
        (.fail (.failure "EVALUATION_NOT_FOUND" "Evaluation run not found" false)))
    | some evaluation => (evaluations.insert runId (evaluation.finish now), .returns)
  | .fail error, _ =>
    let message := match error with
      | .failure _ message _ => message
      | _ => ""
    (match evaluations.lookup runId with
      | none => evaluations
      | some evaluation => evaluations.insert runId (evaluation.fail now message),
      .raises error)
  | .cancel, _ =>
    (match evaluations.lookup runId with
      | none => evaluations
      | some evaluation => evaluations.insert runId (evaluation.cancel now),
      .raises .jobCancelled)

/-- The handlers of the jobs that work on none of these resources. -/
def handlePlain (checked : Bool) : Outcome Bool :=
  match answer with
  | .error errorCode errorMessage retryable => Answer.raised errorCode errorMessage retryable
  | _ => if checked then .returns else checkpoint workerId job jobs true

def Outcome.map {α β : Type} (f : α → β) : Outcome α → Outcome β
  | .continues handler => .continues (f handler)
  | .returns => .returns
  | .raises error => .raises error

/-- One step of the handler of a job. -/
def handle (handler : Handler) : Resources × Outcome Handler :=
  match handler, job.payload with
  | .task stage, .dataAnalysis taskRunId =>
    let (r, outcome) := handleTask now workerId job answer jobs r taskRunId
      (.dataAnalysisCompleted taskRunId) stage
    (r, Outcome.map .task outcome)
  | .task stage, .documentProcessing taskRunId =>
    let (r, outcome) := handleTask now workerId job answer jobs r taskRunId
      (.documentProcessingCompleted taskRunId) stage
    (r, Outcome.map .task outcome)
  | .media stage, .imageGeneration assetId =>
    let (r, outcome) := handleMedia now workerId job answer jobs r .image assetId stage
    (r, Outcome.map .media outcome)
  | .media stage, .videoStoryboard assetId =>
    let (r, outcome) := handleMedia now workerId job answer jobs r .storyboard assetId stage
    (r, Outcome.map .media outcome)
  | .runner stage, .promptExperimentRun experimentId =>
    let (experiments, outcome) := handleRunner now workerId job answer jobs r.experiments
      experimentId "Prompt experiment not found" stage
    ({ r with experiments }, Outcome.map .runner outcome)
  | .runner stage, .providerComparisonRun comparisonId =>
    let (comparisons, outcome) := handleRunner now workerId job answer jobs r.comparisons
      comparisonId "Provider comparison not found" stage
    ({ r with comparisons }, Outcome.map .runner outcome)
  | .evaluation stage, .evaluationRun runId =>
    let (evaluations, outcome) := handleEvaluation now workerId job answer jobs r.evaluations
      runId stage
    ({ r with evaluations }, Outcome.map .evaluation outcome)
  | .plain checked, _ => (r, Outcome.map .plain (handlePlain workerId job answer jobs checked))
  -- a handler only ever works on the payload that it was started for
  | _, _ => (r, .returns)

end

/-- A handler that is cancelled in the middle of a generation closes its attempt first. -/
def Handler.interrupted : Handler → Option Handler
  | .media (.generate attemptId) | .media (.recheck attemptId _)
  | .media (.finalize attemptId _) =>
    some (.media (.finish attemptId .cancelled .cancelledError))
  | _ => none

/-! ### Requests -/

/-- The requests that create a job. -/
inductive Submission
  | dataAnalysis (taskRunId : Uuid)
  | documentProcessing (taskRunId : Uuid)
  | requestImage (assetId taskRunId : Uuid)
  | requestStoryboard (assetId taskRunId : Uuid)
  | runExperiment (experimentId : Uuid)
  | runComparison (comparisonId : Uuid)
  | consumeEvaluationRequested (evaluationRunId : Uuid)
  | other (payload : JobPayload)
  deriving DecidableEq, Repr

/-- Whether a job with the payload works on none of the resources. -/
def isPlain (payload : JobPayload) : Bool :=
  match payload with
  | .workflowRun _ | .actionExecution .. | .memoryReconciliation _ | .outboxDispatch _
  | .alertReconciliation _ => true
  | _ => false

def submit (now : Timestamp) (submission : Submission) (r : Resources) :
    Option (JobPayload × (JobId → Resources)) :=
  match submission with
  | .dataAnalysis taskRunId =>
    if taskRunId ∈ r.tasks then none
    else some (.dataAnalysis taskRunId, fun _ => { r with tasks := r.tasks.insert taskRunId {} })
  | .documentProcessing taskRunId =>
    if taskRunId ∈ r.tasks then none
    else
      some (.documentProcessing taskRunId, fun _ => { r with tasks := r.tasks.insert taskRunId {} })
  | .requestImage assetId taskRunId =>
    if taskRunId ∈ r.tasks ∨ assetId ∈ r.assets then none
    else
      some (.imageGeneration assetId, fun _ =>
        { r with
          tasks := r.tasks.insert taskRunId {}
          assets := r.assets.insert assetId { taskRunId := some taskRunId } })
  | .requestStoryboard assetId taskRunId =>
    if taskRunId ∈ r.tasks ∨ assetId ∈ r.assets then none
    else
      some (.videoStoryboard assetId, fun _ =>
        { r with
          tasks := r.tasks.insert taskRunId {}
          assets := r.assets.insert assetId { taskRunId := some taskRunId } })
  | .runExperiment experimentId =>
    match r.experiments.lookup experimentId with
    | none => none
    | some experiment =>
      if experiment.status ≠ .draft then none
      else
        some (.promptExperimentRun experimentId, fun jobId =>
          { r with experiments := r.experiments.insert experimentId (experiment.run now jobId) })
  | .runComparison comparisonId =>
    match r.comparisons.lookup comparisonId with
    | none => none
    | some comparison =>
      if comparison.status ≠ .draft then none
      else
        some (.providerComparisonRun comparisonId, fun jobId =>
          { r with comparisons := r.comparisons.insert comparisonId (comparison.run now jobId) })
  | .consumeEvaluationRequested runId =>
    if runId ∈ r.requestedEvaluations then
      some (.evaluationRun runId, fun _ =>
        { r with requestedEvaluations := r.requestedEvaluations.erase runId })
    else none
  | .other payload => if isPlain payload then some (payload, fun _ => r) else none

/-- The requests that create no job. The cancellation of an experiment comes with the row as its
unlocked read found it. -/
inductive Request
  | review (assetId : Uuid) (decision : Resources.Decision) (actorId : String) (role : UserRole)
  | createExperiment (experimentId : Uuid)
  | createComparison (comparisonId : Uuid)
  | createEvaluation (evaluationRunId : Uuid)
  | cancelExperiment (experimentId : Uuid) (loaded : PromptExperimentModel)
  | cancelComparison (comparisonId : Uuid)
  deriving DecidableEq, Repr

def request (now : Timestamp) (request : Request) (r : Resources) :
    Option (Resources × Option JobId) :=
  match request with
  | .review assetId decision actorId role =>
    (r.review now assetId decision actorId role).map fun r => (r, none)
  | .createExperiment experimentId =>
    if experimentId ∈ r.experiments then none
    else some ({ r with experiments := r.experiments.insert experimentId {} }, none)
  | .createComparison comparisonId =>
    if comparisonId ∈ r.comparisons then none
    else some ({ r with comparisons := r.comparisons.insert comparisonId {} }, none)
  | .createEvaluation runId =>
    if runId ∈ r.evaluations then none
    else
      some ({ r with
        evaluations := r.evaluations.insert runId {}
        requestedEvaluations := runId :: r.requestedEvaluations }.addEvent
          (.evaluationRequested runId), none)
  | .cancelExperiment experimentId loaded =>
    (loaded.cancel now).map fun experiment =>
      ({ r with
          experiments := Resources.flushExperiment r.experiments experimentId loaded experiment },
        loaded.jobId)
  | .cancelComparison comparisonId =>
    match r.comparisons.lookup comparisonId with
    | none => none
    | some comparison =>
      (comparison.cancel now).map fun assigned =>
        ({ r with comparisons := r.comparisons.insert comparisonId assigned }, comparison.jobId)

/-- The handlers of the application. -/
def jobHandlers : HandlerSystem where
  Resources := Resources
  Handler := Handler
  Answer := Answer
  Read := Read
  Submission := Submission
  Request := Request
  start := Handler.start
  handle := handle
  interrupted := Handler.interrupted
  ensureRead := Resources.ensureRead
  ensureSuccessConsistency now r := r.ensureSuccessConsistency now
  reconcileRead := Resources.reconcileRead
  reconcile now r := r.reconcile now
  prepareRetryRead := Resources.prepareRetryRead
  prepareRetry := Resources.prepareRetry
  submit := submit
  request := request

/-- The application under the default settings, from empty tables. -/
abbrev application : Machine (World jobHandlers) (WorldEvent jobHandlers) :=
  workerMachine {} ({} : Resources)

end CyberLegends.Applied
