import CyberLegends.Jobs.Events
import CyberLegends.Applied.Handlers

/-! What an event of the application writes to the resources: at most one transaction of a handler,
of the check after it, of the reconciler, of a retry or of a request. -/

namespace CyberLegends.Applied

open CyberLegends.Core Lib Jobs

variable {settings : Settings} {w : World jobHandlers}

/-! ### The frames of the transactions -/

namespace Resources

variable (r : Resources)

@[simp] theorem addEvent_tasks (key : OutboxKey) : (r.addEvent key).tasks = r.tasks := by
  unfold addEvent
  split <;> rfl

@[simp] theorem addEvent_assets (key : OutboxKey) : (r.addEvent key).assets = r.assets := by
  unfold addEvent
  split <;> rfl

@[simp] theorem addEvent_attempts (key : OutboxKey) : (r.addEvent key).attempts = r.attempts := by
  unfold addEvent
  split <;> rfl

@[simp] theorem addEvent_nextAttempt (key : OutboxKey) :
    (r.addEvent key).nextAttempt = r.nextAttempt := by
  unfold addEvent
  split <;> rfl

theorem mem_addEvent (key : OutboxKey) : key ∈ (r.addEvent key).events := by
  unfold addEvent
  split
  · assumption
  · exact List.mem_cons_self

@[simp] theorem flushTask_assets (id : Uuid) (loaded assigned : AppliedWorkflowTaskModel) :
    (r.flushTask id loaded assigned).assets = r.assets := by
  unfold flushTask
  split <;> rfl

@[simp] theorem flushTask_attempts (id : Uuid) (loaded assigned : AppliedWorkflowTaskModel) :
    (r.flushTask id loaded assigned).attempts = r.attempts := by
  unfold flushTask
  split <;> rfl

@[simp] theorem flushAsset_tasks (id : Uuid) (loaded assigned : MediaAssetModel) :
    (r.flushAsset id loaded assigned).tasks = r.tasks := by
  unfold flushAsset
  split <;> rfl

@[simp] theorem flushAsset_attempts (id : Uuid) (loaded assigned : MediaAssetModel) :
    (r.flushAsset id loaded assigned).attempts = r.attempts := by
  unfold flushAsset
  split <;> rfl

@[simp] theorem startTask_assets (now : Timestamp) (id : Option Uuid) :
    (r.startTask now id).assets = r.assets := by
  unfold startTask
  split
  · rfl
  · split <;> rfl

@[simp] theorem startTask_attempts (now : Timestamp) (id : Option Uuid) :
    (r.startTask now id).attempts = r.attempts := by
  unfold startTask
  split
  · rfl
  · split <;> rfl

@[simp] theorem finishAttempt_assets (now : Timestamp) (attemptId : Uuid)
    (status : MediaAttemptStatus) (workerId errorCode errorMessage : String) :
    (r.finishAttempt now attemptId status workerId errorCode errorMessage).assets = r.assets := by
  unfold finishAttempt
  split
  · rfl
  · split <;> rfl

@[simp] theorem terminalize_assets (now : Timestamp) (status : MediaAttemptStatus)
    (errorCode errorMessage : String) (active : List Uuid) :
    (terminalizeActiveAttempts now status errorCode errorMessage active r).assets = r.assets := by
  induction active generalizing r with
  | nil => rfl
  | cons attemptId active ih =>
    rw [terminalizeActiveAttempts, ih]
    split
    · rfl
    · split <;> rfl

end Resources

/-! ### Attempts -/

/-- The attempts of `r'` are those of `r`, at the same assets. -/
def OldAttempts (r r' : Resources) : Prop :=
  ∀ attemptId attempt, r'.attempts.lookup attemptId = some attempt →
    ∃ before, r.attempts.lookup attemptId = some before ∧
      before.mediaAssetId = attempt.mediaAssetId

theorem OldAttempts.refl (r : Resources) : OldAttempts r r :=
  fun _ attempt row => ⟨attempt, row, rfl⟩

theorem OldAttempts.of_same {r r' : Resources} (same : r'.attempts = r.attempts) :
    OldAttempts r r' := by
  intro attemptId attempt row
  exact ⟨attempt, by rw [← same]; exact row, rfl⟩

theorem OldAttempts.trans {r r' r'' : Resources} (first : OldAttempts r r')
    (second : OldAttempts r' r'') : OldAttempts r r'' := by
  intro attemptId attempt row
  obtain ⟨middle, row', same⟩ := second attemptId attempt row
  obtain ⟨before, row'', same'⟩ := first attemptId middle row'
  exact ⟨before, row'', same'.trans same⟩

theorem setAttempt_old {r : Resources} {attemptId : Uuid}
    {attempt attempt' : MediaGenerationAttemptModel}
    (row : r.attempts.lookup attemptId = some attempt)
    (same : attempt'.mediaAssetId = attempt.mediaAssetId) :
    OldAttempts r (r.setAttempt attemptId attempt') := by
  intro other found held
  obtain ⟨rfl, rfl⟩ | ⟨-, before⟩ := Table.lookup_insert_cases held
  · exact ⟨attempt, row, same.symm⟩
  · exact ⟨found, before, rfl⟩

theorem finishAttempt_old (r : Resources) (now : Timestamp) (attemptId : Uuid)
    (status : MediaAttemptStatus) (workerId errorCode errorMessage : String) :
    OldAttempts r (r.finishAttempt now attemptId status workerId errorCode errorMessage) := by
  unfold Resources.finishAttempt
  split
  · exact .refl r
  · rename_i attempt row
    split
    · exact setAttempt_old row rfl
    · exact .refl r

theorem terminalize_old (now : Timestamp) (status : MediaAttemptStatus)
    (errorCode errorMessage : String) (active : List Uuid) (r : Resources) :
    OldAttempts r
      (Resources.terminalizeActiveAttempts now status errorCode errorMessage active r) := by
  induction active generalizing r with
  | nil => exact .refl r
  | cons attemptId active ih =>
    rw [Resources.terminalizeActiveAttempts]
    refine OldAttempts.trans ?_ (ih _)
    split
    · exact .refl r
    · rename_i attempt row
      split
      · exact setAttempt_old row rfl
      · exact .refl r

/-! ### The transactions of an event -/

/-- The transaction that an event commits on the resources, with what it is committed by. -/
inductive Change (w : World jobHandlers) : WorldEvent jobHandlers → Resources → Prop
  | same (event) : Change w event w.resources
  | submitted {submission jobId priority maxAttempts availableAt idempotencyKey payload}
      {write : JobId → Resources} (jobId' : JobId)
      (accepted : submit w.now submission w.resources = some (payload, write)) :
      Change w (.submit submission jobId priority maxAttempts availableAt idempotencyKey)
        (write jobId')
  | requested {req r jobId} (accepted : request w.now req w.resources = some (r, jobId)) :
      Change w (.request req) r
  | handled {id answer run handler} (found : w.runs.lookup id = some run)
      (phase : run.phase = .handling handler) :
      Change w (.process id answer)
        (handle w.now run.workerId run.job answer w.jobs w.resources handler).1
  | ensured {id answer run read} (found : w.runs.lookup id = some run)
      (phase : run.phase = .ensuring (some read)) :
      Change w (.process id answer)
        (w.resources.ensureSuccessConsistency w.now run.job read).1
  | reconciled {id answer run cancelled errorCode errorMessage read}
      (found : w.runs.lookup id = some run)
      (phase : run.phase = .reconciling cancelled errorCode errorMessage (some read)) :
      Change w (.process id answer)
        (w.resources.reconcile w.now run.job read cancelled errorCode errorMessage)
  | cancelled {id call read} (found : w.calls.lookup id = some call) (kind : call.kind = .cancel)
      (loaded : call.read = some read) :
      Change w (.call id)
        (w.resources.reconcile w.now call.job read true "JOB_CANCELLED"
          "Background job was cancelled")
  | prepared {id call read} (found : w.calls.lookup id = some call) (kind : call.kind = .retry)
      (loaded : call.read = some read) :
      Change w (.call id) (w.resources.prepareRetry call.job read)

theorem step_change (w : World jobHandlers) (event : WorldEvent jobHandlers) :
    Change w event (w.step settings event).resources := by
  have change := @step_resources _ settings w event
  generalize (w.step settings event).resources = r at change ⊢
  cases change with
  | same => exact .same _
  | submitted jobId' accepted => exact .submitted jobId' accepted
  | requested accepted => exact .requested accepted
  | handled found phase => exact .handled found phase
  | ensured found phase => exact .ensured found phase
  | reconciled found phase => exact .reconciled found phase
  | cancelled found kind loaded => exact .cancelled found kind loaded
  | prepared found kind loaded => exact .prepared found kind loaded

/-! ### The transactions of a handler -/

/-- The applied task that a job with the payload works on. -/
def taskOf : JobPayload → Option Uuid
  | .dataAnalysis taskRunId | .documentProcessing taskRunId => some taskRunId
  | _ => none

/-- The event that the completion of the task of a job writes. -/
def completionOf : JobPayload → Option OutboxKey
  | .dataAnalysis taskRunId => some (.dataAnalysisCompleted taskRunId)
  | .documentProcessing taskRunId => some (.documentProcessingCompleted taskRunId)
  | _ => none

/-- The media asset that a job with the payload generates. -/
def assetOf : JobPayload → Option (MediaKind × Uuid)
  | .imageGeneration assetId => some (.image, assetId)
  | .videoStoryboard assetId => some (.storyboard, assetId)
  | _ => none

/-- The transaction that one step of a handler commits. -/
inductive HandlerChange (now : Timestamp) (workerId : String) (job : LeasedJob) (answer : Answer)
    (jobs : JobStore) (r : Resources) : Handler → Resources → Prop
  | same (handler) : HandlerChange now workerId job answer jobs r handler r
  | taskStarted {taskRunId loaded} (payload : taskOf job.payload = some taskRunId) :
      HandlerChange now workerId job answer jobs r (.task (.start loaded))
        (r.flushTask taskRunId loaded (loaded.markProcessing now))
  | taskCompleted {taskRunId key result loaded} (payload : taskOf job.payload = some taskRunId)
      (event : completionOf job.payload = some key) :
      HandlerChange now workerId job answer jobs r (.task (.complete result loaded))
        ((r.flushTask taskRunId loaded (loaded.complete now result)).addEvent key)
  | mediaStarted {kind assetId attemptId output r'}
      (payload : assetOf job.payload = some (kind, assetId)) (proceeds : answer = .proceed output)
      (started : startMedia now workerId job r kind assetId = .ok (some (attemptId, r'))) :
      HandlerChange now workerId job answer jobs r (.media .start) r'
  | mediaFinalized {kind assetId attemptId output r'}
      (payload : assetOf job.payload = some (kind, assetId))
      (finalized : finalizeMedia now workerId job jobs r kind assetId attemptId output = .ok r') :
      HandlerChange now workerId job answer jobs r (.media (.finalize attemptId output)) r'
  | mediaFinished {kind assetId attemptId status error errorCode errorMessage}
      (payload : assetOf job.payload = some (kind, assetId)) :
      HandlerChange now workerId job answer jobs r (.media (.finish attemptId status error))
        (r.finishAttempt now attemptId status workerId errorCode errorMessage)
  | experimentRan {stage experimentId absent}
      (payload : job.payload = .promptExperimentRun experimentId) :
      HandlerChange now workerId job answer jobs r (.runner stage)
        { r with
          experiments :=
            (handleRunner now workerId job answer jobs r.experiments experimentId absent stage).1 }
  | comparisonRan {stage comparisonId absent}
      (payload : job.payload = .providerComparisonRun comparisonId) :
      HandlerChange now workerId job answer jobs r (.runner stage)
        { r with
          comparisons :=
            (handleRunner now workerId job answer jobs r.comparisons comparisonId absent stage).1 }
  | evaluationRan {stage runId} (payload : job.payload = .evaluationRun runId) :
      HandlerChange now workerId job answer jobs r (.evaluation stage)
        { r with
          evaluations :=
            (handleEvaluation now workerId job answer jobs r.evaluations runId stage).1 }

section

variable {now : Timestamp} {workerId : String} {job : LeasedJob} {answer : Answer}
  {jobs : JobStore} {r : Resources}

theorem handleTask_change {taskRunId : Uuid} {key : OutboxKey}
    (payload : taskOf job.payload = some taskRunId)
    (event : completionOf job.payload = some key) (stage : TaskStage) :
    HandlerChange now workerId job answer jobs r (.task stage)
      (handleTask now workerId job answer jobs r taskRunId key stage).1 := by
  unfold handleTask
  split
  · exact .same _
  · exact .same _
  · split
    · exact .same _
    · split <;> exact .same _
    · exact .taskStarted payload
    · exact .same _
    · exact .same _
    · split <;> exact .same _
    · exact .taskCompleted payload event

theorem handleMedia_change {kind : MediaKind} {assetId : Uuid}
    (payload : assetOf job.payload = some (kind, assetId)) (stage : MediaStage) :
    HandlerChange now workerId job answer jobs r (.media stage)
      (handleMedia now workerId job answer jobs r kind assetId stage).1 := by
  unfold handleMedia
  split
  · exact .same _
  · exact .same _
  · exact .same _
  · exact .same _
  · exact .same _
  · exact .same _
  · exact .same _
  · exact .same _
  · split
    · exact .same _
    · exact .same _
    · exact .mediaStarted payload rfl ‹_›
  · exact .same _
  · exact .same _
  · split
    · exact .same _
    · exact .mediaFinalized payload ‹_›
  · exact .mediaFinished payload

theorem handle_media {kind : MediaKind} {assetId : Uuid}
    (payload : assetOf job.payload = some (kind, assetId)) (stage : MediaStage) :
    handle now workerId job answer jobs r (.media stage) =
      ((handleMedia now workerId job answer jobs r kind assetId stage).1,
        Outcome.map .media (handleMedia now workerId job answer jobs r kind assetId stage).2) := by
  unfold assetOf at payload
  split at payload
  · cases payload
    simp only [handle, *]
  · cases payload
    simp only [handle, *]
  · cases payload

theorem handle_change (handler : Handler) :
    HandlerChange now workerId job answer jobs r handler
      (handle now workerId job answer jobs r handler).1 := by
  unfold handle
  split
  · rename_i payload
    exact handleTask_change (by rw [payload]; rfl) (by rw [payload]; rfl) _
  · rename_i payload
    exact handleTask_change (by rw [payload]; rfl) (by rw [payload]; rfl) _
  · rename_i payload
    exact handleMedia_change (by rw [payload]; rfl) _
  · rename_i payload
    exact handleMedia_change (by rw [payload]; rfl) _
  · rename_i payload
    exact .experimentRan payload
  · rename_i payload
    exact .comparisonRan payload
  · rename_i payload
    exact .evaluationRan payload
  · exact .same _
  · exact .same _

/-! ### Starts and finalizations of generations -/

/-- Whether a generation of the kind starts on the asset. -/
def startable (r : Resources) (kind : MediaKind) (asset : MediaAssetModel) : Bool :=
  match kind with
  | .image => asset.status ≠ .readyForReview ∧ asset.status ≠ .approved
  | .storyboard =>
    asset.status ≠ .readyForReview ∧
      (asset.taskRunId.bind fun id => r.tasks.lookup id).isSome

/-- What the start of a generation writes. -/
structure Started (now : Timestamp) (workerId : String) (job : LeasedJob) (r : Resources)
    (kind : MediaKind) (assetId attemptId : Uuid) (asset asset' : MediaAssetModel)
    (r' : Resources) : Prop where
  row : r.assets.lookup assetId = some asset
  starts : startable r kind asset = true
  generating : asset'.status = .generating
  task : asset'.taskRunId = asset.taskRunId
  assets : r'.assets = r.assets.insert assetId asset'
  tasks : r'.tasks = (r.startTask now asset.taskRunId).tasks
  fresh : attemptId = r.nextAttempt
  attempts : r'.attempts = r.attempts.insert attemptId
    { mediaAssetId := assetId
      jobId := job.jobId
      workerId
      jobAttemptNumber := job.attemptCount
      attemptNumber := r.nextAttemptNumber assetId }
  next : r'.nextAttempt = r.nextAttempt + 1

theorem startTask_congr (r : Resources) (assets : Table Uuid MediaAssetModel) (now : Timestamp)
    (id : Option Uuid) :
    { r with assets }.startTask now id = { r.startTask now id with assets } := by
  unfold Resources.startTask
  split
  · rfl
  · simp only
    split <;> rfl

@[simp] theorem startTask_nextAttempt (r : Resources) (now : Timestamp) (id : Option Uuid) :
    (r.startTask now id).nextAttempt = r.nextAttempt := by
  unfold Resources.startTask
  split
  · rfl
  · split <;> rfl

/-- The write of a generation that starts on `asset` with the row `asset'`. -/
theorem started_of_startable {kind : MediaKind} {assetId : Uuid} {asset asset' : MediaAssetModel}
    (row : r.assets.lookup assetId = some asset) (starts : startable r kind asset = true)
    (generating : asset'.status = .generating) (task : asset'.taskRunId = asset.taskRunId) :
    Started now workerId job r kind assetId r.nextAttempt asset asset'
      (({ r with assets := r.assets.insert assetId asset' }.startTask now
        asset'.taskRunId).createStartedAttempt assetId job workerId) where
  row := row
  starts := starts
  generating := generating
  task := task
  assets := by simp [Resources.createStartedAttempt]
  tasks := by rw [startTask_congr, task]; rfl
  fresh := rfl
  attempts := by simp [Resources.createStartedAttempt, Resources.nextAttemptNumber]
  next := by simp [Resources.createStartedAttempt]

theorem startMedia_started {kind : MediaKind} {assetId attemptId : Uuid} {r' : Resources}
    (h : startMedia now workerId job r kind assetId = .ok (some (attemptId, r'))) :
    ∃ asset asset', Started now workerId job r kind assetId attemptId asset asset' r' := by
  cases kind with
  | image =>
    simp only [startMedia, Resources.startAttempt] at h
    split at h
    · cases h
    rename_i asset row
    split at h
    · cases h
    rename_i free
    cases h
    refine ⟨asset, { asset with status := .generating, errorCode := none, errorMessage := none },
      started_of_startable row ?_ rfl rfl⟩
    simpa [startable] using free
  | storyboard =>
    simp only [startMedia, Resources.startStoryboard] at h
    split at h
    · cases h
    rename_i asset row
    split at h
    · cases h
    rename_i unready
    split at h
    · cases h
    rename_i task found
    cases h
    refine ⟨asset, { asset with status := .generating }, started_of_startable row ?_ rfl rfl⟩
    simp [startable, unready, found]

/-- A generation that may start on an asset does so. -/
theorem startMedia_starts {kind : MediaKind} {assetId : Uuid} {asset : MediaAssetModel}
    (row : r.assets.lookup assetId = some asset) (starts : startable r kind asset = true) :
    ∃ attemptId r', startMedia now workerId job r kind assetId = .ok (some (attemptId, r')) := by
  cases kind with
  | image =>
    have free : ¬ (asset.status = .readyForReview ∨ asset.status = .approved) := by
      simpa [startable] using starts
    simp only [startMedia, Resources.startAttempt, row, if_neg free]
    exact ⟨_, _, rfl⟩
  | storyboard =>
    simp only [startable, decide_eq_true_eq] at starts
    obtain ⟨unready, present⟩ := starts
    obtain ⟨task, found⟩ := Option.isSome_iff_exists.mp present
    simp only [startMedia, Resources.startStoryboard, row, if_neg unready, found]
    exact ⟨_, _, rfl⟩

/-- What the finalization of a generation has checked, and what it writes. -/
structure Finalized (now : Timestamp) (workerId : String) (job : LeasedJob) (jobs : JobStore)
    (r : Resources) (assetId attemptId : Uuid) (output : String)
    (asset asset' : MediaAssetModel) (attempt : MediaGenerationAttemptModel)
    (r' : Resources) : Prop where
  lease : Resources.ownsLiveJobLease jobs job.jobId workerId job.attemptCount now = true
  row : r.assets.lookup assetId = some asset
  generating : asset.status = .generating
  attemptRow : r.attempts.lookup attemptId = some attempt
  started : attempt.status = .started
  ready : asset'.status = .readyForReview
  task : asset'.taskRunId = asset.taskRunId
  assets : r'.assets = r.assets.insert assetId asset'
  attempts : ∃ attempt', attempt'.mediaAssetId = attempt.mediaAssetId ∧
    attempt'.status = .completed ∧ r'.attempts = r.attempts.insert attemptId attempt'
  tasks : (asset.taskRunId.bind fun id => r.tasks.lookup id) = none ∧ r'.tasks = r.tasks ∨
    ∃ id task, asset.taskRunId = some id ∧ r.tasks.lookup id = some task ∧
      r'.tasks = r.tasks.insert id (task.complete now output)
  event : .mediaReadyForReview assetId ∈ r'.events
  next : r'.nextAttempt = r.nextAttempt

theorem completeTask_ok {taskRunId : Option Uuid} {output : String} {r' : Resources}
    (h : r.completeTask now taskRunId output = .ok r') :
    (taskRunId.bind fun id => r.tasks.lookup id) = none ∧ r' = r ∨
      ∃ id task, taskRunId = some id ∧ r.tasks.lookup id = some task ∧
        r' = { r with tasks := r.tasks.insert id (task.complete now output) } := by
  unfold Resources.completeTask at h
  split at h
  · rename_i absent
    cases h
    left
    cases taskRunId with
    | none => exact ⟨rfl, rfl⟩
    | some id => simpa using absent
  · rename_i id task present
    obtain ⟨id', rfl, found⟩ := Option.bind_eq_some_iff.mp present
    obtain ⟨task', row, same⟩ := Option.map_eq_some_iff.mp found
    cases same
    split at h
    · cases h
      exact .inr ⟨id, task, rfl, row, rfl⟩
    · cases h

theorem finalizeSuccess_finalized {publish : MediaAssetModel → MediaAssetModel}
    {assetId attemptId : Uuid} {output : String} {r' : Resources}
    (h : r.finalizeSuccess publish now jobs assetId attemptId job workerId output = .ok r')
    (status : ∀ asset, (publish asset).status = asset.status)
    (taskRun : ∀ asset, (publish asset).taskRunId = asset.taskRunId) :
    ∃ asset asset' attempt,
      Finalized now workerId job jobs r assetId attemptId output asset asset' attempt r' := by
  unfold Resources.finalizeSuccess at h
  split at h
  swap
  · cases h
  rename_i lease
  split at h
  swap
  · cases h
  rename_i asset attempt row attemptRow
  split at h
  · cases h
  rename_i owned
  split at h
  · cases h
  rename_i generating
  obtain ⟨completed, tasks, result⟩ := bind_eq_ok.mp h
  have result := pure_eq_ok.mp result
  subst result
  have started : attempt.status = .started := not_not.mp (not_or.mp owned).1
  have ready := status { asset with status := .readyForReview, completedAt := some now }
  have task := taskRun { asset with status := .readyForReview, completedAt := some now }
  rw [task] at tasks
  let attempt' : MediaGenerationAttemptModel :=
    { attempt with
      status := .completed, completedAt := some now, errorCode := none, errorMessage := none }
  obtain ⟨absent, rfl⟩ | ⟨id, taskRow, present, found, rfl⟩ := completeTask_ok tasks
  · exact ⟨asset, _, attempt, lease, row, not_not.mp generating, attemptRow, started, ready, task,
      by simp [Resources.setAttempt], ⟨attempt', rfl, rfl, by simp [Resources.setAttempt, attempt']⟩,
      .inl ⟨absent, by simp [Resources.setAttempt]⟩, Resources.mem_addEvent .., by
      simp [Resources.setAttempt]⟩
  · exact ⟨asset, _, attempt, lease, row, not_not.mp generating, attemptRow, started, ready, task,
      by simp [Resources.setAttempt], ⟨attempt', rfl, rfl, by simp [Resources.setAttempt, attempt']⟩,
      .inr ⟨id, taskRow, present, found, by simp [Resources.setAttempt]⟩,
      Resources.mem_addEvent .., by simp [Resources.setAttempt]⟩

theorem finalizeMedia_finalized {kind : MediaKind} {assetId attemptId : Uuid} {output : String}
    {r' : Resources}
    (h : finalizeMedia now workerId job jobs r kind assetId attemptId output = .ok r') :
    ∃ asset asset' attempt,
      Finalized now workerId job jobs r assetId attemptId output asset asset' attempt r' := by
  cases kind with
  | image =>
    simp only [finalizeMedia, Resources.finalizeImageSuccess] at h
    exact finalizeSuccess_finalized h (fun _ => rfl) (fun _ => rfl)
  | storyboard =>
    simp only [finalizeMedia, Resources.finalizeStoryboardSuccess] at h
    exact finalizeSuccess_finalized h (fun _ => rfl) (fun _ => rfl)

/-! ### The branches of the reconciler and of a retry -/

/-- The statuses of an asset that the reconciler leaves alone. -/
def guarded (status : MediaAssetStatus) : Bool :=
  status = .approved ∨ status = .rejected ∨ status = .readyForReview

/-- Ends an asset as it was read, and its task. -/
def Resources.endMedia (r : Resources) (now : Timestamp) (cancelled : Bool)
    (errorCode errorMessage : String) (assetId : Uuid) (asset : MediaAssetModel)
    (task : Option AppliedWorkflowTaskModel) : Resources :=
  let ended := r.flushAsset assetId asset (endAsset now cancelled errorCode errorMessage asset)
  match asset.taskRunId, task with
  | some taskRunId, some task =>
    ended.flushTask taskRunId task (endTask now cancelled errorCode errorMessage task)
  | _, _ => ended

/-- Closes the attempts at an asset that were read as started. -/
def Resources.closeMedia (r : Resources) (now : Timestamp) (cancelled : Bool)
    (errorCode errorMessage : String) (active : List Uuid) : Resources :=
  terminalizeActiveAttempts now (if cancelled then .cancelled else .failed) errorCode errorMessage
    active r

/-- Resets an asset as it was read, and its task. -/
def Resources.resetMedia (r : Resources) (assetId : Uuid) (asset : MediaAssetModel)
    (task : Option AppliedWorkflowTaskModel) : Resources :=
  let reset := r.flushAsset assetId asset (resetAsset asset)
  match asset.taskRunId, task with
  | some taskRunId, some task => reset.flushTask taskRunId task (resetTask task)
  | _, _ => reset

@[simp] theorem Resources.endMedia_assets (r : Resources) (now : Timestamp) (cancelled : Bool)
    (errorCode errorMessage : String) (assetId : Uuid) (asset : MediaAssetModel)
    (task : Option AppliedWorkflowTaskModel) :
    (r.endMedia now cancelled errorCode errorMessage assetId asset task).assets =
      (r.flushAsset assetId asset
        (endAsset now cancelled errorCode errorMessage asset)).assets := by
  unfold Resources.endMedia
  simp only
  split <;> simp

@[simp] theorem Resources.endMedia_attempts (r : Resources) (now : Timestamp) (cancelled : Bool)
    (errorCode errorMessage : String) (assetId : Uuid) (asset : MediaAssetModel)
    (task : Option AppliedWorkflowTaskModel) :
    (r.endMedia now cancelled errorCode errorMessage assetId asset task).attempts =
      r.attempts := by
  unfold Resources.endMedia
  simp only
  split <;> simp

@[simp] theorem Resources.closeMedia_assets (r : Resources) (now : Timestamp) (cancelled : Bool)
    (errorCode errorMessage : String) (active : List Uuid) :
    (r.closeMedia now cancelled errorCode errorMessage active).assets = r.assets := by
  simp [Resources.closeMedia]

@[simp] theorem Resources.resetMedia_assets (r : Resources) (assetId : Uuid)
    (asset : MediaAssetModel) (task : Option AppliedWorkflowTaskModel) :
    (r.resetMedia assetId asset task).assets =
      (r.flushAsset assetId asset (resetAsset asset)).assets := by
  unfold Resources.resetMedia
  simp only
  split <;> simp

@[simp] theorem Resources.resetMedia_attempts (r : Resources) (assetId : Uuid)
    (asset : MediaAssetModel) (task : Option AppliedWorkflowTaskModel) :
    (r.resetMedia assetId asset task).attempts = r.attempts := by
  unfold Resources.resetMedia
  simp only
  split <;> simp

theorem flushAsset_cases (r : Resources) (assetId : Uuid) (loaded assigned : MediaAssetModel) :
    r.assets.lookup assetId = none ∧ r.flushAsset assetId loaded assigned = r ∨
      ∃ committed, r.assets.lookup assetId = some committed ∧
        r.flushAsset assetId loaded assigned =
          { r with assets := r.assets.insert assetId (loaded.flush assigned committed) } := by
  unfold Resources.flushAsset
  cases row : r.assets.lookup assetId with
  | none => exact .inl ⟨rfl, rfl⟩
  | some committed => exact .inr ⟨committed, rfl, rfl⟩

/-- A flush that changes the status that was read writes it. -/
theorem flushAsset_status {assetId : Uuid} {loaded assigned committed : MediaAssetModel}
    (row : r.assets.lookup assetId = some committed) (changed : assigned.status ≠ loaded.status) :
    ∃ asset, (r.flushAsset assetId loaded assigned).assets.lookup assetId = some asset ∧
      asset.status = assigned.status := by
  obtain ⟨absent, -⟩ | ⟨committed', -, written⟩ := flushAsset_cases r assetId loaded assigned
  · rw [row] at absent
    cases absent
  · rw [written]
    exact ⟨_, AList.lookup_insert .., flush_changed changed⟩

/-- What the reconciler writes, by what it has read. -/
inductive ReconcileChange (now : Timestamp) (job : LeasedJob) (cancelled : Bool)
    (errorCode errorMessage : String) (r : Resources) : Read → Resources → Prop
  | same (read) : ReconcileChange now job cancelled errorCode errorMessage r read r
  | task {taskRunId task} (payload : taskOf job.payload = some taskRunId)
      (unsettled : task.status ≠ .completed ∧ task.status ≠ .cancelled) :
      ReconcileChange now job cancelled errorCode errorMessage r (.task (some task))
        (r.flushTask taskRunId task
          (Resources.endTask now cancelled errorCode errorMessage task))
  | attempts {kind assetId active asset task}
      (payload : assetOf job.payload = some (kind, assetId)) :
      ReconcileChange now job cancelled errorCode errorMessage r (.media active asset task)
        (r.closeMedia now cancelled errorCode errorMessage active)
  | media {kind assetId active asset task}
      (payload : assetOf job.payload = some (kind, assetId))
      (unguarded : guarded asset.status = false) :
      ReconcileChange now job cancelled errorCode errorMessage r (.media active (some asset) task)
        ((r.closeMedia now cancelled errorCode errorMessage active).endMedia now cancelled
          errorCode errorMessage assetId asset task)
  | experiment {experimentId experiment}
      (payload : job.payload = .promptExperimentRun experimentId) :
      ReconcileChange now job cancelled errorCode errorMessage r (.experiment (some experiment))
        { r with
          experiments := Resources.flushExperiment r.experiments experimentId experiment
            (Resources.endExperiment now cancelled errorCode errorMessage experiment) }
  | comparison {comparisonId comparison}
      (payload : job.payload = .providerComparisonRun comparisonId) :
      ReconcileChange now job cancelled errorCode errorMessage r (.experiment (some comparison))
        { r with
          comparisons := Resources.flushExperiment r.comparisons comparisonId comparison
            (Resources.endExperiment now cancelled errorCode errorMessage comparison) }

/-- The reconciler on media that it has read. -/
theorem reconcile_media {kind : MediaKind} {assetId : Uuid} {active : List Uuid}
    {asset : Option MediaAssetModel} {task : Option AppliedWorkflowTaskModel} {cancelled : Bool}
    {errorCode errorMessage : String} (payload : assetOf job.payload = some (kind, assetId)) :
    r.reconcile now job (.media active asset task) cancelled errorCode errorMessage =
      match asset with
      | none => r.closeMedia now cancelled errorCode errorMessage active
      | some asset =>
        if guarded asset.status then r.closeMedia now cancelled errorCode errorMessage active
        else
          (r.closeMedia now cancelled errorCode errorMessage active).endMedia now cancelled
            errorCode errorMessage assetId asset task := by
  unfold assetOf at payload
  split at payload
  · rename_i known
    cases payload
    cases job
    cases known
    cases asset with
    | none => rfl
    | some asset => exact if_congr decide_eq_true_iff.symm rfl rfl
  · rename_i known
    cases payload
    cases job
    cases known
    cases asset with
    | none => rfl
    | some asset => exact if_congr decide_eq_true_iff.symm rfl rfl
  · cases payload

theorem reconcile_media_change {kind : MediaKind} {assetId : Uuid}
    (payload : assetOf job.payload = some (kind, assetId)) (active : List Uuid)
    (asset : Option MediaAssetModel) (task : Option AppliedWorkflowTaskModel) (cancelled : Bool)
    (errorCode errorMessage : String) :
    ReconcileChange now job cancelled errorCode errorMessage r (.media active asset task)
      (r.reconcile now job (.media active asset task) cancelled errorCode errorMessage) := by
  rw [reconcile_media payload]
  split
  · exact .attempts payload
  · split
    · exact .attempts payload
    · exact .media payload (by simpa using ‹¬ guarded _ = true›)

theorem reconcile_change (read : Read) (cancelled : Bool) (errorCode errorMessage : String) :
    ReconcileChange now job cancelled errorCode errorMessage r read
      (r.reconcile now job read cancelled errorCode errorMessage) := by
  by_cases media : ∃ kind assetId active asset task,
      assetOf job.payload = some (kind, assetId) ∧ read = .media active asset task
  · obtain ⟨kind, assetId, active, asset, task, payload, rfl⟩ := media
    exact reconcile_media_change payload active asset task ..
  · unfold Resources.reconcile
    split
    · split
      · exact .same _
      · exact .task (by rw [‹job.payload = _›]; rfl) (not_or.mp ‹_›)
    · split
      · exact .same _
      · exact .task (by rw [‹job.payload = _›]; rfl) (not_or.mp ‹_›)
    · exact absurd ⟨.image, _, _, _, _, by rw [‹job.payload = _›]; rfl, rfl⟩ media
    · exact absurd ⟨.storyboard, _, _, _, _, by rw [‹job.payload = _›]; rfl, rfl⟩ media
    · exact .experiment ‹_›
    · exact .comparison ‹_›
    · exact .same _

/-- What the preparation of a retry writes, by what it has read. -/
inductive RetryChange (job : LeasedJob) (r : Resources) : Read → Resources → Prop
  | same (read) : RetryChange job r read r
  | task {taskRunId task} (payload : taskOf job.payload = some taskRunId) :
      RetryChange job r (.task (some task))
        (r.flushTask taskRunId task (Resources.resetTask task))
  | media {kind assetId active asset task}
      (payload : assetOf job.payload = some (kind, assetId)) :
      RetryChange job r (.media active (some asset) task) (r.resetMedia assetId asset task)
  | experiment {experimentId experiment}
      (payload : job.payload = .promptExperimentRun experimentId) :
      RetryChange job r (.experiment (some experiment))
        { r with
          experiments := Resources.flushExperiment r.experiments experimentId experiment
            (Resources.resetExperiment experiment) }
  | comparison {comparisonId comparison}
      (payload : job.payload = .providerComparisonRun comparisonId) :
      RetryChange job r (.experiment (some comparison))
        { r with
          comparisons := Resources.flushExperiment r.comparisons comparisonId comparison
            (Resources.resetExperiment comparison) }

/-- A retry on media that it has read. -/
theorem prepareRetry_media {kind : MediaKind} {assetId : Uuid} {active : List Uuid}
    {asset : MediaAssetModel} {task : Option AppliedWorkflowTaskModel}
    (payload : assetOf job.payload = some (kind, assetId)) :
    r.prepareRetry job (.media active (some asset) task) = r.resetMedia assetId asset task := by
  unfold assetOf at payload
  split at payload
  · rename_i known
    cases payload
    cases job
    cases known
    rfl
  · rename_i known
    cases payload
    cases job
    cases known
    rfl
  · cases payload

theorem prepareRetry_change (read : Read) : RetryChange job r read (r.prepareRetry job read) := by
  unfold Resources.prepareRetry
  split
  · exact .task (by rw [‹job.payload = _›]; rfl)
  · exact .task (by rw [‹job.payload = _›]; rfl)
  · rename_i assetId active asset task payload
    exact @RetryChange.media _ _ .image _ _ _ _ (by rw [payload]; rfl)
  · rename_i assetId active asset task payload
    exact @RetryChange.media _ _ .storyboard _ _ _ _ (by rw [payload]; rfl)
  · exact .experiment ‹_›
  · exact .comparison ‹_›
  · exact .same _

/-- The check after a media handler. -/
theorem ensureSuccessConsistency_media {kind : MediaKind} {assetId : Uuid} {active : List Uuid}
    {asset : Option MediaAssetModel} {task : Option AppliedWorkflowTaskModel}
    (payload : assetOf job.payload = some (kind, assetId)) :
    r.ensureSuccessConsistency now job (.media active asset task) =
      if active = [] ∧ (r.assets.lookup assetId).any (fun asset => guarded asset.status) then
        (r, .ok true)
      else
        (r.failOrphaned now assetId active,
          .error (.failure "MEDIA_ATTEMPT_RECONCILIATION_ERROR"
            "Media handler completed without consistent terminal state" false)) := by
  have same : ∀ status : MediaAssetStatus,
      decide (status = .readyForReview ∨ status = .approved ∨ status = .rejected) =
        guarded status := by
    intro status
    cases status <;> rfl
  unfold assetOf at payload
  split at payload
  · cases payload
    simp only [Resources.ensureSuccessConsistency, *]
  · cases payload
    simp only [Resources.ensureSuccessConsistency, *]
  · cases payload

/-- What the check after a handler writes. -/
inductive EnsureChange (now : Timestamp) (job : LeasedJob) (r : Resources) :
    Read → Resources → Prop
  | same (read) : EnsureChange now job r read r
  | orphaned {kind assetId active asset task}
      (payload : assetOf job.payload = some (kind, assetId))
      (unfinished : active = [] → r.assets.lookup assetId = none ∨
        ∃ row, r.assets.lookup assetId = some row ∧ guarded row.status = false) :
      EnsureChange now job r (.media active asset task) (r.failOrphaned now assetId active)

theorem ensureSuccessConsistency_change (read : Read) :
    EnsureChange now job r read (r.ensureSuccessConsistency now job read).1 := by
  cases payload : assetOf job.payload with
  | none =>
    have same : (r.ensureSuccessConsistency now job read).1 = r := by
      unfold Resources.ensureSuccessConsistency
      split
      · simp [assetOf, *] at payload
      · simp [assetOf, *] at payload
      · rfl
    rw [same]
    exact .same _
  | some target =>
    obtain ⟨kind, assetId⟩ := target
    cases read with
    | media active asset task =>
      rw [ensureSuccessConsistency_media payload]
      split
      · exact .same _
      rename_i unfinished
      refine .orphaned payload ?_
      intro none
      cases row : r.assets.lookup assetId with
      | none => exact .inl rfl
      | some row' =>
        right
        refine ⟨row', rfl, ?_⟩
        simpa [none, row] using unfinished
    | nothing | task | experiment =>
      unfold Resources.ensureSuccessConsistency
      split
      · cases ‹_ = Read.media _ _ _›
      · cases ‹_ = Read.media _ _ _›
      · exact .same _

/-- What the failure of an unfinished asset does to it. -/
theorem failOrphaned_assets (r : Resources) (now : Timestamp) (assetId : Uuid)
    (active : List Uuid) :
    (r.failOrphaned now assetId active).assets =
      match r.assets.lookup assetId with
      | none => r.assets
      | some asset =>
        r.assets.insert assetId
          (Resources.endAsset now false Resources.orphanedCode Resources.incomplete asset) := by
  unfold Resources.failOrphaned
  have same : (if active = [] then r
      else
        Resources.terminalizeActiveAttempts now .failed Resources.orphanedCode
          "Successful handler left an active media attempt" (r.findActiveAttempts assetId) r).assets =
        r.assets := by
    split <;> simp
  simp only [same]
  cases row : r.assets.lookup assetId with
  | none => exact same
  | some asset =>
    simp only
    split
    · rfl
    · split <;> rfl

theorem failOrphaned_old (r : Resources) (now : Timestamp) (assetId : Uuid)
    (active : List Uuid) : OldAttempts r (r.failOrphaned now assetId active) := by
  have old : OldAttempts r (if active = [] then r
      else
        Resources.terminalizeActiveAttempts now .failed Resources.orphanedCode
          "Successful handler left an active media attempt"
          (r.findActiveAttempts assetId) r) := by
    split
    · exact .refl r
    · exact terminalize_old _ _ _ _ _ r
  unfold Resources.failOrphaned
  simp only
  split
  · exact old
  · split
    · exact old
    · split <;> exact old

end

end CyberLegends.Applied
