import CyberLegends.Applied.Decisions

/-! Finished experiments and comparisons. From the commit that completes one, up to an operator's
retry of its job, it stays completed exactly as long as no reconciler, no earlier retry and no
cancellation that has not seen the completion writes its status. -/

namespace CyberLegends.Applied

open CyberLegends.Core Lib Jobs

variable {settings : Settings} {w : World jobHandlers} {payload : JobPayload}

/-- The experiment or the comparison that a job with the payload runs. -/
def Resources.experimentOf (r : Resources) : JobPayload → Option PromptExperimentModel
  | .promptExperimentRun experimentId => r.experiments.lookup experimentId
  | .providerComparisonRun comparisonId => r.comparisons.lookup comparisonId
  | _ => none

def Resources.finished (r : Resources) (payload : JobPayload) : Bool :=
  (r.experimentOf payload).any fun experiment => experiment.status = .completed

/-- The event is the commit with which a runner completes what the payload names. -/
def Completes (payload : JobPayload) (w : World jobHandlers) : WorldEvent jobHandlers → Prop
  | .process id answer =>
    (∃ run, w.runs.lookup id = some run ∧ run.phase = .handling (.runner .complete) ∧
      run.job.payload = payload) ∧
    (∀ errorCode errorMessage retryable, answer ≠ Answer.error errorCode errorMessage retryable) ∧
    ∃ experiment, w.resources.experimentOf payload = some experiment ∧
      experiment.status ≠ .cancelled
  | _ => False

/-- The event is an operator's retry of a job with the payload. -/
def Retries (payload : JobPayload) (w : World jobHandlers) : WorldEvent jobHandlers → Prop
  | .retry jobId =>
    (w.jobs.lookup jobId).any (fun job => job.payload = payload) = true ∧
      (w.jobs.retry jobId w.now).isOk = true
  | _ => False

/-! ### The condition -/

/-- The reconciler sets the status that it has read to what it is. -/
def endSpares (cancelled : Bool) : Read → Bool
  | .experiment (some experiment) =>
    experiment.status = if cancelled then .cancelled else .failed
  | _ => true

/-- The retry sets the status that it has read to what it is. -/
def resetSpares : Read → Bool
  | .experiment (some experiment) => experiment.status = .running
  | _ => true

/-- The request that cancels an experiment is refused, by what it has read or by the job. -/
def refused (jobs : JobStore) (now : Timestamp) (loaded : PromptExperimentModel) : Bool :=
  (loaded.status ≠ .draft ∧ loaded.status ≠ .running) ∨
    loaded.jobId.any fun jobId => !(jobs.cancel jobId now).isOk

/-- The event does not write over the completion of what the payload names: no reconciler and no
retry writes a status that it has read as another, and no cancellation gets through that has read
the experiment as it was before. -/
def SparesFinished (payload : JobPayload) (w : World jobHandlers) :
    WorldEvent jobHandlers → Prop
  | .process id _ =>
    ∀ run, w.runs.lookup id = some run → run.job.payload = payload →
      ∀ cancelled errorCode errorMessage read,
        run.phase = .reconciling cancelled errorCode errorMessage (some read) →
          endSpares cancelled read = true
  | .call id =>
    ∀ call, w.calls.lookup id = some call → call.job.payload = payload →
      ∀ read, call.read = some read →
        match call.kind with
        | .cancel => endSpares true read = true
        | .retry => resetSpares read = true
  | .request (.cancelExperiment experimentId loaded) =>
    payload = .promptExperimentRun experimentId → refused w.jobs w.now loaded = true
  | _ => True

/-! ### Transactions on other resources -/

namespace Resources

variable (r : Resources)

@[simp] theorem addEvent_experimentOf (key : OutboxKey) (payload : JobPayload) :
    (r.addEvent key).experimentOf payload = r.experimentOf payload := by
  unfold addEvent
  split <;> rfl

@[simp] theorem flushTask_experimentOf (id : Uuid) (loaded assigned : AppliedWorkflowTaskModel)
    (payload : JobPayload) :
    (r.flushTask id loaded assigned).experimentOf payload = r.experimentOf payload := by
  unfold flushTask
  split <;> rfl

@[simp] theorem flushAsset_experimentOf (id : Uuid) (loaded assigned : MediaAssetModel)
    (payload : JobPayload) :
    (r.flushAsset id loaded assigned).experimentOf payload = r.experimentOf payload := by
  unfold flushAsset
  split <;> rfl

@[simp] theorem startTask_experimentOf (now : Timestamp) (id : Option Uuid)
    (payload : JobPayload) :
    (r.startTask now id).experimentOf payload = r.experimentOf payload := by
  unfold startTask
  split
  · rfl
  · split <;> rfl

@[simp] theorem finishAttempt_experimentOf (now : Timestamp) (attemptId : Uuid)
    (status : MediaAttemptStatus) (workerId errorCode errorMessage : String)
    (payload : JobPayload) :
    (r.finishAttempt now attemptId status workerId errorCode errorMessage).experimentOf payload =
      r.experimentOf payload := by
  unfold finishAttempt
  split
  · rfl
  · split <;> rfl

@[simp] theorem terminalize_experimentOf (now : Timestamp) (status : MediaAttemptStatus)
    (errorCode errorMessage : String) (active : List Uuid) (payload : JobPayload) :
    (terminalizeActiveAttempts now status errorCode errorMessage active r).experimentOf payload =
      r.experimentOf payload := by
  induction active generalizing r with
  | nil => rfl
  | cons attemptId active ih =>
    rw [terminalizeActiveAttempts, ih]
    split
    · rfl
    · split <;> rfl

@[simp] theorem closeMedia_experimentOf (now : Timestamp) (cancelled : Bool)
    (errorCode errorMessage : String) (active : List Uuid) (payload : JobPayload) :
    (r.closeMedia now cancelled errorCode errorMessage active).experimentOf payload =
      r.experimentOf payload := by
  simp [closeMedia]

@[simp] theorem endMedia_experimentOf (now : Timestamp) (cancelled : Bool)
    (errorCode errorMessage : String) (assetId : Uuid) (asset : MediaAssetModel)
    (task : Option AppliedWorkflowTaskModel) (payload : JobPayload) :
    (r.endMedia now cancelled errorCode errorMessage assetId asset task).experimentOf payload =
      r.experimentOf payload := by
  unfold endMedia
  simp only
  split <;> simp

@[simp] theorem resetMedia_experimentOf (assetId : Uuid) (asset : MediaAssetModel)
    (task : Option AppliedWorkflowTaskModel) (payload : JobPayload) :
    (r.resetMedia assetId asset task).experimentOf payload = r.experimentOf payload := by
  unfold resetMedia
  simp only
  split <;> simp

@[simp] theorem failOrphaned_experimentOf (now : Timestamp) (assetId : Uuid)
    (active : List Uuid) (payload : JobPayload) :
    (r.failOrphaned now assetId active).experimentOf payload = r.experimentOf payload := by
  have closed : (if active = [] then r
      else
        terminalizeActiveAttempts now .failed orphanedCode
          "Successful handler left an active media attempt" (r.findActiveAttempts assetId)
          r).experimentOf payload = r.experimentOf payload := by
    split
    · rfl
    · simp
  unfold failOrphaned
  simp only
  split
  · exact closed
  · split
    · exact closed
    · split <;> exact closed

theorem completeTask_experimentOf {now : Timestamp} {taskRunId : Option Uuid} {output : String}
    {r' : Resources} (h : r.completeTask now taskRunId output = .ok r') (payload : JobPayload) :
    r'.experimentOf payload = r.experimentOf payload := by
  obtain ⟨-, rfl⟩ | ⟨id, task, -, -, rfl⟩ := completeTask_ok h
  · rfl
  · rfl

end Resources

/-! ### Transactions on experiments and comparisons -/

section

variable {r : Resources}

/-- Whether the table has the experiment as completed. -/
def completedIn (experiments : Table Uuid PromptExperimentModel) (experimentId : Uuid) : Bool :=
  (experiments.lookup experimentId).any fun experiment => experiment.status = .completed

theorem finished_congr {r' : Resources}
    (same : r'.experimentOf payload = r.experimentOf payload) :
    r'.finished payload = r.finished payload := by
  unfold Resources.finished
  rw [same]

theorem finished_cases (finished : r.finished payload = true) :
    (∃ experimentId, payload = .promptExperimentRun experimentId ∧
      completedIn r.experiments experimentId = true) ∨
    ∃ comparisonId, payload = .providerComparisonRun comparisonId ∧
      completedIn r.comparisons comparisonId = true := by
  cases payload with
  | promptExperimentRun experimentId => exact .inl ⟨experimentId, rfl, finished⟩
  | providerComparisonRun comparisonId => exact .inr ⟨comparisonId, rfl, finished⟩
  | _ => cases finished

/-- Tables that keep what is completed keep what a payload names. -/
theorem finished_of_tables {r' : Resources} (finished : r.finished payload = true)
    (experiments : ∀ id, completedIn r.experiments id = true → completedIn r'.experiments id = true)
    (comparisons : ∀ id, completedIn r.comparisons id = true →
      completedIn r'.comparisons id = true) :
    r'.finished payload = true := by
  obtain ⟨id, rfl, completed⟩ | ⟨id, rfl, completed⟩ := finished_cases finished
  · exact experiments id completed
  · exact comparisons id completed

theorem completedIn_insert {experiments : Table Uuid PromptExperimentModel} {id other : Uuid}
    {experiment : PromptExperimentModel}
    (kept : completedIn experiments id = true → experiment.status = .completed)
    (completed : completedIn experiments other = true) :
    completedIn (experiments.insert id experiment) other = true := by
  unfold completedIn
  by_cases same : other = id
  · subst same
    rw [AList.lookup_insert]
    simpa using kept completed
  · rw [AList.lookup_insert_ne same]
    exact completed

/-- A flush over a completed experiment leaves it so exactly if it writes no other status. -/
theorem flushExperiment_completed {experiments : Table Uuid PromptExperimentModel} {id : Uuid}
    {loaded assigned : PromptExperimentModel} (completed : completedIn experiments id = true)
    (ends : assigned.status ≠ .completed) :
    completedIn (Resources.flushExperiment experiments id loaded assigned) id = true ↔
      assigned.status = loaded.status := by
  obtain ⟨committed, row, status⟩ := (Option.any_eq_true ..).mp completed
  have status : committed.status = .completed := by simpa using status
  unfold completedIn Resources.flushExperiment
  simp only [row, AList.lookup_insert, Option.any_some, PromptExperimentModel.flush,
    decide_eq_true_eq, status]
  constructor
  · intro kept
    by_contra changed
    rw [flush_changed changed] at kept
    exact ends kept
  · intro same
    rw [same, flush_same]

theorem flushExperiment_others {experiments : Table Uuid PromptExperimentModel} {id other : Uuid}
    (loaded assigned : PromptExperimentModel) (ne : other ≠ id) :
    (Resources.flushExperiment experiments id loaded assigned).lookup other =
      experiments.lookup other := by
  unfold Resources.flushExperiment
  split
  · rfl
  · exact AList.lookup_insert_ne ne

/-- A flush of an experiment touches nothing that another payload names. -/
theorem experimentOf_experiments {experimentId : Uuid} (loaded assigned : PromptExperimentModel)
    (ne : JobPayload.promptExperimentRun experimentId ≠ payload) :
    ({ r with
      experiments := Resources.flushExperiment r.experiments experimentId loaded
        assigned } : Resources).experimentOf payload = r.experimentOf payload := by
  cases payload with
  | promptExperimentRun other =>
    exact flushExperiment_others loaded assigned (by rintro rfl; exact ne rfl)
  | _ => rfl

theorem experimentOf_comparisons {comparisonId : Uuid} (loaded assigned : PromptExperimentModel)
    (ne : JobPayload.providerComparisonRun comparisonId ≠ payload) :
    ({ r with
      comparisons := Resources.flushExperiment r.comparisons comparisonId loaded
        assigned } : Resources).experimentOf payload = r.experimentOf payload := by
  cases payload with
  | providerComparisonRun other =>
    exact flushExperiment_others loaded assigned (by rintro rfl; exact ne rfl)
  | _ => rfl

/-- The reconciler keeps a completed experiment exactly if it spares it. -/
theorem reconcile_finished {now : Timestamp} {job : LeasedJob} {read : Read} {cancelled : Bool}
    {errorCode errorMessage : String} (finished : r.finished payload = true) :
    (r.reconcile now job read cancelled errorCode errorMessage).finished payload = true ↔
      (job.payload = payload → endSpares cancelled read = true) := by
  have ends : ∀ experiment, (Resources.endExperiment now cancelled errorCode errorMessage
      experiment).status ≠ .completed := by
    intro experiment
    cases cancelled <;> simp [Resources.endExperiment]
  by_cases same : job.payload = payload
  · simp only [same, forall_const]
    obtain ⟨id, rfl, completed⟩ | ⟨id, rfl, completed⟩ := finished_cases finished
    · cases read with
      | experiment row =>
        cases row with
        | none => simp [Resources.reconcile, same, endSpares, finished]
        | some experiment =>
          simp only [Resources.reconcile, same, endSpares, decide_eq_true_eq]
          refine (flushExperiment_completed completed (ends experiment)).trans ?_
          exact eq_comm
      | _ => simp [Resources.reconcile, same, endSpares, finished]
    · cases read with
      | experiment row =>
        cases row with
        | none => simp [Resources.reconcile, same, endSpares, finished]
        | some comparison =>
          simp only [Resources.reconcile, same, endSpares, decide_eq_true_eq]
          refine (flushExperiment_completed completed (ends comparison)).trans ?_
          exact eq_comm
      | _ => simp [Resources.reconcile, same, endSpares, finished]
  · refine iff_of_true ?_ (fun equal => absurd equal same)
    rw [finished_congr]
    · exact finished
    have change := @reconcile_change now job r read cancelled errorCode errorMessage
    generalize r.reconcile now job read cancelled errorCode errorMessage = r' at change
    cases change with
    | same => rfl
    | task => simp
    | attempts => simp
    | media => simp
    | experiment named => exact experimentOf_experiments _ _ (by rw [← named]; exact same)
    | comparison named => exact experimentOf_comparisons _ _ (by rw [← named]; exact same)

/-- A retry keeps a completed experiment exactly if it spares it. -/
theorem prepareRetry_finished {job : LeasedJob} {read : Read}
    (finished : r.finished payload = true) :
    (r.prepareRetry job read).finished payload = true ↔
      (job.payload = payload → resetSpares read = true) := by
  have resets : ∀ experiment : PromptExperimentModel,
      (Resources.resetExperiment experiment).status ≠ .completed := by
    intro experiment
    simp [Resources.resetExperiment]
  by_cases same : job.payload = payload
  · simp only [same, forall_const]
    obtain ⟨id, rfl, completed⟩ | ⟨id, rfl, completed⟩ := finished_cases finished
    · cases read with
      | experiment row =>
        cases row with
        | none => simp [Resources.prepareRetry, same, resetSpares, finished]
        | some experiment =>
          simp only [Resources.prepareRetry, same, resetSpares, decide_eq_true_eq]
          refine (flushExperiment_completed completed (resets experiment)).trans ?_
          exact eq_comm
      | _ => simp [Resources.prepareRetry, same, resetSpares, finished]
    · cases read with
      | experiment row =>
        cases row with
        | none => simp [Resources.prepareRetry, same, resetSpares, finished]
        | some comparison =>
          simp only [Resources.prepareRetry, same, resetSpares, decide_eq_true_eq]
          refine (flushExperiment_completed completed (resets comparison)).trans ?_
          exact eq_comm
      | _ => simp [Resources.prepareRetry, same, resetSpares, finished]
  · refine iff_of_true ?_ (fun equal => absurd equal same)
    rw [finished_congr]
    · exact finished
    have change := @prepareRetry_change job r read
    generalize r.prepareRetry job read = r' at change
    cases change with
    | same => rfl
    | task => simp
    | media => simp
    | experiment named => exact experimentOf_experiments _ _ (by rw [← named]; exact same)
    | comparison named => exact experimentOf_comparisons _ _ (by rw [← named]; exact same)

/-- A runner keeps what is completed: it starts nothing that is, and it ends nothing otherwise. -/
theorem handleRunner_completed {now : Timestamp} {workerId : String} {job : LeasedJob}
    {answer : Answer} {jobs : JobStore} {experiments : Table Uuid PromptExperimentModel}
    {experimentId : Uuid} {absent : String} {stage : RunnerStage} {other : Uuid}
    (completed : completedIn experiments other = true) :
    completedIn (handleRunner now workerId job answer jobs experiments experimentId absent
      stage).1 other = true := by
  unfold handleRunner
  split
  · exact completed
  · split
    · exact completed
    · exact completed
    · rename_i experiment started
      refine completedIn_insert ?_ completed
      intro held
      obtain ⟨row, found, status⟩ := (Option.any_eq_true ..).mp held
      have status : row.status = .completed := by simpa using status
      simp [PromptExperimentModel.start, found, status] at started
  · exact completed
  · exact completed
  · split
    · exact completed
    · exact completed
    · rename_i experiment ended
      refine completedIn_insert ?_ completed
      intro
      unfold PromptExperimentModel.complete at ended
      split at ended
      · cases ended
      · split at ended <;> cases ended
        rfl

theorem startMedia_experimentOf {now : Timestamp} {workerId : String} {job : LeasedJob}
    {kind : MediaKind} {assetId attemptId : Uuid} {r' : Resources}
    (h : startMedia now workerId job r kind assetId = .ok (some (attemptId, r'))) :
    r'.experimentOf payload = r.experimentOf payload := by
  cases kind with
  | image =>
    simp only [startMedia, Resources.startAttempt] at h
    split at h
    · cases h
    split at h <;> cases h
    exact Resources.startTask_experimentOf ..
  | storyboard =>
    simp only [startMedia, Resources.startStoryboard] at h
    split at h
    · cases h
    split at h
    · cases h
    split at h <;> cases h
    exact Resources.startTask_experimentOf ..

theorem finalizeMedia_experimentOf {now : Timestamp} {workerId : String} {job : LeasedJob}
    {jobs : JobStore} {kind : MediaKind} {assetId attemptId : Uuid} {output : String}
    {r' : Resources}
    (h : finalizeMedia now workerId job jobs r kind assetId attemptId output = .ok r') :
    r'.experimentOf payload = r.experimentOf payload := by
  have same : ∀ {publish : MediaAssetModel → MediaAssetModel},
      r.finalizeSuccess publish now jobs assetId attemptId job workerId output = .ok r' →
        r'.experimentOf payload = r.experimentOf payload := by
    intro publish h
    unfold Resources.finalizeSuccess at h
    split at h
    swap
    · cases h
    split at h
    swap
    · cases h
    split at h
    · cases h
    split at h
    · cases h
    obtain ⟨completed, tasks, result⟩ := bind_eq_ok.mp h
    have result := pure_eq_ok.mp result
    subst result
    rw [Resources.addEvent_experimentOf]
    exact Resources.completeTask_experimentOf _ tasks payload
  cases kind with
  | image =>
    simp only [finalizeMedia, Resources.finalizeImageSuccess] at h
    exact same h
  | storyboard =>
    simp only [finalizeMedia, Resources.finalizeStoryboardSuccess] at h
    exact same h

theorem HandlerChange.finished {now : Timestamp} {workerId : String} {job : LeasedJob}
    {answer : Answer} {jobs : JobStore} {handler : Handler} {r' : Resources}
    (change : HandlerChange now workerId job answer jobs r handler r')
    (finished : r.finished payload = true) : r'.finished payload = true := by
  cases change with
  | same => exact finished
  | taskStarted =>
    rw [finished_congr (Resources.flushTask_experimentOf ..)]
    exact finished
  | taskCompleted =>
    rw [finished_congr (r := r) (by simp)]
    exact finished
  | mediaStarted named proceeds started =>
    rw [finished_congr (startMedia_experimentOf started)]
    exact finished
  | mediaFinalized named finalized =>
    rw [finished_congr (finalizeMedia_experimentOf finalized)]
    exact finished
  | mediaFinished =>
    rw [finished_congr (Resources.finishAttempt_experimentOf ..)]
    exact finished
  | experimentRan =>
    exact finished_of_tables finished (fun _ => handleRunner_completed) (fun _ => id)
  | comparisonRan =>
    exact finished_of_tables finished (fun _ => id) (fun _ => handleRunner_completed)
  | evaluationRan => exact finished

/-! ### Requests -/

theorem draft_unfinished {experiments : Table Uuid PromptExperimentModel} {id : Uuid}
    {experiment : PromptExperimentModel} (row : experiments.lookup id = some experiment)
    (draft : experiment.status = .draft) : completedIn experiments id = false := by
  simp [completedIn, row, draft]

theorem absent_unfinished {experiments : Table Uuid PromptExperimentModel} {id : Uuid}
    (absent : id ∉ experiments) : completedIn experiments id = false := by
  rw [completedIn, AList.lookup_eq_none.mpr absent]
  rfl

theorem submit_finished {now : Timestamp} {submission : Submission} {job : JobPayload}
    {write : JobId → Resources} (h : submit now submission r = some (job, write))
    (finished : r.finished payload = true) (jobId : JobId) :
    (write jobId).finished payload = true := by
  have runs : ∀ {experiments : Table Uuid PromptExperimentModel} {id : Uuid}
      {experiment : PromptExperimentModel}, experiments.lookup id = some experiment →
      experiment.status = .draft → ∀ other, completedIn experiments other = true →
        completedIn (experiments.insert id (experiment.run now jobId)) other = true := by
    intro experiments id experiment row draft other completed
    refine completedIn_insert ?_ completed
    rw [draft_unfinished row draft]
    nofun
  unfold submit at h
  split at h
  · split at h <;> cases h
    exact finished
  · split at h <;> cases h
    exact finished
  · split at h <;> cases h
    exact finished
  · split at h <;> cases h
    exact finished
  · split at h
    · cases h
    · rename_i row
      split at h <;> cases h
      exact finished_of_tables finished (runs row (not_not.mp ‹_›)) (fun _ => id)
  · split at h
    · cases h
    · rename_i row
      split at h <;> cases h
      exact finished_of_tables finished (fun _ => id) (runs row (not_not.mp ‹_›))
  · split at h <;> cases h
    exact finished
  · split at h <;> cases h
    exact finished

theorem review_experimentOf {now : Timestamp} {assetId : Uuid} {decision : Resources.Decision}
    {actorId : String} {role : UserRole} {r' : Resources}
    (h : r.review now assetId decision actorId role = some r') :
    r'.experimentOf payload = r.experimentOf payload := by
  unfold Resources.review at h
  split at h
  · cases h
  split at h
  · cases h
  split at h
  · cases h
  split at h
  · cases h
    exact Resources.addEvent_experimentOf ..
  · split at h <;> cases h
    exact Resources.addEvent_experimentOf ..

/-- A request other than the cancellation of an experiment keeps what is completed. -/
theorem request_finished {now : Timestamp} {req : Request} {r' : Resources} {jobId : Option JobId}
    (h : request now req r = some (r', jobId)) (finished : r.finished payload = true)
    (other : ∀ experimentId loaded, req = .cancelExperiment experimentId loaded →
      payload ≠ .promptExperimentRun experimentId) : r'.finished payload = true := by
  have creates : ∀ {experiments : Table Uuid PromptExperimentModel} {id : Uuid},
      id ∉ experiments → ∀ other, completedIn experiments other = true →
        completedIn (experiments.insert id {}) other = true := by
    intro experiments id absent other completed
    refine completedIn_insert ?_ completed
    rw [absent_unfinished absent]
    nofun
  unfold request at h
  split at h
  · obtain ⟨reviewed, result, same⟩ := Option.map_eq_some_iff.mp h
    cases same
    rw [finished_congr (review_experimentOf result)]
    exact finished
  · split at h <;> cases h
    exact finished_of_tables finished (creates ‹_›) (fun _ => id)
  · split at h <;> cases h
    exact finished_of_tables finished (fun _ => id) (creates ‹_›)
  · split at h <;> cases h
    rw [finished_congr (Resources.addEvent_experimentOf ..)]
    exact finished
  · rename_i experimentId loaded
    obtain ⟨experiment, -, same⟩ := Option.map_eq_some_iff.mp h
    cases same
    rw [finished_congr (experimentOf_experiments _ _ (Ne.symm (other _ _ rfl)))]
    exact finished
  · split at h
    · cases h
    · rename_i comparison row
      obtain ⟨assigned, cancels, same⟩ := Option.map_eq_some_iff.mp h
      cases same
      refine finished_of_tables finished (fun _ => id) ?_
      intro other completed
      refine completedIn_insert ?_ completed
      intro held
      have status : comparison.status = .completed := by simpa [completedIn, row] using held
      simp [PromptExperimentModel.cancel, status] at cancels

end

/-! ### Steps -/

/-- The cancellation of a completed experiment keeps it exactly if it is refused. -/
theorem cancelExperiment_finished {experimentId : Uuid} {loaded : PromptExperimentModel}
    (completed : completedIn w.resources.experiments experimentId = true) :
    (w.step settings (.request (.cancelExperiment experimentId loaded))).resources.finished
        (.promptExperimentRun experimentId) = true ↔
      refused w.jobs w.now loaded = true := by
  have requested : jobHandlers.request w.now (.cancelExperiment experimentId loaded) w.resources =
      (loaded.cancel w.now).map fun experiment =>
        ({ w.resources with
            experiments := Resources.flushExperiment w.resources.experiments experimentId loaded
              experiment }, loaded.jobId) := rfl
  simp only [World.step, World.request, requested]
  by_cases unsettled : loaded.status = .draft ∨ loaded.status = .running
  · have overwritten : completedIn (Resources.flushExperiment w.resources.experiments experimentId
        loaded { loaded with status := .cancelled, completedAt := some w.now }) experimentId =
          false := by
      rw [← Bool.not_eq_true, flushExperiment_completed completed (by simp)]
      intro same
      rw [← same] at unsettled
      simp at unsettled
    have unended : ¬ (loaded.status ≠ .draft ∧ loaded.status ≠ .running) := by
      rintro ⟨undrafted, idle⟩
      exact unsettled.elim undrafted idle
    simp only [PromptExperimentModel.cancel, if_pos unsettled, Option.map_some, refused, unended,
      false_or]
    generalize ({ loaded with status := .cancelled, completedAt := some w.now } :
      PromptExperimentModel) = assigned at overwritten ⊢
    cases loaded.jobId with
    | none =>
      refine iff_of_false ?_ (by simp)
      rw [Bool.not_eq_true]
      exact overwritten
    | some jobId =>
      simp only
      cases cancelled : w.jobs.cancel jobId w.now with
      | error error => exact iff_of_true completed (by simp [cancelled, Except.toBool])
      | ok jobs =>
        refine iff_of_false ?_ (by simp [cancelled, Except.toBool])
        rw [Bool.not_eq_true]
        exact overwritten
  · simp only [PromptExperimentModel.cancel, if_neg unsettled, Option.map_none]
    refine iff_of_true completed ?_
    simp [refused, not_or.mp unsettled]

theorem step_finished {event : WorldEvent jobHandlers}
    (finished : w.resources.finished payload = true) (spares : SparesFinished payload w event) :
    (w.step settings event).resources.finished payload = true := by
  have change := @step_change settings w event
  generalize same : (w.step settings event).resources = r' at change ⊢
  cases change with
  | same => exact finished
  | submitted jobId accepted => exact submit_finished accepted finished jobId
  | @requested req _ jobId accepted =>
    by_cases cancels : ∃ experimentId loaded, req = .cancelExperiment experimentId loaded ∧
        payload = .promptExperimentRun experimentId
    · obtain ⟨experimentId, loaded, rfl, rfl⟩ := cancels
      rw [← same]
      exact (cancelExperiment_finished finished).mpr (spares rfl)
    · refine request_finished accepted finished ?_
      rintro experimentId loaded rfl named
      exact cancels ⟨experimentId, loaded, rfl, named⟩
  | handled found phase => exact (handle_change _).finished finished
  | @ensured id answer run read found phase =>
    have change := @ensureSuccessConsistency_change w.now run.job w.resources read
    generalize (w.resources.ensureSuccessConsistency w.now run.job read).1 = ensured at change
    cases change with
    | same => exact finished
    | orphaned =>
      exact (finished_congr (Resources.failOrphaned_experimentOf ..)).trans finished
  | reconciled found phase =>
    refine (reconcile_finished finished).mpr ?_
    intro named
    exact spares _ found named _ _ _ _ phase
  | cancelled found kind loaded =>
    refine (reconcile_finished finished).mpr ?_
    intro named
    have spared := spares _ found named _ loaded
    rw [kind] at spared
    exact spared
  | prepared found kind loaded =>
    refine (prepareRetry_finished finished).mpr ?_
    intro named
    have spared := spares _ found named _ loaded
    rw [kind] at spared
    exact spared

theorem step_finished_iff (event : WorldEvent jobHandlers)
    (finished : w.resources.finished payload = true) :
    (w.step settings event).resources.finished payload = true ↔ SparesFinished payload w event := by
  refine ⟨fun kept => ?_, step_finished finished⟩
  cases event with
  | process id answer =>
    intro run found named cancelled errorCode errorMessage read phase
    rw [process_resources found (by rw [phase]; nofun)] at kept
    simp only [ProcessRun.advance, phase] at kept
    exact (reconcile_finished finished).mp kept named
  | call id =>
    intro call found named read loaded
    cases kind : call.kind with
    | cancel =>
      simp only [World.step, World.call, found, kind, loaded] at kept
      exact (reconcile_finished finished).mp kept named
    | retry =>
      simp only [World.step, World.call, found, kind, loaded] at kept
      exact (prepareRetry_finished finished).mp kept named
  | request req =>
    cases req with
    | cancelExperiment experimentId loaded =>
      rintro rfl
      exact (cancelExperiment_finished finished).mp kept
    | _ => trivial
  | _ => trivial

/-- The commit of a completion completes what its job names. -/
theorem completes_finished {event : WorldEvent jobHandlers}
    (completes : Completes payload w event) :
    (w.step settings event).resources.finished payload = true := by
  cases event with
  | process id answer =>
    obtain ⟨⟨run, found, phase, named⟩, proceeds, experiment, row, uncancelled⟩ := completes
    have completed : ∀ {experiments : Table Uuid PromptExperimentModel} {experimentId : Uuid}
        {absent : String}, experiments.lookup experimentId = some experiment →
          completedIn (handleRunner w.now run.workerId run.job answer w.jobs experiments
            experimentId absent .complete).1 experimentId = true := by
      intro experiments experimentId absent row
      match answer, proceeds with
      | .error errorCode errorMessage retryable, proceeds => exact absurd rfl (proceeds _ _ _)
      | .proceed output, _ | .last, _ =>
        simp [handleRunner, PromptExperimentModel.complete, row, uncancelled, completedIn]
    rw [process_handling found phase]
    cases payload with
    | promptExperimentRun experimentId =>
      simp only [jobHandlers, handle, named]
      exact completed row
    | providerComparisonRun comparisonId =>
      simp only [jobHandlers, handle, named]
      exact completed row
    | _ => cases row
  | _ => exact completes.elim

/-- The retry itself writes no resource. -/
theorem retries_spares {event : WorldEvent jobHandlers} (retries : Retries payload w event) :
    SparesFinished payload w event := by
  cases event with
  | retry => trivial
  | _ => exact retries.elim

/-! ### Runs -/

/-- In a run, what a runner has completed stays completed up to an operator's retry of its job,
exactly when no event up to then writes over the completion. -/
theorem finished_stays_iff (settings : Settings) (resources : Resources) (payload : JobPayload)
    (events : List (WorldEvent jobHandlers)) :
    let M : Machine (World jobHandlers) (WorldEvent jobHandlers) :=
      workerMachine settings resources
    M.HoldsSince (Completes payload) (Retries payload)
        (fun w => w.resources.finished payload = true) M.init events ↔
      M.MeetsSince (Completes payload) (Retries payload) (SparesFinished payload) M.init events :=
  Machine.holdsSince_iff (fun _ _ => completes_finished) (fun _ _ => retries_spares)
    (fun _ event finished _ => step_finished_iff event finished)

/-- A runner is about to commit the completion of the experiment of its job. -/
def completingRun : List (WorldEvent jobHandlers) :=
  [.request (.createExperiment 7), .submit (.runExperiment 7) 1 50 none none "experiment",
    .lease "worker" none [] 0, .process 0 .last, .process 0 .last, .process 0 .last]

/-- A cancellation of the job between the completion of the experiment and the checkpoint after
it. -/
def lateCancellation : List (WorldEvent jobHandlers) :=
  [.cancel 1, .process 0 .last, .process 0 .last, .process 0 .last, .process 0 .last,
    .process 0 .last, .process 0 .last]

/-- The run is about to write the completion of the experiment. -/
def completing (run : ProcessRun jobHandlers) : Bool :=
  match run.phase with
  | .handling (.runner .complete) => run.job.payload = .promptExperimentRun 7
  | _ => false

/-- The reconciler of the cancelled run writes over the completion. -/
theorem late_cancellation_unfinished :
    ¬ application.HoldsSince (Completes (.promptExperimentRun 7)) (Retries (.promptExperimentRun 7))
        (fun w => w.resources.finished (.promptExperimentRun 7) = true) application.init
        (completingRun ++ .process 0 .last :: lateCancellation) := by
  intro holds
  have stands : ((application.run application.init completingRun).runs.lookup 0).any completing =
      true := by
    decide +kernel
  have runs : ((application.run application.init completingRun).resources.experimentOf
      (.promptExperimentRun 7)).any (fun experiment => experiment.status ≠ .cancelled) = true := by
    decide +kernel
  have overwritten : (application.run application.init
      (completingRun ++ .process 0 .last :: lateCancellation)).resources.finished
        (.promptExperimentRun 7) = false := by
    decide +kernel
  obtain ⟨run, found, phase⟩ := (Option.any_eq_true ..).mp stands
  obtain ⟨experiment, row, uncancelled⟩ := (Option.any_eq_true ..).mp runs
  have completes : Completes (.promptExperimentRun 7)
      (application.run application.init completingRun) (.process 0 .last) := by
    refine ⟨⟨run, found, ?_⟩, nofun, experiment, row, by simpa using uncancelled⟩
    unfold completing at phase
    split at phase
    · exact ⟨‹_›, by simpa using phase⟩
    · cases phase
  have unretried : application.Meets (fun w e => ¬ Retries (.promptExperimentRun 7) w e)
      (application.run application.init (completingRun ++ [.process 0 .last]))
      lateCancellation := by
    simp only [lateCancellation, Machine.Meets, Retries, not_false_eq_true, and_self]
  have kept := holds completingRun _ lateCancellation [] (by simp) completes unretried
  exact absurd kept (by simp [overwritten])

end CyberLegends.Applied
