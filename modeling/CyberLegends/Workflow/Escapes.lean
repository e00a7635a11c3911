import CyberLegends.Jobs.Recall
import CyberLegends.Workflow.Retries

/-! Ways out of a status. A workflow that is not completed is brought to an end by events that the API
and the workers offer: its job, once a worker has it, records a failure on whatever it finds. -/

namespace CyberLegends.Workflow

open CyberLegends.Core Lib Jobs

variable {settings : Settings} {jobKey : WorkflowId → String}

/-- The workflow is decided, has failed, or was closed by a request for a revision. -/
def Left (store : WorkflowStore) (id : WorkflowId) : Prop :=
  ∃ row, store.workflows.lookup id = some row ∧
    (row.status = .approved ∨ row.status = .rejected ∨ row.status = .failed ∨
      row.status = .revisionRequired ∧ row.completedAt ≠ none)

/-- The events that the API and the workers offer. The job of a workflow is enqueued under the key of
the workflow; `jobKey` is the digest of the type of the job and the identifier of the workflow. A
delivery, which creates the workflow of its job, and the jobs of the other kinds have keys of their
own. -/
def Offered (jobKey : WorkflowId → String) (_ : World (hintedHandlers settings)) :
    WorldEvent (hintedHandlers settings) → Prop
  | .submit (.runWorkflow workflowId) _ priority maxAttempts availableAt idempotencyKey =>
    priority = 50 ∧ maxAttempts = none ∧ availableAt = none ∧ idempotencyKey = jobKey workflowId
  | .submit (.acceptCampaign ..) _ priority maxAttempts availableAt idempotencyKey =>
    priority = 50 ∧ maxAttempts = none ∧ availableAt = none ∧
      ∀ other, idempotencyKey ≠ jobKey other
  | .submit (.other _) _ _ _ _ idempotencyKey => ∀ other, idempotencyKey ≠ jobKey other
  | _ => True

/-- A run of offered events leads from the state to one in which the workflow has been left. -/
def Escapes (jobKey : WorkflowId → String) (w : World (hintedHandlers settings))
    (id : WorkflowId) : Prop :=
  ∃ events, (hintedApplication settings).Meets (Offered jobKey) w events ∧
    Left ((hintedApplication settings).run w events).resources id

variable {w : World (hintedHandlers settings)} {event : WorldEvent (hintedHandlers settings)}
  {id : WorkflowId}

theorem Escapes.here (left : Left w.resources id) : Escapes jobKey w id :=
  ⟨[], trivial, left⟩

theorem Escapes.step (offered : Offered jobKey w event)
    (escapes : Escapes jobKey (w.step settings event) id) : Escapes jobKey w id := by
  obtain ⟨events, meets, left⟩ := escapes
  exact ⟨event :: events, ⟨offered, meets⟩, left⟩

theorem Escapes.operates {w' : World (hintedHandlers settings)}
    (leads : Relation.ReflTransGen (Operates settings) w w') (escapes : Escapes jobKey w' id) :
    Escapes jobKey w id := by
  induction leads using Relation.ReflTransGen.head_induction_on with
  | refl => exact escapes
  | head first rest ih =>
    obtain ⟨event, operates, rfl⟩ := first
    refine Escapes.step ?_ ih
    cases event with
    | submit => cases operates
    | _ => trivial

/-! ### The handler of a job -/

/-- A run of the workflow whose handler stands there and was not cancelled. -/
def Stands (w : World (hintedHandlers settings)) (runId : RunId) (id : WorkflowId)
    (held : HintedStage) : Prop :=
  ∃ run, w.runs.lookup runId = some run ∧ run.phase = .handling held ∧
    run.interrupted = false ∧ run.job.payload = .workflowRun id

/-- A run of the workflow at the beginning of a stage. -/
abbrev StandsAt (w : World (hintedHandlers settings)) (runId : RunId) (id : WorkflowId)
    (stage : Stage) : Prop :=
  Stands w runId id { stage }

/-- The workflow is open, with its campaign, in a status. -/
def IsOpen (store : WorkflowStore) (id : WorkflowId) (status : CampaignStatus) : Prop :=
  ∃ pair, store.pair id = some pair ∧ pair.workflow.status = status ∧
    pair.workflow.completedAt = none

/-- A step of the handler that goes on, after which the workflow can still be left. -/
theorem Stands.escapes {runId : RunId} {held held' : HintedStage} {store' : WorkflowStore}
    (stands : Stands w runId id held) (answer : Answer)
    (handled : ∀ run, w.runs.lookup runId = some run →
      held.handle settings w.now run.workerId run.job w.jobs id answer w.resources =
        (store', .continues held'))
    (next : ∀ w' : World (hintedHandlers settings), w'.resources = store' →
      Stands w' runId id held' → Escapes jobKey w' id) : Escapes jobKey w id := by
  obtain ⟨run, found, phase, calm, payload⟩ := stands
  have about : (workflowOf run.job.payload).getD 0 = id := by rw [payload]; rfl
  have result : (hintedHandlers settings).handle w.now run.workerId run.job answer w.jobs
      w.resources held = (store', .continues held') := by
    show held.handle settings w.now run.workerId run.job w.jobs _ answer w.resources = _
    rw [about]
    exact handled run found
  refine @Escapes.step settings jobKey w (.process runId answer) id trivial (next _ ?_ ?_)
  · exact (process_handling found phase answer).trans (by rw [result])
  · refine ⟨_, process_run found phase answer, ?_, rfl, payload⟩
    show (if run.interrupted then _ else _) = _
    rw [calm, result]
    rfl

/-- What the transaction of a stage comes to, whoever runs it. -/
def Performs (w : World (hintedHandlers settings)) (id : WorkflowId) (stage : Stage)
    (result : Except RaisedError (WorkflowStore × Outcome Stage)) : Prop :=
  stage.locked settings w.now = none ∧ ∀ workerId job jobs,
    stage.perform settings w.now workerId job jobs id .proceed w.resources = result

/-- A transaction without a lock that succeeds. -/
theorem Stands.performs {runId : RunId} {stage stage' : Stage} {store' : WorkflowStore}
    (stands : StandsAt w runId id stage)
    (performs : Performs w id stage (.ok (store', .continues stage')))
    (next : ∀ w' : World (hintedHandlers settings), w'.resources = store' →
      StandsAt w' runId id stage' → Escapes jobKey w' id) : Escapes jobKey w id := by
  refine stands.escapes .proceed (fun run _ => ?_) next
  have done := performs.2 run.workerId run.job w.jobs
  simp only [HintedStage.handle, HintedStage.perform, performs.1, done]
  rfl

/-- A transaction without a lock that is refused. -/
theorem Stands.refused {runId : RunId} {stage stage' : Stage} {error : RaisedError}
    (stands : StandsAt w runId id stage) (refused : Performs w id stage (.error error))
    (fails : stage.fails error = .continues stage')
    (next : ∀ w' : World (hintedHandlers settings), w'.resources = w.resources →
      StandsAt w' runId id stage' → Escapes jobKey w' id) : Escapes jobKey w id := by
  refine stands.escapes .proceed (fun run _ => ?_) next
  have done := refused.2 run.workerId run.job w.jobs
  simp only [HintedStage.handle, HintedStage.perform, refused.1, done, Except.map, fails]
  rfl

/-! ### Transactions that lock rows -/

section

variable {runId : RunId} {stage stage' : Stage} {pair pair' : LockedPair}

/-- The reading of the hint. -/
theorem Stands.reads_hint (stands : StandsAt w runId id stage)
    (locks : (stage.locked settings w.now).isSome) (held : w.resources.pair id = some pair)
    (next : ∀ w' : World (hintedHandlers settings), w'.resources = w.resources →
      Stands w' runId id { stage, hint := some pair.workflow } → Escapes jobKey w' id) :
    Escapes jobKey w id := by
  obtain ⟨assign, locks⟩ := Option.isSome_iff_exists.mp locks
  refine stands.escapes .proceed (fun run _ => ?_) next
  simp only [HintedStage.handle, HintedStage.perform, locks,
    (WorkflowStore.pair_eq_some.mp held).1]

variable {now : Timestamp} {workerId : String} {job : LeasedJob} {jobs : JobStore}
  {store : WorkflowStore} {assign : LockedPair → Except WorkflowError (Option LockedPair)}

/-- What follows the locks, when nobody has overtaken the hint. -/
theorem handle_locked (locks : stage.locked settings now = some assign)
    (held : store.pair id = some pair) (assigned : assign pair = .ok (some pair'))
    (campaignId : pair'.workflow.campaignId = pair.workflow.campaignId) :
    HintedStage.handle settings now workerId job jobs id .proceed store
        { stage, hint := some pair.workflow } =
      (store.setPair id pair', unhinted stage.afterLocked) := by
  obtain ⟨row, campaignRow⟩ := WorkflowStore.pair_eq_some.mp held
  have locked : store.lockHinted id pair.workflow = .ok pair :=
    lockHinted_ok.mpr ⟨rfl, campaignRow, AList.lookup_isSome.mp (by rw [row]; rfl)⟩
  have written : store.commitHinted id pair (some pair') = store.setPair id pair' :=
    (commitHinted_some row campaignRow).trans (writeHinted_fresh campaignId)
  simp only [HintedStage.handle, HintedStage.perform, locks, locked, bind, Except.bind, assigned,
    Except.mapError, written]
  rfl

theorem handle_refused {error : WorkflowError} (locks : stage.locked settings now = some assign)
    (held : store.pair id = some pair) (refused : assign pair = .error error) :
    HintedStage.handle settings now workerId job jobs id .proceed store
        { stage, hint := some pair.workflow } =
      (store, unhinted (stage.fails (.ofWorkflowError error))) := by
  obtain ⟨row, campaignRow⟩ := WorkflowStore.pair_eq_some.mp held
  have locked : store.lockHinted id pair.workflow = .ok pair :=
    lockHinted_ok.mpr ⟨rfl, campaignRow, AList.lookup_isSome.mp (by rw [row]; rfl)⟩
  simp only [HintedStage.handle, HintedStage.perform, locks, locked, bind, Except.bind, refused,
    Except.mapError]

/-- A transaction that locks the rows and commits. -/
theorem Stands.commits (stands : StandsAt w runId id stage)
    (held : w.resources.pair id = some pair)
    (assigns : ∀ now, ∃ assign, stage.locked settings now = some assign ∧
      assign pair = .ok (some pair'))
    (campaignId : pair'.workflow.campaignId = pair.workflow.campaignId)
    (after : stage.afterLocked = .continues stage')
    (next : ∀ w' : World (hintedHandlers settings),
      w'.resources = w.resources.setPair id pair' →
        StandsAt w' runId id stage' → Escapes jobKey w' id) : Escapes jobKey w id := by
  obtain ⟨assign, locks, -⟩ := assigns w.now
  refine stands.reads_hint (by rw [locks]; rfl) held fun v resources stands' => ?_
  rw [← resources] at held next
  obtain ⟨assign, locks, assigned⟩ := assigns v.now
  refine stands'.escapes .proceed (fun run _ => ?_) next
  rw [handle_locked locks held assigned campaignId, after]
  rfl

end

/-! ### From a failure -/

section

variable {runId : RunId} {status : CampaignStatus}

/-- The record of a failure ends the workflow. -/
theorem escapes_persistFailure {error : RaisedError}
    (stands : StandsAt w runId id (.persistFailure error)) (isOpen : IsOpen w.resources id status)
    (failable : LockedPair.failable status = true) : Escapes jobKey w id := by
  obtain ⟨pair, held, rfl, -⟩ := isOpen
  refine stands.reads_hint rfl held fun v resources stands' => ?_
  rw [← resources] at held
  obtain ⟨run, found, phase, -, payload⟩ := stands'
  have about : (workflowOf run.job.payload).getD 0 = id := by rw [payload]; rfl
  obtain ⟨failed, recorded, status, campaignId⟩ : ∃ failed, pair.persistFailure
      (error.errorClass.errorCode.getD "") error.message v.now = some failed ∧
        failed.workflow.status = .failed ∧
          failed.workflow.campaignId = pair.workflow.campaignId :=
    ⟨_, LockedPair.persistFailure_eq.mpr ⟨failable, rfl⟩, rfl, rfl⟩
  refine @Escapes.step settings jobKey v (.process runId .proceed) id trivial (.here ?_)
  have commits := @process_handling _ settings v runId run _ found phase .proceed
  have handled : ((hintedHandlers settings).handle v.now run.workerId run.job Answer.proceed v.jobs
      v.resources { stage := Stage.persistFailure error, hint := some pair.workflow }).1 =
        v.resources.setPair id failed := by
    show (HintedStage.handle settings v.now run.workerId run.job v.jobs
      ((workflowOf run.job.payload).getD 0) .proceed v.resources _).1 = _
    rw [about, handle_locked rfl held (congrArg Except.ok recorded) campaignId]
  rw [handled] at commits
  show Left (v.step settings (.process runId .proceed)).resources id
  rw [commits]
  exact ⟨failed.workflow, AList.lookup_insert _, .inr (.inr (.inl status))⟩

/-- An error that is not a conflict is recorded as the failure of the workflow. -/
theorem handleError_records {error : RaisedError} (unconflicting : error.errorClass.isConflict = false) :
    ∃ recorded, handleError error = .continues (.persistFailure recorded) := by
  unfold handleError
  rw [unconflicting, if_neg Bool.false_ne_true]
  split
  · exact ⟨_, rfl⟩
  · exact ⟨_, rfl⟩

/-- A transaction that is refused with an error that is not a conflict. -/
theorem escapes_refused {stage : Stage} {error : RaisedError} (stands : StandsAt w runId id stage)
    (isOpen : IsOpen w.resources id status) (failable : LockedPair.failable status = true)
    (refused : Performs w id stage (.error error))
    (fails : stage.fails error = handleError error)
    (unconflicting : error.errorClass.isConflict = false) : Escapes jobKey w id := by
  obtain ⟨recorded, records⟩ := handleError_records unconflicting
  refine stands.refused refused (fails.trans records) fun w' resources stands' => ?_
  exact escapes_persistFailure stands' (resources ▸ isOpen) failable

/-- The failed run of an agent fails the workflow. -/
theorem escapes_failRun {agentRunId : Uuid} {limit : Bool} {error : RaisedError}
    (stands : StandsAt w runId id (.failRun agentRunId limit (some error)))
    (isOpen : IsOpen w.resources id status) (failable : LockedPair.failable status = true)
    (unconflicting : error.errorClass.isConflict = false) : Escapes jobKey w id := by
  cases recorded : w.resources.failRun agentRunId limit with
  | none =>
    have refused : Performs w id (.failRun agentRunId limit (some error))
        (.error invalidAgentRunTransition) := by
      refine ⟨rfl, fun _ _ _ => ?_⟩
      simp only [Stage.perform, recorded]
    exact escapes_refused stands isOpen failable refused rfl rfl
  | some store =>
    obtain ⟨raised, records⟩ := handleError_records unconflicting
    have performs : Performs w id (.failRun agentRunId limit (some error))
        (.ok (store, .continues (.persistFailure raised))) := by
      refine ⟨rfl, fun _ _ _ => ?_⟩
      simp only [Stage.perform, recorded, records]
    refine stands.performs performs fun w' resources stands' =>
      escapes_persistFailure stands' ?_ failable
    obtain ⟨run, -, -, rfl⟩ := WorkflowStore.moveRun_some.mp recorded
    rw [resources]
    exact isOpen

/-- The provider does not answer in time. -/
def timedOut : RaisedError where
  errorClass := .llmTimeout
  message := "LLM provider timed out"

/-- An agent that the provider leaves without an answer fails the workflow. -/
theorem escapes_agentTurn {agentRunId : Uuid} {context : AgentContext}
    (stands : StandsAt w runId id (.agentTurn agentRunId context))
    (isOpen : IsOpen w.resources id status) (failable : LockedPair.failable status = true) :
    Escapes jobKey w id := by
  refine stands.escapes (.error timedOut) (fun _ _ => rfl) fun w' resources stands' => ?_
  exact escapes_failRun stands' (resources ▸ isOpen) failable rfl

theorem escapes_agentLoop {agentRunId : Uuid} {context : AgentContext}
    (stands : StandsAt w runId id (.agentLoop agentRunId context))
    (isOpen : IsOpen w.resources id status) (failable : LockedPair.failable status = true) :
    Escapes jobKey w id := by
  obtain ⟨pair, held, same, open_⟩ := isOpen
  cases counted : pair.recordLlmCall settings with
  | error error =>
    have limit : error = .workflowLimit "LLM call budget exhausted" := by
      unfold LockedPair.recordLlmCall at counted
      split at counted
      · cases counted
        rfl
      · cases counted
    subst limit
    refine stands.reads_hint rfl held fun v resources stands' => ?_
    rw [← resources] at held
    have refused : (pair.recordLlmCall settings).map some =
        Except.error (WorkflowError.workflowLimit "LLM call budget exhausted") := by
      rw [counted]
      rfl
    refine stands'.escapes .proceed (fun run _ => handle_refused rfl held refused)
      fun w' resources' stands'' => ?_
    rw [← resources'] at held
    exact escapes_failRun stands'' ⟨pair, held, same, open_⟩ failable rfl
  | ok pair' =>
    obtain after := LockedPair.recordLlmCall_ok counted
    have assigned : (pair.recordLlmCall settings).map some = Except.ok (some pair') := by
      rw [counted]
      rfl
    refine stands.commits held (fun _ => ⟨_, rfl, assigned⟩) (by rw [after]) rfl
      fun w' resources stands' => escapes_agentTurn stands' ?_ failable
    rw [resources, ← same]
    exact ⟨_, setPair_self, by rw [after], by rw [after]; exact open_⟩

theorem escapes_startRun {agentRunId : Uuid} {context : AgentContext}
    (stands : StandsAt w runId id (.startRun agentRunId context))
    (isOpen : IsOpen w.resources id status) (failable : LockedPair.failable status = true) :
    Escapes jobKey w id := by
  cases started : w.resources.startRun agentRunId with
  | none =>
    have refused : Performs w id (.startRun agentRunId context)
        (.error invalidAgentRunTransition) := by
      refine ⟨rfl, fun _ _ _ => ?_⟩
      simp only [Stage.perform, started]
    exact escapes_refused stands isOpen failable refused rfl rfl
  | some store =>
    have performs : Performs w id (.startRun agentRunId context)
        (.ok (store, .continues (.agentLoop agentRunId context))) := by
      refine ⟨rfl, fun _ _ _ => ?_⟩
      simp only [Stage.perform, started]
    refine stands.performs performs fun w' resources stands' =>
      escapes_agentLoop stands' ?_ failable
    obtain ⟨run, -, -, rfl⟩ := WorkflowStore.moveRun_some.mp started
    rw [resources]
    exact isOpen

/-- An agent is started, or another run of it is in the way. -/
theorem escapes_createRun {context : AgentContext}
    (stands : StandsAt w runId id (.createRun context))
    (isOpen : IsOpen w.resources id status) (failable : LockedPair.failable status = true) :
    Escapes jobKey w id := by
  cases created : w.resources.createRun id context.agentName with
  | none =>
    have refused : ∃ message, Performs w id (.createRun context)
        (.error { errorClass := .application "AGENT_RUN_ALREADY_ACTIVE", message }) := by
      refine ⟨"Specialist already has an active run", rfl, fun _ _ _ => ?_⟩
      simp only [Stage.perform, created]
    obtain ⟨message, refused⟩ := refused
    exact escapes_refused stands isOpen failable refused rfl rfl
  | some store =>
    have performs : Performs w id (.createRun context)
        (.ok (store, .continues (.startRun w.resources.nextAgentRun context))) := by
      refine ⟨rfl, fun _ _ _ => ?_⟩
      simp only [Stage.perform, created]
    refine stands.performs performs fun w' resources stands' =>
      escapes_startRun stands' ?_ failable
    rw [resources]
    unfold WorkflowStore.createRun at created
    split at created
    · cases created
    · cases created
      exact isOpen

theorem escapes_buildContext {agentName : AgentName}
    (stands : StandsAt w runId id (.buildContext agentName))
    (isOpen : IsOpen w.resources id status) (failable : LockedPair.failable status = true) :
    Escapes jobKey w id := by
  obtain ⟨pair, held, same, open_⟩ := isOpen
  have loaded := WorkflowStore.loadPair_ok.mpr held
  have isOpen : IsOpen w.resources id status := ⟨pair, held, same, open_⟩
  cases built : buildContext agentName pair.campaign with
  | error error =>
    obtain ⟨message, rfl⟩ := buildContext_error built
    have refused : Performs w id (.buildContext agentName) (.error (agentContextError message)) := by
      refine ⟨rfl, fun _ _ _ => ?_⟩
      simp only [Stage.perform, loaded, bind, Except.bind, built]
    exact escapes_refused stands isOpen failable refused rfl rfl
  | ok context =>
    have performs : Performs w id (.buildContext agentName)
        (.ok (w.resources, .continues (.createRun context))) := by
      refine ⟨rfl, fun _ _ _ => ?_⟩
      simp only [Stage.perform, loaded, bind, Except.bind, built]
      rfl
    exact stands.performs performs fun w' resources stands' =>
      escapes_createRun stands' (resources ▸ isOpen) failable

/-! ### From each status -/

variable {pair : LockedPair}

/-- The loop takes a snapshot and goes on. -/
theorem Stands.reads {stage' : Stage} (stands : StandsAt w runId id .readWorkflow)
    (held : w.resources.pair id = some pair)
    (next : nextStage pair.workflow.status pair.campaign = .continues stage')
    (goesOn : ∀ w' : World (hintedHandlers settings), w'.resources = w.resources →
      StandsAt w' runId id stage' → Escapes jobKey w' id) : Escapes jobKey w id := by
  obtain ⟨row, campaign⟩ := WorkflowStore.pair_eq_some.mp held
  have reads : Performs w id .readWorkflow
      (.ok (w.resources, .continues (.readCampaign pair.workflow))) := by
    refine ⟨rfl, fun _ _ _ => ?_⟩
    simp only [Stage.perform, row]
  refine stands.performs reads fun v resources stands' => ?_
  have looks : Performs v id (.readCampaign pair.workflow)
      (.ok (v.resources, .continues stage')) := by
    refine ⟨rfl, fun _ _ _ => ?_⟩
    rw [resources]
    simp only [Stage.perform, campaign, next]
  exact stands'.performs looks fun w' resources' stands'' =>
    goesOn w' (resources'.trans resources) stands''

/-- A checkpoint that only moves the workflow on. -/
theorem Stands.transitions {expectedStatus nextStatus : CampaignStatus} {nextStep : WorkflowStep}
    (stands : StandsAt w runId id (.transition expectedStatus))
    (held : w.resources.pair id = some pair) (status : pair.workflow.status = expectedStatus)
    (rule : checkpointAfter expectedStatus = some (nextStatus, nextStep))
    (allowed : nextStatus ∈ allowedTransitions expectedStatus)
    (goesOn : ∀ w' : World (hintedHandlers settings),
      w'.resources.pair id = some (pair.setStatus nextStatus nextStep) →
        StandsAt w' runId id .readWorkflow → Escapes jobKey w' id) : Escapes jobKey w id := by
  have moved : pair.transitionCheckpoint expectedStatus nextStatus nextStep =
      .ok (pair.setStatus nextStatus nextStep) :=
    LockedPair.transitionCheckpoint_ok.mpr ⟨status, allowed, rfl⟩
  have assigned : (pair.transitionCheckpoint expectedStatus nextStatus nextStep).map some =
      Except.ok (some (pair.setStatus nextStatus nextStep)) := by
    rw [moved]
    rfl
  refine stands.commits held (fun _ => ⟨_, congrArg (Option.map _) rule, assigned⟩) rfl rfl
    fun w' resources stands' => goesOn w' ?_ stands'
  rw [resources]
  exact setPair_self

theorem escapes_analyzing (stands : StandsAt w runId id .readWorkflow)
    (held : w.resources.pair id = some pair) (status : pair.workflow.status = .analyzing)
    (open_ : pair.workflow.completedAt = none) : Escapes jobKey w id := by
  have isOpen : IsOpen w.resources id .analyzing := ⟨pair, held, status, open_⟩
  have next : nextStage pair.workflow.status pair.campaign =
      .continues (.buildContext .briefAnalyst) := by
    rw [status]
    rfl
  exact stands.reads held next fun w' resources stands' =>
    escapes_buildContext stands' (resources ▸ isOpen) (by decide)

theorem escapes_generating (stands : StandsAt w runId id .readWorkflow)
    (held : w.resources.pair id = some pair) (status : pair.workflow.status = .generating)
    (open_ : pair.workflow.completedAt = none)
    (analysed : pair.campaign.briefAnalysis.isSome) : Escapes jobKey w id := by
  have isOpen : IsOpen w.resources id .generating := ⟨pair, held, status, open_⟩
  have next : nextStage pair.workflow.status pair.campaign =
      .continues (.buildContext .contentGenerator) := by
    rw [status]
    show Outcome.continues (if pair.campaign.briefAnalysis = none then _ else _) = _
    rw [if_neg (Option.isSome_iff_ne_none.mp analysed)]
  exact stands.reads held next fun w' resources stands' =>
    escapes_buildContext stands' (resources ▸ isOpen) (by decide)

theorem escapes_reviewing (stands : StandsAt w runId id .readWorkflow)
    (held : w.resources.pair id = some pair) (status : pair.workflow.status = .reviewing)
    (open_ : pair.workflow.completedAt = none)
    (drafted : pair.campaign.generatedContent.isSome) : Escapes jobKey w id := by
  have isOpen : IsOpen w.resources id .reviewing := ⟨pair, held, status, open_⟩
  have next : nextStage pair.workflow.status pair.campaign =
      .continues (.buildContext .contentReviewer) := by
    rw [status]
    show Outcome.continues (if pair.campaign.generatedContent = none then _ else _) = _
    rw [if_neg (Option.isSome_iff_ne_none.mp drafted)]
  exact stands.reads held next fun w' resources stands' =>
    escapes_buildContext stands' (resources ▸ isOpen) (by decide)

theorem escapes_validating (stands : StandsAt w runId id .readWorkflow)
    (held : w.resources.pair id = some pair) (status : pair.workflow.status = .validating)
    (open_ : pair.workflow.completedAt = none) : Escapes jobKey w id := by
  have next : nextStage pair.workflow.status pair.campaign =
      .continues (.transition .validating) := by
    rw [status]
    rfl
  refine stands.reads held next fun v resources stands' => ?_
  rw [← resources] at held
  exact stands'.transitions held status rfl (by decide) fun w' held' stands'' =>
    escapes_analyzing stands'' held' rfl open_

theorem escapes_received (stands : StandsAt w runId id .readWorkflow)
    (held : w.resources.pair id = some pair) (status : pair.workflow.status = .received)
    (open_ : pair.workflow.completedAt = none) : Escapes jobKey w id := by
  have next : nextStage pair.workflow.status pair.campaign =
      .continues (.transition .received) := by
    rw [status]
    rfl
  refine stands.reads held next fun v resources stands' => ?_
  rw [← resources] at held
  exact stands'.transitions held status rfl (by decide) fun w' held' stands'' =>
    escapes_validating stands'' held' rfl open_

theorem escapes_revisionRequired (stands : StandsAt w runId id .readWorkflow)
    (held : w.resources.pair id = some pair) (status : pair.workflow.status = .revisionRequired)
    (open_ : pair.workflow.completedAt = none)
    (analysed : pair.campaign.briefAnalysis.isSome) : Escapes jobKey w id := by
  have next : nextStage pair.workflow.status pair.campaign =
      .continues (.transition .revisionRequired) := by
    rw [status]
    rfl
  refine stands.reads held next fun v resources stands' => ?_
  rw [← resources] at held
  exact stands'.transitions held status rfl (by decide) fun w' held' stands'' =>
    escapes_generating stands'' held' rfl open_ analysed

/-- The statuses in which the job of a workflow finds something to do. -/
def resumable (status : CampaignStatus) : Bool :=
  LockedPair.failable status ∨ status = .revisionRequired

/-- The loop of a job that finds something to do. -/
theorem escapes_loop (stands : StandsAt w runId id .readWorkflow)
    (held : w.resources.pair id = some pair)
    (resumes : resumable pair.workflow.status = true) (open_ : pair.workflow.completedAt = none)
    (carries : pair.campaign.Carries pair.workflow.status) : Escapes jobKey w id := by
  cases status : pair.workflow.status with
  | received => exact escapes_received stands held status open_
  | validating => exact escapes_validating stands held status open_
  | analyzing => exact escapes_analyzing stands held status open_
  | generating =>
    exact escapes_generating stands held status open_ (carries.analysis (by rw [status]; rfl))
  | reviewing =>
    exact escapes_reviewing stands held status open_ (carries.content (by rw [status]; rfl))
  | revisionRequired =>
    exact escapes_revisionRequired stands held status open_
      (carries.analysis (by rw [status]; rfl))
  | pendingApproval | manualReviewRequired | approved | rejected | failed | needsClarification =>
    rw [status] at resumes
    cases resumes

/-- A run of the job that starts on a workflow with something to do. -/
theorem escapes_start {run : ProcessRun (hintedHandlers settings)}
    (starts : Starts w runId (.workflowRun id) run)
    (held : w.resources.pair id = some pair)
    (resumes : resumable pair.workflow.status = true) (open_ : pair.workflow.completedAt = none)
    (carries : pair.campaign.Carries pair.workflow.status) : Escapes jobKey w id := by
  refine @Escapes.step settings jobKey w (.process runId .proceed) id trivial ?_
  obtain ⟨resources, jobs, run', found', phase', calm', job', worker'⟩ :=
    @Starts.begins _ settings w runId _ run starts Answer.proceed
  have payload' : run'.job.payload = .workflowRun id := by rw [job']; exact starts.payload
  have begins : run'.phase = .handling ({ stage := .checkpoint } : HintedStage) := by
    have start : (hintedHandlers settings).start run.job =
        ({ stage := .checkpoint } : HintedStage) := by
      show ({ stage := if (workflowOf run.job.payload).isSome then _ else _ } : HintedStage) = _
      rw [starts.payload]
      rfl
    rw [phase', start]
  have stands : StandsAt (w.step settings (.process runId Answer.proceed)) runId id .checkpoint :=
    ⟨run', found', begins, calm', payload'⟩
  have passes : ∀ run, (w.step settings (.process runId Answer.proceed)).runs.lookup runId =
      some run → jobCheckpoint run.workerId run.job
        (w.step settings (.process runId Answer.proceed)).jobs (.continues .getWorkflow) =
          Outcome.continues Stage.getWorkflow := by
    intro run₀ found₀
    rw [found'] at found₀
    cases found₀
    unfold jobCheckpoint
    rw [jobs, job', worker', starts.uncancelled, if_neg Bool.false_ne_true]
  generalize w.step settings (.process runId Answer.proceed) = v at resources stands passes ⊢
  rw [← resources] at held
  have goesOn : ∀ run, v.runs.lookup runId = some run →
      HintedStage.handle settings v.now run.workerId run.job v.jobs id .proceed v.resources
        { stage := .checkpoint } = (v.resources, .continues { stage := .getWorkflow }) := by
    intro run₀ found₀
    simp only [HintedStage.handle, HintedStage.perform, Stage.locked, Stage.perform,
      passes run₀ found₀]
    rfl
  refine stands.escapes .proceed goesOn fun u resources' stands' => ?_
  rw [← resources'] at held
  have row := (WorkflowStore.pair_eq_some.mp held).1
  have working : handlerReturns pair.workflow.status = false := by
    cases status : pair.workflow.status <;> rw [status] at resumes <;>
      first | rfl | cases resumes
  have gets : Performs u id .getWorkflow (.ok (u.resources, .continues .readWorkflow)) := by
    refine ⟨rfl, fun _ _ _ => ?_⟩
    simp only [Stage.perform, row, working]
    rfl
  refine stands'.performs gets fun w' resources'' stands'' => ?_
  rw [← resources''] at held
  exact escapes_loop stands'' held resumes open_ carries

end

end CyberLegends.Workflow
