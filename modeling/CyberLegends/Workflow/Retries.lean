import CyberLegends.Jobs.Names
import CyberLegends.Workflow.Artifacts
import CyberLegends.Workflow.Hints

/-! What an error that may be retried leaves for the next attempt. The handler reads a workflow before
it locks it, so the record of a failure may fall on a row that has moved on; as long as no such record
is written, no error is wrapped or replaced and no attempt finds a failed workflow, the workflow goes
on from where it stands, the job is tried again, and no job of a failed workflow succeeds. -/

namespace CyberLegends.Workflow

open CyberLegends.Core Lib Jobs

variable {settings : Settings} {w : World (hintedHandlers settings)}
  {event : WorldEvent (hintedHandlers settings)}

/-! ### What is to hold -/

/-- The error that a stage has at hand. -/
def Stage.carried : Stage → Option RaisedError
  | persistFailure error => some error
  | failRun _ _ error => error
  | _ => none

/-- The errors that a step of a handler deals with: the one at hand, and the one that the step
raises, unless the record of a failure gives it up silently. -/
def Stage.dealsWith (stage : Stage) (answer : Answer) : List RaisedError :=
  stage.carried.toList ++
    match stage, answer with
    | persistFailure _, _ => []
    | _, .error error => [error]
    | _, _ => []

/-- The error may be retried, as the first cause of it says. -/
def RaisedError.retryable (error : RaisedError) : Bool :=
  error.origin.classifyJobError = .retryable

/-- The loop raises the error on as it is, and the job may be retried. -/
def RaisedError.keeps (error : RaisedError) : Bool :=
  error.errorClass.isExecutionFailure && error.errorClass.classifyJobError = .retryable

/-- After a step that deals with an error that may be retried the run still has such an error at
hand, or is about to fail its job as one that is to be retried, or has lost the job. -/
def StaysRetryable (before after : ProcessRun (hintedHandlers settings)) : Prop :=
  (∃ held error, hintedOf after = some held ∧ held.stage.carried = some error ∧
    error.retryable = true) ∨
  (∃ errorCode errorMessage, after.phase = .failing errorCode errorMessage true) ∨
  before.leaseLost = true ∧ ∃ raised, after.phase = .closing raised

/-- What is to hold of every step: an error that may be retried stays one and leaves the status of
its workflow alone, a job that fails with one is tried again unless its attempts are used up, and a
job succeeds only while its workflow has not failed. -/
structure RetriesKept (w : World (hintedHandlers settings))
    (event : WorldEvent (hintedHandlers settings)) (w' : World (hintedHandlers settings)) :
    Prop where
  continues : ∀ id answer run held error row, event = .process id answer →
    w.runs.lookup id = some run → hintedOf run = some held →
    error ∈ held.stage.dealsWith answer → error.retryable = true →
    w.resources.workflows.lookup (workflowId run) = some row →
      ∃ row', w'.resources.workflows.lookup (workflowId run) = some row' ∧
        row'.status = row.status
  stays : ∀ id answer run held error run', event = .process id answer →
    w.runs.lookup id = some run → hintedOf run = some held →
    error ∈ held.stage.dealsWith answer → error.retryable = true → run.interrupted = false →
    w'.runs.lookup id = some run' → StaysRetryable run run'
  requeues : ∀ id answer run errorCode errorMessage job job', event = .process id answer →
    w.runs.lookup id = some run → run.phase = .failing errorCode errorMessage true →
    w.jobs.lookup run.job.jobId = some job → w'.jobs.lookup run.job.jobId = some job' →
      job' = job ∨ job'.status = .pending ∨
        job.maxAttempts ≤ job.attemptCount ∧ job'.status = .deadLetter
  succeeds : ∀ jobId job job' workflowId row, w.jobs.lookup jobId = some job →
    job.status ≠ .succeeded → w'.jobs.lookup jobId = some job' → job'.status = .succeeded →
    job'.payload = .workflowRun workflowId →
    w'.resources.workflows.lookup workflowId = some row → row.status ≠ .failed

/-! ### When it holds -/

/-- Whether a run has found its workflow in a status on which the handler returns. -/
def finishing (run : ProcessRun (hintedHandlers settings)) : Bool :=
  run.phase.succeeding ||
    match hintedOf run with
    | some { stage := .readCampaign workflow, .. } => loopReturns workflow.status
    | _ => false

/-- Whether the handler of a job raises the error on as it is, or another one that may be retried:
inside the loop an error that is not one of the failures of an execution is wrapped. -/
def Stage.keepsRetry (stage : Stage) (error : RaisedError) : Bool :=
  match stage with
  | persistFailure _ => true
  | checkpoint | getWorkflow | other _ => error.errorClass.classifyJobError = .retryable
  | _ => error.keeps

/-- Whether an error that meets the next step is one that may be retried and is wrapped, or takes
the place of one. -/
def wrapsRetry (held : HintedStage) (error : RaisedError) : Bool :=
  error.retryable && !held.stage.keepsRetry error ||
    match held.stage with
    | .failRun _ _ (some recorded) => recorded.retryable
    | _ => false

/-- Whether the next step of a run finds its workflow failed; records a failure although the error
may be retried or another run of the workflow is about to succeed; or cannot record the failure of
an agent whose error may be retried. -/
def losesRetry (w : World (hintedHandlers settings)) (id : RunId)
    (run : ProcessRun (hintedHandlers settings)) (held : HintedStage) : Bool :=
  match held.stage, held.hint with
  | .getWorkflow, _ | .readWorkflow, _ =>
    (w.resources.workflows.lookup (workflowId run)).any fun row => row.status = .failed
  | .persistFailure error, some hint =>
    LockedPair.failable hint.status &&
      (error.retryable ||
        w.runs.entries.any fun entry =>
          entry.1 ≠ id && workflowOf entry.2.job.payload = some (workflowId run) &&
            finishing entry.2)
  | .failRun agentRunId _ (some error), _ =>
    error.retryable &&
      !((w.resources.agentRuns.lookup agentRunId).any fun agentRun => agentRun.active)
  | _, _ => false

/-- Whether a step of a run with the answer loses a retry. -/
def losesRetryOn (w : World (hintedHandlers settings)) (id : RunId)
    (run : ProcessRun (hintedHandlers settings)) (answer : Answer) : Bool :=
  match hintedOf run, answer with
  | none, _ => false
  | some held, .error error => wrapsRetry held error
  | some held, _ => losesRetry w id run held

/-- No event loses a retry. -/
def NoLoss (w : World (hintedHandlers settings)) :
    WorldEvent (hintedHandlers settings) → Prop
  | .process id answer => ∀ run ∈ w.runs.lookup id, losesRetryOn w id run answer = false
  | _ => True

instance decidableNoLoss (w : World (hintedHandlers settings))
    (event : WorldEvent (hintedHandlers settings)) : Decidable (NoLoss w event) :=
  match event with
  | .process id answer =>
    inferInstanceAs (Decidable (∀ run ∈ w.runs.lookup id, losesRetryOn w id run answer = false))
  | .tick _ | .submit .. | .lease .. | .reclaim .. | .interrupt _ | .fault .. | .heartbeat _
  | .heartbeatDies _ | .crash _ | .cancel _ | .retry _ | .call _ | .callDies _ | .request _ =>
    isTrue trivial

/-! ### Workflows that have not failed -/

theorem save_status {pair pair' : LockedPair} {output : AgentOutput}
    (saved : output.save settings pair = .ok pair') : pair'.workflow.status ≠ .failed := by
  cases output with
  | analysis analysis =>
    obtain ⟨-, rfl⟩ := LockedPair.saveAnalysisCheckpoint_ok saved
    simp [LockedPair.setStatus]
  | content content =>
    obtain ⟨-, rfl⟩ := LockedPair.saveContentCheckpoint_ok saved
    simp [LockedPair.setStatus]
  | review review =>
    obtain ⟨-, retries, nextStatus, nextStep, rfl, -, notFailed, -⟩ :=
      LockedPair.saveReviewDecisionCheckpoint_ok saved
    exact notFailed

/-- A locked transaction leaves the status as it was, or sets one that is no failure, unless it
records one. -/
theorem Assigns.status {now : Timestamp} {pair pair' : LockedPair} {stage : Stage}
    (assigns : Assigns settings now pair stage pair') :
    pair'.workflow.status = pair.workflow.status ∨ pair'.workflow.status ≠ .failed ∨
      ∃ error, stage = .persistFailure error ∧
        LockedPair.failable pair.workflow.status = true := by
  cases assigns with
  | transitioned rule expected valid =>
    refine .inr (.inl ?_)
    rename_i expectedStatus nextStatus nextStep
    show nextStatus ≠ _
    cases expectedStatus <;> cases rule <;> decide
  | counted counted =>
    rw [LockedPair.recordLlmCall_ok counted]
    exact .inl rfl
  | saved saved => exact .inr (.inl (save_status saved))
  | failed failed => exact .inr (.inr ⟨_, rfl, (LockedPair.persistFailure_eq.mp failed).1⟩)

/-- A request leaves a workflow that has not failed as one. -/
theorem requested_notFailed {asked : Request} {store : WorkflowStore} {id : WorkflowId}
    {row : WorkflowRunModel} (change : StoreChange (rowsOf w) (.request asked) store)
    (found : w.resources.workflows.lookup id = some row) (status : row.status ≠ .failed) :
    ∃ row', store.workflows.lookup id = some row' ∧ row'.status ≠ .failed := by
  have written : ∀ {id' pair pair'}, (rowsOf w).resources.pair id' = some pair →
      (pair.workflow.status ≠ .failed → pair'.workflow.status ≠ .failed) →
      ∃ row', ((rowsOf w).resources.setPair id' pair').workflows.lookup id = some row' ∧
        row'.status ≠ .failed := by
    intro id' pair pair' held keeps
    by_cases same : id = id'
    · subst same
      obtain ⟨row₁, -⟩ := WorkflowStore.pair_eq_some.mp held
      have row₁ : w.resources.workflows.lookup id = some pair.workflow := row₁
      rw [found] at row₁
      cases row₁
      exact ⟨_, AList.lookup_insert _, keeps status⟩
    · exact ⟨row, (AList.lookup_insert_ne same).trans found, status⟩
  cases change with
  | same | campaignCreated | campaignUpdated => exact ⟨row, found, status⟩
  | paired held change content kept =>
    refine written held fun before => ?_
    rcases kept with same | ⟨-, notFailed⟩
    · rw [same]
      exact before
    · exact notFailed
  | decided held fresh change content completed kept => exact written held fun _ => kept.2
  | workflowCreated created =>
    obtain ⟨fresh, -, campaign, row', -, rfl, -⟩ := createWorkflow_some created
    refine ⟨row, (AList.lookup_insert_ne ?_).trans found, status⟩
    rintro rfl
    have there : id ∈ w.resources.workflows := AList.lookup_isSome.mp (by rw [found]; rfl)
    exact fresh there

/-- A workflow that has not failed fails only by a run that records it, on a hint that admits the
failure. -/
theorem notFailed_step {id : WorkflowId} {row : WorkflowRunModel}
    (found : w.resources.workflows.lookup id = some row) (status : row.status ≠ .failed) :
    (∃ row', (w.step settings event).resources.workflows.lookup id = some row' ∧
      row'.status ≠ .failed) ∨
    ∃ runId answer run error hint, event = .process runId answer ∧
      w.runs.lookup runId = some run ∧
      hintedOf run = some { stage := .persistFailure error, hint := some hint } ∧
      Answer.isError answer = false ∧ workflowId run = id ∧
      LockedPair.failable hint.status = true := by
  have change := @step_hinted settings w event
  generalize (w.step settings event).resources = store at change ⊢
  cases change with
  | quiet => exact .inl ⟨row, found, status⟩
  | requested change => exact .inl (requested_notFailed change found status)
  | accepted accepted =>
    obtain ⟨campaign, -, unused, -, rfl⟩ := acceptCampaign_some accepted
    refine .inl ⟨row, (AList.lookup_insert_ne ?_).trans found, status⟩
    rintro rfl
    exact unused (AList.lookup_isSome.mp (by rw [found]; rfl))
  | written foundRun held goesOn there campaignRow assigns =>
    rename_i runId answer run stage hint committed campaign assigned
    by_cases same : id = workflowId run
    · subst same
      rw [found] at there
      cases there
      -- a column that the transaction has not changed keeps its committed value
      have flushed : (hint.flush assigned.workflow row).status =
        flush hint.status assigned.workflow.status row.status := rfl
      rcases assigns.status with unchanged | notFailed | ⟨error, rfl, admitted⟩
      · have kept : assigned.workflow.status = hint.status := unchanged
        rw [kept, flush_same] at flushed
        exact .inl ⟨_, AList.lookup_insert _, by rw [flushed]; exact status⟩
      · refine .inl ⟨_, AList.lookup_insert _, ?_⟩
        rw [flushed]
        rcases flush_cases hint.status assigned.workflow.status row.status with ⟨same, -⟩ | same
        · rw [same]
          exact status
        · rw [same]
          exact notFailed
      · exact .inr ⟨runId, answer, run, error, hint, rfl, foundRun, held, goesOn, rfl, admitted⟩
    · exact .inl ⟨row, (AList.lookup_insert_ne same).trans found, status⟩

/-! ### Runs that are about to succeed -/

/-- Whether an outcome ends the handler, or is about to, with a success. -/
def ends : Outcome Stage → Bool
  | .returns => true
  | .continues (.readCampaign workflow) => loopReturns workflow.status
  | _ => false

theorem handleError_ends (error : RaisedError) : ends (handleError error) = false := by
  cases result : handleError error with
  | continues stage =>
    obtain ⟨raised, rfl⟩ := handleError_continues result
    rfl
  | returns =>
    unfold handleError at result
    split at result
    · cases result
    · split at result <;> cases result
  | raises => rfl

theorem fails_ends (stage : Stage) (error : RaisedError) : ends (stage.fails error) = false := by
  cases stage with
  | checkpoint | getWorkflow | other | agentLoop | agentTurn | completeRun | persistFailure => rfl
  | _ => exact handleError_ends error

theorem nextStage_ends {status : CampaignStatus} {campaign : CampaignModel}
    (h : ends (nextStage status campaign) = true) : loopReturns status = true := by
  by_contra goesOn
  cases result : nextStage status campaign with
  | continues stage =>
    rw [result] at h
    obtain ⟨expectedStatus, rfl⟩ | ⟨agentName, rfl⟩ := nextStage_continues result
    · cases h
    · cases h
  | returns =>
    unfold nextStage at result
    rw [if_neg goesOn] at result
    split at result <;> cases result
  | raises error =>
    rw [result] at h
    cases h

/-- What ends a handler with a success: it finds the workflow in a status on which it returns. -/
theorem ends_step {now : Timestamp} {workerId : String} {job : LeasedJob} {jobs : JobStore}
    {workflowId : WorkflowId} {answer : Answer} {store store' : WorkflowStore} {stage : Stage}
    {outcome : Outcome Stage}
    (step : StageStep settings now workerId job jobs workflowId answer store stage store' outcome)
    (h : ends outcome = true) :
    ((stage = .getWorkflow ∨ stage = .readWorkflow) ∧
      ∃ row, store.workflows.lookup workflowId = some row ∧ loopReturns row.status = true) ∨
    (∃ workflow, stage = .readCampaign workflow ∧ loopReturns workflow.status = true) ∨
    ∃ checked, stage = .other checked := by
  cases step with
  | failed stage error =>
    rw [fails_ends] at h
    cases h
  | got row =>
    refine .inl ⟨.inl rfl, _, row, ?_⟩
    split at h
    · rename_i returns
      exact decide_eq_true (.inl returns)
    · cases h
  | read row => exact .inl ⟨.inr rfl, _, row, h⟩
  | snapshot => exact .inr (.inl ⟨_, rfl, nextStage_ends h⟩)
  | checked =>
    unfold jobCheckpoint at h
    split at h <;> cases h
  | recorded =>
    rename_i error _ _ _
    cases error with
    | none => cases h
    | some error =>
      rw [handleError_ends] at h
      cases h
  | saved =>
    split at h <;> cases h
  | other => exact .inr (.inr ⟨_, rfl⟩)
  | transitioned | built | created | started | answered | continued | turned | completed
  | remembered | persisted => cases h

/-- The stage that an outcome leads to. -/
def stageOutcome : Outcome HintedStage → Outcome Stage
  | .continues held => .continues held.stage
  | .returns => .returns
  | .raises error => .raises error

@[simp] theorem stageOutcome_unhinted (outcome : Outcome Stage) :
    stageOutcome (unhinted outcome) = outcome := by
  cases outcome <;> rfl

/-- Only the checkpoint of another stage follows a stage that locks rows. -/
theorem afterLocked_ends (stage : Stage) : ends stage.afterLocked = false := by
  cases stage with
  | save context output =>
    show ends (.continues (if output.author = .contentReviewer then _ else _)) = false
    split <;> rfl
  | _ => rfl

theorem hinted_ends {now : Timestamp} {workerId : String} {job : LeasedJob} {jobs : JobStore}
    {workflowId : WorkflowId} {answer : Answer} {store store' : WorkflowStore} {held : HintedStage}
    {outcome : Outcome HintedStage}
    (step : HintedStep settings now workerId job jobs workflowId answer store held store' outcome)
    (h : ends (stageOutcome outcome) = true) :
    answer.isError = false ∧
    (((held.stage = .getWorkflow ∨ held.stage = .readWorkflow) ∧
      ∃ row, store.workflows.lookup workflowId = some row ∧ loopReturns row.status = true) ∨
    (∃ workflow, held.stage = .readCampaign workflow ∧ loopReturns workflow.status = true) ∨
    ∃ checked, held.stage = .other checked) := by
  cases step with
  | failed met =>
    rw [stageOutcome_unhinted, fails_ends] at h
    cases h
  | plain goesOn free performed step =>
    rw [stageOutcome_unhinted] at h
    exact ⟨goesOn, ends_step step h⟩
  | hinted goesOn locks there =>
    rename_i stage
    cases stage <;> first | cases h | cases locks
  | written goesOn row campaignRow assigns =>
    rw [stageOutcome_unhinted, afterLocked_ends] at h
    cases h
  | refused => cases h

theorem finishing_iff {run : ProcessRun (hintedHandlers settings)} :
    finishing run = true ↔ run.phase.succeeding = true ∨
      ∃ held workflow, hintedOf run = some held ∧ held.stage = .readCampaign workflow ∧
        loopReturns workflow.status = true := by
  unfold finishing
  cases stands : hintedOf run with
  | none => simp
  | some held =>
    obtain ⟨stage, hint⟩ := held
    cases stage <;> simp

/-- A run that stands at another stage is not about to succeed. -/
theorem finishing_of_stage {run : ProcessRun (hintedHandlers settings)} {held : HintedStage}
    (stands : hintedOf run = some held) (other : ∀ workflow, held.stage ≠ .readCampaign workflow) :
    finishing run = false := by
  by_contra h
  rcases finishing_iff.mp (by simpa using h) with succeeding | ⟨held', workflow, stands', reads, -⟩
  · rw [hintedOf_eq.mp stands] at succeeding
    cases succeeding
  · obtain rfl := Option.some.inj (stands.symm.trans stands')
    exact other workflow reads

/-- A run comes to be about to succeed by a step that finds its workflow in a status on which the
handler returns. -/
theorem finishing_step {id : RunId} {run' : ProcessRun (hintedHandlers settings)}
    (found' : (w.step settings event).runs.lookup id = some run') (h : finishing run' = true) :
    ∃ run, w.runs.lookup id = some run ∧ run'.job = run.job ∧
      (finishing run = true ∨
        (∃ held checked, hintedOf run = some held ∧ held.stage = .other checked) ∨
        ∃ answer held row, event = .process id answer ∧ Answer.isError answer = false ∧
          hintedOf run = some held ∧ (held.stage = .getWorkflow ∨ held.stage = .readWorkflow) ∧
          w.resources.workflows.lookup (workflowId run) = some row ∧
          loopReturns row.status = true) := by
  -- a step of the handler that leads to a success
  have stepped : ∀ {run held answer}, w.runs.lookup id = some run →
      run.phase = .handling held → event = .process id answer →
      ends (stageOutcome ((hintedHandlers settings).handle w.now run.workerId run.job answer w.jobs
        w.resources held).2) = true →
      finishing run = true ∨
        (∃ held checked, hintedOf run = some held ∧ held.stage = .other checked) ∨
        ∃ answer held row, event = .process id answer ∧ Answer.isError answer = false ∧
          hintedOf run = some held ∧ (held.stage = .getWorkflow ∨ held.stage = .readWorkflow) ∧
          w.resources.workflows.lookup (workflowId run) = some row ∧
          loopReturns row.status = true := by
    intro run held answer found phase isStep leads
    have stands := hintedOf_eq.mpr phase
    have step := @hinted_step settings w.now run.workerId run.job w.jobs (workflowId run) answer
      w.resources held
    rcases hinted_ends step leads with ⟨calm, ⟨checks, row, there⟩ | ⟨workflow, reads, returns⟩ |
      ⟨checked, other⟩⟩
    · exact .inr (.inr ⟨answer, held, row, isStep, calm, stands, checks, there⟩)
    · exact .inl (finishing_iff.mpr (.inr ⟨held, workflow, stands, reads, returns⟩))
    · exact .inr (.inl ⟨held, checked, stands, other⟩)
  rcases finishing_iff.mp h with succeeding | ⟨held', workflow, stands', reads, returns⟩
  · obtain ⟨run, found, same, -, before | ⟨answer, held, isStep, phase, -, outcome⟩⟩ :=
      step_succeeding found' succeeding
    · exact ⟨run, found, same, .inl (finishing_iff.mpr (.inl before))⟩
    · exact ⟨run, found, same, stepped found phase isStep (by rw [outcome]; rfl)⟩
  · obtain ⟨run, found, same, -, move⟩ := step_handler found' (hintedOf_eq.mp stands')
    refine ⟨run, found, same, ?_⟩
    cases move with
    | kept phase =>
      exact .inl (finishing_iff.mpr (.inr ⟨held', workflow, hintedOf_eq.mpr phase, reads, returns⟩))
    | began phase =>
      have start : (if (workflowOf run.job.payload).isSome then Stage.checkpoint
        else .other false) = .readCampaign workflow := reads
      split at start <;> cases start
    | stepped phase calm outcome =>
      refine stepped found phase rfl ?_
      rw [outcome]
      show ends (.continues held'.stage) = true
      rw [reads]
      exact returns
    | interrupted phase raised next hit =>
      rename_i held
      obtain ⟨stage, goesOn, rfl⟩ := Option.map_eq_some_iff.mp next
      have reads : stage = .readCampaign workflow := reads
      subst reads
      generalize held.stage = before at goesOn
      cases before <;> cases goesOn

/-! ### Errors -/

section

variable {error : RaisedError}

/-- The error as the worker sees it: its job is to be retried as the class of the error says. -/
theorem toHandlerError_retryable (retryable : error.errorClass.classifyJobError = .retryable) :
    ∃ errorCode errorMessage, error.toHandlerError = .failure errorCode errorMessage true := by
  unfold RaisedError.toHandlerError
  rw [retryable]
  cases error.errorClass.errorCode with
  | none => exact ⟨_, _, rfl⟩
  | some errorCode => exact ⟨_, _, rfl⟩

theorem keeps_iff : error.keeps = true ↔
    error.errorClass.isExecutionFailure = true ∧
      error.errorClass.classifyJobError = .retryable := by
  simp [RaisedError.keeps]

/-- The loop records the failure that the error is, and raises the error itself. -/
theorem handleError_keeps (keeps : error.keeps = true) :
    handleError error = .continues (.persistFailure error) := by
  obtain ⟨failure, -⟩ := keeps_iff.mp keeps
  have other : error.errorClass.isConflict = false := by
    revert failure
    cases error.errorClass <;> simp [ErrorClass.isExecutionFailure, ErrorClass.isConflict]
  unfold handleError
  rw [other, failure]
  rfl

theorem wrapAgent_keeps (keeps : error.keeps = true) : error.wrapAgent = error := by
  obtain ⟨failure, -⟩ := keeps_iff.mp keeps
  have coded : error.errorClass.errorCode.isSome = true := by
    revert failure
    cases error.errorClass <;> simp [ErrorClass.isExecutionFailure, ErrorClass.errorCode]
  unfold RaisedError.wrapAgent
  rw [if_pos coded]

theorem ofWorkflowError_final (error : WorkflowError) :
    (RaisedError.ofWorkflowError error).retryable = false := by
  cases error <;> rfl

end

/-! ### The errors of the handler itself -/

section

variable {now : Timestamp} {workerId : String} {job : LeasedJob} {jobs : JobStore}
  {workflowId : WorkflowId} {answer : Answer} {store store' : WorkflowStore}

theorem loadPair_final {error : RaisedError} (refused : store.loadPair workflowId = .error error) :
    error.retryable = false := by
  unfold WorkflowStore.loadPair at refused
  split at refused
  · cases refused
    rfl
  · split at refused
    · cases refused
      rfl
    · cases refused

theorem update_final {assign : LockedPair → Except WorkflowError LockedPair} {error : RaisedError}
    (refused : store.update workflowId assign = .error error) : error.retryable = false := by
  unfold WorkflowStore.update at refused
  split at refused
  · cases refused
    exact loadPair_final ‹_›
  · split at refused
    · cases refused
      exact ofWorkflowError_final _
    · cases refused

/-- No error of the handler itself may be retried. -/
theorem perform_final {stage : Stage} {error : RaisedError}
    (refused : stage.perform settings now workerId job jobs workflowId answer store =
      .error error) : error.retryable = false := by
  cases stage with
  | checkpoint | recordMemory | persistFailure | other => cases refused
  | getWorkflow | readWorkflow | readCampaign | createRun | startRun | completeRun | failRun =>
    simp only [Stage.perform] at refused
    split at refused
    · cases refused
      rfl
    · cases refused
  | transition expectedStatus =>
    simp only [Stage.perform] at refused
    split at refused
    · cases refused
      rfl
    · obtain refused | ⟨_, -, goesOn⟩ := bind_eq_error.mp refused
      · exact update_final refused
      · cases goesOn
  | buildContext agentName =>
    obtain refused | ⟨pair, -, built⟩ := bind_eq_error.mp refused
    · exact loadPair_final refused
    · obtain refused | ⟨_, -, goesOn⟩ := bind_eq_error.mp built
      · obtain ⟨message, rfl⟩ := buildContext_error refused
        rfl
      · cases goesOn
  | agentTurn agentRunId context =>
    simp only [Stage.perform] at refused
    split at refused
    · split at refused
      · cases refused
      · cases refused
        rfl
    · cases refused
  | agentLoop | save =>
    obtain refused | ⟨_, -, goesOn⟩ := bind_eq_error.mp refused
    · exact update_final refused
    · cases goesOn

theorem performHinted_final {held : HintedStage} {error : RaisedError}
    (refused : held.perform settings now workerId job jobs workflowId answer store =
      .error error) : error.retryable = false := by
  unfold HintedStage.perform at refused
  split at refused
  · exact perform_final (map_eq_error.mp refused)
  · split at refused
    · cases refused
      rfl
    · cases refused
  · rename_i assign hint locks read
    obtain refused | ⟨pair, -, refused⟩ := bind_eq_error.mp refused
    · unfold WorkflowStore.lockHinted at refused
      split at refused
      · cases refused
        rfl
      · split at refused
        · cases refused
        · cases refused
          rfl
    · obtain refused | ⟨_, -, goesOn⟩ := bind_eq_error.mp refused
      · cases assigned : assign pair with
        | error error' =>
          rw [assigned] at refused
          cases refused
          exact ofWorkflowError_final error'
        | ok result =>
          rw [assigned] at refused
          cases refused
      · cases goesOn

/-- Only the record of a failed agent goes on with an error at hand. -/
theorem perform_carried {stage stage' : Stage} {error : RaisedError}
    (done : stage.perform settings now workerId job jobs workflowId answer store =
      .ok (store', .continues stage')) (carried : stage'.carried = some error) :
    ∃ agentRunId limit recorded, stage = .failRun agentRunId limit (some recorded) ∧
      handleError recorded = .continues stage' := by
  have plain : stage'.carried = none → False := by
    intro none_
    rw [none_] at carried
    cases carried
  cases stage with
  | checkpoint =>
    simp only [Stage.perform, jobCheckpoint] at done
    split at done
    · cases done
    · cases done
      exact (plain rfl).elim
  | getWorkflow =>
    simp only [Stage.perform] at done
    split at done
    · cases done
    · split at done
      · cases done
      · cases done
        exact (plain rfl).elim
  | readWorkflow | createRun | startRun | completeRun =>
    simp only [Stage.perform] at done
    split at done
    · cases done
    · cases done
      exact (plain rfl).elim
  | readCampaign workflow =>
    simp only [Stage.perform] at done
    split at done
    · cases done
    · obtain ⟨expectedStatus, rfl⟩ | ⟨agentName, rfl⟩ :=
        nextStage_continues (Prod.mk.inj (Except.ok.inj done)).2
      · exact (plain rfl).elim
      · exact (plain rfl).elim
  | transition expectedStatus =>
    simp only [Stage.perform] at done
    split at done
    · cases done
    · obtain ⟨_, -, goesOn⟩ := bind_eq_ok.mp done
      cases goesOn
      exact (plain rfl).elim
  | buildContext agentName =>
    obtain ⟨_, -, built⟩ := bind_eq_ok.mp done
    obtain ⟨_, -, goesOn⟩ := bind_eq_ok.mp built
    cases goesOn
    exact (plain rfl).elim
  | agentLoop =>
    obtain ⟨_, -, goesOn⟩ := bind_eq_ok.mp done
    cases goesOn
    exact (plain rfl).elim
  | save =>
    obtain ⟨_, -, goesOn⟩ := bind_eq_ok.mp done
    cases goesOn
    split at plain <;> exact (plain rfl).elim
  | agentTurn =>
    simp only [Stage.perform] at done
    split at done
    · split at done
      · cases done
        exact (plain rfl).elim
      · cases done
    · cases done
      exact (plain rfl).elim
  | recordMemory =>
    cases done
    exact (plain rfl).elim
  | failRun agentRunId limit recorded =>
    simp only [Stage.perform] at done
    split at done
    · cases done
    · have leads := (Prod.mk.inj (Except.ok.inj done)).2
      cases recorded with
      | none => cases leads
      | some recorded => exact ⟨agentRunId, limit, recorded, rfl, leads⟩
  | persistFailure => cases done
  | other checked =>
    simp only [Stage.perform, jobCheckpoint] at done
    split at done
    · cases done
    · split at done
      · cases done
      · cases done
        exact (plain rfl).elim

end

/-! ### The invariant -/

/-- A run about to succeed has a workflow that has not failed, and an error at hand that may be
retried is one that the loop raises on as it is. -/
structure Retriable (w : World (hintedHandlers settings)) : Prop where
  named : Named w
  other : ∀ id run held checked, w.runs.lookup id = some run → hintedOf run = some held →
    held.stage = .other checked → workflowOf run.job.payload = none
  finishing : ∀ id run, w.runs.lookup id = some run → finishing run = true →
    (workflowOf run.job.payload).isSome →
      ∃ row, w.resources.workflows.lookup (workflowId run) = some row ∧ row.status ≠ .failed
  carried : ∀ id run held error, w.runs.lookup id = some run → hintedOf run = some held →
    held.stage.carried = some error → error.retryable = true → error.keeps = true

theorem retriable_init (store : WorkflowStore) : @Retriable settings { resources := store } where
  named := @named_init (hintedHandlers settings) store
  other := by intro id run held checked found; cases found
  finishing := by intro id run found; cases found
  carried := by intro id run held error found; cases found

/-- Where a handler that goes on comes from: a step of the stage without a lock, the reading of a hint
or a locked transaction. -/
theorem hinted_continues {now : Timestamp} {workerId : String} {job : LeasedJob} {jobs : JobStore}
    {workflowId : WorkflowId} {answer : Answer} {store store' : WorkflowStore}
    {held held' : HintedStage}
    (step : HintedStep settings now workerId job jobs workflowId answer store held store'
      (.continues held')) :
    (StageStep settings now workerId job jobs workflowId answer store held.stage store'
      (.continues held'.stage) ∧
      ((∃ error, held.stage.fails error = .continues held'.stage ∧
        (answer = .error error ∨ error.retryable = false)) ∨
      answer.isError = false ∧
        held.stage.perform settings now workerId job jobs workflowId answer store =
          .ok (store', .continues held'.stage))) ∨
    (held.stage.locked settings now).isSome ∧
      (held'.stage = held.stage ∨ held.stage.afterLocked = .continues held'.stage) := by
  generalize result : Outcome.continues held' = outcome at step
  cases step with
  | failed met =>
    rename_i error
    have leads := unhinted_continues result.symm
    refine .inl ⟨?_, .inl ⟨error, leads, ?_⟩⟩
    · rw [← leads]
      exact .failed held.stage error
    · rcases met with same | ⟨-, refused⟩
      · exact .inl same
      · exact .inr (performHinted_final refused)
  | plain goesOn free performed step =>
    rw [unhinted_continues result.symm] at performed step
    exact .inl ⟨step, .inr ⟨goesOn, performed⟩⟩
  | hinted goesOn locks there =>
    cases result
    exact .inr ⟨locks, .inl rfl⟩
  | written goesOn row campaignRow assigns =>
    exact .inr ⟨assigns.locks, .inr (unhinted_continues result.symm)⟩
  | refused => cases result

/-- The handler of a job of another kind stays with that kind. -/
theorem other_from {now : Timestamp} {workerId : String} {job : LeasedJob} {jobs : JobStore}
    {workflowId : WorkflowId} {answer : Answer} {store store' : WorkflowStore} {stage : Stage}
    {checked : Bool}
    (step : StageStep settings now workerId job jobs workflowId answer store stage store'
      (.continues (.other checked))) : ∃ before, stage = .other before := by
  generalize result : Outcome.continues (Stage.other checked) = outcome at step
  have handled : ∀ error, handleError error ≠ .continues (.other checked) := by
    intro error h
    obtain ⟨raised, other⟩ := handleError_continues h
    cases other
  cases step with
  | failed stage error =>
    cases stage with
    | checkpoint | getWorkflow | other | persistFailure => cases result
    | agentLoop | agentTurn | completeRun => cases result
    | _ => exact absurd result.symm (handled error)
  | checked =>
    unfold jobCheckpoint at result
    split at result <;> cases result
  | got => split at result <;> cases result
  | snapshot =>
    obtain ⟨expectedStatus, other⟩ | ⟨agentName, other⟩ := nextStage_continues result.symm
    · cases other
    · cases other
  | saved =>
    obtain other := Outcome.continues.inj result
    split at other <;> cases other
  | recorded =>
    rename_i error _ _ _
    cases error with
    | none => cases result
    | some error => exact absurd result.symm (handled error)
  | other => exact ⟨_, rfl⟩
  | read | transitioned | built | created | started | answered | continued | turned | completed
  | remembered | persisted => cases result

theorem other_step {id : RunId} {run' : ProcessRun (hintedHandlers settings)}
    {held' : HintedStage} {checked : Bool}
    (other : ∀ id run held checked, w.runs.lookup id = some run → hintedOf run = some held →
      held.stage = .other checked → workflowOf run.job.payload = none)
    (found' : (w.step settings event).runs.lookup id = some run')
    (stands' : hintedOf run' = some held') (stage' : held'.stage = .other checked) :
    workflowOf run'.job.payload = none := by
  obtain ⟨run, found, same, -, move⟩ := step_handler found' (hintedOf_eq.mp stands')
  rw [same]
  cases move with
  | kept phase => exact other id run held' checked found (hintedOf_eq.mpr phase) stage'
  | began phase =>
    have start : (if (workflowOf run.job.payload).isSome then Stage.checkpoint
      else .other false) = .other checked := stage'
    split at start
    · cases start
    · rename_i absent
      simpa using absent
  | stepped phase calm outcome =>
    rename_i answer held
    have step := hinted_stepped outcome
    have stands := hintedOf_eq.mpr phase
    rcases hinted_continues step with ⟨step, -⟩ | ⟨-, same | after⟩
    · rw [stage'] at step
      obtain ⟨before, same⟩ := other_from step
      exact other id run held before found stands same
    · rw [stage'] at same
      exact other id run held checked found stands same.symm
    · rw [stage'] at after
      generalize held.stage = stage at after
      cases stage with
      | save context output =>
        have after := Outcome.continues.inj after
        split at after <;> cases after
      | _ => cases after
  | interrupted phase raised next hit =>
    rename_i held
    obtain ⟨stage, goesOn, rfl⟩ := Option.map_eq_some_iff.mp next
    have stage' : stage = .other checked := stage'
    subst stage'
    generalize held.stage = before at goesOn
    cases before <;> cases goesOn

/-! ### The error at hand -/

/-- The error at hand after `handleError` goes back to the same cause, and is the one that was raised
if the loop raises that on as it is. -/
theorem handleError_carried {error carried : RaisedError} {stage : Stage}
    (leads : handleError error = .continues stage) (hand : stage.carried = some carried) :
    carried.retryable = error.retryable ∧ (error.keeps = true → carried = error) := by
  constructor
  · unfold handleError at leads
    split at leads
    · cases leads
    · split at leads
      · cases leads
        cases hand
        rfl
      · cases leads
        cases hand
        rfl
  · intro keeps
    rw [handleError_keeps keeps] at leads
    cases leads
    cases hand
    rfl

theorem wrapAgent_retryable (error : RaisedError) : error.wrapAgent.retryable = error.retryable := by
  unfold RaisedError.wrapAgent
  split <;> rfl

/-- The error at hand after a step that fails goes back to the cause of the error that it met. -/
theorem fails_carried {stage stage' : Stage} {error carried : RaisedError}
    (leads : stage.fails error = .continues stage') (hand : stage'.carried = some carried) :
    carried.retryable = error.retryable ∧
      (error.retryable = true → stage.keepsRetry error = true → carried.keeps = true) := by
  cases stage with
  | checkpoint | getWorkflow | other | persistFailure => cases leads
  | agentLoop | agentTurn | completeRun =>
    cases leads
    cases hand
    refine ⟨wrapAgent_retryable error, fun _ keeps => ?_⟩
    have keeps : error.keeps = true := keeps
    rw [wrapAgent_keeps keeps]
    exact keeps
  | _ =>
    obtain ⟨same, kept⟩ := handleError_carried leads hand
    refine ⟨same, fun _ keeps => ?_⟩
    have keeps : error.keeps = true := keeps
    rw [kept keeps]
    exact keeps

theorem afterLocked_carried {stage stage' : Stage} (leads : stage.afterLocked = .continues stage') :
    stage'.carried = none := by
  cases stage with
  | save context output =>
    have leads := Outcome.continues.inj leads
    rw [← leads]
    split <;> rfl
  | persistFailure => cases leads
  | _ =>
    cases leads
    rfl

/-- What `NoLoss` asks of a step of a handler. -/
theorem NoLoss.spares {id : RunId} {answer : Answer} {run : ProcessRun (hintedHandlers settings)}
    {held : HintedStage} (ok : NoLoss w (.process id answer)) (found : w.runs.lookup id = some run)
    (stands : hintedOf run = some held) :
    (∀ error, answer = .error error → wrapsRetry held error = false) ∧
      (answer.isError = false → losesRetry w id run held = false) := by
  have spared : losesRetryOn w id run answer = false := ok run found
  unfold losesRetryOn at spared
  rw [stands] at spared
  cases answer with
  | error error =>
    constructor
    · rintro other ⟨⟩
      exact spared
    · intro calm
      cases calm
  | proceed | final =>
    constructor
    · rintro other ⟨⟩
    · intro _
      exact spared

theorem carried_step (retriable : Retriable w) (ok : NoLoss w event) {id : RunId}
    {run' : ProcessRun (hintedHandlers settings)} {held' : HintedStage} {error : RaisedError}
    (found' : (w.step settings event).runs.lookup id = some run')
    (stands' : hintedOf run' = some held') (hand : held'.stage.carried = some error)
    (retryable : error.retryable = true) : error.keeps = true := by
  obtain ⟨run, found, same, -, move⟩ := step_handler found' (hintedOf_eq.mp stands')
  cases move with
  | kept phase =>
    exact retriable.carried id run held' error found (hintedOf_eq.mpr phase) hand retryable
  | began phase =>
    have start : (if (workflowOf run.job.payload).isSome then Stage.checkpoint
      else .other false).carried = some error := hand
    split at start <;> cases start
  | stepped phase calm outcome =>
    rename_i answer held
    have stands := hintedOf_eq.mpr phase
    obtain ⟨spared, -⟩ := ok.spares found stands
    have step := hinted_stepped outcome
    rcases hinted_continues step with ⟨-, ⟨raised, fails, met⟩ | ⟨-, performed⟩⟩ | ⟨-, same | after⟩
    · obtain ⟨cause, kept⟩ := fails_carried fails hand
      have mayRetry : raised.retryable = true := cause.symm.trans retryable
      rcases met with rfl | final
      · have spared := spared raised rfl
        unfold wrapsRetry at spared
        rw [mayRetry] at spared
        simp only [Bool.true_and, Bool.or_eq_false_iff, Bool.not_eq_false'] at spared
        exact kept mayRetry spared.1
      · rw [final] at mayRetry
        cases mayRetry
    · obtain ⟨agentRunId, limit, recorded, failing, leads⟩ := perform_carried performed hand
      obtain ⟨cause, kept⟩ := handleError_carried leads hand
      have keeps := retriable.carried id run held recorded found stands (by rw [failing]; rfl)
        (cause.symm.trans retryable)
      rw [kept keeps]
      exact keeps
    · rw [same] at hand
      exact retriable.carried id run held error found stands hand retryable
    · rw [afterLocked_carried after] at hand
      cases hand
  | interrupted phase raised next hit =>
    rename_i held
    obtain ⟨stage, goesOn, rfl⟩ := Option.map_eq_some_iff.mp next
    have hand : stage.carried = some error := hand
    generalize held.stage = before at goesOn
    cases before <;> cases goesOn <;> cases hand

/-! ### Runs that are about to succeed keep their workflow -/

/-- An event that loses no retry leaves the workflow of a run about to succeed as one that has not
failed. -/
theorem finishing_kept (retriable : Retriable w) (ok : NoLoss w event) {id : RunId}
    {run : ProcessRun (hintedHandlers settings)} (found : w.runs.lookup id = some run)
    (payload : (workflowOf run.job.payload).isSome) (finishes : finishing run = true) :
    ∃ row', (w.step settings event).resources.workflows.lookup (workflowId run) = some row' ∧
      row'.status ≠ .failed := by
  obtain ⟨row, there, status⟩ := retriable.finishing id run found finishes payload
  obtain kept | ⟨failing, answer, failed, error, hint, rfl, found', stands, goesOn, same, admitted⟩ :=
    @notFailed_step settings w event _ _ there status
  · exact kept
  · have other : id ≠ failing := by
      rintro rfl
      rw [found] at found'
      cases found'
      rw [finishing_of_stage stands (by simp)] at finishes
      cases finishes
    have spared := (ok.spares found' stands).2 goesOn
    obtain ⟨named, payload⟩ := Option.isSome_iff_exists.mp payload
    have about : workflowOf run.job.payload = some (workflowId run) := by
      rw [payload]
      unfold workflowId
      rw [payload]
      rfl
    have loses : losesRetry w failing failed { stage := .persistFailure error, hint := some hint } =
        true := by
      simp only [losesRetry, same, admitted, Bool.true_and, Bool.or_eq_true]
      refine .inr (List.any_eq_true.mpr ⟨⟨id, run⟩, AList.mem_lookup_iff.mp found, ?_⟩)
      simp only [finishes, Bool.and_true, Bool.and_eq_true, decide_eq_true_eq]
      exact ⟨other, about⟩
    rw [loses] at spared
    cases spared

theorem retriable_step (retriable : Retriable w) (ok : NoLoss w event) :
    Retriable (w.step settings event) where
  named := named_step retriable.named
  other := by
    intro id run' held' checked found' stands' stage'
    exact other_step retriable.other found' stands' stage'
  carried := by
    intro id run' held' error found' stands' hand retryable
    exact carried_step retriable ok found' stands' hand retryable
  finishing := by
    intro id run' found' finishes' payload'
    obtain ⟨run, found, same, before | ⟨held, checked, stands, other⟩ |
      ⟨answer, held, row, rfl, goesOn, stands, stage, there, -⟩⟩ := finishing_step found' finishes'
    · rw [same] at payload'
      have about : workflowId run' = workflowId run := by
        unfold workflowId
        rw [same]
      rw [about]
      exact finishing_kept retriable ok found payload' before
    · rw [same, retriable.other id run held checked found stands other] at payload'
      cases payload'
    · have about : workflowId run' = workflowId run := by
        unfold workflowId
        rw [same]
      rw [about]
      have spared := (ok.spares found stands).2 goesOn
      have status : row.status ≠ .failed := by
        unfold losesRetry at spared
        rcases stage with stage | stage
        · rw [stage, there] at spared
          simpa using spared
        · rw [stage, there] at spared
          simpa using spared
      obtain kept | ⟨failing, answer', failed, error, hint, isStep, found₂, stands₂, -⟩ :=
        @notFailed_step settings w (.process id answer) _ _ there status
      · exact kept
      · cases isStep
        rw [found] at found₂
        cases found₂
        obtain rfl := Option.some.inj (stands.symm.trans stands₂)
        rcases stage with stage | stage <;> cases stage

/-! ### Steps -/

/-- The error that a step deals with is at hand, or meets the step. -/
theorem mem_dealsWith {stage : Stage} {answer : Answer} {error : RaisedError} :
    error ∈ stage.dealsWith answer ↔
      stage.carried = some error ∨ answer = .error error ∧ ∀ recorded, stage ≠ .persistFailure recorded := by
  unfold Stage.dealsWith
  rw [List.mem_append, Option.mem_toList]
  cases stage <;> cases answer <;> simp [eq_comm]

/-- A step that deals with an error that may be retried leaves the workflows as they are. -/
theorem raised_workflows (ok : NoLoss w event) {id : RunId} {answer : Answer}
    {run : ProcessRun (hintedHandlers settings)} {held : HintedStage} {error : RaisedError}
    (isStep : event = .process id answer) (found : w.runs.lookup id = some run)
    (stands : hintedOf run = some held) (deals : error ∈ held.stage.dealsWith answer)
    (retryable : error.retryable = true) :
    (w.step settings event).resources.workflows = w.resources.workflows := by
  subst isStep
  have phase := hintedOf_eq.mp stands
  have after := @process_handling _ settings _ _ _ _ found phase answer
  have step := @hinted_step settings w.now run.workerId run.job w.jobs (workflowId run) answer
    w.resources held
  have handled : (hintedHandlers settings).handle w.now run.workerId run.job answer w.jobs
      w.resources held = held.handle settings w.now run.workerId run.job w.jobs (workflowId run)
        answer w.resources := rfl
  rw [after, handled]
  generalize held.handle settings w.now run.workerId run.job w.jobs (workflowId run) answer
    w.resources = result at step
  obtain ⟨store, outcome⟩ := result
  cases step with
  | failed | hinted | refused => rfl
  | plain _ free _ step =>
    rw [plain_store free step]
  | written goesOn row campaignRow assigns =>
    rename_i stage hint committed campaign assigned
    have hand : stage.carried = some error := by
      rcases mem_dealsWith.mp deals with hand | ⟨rfl, -⟩
      · exact hand
      · cases goesOn
    cases assigns with
    | transitioned | counted | saved => cases hand
    | failed failed =>
      cases hand
      have spared := (ok.spares found stands).2 goesOn
      simp only [losesRetry, retryable, Bool.true_or, Bool.and_true] at spared
      rw [(LockedPair.persistFailure_eq.mp failed).1] at spared
      cases spared

/-- A run that raises an error with a class that is to be retried is about to fail its job so, unless
it has lost the job. -/
theorem raises_stays {run run' : ProcessRun (hintedHandlers settings)} {error : RaisedError}
    (retryable : error.errorClass.classifyJobError = .retryable)
    (phase' : run'.phase = run.afterHandler (.raises error.toHandlerError)) :
    StaysRetryable run run' := by
  obtain ⟨errorCode, errorMessage, same⟩ := toHandlerError_retryable retryable
  rw [same] at phase'
  have phase' : run'.phase = if run.leaseLost then .closing false
    else .failing errorCode errorMessage true := phase'
  cases lost : run.leaseLost with
  | true =>
    rw [lost, if_pos rfl] at phase'
    exact .inr (.inr ⟨lost, false, phase'⟩)
  | false =>
    rw [lost, if_neg Bool.false_ne_true] at phase'
    exact .inr (.inl ⟨errorCode, errorMessage, phase'⟩)

/-- An error that the handler does not wrap is at hand next, or is raised as it is. -/
theorem fails_stays {run run' : ProcessRun (hintedHandlers settings)} {stage : Stage}
    {error : RaisedError} (other : ∀ recorded, stage ≠ .persistFailure recorded)
    (retryable : error.retryable = true) (keeps : stage.keepsRetry error = true)
    (phase' : run'.phase = run.afterHandler (unhinted (stage.fails error))) :
    StaysRetryable run run' := by
  have loops : ∀ stage', stage.fails error = .continues stage' → stage'.carried = some error →
      StaysRetryable run run' := by
    intro stage' leads hand
    rw [leads] at phase'
    exact .inl ⟨{ stage := stage' }, error, hintedOf_eq.mpr phase', hand, retryable⟩
  cases stage with
  | checkpoint | getWorkflow | other =>
    exact raises_stays (of_decide_eq_true keeps) phase'
  | persistFailure recorded => exact absurd rfl (other recorded)
  | agentLoop agentRunId | agentTurn agentRunId | completeRun agentRunId =>
    exact loops _ rfl (congrArg some (wrapAgent_keeps keeps))
  | _ => exact loops _ (handleError_keeps keeps) rfl

theorem stays_step (retriable : Retriable w) (ok : NoLoss w event) {id : RunId} {answer : Answer}
    {run run' : ProcessRun (hintedHandlers settings)} {held : HintedStage} {error : RaisedError}
    (isStep : event = .process id answer) (found : w.runs.lookup id = some run)
    (stands : hintedOf run = some held) (deals : error ∈ held.stage.dealsWith answer)
    (retryable : error.retryable = true) (calm : run.interrupted = false)
    (found' : (w.step settings event).runs.lookup id = some run') : StaysRetryable run run' := by
  subst isStep
  obtain ⟨met, unmet⟩ := ok.spares found stands
  have phase := hintedOf_eq.mp stands
  rw [process_run found phase answer, calm] at found'
  have kept : ∀ recorded, held.stage.carried = some recorded → recorded.retryable = true →
      recorded.keeps = true := fun recorded => retriable.carried id run held recorded found stands
  have leads : run'.phase = run.afterHandler (held.handle settings w.now run.workerId run.job
      w.jobs (workflowId run) answer w.resources).2 := by
    rw [← Option.some.inj found']
    rfl
  have step := @hinted_step settings w.now run.workerId run.job w.jobs (workflowId run) answer
    w.resources held
  generalize held.handle settings w.now run.workerId run.job w.jobs (workflowId run) answer
    w.resources = result at step leads
  obtain ⟨store, outcome⟩ := result
  have leads : run'.phase = run.afterHandler outcome := leads
  obtain ⟨stage, hint⟩ := held
  by_cases isRecord : ∃ recorded, stage = .persistFailure recorded
  · -- the record of a failure raises the error, or reads the workflow first
    obtain ⟨recorded, rfl⟩ := isRecord
    have same : recorded = error := by
      rcases mem_dealsWith.mp deals with hand | ⟨-, other⟩
      · exact Option.some.inj hand
      · exact absurd rfl (other recorded)
    subst same
    have class_ := (keeps_iff.mp (kept recorded rfl retryable)).2
    cases step with
    | plain goesOn free => cases free
    | hinted => exact .inl ⟨_, recorded, hintedOf_eq.mpr leads, rfl, retryable⟩
    | failed | written | refused => exact raises_stays class_ leads
  · have other : ∀ recorded, stage ≠ .persistFailure recorded := fun recorded same =>
      isRecord ⟨recorded, same⟩
    rcases mem_dealsWith.mp deals with hand | ⟨rfl, -⟩
    · -- the record of a failed agent goes on with the error
      obtain ⟨agentRunId, limit, rfl⟩ : ∃ agentRunId limit,
          stage = .failRun agentRunId limit (some error) := by
        cases stage with
        | failRun agentRunId limit recorded =>
          have same : recorded = some error := hand
          rw [same]
          exact ⟨agentRunId, limit, rfl⟩
        | persistFailure recorded => exact absurd rfl (other recorded)
        | _ => cases hand
      have keeps := kept error rfl retryable
      have goesOn : answer.isError = false := by
        cases answer with
        | error raised =>
          have spared := met raised rfl
          simp [wrapsRetry, retryable] at spared
        | proceed | final => rfl
      have active := unmet goesOn
      simp only [losesRetry, retryable, Bool.true_and, Bool.not_eq_false'] at active
      obtain ⟨agentRun, row, active⟩ := (Option.any_eq_true ..).mp active
      obtain ⟨recorded, records⟩ : ∃ recorded, w.resources.failRun agentRunId limit =
          some recorded :=
        ⟨_, WorkflowStore.moveRun_some.mpr
          ⟨agentRun, row, by simpa [AgentRunModel.active] using active, rfl⟩⟩
      have performs : (Stage.failRun agentRunId limit (some error)).perform settings w.now
          run.workerId run.job w.jobs (workflowId run) answer w.resources =
            .ok (recorded, .continues (.persistFailure error)) := by
        simp only [Stage.perform, records, handleError_keeps keeps]
      cases step with
      | failed refused =>
        rcases refused with rfl | ⟨-, refused⟩
        · cases goesOn
        · have refused := map_eq_error.mp refused
          rw [performs] at refused
          cases refused
      | plain _ _ performed =>
        rw [performs] at performed
        cases performed
        exact .inl ⟨_, error, hintedOf_eq.mpr leads, rfl, retryable⟩
      | hinted _ locks => cases locks
      | written _ _ _ assigns => cases assigns
    · have spared := met error rfl
      simp only [wrapsRetry, retryable, Bool.true_and, Bool.or_eq_false_iff,
        Bool.not_eq_false'] at spared
      cases step with
      | failed refused =>
        rcases refused with same | ⟨goesOn, -⟩
        · cases same
          exact fails_stays other retryable spared.1 leads
        · cases goesOn
      | plain goesOn | hinted goesOn | written goesOn | refused goesOn => cases goesOn

/-- A job that fails with an error that may be retried is tried again, unless its attempts are used
up. -/
theorem requeues_step {id : RunId} {answer : Answer} {run : ProcessRun (hintedHandlers settings)}
    {errorCode errorMessage : String} {job job' : BackgroundJobModel}
    (isStep : event = .process id answer) (found : w.runs.lookup id = some run)
    (phase : run.phase = .failing errorCode errorMessage true)
    (row : w.jobs.lookup run.job.jobId = some job)
    (row' : (w.step settings event).jobs.lookup run.job.jobId = some job') :
    job' = job ∨ job'.status = .pending ∨
      job.maxAttempts ≤ job.attemptCount ∧ job'.status = .deadLetter := by
  subst isStep
  have change := @step_row _ settings w (.process id answer) run.job.jobId
  rw [row, row'] at change
  cases change with
  | same => exact .inl rfl
  | completed found₁ phase₁ | markedCancelled found₁ phase₁ =>
    rw [found] at found₁
    cases found₁
    rw [phase] at phase₁
    cases phase₁
  | failed found₁ phase₁ target owned result =>
    rw [found] at found₁
    cases found₁
    rw [phase] at phase₁
    cases phase₁
    obtain ⟨-, -, ⟨-, pending, -⟩ | ⟨usedUp, dead, -⟩, -⟩ := BackgroundJobModel.fail_ok result
    · exact .inr (.inl pending)
    · exact .inr (.inr ⟨by simpa using usedUp, dead⟩)

theorem retriesKept_step (retriable : Retriable w) (ok : NoLoss w event) :
    RetriesKept w event (w.step settings event) where
  continues := by
    intro id answer run held error row isStep found stands deals retryable there
    refine ⟨row, ?_, rfl⟩
    rw [raised_workflows ok isStep found stands deals retryable]
    exact there
  stays := by
    intro id answer run held error run' isStep found stands deals retryable calm found'
    exact stays_step retriable ok isStep found stands deals retryable calm found'
  requeues := by
    intro id answer run errorCode errorMessage job job' isStep found phase row row'
    exact requeues_step isStep found phase row row'
  succeeds := by
    intro jobId job job' workflowId row before open_ after done payload there
    have change := @step_row _ settings w event jobId
    rw [before, after] at change
    obtain ⟨same, written, kept, -, -⟩ := change.identified
    cases written
    obtain ⟨id, answer, run, rfl, found, phase, rfl⟩ := change.succeeded open_ done
    obtain ⟨named, before', about⟩ := retriable.named.runs id run found
    rw [before] at before'
    cases before'
    have works : workflowOf run.job.payload = some workflowId := by
      rw [← about, ← kept, payload]
      rfl
    have finishes : finishing run = true := by
      unfold finishing
      rw [phase]
      rfl
    obtain ⟨row', there', status⟩ := finishing_kept retriable ok found (by rw [works]; rfl) finishes
    have target : Workflow.workflowId run = workflowId := by
      unfold Workflow.workflowId
      rw [works]
      rfl
    rw [target, there] at there'
    cases there'
    exact status

/-! ### Runs -/

/-- In every run without an event that loses a retry, an error that may be retried stays one and
leaves the status of its workflow alone, its job is tried again unless its attempts are used up, and
no job of a failed workflow succeeds. -/
theorem retries_kept (settings : Settings) (events : List (WorldEvent (hintedHandlers settings)))
    (ok : (hintedApplication settings).Meets NoLoss (hintedApplication settings).init events) :
    (hintedApplication settings).Steps RetriesKept (hintedApplication settings).init events :=
  Machine.steps_hold (I := Retriable) (fun _ _ retriable ok => retriable_step retriable ok)
    (fun _ _ retriable ok => retriesKept_step retriable ok) (retriable_init {}) ok

/-- Steps of a run that nothing outside makes fail. -/
def goesOn (id : RunId) (count : Nat) : List (WorldEvent (hintedHandlers {})) :=
  List.replicate count (.process id .proceed)

/-- The run of an agent inside the run of a workflow, from the snapshot to the checkpoint. -/
def specialistRun (id : RunId) (output : AgentOutput) : List (WorldEvent (hintedHandlers {})) :=
  goesOn id 7 ++ [.process id (.final output)] ++ goesOn id 3

/-- The provider times out on the analyst of workflow 1. -/
def timedOutRun : List (WorldEvent (hintedHandlers {})) :=
  [.request (.createCampaign "spring-launch"
      { brief := {}, tone := "", targetAudience := "", promotion := none }),
    .request (.createWorkflow "spring-launch" 1),
    .submit (.runWorkflow 1) 7 0 none none "workflow-1", .lease "worker" none [] 0] ++
    goesOn 0 18 ++
    [.process 0 (.error { errorClass := .llmTimeout, message := "LLM request timed out" })] ++
    goesOn 0 2

/-- The database refuses the record of the failure, and the second attempt goes on to the verdict. -/
def retriedRun : List (WorldEvent (hintedHandlers {})) :=
  timedOutRun ++
    [.process 0 (.error { errorClass := .operational, message := "database is locked" })] ++
    goesOn 0 2 ++ [.tick (seconds 5), .lease "worker" none [] 0] ++ goesOn 1 3 ++
    specialistRun 1 (.analysis "analysis") ++ specialistRun 1 (.content "content") ++
    specialistRun 1 (.review { status := .pass, qualityScore := 90 }) ++ goesOn 1 7

theorem retried_run_kept :
    (((hintedApplication {}).run (hintedApplication {}).init retriedRun).jobs.lookup 7).map
        (fun job => (job.status, job.attemptCount)) = some (.succeeded, 2) ∧
      (hintedApplication {}).Steps RetriesKept (hintedApplication {}).init retriedRun :=
  ⟨by decide +kernel, retries_kept {} retriedRun (by decide +kernel)⟩

/-- The failure is persisted, and the second attempt finds it. -/
def failedRun : List (WorldEvent (hintedHandlers {})) :=
  goesOn 0 3 ++ [.tick (seconds 5), .lease "worker" none [] 0] ++ goesOn 1 7

/-- The timeout fails the workflow, and the retry of the job succeeds without any work. -/
theorem timeout_fails_workflow :
    ¬ (hintedApplication {}).Steps RetriesKept (hintedApplication {}).init
        (timedOutRun ++ failedRun) ∧
      (((hintedApplication {}).run (hintedApplication {}).init
        (timedOutRun ++ failedRun)).jobs.lookup 7).map (fun job => job.status) = some .succeeded ∧
      (((hintedApplication {}).run (hintedApplication {}).init
        (timedOutRun ++ failedRun)).resources.workflows.lookup 1).map (fun row => row.status) =
          some .failed := by
  refine ⟨?_, by decide +kernel, by decide +kernel⟩
  intro steps
  have kept := (Machine.Steps.append.mp steps).2.1
  have before : ((((hintedApplication {}).run (hintedApplication {}).init
      timedOutRun).runs.lookup 0).map fun run => ((hintedOf run).map fun held => held.stage,
        workflowId run)) =
        some (some (.persistFailure
          { errorClass := .llmTimeout, message := "LLM request timed out" }), 1) := by
    decide +kernel
  have working : (((hintedApplication {}).run (hintedApplication {}).init
      timedOutRun).resources.workflows.lookup 1).map (fun row => row.status) =
        some .analyzing := by
    decide +kernel
  have failed : ((((hintedApplication {}).run (hintedApplication {}).init timedOutRun).step {}
      (.process 0 .proceed)).resources.workflows.lookup 1).map (fun row => row.status) =
        some .failed := by
    decide +kernel
  have same : (hintedApplication {}).step = World.step {} := rfl
  rw [same] at kept
  generalize (hintedApplication {}).run (hintedApplication {}).init timedOutRun = w at *
  obtain ⟨run, found, facts⟩ := Option.map_eq_some_iff.mp before
  obtain ⟨stands, target⟩ := Prod.mk.inj facts
  obtain ⟨held, stands, stage⟩ := Option.map_eq_some_iff.mp stands
  obtain ⟨row, there, analyzing⟩ := Option.map_eq_some_iff.mp working
  obtain ⟨row', there', status⟩ := kept.continues 0 .proceed run held _ row rfl found stands
    (mem_dealsWith.mpr (.inl (by rw [stage]; rfl))) (by decide) (by rw [target]; exact there)
  rw [target] at there'
  rw [there', Option.map_some, status, analyzing] at failed
  cases failed

end CyberLegends.Workflow
