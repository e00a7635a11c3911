import CyberLegends.Actions.Lockstep
import CyberLegends.Jobs.Events

/-! The jobs that execute controlled actions. Executors run in the workers and in the callers of the
service; as long as no executor that holds a running execution is lost, a job that has ended leaves
no running execution behind. -/

namespace CyberLegends.Actions

open CyberLegends.Core Lib Workflow Jobs
open ActionRequestStatus (reserved)
open ActionExecutionStatus (ended)

/-! ### The handlers -/

/-- Where the handler of a job stands. -/
inductive ActionStage
  | checkpoint
  | listExecutions
  | required
  | execute (executor : Executor)
  | listReconcilable
  | reconcile (reconciler : Reconciler)
  | other

/-- What the outside world answers to a handler, the list of a reconciler included. -/
inductive StageAnswer
  | step (answer : Answer)
  | listed (executionIds : List ActionExecutionId)
  deriving DecidableEq, Repr

def jobPayloadError : HandlerError := .failure "JOB_PAYLOAD_INVALID" "Job payload is invalid" false

/-- Where the handler goes on from its checkpoint. -/
def ActionStage.first : JobPayload → ActionStage
  | .actionExecution .. => listExecutions
  | .memoryReconciliation _ => listReconcilable
  | _ => other

/-- The checks of a payload that its job has passed. -/
def validPayload : JobPayload → Bool
  | .actionExecution _ expectedVersion actorId actorRole =>
    1 ≤ expectedVersion ∧ 1 ≤ actorId.length ∧ actorId.length ≤ 200 ∧
      (UserRole.ofValue actorRole).isSome
  | .memoryReconciliation limit => 1 ≤ limit ∧ limit ≤ 100
  | _ => true

/-- Where an executor or a reconciler takes the handler that runs it. -/
def stageOutcome {α : Type} (stage : α → ActionStage) : Outcome α → Outcome ActionStage
  | .continues next => .continues (stage next)
  | .returns => .returns
  | .raises error => .raises error

/-- One step of the handler of a job. -/
def ActionStage.handle (config : ActionConfig) (now : Timestamp) (workerId : String)
    (job : LeasedJob) (answer : StageAnswer) (jobs : JobStore) (w : ExecutorWorld)
    (stage : ActionStage) : ExecutorWorld × Outcome ActionStage :=
  match stage, answer with
  | .execute executor, .step answer =>
    let (next, outcome) := w.execute config now answer executor
    (next, stageOutcome execute outcome)
  | .reconcile reconciler, .step answer =>
    let (next, outcome) := w.reconcile now answer reconciler
    (next, stageOutcome reconcile outcome)
  | .execute executor, .listed _ => (w, .continues (.execute executor))
  | .reconcile reconciler, .listed _ => (w, .continues (.reconcile reconciler))
  | _, .step (.error failure) => (w, .raises failure.toHandlerError)
  | .checkpoint, _ =>
    (w,
      if !validPayload job.payload then .raises jobPayloadError
      else if jobs.cancellationRequested job.jobId workerId then .raises .jobCancelled
      else .continues (first job.payload))
  | .listExecutions, _ =>
    match job.payload with
    | .actionExecution requestId .. =>
      (w,
        if w.executions.entries.any fun entry => entry.2.actionRequestId = requestId ∧
            (entry.2.status = .completed ∨ entry.2.status = .failed ∨ entry.2.status = .cancelled)
        then .returns
        else .continues required)
    | _ => (w, .raises jobPayloadError)
  | .required, _ =>
    match job.payload with
    | .actionExecution requestId expectedVersion actorId actorRole =>
      match w.requests.lookup requestId, UserRole.ofValue actorRole with
      | some request, some role =>
        match requireActionExecution { actorId, role } request.requiredRole with
        | .ok () => (w, .continues (.execute (.hint requestId (some expectedVersion))))
        | .error error => (w, .raises error.failure.toHandlerError)
      | none, _ =>
        (w, .raises
          (ActionError.requestNotFound "Action request not found").failure.toHandlerError)
      | some _, none => (w, .raises jobPayloadError)
    | _ => (w, .raises jobPayloadError)
  | .listReconcilable, .listed executionIds =>
    match job.payload with
    | .memoryReconciliation limit =>
      (w,
        if executionIds.Nodup ∧ (executionIds.length : Int) ≤ min (max (limit : Int) 1) 100 ∧
            executionIds.all w.reconcilable then
          .continues (.reconcile (.next executionIds))
        else .continues listReconcilable)
    | _ => (w, .raises jobPayloadError)
  | .listReconcilable, .step _ => (w, .continues listReconcilable)
  | .other, _ => (w, .returns)

/-- Where a handler that is cancelled goes on. -/
def ActionStage.interrupted : ActionStage → Option ActionStage
  | execute executor => executor.interrupted.map execute
  | _ => none

/-- The handlers of the jobs on controlled actions, and the callers of the service. The jobs of the
other kinds reach these tables only as callers, and neither the reconciler of ended jobs nor a retry
writes them. -/
def actionJobs (config : ActionConfig) : HandlerSystem where
  Resources := ExecutorWorld
  Handler := ActionStage
  Answer := StageAnswer
  Read := Unit
  Submission := JobPayload
  Request := ExecutorEvent
  start _ := .checkpoint
  handle now workerId job answer jobs w stage :=
    stage.handle config now workerId job answer jobs w
  interrupted := ActionStage.interrupted
  ensureRead _ _ := ()
  ensureSuccessConsistency _ w _ _ := (w, .ok false)
  reconcileRead _ _ := ()
  reconcile _ w _ _ _ _ _ := w
  prepareRetryRead _ _ := ()
  prepareRetry w _ _ := w
  submit _ payload w := if validPayload payload then some (payload, fun _ => w) else none
  request _ event w := some (w.step config event, none)

/-- The workers and the callers of the service, from empty tables. -/
abbrev actionApplication (config : ActionConfig) :
    Machine (World (actionJobs config)) (WorldEvent (actionJobs config)) :=
  workerMachine config.settings ({} : ExecutorWorld)

variable {config : ActionConfig} {now : Timestamp}

/-! ### What is claimed of states -/

def Executor.requestId : Executor → ActionRequestId
  | hint requestId _ | reserve requestId _ _ | start requestId _ | handle requestId _
  | finalize requestId _ _ _ | record requestId _ _ _ _ => requestId

/-- An executor is in flight, for a caller or in the handler of a job. -/
def Flies (w : World (actionJobs config)) (executor : Executor) : Prop :=
  (∃ caller, w.resources.activities.lookup caller = some (.executor executor)) ∨
    ∃ id run, w.runs.lookup id = some run ∧ run.phase = .handling (.execute executor)

/-- Where the job of an approved request has ended and no executor of the request is in flight, the
request is not executing and has no execution that is still to end. -/
def FinishedActions (w : World (actionJobs config)) : Prop :=
  ∀ jobId job requestId expectedVersion actorId actorRole request,
    w.jobs.lookup jobId = some job →
      job.payload = .actionExecution requestId expectedVersion actorId actorRole →
        job.status = .succeeded ∨ job.status = .cancelled ∨ job.status = .deadLetter →
          w.resources.requests.lookup requestId = some request → request.approvedAt.isSome →
            (∀ executor, Flies w executor → executor.requestId ≠ requestId) →
              request.status ≠ .executing ∧ ∀ executionId execution,
                w.resources.executions.lookup executionId = some execution →
                  execution.actionRequestId = requestId →
                    execution.status ≠ .created ∧ execution.status ≠ .running

/-! ### The condition on events -/

/-- The execution that the executor has still to end. -/
def Executor.holds : Executor → Option ActionExecutionId
  | start _ executionId | handle _ executionId | finalize _ executionId _ _ => some executionId
  | _ => none

/-- The executor holds a running execution. -/
def Executor.running (w : ExecutorWorld) (executor : Executor) : Bool :=
  executor.holds.any fun executionId =>
    (w.executions.lookup executionId).any fun execution => execution.status = .running

/-- A cancellation of the executor leaves a running execution behind. -/
def Executor.stops (w : ExecutorWorld) (executor : Executor) : Bool :=
  executor.running w && executor.interrupted.isNone

/-- The executor leaves a running execution behind, as the finalization after an error fails. -/
def Executor.givesUp (w : ExecutorWorld) (answer : StageAnswer) (executor : Executor) : Bool :=
  match executor, answer with
  | .finalize _ _ _ (some _), .step (.error _) => executor.running w
  | _, _ => false

/-- The executor, whose handler task has been cancelled, leaves a running execution behind after the
commit that is on its way. -/
def Executor.unheeded (config : ActionConfig) (w : ExecutorWorld) (now : Timestamp)
    (answer : StageAnswer) (executor : Executor) : Bool :=
  match executor, answer with
  | .reserve requestId expectedVersion loaded, .step (.proceed identifier) =>
    identifier ∉ w.executions ∧
      (reserveLoaded config.registry config.settings w.toActionStore requestId loaded
        expectedVersion now).isOk
  | .finalize _ _ _ _, .step (.error _) => executor.stops w
  | .finalize _ _ _ _, .step _ => false
  | _, _ => executor.stops w

def executorOf (run : ProcessRun (actionJobs config)) : Option Executor :=
  match run.phase with
  | .handling (.execute executor) => some executor
  | _ => none

def ExecutorWorld.executorAt (w : ExecutorWorld) (caller : CallerId) : Option Executor :=
  match w.activities.lookup caller with
  | some (.executor executor) => some executor
  | _ => none

/-- A caller of the service leaves no running execution without its executor. -/
def ExecutorWorld.Attended (w : ExecutorWorld) : ExecutorEvent → Prop
  | .lose caller => ∀ executor ∈ w.executorAt caller, executor.running w = false
  | .interrupt caller => ∀ executor ∈ w.executorAt caller, executor.stops w = false
  | .advance caller answer _ => ∀ executor ∈ w.executorAt caller,
    executor.givesUp w (.step answer) = false
  | _ => True

/-- No running execution is left without its executor. -/
def Attended (w : World (actionJobs config)) : WorldEvent (actionJobs config) → Prop
  | .crash workerId => ∀ entry ∈ w.runs.entries, entry.2.workerId = workerId →
    ∀ executor ∈ executorOf entry.2, executor.running w.resources = false
  | .interrupt id => ∀ run ∈ w.runs.lookup id, run.interrupted = true →
    ∀ executor ∈ executorOf run, executor.stops w.resources = false
  | .process id answer => ∀ run ∈ w.runs.lookup id, ∀ executor ∈ executorOf run,
    if run.interrupted then executor.unheeded config w.resources w.now answer = false
    else executor.givesUp w.resources answer = false
  | .request event => w.resources.Attended event
  | _ => True

instance ExecutorWorld.decidableAttended (w : ExecutorWorld) : ∀ event, Decidable (w.Attended event)
  | .lose caller => inferInstanceAs
      (Decidable (∀ executor ∈ w.executorAt caller, executor.running w = false))
  | .interrupt caller => inferInstanceAs
      (Decidable (∀ executor ∈ w.executorAt caller, executor.stops w = false))
  | .advance caller answer _ => inferInstanceAs
      (Decidable (∀ executor ∈ w.executorAt caller, executor.givesUp w (.step answer) = false))
  | .service _ | .reconcile .. => isTrue trivial

instance decidableAttended (w : World (actionJobs config)) :
    ∀ event, Decidable (Attended w event)
  | .crash workerId => inferInstanceAs (Decidable (∀ entry ∈ w.runs.entries,
      entry.2.workerId = workerId → ∀ executor ∈ executorOf entry.2,
        executor.running w.resources = false))
  | .interrupt id => inferInstanceAs (Decidable (∀ run ∈ w.runs.lookup id, run.interrupted = true →
      ∀ executor ∈ executorOf run, executor.stops w.resources = false))
  | .process id answer => inferInstanceAs (Decidable (∀ run ∈ w.runs.lookup id,
      ∀ executor ∈ executorOf run,
        if run.interrupted then executor.unheeded config w.resources w.now answer = false
        else executor.givesUp w.resources answer = false))
  | .request event => w.resources.decidableAttended event
  | .tick _ | .submit .. | .lease .. | .reclaim .. | .fault .. | .heartbeat _ | .heartbeatDies _
  | .cancel _ | .retry _ | .call _ | .callDies _ => isTrue trivial

/-! ### Running executions and their executors -/

section

variable {v v' : ExecutorWorld} {answer : Answer} {executor : Executor}
  {executionId : ActionExecutionId}

def ExecutorWorld.Running (v : ExecutorWorld) (executionId : ActionExecutionId) : Prop :=
  ∃ execution, v.executions.lookup executionId = some execution ∧ execution.status = .running

theorem running_iff (holds : executor.holds = some executionId) :
    executor.running v = true ↔ v.Running executionId := by
  unfold Executor.running
  rw [holds, Option.any_some, Option.any_eq_true]
  simp only [decide_eq_true_eq]
  rfl

/-- A running execution was running before the change, or the change has created it. -/
theorem TableChange.running {ok : Prop} (change : TableChange ok v v')
    (running : v'.Running executionId) :
    v.Running executionId ∨ executionId ∉ v.executions := by
  obtain ⟨execution', row', running⟩ := running
  cases change with
  | quiet _ _ executions =>
    obtain ⟨memory, row⟩ := executions.back executionId execution' row'
    exact .inl ⟨_, row, running⟩
  | reserved _ _ fresh _ _ _ _ _ executions =>
    rw [executions] at row'
    obtain ⟨rfl, -⟩ | ⟨-, row⟩ := Table.lookup_insert_cases row'
    · exact .inr fresh
    · exact .inl ⟨execution', row, running⟩
  | @finalized _ finalizedId outcome _ execution now _ _ executionRow _ before _ executions =>
    rw [executions] at row'
    obtain ⟨rfl, -⟩ | ⟨-, row⟩ := Table.lookup_insert_cases row'
    · exact .inl ⟨execution, executionRow, before⟩
    · exact .inl ⟨execution', row, running⟩
  | overwrote _ _ _ _ _ executions => exact .inl ⟨execution', executions ▸ row', running⟩

/-- An executor creates an execution only by a reservation that it has to be left to. -/
theorem ExecutorStep.created {outcome : Outcome Executor}
    (step : ExecutorStep config now v answer executor v' outcome)
    (fresh : executionId ∉ v.executions) (running : v'.Running executionId) :
    ∃ requestId, outcome = .continues (.start requestId executionId) ∧
      executor.unheeded config v now (.step answer) = true := by
  obtain ⟨execution', row', -⟩ := running
  have absent : ∀ execution, v.executions.lookup executionId ≠ some execution :=
    fun execution row => fresh (AList.lookup_isSome.mp (by rw [row]; rfl))
  cases step with
  | waits | unread | hinted | unreserved | refused | started | failed | handled | unfinished
  | unrecorded => exact absurd row' (absent execution')
  | @reserved requestId _ hint committed request execution identifier goesOn _ result free =>
    obtain ⟨rfl, -⟩ | ⟨-, row⟩ := Table.lookup_insert_cases row'
    · refine ⟨requestId, rfl, ?_⟩
      subst goesOn
      exact decide_eq_true ⟨free, by rw [result]; rfl⟩
    · exact absurd row (absent execution')
  | finalized _ result =>
    obtain ⟨⟨_, execution, -, executionRow, -, -, executions⟩, -⟩ := finalize_frame result
    rw [executions] at row'
    obtain ⟨rfl, -⟩ | ⟨-, row⟩ := Table.lookup_insert_cases row'
    · exact absurd executionRow (absent execution)
    · exact absurd row (absent execution')
  | records step =>
    obtain ⟨-, -, -, -, remembers, -⟩ := step.frame
    obtain ⟨memory, row⟩ := remembers.back executionId execution' row'
    exact absurd row (absent _)
  | recorded step =>
    obtain ⟨-, -, -, -, remembers, -⟩ := step.frame
    obtain ⟨memory, row⟩ := remembers.back executionId execution' row'
    exact absurd row (absent _)

theorem cancels_of (coherent : Coherent v) {requestId : ActionRequestId}
    (subject : v.Executes requestId executionId) (running : v.Running executionId) :
    v.cancels requestId executionId := by
  obtain ⟨execution, row, owner⟩ := subject
  obtain ⟨execution', row', running⟩ := running
  rw [row] at row'
  cases row'
  exact ⟨owner ▸ coherent.owned executionId execution row, execution, row, running⟩

/-- A finalization that does not fail ends its execution. -/
theorem ExecutorStep.ends (coherent : Coherent v) {requestId : ActionRequestId}
    {outcome : HandlerOutcome} {raised : Option HandlerError} {next : Outcome Executor}
    (subject : v.Executes requestId executionId) (goesOn : ∀ failure, answer ≠ .error failure)
    (step : ExecutorStep config now v answer (.finalize requestId executionId outcome raised) v'
      next) : ¬v'.Running executionId := by
  intro running
  cases step with
  | waits unanswered => simp at unanswered
  | failed at_ =>
    obtain at_ | at_ | ⟨_, at_, raises | ⟨error, refused⟩⟩ := at_
    · cases at_
    · cases at_
    · obtain ⟨failure, raises⟩ := raises
      exact goesOn failure raises
    · cases at_
      exact requiredRows_refused refused (cancels_of coherent subject running)
  | unfinished error lost =>
    obtain ⟨failure, raises⟩ | ⟨error, refused⟩ := lost
    · exact goesOn failure raises
    · exact requiredRows_refused refused (cancels_of coherent subject running)
  | finalized _ result =>
    obtain ⟨⟨_, execution, -, -, -, -, executions⟩, -⟩ := finalize_frame result
    obtain ⟨execution', row', running⟩ := running
    rw [executions, AList.lookup_insert] at row'
    cases row'
    have closed := (@HandlerOutcome.finishExecution_status now outcome execution).2.1
    rw [running] at closed
    cases closed

/-- An executor goes on holding an execution that is still running, unless it gives it up. -/
theorem ExecutorStep.holding (coherent : Coherent v)
    (subject : (Activity.executor executor).Subject v) {outcome : Outcome Executor}
    (step : ExecutorStep config now v answer executor v' outcome)
    (holds : executor.holds = some executionId) (before : v.Running executionId)
    (running : v'.Running executionId) :
    (∃ executor', outcome = .continues executor' ∧ executor'.holds = some executionId) ∨
      executor.givesUp v (.step answer) = true := by
  cases executor with
  | hint | reserve | record => cases holds
  | start requestId executionId' =>
    cases holds
    cases step with
    | waits unanswered => simp at unanswered
    | started => exact .inl ⟨_, rfl, rfl⟩
    | failed at_ =>
      obtain at_ | at_ | ⟨_, at_, -⟩ := at_ <;> cases at_
      exact .inl ⟨_, rfl, rfl⟩
  | handle requestId executionId' =>
    cases holds
    cases step with
    | waits | handled => exact .inl ⟨_, rfl, rfl⟩
    | failed at_ =>
      obtain at_ | at_ | ⟨_, at_, -⟩ := at_ <;> cases at_
      exact .inl ⟨_, rfl, rfl⟩
  | finalize requestId executionId' outcome' raised =>
    cases holds
    cases answer with
    | proceed | success => exact absurd running (step.ends coherent subject (by simp))
    | error failure =>
      cases raised with
      | some error =>
        refine .inr ?_
        unfold Executor.givesUp
        exact (running_iff rfl).mpr before
      | none =>
        cases step with
        | waits unanswered => simp at unanswered
        | finalized goesOn => exact absurd rfl (goesOn failure)
        | failed at_ =>
          obtain at_ | at_ | ⟨_, at_, -⟩ := at_ <;> cases at_
          exact .inl ⟨_, rfl, rfl⟩

/-- A cancelled executor that goes on holds what it has held. -/
theorem Executor.interrupted_holds {executor' : Executor}
    (on : executor.interrupted = some executor') (holds : executor.holds = some executionId) :
    executor'.holds = some executionId := by
  unfold Executor.interrupted at on
  split at on
  · cases on
  · cases on
  · cases on
  · cases on
    exact holds
  · cases on
    exact holds
  · cases holds
  · split at on
    · cases on
      exact holds
    · cases on
  · cases holds

end

/-! ### The stages of a handler -/

section

variable {v v' : ExecutorWorld}

/-- The stage is about no execution yet. -/
def ActionStage.light : ActionStage → Bool
  | execute (.hint ..) | reconcile (.next _) => true
  | execute _ | reconcile _ => false
  | _ => true

def ActionStage.Subject (v : ExecutorWorld) : ActionStage → Prop
  | execute executor => (Activity.executor executor).Subject v
  | reconcile reconciler => (Activity.reconciler reconciler).Subject v
  | _ => True

theorem ActionStage.subject_of_light {stage : ActionStage} (light : stage.light = true) :
    stage.Subject v := by
  cases stage with
  | execute executor => cases executor <;> trivial
  | reconcile reconciler => cases reconciler <;> trivial
  | checkpoint | listExecutions | required | listReconcilable | other => trivial

theorem ActionStage.Subject.kept {stage : ActionStage} (subject : stage.Subject v)
    (kept : ∀ requestId executionId, v.Executes requestId executionId →
      v'.Executes requestId executionId) : stage.Subject v' := by
  cases stage with
  | execute executor => exact Activity.Subject.kept subject kept
  | reconcile reconciler => exact Activity.Subject.kept subject kept
  | checkpoint | listExecutions | required | listReconcilable | other => trivial

theorem ActionStage.Subject.interrupted {stage stage' : ActionStage} (subject : stage.Subject v)
    (next : stage.interrupted = some stage') : stage'.Subject v := by
  unfold ActionStage.interrupted at next
  split at next
  · obtain ⟨executor', on, rfl⟩ := Option.map_eq_some_iff.mp next
    exact Executor.interrupted_subject subject on
  · cases next

/-- An executor that has an execution still to end executes its own request. -/
theorem executes_of {executor : Executor} {executionId : ActionExecutionId}
    (subject : (Activity.executor executor).Subject v) (holds : executor.holds = some executionId) :
    v.Executes executor.requestId executionId := by
  cases executor with
  | hint | reserve | record => cases holds
  | start | handle | finalize =>
    cases holds
    exact subject

/-- One step of a handler: a step of its executor or its reconciler, or none on the tables. -/
inductive StageStep (config : ActionConfig) (now : Timestamp) (v : ExecutorWorld) :
    StageAnswer → ActionStage → ExecutorWorld → Outcome ActionStage → Prop
  | executed {answer executor next outcome}
      (step : ExecutorStep config now v answer executor next outcome) :
      StageStep config now v (.step answer) (.execute executor) next
        (stageOutcome .execute outcome)
  | reconciled {answer reconciler next outcome}
      (step : ReconcilerStep now v reconciler next outcome) :
      StageStep config now v (.step answer) (.reconcile reconciler) next
        (stageOutcome .reconcile outcome)
  | waits {executionIds stage} :
      StageStep config now v (.listed executionIds) stage v (.continues stage)
  | light {answer stage outcome} (unexecuting : ∀ executor, stage ≠ .execute executor)
      (next : ∀ stage', outcome = .continues stage' → stage'.light = true) :
      StageStep config now v answer stage v outcome

theorem first_light (payload : JobPayload) : (ActionStage.first payload).light = true := by
  cases payload <;> rfl

/-- A stage that runs neither an executor nor a reconciler only reads. -/
theorem handle_light {workerId : String} {job : LeasedJob} {answer : StageAnswer}
    {jobs : JobStore} {stage : ActionStage} (unexecuting : ∀ executor, stage ≠ .execute executor)
    (unreconciling : ∀ reconciler, stage ≠ .reconcile reconciler) :
    (stage.handle config now workerId job answer jobs v).1 = v ∧
      ∀ stage', (stage.handle config now workerId job answer jobs v).2 = .continues stage' →
        stage'.light = true := by
  unfold ActionStage.handle
  split
  · exact absurd rfl (unexecuting _)
  · exact absurd rfl (unreconciling _)
  · exact absurd rfl (unexecuting _)
  · exact absurd rfl (unreconciling _)
  · exact ⟨rfl, by simp⟩
  · refine ⟨rfl, fun stage' same => ?_⟩
    dsimp only at same
    split at same
    · cases same
    split at same
    · cases same
    · cases same
      exact first_light job.payload
  · split
    · refine ⟨rfl, fun stage' same => ?_⟩
      dsimp only at same
      split at same <;> cases same
      rfl
    · exact ⟨rfl, by simp⟩
  · split
    · split
      · split
        · refine ⟨rfl, fun stage' same => ?_⟩
          cases same
          rfl
        · exact ⟨rfl, by simp⟩
      · exact ⟨rfl, by simp⟩
      · exact ⟨rfl, by simp⟩
    · exact ⟨rfl, by simp⟩
  · split
    · refine ⟨rfl, fun stage' same => ?_⟩
      dsimp only at same
      split at same <;> cases same <;> rfl
    · exact ⟨rfl, by simp⟩
  · refine ⟨rfl, fun stage' same => ?_⟩
    cases same
    rfl
  · exact ⟨rfl, by simp⟩

theorem handle_step (workerId : String) (job : LeasedJob) (answer : StageAnswer)
    (jobs : JobStore) (stage : ActionStage) :
    StageStep config now v answer stage
      (stage.handle config now workerId job answer jobs v).1
      (stage.handle config now workerId job answer jobs v).2 := by
  by_cases executing : ∃ executor, stage = .execute executor
  · obtain ⟨executor, rfl⟩ := executing
    cases answer with
    | step answer => exact .executed (execute_step answer executor)
    | listed => exact .waits
  by_cases reconciling : ∃ reconciler, stage = .reconcile reconciler
  · obtain ⟨reconciler, rfl⟩ := reconciling
    cases answer with
    | step answer => exact .reconciled (reconcile_step answer reconciler)
    | listed => exact .waits
  have unexecuting : ∀ executor, stage ≠ .execute executor := not_exists.mp executing
  obtain ⟨same, next⟩ := @handle_light config now v workerId job answer jobs stage unexecuting
    (not_exists.mp reconciling)
  rw [same]
  exact .light unexecuting next

theorem StageStep.frame {answer : StageAnswer} {stage : ActionStage}
    {outcome : Outcome ActionStage} (step : StageStep config now v answer stage v' outcome) :
    v'.activities = v.activities ∧ v'.calls = v.calls := by
  cases step with
  | executed step => exact step.frame
  | reconciled step => exact step.frame
  | waits | light => exact ⟨rfl, rfl⟩

theorem StageStep.change {answer : StageAnswer} {stage : ActionStage}
    {outcome : Outcome ActionStage} (subject : stage.Subject v)
    (step : StageStep config now v answer stage v' outcome) : ∃ ok, TableChange ok v v' := by
  cases step with
  | executed step => exact ⟨_, step.change subject⟩
  | reconciled step => exact ⟨True, step.change trivial⟩
  | waits | light => exact ⟨True, .still trivial rfl rfl rfl⟩

/-- Where a handler goes on, it is about an execution of its request. -/
theorem StageStep.subject {answer : StageAnswer} {stage stage' : ActionStage}
    (subject : stage.Subject v)
    (kept : ∀ requestId executionId, v.Executes requestId executionId →
      v'.Executes requestId executionId)
    (step : StageStep config now v answer stage v' (.continues stage')) : stage'.Subject v' := by
  generalize result : Outcome.continues stage' = outcome at step
  cases step with
  | @executed _ _ _ outcome step =>
    cases outcome with
    | continues executor' =>
      cases result
      exact step.subject subject kept
    | returns => cases result
    | raises => cases result
  | @reconciled _ _ _ outcome step =>
    cases outcome with
    | continues reconciler' =>
      cases result
      exact step.subject subject kept
    | returns => cases result
    | raises => cases result
  | waits =>
    cases result
    exact subject
  | light _ next => exact ActionStage.subject_of_light (next stage' result.symm)

end

/-! ### What holds as long as executors are attended -/

section

variable {v v' : ExecutorWorld} {executionId : ActionExecutionId}

theorem executorAt_of {caller : CallerId} {executor : Executor}
    (row : v.activities.lookup caller = some (.executor executor)) :
    executor ∈ v.executorAt caller := by
  unfold ExecutorWorld.executorAt
  rw [row]
  rfl

theorem stops_of {executor : Executor} (holds : executor.holds = some executionId)
    (running : v.Running executionId) (unstopped : executor.stops v = false) :
    ∃ executor', executor.interrupted = some executor' := by
  unfold Executor.stops at unstopped
  rw [(running_iff holds).mpr running, Bool.true_and] at unstopped
  exact Option.ne_none_iff_exists'.mp fun none => by rw [none] at unstopped; cases unstopped

/-- A handler goes on holding an execution that is still running, unless it gives it up. -/
theorem StageStep.holding (coherent : Coherent v) {executor : Executor}
    (subject : (Activity.executor executor).Subject v) {answer : StageAnswer}
    {outcome : Outcome ActionStage}
    (step : StageStep config now v answer (.execute executor) v' outcome)
    (holds : executor.holds = some executionId) (before : v.Running executionId)
    (after : v'.Running executionId) (kept : executor.givesUp v answer = false) :
    ∃ executor', outcome = .continues (.execute executor') ∧
      executor'.holds = some executionId := by
  cases step with
  | executed step =>
    obtain ⟨executor', rfl, holds'⟩ | gives := step.holding coherent subject holds before after
    · exact ⟨executor', rfl, holds'⟩
    · rw [kept] at gives
      cases gives
  | waits => exact ⟨executor, rfl, holds⟩
  | light unexecuting => exact absurd rfl (unexecuting executor)

/-- An executor that is cancelled after a commit goes on from an execution that is still running. -/
theorem StageStep.heeded (coherent : Coherent v) {executor : Executor}
    (subject : (Activity.executor executor).Subject v) {answer : StageAnswer}
    {outcome : Outcome ActionStage}
    (step : StageStep config now v answer (.execute executor) v' outcome)
    (holds : executor.holds = some executionId) (after : v'.Running executionId)
    (kept : executor.unheeded config v now answer = false) : executor.stops v = false := by
  cases executor with
  | hint | reserve | record => cases holds
  | start | handle => exact kept
  | finalize =>
    cases holds
    cases answer with
    | listed => exact kept
    | step answer =>
      cases answer with
      | error => exact kept
      | proceed | success =>
        cases step with
        | executed step => exact absurd after (step.ends coherent subject (by simp))
        | light unexecuting => exact absurd rfl (unexecuting _)

theorem absent_of {execution : AgentActionExecutionModel} (fresh : executionId ∉ v.executions)
    (row : v.executions.lookup executionId = some execution) : False :=
  fresh (AList.lookup_isSome.mp (by rw [row]; rfl))

/-- A handler that creates an execution goes on with it, and is not cancelled. -/
theorem StageStep.created {answer : StageAnswer} {stage : ActionStage}
    {outcome : Outcome ActionStage} (step : StageStep config now v answer stage v' outcome)
    (fresh : executionId ∉ v.executions) (running : v'.Running executionId) :
    ∃ executor requestId, stage = .execute executor ∧
      outcome = .continues (.execute (.start requestId executionId)) ∧
        executor.unheeded config v now answer = true := by
  cases step with
  | @executed _ executor _ _ step =>
    obtain ⟨requestId, rfl, unheeded⟩ := step.created fresh running
    exact ⟨executor, requestId, rfl, rfl, unheeded⟩
  | reconciled step =>
    obtain ⟨_, row', _⟩ := running
    obtain ⟨_, row⟩ := step.remembers.back executionId _ row'
    exact absurd row (absent_of fresh)
  | waits | light =>
    obtain ⟨_, row, _⟩ := running
    exact absurd row (absent_of fresh)

/-- A caller that creates an execution goes on with it. -/
theorem WorldStep.created {event : ExecutorEvent} (step : WorldStep config v event v')
    (fresh : executionId ∉ v.executions) (running : v'.Running executionId) :
    ∃ caller requestId,
      v'.activities.lookup caller = some (.executor (.start requestId executionId)) := by
  cases step with
  | idle | reconciling | interrupted | stopped | lost =>
    obtain ⟨_, row, _⟩ := running
    exact absurd row (absent_of fresh)
  | served change | began change =>
    obtain ⟨_, row, _⟩ := running
    exact absurd (change.executions ▸ row) (absent_of fresh)
  | @executed caller _ _ _ next outcome _ step =>
    have running : next.Running executionId := by
      cases outcome <;> exact running
    obtain ⟨requestId, rfl, -⟩ := step.created fresh running
    exact ⟨caller, requestId, AList.lookup_insert ..⟩
  | @reconciled _ _ _ _ next outcome _ step =>
    have running : next.Running executionId := by
      cases outcome <;> exact running
    obtain ⟨_, row', _⟩ := running
    obtain ⟨_, row⟩ := step.remembers.back executionId _ row'
    exact absurd row (absent_of fresh)

/-- Every executing request has a running execution. -/
def ExecutorWorld.Executing (v : ExecutorWorld) : Prop :=
  ∀ requestId request, v.requests.lookup requestId = some request →
    request.status = .executing → ∃ executionId execution,
      v.executions.lookup executionId = some execution ∧
        execution.actionRequestId = requestId ∧ execution.status = .running

theorem TableChange.executing {ok : Prop} (executing : v.Executing)
    (change : TableChange ok v v') : v'.Executing := by
  intro requestId request' row' status
  have held : ActionRequestStatus.reserved request'.status = true := by rw [status]; rfl
  cases change with
  | quiet _ requests executions =>
    obtain ⟨request, row, same⟩ := requests.reserved_before row' held
    obtain ⟨executionId, execution, executionRow, owner, running⟩ :=
      executing requestId request row (same.trans status)
    obtain ⟨memory, executionRow'⟩ := executions.forth executionId execution executionRow
    exact ⟨executionId, _, executionRow', owner, running⟩
  | @reserved _ createdId _ _ execution _ _ fresh _ _ running owner requests executions =>
    rw [requests] at row'
    obtain ⟨rfl, -⟩ | ⟨-, row⟩ := Table.lookup_insert_cases row'
    · exact ⟨createdId, execution, by rw [executions]; exact AList.lookup_insert .., owner,
        running⟩
    · obtain ⟨executionId, execution, executionRow, owner, running⟩ :=
        executing requestId request' row status
      have ne : executionId ≠ createdId := by
        rintro rfl
        exact absent_of fresh executionRow
      exact ⟨executionId, execution, by rw [executions, AList.lookup_insert_ne ne]; exact executionRow,
        owner, running⟩
  | @finalized finishedId endedId outcome request _ _ _ _ endedRow endedOwner _ requests
      executions =>
    rw [requests] at row'
    obtain ⟨rfl, rfl⟩ | ⟨other, row⟩ := Table.lookup_insert_cases row'
    · cases outcome <;> cases status
    · obtain ⟨executionId, execution, executionRow, owner, running⟩ :=
        executing requestId request' row status
      have ne : executionId ≠ endedId := by
        rintro rfl
        rw [executionRow] at endedRow
        cases endedRow
        exact other (owner.symm.trans endedOwner)
      exact ⟨executionId, execution, by rw [executions, AList.lookup_insert_ne ne]; exact executionRow,
        owner, running⟩
  | overwrote _ _ _ lost requests executions =>
    rw [requests] at row'
    obtain ⟨-, rfl⟩ | ⟨-, row⟩ := Table.lookup_insert_cases row'
    · rw [held] at lost
      cases lost
    · obtain ⟨executionId, execution, executionRow, owner, running⟩ :=
        executing requestId request' row status
      exact ⟨executionId, execution, executions ▸ executionRow, owner, running⟩

/-- The executor of a caller goes on holding an execution that is still running. -/
theorem caller_holding (coherent : Coherent v) {event : ExecutorEvent} (ok : v.Attended event)
    (step : WorldStep config v event v') {caller : CallerId} {executor : Executor}
    (row : v.activities.lookup caller = some (.executor executor))
    (holds : executor.holds = some executionId) (before : v.Running executionId)
    (after : v'.Running executionId) :
    ∃ executor', v'.activities.lookup caller = some (.executor executor') ∧
      executor'.holds = some executionId := by
  have member := executorAt_of row
  have taken : caller ∈ v.activities := AList.lookup_isSome.mp (by rw [row]; rfl)
  -- an activity of another caller is left alone
  cases step with
  | idle | served => exact ⟨executor, row, holds⟩
  | @began _ acting _ _ _ _ free =>
    have ne : caller ≠ acting := fun same => free (same ▸ taken)
    exact ⟨executor, (AList.lookup_insert_ne ne).trans row, holds⟩
  | @reconciling acting _ _ _ free =>
    have ne : caller ≠ acting := fun same => free (same ▸ taken)
    exact ⟨executor, (AList.lookup_insert_ne ne).trans row, holds⟩
  | @executed acting answer now acts next outcome acting_ step =>
    have frame := step.frame.1
    by_cases same : caller = acting
    · subst same
      rw [row] at acting_
      cases acting_
      have running : next.Running executionId := by
        cases outcome <;> exact after
      obtain ⟨executor', rfl, holds'⟩ | gives := step.holding coherent
        (coherent.subjects caller _ row) holds before running
      · exact ⟨executor', AList.lookup_insert .., holds'⟩
      · rw [ok executor member] at gives
        cases gives
    · refine ⟨executor, ?_, holds⟩
      rw [← row, ← frame]
      cases outcome with
      | continues => exact AList.lookup_insert_ne same
      | returns | raises => exact AList.lookup_erase_ne same
  | @reconciled acting _ _ _ next outcome acting_ step =>
    have ne : caller ≠ acting := by
      rintro rfl
      rw [row] at acting_
      cases acting_
    refine ⟨executor, ?_, holds⟩
    rw [← row, ← step.frame.1]
    cases outcome with
    | continues => exact AList.lookup_insert_ne ne
    | returns | raises => exact AList.lookup_erase_ne ne
  | @interrupted acting acts executor' acting_ on =>
    by_cases same : caller = acting
    · subst same
      rw [row] at acting_
      cases acting_
      exact ⟨executor', AList.lookup_insert .., Executor.interrupted_holds on holds⟩
    · exact ⟨executor, (AList.lookup_insert_ne same).trans row, holds⟩
  | @stopped acting none =>
    have ne : caller ≠ acting := by
      rintro rfl
      obtain ⟨executor', on⟩ := stops_of holds before (ok executor member)
      rw [none executor row] at on
      cases on
    exact ⟨executor, (AList.lookup_erase_ne ne).trans row, holds⟩
  | @lost acting =>
    have ne : caller ≠ acting := by
      rintro rfl
      have running := (running_iff holds).mpr before
      rw [ok executor member] at running
      cases running
    exact ⟨executor, (AList.lookup_erase_ne ne).trans row, holds⟩

end

section

variable {w : World (actionJobs config)} {event : WorldEvent (actionJobs config)}
  {executionId : ActionExecutionId}

theorem executorOf_eq {run : ProcessRun (actionJobs config)} {executor : Executor}
    (phase : run.phase = .handling (.execute executor)) : executor ∈ executorOf run := by
  unfold executorOf
  rw [phase]
  rfl

/-- What an event does to the tables of the actions. -/
inductive ResourceStep (w : World (actionJobs config)) :
    WorldEvent (actionJobs config) → ExecutorWorld → Prop
  | still {event : WorldEvent (actionJobs config)} (unasked : ∀ asked, event ≠ .request asked) :
      ResourceStep w event w.resources
  | asked {asked v} (step : WorldStep config w.resources asked v) :
      ResourceStep w (.request asked) v
  | handled {id answer run stage v outcome} (found : w.runs.lookup id = some run)
      (phase : run.phase = .handling stage)
      (result : stage.handle config w.now run.workerId run.job answer w.jobs w.resources =
        (v, outcome))
      (step : StageStep config w.now w.resources answer stage v outcome) :
      ResourceStep w (.process id answer) v

theorem resource_step (coherent : Coherent w.resources)
    (event : WorldEvent (actionJobs config)) :
    ResourceStep w event (w.step config.settings event).resources := by
  by_cases asking : ∃ asked, event = .request asked
  · obtain ⟨asked, rfl⟩ := asking
    exact .asked (world_step coherent.calls asked)
  have unasked : ∀ asked, event ≠ .request asked := not_exists.mp asking
  have change := @step_resources _ config.settings w event
  generalize (w.step config.settings event).resources = v at change
  cases change with
  | same | ensured | reconciled | cancelled | prepared => exact .still unasked
  | @submitted _ _ _ _ _ _ payload write _ submitted =>
    replace submitted : (if validPayload _ then some (_, fun _ => w.resources) else none) =
      some (payload, write) := submitted
    split at submitted
    · cases submitted
      exact .still unasked
    · cases submitted
  | requested => exact absurd rfl (unasked _)
  | @handled id answer run stage found phase =>
    exact .handled found phase rfl (handle_step run.workerId run.job answer w.jobs stage)

theorem ResourceStep.change (coherent : Coherent w.resources)
    (subjects : ∀ id run stage, w.runs.lookup id = some run → run.phase = .handling stage →
      stage.Subject w.resources) {v : ExecutorWorld} (step : ResourceStep w event v) :
    ∃ ok, TableChange ok w.resources v := by
  cases step with
  | still => exact ⟨True, .still trivial rfl rfl rfl⟩
  | asked step => exact ⟨_, step.change coherent⟩
  | @handled id _ run stage _ _ found phase _ step =>
    exact step.change (subjects id run stage found phase)

theorem ResourceStep.coherent (coherent : Coherent w.resources)
    (subjects : ∀ id run stage, w.runs.lookup id = some run → run.phase = .handling stage →
      stage.Subject w.resources) {v : ExecutorWorld} (step : ResourceStep w event v) :
    Coherent v := by
  obtain ⟨ok, change⟩ := step.change coherent subjects
  have kept : ∀ requestId executionId, w.resources.Executes requestId executionId →
      v.Executes requestId executionId := fun _ _ h => change.executes h
  cases step with
  | still => exact coherent
  | asked step => exact step.coherent coherent
  | handled _ _ _ step =>
    obtain ⟨activities, calls⟩ := step.frame
    refine change.coherent coherent ?_ fun caller call found =>
      coherent.calls caller call (calls ▸ found)
    intro caller activity found
    rw [activities] at found
    exact (coherent.subjects caller activity found).kept kept

/-- The run of a job goes on holding an execution that is still running. -/
theorem run_holding (coherent : Coherent w.resources) (below : RunsBelow w) (ok : Attended w event)
    {id : RunId} {run : ProcessRun (actionJobs config)} {executor : Executor}
    (found : w.runs.lookup id = some run) (phase : run.phase = .handling (.execute executor))
    (subject : (Activity.executor executor).Subject w.resources)
    (holds : executor.holds = some executionId) (before : w.resources.Running executionId)
    (after : (w.step config.settings event).resources.Running executionId) :
    ∃ run' executor', (w.step config.settings event).runs.lookup id = some run' ∧
      run'.phase = .handling (.execute executor') ∧ executor'.holds = some executionId := by
  have member := executorOf_eq phase
  have goesOn : executor.stops w.resources = false → ∃ executor' : Executor,
      executor'.holds = some executionId ∧
        run.afterInterrupt (.execute executor) = .handling (.execute executor') := by
    intro unstopped
    obtain ⟨executor', on⟩ := stops_of holds before unstopped
    refine ⟨executor', Executor.interrupted_holds on holds, afterInterrupt_some ?_⟩
    show executor.interrupted.map ActionStage.execute = _
    rw [on]
    rfl
  have change := @step_run _ config.settings w event id
  rw [found] at change
  generalize result : (w.step config.settings event).runs.lookup id = after' at change
  cases change with
  | same => exact ⟨run, executor, rfl, phase, holds⟩
  | @advanced answer =>
    have ends := @process_run _ config.settings w id run _ found phase answer
    rw [process_handling found phase answer] at after
    have kept := ok run found executor member
    have step := @handle_step config w.now w.resources run.workerId run.job answer w.jobs
      (.execute executor)
    suffices next : ∃ executor' : Executor, executor'.holds = some executionId ∧
        (if run.interrupted then run.afterInterrupt (.execute executor)
          else run.afterHandler (ActionStage.handle config w.now run.workerId run.job answer w.jobs
            w.resources (.execute executor)).2) = .handling (.execute executor') by
      obtain ⟨executor', holds', next⟩ := next
      exact ⟨_, executor', result.symm.trans ends, next, holds'⟩
    split at kept
    · rename_i raised
      rw [if_pos raised]
      exact goesOn (step.heeded coherent subject holds after kept)
    · rename_i calm
      obtain ⟨executor', outcome, holds'⟩ := step.holding coherent subject holds before after kept
      rw [if_neg calm, outcome]
      exact ⟨executor', holds', rfl⟩
  | closed lapsed =>
    rw [phase] at lapsed
    cases lapsed
  | @interrupted _ handler phase' raised =>
    rw [phase] at phase'
    cases phase'
    obtain ⟨executor', holds', next⟩ := goesOn (ok run found raised executor member)
    exact ⟨_, executor', rfl, next, holds'⟩
  | @faulted _ _ phase' next =>
    have same : some (Phase.handling (ActionStage.execute executor)) = some phase' := by
      rw [← next, ProcessRun.afterFault, phase]
    cases same
    exact ⟨_, executor, rfl, rfl, holds⟩
  | dropped lapsed =>
    rw [ProcessRun.afterFault, phase] at lapsed
    cases lapsed
  | beaten beat => exact ⟨_, executor, rfl, phase, holds⟩
  | renewed => exact ⟨_, executor, rfl, phase, holds⟩
  | crashed =>
    have running := (running_iff holds).mpr before
    rw [ok ⟨id, run⟩ (AList.mem_lookup_iff.mp found) rfl executor member] at running
    cases running
  | leased free handed after' place position =>
    have number := below id run found
    rw [position] at number
    exact absurd number (Nat.not_lt.mpr (Nat.le_add_right _ _))

/-- An executor in flight has the execution still to end. -/
def Held (w : World (actionJobs config)) (executionId : ActionExecutionId) : Prop :=
  ∃ executor, Flies w executor ∧ executor.holds = some executionId

/-- What holds in every state of a run whose executors are attended. -/
structure Attending (w : World (actionJobs config)) : Prop where
  coherent : Coherent w.resources
  below : RunsBelow w
  subjects : ∀ id run stage, w.runs.lookup id = some run → run.phase = .handling stage →
    stage.Subject w.resources
  executing : w.resources.Executing
  held : ∀ executionId, w.resources.Running executionId → Held w executionId

theorem held_created (coherent : Coherent w.resources) (ok : Attended w event)
    (fresh : executionId ∉ w.resources.executions)
    (running : (w.step config.settings event).resources.Running executionId) :
    Held (w.step config.settings event) executionId := by
  have step := resource_step coherent event
  generalize next : (w.step config.settings event).resources = v at step running
  cases step with
  | still =>
    obtain ⟨_, row, _⟩ := running
    exact absurd row (absent_of fresh)
  | asked step =>
    obtain ⟨caller, requestId, row⟩ := step.created fresh running
    exact ⟨.start requestId executionId, .inl ⟨caller, next ▸ row⟩, rfl⟩
  | @handled id answer run stage _ outcome found phase result step =>
    obtain ⟨executor, requestId, rfl, rfl, unheeded⟩ := step.created fresh running
    have kept := ok run found executor (executorOf_eq phase)
    have calm : ¬run.interrupted = true := by
      intro raised
      rw [if_pos raised] at kept
      rw [kept] at unheeded
      cases unheeded
    have after := @process_run _ config.settings w id run _ found phase answer
    refine ⟨.start requestId executionId, .inr ⟨id, _, after, ?_⟩, rfl⟩
    show (if run.interrupted then _ else run.afterHandler (ActionStage.handle config w.now
      run.workerId run.job answer w.jobs w.resources (.execute executor)).2) = _
    rw [if_neg calm, result]
    rfl

theorem held_kept (attending : Attending w) (ok : Attended w event)
    (before : w.resources.Running executionId)
    (after : (w.step config.settings event).resources.Running executionId) :
    Held (w.step config.settings event) executionId := by
  obtain ⟨executor, flies, holds⟩ := attending.held executionId before
  rcases flies with ⟨caller, row⟩ | ⟨id, run, found, phase⟩
  · have step := resource_step attending.coherent event
    generalize next : (w.step config.settings event).resources = v at step after
    cases step with
    | still => exact ⟨executor, .inl ⟨caller, next ▸ row⟩, holds⟩
    | asked step =>
      obtain ⟨executor', row', holds'⟩ :=
        caller_holding attending.coherent ok step row holds before after
      exact ⟨executor', .inl ⟨caller, next ▸ row'⟩, holds'⟩
    | handled _ _ _ step =>
      have activities := step.frame.1
      exact ⟨executor, .inl ⟨caller, by rw [next, activities]; exact row⟩, holds⟩
  · obtain ⟨run', executor', found', phase', holds'⟩ :=
      run_holding attending.coherent attending.below ok found phase
        (attending.subjects id run _ found phase) holds before after
    exact ⟨executor', .inr ⟨id, run', found', phase'⟩, holds'⟩

theorem attending_step (w : World (actionJobs config)) (event : WorldEvent (actionJobs config))
    (attending : Attending w) (ok : Attended w event) :
    Attending (w.step config.settings event) := by
  have step := resource_step attending.coherent event
  obtain ⟨_, change⟩ := step.change attending.coherent attending.subjects
  have kept : ∀ requestId executionId, w.resources.Executes requestId executionId →
      (w.step config.settings event).resources.Executes requestId executionId :=
    fun _ _ h => change.executes h
  refine ⟨step.coherent attending.coherent attending.subjects, runsBelow_step attending.below, ?_,
    change.executing attending.executing, ?_⟩
  · intro id run' stage' found' phase'
    obtain ⟨run, found, -, -, move⟩ := step_handler found' phase'
    cases move with
    | kept phase => exact (attending.subjects id run stage' found phase).kept kept
    | began => trivial
    | @stepped answer stage _ phase _ outcome =>
      have subject := attending.subjects id run stage found phase
      have step := @handle_step config w.now w.resources run.workerId run.job answer w.jobs stage
      rw [process_handling found phase answer] at kept ⊢
      replace outcome : (stage.handle config w.now run.workerId run.job answer w.jobs
        w.resources).2 = .continues stage' := outcome
      rw [outcome] at step
      exact step.subject subject kept
    | @interrupted _ stage _ phase _ next =>
      exact ((attending.subjects id run stage found phase).interrupted next).kept kept
  · intro executionId running
    obtain before | fresh := change.running running
    · exact held_kept attending ok before running
    · exact held_created attending.coherent ok fresh running

theorem attending_init : Attending ({ resources := {} } : World (actionJobs config)) where
  coherent := .empty
  below := runsBelow_init _
  subjects _ _ _ found := by cases found
  executing _ _ row := by cases row
  held := by
    rintro _ ⟨_, row, _⟩
    cases row

theorem Attending.finished (attending : Attending w) : FinishedActions w := by
  intro _ _ requestId _ _ _ request _ _ _ row _ grounded
  have ended : ∀ executionId execution,
      w.resources.executions.lookup executionId = some execution →
        execution.actionRequestId = requestId → execution.status ≠ .running := by
    intro executionId execution executionRow owner running
    obtain ⟨executor, flies, holds⟩ :=
      attending.held executionId ⟨execution, executionRow, running⟩
    have subject : (Activity.executor executor).Subject w.resources := by
      rcases flies with ⟨caller, row⟩ | ⟨id, run, found, phase⟩
      · exact attending.coherent.subjects caller _ row
      · exact attending.subjects id run _ found phase
    obtain ⟨execution', row', owner'⟩ := executes_of subject holds
    rw [executionRow] at row'
    cases row'
    exact grounded executor flies (owner'.symm.trans owner)
  refine ⟨fun executing => ?_, fun executionId execution executionRow owner =>
    ⟨attending.coherent.begun executionId execution executionRow,
      ended executionId execution executionRow owner⟩⟩
  obtain ⟨executionId, execution, executionRow, owner, running⟩ :=
    attending.executing requestId request row executing
  exact ended executionId execution executionRow owner running

end

/-! ### Runs -/

/-- As long as no event leaves a running execution without its executor, the job of an approved
request that has ended leaves neither an executing request nor a running execution. -/
theorem finished_of_attended (config : ActionConfig)
    (events : List (WorldEvent (actionJobs config)))
    (attended : (actionApplication config).Meets Attended (actionApplication config).init events) :
    (actionApplication config).Always FinishedActions (actionApplication config).init events :=
  Machine.always_hold attending_step (fun _ attending => attending.finished) attending_init attended

/-- A worker leases the job of an approved request and reserves the execution. -/
def reservedJobRun : List (WorldEvent (actionJobs manualReviewConfig)) :=
  (manualReviewRun.take 5).map (fun event => .request (.service event)) ++
    [.submit (.actionExecution 10 2 "mia" "reviewer") 7 50 none none "execute:10",
      .lease "first" none [] 1] ++
    List.replicate 5 (.process 0 (.step (.proceed 0))) ++ [.process 0 (.step (.proceed 20))]

/-- Another worker leases the job after the first one has crashed. -/
def leasedAgainRun : List (WorldEvent (actionJobs manualReviewConfig)) :=
  [.crash "first", .tick (seconds 600), .reclaim none [], .tick (seconds 600),
    .lease "second" none [] 2] ++ List.replicate 12 (.process 1 (.step (.proceed 0)))

/-- The first worker crashes after its finalization. -/
def finishedJobRun : List (WorldEvent (actionJobs manualReviewConfig)) :=
  reservedJobRun ++
    [.process 0 (.step (.proceed 0)), .process 0 (.step (.success "marked")),
      .process 0 (.step (.proceed 0))] ++ leasedAgainRun

theorem finished_job_run_attended :
    (actionApplication manualReviewConfig).Meets Attended
        (actionApplication manualReviewConfig).init finishedJobRun ∧
      (actionApplication manualReviewConfig).Always FinishedActions
        (actionApplication manualReviewConfig).init finishedJobRun := by
  have attended : (actionApplication manualReviewConfig).Meets Attended
      (actionApplication manualReviewConfig).init finishedJobRun := by
    decide +kernel
  exact ⟨attended, finished_of_attended _ _ attended⟩

/-- The first worker crashes after its reservation: the second attempt meets the reservation and
fails, and the execution runs for ever. -/
theorem reserved_job_abandoned :
    ¬(actionApplication manualReviewConfig).Always FinishedActions
      (actionApplication manualReviewConfig).init (reservedJobRun ++ leasedAgainRun) := by
  intro always
  have last := Machine.always_iff_prefix.mp always _ List.prefix_rfl
  have ended : (((actionApplication manualReviewConfig).run
      (actionApplication manualReviewConfig).init (reservedJobRun ++ leasedAgainRun)).jobs.lookup
        7).any (fun job => job.payload = .actionExecution 10 2 "mia" "reviewer" ∧
          job.status = .deadLetter) = true := by
    decide +kernel
  have abandoned : (((actionApplication manualReviewConfig).run
      (actionApplication manualReviewConfig).init
        (reservedJobRun ++ leasedAgainRun)).resources.requests.lookup 10).any
          (fun request => request.approvedAt.isSome ∧ request.status = .executing) = true := by
    decide +kernel
  have idle : ((actionApplication manualReviewConfig).run
      (actionApplication manualReviewConfig).init
        (reservedJobRun ++ leasedAgainRun)).resources.activities.entries.isEmpty = true := by
    decide +kernel
  have stopped : ((actionApplication manualReviewConfig).run
      (actionApplication manualReviewConfig).init
        (reservedJobRun ++ leasedAgainRun)).runs.entries.all
          (fun entry => (executorOf entry.2).isNone) = true := by
    decide +kernel
  generalize (actionApplication manualReviewConfig).run
    (actionApplication manualReviewConfig).init (reservedJobRun ++ leasedAgainRun) = w at *
  obtain ⟨job, jobRow, ended⟩ := (Option.any_eq_true ..).mp ended
  obtain ⟨request, row, abandoned⟩ := (Option.any_eq_true ..).mp abandoned
  obtain ⟨payload, dead⟩ := of_decide_eq_true ended
  obtain ⟨approved, executing⟩ := of_decide_eq_true abandoned
  have grounded : ∀ executor, ¬Flies w executor := by
    rintro executor (⟨caller, row⟩ | ⟨id, run, found, phase⟩)
    · have listed := AList.mem_lookup_iff.mp row
      rw [List.isEmpty_iff.mp idle] at listed
      cases listed
    · have none := List.all_eq_true.mp stopped ⟨id, run⟩ (AList.mem_lookup_iff.mp found)
      rw [Option.isNone_iff_eq_none] at none
      have member := executorOf_eq phase
      rw [none] at member
      cases member
  exact (last 7 job 10 _ _ _ request jobRow payload (.inr (.inr dead)) row approved
    fun executor flies => absurd flies (grounded executor)).1 executing

end CyberLegends.Actions
