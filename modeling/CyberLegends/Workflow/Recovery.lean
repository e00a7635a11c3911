import CyberLegends.Workflow.Stuck

/-! What a dead worker leaves of the agents that it ran. As long as no run of a job ends while the
agent run that it created is active, or while it has calls of the model behind it whose outcome is not
saved, a new run is refused its specialist only because of another live run, no call has to be made
again, and a workflow fails only by a run that has met a failure itself. -/

namespace CyberLegends.Workflow

open CyberLegends.Core Lib Jobs

variable {settings : Settings} {w : World (hintedHandlers settings)}
  {event : WorldEvent (hintedHandlers settings)}

/-! ### What is to hold -/

/-- The agent run that a stage has to end. -/
def Stage.agentRunId : Stage → Option Uuid
  | startRun agentRunId _ | agentLoop agentRunId _ | agentTurn agentRunId _
  | completeRun agentRunId _ _ | failRun agentRunId _ _ => some agentRunId
  | _ => none

/-- The agent run in the hands of the run of a job. -/
def heldRun (run : ProcessRun (hintedHandlers settings)) : Option Uuid :=
  (hintedOf run).bind fun held => held.stage.agentRunId

/-- Every active agent run is in the hands of a live run of its workflow. -/
def NoOrphan (w : World (hintedHandlers settings)) : Prop :=
  ∀ agentRunId agentRun, w.resources.agentRuns.lookup agentRunId = some agentRun →
    agentRun.active = true → ∃ id run, w.runs.lookup id = some run ∧
      heldRun run = some agentRunId ∧ workflowId run = agentRun.workflowId

/-- Another live run has the specialist under way for the workflow of the run. -/
def Overlapped (w : World (hintedHandlers settings)) (id : RunId)
    (run : ProcessRun (hintedHandlers settings)) (agentName : AgentName) : Prop :=
  ∃ id' run' agentRunId agentRun, id' ≠ id ∧ w.runs.lookup id' = some run' ∧
    heldRun run' = some agentRunId ∧
    w.resources.agentRuns.lookup agentRunId = some agentRun ∧ agentRun.active = true ∧
    agentRun.workflowId = workflowId run ∧ agentRun.agentName = agentName

/-- A run that is to create the run of a specialist is refused only when another live run has the
specialist under way. -/
def RefusedByLive (w : World (hintedHandlers settings)) : Prop :=
  ∀ id run held context, w.runs.lookup id = some run → hintedOf run = some held →
    held.stage = .createRun context →
    w.resources.findActive (workflowId run) context.agentName = true →
      Overlapped w id run context.agentName

/-- Whether calls of the model may have been counted whose outcome is not saved yet. -/
def Stage.unsaved : Stage → Bool
  | agentLoop .. | agentTurn .. | completeRun .. | save .. => true
  | _ => false

/-- Whether the run has calls behind it that a new run would have to make again. -/
def hasUnsaved (run : ProcessRun (hintedHandlers settings)) : Bool :=
  (hintedOf run).any fun held => held.stage.unsaved

/-- A run with calls behind it leaves its agent by a step of its own. -/
def CallsKept (w : World (hintedHandlers settings)) (event : WorldEvent (hintedHandlers settings))
    (w' : World (hintedHandlers settings)) : Prop :=
  ∀ id run, w.runs.lookup id = some run → hasUnsaved run = true →
    (∃ run', w'.runs.lookup id = some run' ∧ workflowId run' = workflowId run ∧
      hasUnsaved run' = true) ∨
    (∃ answer, event = .process id answer) ∨ event = .interrupt id

/-- What a run meets itself that lets its workflow fail: an error from outside, a specialist that
another live run has under way, a budget that is used up, an output that is not the agent's, a
campaign without what the agent is to be given, or an agent run that a cancellation has found ended. -/
inductive OwnFailure (settings : Settings) (w : World (hintedHandlers settings)) (id : RunId)
    (run : ProcessRun (hintedHandlers settings)) : HintedStage → Answer → Prop
  | outside {held error} : OwnFailure settings w id run held (.error error)
  | overlapped {held answer context} (stage : held.stage = .createRun context)
      (other : Overlapped w id run context.agentName) : OwnFailure settings w id run held answer
  | limited {held answer agentRunId context hint}
      (stage : held.stage = .agentLoop agentRunId context) (read : held.hint = some hint)
      (used : settings.maxLlmCallsPerWorkflow ≤ hint.llmCallCount) :
      OwnFailure settings w id run held answer
  | unfit {held agentRunId context output} (stage : held.stage = .agentTurn agentRunId context)
      (author : output.author ≠ context.agentName) : OwnFailure settings w id run held (.final output)
  | unfurnished {held answer agentName pair error} (stage : held.stage = .buildContext agentName)
      (row : w.resources.pair (workflowId run) = some pair)
      (refused : buildContext agentName pair.campaign = .error error) :
      OwnFailure settings w id run held answer
  | ended {held answer agentRunId limit error} (stage : held.stage = .failRun agentRunId limit error)
      (inactive : ∀ agentRun, w.resources.agentRuns.lookup agentRunId = some agentRun →
        agentRun.active = false) : OwnFailure settings w id run held answer

/-- The event is a step of the run `id`, which works on the workflow and meets a failure itself. -/
def MeetsFailure (w : World (hintedHandlers settings)) (event : WorldEvent (hintedHandlers settings))
    (id : RunId) (workflow : WorkflowId) : Prop :=
  ∃ answer run held, event = .process id answer ∧ w.runs.lookup id = some run ∧
    hintedOf run = some held ∧ workflowId run = workflow ∧ OwnFailure settings w id run held answer

/-- The event marks the workflow as failed. -/
def MarksFailed (w : World (hintedHandlers settings)) (event : WorldEvent (hintedHandlers settings))
    (workflow : WorkflowId) : Prop :=
  ∃ row row', w.resources.workflows.lookup workflow = some row ∧ row.status ≠ .failed ∧
    (w.step settings event).resources.workflows.lookup workflow = some row' ∧
    row'.status = .failed

/-- Each event of the run that marks a workflow as failed is a step of a run which, by an earlier
step, has met a failure itself. -/
def FailsByOwn (events : List (WorldEvent (hintedHandlers settings))) : Prop :=
  ∀ before event after, events = before ++ event :: after → ∀ workflow,
    MarksFailed ((hintedApplication settings).run (hintedApplication settings).init before) event
      workflow →
    ∃ earlier met between id answer, before = earlier ++ met :: between ∧
      event = .process id answer ∧
      MeetsFailure ((hintedApplication settings).run (hintedApplication settings).init earlier) met
        id workflow

/-! ### When it holds -/

/-- Whether the agent run in the hands of a run is active. -/
def holdsActive (w : World (hintedHandlers settings))
    (run : ProcessRun (hintedHandlers settings)) : Bool :=
  (heldRun run).any fun agentRunId =>
    (w.resources.agentRuns.lookup agentRunId).any AgentRunModel.active

/-- Whether the next step of a run leaves an active agent run behind. -/
def abandons (w : World (hintedHandlers settings))
    (run : ProcessRun (hintedHandlers settings)) (answer : Answer) : Bool :=
  match (hintedOf run).map HintedStage.stage with
  | some (.createRun context) =>
    run.interrupted && !answer.isError &&
      !w.resources.findActive (workflowId run) context.agentName
  | some (.startRun ..) => (run.interrupted || answer.isError) && holdsActive w run
  | some (.failRun ..) => answer.isError && holdsActive w run
  | _ => false

/-- No event ends a run, or takes it out of its agent's run, while that one is active, and no worker
dies while a run of it has calls behind it whose outcome is not saved. -/
def NoAbandon (w : World (hintedHandlers settings)) :
    WorldEvent (hintedHandlers settings) → Prop
  | .process id answer => ∀ run ∈ w.runs.lookup id, abandons w run answer = false
  | .interrupt id =>
    ∀ run ∈ w.runs.lookup id, run.interrupted = true →
      ((hintedOf run).bind fun held => held.stage.interrupted) = none → holdsActive w run = false
  | .crash workerId =>
    ∀ entry ∈ w.runs.entries, entry.2.workerId = workerId →
      holdsActive w entry.2 = false ∧ hasUnsaved entry.2 = false
  | _ => True

instance decidableNoAbandon (w : World (hintedHandlers settings))
    (event : WorldEvent (hintedHandlers settings)) : Decidable (NoAbandon w event) :=
  match event with
  | .process id answer =>
    inferInstanceAs (Decidable (∀ run ∈ w.runs.lookup id, abandons w run answer = false))
  | .interrupt id =>
    inferInstanceAs (Decidable (∀ run ∈ w.runs.lookup id, run.interrupted = true →
      ((hintedOf run).bind fun held => held.stage.interrupted) = none → holdsActive w run = false))
  | .crash workerId =>
    inferInstanceAs (Decidable (∀ entry ∈ w.runs.entries, entry.2.workerId = workerId →
      holdsActive w entry.2 = false ∧ hasUnsaved entry.2 = false))
  | .tick _ | .submit .. | .lease .. | .reclaim .. | .fault .. | .heartbeat _
  | .heartbeatDies _ | .cancel _ | .retry _ | .call _ | .callDies _ | .request _ => isTrue trivial

/-! ### Agent runs -/

theorem heldRun_eq {run : ProcessRun (hintedHandlers settings)} {agentRunId : Uuid} :
    heldRun run = some agentRunId ↔
      ∃ held, hintedOf run = some held ∧ held.stage.agentRunId = some agentRunId := by
  unfold heldRun
  exact Option.bind_eq_some_iff

theorem holdsActive_iff {run : ProcessRun (hintedHandlers settings)} {agentRunId : Uuid}
    {agentRun : AgentRunModel} (held : heldRun run = some agentRunId)
    (row : w.resources.agentRuns.lookup agentRunId = some agentRun) :
    holdsActive w run = agentRun.active := by
  unfold holdsActive
  rw [held]
  simp [row]

/-- What a step of a handler does to the agent runs. -/
theorem agentRuns_step {now : Timestamp} {workerId : String} {job : LeasedJob} {jobs : JobStore}
    {workflowId : WorkflowId} {answer : Answer} {store store' : WorkflowStore}
    {stage : Stage} {outcome : Outcome Stage} (free : stage.locked settings now = none)
    (step : StageStep settings now workerId job jobs workflowId answer store stage store' outcome) :
    (store'.agentRuns = store.agentRuns ∧ store'.nextAgentRun = store.nextAgentRun) ∨
    (∃ context, stage = .createRun context ∧ answer.isError = false ∧
      store.findActive workflowId context.agentName = false ∧
      outcome = .continues (.startRun store.nextAgentRun context) ∧
      store' = { store.setAgentRun store.nextAgentRun
        { workflowId, agentName := context.agentName } with
          nextAgentRun := store.nextAgentRun + 1 }) ∨
    ∃ agentRunId run status, stage.agentRunId = some agentRunId ∧
      store.agentRuns.lookup agentRunId = some run ∧ run.active = true ∧
      store' = store.setAgentRun agentRunId { run with status } := by
  cases step with
  | failed | checked | got | read | snapshot | built | answered | continued | remembered | other =>
    exact .inl ⟨rfl, rfl⟩
  | transitioned | saved => exact .inl ⟨rfl, rfl⟩
  | turned | persisted => cases free
  | created goesOn unused => exact .inr (.inl ⟨_, rfl, goesOn, unused, rfl, rfl⟩)
  | started row source =>
    exact .inr (.inr ⟨_, _, _, rfl, row, by simp [AgentRunModel.active, source], rfl⟩)
  | completed row source =>
    exact .inr (.inr ⟨_, _, _, rfl, row, by simp [AgentRunModel.active, source], rfl⟩)
  | recorded row source => exact .inr (.inr ⟨_, _, _, rfl, row, source, rfl⟩)

/-- What an event does to the agent runs. -/
inductive AgentRunsChange (w : World (hintedHandlers settings)) :
    WorldEvent (hintedHandlers settings) → WorkflowStore → Prop
  | same {event store} (rows : store.agentRuns = w.resources.agentRuns)
      (next : store.nextAgentRun = w.resources.nextAgentRun) : AgentRunsChange w event store
  | created {id answer run held context store} (found : w.runs.lookup id = some run)
      (stands : hintedOf run = some held) (stage : held.stage = .createRun context)
      (goesOn : Answer.isError answer = false)
      (free : w.resources.findActive (workflowId run) context.agentName = false)
      (outcome : (held.handle settings w.now run.workerId run.job w.jobs (workflowId run) answer
        w.resources).2 = .continues { stage := .startRun w.resources.nextAgentRun context })
      (rows : store.agentRuns = w.resources.agentRuns.insert w.resources.nextAgentRun
        { workflowId := workflowId run, agentName := context.agentName })
      (next : store.nextAgentRun = w.resources.nextAgentRun + 1) :
      AgentRunsChange w (.process id answer) store
  | moved {id answer run agentRunId agentRun status store} (found : w.runs.lookup id = some run)
      (held : heldRun run = some agentRunId)
      (row : w.resources.agentRuns.lookup agentRunId = some agentRun)
      (source : agentRun.active = true)
      (rows : store.agentRuns = w.resources.agentRuns.insert agentRunId { agentRun with status })
      (next : store.nextAgentRun = w.resources.nextAgentRun) :
      AgentRunsChange w (.process id answer) store

theorem requested_agentRuns {asked : Request} {store : WorkflowStore}
    (change : StoreChange (rowsOf w) (.request asked) store) :
    store.agentRuns = w.resources.agentRuns ∧ store.nextAgentRun = w.resources.nextAgentRun := by
  cases change with
  | same | paired | decided | campaignCreated | campaignUpdated => exact ⟨rfl, rfl⟩
  | workflowCreated created =>
    obtain ⟨-, -, campaign, row, -, rfl, -⟩ := createWorkflow_some created
    exact ⟨rfl, rfl⟩

theorem submitted_agentRuns {submission : HintedSubmission} {store : WorkflowStore}
    {payload : JobPayload} {write : JobId → WorkflowStore}
    (accepted : submitHinted submission store = some (payload, write)) (jobId : JobId) :
    (write jobId).agentRuns = store.agentRuns ∧
      (write jobId).nextAgentRun = store.nextAgentRun := by
  rcases submitHinted_write accepted jobId with same | ⟨campaignId, created, workflow, accepted⟩
  · rw [same]
    exact ⟨rfl, rfl⟩
  · obtain ⟨campaign, -, -, -, same⟩ := acceptCampaign_some accepted
    rw [same]
    exact ⟨rfl, rfl⟩

theorem step_agentRuns (w : World (hintedHandlers settings))
    (event : WorldEvent (hintedHandlers settings)) :
    AgentRunsChange w event (w.step settings event).resources := by
  have change := @step_resources _ settings w event
  generalize (w.step settings event).resources = store at change ⊢
  cases change with
  | same | ensured | reconciled | cancelled | prepared => exact .same rfl rfl
  | submitted jobId' accepted =>
    obtain ⟨rows, next⟩ := submitted_agentRuns accepted jobId'
    exact .same rows next
  | requested accepted =>
    rename_i asked _
    obtain ⟨store', stored, result⟩ : ∃ store', request w.now asked w.resources = some store' ∧
      (store', none) = (store, _) := Option.map_eq_some_iff.mp accepted
    cases result
    have written : StoreChange (rowsOf w) (.request asked) store :=
      @requested_store settings (rowsOf w) _ asked store stored
    obtain ⟨rows, next⟩ := requested_agentRuns written
    exact .same rows next
  | handled found phase =>
    rename_i id answer run held
    have stands := hintedOf_eq.mpr phase
    have step := @hinted_step settings w.now run.workerId run.job w.jobs (workflowId run) answer
      w.resources held
    have handled : (hintedHandlers settings).handle w.now run.workerId run.job answer w.jobs
        w.resources held = held.handle settings w.now run.workerId run.job w.jobs (workflowId run)
          answer w.resources := rfl
    rw [handled]
    generalize result : held.handle settings w.now run.workerId run.job w.jobs (workflowId run)
      answer w.resources = performed at step ⊢
    obtain ⟨store, outcome⟩ := performed
    cases step with
    | failed | hinted | refused | written => exact .same rfl rfl
    | plain goesOn free performed step =>
      rename_i stage hint outcome
      rcases agentRuns_step free step with ⟨rows, next⟩ | ⟨context, rfl, goesOn, unused, rfl, store_⟩ |
        ⟨agentRunId, agentRun, status, holds, row, source, store_⟩
      · exact .same rows next
      · refine .created found stands rfl goesOn unused ?_ ?_ ?_
        · rw [result]
        · exact congrArg WorkflowStore.agentRuns store_
        · exact congrArg WorkflowStore.nextAgentRun store_
      · have rows : _ = w.resources.agentRuns.insert agentRunId { agentRun with status } :=
          congrArg WorkflowStore.agentRuns store_
        refine .moved found (heldRun_eq.mpr ⟨_, stands, holds⟩) row source rows ?_
        exact (congrArg WorkflowStore.nextAgentRun store_).trans rfl

/-- An active agent run was active before, or it is the one that the event has created. -/
theorem agentRow_step {agentRunId : Uuid} {agentRun' : AgentRunModel}
    (row' : (w.step settings event).resources.agentRuns.lookup agentRunId = some agentRun')
    (active : agentRun'.active = true) :
    (∃ agentRun, w.resources.agentRuns.lookup agentRunId = some agentRun ∧
      agentRun.active = true ∧ agentRun.workflowId = agentRun'.workflowId) ∨
    ∃ id answer run held context, event = .process id answer ∧ w.runs.lookup id = some run ∧
      hintedOf run = some held ∧ held.stage = .createRun context ∧
      Answer.isError answer = false ∧
      w.resources.findActive (workflowId run) context.agentName = false ∧
      (held.handle settings w.now run.workerId run.job w.jobs (workflowId run) answer
        w.resources).2 = .continues { stage := .startRun w.resources.nextAgentRun context } ∧
      agentRunId = w.resources.nextAgentRun ∧ agentRun'.workflowId = workflowId run := by
  have change := @step_agentRuns settings w event
  generalize (w.step settings event).resources = store at change row'
  cases change with
  | same rows next =>
    rw [rows] at row'
    exact .inl ⟨agentRun', row', active, rfl⟩
  | created found stands stage goesOn free outcome rows next =>
    rw [rows] at row'
    rcases Table.lookup_insert_cases row' with ⟨rfl, rfl⟩ | ⟨-, row⟩
    · exact .inr ⟨_, _, _, _, _, rfl, found, stands, stage, goesOn, free, outcome, rfl, rfl⟩
    · exact .inl ⟨agentRun', row, active, rfl⟩
  | moved found held row source rows next =>
    rw [rows] at row'
    rcases Table.lookup_insert_cases row' with ⟨rfl, rfl⟩ | ⟨-, row⟩
    · exact .inl ⟨_, row, source, rfl⟩
    · exact .inl ⟨agentRun', row, active, rfl⟩

/-! ### The invariant -/

/-- The status in which a stage expects the agent run in its hands. -/
def Stage.expects : Stage → Option AgentRunStatus
  | startRun .. => some .created
  | agentLoop .. | agentTurn .. | completeRun .. => some .running
  | _ => none

/-- The agent run of a stage is as the stage expects it. -/
def Expected (store : WorkflowStore) (stage : Stage) : Prop :=
  ∀ agentRunId status, stage.agentRunId = some agentRunId → stage.expects = some status →
    ∃ agentRun, store.agentRuns.lookup agentRunId = some agentRun ∧ agentRun.status = status

structure Recoverable (w : World (hintedHandlers settings)) : Prop where
  orphan : NoOrphan w
  expected : ∀ id run held, w.runs.lookup id = some run → hintedOf run = some held →
    Expected w.resources held.stage
  ruled : ∀ id run held expectedStatus, w.runs.lookup id = some run → hintedOf run = some held →
    held.stage = .transition expectedStatus → (checkpointAfter expectedStatus).isSome
  unique : ∀ id run id' run' agentRunId, w.runs.lookup id = some run →
    w.runs.lookup id' = some run' → heldRun run = some agentRunId →
    heldRun run' = some agentRunId → id = id'
  below : ∀ id run agentRunId, w.runs.lookup id = some run → heldRun run = some agentRunId →
    agentRunId < w.resources.nextAgentRun
  numbered : RunsBelow w

theorem recoverable_init : Recoverable (hintedApplication settings).init where
  orphan := by intro agentRunId agentRun row; cases row
  expected := by intro id run held found; cases found
  ruled := by intro id run held expectedStatus found; cases found
  unique := by intro id run id' run' agentRunId found; cases found
  below := by intro id run agentRunId found; cases found
  numbered := runsBelow_init _

theorem handleError_holds {error : RaisedError} {stage : Stage}
    (h : handleError error = .continues stage) : stage.agentRunId = none := by
  obtain ⟨raised, rfl⟩ := handleError_continues h
  rfl

theorem nextStage_holds {status : CampaignStatus} {campaign : CampaignModel} {stage : Stage}
    (h : nextStage status campaign = .continues stage) : stage.agentRunId = none := by
  obtain ⟨expectedStatus, rfl⟩ | ⟨agentName, rfl⟩ := nextStage_continues h
  · rfl
  · rfl

/-- The agent run that a stage holds was held by the stage before, or has just been created. -/
theorem holds_step {now : Timestamp} {workerId : String} {job : LeasedJob} {jobs : JobStore}
    {workflowId : WorkflowId} {answer : Answer} {store store' : WorkflowStore}
    {stage stage' : Stage} {agentRunId : Uuid}
    (step : StageStep settings now workerId job jobs workflowId answer store stage store'
      (.continues stage')) (holds : stage'.agentRunId = some agentRunId) :
    stage.agentRunId = some agentRunId ∨
      ∃ context, stage = .createRun context ∧ agentRunId = store.nextAgentRun ∧
        store'.nextAgentRun = store.nextAgentRun + 1 := by
  generalize result : Outcome.continues stage' = outcome at step
  have absent : stage'.agentRunId = none → False := by
    intro none_
    rw [none_] at holds
    cases holds
  cases step with
  | failed stage error =>
    cases stage with
    | checkpoint | getWorkflow | other | persistFailure => cases result
    | agentLoop | agentTurn | completeRun =>
      cases result
      exact .inl holds
    | _ => exact (absent (handleError_holds result.symm)).elim
  | checked =>
    unfold jobCheckpoint at result
    split at result
    · cases result
    · cases result
      cases holds
  | got =>
    split at result
    · cases result
    · cases result
      cases holds
  | read | transitioned | built | remembered | completed =>
    cases result
    cases holds
  | snapshot => exact (absent (nextStage_holds result.symm)).elim
  | created goesOn free =>
    cases result
    cases holds
    exact .inr ⟨_, rfl, rfl, rfl⟩
  | started | answered | turned | continued =>
    cases result
    exact .inl holds
  | saved =>
    cases result
    split at holds <;> cases holds
  | recorded row source =>
    rename_i error run
    cases error with
    | none => cases result
    | some error => exact (absent (handleError_holds result.symm)).elim
  | persisted => cases result
  | other =>
    split at result
    · cases result
    · unfold jobCheckpoint at result
      split at result
      · cases result
      · cases result
        cases holds

/-- A stage that locks rows leads to one that holds the same agent run, or none. -/
theorem afterLocked_holds {stage stage' : Stage} {agentRunId : Uuid}
    (after : stage.afterLocked = .continues stage')
    (holds : stage'.agentRunId = some agentRunId) : stage.agentRunId = some agentRunId := by
  cases stage with
  | save context output =>
    have after := Outcome.continues.inj after
    split at after
    · rw [← after] at holds
      cases holds
    · rw [← after] at holds
      cases holds
  | agentLoop =>
    cases after
    exact holds
  | persistFailure => cases after
  | _ =>
    cases after
    cases holds

/-- An agent run in the hands of a run was there before, or the run has just created it. -/
theorem held_step {id : RunId} {run' : ProcessRun (hintedHandlers settings)} {agentRunId : Uuid}
    (found' : (w.step settings event).runs.lookup id = some run')
    (held' : heldRun run' = some agentRunId) :
    ∃ run, w.runs.lookup id = some run ∧ workflowId run' = workflowId run ∧
      (heldRun run = some agentRunId ∨
        ∃ answer, event = .process id answer ∧ agentRunId = w.resources.nextAgentRun ∧
          (w.step settings event).resources.nextAgentRun = w.resources.nextAgentRun + 1) := by
  obtain ⟨held', stands', holds⟩ := heldRun_eq.mp held'
  obtain ⟨run, found, job, -, move⟩ := step_handler found' (hintedOf_eq.mp stands')
  refine ⟨run, found, by unfold workflowId; rw [job], ?_⟩
  cases move with
  | kept phase quiet => exact .inl (heldRun_eq.mpr ⟨held', hintedOf_eq.mpr phase, holds⟩)
  | began phase =>
    have start : Stage.agentRunId ((hintedHandlers settings).start run.job).stage = none := by
      show Stage.agentRunId (if _ then _ else _) = none
      split <;> rfl
    rw [start] at holds
    cases holds
  | stepped phase calm outcome =>
    rename_i answer held
    have stands := hintedOf_eq.mpr phase
    have after := @process_handling _ settings _ _ _ _ found phase answer
    have step := hinted_stepped outcome
    rw [after]
    generalize ((hintedHandlers settings).handle w.now run.workerId run.job answer w.jobs
      w.resources held).1 = store at step
    rcases hinted_continues step with ⟨step, -⟩ | ⟨locks, same | next⟩
    · rcases holds_step step holds with before | ⟨context, -, next, grown⟩
      · exact .inl (heldRun_eq.mpr ⟨held, stands, before⟩)
      · exact .inr ⟨answer, rfl, next, grown⟩
    · rw [same] at holds
      exact .inl (heldRun_eq.mpr ⟨held, stands, holds⟩)
    · exact .inl (heldRun_eq.mpr ⟨held, stands, afterLocked_holds next holds⟩)
  | interrupted phase raised next hit =>
    rename_i held
    obtain ⟨stage', goesOn, same⟩ := Option.map_eq_some_iff.mp next
    rw [← same] at holds
    refine .inl (heldRun_eq.mpr ⟨held, hintedOf_eq.mpr phase, ?_⟩)
    generalize held.stage = stage at goesOn ⊢
    cases stage <;> cases goesOn <;> exact holds

/-! ### The statuses that the stages expect -/

/-- A transaction without a lock leaves the agent run of its stage as the next stage expects it. -/
theorem expected_plain {now : Timestamp} {workerId : String} {job : LeasedJob} {jobs : JobStore}
    {workflowId : WorkflowId} {answer : Answer} {store store' : WorkflowStore}
    {stage stage' : Stage} (expected : Expected store stage) (free : stage.locked settings now = none)
    (step : StageStep settings now workerId job jobs workflowId answer store stage store'
      (.continues stage')) : Expected store' stage' := by
  intro agentRunId status holds expects
  generalize result : Outcome.continues stage' = outcome at step
  have absent : stage'.agentRunId = none → False := by
    intro none_
    rw [none_] at holds
    cases holds
  cases step with
  | failed stage error =>
    cases stage with
    | checkpoint | getWorkflow | other | persistFailure => cases result
    | agentLoop | agentTurn | completeRun =>
      cases result
      cases expects
    | _ => exact (absent (handleError_holds result.symm)).elim
  | checked =>
    unfold jobCheckpoint at result
    split at result
    · cases result
    · cases result
      cases holds
  | got =>
    split at result
    · cases result
    · cases result
      cases holds
  | read | transitioned | built | remembered | completed =>
    cases result
    cases holds
  | snapshot => exact (absent (nextStage_holds result.symm)).elim
  | created =>
    cases result
    cases holds
    cases expects
    exact ⟨_, AList.lookup_insert _, rfl⟩
  | started =>
    cases result
    cases holds
    cases expects
    exact ⟨_, AList.lookup_insert _, rfl⟩
  | answered | continued =>
    cases result
    exact expected _ _ holds expects
  | turned | saved => cases free
  | recorded row source =>
    rename_i error run
    cases error with
    | none => cases result
    | some error => exact (absent (handleError_holds result.symm)).elim
  | persisted => cases result
  | other =>
    split at result
    · cases result
    · unfold jobCheckpoint at result
      split at result
      · cases result
      · cases result
        cases holds

theorem fails_expects {stage stage' : Stage} {error : RaisedError}
    (fails : stage.fails error = .continues stage') : stage'.expects = none := by
  cases stage with
  | checkpoint | getWorkflow | other | persistFailure => cases fails
  | agentLoop | agentTurn | completeRun =>
    cases fails
    rfl
  | _ =>
    obtain ⟨raised, rfl⟩ := handleError_continues fails
    rfl

theorem expected_hinted {now : Timestamp} {workerId : String} {job : LeasedJob} {jobs : JobStore}
    {workflowId : WorkflowId} {answer : Answer} {store store' : WorkflowStore}
    {held held' : HintedStage} (expected : Expected store held.stage)
    (step : HintedStep settings now workerId job jobs workflowId answer store held store'
      (.continues held')) : Expected store' held'.stage := by
  generalize result : Outcome.continues held' = outcome at step
  cases step with
  | failed met =>
    intro agentRunId status holds expects
    rw [fails_expects (unhinted_continues result.symm)] at expects
    cases expects
  | plain goesOn free performed step =>
    have continues := unhinted_continues result.symm
    rw [continues] at step
    exact expected_plain expected free step
  | hinted goesOn locks there =>
    cases result
    exact expected
  | written goesOn row campaignRow assigns =>
    rename_i stage hint committed campaign assigned
    have continues := unhinted_continues result.symm
    intro agentRunId status holds expects
    cases stage with
    | agentLoop =>
      rw [← Outcome.continues.inj continues] at holds expects
      exact expected _ _ holds expects
    | save context output =>
      have next := Outcome.continues.inj continues
      rw [← next] at holds
      split at holds <;> cases holds
    | persistFailure => cases continues
    | _ =>
      rw [← Outcome.continues.inj continues] at holds
      cases holds
  | refused => cases result

theorem expected_step (recoverable : Recoverable w) {id : RunId}
    {run' : ProcessRun (hintedHandlers settings)} {held' : HintedStage}
    (found' : (w.step settings event).runs.lookup id = some run')
    (stands' : hintedOf run' = some held') :
    Expected (w.step settings event).resources held'.stage := by
  obtain ⟨run, found, job, -, move⟩ := step_handler found' (hintedOf_eq.mp stands')
  cases move with
  | kept phase quiet =>
    have stands := hintedOf_eq.mpr phase
    intro agentRunId status holds expects
    have held : heldRun run = some agentRunId := heldRun_eq.mpr ⟨held', stands, holds⟩
    obtain ⟨agentRun, row, same⟩ := recoverable.expected id run held' found stands _ _ holds expects
    have change := @step_agentRuns settings w event
    generalize (w.step settings event).resources = store at change ⊢
    cases change with
    | same rows next => exact ⟨agentRun, by rw [rows]; exact row, same⟩
    | created found₀ stands₀ stage₀ goesOn free outcome rows next =>
      refine ⟨agentRun, ?_, same⟩
      rw [rows, AList.lookup_insert_ne]
      · exact row
      · exact (recoverable.below id run _ found held).ne
    | moved found₀ held₀ row₀ source rows next =>
      -- only the run itself moves the agent run that it holds
      refine ⟨agentRun, ?_, same⟩
      rw [rows, AList.lookup_insert_ne]
      · exact row
      · rintro rfl
        obtain rfl := recoverable.unique id run _ _ _ found found₀ held held₀
        exact quiet _ rfl
  | began phase =>
    intro agentRunId status holds expects
    have start : Stage.agentRunId ((hintedHandlers settings).start run.job).stage = none := by
      show Stage.agentRunId (if _ then _ else _) = none
      split <;> rfl
    rw [start] at holds
    cases holds
  | stepped phase calm outcome =>
    rename_i answer held
    have after := @process_handling _ settings _ _ _ _ found phase answer
    have step := hinted_stepped outcome
    rw [after]
    exact expected_hinted (recoverable.expected id run held found (hintedOf_eq.mpr phase)) step
  | interrupted phase raised next hit =>
    rename_i held
    obtain ⟨stage', goesOn, same⟩ := Option.map_eq_some_iff.mp next
    intro agentRunId status holds expects
    rw [← same] at expects
    generalize held.stage = stage at goesOn
    cases stage <;> cases goesOn <;> cases expects

/-! ### Checkpoints with a rule -/

theorem nextStage_ruled {status expectedStatus : CampaignStatus} {campaign : CampaignModel}
    (next : nextStage status campaign = .continues (.transition expectedStatus)) :
    (checkpointAfter expectedStatus).isSome := by
  unfold nextStage at next
  split at next
  · cases next
  · rename_i working
    split at next
    · cases next
    · split at next
      · cases next
        rfl
      · cases next
    · split at next
      · cases next
        rfl
      · cases next
    · rename_i notAnalyzing notGenerating notReviewing
      cases next
      cases status with
      | received | validating | revisionRequired => rfl
      | analyzing => exact absurd rfl notAnalyzing
      | generating => exact absurd rfl notGenerating
      | reviewing => exact absurd rfl notReviewing
      | _ => exact absurd rfl working

theorem handleError_transition {error : RaisedError} {expectedStatus : CampaignStatus} :
    handleError error ≠ .continues (.transition expectedStatus) := by
  intro result
  obtain ⟨raised, same⟩ := handleError_continues result
  cases same

/-- A step leads to a checkpoint that only moves the workflow on from the snapshot of the loop. -/
theorem ruled_plain {now : Timestamp} {workerId : String} {job : LeasedJob} {jobs : JobStore}
    {workflowId : WorkflowId} {answer : Answer} {store store' : WorkflowStore} {stage : Stage}
    {expectedStatus : CampaignStatus}
    (step : StageStep settings now workerId job jobs workflowId answer store stage store'
      (.continues (.transition expectedStatus))) : (checkpointAfter expectedStatus).isSome := by
  generalize result : Outcome.continues (Stage.transition expectedStatus) = outcome at step
  cases step with
  | failed stage error =>
    cases stage with
    | checkpoint | getWorkflow | other | persistFailure => cases result
    | agentLoop | agentTurn | completeRun => cases result
    | _ => exact absurd result.symm handleError_transition
  | checked =>
    unfold jobCheckpoint at result
    split at result <;> cases result
  | got => split at result <;> cases result
  | snapshot => exact nextStage_ruled result.symm
  | saved =>
    have next := Outcome.continues.inj result
    split at next <;> cases next
  | recorded row source =>
    rename_i error run
    cases error with
    | none => cases result
    | some error => exact absurd result.symm handleError_transition
  | other =>
    split at result
    · cases result
    · unfold jobCheckpoint at result
      split at result <;> cases result
  | read | transitioned | built | created | started | answered | continued | turned | completed
  | remembered | persisted => cases result

theorem ruled_step (recoverable : Recoverable w) {id : RunId}
    {run' : ProcessRun (hintedHandlers settings)} {held' : HintedStage}
    {expectedStatus : CampaignStatus}
    (found' : (w.step settings event).runs.lookup id = some run')
    (stands' : hintedOf run' = some held') (stage' : held'.stage = .transition expectedStatus) :
    (checkpointAfter expectedStatus).isSome := by
  obtain ⟨run, found, job, -, move⟩ := step_handler found' (hintedOf_eq.mp stands')
  cases move with
  | kept phase => exact recoverable.ruled id run held' _ found (hintedOf_eq.mpr phase) stage'
  | began phase =>
    have start : ((hintedHandlers settings).start run.job).stage ≠ .transition expectedStatus := by
      show (if _ then _ else _) ≠ _
      split <;> simp
    exact absurd stage' start
  | stepped phase calm outcome =>
    rename_i answer held
    have step := hinted_stepped outcome
    generalize ((hintedHandlers settings).handle w.now run.workerId run.job answer w.jobs
      w.resources held).1 = store at step
    rcases hinted_continues step with ⟨step, -⟩ | ⟨-, same | next⟩
    · rw [stage'] at step
      exact ruled_plain step
    · exact recoverable.ruled id run held _ found (hintedOf_eq.mpr phase) (same.symm.trans stage')
    · rw [stage'] at next
      generalize held.stage = stage at next
      cases stage with
      | save context output =>
        have next := Outcome.continues.inj next
        split at next <;> cases next
      | _ => cases next
  | interrupted phase raised next hit =>
    rename_i held
    obtain ⟨stage, goesOn, same⟩ := Option.map_eq_some_iff.mp next
    rw [← same] at stage'
    generalize held.stage = before at goesOn
    cases before <;> cases goesOn <;> cases stage'

/-! ### The holder of an active agent run -/

/-- A step of the run that holds an active agent run keeps it in hand, or ends it. -/
theorem holder_process (recoverable : Recoverable w) {id : RunId} {answer : Answer}
    {run : ProcessRun (hintedHandlers settings)} {agentRunId : Uuid} {agentRun : AgentRunModel}
    (found : w.runs.lookup id = some run) (held : heldRun run = some agentRunId)
    (row : w.resources.agentRuns.lookup agentRunId = some agentRun)
    (active : agentRun.active = true) (ok : abandons w run answer = false) :
    (∃ run', (w.step settings (.process id answer)).runs.lookup id = some run' ∧
      heldRun run' = some agentRunId ∧ workflowId run' = workflowId run) ∨
    ∀ agentRun', (w.step settings (.process id answer)).resources.agentRuns.lookup agentRunId =
      some agentRun' → agentRun'.active = false := by
  obtain ⟨at_, stands, holds⟩ := heldRun_eq.mp held
  have phase := hintedOf_eq.mp stands
  have after := @process_run _ settings _ _ _ _ found phase answer
  have stored := @process_handling _ settings _ _ _ _ found phase answer
  have holding := holdsActive_iff held row
  rw [active] at holding
  -- the run stands at a stage that holds the same agent run
  have goes : ∀ held' : HintedStage, (if run.interrupted then run.afterInterrupt at_
      else run.afterHandler ((hintedHandlers settings).handle w.now run.workerId run.job answer
        w.jobs w.resources at_).2) = .handling held' →
      held'.stage.agentRunId = some agentRunId →
      ∃ run', (w.step settings (.process id answer)).runs.lookup id = some run' ∧
        heldRun run' = some agentRunId ∧ workflowId run' = workflowId run := by
    intro held' next holds'
    exact ⟨_, after, heldRun_eq.mpr ⟨held', hintedOf_eq.mpr next, holds'⟩, rfl⟩
  have step := @hinted_step settings w.now run.workerId run.job w.jobs (workflowId run) answer
    w.resources at_
  generalize result : (HintedStage.handle settings w.now run.workerId run.job w.jobs
    (workflowId run) answer w.resources at_) = performed at step
  have calmly : run.interrupted = false → ∀ held' : HintedStage, performed.2 = .continues held' →
      held'.stage.agentRunId = some agentRunId →
      ∃ run', (w.step settings (.process id answer)).runs.lookup id = some run' ∧
        heldRun run' = some agentRunId ∧ workflowId run' = workflowId run := by
    intro calm held' continues holds'
    refine goes held' ?_ holds'
    rw [calm]
    exact congrArg run.afterHandler ((congrArg Prod.snd result).trans continues)
  have ended : ∀ status, (AgentRunModel.active { agentRun with status } = false) →
      performed.1 = w.resources.setAgentRun agentRunId { agentRun with status } →
      ∀ agentRun', (w.step settings (.process id answer)).resources.agentRuns.lookup agentRunId =
        some agentRun' → agentRun'.active = false := by
    intro status inactive written agentRun' row'
    have rows : (w.step settings (.process id answer)).resources.agentRuns =
        w.resources.agentRuns.insert agentRunId { agentRun with status } := by
      rw [stored]
      exact congrArg WorkflowStore.agentRuns ((congrArg Prod.fst result).trans written)
    rw [rows, AList.lookup_insert] at row'
    cases row'
    exact inactive
  unfold abandons at ok
  rw [stands] at ok
  obtain ⟨stage, hint⟩ := at_
  cases next : stage.interrupted with
  | some failing =>
    -- the agent is running: whatever happens, its run is ended or recorded as failed next
    cases raised : run.interrupted with
    | true =>
      have next' : (hintedHandlers settings).interrupted ({ stage, hint } : HintedStage) =
          some { stage := failing } := by
        show stage.interrupted.map _ = _
        rw [next]
        rfl
      refine .inl (goes { stage := failing } ?_ ?_)
      · rw [raised, if_pos rfl]
        exact afterInterrupt_some next'
      · cases stage <;> cases next <;> exact holds
    | false =>
      obtain ⟨store', outcome⟩ := performed
      cases step with
      | failed met =>
        refine .inl ?_
        cases stage <;> cases next <;> exact calmly raised _ rfl holds
      | hinted => exact .inl (calmly raised _ rfl holds)
      | written goesOn there campaignRow assigns =>
        refine .inl ?_
        cases assigns <;> cases next
        exact calmly raised _ rfl holds
      | refused => cases next
      | plain goesOn free performed step =>
        cases step with
        | failed stage error =>
          refine .inl ?_
          cases stage <;> cases next <;> exact calmly raised _ rfl holds
        | turned => cases free
        | answered | continued => exact .inl (calmly raised _ rfl holds)
        | completed row' source =>
          cases holds
          rw [row] at row'
          cases row'
          exact .inr (ended .completed rfl rfl)
        | _ => cases next
  | none =>
    cases stage with
    | startRun id' context =>
      cases holds
      have ok : (run.interrupted || answer.isError) = false ∨ holdsActive w run = false :=
        Bool.and_eq_false_iff.mp ok
      rw [holding] at ok
      obtain ⟨calm, goesOn⟩ := Bool.or_eq_false_iff.mp (ok.resolve_right (by decide))
      obtain ⟨agentRun', row', source⟩ :=
        recoverable.expected id run _ found stands agentRunId .created rfl rfl
      rw [row] at row'
      cases row'
      have started : w.resources.startRun agentRunId =
          some (w.resources.setAgentRun agentRunId { agentRun with status := .running }) :=
        WorkflowStore.moveRun_some.mpr ⟨agentRun, row, by simp [source], rfl⟩
      refine .inl (calmly calm { stage := .agentLoop agentRunId context } ?_ rfl)
      rw [← result]
      cases answer with
      | error error => cases goesOn
      | proceed | final =>
        simp only [HintedStage.handle, HintedStage.perform, Stage.locked, Stage.perform, started]
        rfl
    | failRun id' limit error =>
      cases holds
      have ok : answer.isError = false ∨ holdsActive w run = false := Bool.and_eq_false_iff.mp ok
      rw [holding] at ok
      have goesOn := ok.resolve_right (by decide)
      have recorded : w.resources.failRun agentRunId limit = some (w.resources.setAgentRun
          agentRunId { agentRun with status := if limit then .limitExceeded else .failed }) := by
        refine WorkflowStore.moveRun_some.mpr ⟨agentRun, row, ?_, rfl⟩
        simpa [AgentRunModel.active] using active
      refine .inr (ended (if limit then .limitExceeded else .failed) (by cases limit <;> rfl) ?_)
      rw [← result]
      cases answer with
      | error error => cases goesOn
      | proceed | final =>
        simp only [HintedStage.handle, HintedStage.perform, Stage.locked, Stage.perform, recorded]
        rfl
    | agentLoop | agentTurn | completeRun => cases next
    | _ => cases holds

/-- An event that abandons no agent run leaves the active one of a run in its hands, or ends it. -/
theorem holder_step (recoverable : Recoverable w) (ok : NoAbandon w event) {id : RunId}
    {run : ProcessRun (hintedHandlers settings)} {agentRunId : Uuid} {agentRun : AgentRunModel}
    (found : w.runs.lookup id = some run) (held : heldRun run = some agentRunId)
    (row : w.resources.agentRuns.lookup agentRunId = some agentRun)
    (active : agentRun.active = true) :
    (∃ run', (w.step settings event).runs.lookup id = some run' ∧
      heldRun run' = some agentRunId ∧ workflowId run' = workflowId run) ∨
    ∀ agentRun', (w.step settings event).resources.agentRuns.lookup agentRunId =
      some agentRun' → agentRun'.active = false := by
  obtain ⟨at_, stands, holds⟩ := heldRun_eq.mp held
  have phase := hintedOf_eq.mp stands
  have holding := holdsActive_iff held row
  rw [active] at holding
  have change := @step_run _ settings w event id
  rw [found] at change
  generalize after : (w.step settings event).runs.lookup id = run' at change
  cases change with
  | same => exact .inl ⟨run, rfl, held, rfl⟩
  | advanced goesOn =>
    rw [← after]
    exact holder_process recoverable found held row active (ok run found)
  | closed lapsed =>
    rw [phase] at lapsed
    cases lapsed
  | interrupted phase' raised =>
    rename_i handler
    rw [phase] at phase'
    cases phase'
    cases next : at_.stage.interrupted with
    | some failing =>
      have next' : (hintedHandlers settings).interrupted at_ = some { stage := failing } := by
        show at_.stage.interrupted.map _ = _
        rw [next]
        rfl
      refine .inl ⟨_, rfl, heldRun_eq.mpr ⟨{ stage := failing }, hintedOf_eq.mpr ?_, ?_⟩, rfl⟩
      · exact afterInterrupt_some next'
      · generalize at_.stage = stage at next holds
        cases stage <;> cases next <;> exact holds
    | none =>
      have kept := ok run found raised (by rw [stands]; exact next)
      rw [holding] at kept
      cases kept
  | faulted next =>
    rename_i phase'
    have same : some (Phase.handling at_) = some phase' := by
      rw [← next, ProcessRun.afterFault, phase]
    cases same
    exact .inl ⟨_, rfl, heldRun_eq.mpr ⟨at_, rfl, holds⟩, rfl⟩
  | dropped lapsed =>
    rw [ProcessRun.afterFault, phase] at lapsed
    cases lapsed
  | beaten beat =>
    exact .inl ⟨_, rfl, heldRun_eq.mpr ⟨at_, hintedOf_eq.mpr phase, holds⟩, rfl⟩
  | renewed =>
    exact .inl ⟨_, rfl, heldRun_eq.mpr ⟨at_, hintedOf_eq.mpr phase, holds⟩, rfl⟩
  | crashed =>
    have kept := (ok ⟨id, run⟩ (AList.mem_lookup_iff.mp found) rfl).1
    rw [holding] at kept
    cases kept
  | leased free handed after' place position =>
    have number := recoverable.numbered id run found
    rw [position] at number
    exact absurd number (Nat.not_lt.mpr (Nat.le_add_right _ _))

/-- An event that abandons no calls leaves a run that has some behind it where they are saved. -/
theorem calls_step (recoverable : Recoverable w) (ok : NoAbandon w event) :
    CallsKept w event (w.step settings event) := by
  intro id run found unsaved
  obtain ⟨held, stands, behind⟩ := (Option.any_eq_true ..).mp unsaved
  have phase := hintedOf_eq.mp stands
  have change := @step_run _ settings w event id
  rw [found] at change
  generalize after : (w.step settings event).runs.lookup id = run' at change
  have stays : ∀ {run' : ProcessRun (hintedHandlers settings)}, run'.phase = .handling held →
      hasUnsaved run' = true :=
    fun phase' => (Option.any_eq_true ..).mpr ⟨held, hintedOf_eq.mpr phase', behind⟩
  cases change with
  | same => exact .inl ⟨run, rfl, rfl, unsaved⟩
  | advanced goesOn => exact .inr (.inl ⟨_, rfl⟩)
  | closed lapsed => exact .inr (.inl ⟨_, rfl⟩)
  | interrupted phase' raised => exact .inr (.inr rfl)
  | faulted next =>
    rename_i phase'
    have same : some (Phase.handling held) = some phase' := by
      rw [← next, ProcessRun.afterFault, phase]
    cases same
    exact .inl ⟨_, rfl, rfl, stays rfl⟩
  | dropped lapsed =>
    rw [ProcessRun.afterFault, phase] at lapsed
    cases lapsed
  | beaten beat => exact .inl ⟨_, rfl, rfl, stays phase⟩
  | renewed => exact .inl ⟨_, rfl, rfl, stays phase⟩
  | crashed =>
    have kept := (ok ⟨id, run⟩ (AList.mem_lookup_iff.mp found) rfl).2
    rw [unsaved] at kept
    cases kept
  | leased free handed after' place position =>
    have number := recoverable.numbered id run found
    rw [position] at number
    exact absurd number (Nat.not_lt.mpr (Nat.le_add_right _ _))

/-! ### Steps -/

theorem nextAgentRun_step (w : World (hintedHandlers settings))
    (event : WorldEvent (hintedHandlers settings)) :
    w.resources.nextAgentRun ≤ (w.step settings event).resources.nextAgentRun := by
  have change := @step_agentRuns settings w event
  generalize (w.step settings event).resources = store at change ⊢
  cases change with
  | same _ next | moved _ _ _ _ _ next => exact next.ge
  | created _ _ _ _ _ _ _ next =>
    rw [next]
    exact Nat.le_succ _

theorem noOrphan_step (recoverable : Recoverable w) (ok : NoAbandon w event) :
    NoOrphan (w.step settings event) := by
  intro agentRunId agentRun' row' active
  rcases agentRow_step row' active with ⟨agentRun, row, active', same⟩ |
    ⟨id, answer, run, held, context, rfl, found, stands, stage, goesOn, free, outcome, rfl, same⟩
  · obtain ⟨id, run, found, held, ofWorkflow⟩ := recoverable.orphan agentRunId agentRun row active'
    rcases holder_step recoverable ok found held row active' with
      ⟨run', found', held', same'⟩ | lapsed
    · exact ⟨id, run', found', held', by rw [same', ofWorkflow, same]⟩
    · rw [lapsed agentRun' row'] at active
      cases active
  · have phase := hintedOf_eq.mp stands
    have calm : run.interrupted = false := by
      have kept := ok run found
      unfold abandons at kept
      rw [stands, Option.map_some, stage] at kept
      simpa [goesOn, free] using kept
    have after := @process_run _ settings _ _ _ _ found phase answer
    refine ⟨id, _, after, heldRun_eq.mpr
      ⟨{ stage := .startRun w.resources.nextAgentRun context }, hintedOf_eq.mpr ?_, rfl⟩, same.symm⟩
    rw [calm]
    exact congrArg run.afterHandler outcome

theorem recoverable_step (recoverable : Recoverable w) (ok : NoAbandon w event) :
    Recoverable (w.step settings event) where
  orphan := noOrphan_step recoverable ok
  expected := by
    intro id run' held' found' stands'
    exact expected_step recoverable found' stands'
  ruled := by
    intro id run' held' expectedStatus found' stands' stage'
    exact ruled_step recoverable found' stands' stage'
  unique := by
    intro id₁ run₁ id₂ run₂ agentRunId found₁ found₂ held₁ held₂
    obtain ⟨before₁, row₁, -, origin₁⟩ := held_step found₁ held₁
    obtain ⟨before₂, row₂, -, origin₂⟩ := held_step found₂ held₂
    rcases origin₁ with was₁ | ⟨answer₁, same₁, next₁, -⟩
    · rcases origin₂ with was₂ | ⟨answer₂, same₂, next₂, -⟩
      · exact recoverable.unique id₁ before₁ id₂ before₂ agentRunId row₁ row₂ was₁ was₂
      · have bound := recoverable.below id₁ before₁ agentRunId row₁ was₁
        rw [next₂] at bound
        exact absurd bound (Nat.lt_irrefl _)
    · rcases origin₂ with was₂ | ⟨answer₂, same₂, next₂, -⟩
      · have bound := recoverable.below id₂ before₂ agentRunId row₂ was₂
        rw [next₁] at bound
        exact absurd bound (Nat.lt_irrefl _)
      · cases same₁.symm.trans same₂
        rfl
  below := by
    intro id run' agentRunId found' held'
    have grows := @nextAgentRun_step settings w event
    obtain ⟨run, found, -, before⟩ := held_step found' held'
    rcases before with held | ⟨answer, rfl, next, grown⟩
    · exact Nat.lt_of_lt_of_le (recoverable.below id run agentRunId found held) grows
    · rw [grown, next]
      exact Nat.lt_succ_self _
  numbered := runsBelow_step recoverable.numbered

/-- Without an orphan, what refuses a specialist is in the hands of another run. -/
theorem Recoverable.refusedByLive (recoverable : Recoverable w) : RefusedByLive w := by
  intro id run held context found stands stage refused
  unfold WorkflowStore.findActive at refused
  obtain ⟨⟨agentRunId, agentRun⟩, entry, facts⟩ := List.any_eq_true.mp refused
  simp only [decide_eq_true_eq] at facts
  obtain ⟨ofWorkflow, ofAgent, active⟩ := facts
  have row : w.resources.agentRuns.lookup agentRunId = some agentRun :=
    AList.mem_lookup_iff.mpr entry
  obtain ⟨id', run', found', held', -⟩ := recoverable.orphan agentRunId agentRun row active
  refine ⟨id', run', agentRunId, agentRun, ?_, found', held', row, active, ofWorkflow, ofAgent⟩
  rintro rfl
  obtain rfl := Option.some.inj (found.symm.trans found')
  obtain ⟨other, stands', holds⟩ := heldRun_eq.mp held'
  obtain rfl := Option.some.inj (stands.symm.trans stands')
  rw [stage] at holds
  cases holds

/-! ### Where a failure comes from -/

/-- Whether the stage is about to record a failure of the workflow; an error that the loop raises on
as it is leaves the workflow alone. -/
def Stage.recordsFailure : Stage → Bool
  | persistFailure _ => true
  | failRun _ _ (some error) => !error.errorClass.isConflict
  | _ => false

/-- The run is about to record a failure of its workflow. -/
def Failing (id : RunId) (workflow : WorkflowId) (w : World (hintedHandlers settings)) : Prop :=
  ∃ run held, w.runs.lookup id = some run ∧ hintedOf run = some held ∧
    workflowId run = workflow ∧ held.stage.recordsFailure = true

theorem handleError_conflict {error : RaisedError} {stage : Stage}
    (conflict : error.errorClass.isConflict = true) : handleError error ≠ .continues stage := by
  unfold handleError
  rw [if_pos conflict]
  intro same
  cases same

theorem wrapAgent_conflict {error : RaisedError} (conflict : error.errorClass.isConflict = true) :
    error.wrapAgent.errorClass.isConflict = true := by
  unfold RaisedError.wrapAgent
  rw [if_pos]
  · exact conflict
  · generalize error.errorClass = errorClass at conflict
    cases errorClass <;> first | rfl | cases conflict

/-- An error that the loop raises on as it is lets no workflow fail. -/
theorem fails_conflict {stage stage' : Stage} {error : RaisedError}
    (calm : stage.recordsFailure = false) (conflict : error.errorClass.isConflict = true)
    (fails : stage.fails error = .continues stage') : stage'.recordsFailure = false := by
  cases stage with
  | checkpoint | getWorkflow | other => cases fails
  | agentLoop | agentTurn | completeRun =>
    cases fails
    show (!(error.wrapAgent).errorClass.isConflict) = false
    rw [wrapAgent_conflict conflict]
    rfl
  | persistFailure => cases calm
  | _ => exact absurd fails (handleError_conflict conflict)

/-- What a stage that reads a row finds it to be, or an error that the loop raises on as it is. -/
theorem loadPair_error {store : WorkflowStore} {workflowId : WorkflowId} {error : RaisedError}
    (h : store.loadPair workflowId = .error error) : error.errorClass.isConflict = true := by
  unfold WorkflowStore.loadPair at h
  split at h
  · cases h
    rfl
  · split at h
    · cases h
      rfl
    · cases h

theorem lockHinted_error {store : WorkflowStore} {workflowId : WorkflowId}
    {hint : WorkflowRunModel} {error : RaisedError}
    (h : store.lockHinted workflowId hint = .error error) :
    error.errorClass.isConflict = true := by
  unfold WorkflowStore.lockHinted at h
  split at h
  · cases h
    rfl
  · split at h
    · cases h
    · cases h
      rfl

theorem ensureExpectedStatus_conflict {actual expected : CampaignStatus} {error : WorkflowError}
    (refused : ensureExpectedStatus actual expected = .error error) :
    (RaisedError.ofWorkflowError error).errorClass.isConflict = true := by
  unfold ensureExpectedStatus at refused
  split at refused
  · cases refused
    rfl
  · cases refused

theorem ensureValidTransition_conflict {status nextStatus : CampaignStatus} {error : WorkflowError}
    (refused : ensureValidTransition status nextStatus = .error error) :
    (RaisedError.ofWorkflowError error).errorClass.isConflict = true := by
  unfold ensureValidTransition at refused
  split at refused
  · cases refused
  · cases refused
    rfl

theorem transitionLocked_conflict {pair : LockedPair} {nextStatus : CampaignStatus}
    {nextStep : WorkflowStep} {error : WorkflowError}
    (refused : pair.transitionLocked nextStatus nextStep = .error error) :
    (RaisedError.ofWorkflowError error).errorClass.isConflict = true := by
  obtain refused | ⟨_, -, pure⟩ := bind_eq_error.mp refused
  · exact ensureValidTransition_conflict refused
  · cases pure

theorem transitionCheckpoint_conflict {pair : LockedPair}
    {expectedStatus nextStatus : CampaignStatus} {nextStep : WorkflowStep} {error : WorkflowError}
    (refused : pair.transitionCheckpoint expectedStatus nextStatus nextStep = .error error) :
    (RaisedError.ofWorkflowError error).errorClass.isConflict = true := by
  obtain refused | ⟨_, -, refused⟩ := bind_eq_error.mp refused
  · exact ensureExpectedStatus_conflict refused
  · obtain refused | ⟨_, -, pure⟩ := bind_eq_error.mp refused
    · exact ensureValidTransition_conflict refused
    · cases pure

theorem save_conflict {pair : LockedPair} {output : AgentOutput} {error : WorkflowError}
    (refused : output.save settings pair = .error error) :
    (RaisedError.ofWorkflowError error).errorClass.isConflict = true := by
  cases output with
  | analysis | content =>
    obtain refused | ⟨_, -, refused⟩ := bind_eq_error.mp refused
    · exact ensureExpectedStatus_conflict refused
    · exact transitionLocked_conflict refused
  | review review =>
    obtain refused | ⟨_, -, refused⟩ := bind_eq_error.mp refused
    · exact ensureExpectedStatus_conflict refused
    · cases verdict : review.status with
      | pass | manualReviewRequired =>
        simp only [verdict] at refused
        exact transitionLocked_conflict refused
      | fail =>
        simp only [verdict] at refused
        split at refused
        · exact transitionLocked_conflict refused
        · exact transitionLocked_conflict refused

theorem recordLlmCall_limit {pair : LockedPair} {error : WorkflowError}
    (refused : pair.recordLlmCall settings = .error error) :
    settings.maxLlmCallsPerWorkflow ≤ pair.workflow.llmCallCount := by
  unfold LockedPair.recordLlmCall at refused
  split at refused
  · assumption
  · cases refused

/-- What a locked transaction is refused for: an error that the loop raises on as it is, or a budget
that is used up on the row as it has been read. -/
theorem locked_error {now : Timestamp} {stage : Stage} {pair : LockedPair}
    {assign : LockedPair → Except WorkflowError (Option LockedPair)} {error : WorkflowError}
    (locks : stage.locked settings now = some assign) (refused : assign pair = .error error) :
    (RaisedError.ofWorkflowError error).errorClass.isConflict = true ∨
      ∃ agentRunId context, stage = .agentLoop agentRunId context ∧
        settings.maxLlmCallsPerWorkflow ≤ pair.workflow.llmCallCount := by
  have direct : ∀ {result : Except WorkflowError LockedPair}, result.map some = .error error →
      result = .error error := by
    intro result mapped
    cases result with
    | error other =>
      cases mapped
      rfl
    | ok pair' => cases mapped
  cases stage with
  | transition expectedStatus =>
    obtain ⟨⟨nextStatus, nextStep⟩, -, rfl⟩ := Option.map_eq_some_iff.mp locks
    exact .inl (transitionCheckpoint_conflict (direct refused))
  | agentLoop agentRunId context =>
    cases locks
    exact .inr ⟨agentRunId, context, rfl, recordLlmCall_limit (direct refused)⟩
  | save context output =>
    cases locks
    exact .inl (save_conflict (direct refused))
  | persistFailure error =>
    cases locks
    cases refused
  | _ => cases locks

/-- What a transaction without a lock is refused for. -/
theorem plain_refused (recoverable : Recoverable w) {id : RunId}
    {run : ProcessRun (hintedHandlers settings)} {held : HintedStage} {answer : Answer}
    {error : RaisedError} (found : w.runs.lookup id = some run) (stands : hintedOf run = some held)
    (free : held.stage.locked settings w.now = none)
    (refused : held.stage.perform settings w.now run.workerId run.job w.jobs (workflowId run) answer
      w.resources = .error error) :
    error.errorClass.isConflict = true ∨ OwnFailure settings w id run held answer := by
  have expected := recoverable.expected id run held found stands
  cases stage : held.stage with
  | checkpoint | recordMemory | persistFailure | other =>
    rw [stage] at refused
    cases refused
  | getWorkflow | readWorkflow | readCampaign =>
    rw [stage] at refused
    simp only [Stage.perform] at refused
    split at refused
    · cases refused
      exact .inl rfl
    · cases refused
  | transition expectedStatus =>
    -- the loop comes here only with a status that has a rule
    obtain ⟨rule, has⟩ :=
      Option.isSome_iff_exists.mp (recoverable.ruled id run held _ found stands stage)
    rw [stage] at free
    simp [Stage.locked, has] at free
  | buildContext agentName =>
    rw [stage] at refused
    obtain refused | ⟨pair, loaded, refused⟩ := bind_eq_error.mp refused
    · exact .inl (loadPair_error refused)
    · obtain refused | ⟨_, -, pure⟩ := bind_eq_error.mp refused
      · exact .inr (.unfurnished stage (WorkflowStore.loadPair_ok.mp loaded) refused)
      · cases pure
  | createRun context =>
    rw [stage] at refused
    simp only [Stage.perform] at refused
    split at refused
    · rename_i taken
      have active : w.resources.findActive (workflowId run) context.agentName = true := by
        by_contra free
        unfold WorkflowStore.createRun at taken
        rw [if_neg free] at taken
        cases taken
      exact .inr (.overlapped stage
        (recoverable.refusedByLive id run held context found stands stage active))
    · cases refused
  | startRun agentRunId context =>
    obtain ⟨agentRun, row, status⟩ :=
      expected agentRunId .created (by rw [stage]; rfl) (by rw [stage]; rfl)
    have started : w.resources.startRun agentRunId =
        some (w.resources.setAgentRun agentRunId { agentRun with status := .running }) :=
      WorkflowStore.moveRun_some.mpr ⟨agentRun, row, by simp [status], rfl⟩
    rw [stage] at refused
    simp only [Stage.perform, started] at refused
    cases refused
  | agentLoop | save =>
    rw [stage] at free
    cases free
  | agentTurn agentRunId context =>
    rw [stage] at refused
    simp only [Stage.perform] at refused
    split at refused
    · rename_i output
      split at refused
      · cases refused
      · rename_i author
        exact .inr (.unfit stage author)
    · cases refused
  | completeRun agentRunId context output =>
    obtain ⟨agentRun, row, status⟩ :=
      expected agentRunId .running (by rw [stage]; rfl) (by rw [stage]; rfl)
    have completed : w.resources.completeRun agentRunId =
        some (w.resources.setAgentRun agentRunId { agentRun with status := .completed }) :=
      WorkflowStore.moveRun_some.mpr ⟨agentRun, row, by simp [status], rfl⟩
    rw [stage] at refused
    simp only [Stage.perform, completed] at refused
    cases refused
  | failRun agentRunId limit recorded =>
    rw [stage] at refused
    simp only [Stage.perform] at refused
    split at refused
    · rename_i unrecorded
      refine .inr (.ended stage fun agentRun row => ?_)
      by_contra active
      have moved : w.resources.failRun agentRunId limit = some _ :=
        WorkflowStore.moveRun_some.mpr ⟨agentRun, row, by
          simpa [AgentRunModel.active, or_iff_not_imp_left] using active, rfl⟩
      rw [moved] at unrecorded
      cases unrecorded
    · cases refused

/-- What the step of a run is refused for. -/
theorem perform_refused (recoverable : Recoverable w) {id : RunId}
    {run : ProcessRun (hintedHandlers settings)} {held : HintedStage} {answer : Answer}
    {error : RaisedError} (found : w.runs.lookup id = some run) (stands : hintedOf run = some held)
    (refused : held.perform settings w.now run.workerId run.job w.jobs (workflowId run) answer
      w.resources = .error error) :
    error.errorClass.isConflict = true ∨ OwnFailure settings w id run held answer := by
  unfold HintedStage.perform at refused
  split at refused
  · rename_i free
    refine plain_refused recoverable found stands free ?_
    cases result : held.stage.perform settings w.now run.workerId run.job w.jobs (workflowId run)
      answer w.resources with
    | error other =>
      rw [result] at refused
      cases refused
      rfl
    | ok performed =>
      rw [result] at refused
      cases refused
  · split at refused
    · cases refused
      exact .inl rfl
    · cases refused
  · rename_i assign hint locks read
    obtain refused | ⟨pair, locked, refused⟩ := bind_eq_error.mp refused
    · exact .inl (lockHinted_error refused)
    · obtain refused | ⟨_, -, pure⟩ := bind_eq_error.mp refused
      · cases result : assign pair with
        | error other =>
          rw [result] at refused
          cases refused
          rcases locked_error locks result with conflict | ⟨agentRunId, context, stage, used⟩
          · exact .inl conflict
          · rw [(lockHinted_ok.mp locked).1] at used
            exact .inr (.limited stage read used)
        | ok assigned =>
          rw [result] at refused
          cases refused
      · cases pure

/-- A transaction that is not refused leads to the record of a failure only from one. -/
theorem performed_failing {now : Timestamp} {workerId : String} {job : LeasedJob} {jobs : JobStore}
    {workflowId : WorkflowId} {answer : Answer} {store store' : WorkflowStore}
    {stage stage' : Stage}
    (performed : stage.perform settings now workerId job jobs workflowId answer store =
      .ok (store', .continues stage')) (failing : stage'.recordsFailure = true) :
    stage.recordsFailure = true := by
  cases stage with
  | checkpoint =>
    have next := (Prod.mk.inj (Except.ok.inj performed)).2
    unfold jobCheckpoint at next
    split at next <;> cases next
    cases failing
  | getWorkflow =>
    simp only [Stage.perform] at performed
    split at performed
    · cases performed
    · have next := (Prod.mk.inj (Except.ok.inj performed)).2
      split at next <;> cases next
      cases failing
  | readWorkflow =>
    simp only [Stage.perform] at performed
    split at performed <;> cases performed
    cases failing
  | readCampaign workflow =>
    simp only [Stage.perform] at performed
    split at performed
    · cases performed
    · have next := (Prod.mk.inj (Except.ok.inj performed)).2
      obtain ⟨expectedStatus, rfl⟩ | ⟨agentName, rfl⟩ := nextStage_continues next <;> cases failing
  | transition expectedStatus =>
    simp only [Stage.perform] at performed
    split at performed
    · cases performed
    · obtain ⟨_, -, pure⟩ := bind_eq_ok.mp performed
      cases pure
      cases failing
  | buildContext agentName =>
    obtain ⟨_, -, performed⟩ := bind_eq_ok.mp performed
    obtain ⟨_, -, pure⟩ := bind_eq_ok.mp performed
    cases pure
    cases failing
  | createRun | startRun | completeRun =>
    simp only [Stage.perform] at performed
    split at performed <;> cases performed
    cases failing
  | agentLoop =>
    obtain ⟨_, -, pure⟩ := bind_eq_ok.mp performed
    cases pure
    cases failing
  | agentTurn =>
    simp only [Stage.perform] at performed
    split at performed
    · split at performed <;> cases performed
      cases failing
    · cases performed
      cases failing
  | save context output =>
    obtain ⟨_, -, pure⟩ := bind_eq_ok.mp performed
    have next := Outcome.continues.inj (Prod.mk.inj (Except.ok.inj pure)).2
    split at next <;> rw [← next] at failing <;> cases failing
  | recordMemory =>
    cases performed
    cases failing
  | failRun agentRunId limit error =>
    simp only [Stage.perform] at performed
    split at performed
    · cases performed
    · have next := (Prod.mk.inj (Except.ok.inj performed)).2
      cases error with
      | none => cases next
      | some error =>
        show (!error.errorClass.isConflict) = true
        by_contra conflict
        exact handleError_conflict (by simpa using conflict) next
  | persistFailure => rfl
  | other checked =>
    have next := (Prod.mk.inj (Except.ok.inj performed)).2
    split at next
    · cases next
    · unfold jobCheckpoint at next
      split at next <;> cases next
      cases failing

/-- A run comes to the record of a failure by a step in which it meets one. -/
theorem failing_step (recoverable : Recoverable w) {id : RunId} {workflow : WorkflowId}
    (fresh : ¬Failing id workflow w) (failing : Failing id workflow (w.step settings event)) :
    MeetsFailure w event id workflow := by
  obtain ⟨run', held', found', stands', about, failing⟩ := failing
  obtain ⟨run, found, job, -, move⟩ := step_handler found' (hintedOf_eq.mp stands')
  have about : workflowId run = workflow := by
    rw [← about]
    unfold workflowId
    rw [job]
  have absent : ∀ held, hintedOf run = some held → held.stage.recordsFailure = false := by
    intro held stands
    by_contra failing
    exact fresh ⟨run, held, found, stands, about, by simpa using failing⟩
  cases move with
  | kept phase =>
    rw [absent held' (hintedOf_eq.mpr phase)] at failing
    cases failing
  | began phase =>
    have start : Stage.recordsFailure ((hintedHandlers settings).start run.job).stage = false := by
      show Stage.recordsFailure (if _ then _ else _) = _
      split <;> rfl
    rw [start] at failing
    cases failing
  | interrupted phase raised next hit =>
    rename_i held
    obtain ⟨stage, goesOn, same⟩ := Option.map_eq_some_iff.mp next
    rw [← same] at failing
    generalize held.stage = before at goesOn
    cases before <;> cases goesOn <;> cases failing
  | stepped phase calm outcome =>
    rename_i answer held
    have stands := hintedOf_eq.mpr phase
    have calm := absent held stands
    refine ⟨answer, run, held, rfl, found, stands, about, ?_⟩
    have step := hinted_stepped outcome
    generalize ((hintedHandlers settings).handle w.now run.workerId run.job answer w.jobs
      w.resources held).1 = store at step
    generalize result : Outcome.continues held' = after at step
    cases step with
    | failed met =>
      rename_i error
      have fails := unhinted_continues result.symm
      rcases met with rfl | ⟨goesOn, refused⟩
      · exact .outside
      · rcases perform_refused recoverable found stands refused with conflict | own
        · rw [fails_conflict calm conflict fails] at failing
          cases failing
        · exact own
    | plain goesOn free performed step =>
      have next := unhinted_continues result.symm
      rw [next] at performed
      rw [performed_failing performed failing] at calm
      cases calm
    | hinted goesOn locks there =>
      cases result
      rw [calm] at failing
      cases failing
    | written goesOn row campaignRow assigns =>
      have next := unhinted_continues result.symm
      rename_i stage hint committed campaign assigned
      cases stage with
      | save context output =>
        have next := Outcome.continues.inj next
        split at next <;> rw [← next] at failing <;> cases failing
      | persistFailure => cases next
      | _ =>
        rw [← Outcome.continues.inj next] at failing
        cases failing
    | refused => cases result

/-! ### Every run -/

/-- A workflow is marked as failed by a run that is about to record the failure. -/
theorem MarksFailed.failing {workflow : WorkflowId} (marks : MarksFailed w event workflow) :
    ∃ id answer, event = .process id answer ∧ Failing id workflow w := by
  obtain ⟨row, row', found, status, found', failed⟩ := marks
  rcases @notFailed_step settings w event workflow row found status with
    ⟨row₁, found₁, other⟩ | ⟨id, answer, run, error, hint, rfl, foundRun, stands, -, about, -⟩
  · obtain rfl := Option.some.inj (found'.symm.trans found₁)
    exact absurd failed other
  · exact ⟨id, answer, rfl, run, _, foundRun, stands, about, rfl⟩

/-- What lets a workflow fail is met by the run that records the failure. -/
theorem failsByOwn {events : List (WorldEvent (hintedHandlers settings))}
    (ok : (hintedApplication settings).Meets NoAbandon (hintedApplication settings).init events) :
    FailsByOwn events := by
  intro before event after whole workflow marks
  obtain ⟨id, answer, rfl, failing⟩ := marks.failing
  have fresh : ¬Failing id workflow (hintedApplication settings).init := by
    rintro ⟨run, held, found, -⟩
    cases found
  obtain ⟨earlier, met, between, rfl, absent, lasts⟩ := Machine.arises fresh failing
  have arisen := lasts.first
  rw [Machine.run_append] at arisen
  rw [whole] at ok
  have reached : Recoverable ((hintedApplication settings).run (hintedApplication settings).init
      earlier) :=
    (hintedApplication settings).run_holds (fun _ _ => recoverable_step) recoverable_init
      (Machine.Meets.append.mp (Machine.Meets.append.mp ok).1).1
  exact ⟨earlier, met, between, id, answer, rfl, rfl, failing_step reached absent arisen⟩

/-- In a run that abandons no active agent run and no calls of the model, every active agent run is in
the hands of a live run all along, so that a specialist is refused only because of another live run;
a run with calls behind it leaves them by a step of its own; and a workflow fails only by a run that
has met a failure itself. -/
theorem recovery_not_refused (settings : Settings)
    (events : List (WorldEvent (hintedHandlers settings)))
    (ok : (hintedApplication settings).Meets NoAbandon (hintedApplication settings).init events) :
    (hintedApplication settings).Always (fun w => NoOrphan w ∧ RefusedByLive w)
        (hintedApplication settings).init events ∧
      (hintedApplication settings).Steps CallsKept (hintedApplication settings).init events ∧
      FailsByOwn events := by
  refine ⟨?_, ?_, failsByOwn ok⟩
  · refine Machine.always_hold (I := Recoverable) ?_ ?_ recoverable_init ok
    · exact fun w event recoverable ok => recoverable_step recoverable ok
    · exact fun w recoverable => ⟨recoverable.orphan, recoverable.refusedByLive⟩
  · exact Machine.steps_hold (I := Recoverable)
      (fun w event recoverable ok => recoverable_step recoverable ok)
      (fun w event recoverable ok => calls_step recoverable ok) recoverable_init ok

/-- The worker dies and its job is leased again. -/
def takenUp : List (WorldEvent (hintedHandlers {})) :=
  [.crash "worker", .tick (seconds 60), .reclaim none [], .tick (seconds 5),
    .lease "worker" none [] 0]

/-- A worker dies between the run of one agent and that of the next. The next attempt reviews the
content, but the provider answers with something that is no output. -/
def takenUpRun : List (WorldEvent (hintedHandlers {})) :=
  draftedRun ++ takenUp ++ goesOn 1 10 ++
    [.process 1 (.error { errorClass := .llmResponse, message := "LLM response is invalid" })] ++
    goesOn 1 3

/-- The worker does no harm; the provider does. -/
theorem taken_up_run_recovers :
    (((hintedApplication {}).run (hintedApplication {}).init takenUpRun).resources.workflows.lookup
        1).map (fun row => (row.status, row.errorMessage)) =
          some (.failed, some "LLM response is invalid") ∧
      (hintedApplication {}).Always (fun w => NoOrphan w ∧ RefusedByLive w)
        (hintedApplication {}).init takenUpRun ∧
      (hintedApplication {}).Steps CallsKept (hintedApplication {}).init takenUpRun ∧
      FailsByOwn takenUpRun :=
  ⟨by decide +kernel, recovery_not_refused {} takenUpRun (by decide +kernel)⟩

/-- A worker dies while its agent is at work. -/
def orphaningRun : List (WorldEvent (hintedHandlers {})) :=
  draftedRun ++ goesOn 0 7 ++ takenUp ++ goesOn 1 6

/-- The next attempt is refused the specialist, and the workflow fails. -/
theorem orphan_refuses_recovery :
    ¬ (hintedApplication {}).Always RefusedByLive (hintedApplication {}).init orphaningRun ∧
      (((hintedApplication {}).run (hintedApplication {}).init
        (orphaningRun ++ goesOn 1 3)).resources.workflows.lookup 1).map (fun row =>
          (row.status, row.errorMessage)) = some (.failed, some "Workflow execution failed") := by
  constructor
  · intro always
    have last := Machine.always_iff_prefix.mp always orphaningRun (List.prefix_refl _)
    have refused : ((((hintedApplication {}).run (hintedApplication {}).init
        orphaningRun).runs.lookup 1).map fun run => (hintedOf run,
          ((hintedApplication {}).run (hintedApplication {}).init
            orphaningRun).resources.findActive (workflowId run) .contentReviewer)) =
        some (some
          { stage := .createRun
              { agentName := .contentReviewer
                briefAnalysis := some "analysis"
                generatedContent := some "content" } }, true) := by
      decide +kernel
    have alone : ((hintedApplication {}).run (hintedApplication {}).init
        orphaningRun).runs.entries.all (fun entry => (heldRun entry.2).isNone) = true := by
      decide +kernel
    generalize (hintedApplication {}).run (hintedApplication {}).init orphaningRun = w at *
    obtain ⟨run, found, facts⟩ := Option.map_eq_some_iff.mp refused
    obtain ⟨stands, active⟩ := Prod.mk.inj facts
    obtain ⟨id', run', agentRunId, agentRun, -, found', held, -⟩ :=
      last 1 run _ _ found stands rfl active
    have none_ := List.all_eq_true.mp alone ⟨id', run'⟩ (AList.mem_lookup_iff.mp found')
    rw [held] at none_
    cases none_
  · decide +kernel

end CyberLegends.Workflow
