import CyberLegends.Workflow.Changes

/-! The handler of a workflow job with the read that each of its transactions on a workflow begins
with. The workflow is first read without a lock, to learn its campaign; what is committed under the
locks afterwards starts from that reading, which other transactions may have overtaken. -/

namespace CyberLegends.Workflow

open CyberLegends.Core Lib Jobs

/-- Where the handler stands: the next transaction, and the workflow as that transaction has read it
before it locks its rows. -/
structure HintedStage where
  stage : Stage
  hint : Option WorkflowRunModel := none
  deriving DecidableEq, Repr

/-- The stage that an outcome leads to reads anew. -/
def unhinted : Outcome Stage → Outcome HintedStage
  | .continues stage => .continues { stage }
  | .returns => .returns
  | .raises error => .raises error

theorem unhinted_continues {outcome : Outcome Stage} {held : HintedStage}
    (h : unhinted outcome = .continues held) : outcome = .continues held.stage := by
  cases outcome with
  | continues stage =>
    cases h
    rfl
  | returns | raises => cases h

/-! ### Locked transactions -/

/-- What a transaction that locks both rows assigns to them, and nothing when it rolls back; only
these stages lock rows. -/
def Stage.locked (settings : Settings) (now : Timestamp) :
    Stage → Option (LockedPair → Except WorkflowError (Option LockedPair))
  | transition expectedStatus =>
    (checkpointAfter expectedStatus).map fun rule pair =>
      (pair.transitionCheckpoint expectedStatus rule.1 rule.2).map some
  | agentLoop .. => some fun pair => (pair.recordLlmCall settings).map some
  | save _ output => some fun pair => (output.save settings pair).map some
  | persistFailure error =>
    some fun pair =>
      .ok (pair.persistFailure (error.errorClass.errorCode.getD "") error.message now)
  | _ => none

/-- What a locked transaction leads to. -/
def Stage.afterLocked : Stage → Outcome Stage
  | agentLoop agentRunId context => .continues (.agentTurn agentRunId context)
  | save _ output =>
    .continues (if output.author = .contentReviewer then .recordMemory else .readWorkflow)
  | persistFailure error => .raises error.toHandlerError
  | _ => .continues .readWorkflow

namespace WorkflowStore

variable (store : WorkflowStore) (workflowId : WorkflowId)

/-- The rows once both are locked: the campaign that the hint names, and the workflow as the hint
has read it, for a locking read does not refresh a row that the session has loaded. -/
def lockHinted (hint : WorkflowRunModel) : Except RaisedError LockedPair :=
  match store.campaigns.lookup hint.campaignId with
  | none => .error campaignNotFound
  | some campaign =>
    if workflowId ∈ store.workflows then .ok { workflow := hint, campaign }
    else .error workflowNotFound

/-- The commit of what was assigned to the rows that the transaction saw. -/
def commitHinted (seen : LockedPair) : Option LockedPair → WorkflowStore
  | none => store
  | some assigned =>
    { store with
      toDatabase := store.flushPair workflowId seen.workflow.campaignId seen assigned }

end WorkflowStore

/-! ### The handler -/

section

variable (settings : Settings) (now : Timestamp) (workerId : String) (job : LeasedJob)
  (jobs : JobStore)

/-- The next transaction when nothing outside it fails: a stage that locks rows first reads the
workflow, and another is performed at once. -/
def HintedStage.perform (workflowId : WorkflowId) (answer : Answer) (store : WorkflowStore)
    (held : HintedStage) : Except RaisedError (WorkflowStore × Outcome HintedStage) :=
  match held.stage.locked settings now, held.hint with
  | none, _ =>
    (held.stage.perform settings now workerId job jobs workflowId answer store).map
      fun performed => (performed.1, unhinted performed.2)
  | some _, none =>
    match store.workflows.lookup workflowId with
    | none => .error WorkflowStore.workflowNotFound
    | some hint => .ok (store, .continues { held with hint := some hint })
  | some assign, some hint => do
    let pair ← store.lockHinted workflowId hint
    let assigned ← (assign pair).mapError RaisedError.ofWorkflowError
    return (store.commitHinted workflowId pair assigned, unhinted held.stage.afterLocked)

/-- One step of the handler of a workflow job. -/
def HintedStage.handle (workflowId : WorkflowId) (answer : Answer) (store : WorkflowStore)
    (held : HintedStage) : WorkflowStore × Outcome HintedStage :=
  match answer with
  | .error error => (store, unhinted (held.stage.fails error))
  | answer =>
    match held.perform settings now workerId job jobs workflowId answer store with
    | .ok performed => performed
    | .error error => (store, unhinted (held.stage.fails error))

end

/-! ### The system -/

/-- The requests that enqueue a job. A delivery of the integration creates its campaign and its
workflow in the same transaction. -/
inductive HintedSubmission
  | runWorkflow (workflowId : WorkflowId)
  | acceptCampaign (campaignId : CampaignId) (payload : WorkflowStore.CampaignCreate)
      (workflowId : WorkflowId)
  | other (payload : JobPayload)
  deriving DecidableEq, Repr

def acceptCampaign (campaignId : CampaignId) (payload : WorkflowStore.CampaignCreate)
    (workflowId : WorkflowId) (store : WorkflowStore) : Option WorkflowStore := do
  let store ← store.createCampaign campaignId payload
  store.insertWorkflow workflowId { campaignId }

def submitHinted (submission : HintedSubmission) (store : WorkflowStore) :
    Option (JobPayload × (JobId → WorkflowStore)) :=
  match submission with
  | .runWorkflow workflowId => submit (.runWorkflow workflowId) store
  | .acceptCampaign campaignId payload workflowId =>
    (acceptCampaign campaignId payload workflowId store).map fun accepted =>
      (.workflowRun workflowId, fun _ => accepted)
  | .other payload => submit (.other payload) store

/-- The handlers of the workers, with the reads of the workflow jobs as steps of their own. -/
def hintedHandlers (settings : Settings) : HandlerSystem where
  Resources := WorkflowStore
  Handler := HintedStage
  Answer := Answer
  Read := Unit
  Submission := HintedSubmission
  Request := Request
  start job := { stage := if (workflowOf job.payload).isSome then .checkpoint else .other false }
  handle now workerId job answer jobs store held :=
    held.handle settings now workerId job jobs ((workflowOf job.payload).getD 0) answer store
  interrupted held := held.stage.interrupted.map fun stage => { stage }
  ensureRead _ _ := ()
  ensureSuccessConsistency _ store _ _ := (store, .ok false)
  reconcileRead _ _ := ()
  reconcile _ store _ _ _ _ _ := store
  prepareRetryRead _ _ := ()
  prepareRetry store _ _ := store
  submit _ := submitHinted
  request now asked store := (request now asked store).map fun store => (store, none)

/-- The workers and the services on workflows, from empty tables. -/
abbrev hintedApplication (settings : Settings) :
    Machine (World (hintedHandlers settings)) (WorldEvent (hintedHandlers settings)) :=
  workerMachine settings ({} : WorkflowStore)

variable {settings : Settings}

/-! ### Hints that nobody has overtaken -/

section

variable {store : WorkflowStore} {workflowId : WorkflowId} {hint : WorkflowRunModel}

theorem lockHinted_ok {pair : LockedPair} :
    store.lockHinted workflowId hint = .ok pair ↔
      pair.workflow = hint ∧ store.campaigns.lookup hint.campaignId = some pair.campaign ∧
        workflowId ∈ store.workflows := by
  unfold WorkflowStore.lockHinted
  cases held : store.campaigns.lookup hint.campaignId with
  | none => simp
  | some campaign =>
    by_cases there : workflowId ∈ store.workflows
    · simp only [there, if_true, Except.ok.injEq, Option.some.injEq, and_true]
      constructor
      · rintro rfl
        exact ⟨rfl, rfl⟩
      · rintro ⟨rfl, rfl⟩
        rfl
    · simp [there]

/-- The rows that the transaction sees are those of a session that has loaded the hint alone. -/
theorem lockHinted_session {pair : LockedPair} :
    store.lockHinted workflowId hint = .ok pair ↔
      ({ workflows := (∅ : Table WorkflowId WorkflowRunModel).insert workflowId hint } :
        WorkflowSession).lockedPair store.toDatabase workflowId hint.campaignId = some pair := by
  rw [lockHinted_ok]
  unfold WorkflowSession.lockedPair Table.getForUpdate
  rw [AList.lookup_insert]
  obtain ⟨workflow, campaign⟩ := pair
  cases held : store.campaigns.lookup hint.campaignId with
  | none => simp
  | some committed =>
    cases row : store.workflows.lookup workflowId with
    | none =>
      have absent : workflowId ∉ store.workflows := AList.lookup_eq_none.mp row
      simp [absent]
    | some current =>
      have there : workflowId ∈ store.workflows := AList.lookup_isSome.mp (by rw [row]; rfl)
      simp [there, eq_comm, and_comm]

/-- The store once a transaction that has read the hint commits what it assigned. -/
def WorkflowStore.writeHinted (store : WorkflowStore) (workflowId : WorkflowId)
    (hint committed : WorkflowRunModel) (assigned : LockedPair) : WorkflowStore :=
  { store with
    workflows := store.workflows.insert workflowId (hint.flush assigned.workflow committed)
    campaigns := store.campaigns.insert hint.campaignId assigned.campaign }

theorem CampaignModel.flush_self (loaded assigned : CampaignModel) :
    loaded.flush assigned loaded = assigned := by
  simp [CampaignModel.flush]

theorem WorkflowRunModel.flush_self (loaded assigned : WorkflowRunModel) :
    loaded.flush assigned loaded = assigned := by
  simp [WorkflowRunModel.flush]

theorem commitHinted_some {committed : WorkflowRunModel} {campaign : CampaignModel}
    {assigned : LockedPair} (row : store.workflows.lookup workflowId = some committed)
    (campaignRow : store.campaigns.lookup hint.campaignId = some campaign) :
    store.commitHinted workflowId ⟨hint, campaign⟩ (some assigned) =
      store.writeHinted workflowId hint committed assigned := by
  simp only [WorkflowStore.commitHinted, WorkflowStore.writeHinted, Database.flushPair, row,
    campaignRow, CampaignModel.flush_self]

/-- What a transaction writes whose hint is still the committed row is what one on the committed rows
writes. -/
theorem writeHinted_fresh {assigned : LockedPair}
    (campaignId : assigned.workflow.campaignId = hint.campaignId) :
    store.writeHinted workflowId hint hint assigned = store.setPair workflowId assigned := by
  unfold WorkflowStore.writeHinted WorkflowStore.setPair
  rw [WorkflowRunModel.flush_self, campaignId]

end

/-! ### The steps of the handler -/

/-- What a locked transaction assigns to the pair that it sees. -/
inductive Assigns (settings : Settings) (now : Timestamp) (pair : LockedPair) :
    Stage → LockedPair → Prop
  | transitioned {expectedStatus nextStatus nextStep}
      (rule : checkpointAfter expectedStatus = some (nextStatus, nextStep))
      (expected : pair.workflow.status = expectedStatus)
      (valid : nextStatus ∈ allowedTransitions expectedStatus) :
      Assigns settings now pair (.transition expectedStatus) (pair.setStatus nextStatus nextStep)
  | counted {agentRunId context pair'} (counted : pair.recordLlmCall settings = .ok pair') :
      Assigns settings now pair (.agentLoop agentRunId context) pair'
  | saved {context output pair'} (saved : output.save settings pair = .ok pair') :
      Assigns settings now pair (.save context output) pair'
  | failed {error pair'}
      (failed : pair.persistFailure (error.errorClass.errorCode.getD "") error.message now =
        some pair') :
      Assigns settings now pair (.persistFailure error) pair'

theorem Assigns.locks {now : Timestamp} {pair pair' : LockedPair} {stage : Stage}
    (assigns : Assigns settings now pair stage pair') : (stage.locked settings now).isSome := by
  cases assigns with
  | transitioned rule => simp [Stage.locked, rule]
  | counted | saved | failed => rfl

/-- One step of the handler: what it commits and what it leads to. -/
inductive HintedStep (settings : Settings) (now : Timestamp) (workerId : String) (job : LeasedJob)
    (jobs : JobStore) (workflowId : WorkflowId) (answer : Answer) (store : WorkflowStore) :
    HintedStage → WorkflowStore → Outcome HintedStage → Prop
  | failed {held error} (met : answer = .error error ∨ answer.isError = false ∧
        held.perform settings now workerId job jobs workflowId answer store = .error error) :
      HintedStep settings now workerId job jobs workflowId answer store held store
        (unhinted (held.stage.fails error))
  | plain {stage hint store' outcome} (goesOn : answer.isError = false)
      (free : stage.locked settings now = none)
      (performed : stage.perform settings now workerId job jobs workflowId answer store =
        .ok (store', outcome))
      (step : StageStep settings now workerId job jobs workflowId answer store stage store'
        outcome) :
      HintedStep settings now workerId job jobs workflowId answer store { stage, hint } store'
        (unhinted outcome)
  | hinted {stage} (goesOn : answer.isError = false)
      (locks : (stage.locked settings now).isSome)
      (there : workflowId ∈ store.workflows) :
      HintedStep settings now workerId job jobs workflowId answer store { stage } store
        (.continues { stage, hint := store.workflows.lookup workflowId })
  | written {stage hint committed campaign assigned} (goesOn : answer.isError = false)
      (row : store.workflows.lookup workflowId = some committed)
      (campaignRow : store.campaigns.lookup hint.campaignId = some campaign)
      (assigns : Assigns settings now ⟨hint, campaign⟩ stage assigned) :
      HintedStep settings now workerId job jobs workflowId answer store
        { stage, hint := some hint } (store.writeHinted workflowId hint committed assigned)
        (unhinted stage.afterLocked)
  /-- A failure that the hint does not admit is not recorded. -/
  | refused {error hint} (goesOn : answer.isError = false)
      (refused : LockedPair.failable hint.status = false) :
      HintedStep settings now workerId job jobs workflowId answer store
        { stage := .persistFailure error, hint := some hint } store
        (.raises error.toHandlerError)

/-- What a locked transaction assigns, or that it rolls back without an error. -/
theorem locked_ok {now : Timestamp} {stage : Stage} {pair : LockedPair}
    {assign : LockedPair → Except WorkflowError (Option LockedPair)} {result : Option LockedPair}
    (locks : stage.locked settings now = some assign) (assigned : assign pair = .ok result) :
    (∃ pair', result = some pair' ∧ Assigns settings now pair stage pair') ∨
      result = none ∧ ∃ error, stage = .persistFailure error ∧
        LockedPair.failable pair.workflow.status = false := by
  have saves : ∀ {saved : Except WorkflowError LockedPair}, saved.map some = .ok result →
      ∃ pair', result = some pair' ∧ saved = .ok pair' := by
    intro saved mapped
    cases saved with
    | error error => cases mapped
    | ok pair' =>
      cases mapped
      exact ⟨pair', rfl, rfl⟩
  cases stage with
  | transition expectedStatus =>
    obtain ⟨⟨nextStatus, nextStep⟩, rule, rfl⟩ := Option.map_eq_some_iff.mp locks
    obtain ⟨pair', rfl, moved⟩ := saves assigned
    obtain ⟨expected, valid, rfl⟩ := LockedPair.transitionCheckpoint_ok.mp moved
    exact .inl ⟨_, rfl, .transitioned rule expected valid⟩
  | agentLoop agentRunId context =>
    cases locks
    obtain ⟨pair', rfl, counted⟩ := saves assigned
    exact .inl ⟨pair', rfl, .counted counted⟩
  | save context output =>
    cases locks
    obtain ⟨pair', rfl, saved⟩ := saves assigned
    exact .inl ⟨pair', rfl, .saved saved⟩
  | persistFailure error =>
    cases locks
    cases assigned
    cases failed : pair.persistFailure (error.errorClass.errorCode.getD "") error.message now with
    | some pair' => exact .inl ⟨pair', rfl, .failed failed⟩
    | none =>
      refine .inr ⟨rfl, error, rfl, ?_⟩
      by_contra admitted
      rw [LockedPair.persistFailure_eq.mpr ⟨by simpa using admitted, rfl⟩] at failed
      cases failed
  | _ => cases locks

theorem hinted_step (now : Timestamp) (workerId : String) (job : LeasedJob) (jobs : JobStore)
    (workflowId : WorkflowId) (answer : Answer) (store : WorkflowStore) (held : HintedStage) :
    HintedStep settings now workerId job jobs workflowId answer store held
      (held.handle settings now workerId job jobs workflowId answer store).1
      (held.handle settings now workerId job jobs workflowId answer store).2 := by
  obtain ⟨stage, hint⟩ := held
  have performs : answer.isError = false → ∀ performed,
      HintedStage.perform settings now workerId job jobs workflowId answer store
        { stage, hint } = .ok performed →
      HintedStep settings now workerId job jobs workflowId answer store { stage, hint }
        performed.1 performed.2 := by
    intro goesOn performed done
    unfold HintedStage.perform at done
    split at done
    · rename_i free
      cases result : stage.perform settings now workerId job jobs workflowId answer store with
      | error error =>
        rw [result] at done
        cases done
      | ok plain =>
        rw [result] at done
        cases done
        exact .plain goesOn free result (perform_step now workerId job jobs workflowId answer store
          goesOn stage plain result)
    · rename_i locks unread
      split at done
      · cases done
      · rename_i row
        cases done
        cases unread
        rw [← row]
        exact .hinted goesOn (by rw [locks]; rfl) (AList.lookup_isSome.mp (by rw [row]; rfl))
    · rename_i assign hint' locks read
      cases read
      obtain ⟨⟨workflow, campaign⟩, locked, done⟩ := bind_eq_ok.mp done
      obtain ⟨result, assigned, done⟩ := bind_eq_ok.mp done
      cases done
      obtain ⟨rfl, campaignRow, there⟩ := lockHinted_ok.mp locked
      obtain ⟨committed, row⟩ := Option.isSome_iff_exists.mp (AList.lookup_isSome.mpr there)
      have assigned : assign ⟨workflow, campaign⟩ = .ok result := by
        cases same : assign ⟨workflow, campaign⟩ with
        | error error =>
          rw [same] at assigned
          cases assigned
        | ok other =>
          rw [same] at assigned
          cases assigned
          rfl
      rcases locked_ok locks assigned with ⟨pair', rfl, assigns⟩ | ⟨rfl, error, rfl, refused⟩
      · rw [commitHinted_some row campaignRow]
        exact .written goesOn row campaignRow assigns
      · exact .refused goesOn refused
  cases answer with
  | error error => exact .failed (.inl rfl)
  | proceed | final =>
    unfold HintedStage.handle
    dsimp only
    split
    · rename_i performed done
      exact performs rfl performed done
    · rename_i refused
      exact .failed (.inr ⟨rfl, refused⟩)

/-! ### The writes of an event -/

/-- Where the handler of a run stands. -/
def hintedOf (run : ProcessRun (hintedHandlers settings)) : Option HintedStage :=
  match run.phase with
  | .handling held => some held
  | _ => none

theorem hintedOf_eq {run : ProcessRun (hintedHandlers settings)} {held : HintedStage} :
    hintedOf run = some held ↔ run.phase = .handling held := by
  unfold hintedOf
  cases run.phase with
  | handling other =>
    constructor
    · intro same
      cases same
      rfl
    · intro same
      cases same
      rfl
  | _ => simp

variable {w : World (hintedHandlers settings)} {event : WorldEvent (hintedHandlers settings)}

/-- The step behind a handler that goes on. -/
theorem hinted_stepped {run : ProcessRun (hintedHandlers settings)} {answer : Answer}
    {held held' : HintedStage}
    (outcome : ((hintedHandlers settings).handle w.now run.workerId run.job answer w.jobs
      w.resources held).2 = .continues held') :
    HintedStep settings w.now run.workerId run.job w.jobs (workflowId run) answer w.resources held
      ((hintedHandlers settings).handle w.now run.workerId run.job answer w.jobs w.resources held).1
      (.continues held') := by
  have step := @hinted_step settings w.now run.workerId run.job w.jobs (workflowId run) answer
    w.resources held
  have continues : (held.handle settings w.now run.workerId run.job w.jobs (workflowId run) answer
    w.resources).2 = .continues held' := outcome
  rw [continues] at step
  exact step

theorem acceptCampaign_some {store store' : WorkflowStore} {campaignId : CampaignId}
    {payload : WorkflowStore.CampaignCreate} {workflowId : WorkflowId}
    (accepted : acceptCampaign campaignId payload workflowId store = some store') :
    ∃ campaign : CampaignModel, campaignId ∉ store.campaigns ∧ workflowId ∉ store.workflows ∧
      campaign.status = .received ∧
      store' = { store with
        campaigns := store.campaigns.insert campaignId campaign
        workflows := store.workflows.insert workflowId { campaignId } } := by
  obtain ⟨middle, created, inserted⟩ := Option.bind_eq_some_iff.mp accepted
  unfold WorkflowStore.createCampaign at created
  split at created
  · cases created
  · rename_i fresh
    cases created
    unfold WorkflowStore.insertWorkflow at inserted
    split at inserted
    · cases inserted
    · rename_i unused
      cases inserted
      exact ⟨_, fresh, unused, rfl, rfl⟩

/-- The rows alone, for the requests, which lock them at once. -/
def rowsOf (w : World (hintedHandlers settings)) : World (workflowHandlers settings) where
  now := w.now
  resources := w.resources

/-- What an event writes to the store. The requests act on the rows as they are committed. -/
inductive HintedChange (w : World (hintedHandlers settings)) :
    WorldEvent (hintedHandlers settings) → WorkflowStore → Prop
  | quiet (event : WorldEvent (hintedHandlers settings)) {agentRuns nextAgentRun} :
      HintedChange w event { w.resources with agentRuns, nextAgentRun }
  | requested {asked store}
      (change : StoreChange (rowsOf w) (.request asked) store) :
      HintedChange w (.request asked) store
  | accepted {event campaignId payload workflowId store}
      (accepted : acceptCampaign campaignId payload workflowId w.resources = some store) :
      HintedChange w event store
  | written {id answer run stage hint committed campaign assigned}
      (found : w.runs.lookup id = some run)
      (held : hintedOf run = some { stage, hint := some hint })
      (goesOn : Answer.isError answer = false)
      (row : w.resources.workflows.lookup (workflowId run) = some committed)
      (campaignRow : w.resources.campaigns.lookup hint.campaignId = some campaign)
      (assigns : Assigns settings w.now ⟨hint, campaign⟩ stage assigned) :
      HintedChange w (.process id answer)
        (w.resources.writeHinted (workflowId run) hint committed assigned)

/-- A stage that locks no rows writes the runs of agents alone. -/
theorem plain_store {now : Timestamp} {workerId : String} {job : LeasedJob} {jobs : JobStore}
    {workflowId : WorkflowId} {answer : Answer} {store store' : WorkflowStore} {stage : Stage}
    {outcome : Outcome Stage} (free : stage.locked settings now = none)
    (step : StageStep settings now workerId job jobs workflowId answer store stage store' outcome) :
    store' = { store with agentRuns := store'.agentRuns, nextAgentRun := store'.nextAgentRun } := by
  cases step with
  | transitioned _ rule =>
    simp only [Stage.locked, rule] at free
    cases free
  | turned | saved | persisted => cases free
  | _ => rfl

theorem submitHinted_write {submission : HintedSubmission} {store : WorkflowStore}
    {payload : JobPayload} {write : JobId → WorkflowStore}
    (accepted : submitHinted submission store = some (payload, write)) (jobId : JobId) :
    write jobId = store ∨ ∃ campaignId payload workflowId,
      acceptCampaign campaignId payload workflowId store = some (write jobId) := by
  cases submission with
  | runWorkflow workflowId =>
    simp only [submitHinted, submit] at accepted
    split at accepted
    · cases accepted
      exact .inl rfl
    · cases accepted
  | acceptCampaign campaignId payload workflowId =>
    obtain ⟨accepted, created, same⟩ := Option.map_eq_some_iff.mp accepted
    cases same
    exact .inr ⟨campaignId, payload, workflowId, created⟩
  | other payload =>
    simp only [submitHinted, submit] at accepted
    split at accepted
    · cases accepted
    · cases accepted
      exact .inl rfl

theorem step_hinted (w : World (hintedHandlers settings))
    (event : WorldEvent (hintedHandlers settings)) :
    HintedChange w event (w.step settings event).resources := by
  have change := @step_resources _ settings w event
  generalize (w.step settings event).resources = store at change ⊢
  cases change with
  | same | ensured | reconciled | cancelled | prepared => exact .quiet _
  | submitted jobId' accepted =>
    rename_i write
    rcases submitHinted_write accepted jobId' with same | ⟨campaignId, payload, workflowId, created⟩
    · rw [same]
      exact .quiet _
    · exact .accepted created
  | requested accepted =>
    rename_i asked _
    obtain ⟨store', stored, result⟩ : ∃ store', request w.now asked w.resources = some store' ∧
      (store', none) = (store, _) := Option.map_eq_some_iff.mp accepted
    cases result
    exact .requested (@requested_store settings (rowsOf w) _ asked store stored)
  | handled found phase =>
    rename_i id answer run held
    have step := @hinted_step settings w.now run.workerId run.job w.jobs (workflowId run) answer
      w.resources held
    have isHeld := hintedOf_eq.mpr phase
    have handled : (hintedHandlers settings).handle w.now run.workerId run.job answer w.jobs
        w.resources held = held.handle settings w.now run.workerId run.job w.jobs (workflowId run)
          answer w.resources := rfl
    rw [handled]
    generalize held.handle settings w.now run.workerId run.job w.jobs (workflowId run)
      answer w.resources = result at step ⊢
    obtain ⟨store, outcome⟩ := result
    cases step with
    | failed | hinted | refused => exact .quiet _
    | plain _ free _ step =>
      rw [plain_store free step]
      exact .quiet _
    | written goesOn row campaignRow assigns =>
      exact .written found isHeld goesOn row campaignRow assigns

end CyberLegends.Workflow
