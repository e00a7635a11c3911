import CyberLegends.Jobs.Events
import CyberLegends.Workflow.Pairs

/-! The steps of the handler of a workflow job, case by case, and what an event of the application
writes to the tables of campaigns, workflows and agent runs. -/

namespace CyberLegends.Workflow

open CyberLegends.Core Lib Jobs

variable {settings : Settings}

/-! ### Stores -/

namespace WorkflowStore

variable {store : WorkflowStore} {workflowId : WorkflowId}

theorem pair_eq_some {pair : LockedPair} :
    store.pair workflowId = some pair ↔
      store.workflows.lookup workflowId = some pair.workflow ∧
        store.campaigns.lookup pair.workflow.campaignId = some pair.campaign := by
  unfold Database.pair
  cases row : store.workflows.lookup workflowId with
  | none => simp
  | some workflow =>
    cases held : store.campaigns.lookup workflow.campaignId with
    | none =>
      simp only [Option.bind_eq_bind, Option.bind_some, held, Option.bind_none, reduceCtorEq,
        Option.some.injEq, false_iff, not_and]
      rintro rfl
      rw [held]
      simp
    | some campaign =>
      simp only [Option.bind_eq_bind, Option.bind_some, held, Option.pure_def,
        Option.some.injEq]
      constructor
      · rintro rfl
        exact ⟨rfl, held⟩
      · rintro ⟨rfl, other⟩
        rw [held] at other
        cases other
        rfl

theorem loadPair_ok {pair : LockedPair} :
    store.loadPair workflowId = .ok pair ↔ store.pair workflowId = some pair := by
  rw [pair_eq_some]
  unfold loadPair
  cases row : store.workflows.lookup workflowId with
  | none => simp
  | some workflow =>
    simp only [Option.some.injEq]
    cases held : store.campaigns.lookup workflow.campaignId with
    | none =>
      simp only [reduceCtorEq, false_iff, not_and]
      rintro rfl
      rw [held]
      simp
    | some campaign =>
      simp only [Except.ok.injEq]
      constructor
      · rintro rfl
        exact ⟨rfl, held⟩
      · rintro ⟨rfl, other⟩
        rw [held] at other
        cases other
        rfl

theorem update_ok {store' : WorkflowStore}
    {assign : LockedPair → Except WorkflowError LockedPair} :
    store.update workflowId assign = .ok store' ↔
      ∃ pair pair', store.pair workflowId = some pair ∧ assign pair = .ok pair' ∧
        store' = store.setPair workflowId pair' := by
  constructor
  · intro updated
    unfold update at updated
    split at updated
    · cases updated
    · rename_i pair loaded
      split at updated
      · cases updated
      · rename_i pair' assigned
        cases updated
        exact ⟨pair, pair', loadPair_ok.mp loaded, assigned, rfl⟩
  · rintro ⟨pair, pair', held, assigned, rfl⟩
    unfold update
    simp only [loadPair_ok.mpr held, assigned]

theorem moveRun_some {agentRunId : Uuid} {sources : List AgentRunStatus} {status : AgentRunStatus}
    {store' : WorkflowStore} :
    store.moveRun agentRunId sources status = some store' ↔
      ∃ run, store.agentRuns.lookup agentRunId = some run ∧ run.status ∈ sources ∧
        store' = store.setAgentRun agentRunId { run with status } := by
  unfold moveRun
  cases row : store.agentRuns.lookup agentRunId with
  | none => simp
  | some run =>
    by_cases allowed : run.status ∈ sources
    · simp [allowed, eq_comm]
    · simp [allowed]

end WorkflowStore

theorem setPair_self {store : WorkflowStore} {id : WorkflowId} {pair' : LockedPair} :
    (store.setPair id pair').pair id = some pair' :=
  WorkflowStore.pair_eq_some.mpr ⟨AList.lookup_insert _, AList.lookup_insert _⟩

/-! ### The steps of the handler -/

/-- Whether something outside the transaction fails. -/
def Answer.isError : Answer → Bool
  | .error _ => true
  | _ => false

/-- One step of the handler at a stage: what it commits and what it leads to. -/
inductive StageStep (settings : Settings) (now : Timestamp) (workerId : String) (job : LeasedJob)
    (jobs : JobStore) (workflowId : WorkflowId) (answer : Answer) (store : WorkflowStore) :
    Stage → WorkflowStore → Outcome Stage → Prop
  | failed (stage : Stage) (error : RaisedError) :
      StageStep settings now workerId job jobs workflowId answer store stage store
        (stage.fails error)
  | checked :
      StageStep settings now workerId job jobs workflowId answer store .checkpoint store
        (jobCheckpoint workerId job jobs (.continues .getWorkflow))
  | got {workflow} (row : store.workflows.lookup workflowId = some workflow) :
      StageStep settings now workerId job jobs workflowId answer store .getWorkflow store
        (if handlerReturns workflow.status then .returns else .continues .readWorkflow)
  | read {workflow} (row : store.workflows.lookup workflowId = some workflow) :
      StageStep settings now workerId job jobs workflowId answer store .readWorkflow store
        (.continues (.readCampaign workflow))
  | snapshot {workflow campaign} (row : store.campaigns.lookup workflow.campaignId = some campaign) :
      StageStep settings now workerId job jobs workflowId answer store (.readCampaign workflow) store
        (nextStage workflow.status campaign)
  | transitioned {expectedStatus nextStatus nextStep pair}
      (goesOn : answer.isError = false)
      (rule : checkpointAfter expectedStatus = some (nextStatus, nextStep))
      (held : store.pair workflowId = some pair) (expected : pair.workflow.status = expectedStatus)
      (valid : nextStatus ∈ allowedTransitions expectedStatus) :
      StageStep settings now workerId job jobs workflowId answer store (.transition expectedStatus)
        (store.setPair workflowId (pair.setStatus nextStatus nextStep)) (.continues .readWorkflow)
  | built {agentName pair context} (held : store.pair workflowId = some pair)
      (built : buildContext agentName pair.campaign = .ok context) :
      StageStep settings now workerId job jobs workflowId answer store (.buildContext agentName) store
        (.continues (.createRun context))
  | created {context} (goesOn : answer.isError = false)
      (free : store.findActive workflowId context.agentName = false) :
      StageStep settings now workerId job jobs workflowId answer store (.createRun context)
        { store.setAgentRun store.nextAgentRun { workflowId, agentName := context.agentName } with
          nextAgentRun := store.nextAgentRun + 1 }
        (.continues (.startRun store.nextAgentRun context))
  | started {agentRunId context run} (row : store.agentRuns.lookup agentRunId = some run)
      (source : run.status = .created) :
      StageStep settings now workerId job jobs workflowId answer store
        (.startRun agentRunId context)
        (store.setAgentRun agentRunId { run with status := .running })
        (.continues (.agentLoop agentRunId context))
  | answered {agentRunId context output} (author : output.author = context.agentName) :
      StageStep settings now workerId job jobs workflowId answer store
        (.agentTurn agentRunId context) store
        (.continues (.completeRun agentRunId context output))
  | continued {agentRunId context} :
      StageStep settings now workerId job jobs workflowId answer store
        (.agentTurn agentRunId context) store (.continues (.agentLoop agentRunId context))
  | turned {agentRunId context pair pair'} (held : store.pair workflowId = some pair)
      (counted : pair.recordLlmCall settings = .ok pair') :
      StageStep settings now workerId job jobs workflowId answer store
        (.agentLoop agentRunId context) (store.setPair workflowId pair')
        (.continues (.agentTurn agentRunId context))
  | completed {agentRunId context output run} (row : store.agentRuns.lookup agentRunId = some run)
      (source : run.status = .running) :
      StageStep settings now workerId job jobs workflowId answer store
        (.completeRun agentRunId context output)
        (store.setAgentRun agentRunId { run with status := .completed })
        (.continues (.save context output))
  | saved {context output pair pair'} (goesOn : answer.isError = false)
      (held : store.pair workflowId = some pair) (saved : output.save settings pair = .ok pair') :
      StageStep settings now workerId job jobs workflowId answer store (.save context output)
        (store.setPair workflowId pair')
        (.continues (if output.author = .contentReviewer then .recordMemory else .readWorkflow))
  | remembered :
      StageStep settings now workerId job jobs workflowId answer store .recordMemory store
        (.continues .readWorkflow)
  | recorded {agentRunId limit error run} (row : store.agentRuns.lookup agentRunId = some run)
      (source : run.active = true) :
      StageStep settings now workerId job jobs workflowId answer store
        (.failRun agentRunId limit error)
        (store.setAgentRun agentRunId
          { run with status := if limit then .limitExceeded else .failed })
        (match error with
          | none => .raises .cancelledError
          | some error => handleError error)
  | persisted {error} (goesOn : answer.isError = false) :
      StageStep settings now workerId job jobs workflowId answer store (.persistFailure error)
        (store.persistFailure workflowId error now) (.raises error.toHandlerError)
  | other {checked} :
      StageStep settings now workerId job jobs workflowId answer store (.other checked) store
        (if checked then .returns else jobCheckpoint workerId job jobs (.continues (.other true)))

/-- An error that does not end the handler is persisted next. -/
theorem handleError_continues {error : RaisedError} {stage : Stage}
    (h : handleError error = .continues stage) : ∃ raised, stage = .persistFailure raised := by
  unfold handleError at h
  split at h
  · cases h
  · split at h
    · cases h
      exact ⟨_, rfl⟩
    · cases h
      exact ⟨_, rfl⟩

/-- The loop goes on with a checkpoint or with an agent. -/
theorem nextStage_continues {status : CampaignStatus} {campaign : CampaignModel} {stage : Stage}
    (h : nextStage status campaign = .continues stage) :
    (∃ expectedStatus, stage = .transition expectedStatus) ∨
      ∃ agentName, stage = .buildContext agentName := by
  unfold nextStage at h
  split at h
  · cases h
  · split at h
    · cases h
      exact .inr ⟨_, rfl⟩
    · cases h
      split
      · exact .inl ⟨_, rfl⟩
      · exact .inr ⟨_, rfl⟩
    · cases h
      split
      · exact .inl ⟨_, rfl⟩
      · exact .inr ⟨_, rfl⟩
    · cases h
      exact .inl ⟨_, rfl⟩

section

variable (now : Timestamp) (workerId : String) (job : LeasedJob) (jobs : JobStore)
  (workflowId : WorkflowId) (answer : Answer) (store : WorkflowStore)

/-- A stage performs one of the steps, or ends with an error and commits nothing. -/
theorem perform_step (goesOn : answer.isError = false) (stage : Stage)
    (performed : WorkflowStore × Outcome Stage)
    (done : stage.perform settings now workerId job jobs workflowId answer store = .ok performed) :
    StageStep settings now workerId job jobs workflowId answer store stage performed.1
      performed.2 := by
  cases stage with
  | checkpoint => cases done; exact .checked
  | getWorkflow =>
    simp only [Stage.perform] at done
    split at done
    · cases done
    · rename_i row
      cases done
      exact .got row
  | readWorkflow =>
    simp only [Stage.perform] at done
    split at done
    · cases done
    · rename_i row
      cases done
      exact .read row
  | readCampaign workflow =>
    simp only [Stage.perform] at done
    split at done
    · cases done
    · rename_i row
      cases done
      exact .snapshot row
  | transition expectedStatus =>
    simp only [Stage.perform] at done
    split at done
    · cases done
    · rename_i rule
      obtain ⟨store', updated, result⟩ := bind_eq_ok.mp done
      cases result
      obtain ⟨pair, pair', held, assigned, rfl⟩ := WorkflowStore.update_ok.mp updated
      obtain ⟨expected, valid, rfl⟩ := LockedPair.transitionCheckpoint_ok.mp assigned
      exact .transitioned goesOn rule held expected valid
  | buildContext agentName =>
    obtain ⟨pair, loaded, done⟩ := bind_eq_ok.mp done
    obtain ⟨context, built, result⟩ := bind_eq_ok.mp done
    cases result
    exact .built (WorkflowStore.loadPair_ok.mp loaded) built
  | createRun context =>
    simp only [Stage.perform, WorkflowStore.createRun] at done
    cases free : store.findActive workflowId context.agentName with
    | true => simp [free] at done
    | false =>
      simp only [free, Bool.false_eq_true, if_false] at done
      cases done
      exact .created goesOn free
  | startRun agentRunId context =>
    simp only [Stage.perform] at done
    split at done
    · cases done
    · rename_i started
      cases done
      obtain ⟨run, row, source, rfl⟩ := WorkflowStore.moveRun_some.mp started
      exact .started row (List.mem_singleton.mp source)
  | agentLoop agentRunId context =>
    obtain ⟨store', updated, result⟩ := bind_eq_ok.mp done
    cases result
    obtain ⟨pair, pair', held, counted, rfl⟩ := WorkflowStore.update_ok.mp updated
    exact .turned held counted
  | agentTurn agentRunId context =>
    simp only [Stage.perform] at done
    split at done
    · split at done
      · rename_i author
        cases done
        exact .answered author
      · cases done
    · cases done
      exact .continued
  | completeRun agentRunId context output =>
    simp only [Stage.perform] at done
    split at done
    · cases done
    · rename_i completed
      cases done
      obtain ⟨run, row, source, rfl⟩ := WorkflowStore.moveRun_some.mp completed
      exact .completed row (List.mem_singleton.mp source)
  | save context output =>
    obtain ⟨store', updated, result⟩ := bind_eq_ok.mp done
    cases result
    obtain ⟨pair, pair', held, saved, rfl⟩ := WorkflowStore.update_ok.mp updated
    exact .saved goesOn held saved
  | recordMemory => cases done; exact .remembered
  | failRun agentRunId limit error =>
    simp only [Stage.perform] at done
    split at done
    · cases done
    · rename_i recorded
      cases done
      obtain ⟨run, row, source, rfl⟩ := WorkflowStore.moveRun_some.mp recorded
      refine .recorded row ?_
      simpa [AgentRunModel.active] using source
  | persistFailure error => cases done; exact .persisted goesOn
  | other checked => cases done; exact .other

theorem handle_step (stage : Stage) :
    StageStep settings now workerId job jobs workflowId answer store stage
      (stage.handle settings now workerId job jobs workflowId answer store).1
      (stage.handle settings now workerId job jobs workflowId answer store).2 := by
  cases answer with
  | error error => exact .failed stage error
  | proceed | final =>
    unfold Stage.handle
    dsimp only
    split
    · rename_i performed done
      exact perform_step now workerId job jobs workflowId _ store rfl stage performed done
    · exact .failed stage _

end

/-! ### The writes of an event -/

/-- The workflow that a run of a workflow job works on. -/
def workflowId {H : HandlerSystem} (run : ProcessRun H) : WorkflowId :=
  (workflowOf run.job.payload).getD 0

/-- The stage at which the handler of a run stands. -/
def stageOf (run : ProcessRun (workflowHandlers settings)) : Option Stage :=
  match run.phase with
  | .handling stage => some stage
  | _ => none

theorem stageOf_eq {run : ProcessRun (workflowHandlers settings)} {stage : Stage} :
    stageOf run = some stage ↔ run.phase = .handling stage := by
  unfold stageOf
  cases run.phase with
  | handling held =>
    constructor
    · intro same
      cases same
      rfl
    · intro same
      cases same
      rfl
  | _ => simp

/-- What an event writes to the store. -/
inductive StoreChange (w : World (workflowHandlers settings)) :
    WorldEvent (workflowHandlers settings) → WorkflowStore → Prop
  | same (event) : StoreChange w event w.resources
  | agents {id answer agentRuns nextAgentRun} :
      StoreChange w (.process id answer) { w.resources with agentRuns, nextAgentRun }
  | paired {event workflowId pair pair'} (held : w.resources.pair workflowId = some pair)
      (change : PairChange pair pair')
      (content : pair'.campaign.generatedContent = pair.campaign.generatedContent)
      (status : pair'.workflow.status = pair.workflow.status ∨
        pair'.workflow.status ≠ .pendingApproval ∧ pair'.workflow.status ≠ .failed) :
      StoreChange w event (w.resources.setPair workflowId pair')
  | saved {id answer run context output pair pair'} (found : w.runs.lookup id = some run)
      (stage : stageOf run = some (.save context output))
      (goesOn : Answer.isError answer = false)
      (held : w.resources.pair (workflowId run) = some pair)
      (saved : output.save settings pair = .ok pair') :
      StoreChange w (.process id answer) (w.resources.setPair (workflowId run) pair')
  | failed {id answer run error pair pair'} (found : w.runs.lookup id = some run)
      (stage : stageOf run = some (.persistFailure error))
      (goesOn : Answer.isError answer = false)
      (held : w.resources.pair (workflowId run) = some pair)
      (failed : pair.persistFailure (error.errorClass.errorCode.getD "") error.message w.now =
        some pair') :
      StoreChange w (.process id answer) (w.resources.setPair (workflowId run) pair')
  | resumed {id answer run pair} (found : w.runs.lookup id = some run)
      (stage : stageOf run = some (.transition .revisionRequired))
      (goesOn : Answer.isError answer = false)
      (held : w.resources.pair (workflowId run) = some pair)
      (source : pair.workflow.status = .revisionRequired) :
      StoreChange w (.process id answer)
        (w.resources.setPair (workflowId run) (pair.setStatus .generating .generateContent))
  | decided {event workflowId pair pair' record} (held : w.resources.pair workflowId = some pair)
      (fresh : workflowId ∉ w.resources.approvals) (change : PairChange pair pair')
      (content : pair'.campaign.generatedContent = pair.campaign.generatedContent)
      (completed : pair'.workflow.completedAt ≠ none)
      (status : pair'.workflow.status ≠ .pendingApproval ∧ pair'.workflow.status ≠ .failed) :
      StoreChange w event
        { w.resources.setPair workflowId pair' with
          approvals := w.resources.approvals.insert workflowId record }
  | campaignCreated {event campaignId campaign} (fresh : campaignId ∉ w.resources.campaigns)
      (status : campaign.status = .received) :
      StoreChange w event
        { w.resources with campaigns := w.resources.campaigns.insert campaignId campaign }
  | campaignUpdated {event campaignId campaign campaign'}
      (row : w.resources.campaigns.lookup campaignId = some campaign)
      (status : campaign'.status = campaign.status)
      (version : campaign.version < campaign'.version)
      (analysis : campaign'.briefAnalysis = campaign.briefAnalysis)
      (content : campaign'.generatedContent = campaign.generatedContent) :
      StoreChange w event
        { w.resources with campaigns := w.resources.campaigns.insert campaignId campaign' }
  | workflowCreated {event campaignId workflowId store}
      (created : w.resources.createWorkflow campaignId workflowId = some store) :
      StoreChange w event store

variable {w : World (workflowHandlers settings)}

/-- An action leaves the content alone, and the status or it is one that an action may set. -/
theorem act_frame {pair pair' : LockedPair} {guard : ActionExecutionGuard}
    {action : WorkflowStore.CampaignAction} (acted : pair.act guard action.effect = .ok pair') :
    pair'.campaign.generatedContent = pair.campaign.generatedContent ∧
      (pair'.workflow.status = pair.workflow.status ∨
        pair'.workflow.status ≠ .pendingApproval ∧ pair'.workflow.status ≠ .failed) := by
  unfold LockedPair.act at acted
  split at acted
  · cases action with
    | validateOnly =>
      cases acted
      exact ⟨rfl, .inl rfl⟩
    | updateCampaignMetadata =>
      cases acted
      exact ⟨rfl, .inl rfl⟩
    | requestCampaignRegeneration =>
      simp only [WorkflowStore.CampaignAction.effect] at acted
      split at acted
      · cases acted
        exact ⟨rfl, .inr ⟨by simp [LockedPair.setStatus], by simp [LockedPair.setStatus]⟩⟩
      · cases acted
    | markForManualReview =>
      simp only [WorkflowStore.CampaignAction.effect] at acted
      split at acted
      · cases acted
        exact ⟨rfl, .inr ⟨by simp [LockedPair.setStatus], by simp [LockedPair.setStatus]⟩⟩
      · cases acted
  · cases acted

theorem requested_store {event : WorldEvent (workflowHandlers settings)} {asked : Request}
    {store : WorkflowStore} (accepted : request w.now asked w.resources = some store) :
    StoreChange w event store := by
  cases asked with
  | createCampaign campaignId payload =>
    simp only [request, WorkflowStore.createCampaign] at accepted
    split at accepted
    · cases accepted
    · rename_i fresh
      cases accepted
      exact .campaignCreated fresh rfl
  | updateCampaign campaignId payload =>
    simp only [request, WorkflowStore.updateCampaign] at accepted
    split at accepted
    · cases accepted
    · rename_i campaign row
      cases accepted
      exact .campaignUpdated row rfl (Nat.lt_succ_self _) rfl rfl
  | createWorkflow campaignId workflowId => exact .workflowCreated accepted
  | decide asked actorId actorRole =>
    simp only [request, WorkflowStore.decide] at accepted
    split at accepted
    · split at accepted
      · cases accepted
      · rename_i pair held
        split at accepted
        · cases accepted
        · split at accepted
          · cases accepted
          · rename_i decided record decision
            cases accepted
            have facts := LockedPair.decide_ok decision
            have fresh : asked.workflowId ∉ w.resources.approvals := by simpa using facts.1
            have after := facts.2.2.2
            refine .decided held fresh (.of_decision decision) (by rw [after]) (by rw [after]; simp) ?_
            rw [after]
            show ApprovalDecision.nextStatus asked.decision ≠ _ ∧
              ApprovalDecision.nextStatus asked.decision ≠ _
            cases asked.decision <;> decide
    · cases accepted
  | act guard action =>
    simp only [request, WorkflowStore.act] at accepted
    split at accepted
    · rename_i reserved
      split at accepted
      · cases accepted
      · rename_i pair held
        split at accepted
        · cases accepted
        · obtain ⟨pair', acted, rfl⟩ := Option.map_eq_some_iff.mp accepted
          have acted := toOption_eq_some.mp acted
          obtain ⟨content, status⟩ := act_frame acted
          exact .paired held (.of_action reserved.2 acted) content status
    · cases accepted

theorem handled_store {id : RunId} {answer : Answer}
    {run : ProcessRun (workflowHandlers settings)} {stage : Stage} {store : WorkflowStore}
    {outcome : Outcome Stage} (found : w.runs.lookup id = some run)
    (phase : run.phase = .handling stage)
    (step : StageStep settings w.now run.workerId run.job w.jobs (workflowId run) answer
      w.resources stage store outcome) :
    StoreChange w (.process id answer) store := by
  cases step with
  | failed | checked | got | read | snapshot | built | answered | continued | remembered | other =>
    exact .same _
  | transitioned goesOn rule held expected valid =>
    rename_i expectedStatus nextStatus nextStep pair
    by_cases resumes : expectedStatus = .revisionRequired
    · subst resumes
      cases rule
      exact .resumed found (stageOf_eq.mpr phase) goesOn held expected
    · refine .paired held (.of_transition expected rule valid resumes) rfl (.inr ?_)
      show nextStatus ≠ _ ∧ nextStatus ≠ _
      cases expectedStatus <;> cases rule <;> decide
  | created | started | completed | recorded => exact .agents
  | turned held counted =>
    have after := LockedPair.recordLlmCall_ok counted
    exact .paired held (.of_count counted) (by rw [after]) (.inl (by rw [after]))
  | saved goesOn held saved => exact .saved found (stageOf_eq.mpr phase) goesOn held saved
  | persisted goesOn =>
    unfold WorkflowStore.persistFailure
    split
    · exact .same _
    · rename_i held
      split
      · exact .same _
      · rename_i failed
        exact .failed found (stageOf_eq.mpr phase) goesOn held failed

theorem step_store (w : World (workflowHandlers settings))
    (event : WorldEvent (workflowHandlers settings)) :
    StoreChange w event (w.step settings event).resources := by
  have change := @step_resources _ settings w event
  generalize (w.step settings event).resources = store at change ⊢
  cases change with
  | same | ensured | reconciled | cancelled | prepared => exact .same _
  | submitted jobId' accepted =>
    rename_i submission _ _ _ _ _ payload write
    have unwritten : write jobId' = w.resources := by
      change submit submission w.resources = some (payload, write) at accepted
      unfold submit at accepted
      split at accepted
      · split at accepted
        · cases accepted
          rfl
        · cases accepted
      · split at accepted
        · cases accepted
        · cases accepted
          rfl
    rw [unwritten]
    exact .same _
  | requested accepted =>
    rename_i asked _
    obtain ⟨store', stored, result⟩ : ∃ store', request w.now asked w.resources = some store' ∧
      (store', none) = (store, _) := Option.map_eq_some_iff.mp accepted
    cases result
    exact requested_store stored
  | handled found phase =>
    rename_i id answer run stage
    exact handled_store found phase (handle_step ..)

end CyberLegends.Workflow
