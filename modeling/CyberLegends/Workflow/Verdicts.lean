import CyberLegends.Workflow.Versions

/-! The content that a verdict is about: as long as no loop saves a content while another loop on
its campaign reviews one, a verdict is saved on the content that its reviewer was given. -/

namespace CyberLegends.Workflow

open CyberLegends.Core Lib Jobs

variable {settings : Settings} {w : World (workflowHandlers settings)}
  {event : WorldEvent (workflowHandlers settings)}

/-! ### What is to hold -/

/-- The context of the agent that a stage runs or has run. -/
def Stage.context : Stage → Option AgentContext
  | createRun context | startRun _ context | agentLoop _ context | agentTurn _ context
  | completeRun _ context _ | save context _ => some context
  | _ => none

/-- What a run has read for a review whose verdict it has not saved yet. -/
def reviewContext (run : ProcessRun (workflowHandlers settings)) : Option AgentContext :=
  (stageOf run).bind fun stage =>
    stage.context.filter fun context => context.agentName = .contentReviewer

/-- A verdict is saved on the content that its reviewer was given, and a workflow becomes pending
only with a content that passed. -/
def VerdictOnItsContent (w : World (workflowHandlers settings))
    (event : WorldEvent (workflowHandlers settings)) (w' : World (workflowHandlers settings)) :
    Prop :=
  (∀ id answer run context verdict pair, event = .process id answer →
    Answer.isError answer = false → w.runs.lookup id = some run →
    stageOf run = some (.save context (.review verdict)) →
    w.resources.pair (workflowId run) = some pair → pair.workflow.status = .reviewing →
      pair.campaign.generatedContent = context.generatedContent) ∧
  ∀ id pair', w'.resources.pair id = some pair' → pair'.workflow.status = .pendingApproval →
    (∀ row, w.resources.workflows.lookup id = some row → row.status ≠ .pendingApproval) →
      ∃ runId answer run context verdict, event = .process runId answer ∧
        w.runs.lookup runId = some run ∧ workflowId run = id ∧
        stageOf run = some (.save context (.review verdict)) ∧ verdict.status = .pass ∧
        pair'.campaign.generatedContent = context.generatedContent

/-- Whether the next transaction of the run saves a content. -/
def savesContent (run : ProcessRun (workflowHandlers settings)) : Bool :=
  match stageOf run with
  | some (.save _ (.content _)) => true
  | _ => false

/-- The campaign of the workflow that a run works on. -/
def campaignOf (w : World (workflowHandlers settings))
    (run : ProcessRun (workflowHandlers settings)) : Option CampaignId :=
  (w.resources.workflows.lookup (workflowId run)).map fun row => row.campaignId

/-- A loop saves a content only while no other loop on the campaign has a review under way. -/
def NoOvertake (w : World (workflowHandlers settings)) :
    WorldEvent (workflowHandlers settings) → Prop
  | .process id answer =>
    Answer.isError answer = false → ∀ run ∈ w.runs.lookup id, savesContent run = true →
      ∀ pair ∈ w.resources.pair (workflowId run), pair.workflow.status = .generating →
        ∀ other ∈ w.runs.entries, other.1 ≠ id →
          campaignOf w other.2 = some pair.workflow.campaignId → reviewContext other.2 = none
  | _ => True

instance decidableNoOvertake (w : World (workflowHandlers settings))
    (event : WorldEvent (workflowHandlers settings)) : Decidable (NoOvertake w event) :=
  match event with
  | .process .. => inferInstanceAs (Decidable (_ → _))
  | .tick _ | .submit .. | .lease .. | .reclaim .. | .interrupt _ | .fault .. | .heartbeat _
  | .heartbeatDies _ | .crash _ | .cancel _ | .retry _ | .call _ | .callDies _ | .request _ =>
    isTrue trivial

/-! ### Contents -/

/-- The event is the checkpoint that saves a content of the campaign. -/
def ContentSaved (w : World (workflowHandlers settings))
    (event : WorldEvent (workflowHandlers settings)) (campaignId : CampaignId) : Prop :=
  ∃ id answer run context content pair, event = .process id answer ∧
    Answer.isError answer = false ∧ w.runs.lookup id = some run ∧
    stageOf run = some (.save context (.content content)) ∧
    w.resources.pair (workflowId run) = some pair ∧ pair.workflow.status = .generating ∧
    pair.workflow.campaignId = campaignId

/-- A write of a pair keeps every other pair, apart from the campaign that it wrote. -/
theorem setPair_content {store : WorkflowStore} {id id' : WorkflowId} {pair pair' held : LockedPair}
    (row : store.pair id = some pair) (row' : store.pair id' = some held)
    (campaignId : pair'.workflow.campaignId = pair.workflow.campaignId) :
    ∃ after, (store.setPair id pair').pair id' = some after ∧
      after.workflow.campaignId = held.workflow.campaignId ∧
      (after.campaign.generatedContent = held.campaign.generatedContent ∨
        held.workflow.campaignId = pair.workflow.campaignId ∧
          held.campaign = pair.campaign ∧ after.campaign = pair'.campaign) := by
  by_cases here : id' = id
  · subst here
    rw [row] at row'
    cases row'
    exact ⟨pair', setPair_self, campaignId, .inr ⟨rfl, rfl, rfl⟩⟩
  · rcases setPair_other row row' here campaignId with after | ⟨same, campaign, after⟩
    · exact ⟨held, after, rfl, .inl rfl⟩
    · exact ⟨_, after, rfl, .inr ⟨same, campaign, rfl⟩⟩

/-- A pair stays, and its content does unless the event saves one of its campaign. -/
theorem step_content {id : WorkflowId} {pair : LockedPair}
    (held : w.resources.pair id = some pair) :
    ∃ pair', (w.step settings event).resources.pair id = some pair' ∧
      pair'.workflow.campaignId = pair.workflow.campaignId ∧
      (pair'.campaign.generatedContent = pair.campaign.generatedContent ∨
        ContentSaved w event pair.workflow.campaignId) := by
  have change := @step_store settings w event
  generalize (w.step settings event).resources = store at change ⊢
  obtain ⟨found, campaignRow⟩ := WorkflowStore.pair_eq_some.mp held
  have written : ∀ {id' before after}, w.resources.pair id' = some before →
      PairChange before after →
      after.campaign.generatedContent = before.campaign.generatedContent →
      ∃ pair', (w.resources.setPair id' after).pair id = some pair' ∧
        pair'.workflow.campaignId = pair.workflow.campaignId ∧
        (pair'.campaign.generatedContent = pair.campaign.generatedContent ∨
          ContentSaved w event pair.workflow.campaignId) := by
    intro id' before after held' change content
    obtain ⟨pair', row, same, kept | ⟨-, campaign, campaign'⟩⟩ :=
      setPair_content held' held change.campaignId
    · exact ⟨pair', row, same, .inl kept⟩
    · exact ⟨pair', row, same, .inl (by rw [campaign', campaign, content])⟩
  cases change with
  | same | agents => exact ⟨pair, held, rfl, .inl rfl⟩
  | paired held' change content => exact written held' change content
  | decided held' fresh change content => exact written held' change content
  | resumed found' stage goesOn held' source =>
    rename_i before
    have sameId : (before.setStatus .generating .generateContent).workflow.campaignId =
        before.workflow.campaignId := rfl
    obtain ⟨pair', row, same, kept | ⟨-, campaign, campaign'⟩⟩ :=
      setPair_content held' held sameId
    · exact ⟨pair', row, same, .inl kept⟩
    · exact ⟨pair', row, same, .inl (by rw [campaign', campaign]; rfl)⟩
  | failed found' stage goesOn held' failed =>
    refine written held' (.of_failure failed) ?_
    rw [(LockedPair.persistFailure_eq.mp failed).2]
  | saved found' stage goesOn held' saved =>
    rename_i id' answer run context output before after
    obtain ⟨pair', row, same, kept | ⟨sameCampaign, campaign, campaign'⟩⟩ :=
      setPair_content held' held (PairChange.of_save saved).campaignId
    · exact ⟨pair', row, same, .inl kept⟩
    · refine ⟨pair', row, same, ?_⟩
      rw [campaign', campaign]
      cases output with
      | analysis =>
        obtain ⟨-, rfl⟩ := LockedPair.saveAnalysisCheckpoint_ok saved
        exact .inl rfl
      | content content =>
        obtain ⟨status, -⟩ := LockedPair.saveContentCheckpoint_ok saved
        exact .inr ⟨_, _, _, _, content, _, rfl, goesOn, found', stage, held', status,
          sameCampaign.symm⟩
      | review =>
        obtain ⟨-, retries, nextStatus, nextStep, rfl, -⟩ :=
          LockedPair.saveReviewDecisionCheckpoint_ok saved
        exact .inl rfl
  | campaignCreated fresh =>
    refine ⟨pair, WorkflowStore.pair_eq_some.mpr ⟨found, ?_⟩, rfl, .inl rfl⟩
    refine (AList.lookup_insert_ne ?_).trans campaignRow
    intro same
    exact fresh (by rw [← same]; exact AList.lookup_isSome.mp (by rw [campaignRow]; rfl))
  | campaignUpdated row status version analysis content =>
    rename_i campaignId before after
    by_cases same : pair.workflow.campaignId = campaignId
    · rw [same, row] at campaignRow
      cases campaignRow
      refine ⟨{ pair with campaign := after }, WorkflowStore.pair_eq_some.mpr ⟨found, ?_⟩, rfl,
        .inl content⟩
      show (w.resources.campaigns.insert campaignId after).lookup pair.workflow.campaignId = _
      rw [same]
      exact AList.lookup_insert _
    · exact ⟨pair, WorkflowStore.pair_eq_some.mpr
        ⟨found, (AList.lookup_insert_ne same).trans campaignRow⟩, rfl, .inl rfl⟩
  | workflowCreated created =>
    obtain ⟨fresh, -, campaign, row, -, rfl, -⟩ := createWorkflow_some created
    refine ⟨pair, WorkflowStore.pair_eq_some.mpr
      ⟨(AList.lookup_insert_ne ?_).trans found, campaignRow⟩, rfl, .inl rfl⟩
    rintro rfl
    exact fresh (AList.lookup_isSome.mp (by rw [found]; rfl))

/-! ### Contexts -/

/-- The output that a stage holds is one of the agent whose context it holds. -/
def Stage.authored : Stage → Prop
  | completeRun _ context output | save context output => output.author = context.agentName
  | _ => True

theorem handleError_context {error : RaisedError} {stage : Stage}
    (h : handleError error = .continues stage) : stage.context = none ∧ stage.authored := by
  obtain ⟨raised, rfl⟩ := handleError_continues h
  exact ⟨rfl, trivial⟩

theorem fails_context {stage stage' : Stage} {error : RaisedError}
    (h : stage.fails error = .continues stage') : stage'.context = none ∧ stage'.authored := by
  cases stage with
  | checkpoint | getWorkflow | other | persistFailure => cases h
  | agentLoop | agentTurn | completeRun =>
    cases h
    exact ⟨rfl, trivial⟩
  | _ => exact handleError_context h

theorem nextStage_context {status : CampaignStatus} {campaign : CampaignModel} {stage : Stage}
    (h : nextStage status campaign = .continues stage) : stage.context = none ∧ stage.authored := by
  obtain ⟨expectedStatus, rfl⟩ | ⟨agentName, rfl⟩ := nextStage_continues h
  · exact ⟨rfl, trivial⟩
  · exact ⟨rfl, trivial⟩

/-- Where the context of the next stage comes from. -/
theorem context_step {now : Timestamp} {workerId : String} {job : LeasedJob} {jobs : JobStore}
    {workflowId : WorkflowId} {answer : Answer} {store store' : WorkflowStore}
    {stage stage' : Stage}
    (step : StageStep settings now workerId job jobs workflowId answer store stage store'
      (.continues stage')) :
    (stage.authored → stage'.authored) ∧ ∀ context, stage'.context = some context →
      stage.context = some context ∧ (∀ context output, stage ≠ .save context output) ∨
        ∃ agentName pair, stage = .buildContext agentName ∧ store.pair workflowId = some pair ∧
          buildContext agentName pair.campaign = .ok context := by
  generalize result : Outcome.continues stage' = outcome at step
  have plain : stage'.context = none ∧ stage'.authored →
      (stage.authored → stage'.authored) ∧ ∀ context, stage'.context = some context →
        stage.context = some context ∧ (∀ context output, stage ≠ .save context output) ∨
          ∃ agentName pair, stage = .buildContext agentName ∧ store.pair workflowId = some pair ∧
            buildContext agentName pair.campaign = .ok context := by
    rintro ⟨none_, authored⟩
    refine ⟨fun _ => authored, ?_⟩
    intro context some_
    rw [none_] at some_
    cases some_
  cases step with
  | failed stage error => exact plain (fails_context result.symm)
  | checked =>
    unfold jobCheckpoint at result
    split at result
    · cases result
    · cases result
      exact plain ⟨rfl, trivial⟩
  | got =>
    split at result
    · cases result
    · cases result
      exact plain ⟨rfl, trivial⟩
  | read | transitioned | remembered =>
    cases result
    exact plain ⟨rfl, trivial⟩
  | snapshot => exact plain (nextStage_context result.symm)
  | built held built =>
    cases result
    refine ⟨fun _ => trivial, ?_⟩
    rintro context ⟨⟩
    exact .inr ⟨_, _, rfl, held, built⟩
  | created | started | turned | continued =>
    cases result
    refine ⟨fun _ => trivial, ?_⟩
    rintro context ⟨⟩
    exact .inl ⟨rfl, by simp⟩
  | answered author =>
    cases result
    refine ⟨fun _ => author, ?_⟩
    rintro context ⟨⟩
    exact .inl ⟨rfl, by simp⟩
  | completed =>
    cases result
    refine ⟨fun authored => authored, ?_⟩
    rintro context ⟨⟩
    exact .inl ⟨rfl, by simp⟩
  | saved =>
    cases result
    refine plain ?_
    split <;> exact ⟨rfl, trivial⟩
  | recorded row source =>
    rename_i error run
    cases error with
    | none => cases result
    | some error => exact plain (handleError_context result.symm)
  | persisted => cases result
  | other =>
    split at result
    · cases result
    · unfold jobCheckpoint at result
      split at result
      · cases result
      · cases result
        exact plain ⟨rfl, trivial⟩

/-! ### Steps and runs -/

/-- What a run has read for a review is what its campaign still holds. -/
structure Current (w : World (workflowHandlers settings)) : Prop where
  authored : ∀ id run stage, w.runs.lookup id = some run → stageOf run = some stage →
    stage.authored
  content : ∀ id run context, w.runs.lookup id = some run → reviewContext run = some context →
    ∃ pair, w.resources.pair (workflowId run) = some pair ∧
      pair.campaign.generatedContent = context.generatedContent

theorem reviewContext_eq {run : ProcessRun (workflowHandlers settings)} {context : AgentContext} :
    reviewContext run = some context ↔
      ∃ stage, stageOf run = some stage ∧ stage.context = some context ∧
        context.agentName = .contentReviewer := by
  unfold reviewContext
  simp [Option.bind_eq_some_iff, Option.filter_eq_some_iff]

theorem buildContext_content {agentName : AgentName} {campaign : CampaignModel}
    {context : AgentContext} (built : buildContext agentName campaign = .ok context)
    (reviewer : context.agentName = .contentReviewer) :
    campaign.generatedContent = context.generatedContent := by
  unfold buildContext at built
  split at built
  · cases built
    cases reviewer
  · split at built
    · cases built
    · cases built
      cases reviewer
  · split at built
    · cases built
    · cases built
      rfl

/-- No content is saved on the campaign of a run that reviews one, not even by that run. -/
theorem not_contentSaved (current : Current w) (ok : NoOvertake w event) {id : RunId}
    {run : ProcessRun (workflowHandlers settings)} {context : AgentContext} {pair : LockedPair}
    (found : w.runs.lookup id = some run) (reviewing : reviewContext run = some context)
    (held : w.resources.pair (workflowId run) = some pair) :
    ¬ ContentSaved w event pair.workflow.campaignId := by
  rintro ⟨id', answer, run', context', content, pair', rfl, goesOn, found', stage', held', status,
    campaignId⟩
  by_cases here : id = id'
  · subst here
    rw [found] at found'
    cases found'
    have author := current.authored id run _ found stage'
    obtain ⟨stage, stage_, holds, reviewer⟩ := reviewContext_eq.mp reviewing
    rw [stage'] at stage_
    cases stage_
    cases holds
    rw [Stage.authored, reviewer] at author
    cases author
  · have saves : savesContent run' = true := by
      unfold savesContent
      rw [stage']
    have same : campaignOf w run = some pair'.workflow.campaignId := by
      unfold campaignOf
      rw [(WorkflowStore.pair_eq_some.mp held).1, campaignId]
      rfl
    have none_ := ok goesOn run' found' saves pair' held' status ⟨id, run⟩
      (AList.mem_lookup_iff.mp found) here same
    rw [none_] at reviewing
    cases reviewing

theorem current_step (current : Current w) (ok : NoOvertake w event) :
    Current (w.step settings event) := by
  have origin : ∀ {id run' stage'}, (w.step settings event).runs.lookup id = some run' →
      stageOf run' = some stage' → ∃ run, w.runs.lookup id = some run ∧
        workflowId run' = workflowId run ∧
        ((∀ stage, stageOf run = some stage → stage.authored) → stage'.authored) ∧
        ∀ context, stage'.context = some context →
          (∃ stage, stageOf run = some stage ∧ stage.context = some context) ∨
          (∀ campaignId, ¬ ContentSaved w event campaignId) ∧
            ∃ agentName pair, w.resources.pair (workflowId run) = some pair ∧
              buildContext agentName pair.campaign = .ok context := by
    intro id run' stage' found' stage_
    obtain ⟨run, found, job, -, move⟩ := step_handler found' (stageOf_eq.mp stage_)
    refine ⟨run, found, by unfold workflowId; rw [job], ?_⟩
    cases move with
    | kept phase =>
      have held := stageOf_eq.mpr phase
      exact ⟨fun authored => authored _ held, fun context holds => .inl ⟨_, held, holds⟩⟩
    | began phase =>
      have start : ((workflowHandlers settings).start run.job : Stage).context = none ∧
          Stage.authored ((workflowHandlers settings).start run.job) := by
        show Stage.context (if _ then _ else _) = none ∧ Stage.authored (if _ then _ else _)
        split <;> exact ⟨rfl, trivial⟩
      refine ⟨fun _ => start.2, ?_⟩
      intro context holds
      rw [start.1] at holds
      cases holds
    | stepped phase calm outcome =>
      rename_i answer stage
      have held := stageOf_eq.mpr phase
      have step := @handle_step settings w.now run.workerId run.job w.jobs
        (workflowId run) answer w.resources stage
      have continues : (Stage.handle settings w.now run.workerId run.job w.jobs (workflowId run)
          answer w.resources stage).2 = .continues stage' := outcome
      rw [continues] at step
      obtain ⟨authored, context_⟩ := context_step step
      refine ⟨fun all => authored (all stage held), ?_⟩
      intro context holds
      rcases context_ context holds with ⟨before, -⟩ | ⟨agentName, pair, rfl, row, built⟩
      · exact .inl ⟨stage, held, before⟩
      · refine .inr ⟨?_, agentName, pair, row, built⟩
        rintro campaignId ⟨id', answer', run', context', content, pair', same, -, other, saves, -⟩
        cases same
        rw [found] at other
        cases other
        rw [held] at saves
        cases saves
    | interrupted phase raised next hit =>
      rename_i stage
      have failing : stage'.context = none ∧ stage'.authored := by
        have next : Stage.interrupted stage = some stage' := next
        cases stage <;> cases next <;> exact ⟨rfl, trivial⟩
      refine ⟨fun _ => failing.2, ?_⟩
      intro context holds
      rw [failing.1] at holds
      cases holds
  constructor
  · intro id run' stage' found' stage_
    obtain ⟨run, found, -, authored, -⟩ := origin found' stage_
    exact authored fun stage held => current.authored id run stage found held
  · intro id run' context found' reviewing
    obtain ⟨stage', stage_, holds, reviewer⟩ := reviewContext_eq.mp reviewing
    obtain ⟨run, found, same, -, sources⟩ := origin found' stage_
    rw [same]
    -- a content that is still the one read, before the event
    have before : ∃ pair, w.resources.pair (workflowId run) = some pair ∧
        pair.campaign.generatedContent = context.generatedContent ∧
          ¬ ContentSaved w event pair.workflow.campaignId := by
      rcases sources context holds with ⟨stage, held, holds'⟩ | ⟨calm, agentName, pair, row, built⟩
      · have reviewing' := reviewContext_eq.mpr ⟨stage, held, holds', reviewer⟩
        obtain ⟨pair, row, content⟩ := current.content id run context found reviewing'
        exact ⟨pair, row, content, not_contentSaved current ok found reviewing' row⟩
      · exact ⟨pair, row, buildContext_content built reviewer, calm _⟩
    obtain ⟨pair, row, content, unsaved⟩ := before
    obtain ⟨pair', row', -, kept | saved⟩ := @step_content settings w event _ _ row
    · exact ⟨pair', row', kept.trans content⟩
    · exact absurd saved unsaved

theorem current_init (store : WorkflowStore) :
    @Current settings { resources := store } where
  authored := by intro id run stage found; cases found
  content := by intro id run context found; cases found

/-- The run that saves a verdict reviews the content that its campaign holds. -/
theorem current_verdict (current : Current w) {id : RunId}
    {run : ProcessRun (workflowHandlers settings)} {context : AgentContext}
    {verdict : QualityReview} {pair : LockedPair} (found : w.runs.lookup id = some run)
    (stage : stageOf run = some (.save context (.review verdict)))
    (held : w.resources.pair (workflowId run) = some pair) :
    pair.campaign.generatedContent = context.generatedContent := by
  have author : AgentName.contentReviewer = context.agentName := current.authored id run _ found stage
  obtain ⟨pair', held', content⟩ := current.content id run context found
    (reviewContext_eq.mpr ⟨_, stage, rfl, author.symm⟩)
  rw [held] at held'
  cases held'
  exact content

/-- A workflow becomes pending only by the checkpoint of a verdict that passed it. -/
theorem pending_entered {id : WorkflowId} {pair' : LockedPair}
    (held' : (w.step settings event).resources.pair id = some pair')
    (pending : pair'.workflow.status = .pendingApproval)
    (fresh : ∀ row, w.resources.workflows.lookup id = some row → row.status ≠ .pendingApproval) :
    ∃ runId answer run context verdict pair, event = .process runId answer ∧
      w.runs.lookup runId = some run ∧ workflowId run = id ∧
      stageOf run = some (.save context (.review verdict)) ∧ verdict.status = .pass ∧
      w.resources.pair id = some pair ∧
      pair'.campaign.generatedContent = pair.campaign.generatedContent := by
  have change := @step_store settings w event
  generalize (w.step settings event).resources = store at change held'
  obtain ⟨found', -⟩ := WorkflowStore.pair_eq_some.mp held'
  -- the written workflow is the one in question, or that one was pending before
  have target : ∀ {id' before after}, w.resources.pair id' = some before →
      (w.resources.setPair id' after).workflows.lookup id = some pair'.workflow →
      id = id' ∧ pair'.workflow = after.workflow ∧
        before.workflow.status ≠ .pendingApproval := by
    intro id' before after row found'
    rcases Table.lookup_insert_cases found' with ⟨rfl, same⟩ | ⟨-, found⟩
    · exact ⟨rfl, same, fresh _ (WorkflowStore.pair_eq_some.mp row).1⟩
    · exact absurd pending (fresh _ found)
  cases change with
  | same | agents | campaignCreated | campaignUpdated => exact absurd pending (fresh _ found')
  | paired row change content status =>
    obtain ⟨rfl, same, other⟩ := target row found'
    rw [same] at pending
    rcases status with kept | ⟨notPending, -⟩
    · exact absurd (kept.symm.trans pending) other
    · exact absurd pending notPending
  | decided row fresh' change content completed status =>
    obtain ⟨rfl, same, other⟩ := target row found'
    rw [same] at pending
    exact absurd pending status.1
  | resumed found stage goesOn row =>
    obtain ⟨rfl, same, -⟩ := target row found'
    rw [same] at pending
    cases pending
  | failed found stage goesOn row failed =>
    obtain ⟨rfl, same, -⟩ := target row found'
    rw [same, (LockedPair.persistFailure_eq.mp failed).2] at pending
    cases pending
  | workflowCreated created =>
    obtain ⟨-, -, campaign, new, -, rfl, -, status, -, rule⟩ := createWorkflow_some created
    rcases Table.lookup_insert_cases found' with ⟨rfl, same⟩ | ⟨-, found⟩
    · rw [same, status] at pending
      rcases rule with received | ⟨revising, -⟩
      · rw [received] at pending
        cases pending
      · rw [revising] at pending
        cases pending
    · exact absurd pending (fresh _ found)
  | saved found stage goesOn row saved =>
    rename_i runId answer run context output before after
    obtain ⟨rfl, same, -⟩ := target row found'
    rw [same] at pending
    have written : (w.resources.setPair (workflowId run) after).pair (workflowId run) = some after :=
      setPair_self
    rw [written] at held'
    cases held'
    cases output with
    | analysis =>
      obtain ⟨-, rfl⟩ := LockedPair.saveAnalysisCheckpoint_ok saved
      cases pending
    | content =>
      obtain ⟨-, rfl⟩ := LockedPair.saveContentCheckpoint_ok saved
      cases pending
    | review verdict =>
      obtain ⟨-, retries, nextStatus, nextStep, rfl, -, -, passes⟩ :=
        LockedPair.saveReviewDecisionCheckpoint_ok saved
      exact ⟨runId, answer, run, context, verdict, before, rfl, found, rfl, stage,
        passes.mp pending, row, rfl⟩

theorem verdict_step (current : Current w) :
    VerdictOnItsContent w event (w.step settings event) := by
  constructor
  · rintro id answer run context verdict pair rfl - found stage held -
    exact current_verdict current found stage held
  · intro id pair' held' pending fresh
    obtain ⟨runId, answer, run, context, verdict, pair, isProcess, found, rfl, stage, pass, held,
      content⟩ := pending_entered held' pending fresh
    exact ⟨runId, answer, run, context, verdict, isProcess, found, rfl, stage, pass,
      content.trans (current_verdict current found stage held)⟩

/-- In a run in which no loop saves a content while another loop on its campaign has a review under
way, every verdict is saved on the content that its reviewer was given. -/
theorem verdicts_on_reviewed_content (settings : Settings)
    (events : List (WorldEvent (workflowHandlers settings)))
    (ok : (workflowApplication settings).Meets NoOvertake (workflowApplication settings).init
      events) :
    (workflowApplication settings).Steps VerdictOnItsContent (workflowApplication settings).init
      events := by
  refine Machine.steps_hold (I := Current) ?_ ?_ (current_init _) ok
  · exact fun w event current ok => current_step current ok
  · exact fun w event current _ => verdict_step current

theorem approving_run_verdicts :
    (workflowApplication {}).Meets NoOvertake (workflowApplication {}).init approvingRun ∧
      (workflowApplication {}).Steps VerdictOnItsContent (workflowApplication {}).init
        approvingRun := by
  have ok : (workflowApplication {}).Meets NoOvertake (workflowApplication {}).init
      approvingRun := by decide +kernel
  exact ⟨ok, verdicts_on_reviewed_content {} approvingRun ok⟩

/-- A worker stalls before it saves the verdict of its reviewer; the job is leased again, the next
reviewer asks for other content and that is saved. -/
def stalledRun : List (WorldEvent (workflowHandlers {})) :=
  reviewingRun ++ proceeds 0 6 ++
    [.process 0 (.final (.review { status := .pass, qualityScore := 90 }))] ++ proceeds 0 1 ++
    [.tick (seconds 60), .reclaim none [], .tick (seconds 5), .lease "other worker" none [] 0] ++
    proceeds 1 3 ++ agentRun 1 (.review { status := .fail, qualityScore := 40 }) ++
    proceeds 1 1 ++ agentRun 1 (.content "unseen content")

/-- The stalled worker then passes the content that no reviewer has seen. -/
theorem stale_verdict_saved :
    ¬ (workflowApplication {}).Steps VerdictOnItsContent (workflowApplication {}).init
      (stalledRun ++ proceeds 0 1) := by
  intro steps
  have last : VerdictOnItsContent ((workflowApplication {}).run (workflowApplication {}).init
      stalledRun) (.process 0 .proceed) _ := (Machine.Steps.append.mp steps).2.1
  have stalled : ((((workflowApplication {}).run (workflowApplication {}).init
      stalledRun).runs.lookup 0).map fun run => (stageOf run,
        (((workflowApplication {}).run (workflowApplication {}).init
          stalledRun).resources.pair (workflowId run)).map fun pair =>
            (pair.workflow.status, pair.campaign.generatedContent))) =
      some (some (.save
          { agentName := .contentReviewer
            briefAnalysis := some "analysis"
            generatedContent := some "content" }
          (.review { status := .pass, qualityScore := 90 })),
        some (.reviewing, some "unseen content")) := by
    decide +kernel
  generalize (workflowApplication {}).run (workflowApplication {}).init stalledRun = w at *
  obtain ⟨run, found, facts⟩ := Option.map_eq_some_iff.mp stalled
  obtain ⟨stage, facts⟩ := Prod.mk.inj facts
  obtain ⟨pair, held, facts⟩ := Option.map_eq_some_iff.mp facts
  obtain ⟨status, content⟩ := Prod.mk.inj facts
  have same := last.1 0 .proceed run _ _ pair rfl rfl found stage held status
  rw [content] at same
  exact absurd same (by decide)

end CyberLegends.Workflow
