import CyberLegends.Workflow.Versions

/-! What the agents have made of a campaign when its workflow has come to a status. The analysis and
the content are never lost, and so the fallbacks of the loop are never taken. -/

namespace CyberLegends.Workflow

open CyberLegends.Core Lib Jobs

variable {settings : Settings}

/-! ### What is to hold -/

/-- The statuses that an open workflow reaches after its brief was analysed. -/
def pastAnalysis (status : CampaignStatus) : Bool :=
  status = .generating ∨ status = .reviewing ∨ status = .pendingApproval ∨
    status = .manualReviewRequired ∨ status = .revisionRequired

/-- The statuses that it reaches after its content was generated. -/
def pastContent (status : CampaignStatus) : Bool :=
  status = .reviewing ∨ status = .pendingApproval ∨ status = .manualReviewRequired

/-- The campaign has the artifacts that a workflow in the status is to have. -/
structure CampaignModel.Carries (campaign : CampaignModel) (status : CampaignStatus) : Prop where
  analysis : pastAnalysis status = true → campaign.briefAnalysis.isSome
  content : pastContent status = true → campaign.generatedContent.isSome

/-- The loop asks for a transition that the table of transitions has. -/
def Requests (stage : Stage) : Prop :=
  ∀ expectedStatus, stage = .transition expectedStatus →
    expectedStatus ≠ .generating ∧ expectedStatus ≠ .reviewing ∧
      ∃ nextStatus nextStep, checkpointAfter expectedStatus = some (nextStatus, nextStep) ∧
        nextStatus ∈ allowedTransitions expectedStatus

/-- Every workflow has the artifacts of its status, no run takes a fallback of the loop or asks for a
transition that the table does not have, and no checkpoint of a run is refused as an invalid
transition. -/
structure ArtifactsInPlace (w : World (workflowHandlers settings)) : Prop where
  workflows : ∀ id row, w.resources.workflows.lookup id = some row →
    ∃ campaign, w.resources.campaigns.lookup row.campaignId = some campaign ∧
      campaign.Carries row.status
  requests : ∀ id run stage, w.runs.lookup id = some run → stageOf run = some stage →
    Requests stage
  valid : ∀ id run stage answer error, w.runs.lookup id = some run → stageOf run = some stage →
    stage.perform settings w.now run.workerId run.job w.jobs (workflowId run) answer w.resources =
      .error error → error.errorClass ≠ .invalidStateTransition

/-! ### The artifacts of a campaign -/

theorem CampaignModel.Carries.mono {campaign campaign' : CampaignModel} {status : CampaignStatus}
    (carries : campaign.Carries status) (kept : ArtifactsKept campaign campaign') :
    campaign'.Carries status where
  analysis past := kept.analysis (carries.analysis past)
  content past := kept.content (carries.content past)

theorem pastAnalysis_source {status nextStatus : CampaignStatus}
    (source : working status = true) (edge : nextStatus ∈ allowedTransitions status)
    (analysed : status ≠ .analyzing) (past : pastAnalysis nextStatus = true) :
    pastAnalysis status = true := by
  revert source edge analysed past
  cases status <;> cases nextStatus <;> decide

theorem pastContent_source {status nextStatus : CampaignStatus}
    (source : working status = true) (edge : nextStatus ∈ allowedTransitions status)
    (drafted : nextStatus ≠ .reviewing) (past : pastContent nextStatus = true) :
    pastContent status = true := by
  revert source edge drafted past
  cases status <;> cases nextStatus <;> decide

theorem PairChange.artifacts {pair pair' : LockedPair} (change : PairChange pair pair') :
    ArtifactsKept pair.campaign pair'.campaign := by
  cases change with
  | quiet _ _ artifacts => exact artifacts
  | moved _ _ _ _ _ _ _ _ _ _ _ artifacts => exact artifacts

/-- An operation on a pair leaves it with the artifacts of its status. -/
theorem PairChange.carries {pair pair' : LockedPair} (change : PairChange pair pair')
    (carries : pair.campaign.Carries pair.workflow.status) :
    pair'.campaign.Carries pair'.workflow.status := by
  have kept := change.artifacts
  cases change with
  | quiet workflow =>
    obtain ⟨llmCallCount, same⟩ := workflow
    rw [same]
    exact carries.mono kept
  | moved source edge _ _ _ _ _ _ analyzed _ _ _ drafted =>
    constructor
    · intro past
      by_cases analyzing : pair.workflow.status = .analyzing
      · rcases analyzed analyzing with analysis | failed
        · exact analysis
        · rw [failed] at past
          cases past
      · exact kept.analysis (carries.analysis (pastAnalysis_source source edge analyzing past))
    · intro past
      by_cases reviewing : pair'.workflow.status = .reviewing
      · exact drafted reviewing
      · exact kept.content (carries.content (pastContent_source source edge reviewing past))

/-! ### The store -/

/-- No campaign is lost, nor an artifact of one. -/
def CampaignsKept (store store' : WorkflowStore) : Prop :=
  ∀ campaignId campaign, store.campaigns.lookup campaignId = some campaign →
    ∃ campaign', store'.campaigns.lookup campaignId = some campaign' ∧
      ArtifactsKept campaign campaign'

/-- Every workflow has a campaign with the artifacts of its status. -/
def Furnished (store : WorkflowStore) : Prop :=
  ∀ id row, store.workflows.lookup id = some row →
    ∃ campaign, store.campaigns.lookup row.campaignId = some campaign ∧
      campaign.Carries row.status

theorem CampaignsKept.of_same {store store' : WorkflowStore}
    (campaigns : store'.campaigns = store.campaigns) : CampaignsKept store store' := by
  intro campaignId campaign row
  exact ⟨campaign, by rw [campaigns]; exact row, .of_same rfl rfl⟩

/-- The write of one campaign that keeps its artifacts. -/
theorem CampaignsKept.insert {store store' : WorkflowStore} {campaignId : CampaignId}
    {campaign' : CampaignModel}
    (campaigns : store'.campaigns = store.campaigns.insert campaignId campaign')
    (kept : ∀ campaign, store.campaigns.lookup campaignId = some campaign →
      ArtifactsKept campaign campaign') : CampaignsKept store store' := by
  intro other campaign row
  rw [campaigns]
  by_cases same : other = campaignId
  · subst same
    exact ⟨campaign', AList.lookup_insert _, kept campaign row⟩
  · exact ⟨campaign, (AList.lookup_insert_ne same).trans row, .of_same rfl rfl⟩

theorem Furnished.frame {store store' : WorkflowStore} (furnished : Furnished store)
    (kept : CampaignsKept store store') (workflows : store'.workflows = store.workflows) :
    Furnished store' := by
  intro id row found
  rw [workflows] at found
  obtain ⟨campaign, held, carries⟩ := furnished id row found
  obtain ⟨campaign', held', artifacts⟩ := kept _ campaign held
  exact ⟨campaign', held', carries.mono artifacts⟩

theorem CampaignsKept.setPair {store : WorkflowStore} {id : WorkflowId} {pair pair' : LockedPair}
    (held : store.pair id = some pair)
    (campaignId : pair'.workflow.campaignId = pair.workflow.campaignId)
    (kept : ArtifactsKept pair.campaign pair'.campaign) :
    CampaignsKept store (store.setPair id pair') := by
  refine .insert rfl fun campaign row => ?_
  rw [campaignId, (WorkflowStore.pair_eq_some.mp held).2] at row
  cases row
  exact kept

theorem Furnished.setPair {store : WorkflowStore} {id : WorkflowId} {pair pair' : LockedPair}
    (furnished : Furnished store) (held : store.pair id = some pair)
    (campaignId : pair'.workflow.campaignId = pair.workflow.campaignId)
    (kept : ArtifactsKept pair.campaign pair'.campaign)
    (carries : pair'.campaign.Carries pair'.workflow.status) :
    Furnished (store.setPair id pair') := by
  intro other row found
  obtain ⟨-, rfl⟩ | ⟨-, before⟩ := Table.lookup_insert_cases found
  · exact ⟨pair'.campaign, AList.lookup_insert _, carries⟩
  · obtain ⟨campaign, row', carried⟩ := furnished other row before
    obtain ⟨campaign', row'', artifacts⟩ :=
      CampaignsKept.setPair held campaignId kept _ campaign row'
    exact ⟨campaign', row'', carried.mono artifacts⟩

/-- The workflow that a revision goes back to. -/
theorem latestRevision_row {store : WorkflowStore} {campaignId : CampaignId} {revision : Nat}
    (highest : store.latestRevisionParentForCampaign campaignId = some revision) :
    ∃ id row, row.campaignId = campaignId ∧ store.workflows.lookup id = some row ∧
      row.status = .revisionRequired := by
  have listed := (List.max?_eq_some_iff.mp highest).1
  unfold WorkflowStore.closedRevisions at listed
  obtain ⟨⟨id, row⟩, member, -⟩ := List.mem_map.mp listed
  obtain ⟨entry, closed⟩ := List.mem_filter.mp member
  obtain ⟨same, status, -⟩ := of_decide_eq_true closed
  exact ⟨id, row, same, AList.mem_lookup_iff.mpr entry, status⟩

variable {w : World (workflowHandlers settings)} {event : WorldEvent (workflowHandlers settings)}

/-- The write of a pair by an operation. -/
theorem Furnished.paired {store : WorkflowStore} {id : WorkflowId} {pair pair' : LockedPair}
    (furnished : Furnished store) (held : store.pair id = some pair)
    (change : PairChange pair pair') :
    CampaignsKept store (store.setPair id pair') ∧ Furnished (store.setPair id pair') := by
  obtain ⟨row, campaignRow⟩ := WorkflowStore.pair_eq_some.mp held
  obtain ⟨campaign, row', carries⟩ := furnished id pair.workflow row
  rw [campaignRow] at row'
  cases row'
  have campaignId := change.campaignId
  exact ⟨.setPair held campaignId change.artifacts,
    furnished.setPair held campaignId change.artifacts (change.carries carries)⟩

theorem StoreChange.furnished {store : WorkflowStore} (change : StoreChange w event store)
    (furnished : Furnished w.resources) : CampaignsKept w.resources store ∧ Furnished store := by
  have framed : ∀ {store' : WorkflowStore}, CampaignsKept w.resources store' →
      store'.workflows = w.resources.workflows →
        CampaignsKept w.resources store' ∧ Furnished store' :=
    fun kept same => ⟨kept, furnished.frame kept same⟩
  cases change with
  | same | agents => exact framed (.of_same rfl) rfl
  | paired held change => exact furnished.paired held change
  | saved found stage goesOn held saved => exact furnished.paired held (.of_save saved)
  | failed found stage goesOn held failed => exact furnished.paired held (.of_failure failed)
  | resumed found stage goesOn held source =>
    rename_i run pair
    obtain ⟨row, campaignRow⟩ := WorkflowStore.pair_eq_some.mp held
    obtain ⟨campaign, row', carries⟩ := furnished _ pair.workflow row
    rw [campaignRow] at row'
    cases row'
    have kept : ArtifactsKept pair.campaign
      (pair.setStatus .generating .generateContent).campaign := .of_same rfl rfl
    refine ⟨.setPair held rfl kept, furnished.setPair held rfl kept ⟨fun _ => ?_, ?_⟩⟩
    · exact carries.analysis (by rw [source]; rfl)
    · intro past
      cases past
  | decided held fresh change =>
    obtain ⟨kept, furnished'⟩ := furnished.paired held change
    exact ⟨kept, furnished'⟩
  | campaignCreated fresh =>
    refine framed (.insert rfl fun campaign row => ?_) rfl
    rw [AList.lookup_eq_none.mpr fresh] at row
    cases row
  | campaignUpdated row status version analysis content =>
    refine framed (.insert rfl fun campaign row' => ?_) rfl
    rw [row] at row'
    cases row'
    exact .of_same analysis content
  | workflowCreated created =>
    obtain ⟨fresh, -, campaign, row, held, rfl, rfl, status, -, rule⟩ :=
      createWorkflow_some created
    refine ⟨.of_same rfl, ?_⟩
    intro id' row' found
    obtain ⟨-, rfl⟩ | ⟨-, before⟩ := Table.lookup_insert_cases found
    · refine ⟨campaign, held, ?_⟩
      rcases rule with received | ⟨revising, revision, highest, -⟩
      · rw [status, received]
        exact ⟨nofun, nofun⟩
      · -- the closed workflow that is revised has had its brief analysed
        obtain ⟨parent, parentRow, same, found', closed⟩ := latestRevision_row highest
        obtain ⟨campaign', held', carries⟩ := furnished parent parentRow found'
        rw [same, held] at held'
        cases held'
        rw [status, revising]
        exact ⟨fun _ => carries.analysis (by rw [closed]; rfl), nofun⟩
    · exact furnished id' row' before

theorem furnished_step (furnished : Furnished w.resources) :
    CampaignsKept w.resources (w.step settings event).resources ∧
      Furnished (w.step settings event).resources :=
  (@step_store settings w event).furnished furnished

/-! ### The loop -/

/-- On a campaign with the artifacts of its status the loop asks for no transition but those that
start it. -/
theorem nextStage_requests {status : CampaignStatus} {campaign : CampaignModel} {stage : Stage}
    (carries : campaign.Carries status) (next : nextStage status campaign = .continues stage) :
    Requests stage := by
  have built : ∀ {stage' agentName}, Outcome.continues stage' = Outcome.continues stage →
      stage' = .buildContext agentName → Requests stage := by
    rintro stage' agentName ⟨⟩ rfl expectedStatus same
    cases same
  have moves : ∀ expectedStatus nextStatus nextStep, expectedStatus ≠ .generating →
      expectedStatus ≠ .reviewing →
        checkpointAfter expectedStatus = some (nextStatus, nextStep) →
          nextStatus ∈ allowedTransitions expectedStatus →
            Outcome.continues (Stage.transition expectedStatus) = Outcome.continues stage →
              Requests stage := by
    rintro expectedStatus nextStatus nextStep unfallen unfallen' rule allowed ⟨⟩ _ ⟨⟩
    exact ⟨unfallen, unfallen', nextStatus, nextStep, rule, allowed⟩
  cases status with
  | received =>
    exact moves .received .validating .validateInput (by decide) (by decide) rfl (by decide) next
  | validating =>
    exact moves .validating .analyzing .analyzeBrief (by decide) (by decide) rfl (by decide) next
  | revisionRequired =>
    exact moves .revisionRequired .generating .generateContent (by decide) (by decide) rfl
      (by decide) next
  | analyzing => exact built next rfl
  | generating =>
    have analysed : ¬campaign.briefAnalysis = none :=
      Option.isSome_iff_ne_none.mp (carries.analysis rfl)
    have same : nextStage .generating campaign = .continues (.buildContext .contentGenerator) := by
      show Outcome.continues (if campaign.briefAnalysis = none then _ else _) = _
      rw [if_neg analysed]
    exact built (same.symm.trans next) rfl
  | reviewing =>
    have drafted : ¬campaign.generatedContent = none :=
      Option.isSome_iff_ne_none.mp (carries.content rfl)
    have same : nextStage .reviewing campaign = .continues (.buildContext .contentReviewer) := by
      show Outcome.continues (if campaign.generatedContent = none then _ else _) = _
      rw [if_neg drafted]
    exact built (same.symm.trans next) rfl
  | pendingApproval | manualReviewRequired | approved | rejected | failed | needsClarification =>
    cases next

/-- The loop has read the workflow, and is to read the campaign, at a stage of this kind. -/
def Snapshots (store : WorkflowStore) (stage : Stage) : Prop :=
  ∀ workflow, stage = .readCampaign workflow →
    ∃ campaign, store.campaigns.lookup workflow.campaignId = some campaign ∧
      campaign.Carries workflow.status

/-- A stage that asks for nothing. -/
theorem plain_stage {store : WorkflowStore} {stage : Stage}
    (asksNothing : ∀ expectedStatus, stage ≠ .transition expectedStatus)
    (readsNothing : ∀ workflow, stage ≠ .readCampaign workflow) :
    Requests stage ∧ Snapshots store stage :=
  ⟨fun expectedStatus same => absurd same (asksNothing expectedStatus),
    fun workflow same => absurd same (readsNothing workflow)⟩

theorem handleError_plain {store : WorkflowStore} {error : RaisedError} {stage : Stage}
    (h : handleError error = .continues stage) : Requests stage ∧ Snapshots store stage := by
  obtain ⟨raised, rfl⟩ := handleError_continues h
  exact plain_stage (by simp) (by simp)

theorem fails_plain {store : WorkflowStore} {stage stage' : Stage} {error : RaisedError}
    (h : stage.fails error = .continues stage') : Requests stage' ∧ Snapshots store stage' := by
  cases stage with
  | checkpoint | getWorkflow | other | persistFailure => cases h
  | agentLoop | agentTurn | completeRun =>
    cases h
    exact plain_stage (by simp) (by simp)
  | _ => exact handleError_plain h

/-- What the next stage of a run asks for, and what it has read. -/
theorem requests_step {now : Timestamp} {workerId : String} {job : LeasedJob} {jobs : JobStore}
    {workflowId : WorkflowId} {answer : Answer} {store store' : WorkflowStore}
    {stage stage' : Stage} (furnished : Furnished store) (snapshots : Snapshots store stage)
    (step : StageStep settings now workerId job jobs workflowId answer store stage store'
      (.continues stage')) : Requests stage' ∧ Snapshots store stage' := by
  generalize result : Outcome.continues stage' = outcome at step
  cases step with
  | failed stage error => exact fails_plain result.symm
  | checked =>
    unfold jobCheckpoint at result
    split at result
    · cases result
    · cases result
      exact plain_stage (by simp) (by simp)
  | got =>
    split at result
    · cases result
    · cases result
      exact plain_stage (by simp) (by simp)
  | read row =>
    cases result
    refine ⟨fun _ same => absurd same (by simp), ?_⟩
    rintro workflow ⟨⟩
    exact furnished _ _ row
  | snapshot row =>
    obtain ⟨campaign, row', carries⟩ := snapshots _ rfl
    rw [row] at row'
    cases row'
    refine ⟨nextStage_requests carries result.symm, ?_⟩
    rintro workflow rfl
    obtain ⟨_, same⟩ | ⟨_, same⟩ := nextStage_continues result.symm <;> cases same
  | transitioned | remembered | built | created | started | turned | continued | answered
  | completed =>
    cases result
    exact plain_stage (by simp) (by simp)
  | saved =>
    cases result
    split <;> exact plain_stage (by simp) (by simp)
  | recorded row source =>
    rename_i error run
    cases error with
    | none => cases result
    | some error => exact handleError_plain result.symm
  | persisted => cases result
  | other =>
    split at result
    · cases result
    · unfold jobCheckpoint at result
      split at result
      · cases result
      · cases result
        exact plain_stage (by simp) (by simp)

/-! ### Errors -/

theorem ensureExpectedStatus_error {actual expected : CampaignStatus} {error : WorkflowError}
    (refused : ensureExpectedStatus actual expected = .error error) :
    (RaisedError.ofWorkflowError error).errorClass ≠ .invalidStateTransition := by
  unfold ensureExpectedStatus at refused
  split at refused
  · cases refused
    simp [RaisedError.ofWorkflowError]
  · cases refused

theorem transitionLocked_total {pair : LockedPair} {nextStatus : CampaignStatus}
    {nextStep : WorkflowStep} {error : WorkflowError}
    (allowed : canTransition pair.workflow.status nextStatus = true) :
    pair.transitionLocked nextStatus nextStep ≠ .error error := by
  intro refused
  obtain refused | ⟨_, -, pure⟩ := bind_eq_error.mp refused
  · unfold ensureValidTransition at refused
    rw [if_pos allowed] at refused
    cases refused
  · cases pure

/-- The checkpoints that save what an agent has returned ask for transitions of the table alone. -/
theorem save_valid {pair : LockedPair} {output : AgentOutput} {error : WorkflowError}
    (refused : output.save settings pair = .error error) :
    (RaisedError.ofWorkflowError error).errorClass ≠ .invalidStateTransition := by
  cases output with
  | analysis analysis =>
    obtain refused | ⟨_, held, refused⟩ := bind_eq_error.mp refused
    · exact ensureExpectedStatus_error refused
    · refine absurd refused (transitionLocked_total ?_)
      show canTransition pair.workflow.status _ = true
      rw [ensureExpectedStatus_ok.mp held]
      decide
  | content content =>
    obtain refused | ⟨_, held, refused⟩ := bind_eq_error.mp refused
    · exact ensureExpectedStatus_error refused
    · refine absurd refused (transitionLocked_total ?_)
      show canTransition pair.workflow.status _ = true
      rw [ensureExpectedStatus_ok.mp held]
      decide
  | review review =>
    obtain refused | ⟨_, held, refused⟩ := bind_eq_error.mp refused
    · exact ensureExpectedStatus_error refused
    · have reviewing := ensureExpectedStatus_ok.mp held
      have moves : ∀ {pair' : LockedPair} {nextStatus nextStep},
          pair'.workflow.status = pair.workflow.status →
            canTransition .reviewing nextStatus = true →
              pair'.transitionLocked nextStatus nextStep ≠ .error error := by
        intro pair' nextStatus nextStep same allowed
        refine transitionLocked_total ?_
        rw [same, reviewing]
        exact allowed
      cases verdict : review.status with
      | pass =>
        simp only [verdict] at refused
        exact absurd refused (moves rfl (by decide))
      | manualReviewRequired =>
        simp only [verdict] at refused
        exact absurd refused (moves rfl (by decide))
      | fail =>
        simp only [verdict] at refused
        split at refused
        · exact absurd refused (moves rfl (by decide))
        · exact absurd refused (moves rfl (by decide))

theorem loadPair_valid {store : WorkflowStore} {id : WorkflowId} {error : RaisedError}
    (refused : store.loadPair id = .error error) :
    error.errorClass ≠ .invalidStateTransition := by
  unfold WorkflowStore.loadPair at refused
  split at refused
  · cases refused
    simp [WorkflowStore.workflowNotFound]
  · split at refused
    · cases refused
      simp [WorkflowStore.campaignNotFound]
    · cases refused

theorem update_valid {store : WorkflowStore} {id : WorkflowId} {error : RaisedError}
    {assign : LockedPair → Except WorkflowError LockedPair}
    (valid : ∀ pair error, assign pair = .error error →
      (RaisedError.ofWorkflowError error).errorClass ≠ .invalidStateTransition)
    (refused : store.update id assign = .error error) :
    error.errorClass ≠ .invalidStateTransition := by
  unfold WorkflowStore.update at refused
  split at refused
  · rename_i raised loaded
    cases refused
    exact loadPair_valid loaded
  · split at refused
    · rename_i failure assigned
      cases refused
      exact valid _ _ assigned
    · cases refused

theorem buildContext_error {agentName : AgentName} {campaign : CampaignModel} {error : RaisedError}
    (refused : buildContext agentName campaign = .error error) :
    ∃ message, error = agentContextError message := by
  unfold buildContext at refused
  split at refused
  · cases refused
  · split at refused
    · exact ⟨_, (Except.error.inj refused).symm⟩
    · cases refused
  · split at refused
    · exact ⟨_, (Except.error.inj refused).symm⟩
    · cases refused

/-- No stage that asks for transitions of the table alone is refused as an invalid transition. -/
theorem perform_valid {now : Timestamp} {workerId : String} {job : LeasedJob} {jobs : JobStore}
    {id : WorkflowId} {answer : Answer} {store : WorkflowStore} {stage : Stage}
    {error : RaisedError} (requests : Requests stage)
    (refused : stage.perform settings now workerId job jobs id answer store = .error error) :
    error.errorClass ≠ .invalidStateTransition := by
  cases stage with
  | checkpoint | recordMemory | persistFailure | other => cases refused
  | getWorkflow | readWorkflow =>
    simp only [Stage.perform] at refused
    split at refused
    · cases refused
      simp [WorkflowStore.workflowNotFound]
    · cases refused
  | readCampaign workflow =>
    simp only [Stage.perform] at refused
    split at refused
    · cases refused
      simp [WorkflowStore.campaignNotFound]
    · cases refused
  | transition expectedStatus =>
    obtain ⟨-, -, nextStatus, nextStep, rule, allowed⟩ := requests expectedStatus rfl
    simp only [Stage.perform, rule] at refused
    obtain refused | ⟨_, -, pure⟩ := bind_eq_error.mp refused
    · refine update_valid (fun pair error refused => ?_) refused
      obtain refused | ⟨_, -, refused⟩ := bind_eq_error.mp refused
      · exact ensureExpectedStatus_error refused
      · obtain refused | ⟨_, -, pure⟩ := bind_eq_error.mp refused
        · unfold ensureValidTransition at refused
          rw [if_pos (canTransition_iff.mpr allowed)] at refused
          cases refused
        · cases pure
    · cases pure
  | buildContext agentName =>
    simp only [Stage.perform] at refused
    obtain refused | ⟨pair, -, refused⟩ := bind_eq_error.mp refused
    · exact loadPair_valid refused
    · obtain refused | ⟨_, -, pure⟩ := bind_eq_error.mp refused
      · obtain ⟨message, rfl⟩ := buildContext_error refused
        simp [agentContextError]
      · cases pure
  | createRun context =>
    simp only [Stage.perform] at refused
    split at refused
    · cases refused
      simp
    · cases refused
  | startRun | completeRun | failRun =>
    simp only [Stage.perform] at refused
    split at refused
    · cases refused
      simp [invalidAgentRunTransition]
    · cases refused
  | agentLoop =>
    simp only [Stage.perform] at refused
    obtain refused | ⟨_, -, pure⟩ := bind_eq_error.mp refused
    · refine update_valid (fun pair error refused => ?_) refused
      unfold LockedPair.recordLlmCall at refused
      split at refused
      · cases refused
        simp [RaisedError.ofWorkflowError]
      · cases refused
    · cases pure
  | agentTurn =>
    simp only [Stage.perform] at refused
    split at refused
    · split at refused
      · cases refused
      · cases refused
        simp
    · cases refused
  | save context output =>
    simp only [Stage.perform] at refused
    obtain refused | ⟨_, -, pure⟩ := bind_eq_error.mp refused
    · exact update_valid (fun pair error refused => save_valid refused) refused
    · cases pure

/-! ### Steps and runs -/

/-- What holds in every state of a run. -/
structure InPlace (w : World (workflowHandlers settings)) : Prop where
  furnished : Furnished w.resources
  requests : ∀ id run stage, w.runs.lookup id = some run → run.phase = .handling stage →
    Requests stage
  snapshots : ∀ id run stage, w.runs.lookup id = some run → run.phase = .handling stage →
    Snapshots w.resources stage

theorem Snapshots.kept {store store' : WorkflowStore} {stage : Stage}
    (snapshots : Snapshots store stage) (kept : CampaignsKept store store') :
    Snapshots store' stage := by
  intro workflow same
  obtain ⟨campaign, row, carries⟩ := snapshots workflow same
  obtain ⟨campaign', row', artifacts⟩ := kept _ campaign row
  exact ⟨campaign', row', carries.mono artifacts⟩

/-- What a run asks for and has read after an event. -/
theorem stage_step (inPlace : InPlace w) {id : RunId}
    {run' : ProcessRun (workflowHandlers settings)} {stage' : Stage}
    (found' : (w.step settings event).runs.lookup id = some run')
    (phase' : run'.phase = .handling stage') :
    Requests stage' ∧ Snapshots (w.step settings event).resources stage' := by
  obtain ⟨kept, -⟩ := @furnished_step settings w event inPlace.furnished
  suffices h : Requests stage' ∧ Snapshots w.resources stage' from ⟨h.1, h.2.kept kept⟩
  obtain ⟨run, found, -, -, move⟩ := step_handler found' phase'
  cases move with
  | kept phase =>
    exact ⟨inPlace.requests id run stage' found phase, inPlace.snapshots id run stage' found phase⟩
  | began =>
    show Requests (if _ then _ else _) ∧ Snapshots _ (if _ then _ else _)
    split <;> exact plain_stage (by simp) (by simp)
  | stepped phase calm outcome =>
    rename_i answer stage
    have step := @handle_step settings w.now run.workerId run.job w.jobs
      (workflowId run) answer w.resources stage
    have continues : (Stage.handle settings w.now run.workerId run.job w.jobs (workflowId run)
      answer w.resources stage).2 = .continues stage' := outcome
    rw [continues] at step
    exact requests_step inPlace.furnished (inPlace.snapshots id run stage found phase) step
  | interrupted phase raised next hit =>
    rename_i stage
    have goesOn : stage.interrupted = some stage' := next
    cases stage <;> cases goesOn <;> exact plain_stage (by simp) (by simp)

theorem inPlace_step (inPlace : InPlace w) : InPlace (w.step settings event) where
  furnished := (furnished_step inPlace.furnished).2
  requests _ _ _ found' phase' := (stage_step inPlace found' phase').1
  snapshots _ _ _ found' phase' := (stage_step inPlace found' phase').2

theorem InPlace.artifactsInPlace (inPlace : InPlace w) : ArtifactsInPlace w where
  workflows := inPlace.furnished
  requests id run stage found held := inPlace.requests id run stage found (stageOf_eq.mp held)
  valid id run stage _ _ found held refused :=
    perform_valid (inPlace.requests id run stage found (stageOf_eq.mp held)) refused

theorem inPlace_init :
    InPlace ({ resources := {} } : World (workflowHandlers settings)) where
  furnished := by intro _ _ found; cases found
  requests := by intro _ _ _ found; cases found
  snapshots := by intro _ _ _ found; cases found

/-- In every state of every run the campaigns have the artifacts of their workflows, and the loop asks
for transitions of the table alone. -/
theorem artifacts_in_place (settings : Settings)
    (events : List (WorldEvent (workflowHandlers settings))) :
    (workflowApplication settings).Always ArtifactsInPlace (workflowApplication settings).init
      events := by
  rw [Machine.always_iff_prefix]
  intro prefixEvents _
  have reachable : (workflowApplication settings).Reachable
      ((workflowApplication settings).run (workflowApplication settings).init prefixEvents) :=
    ⟨prefixEvents, rfl⟩
  have inPlace := reachable.holds (I := InPlace) inPlace_init
    fun _ _ inPlace => inPlace_step inPlace
  exact inPlace.artifactsInPlace

end CyberLegends.Workflow
