import Std.Data.String.ToNat
import CyberLegends.Workflow.Escapes

/-! Whether a workflow can be stuck. An open workflow that is to be reviewed manually is never left.
Any other is left as long as it waits for a decision or its job can be brought back; a checkpoint that
acts on an overtaken reading may put a workflow to work again although its job has succeeded, and then
nothing moves it. -/

namespace CyberLegends.Workflow

open CyberLegends.Core Lib Jobs

variable {settings : Settings} {jobKey : WorkflowId → String}
  {w : World (hintedHandlers settings)} {event : WorldEvent (hintedHandlers settings)}

/-! ### The row of a workflow -/

/-- What stays true of the row of a workflow. -/
structure RowKept (row row' : WorkflowRunModel) : Prop where
  campaignId : row'.campaignId = row.campaignId
  completed : row.completedAt ≠ none → row'.completedAt ≠ none
  clear : row.status ≠ .needsClarification → row'.status ≠ .needsClarification

theorem RowKept.refl (row : WorkflowRunModel) : RowKept row row where
  campaignId := rfl
  completed := id
  clear := id

theorem PairChange.rowKept {pair pair' : LockedPair} (change : PairChange pair pair') :
    RowKept pair.workflow pair'.workflow where
  campaignId := change.campaignId
  completed := by
    cases change with
    | quiet workflow =>
      obtain ⟨llmCallCount, same⟩ := workflow
      rw [same]
      exact id
    | moved _ _ _ _ _ _ _ _ _ kept => exact kept
  clear := by
    cases change with
    | quiet workflow =>
      obtain ⟨llmCallCount, same⟩ := workflow
      rw [same]
      exact id
    | moved _ _ _ _ _ _ _ _ _ _ clear => exact fun _ => clear

/-- A commit on an overtaken reading keeps what the transaction keeps of its reading. -/
theorem RowKept.flushed {hint assigned committed : WorkflowRunModel} (kept : RowKept hint assigned)
    (clear : hint.status ≠ .needsClarification) :
    RowKept committed (hint.flush assigned committed) where
  campaignId := by
    show flush hint.campaignId assigned.campaignId committed.campaignId = _
    rw [kept.campaignId, flush_same]
  completed := by
    intro closed
    show flush hint.completedAt assigned.completedAt committed.completedAt ≠ none
    by_cases same : assigned.completedAt = hint.completedAt
    · rw [same, flush_same]
      exact closed
    · rw [flush_changed same]
      intro open_
      by_cases before : hint.completedAt = none
      · exact same (open_.trans before.symm)
      · exact kept.completed before open_
  clear := by
    intro before
    show flush hint.status assigned.status committed.status ≠ _
    rcases flush_cases hint.status assigned.status committed.status with ⟨same, -⟩ | same
    · rw [same]
      exact before
    · rw [same]
      exact kept.clear clear

/-- What a locked transaction assigns is a change of the pair that it sees, or takes up a revision. -/
theorem Assigns.change {now : Timestamp} {pair pair' : LockedPair} {stage : Stage}
    (assigns : Assigns settings now pair stage pair') :
    PairChange pair pair' ∨ pair.workflow.status = .revisionRequired ∧
      pair' = pair.setStatus .generating .generateContent := by
  cases assigns with
  | transitioned rule expected valid =>
    rename_i expectedStatus nextStatus nextStep
    by_cases resumes : expectedStatus = .revisionRequired
    · subst resumes
      cases rule
      exact .inr ⟨expected, rfl⟩
    · exact .inl (.of_transition expected rule valid resumes)
  | counted counted => exact .inl (.of_count counted)
  | saved saved => exact .inl (.of_save saved)
  | failed failed => exact .inl (.of_failure failed)

theorem Assigns.rowKept {now : Timestamp} {pair pair' : LockedPair} {stage : Stage}
    (assigns : Assigns settings now pair stage pair') : RowKept pair.workflow pair'.workflow := by
  rcases assigns.change with change | ⟨-, rfl⟩
  · exact change.rowKept
  · exact ⟨rfl, id, fun _ unclear => by cases unclear⟩

/-- A locked transaction keeps the artifacts of the campaign, and leaves those of its status if the
pair that it sees has them. -/
theorem Assigns.artifacts {now : Timestamp} {pair pair' : LockedPair} {stage : Stage}
    (assigns : Assigns settings now pair stage pair') :
    ArtifactsKept pair.campaign pair'.campaign ∧
      (pair.campaign.Carries pair.workflow.status →
        pair'.campaign.Carries pair'.workflow.status) := by
  rcases assigns.change with change | ⟨source, rfl⟩
  · exact ⟨change.artifacts, change.carries⟩
  · refine ⟨.of_same rfl rfl, fun carries => ⟨fun _ => ?_, ?_⟩⟩
    · exact carries.analysis (by rw [source]; rfl)
    · intro past
      cases past

/-- What holds of a reading that a transaction has begun with. -/
structure HintHeld (store : WorkflowStore) (id : WorkflowId) (hint : WorkflowRunModel) : Prop where
  row : ∃ row, store.workflows.lookup id = some row ∧ row.campaignId = hint.campaignId
  furnished : ∃ campaign, store.campaigns.lookup hint.campaignId = some campaign ∧
    campaign.Carries hint.status
  clear : hint.status ≠ .needsClarification

/-- Every reading in the hands of a run. -/
def HintsHeld (w : World (hintedHandlers settings)) : Prop :=
  ∀ runId run stage hint, w.runs.lookup runId = some run →
    hintedOf run = some { stage, hint := some hint } → HintHeld w.resources (workflowId run) hint

theorem rowKept_setPair {store : WorkflowStore} {workflowId id : WorkflowId}
    {pair pair' : LockedPair} {row : WorkflowRunModel} (held : store.pair workflowId = some pair)
    (kept : RowKept pair.workflow pair'.workflow) (found : store.workflows.lookup id = some row) :
    ∃ row', (store.setPair workflowId pair').workflows.lookup id = some row' ∧
      RowKept row row' := by
  by_cases same : id = workflowId
  · subst same
    rw [(WorkflowStore.pair_eq_some.mp held).1] at found
    cases found
    exact ⟨pair'.workflow, AList.lookup_insert _, kept⟩
  · exact ⟨row, (AList.lookup_insert_ne same).trans found, .refl row⟩

/-- A workflow stays, and what stays true of it stays true. -/
theorem rowKept_step (hints : HintsHeld w) {id : WorkflowId} {row : WorkflowRunModel}
    (found : w.resources.workflows.lookup id = some row) :
    ∃ row', (w.step settings event).resources.workflows.lookup id = some row' ∧
      RowKept row row' := by
  have change := @step_hinted settings w event
  generalize (w.step settings event).resources = store at change ⊢
  cases change with
  | quiet => exact ⟨row, found, .refl row⟩
  | requested change =>
    cases change with
    | same | campaignCreated | campaignUpdated => exact ⟨row, found, .refl row⟩
    | paired held change => exact rowKept_setPair held change.rowKept found
    | decided held _ change => exact rowKept_setPair held change.rowKept found
    | workflowCreated created =>
      obtain ⟨fresh, -, campaign, row', -, rfl, -⟩ := createWorkflow_some created
      refine ⟨row, (AList.lookup_insert_ne ?_).trans found, .refl row⟩
      rintro rfl
      have there : id ∈ w.resources.workflows := AList.lookup_isSome.mp (by rw [found]; rfl)
      exact fresh there
  | accepted accepted =>
    obtain ⟨campaign, -, unused, -, rfl⟩ := acceptCampaign_some accepted
    refine ⟨row, (AList.lookup_insert_ne ?_).trans found, .refl row⟩
    rintro rfl
    exact unused (AList.lookup_isSome.mp (by rw [found]; rfl))
  | written foundRun held goesOn there campaignRow assigns =>
    rename_i run stage hint committed campaign assigned
    by_cases same : id = workflowId run
    · subst same
      rw [found] at there
      cases there
      exact ⟨_, AList.lookup_insert _,
        RowKept.flushed assigns.rowKept (hints _ run stage hint foundRun held).clear⟩
    · exact ⟨row, (AList.lookup_insert_ne same).trans found, .refl row⟩

/-- No workflow needs a clarification. -/
theorem clear_step (hints : HintsHeld w)
    (clear : ∀ id row, w.resources.workflows.lookup id = some row →
      row.status ≠ .needsClarification) (id : WorkflowId) (row' : WorkflowRunModel)
    (found' : (w.step settings event).resources.workflows.lookup id = some row') :
    row'.status ≠ .needsClarification := by
  cases before : w.resources.workflows.lookup id with
  | some row =>
    obtain ⟨row₁, found, kept⟩ := @rowKept_step settings w event hints id row before
    rw [found'] at found
    cases found
    exact kept.clear (clear id row before)
  | none =>
    have change := @step_hinted settings w event
    generalize (w.step settings event).resources = store at change found'
    have unchanged : w.resources.workflows.lookup id = some row' → False := by
      intro found
      rw [before] at found
      cases found
    cases change with
    | quiet => exact (unchanged found').elim
    | requested change =>
      cases change with
      | same | campaignCreated | campaignUpdated => exact (unchanged found').elim
      | paired held | decided held =>
        obtain ⟨rfl, -⟩ | ⟨-, found⟩ := Table.lookup_insert_cases found'
        · obtain ⟨there, -⟩ := WorkflowStore.pair_eq_some.mp held
          have there : w.resources.workflows.lookup id = some _ := there
          rw [before] at there
          cases there
        · exact (unchanged found).elim
      | workflowCreated created =>
        obtain ⟨-, -, campaign, row, -, rfl, -, status, -, rule⟩ := createWorkflow_some created
        obtain ⟨-, rfl⟩ | ⟨-, found⟩ := Table.lookup_insert_cases found'
        · rw [status]
          rcases rule with received | ⟨revising, -⟩
          · rw [received]
            decide
          · rw [revising]
            decide
        · exact (unchanged found).elim
    | accepted accepted =>
      obtain ⟨campaign, -, unused, -, rfl⟩ := acceptCampaign_some accepted
      obtain ⟨-, rfl⟩ | ⟨-, found⟩ := Table.lookup_insert_cases found'
      · show CampaignStatus.received ≠ _
        decide
      · exact (unchanged found).elim
    | written foundRun held goesOn there =>
      obtain ⟨rfl, -⟩ | ⟨-, found⟩ := Table.lookup_insert_cases found'
      · rw [before] at there
        cases there
      · exact (unchanged found).elim

/-- A workflow that has been decided is completed. -/
theorem decided_step (hints : HintsHeld w) {id : WorkflowId}
    (decided : id ∈ w.resources.approvals → ∃ row, w.resources.workflows.lookup id = some row ∧
      row.completedAt ≠ none) (member : id ∈ (w.step settings event).resources.approvals) :
    ∃ row, (w.step settings event).resources.workflows.lookup id = some row ∧
      row.completedAt ≠ none := by
  have before : id ∈ w.resources.approvals →
      ∃ row, (w.step settings event).resources.workflows.lookup id = some row ∧
        row.completedAt ≠ none := by
    intro member
    obtain ⟨row, found, completed⟩ := decided member
    obtain ⟨row', found', kept⟩ := @rowKept_step settings w event hints id row found
    exact ⟨row', found', kept.completed completed⟩
  have change := @step_hinted settings w event
  generalize (w.step settings event).resources = store at change member before ⊢
  cases change with
  | quiet | written => exact before member
  | accepted accepted =>
    obtain ⟨campaign, -, -, -, rfl⟩ := acceptCampaign_some accepted
    exact before member
  | requested change =>
    cases change with
    | same | paired | campaignCreated | campaignUpdated => exact before member
    | workflowCreated created =>
      obtain ⟨-, -, campaign, row, -, rfl, -⟩ := createWorkflow_some created
      exact before member
    | decided held fresh change content completed =>
      rcases (AList.mem_insert _).mp member with rfl | member
      · exact ⟨_, AList.lookup_insert _, completed⟩
      · exact before member

/-! ### The artifacts of a campaign -/

theorem furnished_hinted (hints : HintsHeld w) (furnished : Furnished w.resources) :
    CampaignsKept w.resources (w.step settings event).resources ∧
      Furnished (w.step settings event).resources := by
  have change := @step_hinted settings w event
  generalize (w.step settings event).resources = store at change ⊢
  cases change with
  | quiet => exact ⟨.of_same rfl, furnished.frame (.of_same rfl) rfl⟩
  | requested change => exact @StoreChange.furnished settings (rowsOf w) _ _ change furnished
  | accepted accepted =>
    obtain ⟨campaign, unused, -, status, rfl⟩ := acceptCampaign_some accepted
    rename_i campaignId _ workflowId
    have kept : CampaignsKept w.resources
        { w.resources with
          campaigns := w.resources.campaigns.insert campaignId campaign
          workflows := w.resources.workflows.insert workflowId { campaignId } } := by
      refine .insert rfl fun before row => ?_
      rw [AList.lookup_eq_none.mpr unused] at row
      cases row
    refine ⟨kept, ?_⟩
    intro id row found
    obtain ⟨rfl, rfl⟩ | ⟨-, before⟩ := Table.lookup_insert_cases found
    · refine ⟨campaign, AList.lookup_insert _, ?_, ?_⟩
      · intro past
        cases past
      · intro past
        cases past
    · obtain ⟨held, row', carries⟩ := furnished id row before
      obtain ⟨held', row'', artifacts⟩ := kept _ held row'
      exact ⟨held', row'', carries.mono artifacts⟩
  | written foundRun held goesOn there campaignRow assigns =>
    rename_i runId answer run stage hint committed campaign assigned
    obtain ⟨⟨row, found, sameCampaign⟩, ⟨carrying, row', carries⟩, -⟩ :=
      hints _ run stage hint foundRun held
    rw [there] at found
    cases found
    rw [campaignRow] at row'
    cases row'
    obtain ⟨artifacts, carries'⟩ := assigns.artifacts
    have kept : CampaignsKept w.resources
        (w.resources.writeHinted (workflowId run) hint committed assigned) := by
      refine .insert rfl fun before row => ?_
      rw [campaignRow] at row
      cases row
      exact artifacts
    refine ⟨kept, ?_⟩
    intro id row found
    obtain ⟨rfl, rfl⟩ | ⟨-, before⟩ := Table.lookup_insert_cases found
    · have campaignId : (hint.flush assigned.workflow committed).campaignId = hint.campaignId := by
        show flush hint.campaignId assigned.workflow.campaignId committed.campaignId = _
        rw [assigns.rowKept.campaignId, flush_same, sameCampaign]
      refine ⟨assigned.campaign, by rw [campaignId]; exact AList.lookup_insert _, ?_⟩
      show assigned.campaign.Carries
        (flush hint.status assigned.workflow.status committed.status)
      rcases flush_cases hint.status assigned.workflow.status committed.status with
        ⟨same, -⟩ | same
      · -- the committed status stays, and its artifacts are still there
        rw [same]
        obtain ⟨owner, ownerRow, committedCarries⟩ := furnished _ committed there
        rw [sameCampaign, campaignRow] at ownerRow
        cases ownerRow
        exact committedCarries.mono artifacts
      · rw [same]
        exact carries' carries
    · obtain ⟨owner, row', committedCarries⟩ := furnished id row before
      obtain ⟨owner', row'', artifacts'⟩ := kept _ owner row'
      exact ⟨owner', row'', committedCarries.mono artifacts'⟩

theorem HintHeld.step (hints : HintsHeld w) (furnished : Furnished w.resources) {id : WorkflowId}
    {hint : WorkflowRunModel} (held : HintHeld w.resources id hint) :
    HintHeld (w.step settings event).resources id hint where
  row := by
    obtain ⟨row, found, same⟩ := held.row
    obtain ⟨row', found', kept⟩ := @rowKept_step settings w event hints id row found
    exact ⟨row', found', kept.campaignId.trans same⟩
  furnished := by
    obtain ⟨campaign, row, carries⟩ := held.furnished
    obtain ⟨campaign', row', artifacts⟩ :=
      (@furnished_hinted settings w event hints furnished).1 _ campaign row
    exact ⟨campaign', row', carries.mono artifacts⟩
  clear := held.clear

/-- A reading is that of the committed row, so it holds what the rows hold. -/
theorem hints_step (hints : HintsHeld w) (furnished : Furnished w.resources)
    (clear : ∀ id row, w.resources.workflows.lookup id = some row →
      row.status ≠ .needsClarification) : HintsHeld (w.step settings event) := by
  intro runId run' stage hint found' stands'
  obtain ⟨run, found, same, -, move⟩ := step_handler found' (hintedOf_eq.mp stands')
  have about : workflowId run' = workflowId run := by
    unfold workflowId
    rw [same]
  rw [about]
  refine HintHeld.step hints furnished ?_
  generalize position : ({ stage, hint := some hint } : HintedStage) = held' at move
  cases move with
  | kept phase =>
    subst position
    exact hints runId run stage hint found (hintedOf_eq.mpr phase)
  | began phase =>
    have unread : (some hint : Option WorkflowRunModel) = none :=
      congrArg HintedStage.hint position
    cases unread
  | stepped phase calm outcome =>
    rename_i answer held
    have step := hinted_stepped outcome
    rw [← position] at step
    generalize result : Outcome.continues ({ stage, hint := some hint } : HintedStage) = after
      at step
    generalize ((hintedHandlers settings).handle w.now run.workerId run.job answer w.jobs
      w.resources held).1 = store at step
    have unread : ∀ {outcome : Outcome Stage},
        Outcome.continues ({ stage, hint := some hint } : HintedStage) ≠ unhinted outcome := by
      intro outcome same
      cases outcome <;> cases same
    cases step with
    | failed | plain | written => exact absurd result unread
    | refused => cases result
    | hinted goesOn locks there =>
      obtain ⟨row, found⟩ := Option.isSome_iff_exists.mp (AList.lookup_isSome.mpr there)
      have read : some hint = w.resources.workflows.lookup (workflowId run) :=
        congrArg HintedStage.hint (Outcome.continues.inj result)
      rw [found] at read
      cases read
      exact ⟨⟨hint, found, rfl⟩, furnished _ hint found, clear _ hint found⟩
  | interrupted phase raised next hit =>
    obtain ⟨stage', -, same⟩ := Option.map_eq_some_iff.mp next
    rw [← position] at same
    cases congrArg HintedStage.hint same

/-! ### The kinds of handlers -/

/-- The handler of a job of another kind has no stage of a workflow. -/
def Works (w : World (hintedHandlers settings)) : Prop :=
  ∀ runId run held, w.runs.lookup runId = some run → hintedOf run = some held →
    workflowOf run.job.payload = none → ∃ checked, held.stage = .other checked

theorem other_fails {checked : Bool} {error : RaisedError} {stage : Stage} :
    (Stage.other checked).fails error ≠ .continues stage := by
  intro leads
  cases leads

theorem works_step (works : Works w) : Works (w.step settings event) := by
  intro runId run' held' found' stands' kind
  obtain ⟨run, found, same, -, move⟩ := step_handler found' (hintedOf_eq.mp stands')
  rw [same] at kind
  cases move with
  | kept phase => exact works runId run held' found (hintedOf_eq.mpr phase) kind
  | began phase =>
    refine ⟨false, ?_⟩
    show (if (workflowOf run.job.payload).isSome then Stage.checkpoint else .other false) = _
    rw [kind]
    rfl
  | stepped phase calm outcome =>
    rename_i answer held
    obtain ⟨checked, other⟩ := works runId run held found (hintedOf_eq.mpr phase) kind
    have step := hinted_stepped outcome
    generalize ((hintedHandlers settings).handle w.now run.workerId run.job answer w.jobs
      w.resources held).1 = store at step
    rcases hinted_continues step with ⟨-, ⟨error, fails, -⟩ | ⟨-, performed⟩⟩ | ⟨locks, -⟩
    · rw [other] at fails
      exact absurd fails other_fails
    · rw [other] at performed
      simp only [Stage.perform, jobCheckpoint] at performed
      split at performed
      · cases performed
      · split at performed
        · cases performed
        · have next := (Prod.mk.inj (Except.ok.inj performed)).2
          exact ⟨true, (Outcome.continues.inj next).symm⟩
    · rw [other] at locks
      cases locks
  | interrupted phase raised next hit =>
    rename_i held
    obtain ⟨checked, other⟩ := works runId run held found (hintedOf_eq.mpr phase) kind
    obtain ⟨stage, goesOn, -⟩ := Option.map_eq_some_iff.mp next
    rw [other] at goesOn
    cases goesOn

/-! ### The invariant -/

/-- A job has the key of a workflow only if it runs that workflow. -/
def Keyed (jobKey : WorkflowId → String) (jobs : JobStore) : Prop :=
  ∀ jobId job id, jobs.lookup jobId = some job → job.idempotencyKey = jobKey id →
    job.payload = .workflowRun id

/-- What holds in every state of a run of offered events. -/
structure Escapable (jobKey : WorkflowId → String) (w : World (hintedHandlers settings)) :
    Prop where
  works : Works w
  rows : Table.All (fun _ => Supported) w.jobs
  keyed : Keyed jobKey w.jobs
  hints : HintsHeld w
  furnished : Furnished w.resources
  clear : ∀ id row, w.resources.workflows.lookup id = some row →
    row.status ≠ .needsClarification
  decided : ∀ id, id ∈ w.resources.approvals →
    ∃ row, w.resources.workflows.lookup id = some row ∧ row.completedAt ≠ none

theorem escapable_init : Escapable jobKey (hintedApplication settings).init where
  works := by intro runId run held found; cases found
  rows := Table.All.empty
  keyed := by intro jobId job id row; cases row
  hints := by intro runId run stage hint found; cases found
  furnished := by intro id row found; cases found
  clear := by intro id row found; cases found
  decided := by intro id member; cases member

/-- An offered event gives the key of a workflow to no job but one that runs the workflow. -/
theorem keyed_step (injective : Function.Injective jobKey) (keyed : Keyed jobKey w.jobs)
    (offered : Offered jobKey w event) : Keyed jobKey (w.step settings event).jobs := by
  intro jobId job' id row' key
  cases before : w.jobs.lookup jobId with
  | some job =>
    obtain ⟨job₁, row₁, identified⟩ := @row_identified _ settings w event _ _ before
    rw [row'] at row₁
    cases row₁
    rw [identified.payload]
    exact keyed jobId job id before (identified.idempotencyKey.symm.trans key)
  | none =>
    have change := @step_row _ settings w event jobId
    rw [before, row'] at change
    cases change with
    | submitted accepted written =>
      rename_i submission priority maxAttempts availableAt idempotencyKey payload write
      have key : idempotencyKey = jobKey id := key
      cases submission with
      | other => exact absurd key (offered id)
      | acceptCampaign => exact absurd key (offered.2.2.2 id)
      | runWorkflow workflowId =>
        have admitted : (if workflowId ∈ w.resources.workflows then
          some (JobPayload.workflowRun workflowId, fun _ : JobId => w.resources) else none) =
            some (payload, write) := accepted
        split at admitted
        · cases admitted
          have same : workflowId = id := injective (offered.2.2.2.symm.trans key)
          rw [← same]
          rfl
        · cases admitted

theorem escapable_step (injective : Function.Injective jobKey) (escapable : Escapable jobKey w)
    (offered : Offered jobKey w event) : Escapable jobKey (w.step settings event) where
  works := works_step escapable.works
  rows := rows_all (fun _ new => .newJob new) (fun _ _ supported step => supported.step step)
    escapable.rows
  keyed := keyed_step injective escapable.keyed offered
  hints := hints_step escapable.hints escapable.furnished escapable.clear
  furnished := (furnished_hinted escapable.hints escapable.furnished).2
  clear := clear_step escapable.hints escapable.clear
  decided := by
    intro id member
    exact decided_step escapable.hints (escapable.decided id) member

/-! ### The ways out -/

/-- The workflow has no job yet, or one that can be brought back. -/
def Revivable (jobKey : WorkflowId → String) (jobs : JobStore) (id : WorkflowId) : Prop :=
  (∀ jobId job, jobs.lookup jobId = some job → job.idempotencyKey ≠ jobKey id) ∨
    ∃ jobId job, jobs.lookup jobId = some job ∧ job.payload = .workflowRun id ∧
      job.status ≠ .succeeded

/-- An open workflow in the status can be moved on: it is not to be reviewed manually, and where its
job is to go on with it that job is not lost. -/
def Movable (jobKey : WorkflowId → String) (jobs : JobStore) (id : WorkflowId)
    (status : CampaignStatus) : Prop :=
  status ≠ .manualReviewRequired ∧ (resumable status = true → Revivable jobKey jobs id)

/-- The job of an open workflow with something to do, unless it has succeeded, is brought back. -/
theorem escapes_job {jobId : JobId} {job : BackgroundJobModel} {id : WorkflowId} {pair : LockedPair}
    (row : w.jobs.lookup jobId = some job) (supported : Supported job)
    (unfinished : job.status ≠ .succeeded) (payload : job.payload = .workflowRun id)
    (held : w.resources.pair id = some pair) (resumes : resumable pair.workflow.status = true)
    (isOpen : pair.workflow.completedAt = none)
    (carries : pair.campaign.Carries pair.workflow.status) : Escapes jobKey w id := by
  obtain ⟨v, leads, kept, runId, run, starts⟩ :=
    @recalled _ settings w jobId job row supported unfinished
  rw [payload] at starts
  rw [← kept] at held
  exact Escapes.operates leads (escapes_start starts held resumes isOpen carries)

/-- A job is enqueued under the key of a workflow that has no job yet. -/
theorem submitted {id : WorkflowId} (there : id ∈ w.resources.workflows)
    (unused : w.jobs.findByIdempotencyKey (jobKey id) = none) :
    ∃ (event : WorldEvent (hintedHandlers settings)) (jobId : JobId) (job : BackgroundJobModel),
      Offered jobKey w event ∧ (w.step settings event).resources = w.resources ∧
        (w.step settings event).jobs.lookup jobId = some job ∧ NewJob job ∧
          job.status = .pending ∧ job.payload = .workflowRun id := by
  obtain ⟨jobId, job, new, payload, pending, enqueued⟩ :=
    enqueue_unused settings unused (.workflowRun id) 50 none w.now
  have accepted : (hintedHandlers settings).submit w.now (.runWorkflow id) w.resources =
      some (.workflowRun id, fun _ => w.resources) := if_pos there
  have after : w.step settings (.submit (.runWorkflow id) jobId 50 none none (jobKey id)) =
      { w with jobs := w.jobs.insert jobId job } := by
    simp only [World.step, World.submit, accepted, enqueued]
  refine ⟨.submit (.runWorkflow id) jobId 50 none none (jobKey id), jobId, job,
    ⟨rfl, rfl, rfl, rfl⟩, ?_, ?_, new, pending, payload⟩
  · rw [after]
  · rw [after]
    exact AList.lookup_insert _

/-- An open workflow with something to do is brought to its end by its job. -/
theorem escapes_resumable (escapable : Escapable jobKey w) {id : WorkflowId} {pair : LockedPair}
    (held : w.resources.pair id = some pair) (resumes : resumable pair.workflow.status = true)
    (isOpen : pair.workflow.completedAt = none) (revivable : Revivable jobKey w.jobs id) :
    Escapes jobKey w id := by
  obtain ⟨row, campaignRow⟩ := WorkflowStore.pair_eq_some.mp held
  obtain ⟨campaign, row', carries⟩ := escapable.furnished id pair.workflow row
  rw [campaignRow] at row'
  cases row'
  rcases revivable with unused | ⟨jobId, job, there, payload, unfinished⟩
  · have member : id ∈ w.resources.workflows := AList.lookup_isSome.mp (by rw [row]; rfl)
    obtain ⟨event, jobId, job, offered, kept, row', new, pending, payload⟩ :=
      @submitted settings jobKey w id member (findByIdempotencyKey_eq_none unused)
    have unfinished : job.status ≠ .succeeded := by
      rw [pending]
      decide
    refine Escapes.step offered ?_
    rw [← kept] at held
    exact escapes_job row' (.newJob new) unfinished payload held resumes isOpen carries
  · exact escapes_job there (escapable.rows jobId job there) unfinished payload held resumes isOpen
      carries

/-- A pending workflow is rejected by a reviewer. -/
theorem escapes_pending (escapable : Escapable jobKey w) {id : WorkflowId} {pair : LockedPair}
    (held : w.resources.pair id = some pair) (pending : pair.workflow.status = .pendingApproval)
    (isOpen : pair.workflow.completedAt = none) : Escapes jobKey w id := by
  obtain ⟨row, -⟩ := WorkflowStore.pair_eq_some.mp held
  have undecided : id ∉ w.resources.approvals := by
    intro member
    obtain ⟨row', found, completed⟩ := escapable.decided id member
    have row : w.resources.workflows.lookup id = some pair.workflow := row
    rw [row] at found
    cases found
    exact completed isOpen
  let asked : ApprovalRequest :=
    { campaignId := pair.workflow.campaignId
      workflowId := id
      decision := .reject
      expectedVersion := pair.campaign.version }
  obtain ⟨pair', record, decides⟩ : ∃ pair' record,
      pair.decide asked (id ∈ w.resources.approvals) "reviewer" .reviewer w.now =
        .ok (pair', record) := by
    unfold LockedPair.decide
    simp only [undecided, pending, asked, ne_eq, not_true_eq_false, decide_false,
      Bool.false_eq_true, if_false]
    exact ⟨_, _, rfl⟩
  have rejected : pair'.workflow.status = .rejected := by
    rw [(LockedPair.decide_ok decides).2.2.2]
    rfl
  have decided : w.resources.decide asked "reviewer" .reviewer w.now =
      some { w.resources.setPair id pair' with
        approvals := w.resources.approvals.insert id record } := by
    unfold WorkflowStore.decide
    rw [if_pos (by decide), show w.resources.toDatabase.pair asked.workflowId = some pair from held]
    simp only [decides, asked, ne_eq, not_true_eq_false, if_false]
  have after : (w.step settings (.request (.decide asked "reviewer" .reviewer))).resources =
      { w.resources.setPair id pair' with
        approvals := w.resources.approvals.insert id record } := by
    have answered : (hintedHandlers settings).request w.now (.decide asked "reviewer" .reviewer)
        w.resources = some (_, none) := congrArg (Option.map fun store => (store, none)) decided
    simp only [World.step, World.request, answered]
    rfl
  refine @Escapes.step settings jobKey w (.request (.decide asked "reviewer" .reviewer)) id trivial
    (.here ?_)
  rw [after]
  exact ⟨pair'.workflow, AList.lookup_insert _, .inr (.inl rejected)⟩

theorem escapes_movable (escapable : Escapable jobKey w) {id : WorkflowId} {row : WorkflowRunModel}
    (found : w.resources.workflows.lookup id = some row) (isOpen : row.completedAt = none)
    (movable : Movable jobKey w.jobs id row.status) : Escapes jobKey w id := by
  obtain ⟨campaign, campaignRow, -⟩ := escapable.furnished id row found
  have held : w.resources.pair id = some ⟨row, campaign⟩ :=
    WorkflowStore.pair_eq_some.mpr ⟨found, campaignRow⟩
  cases status : row.status with
  | received | validating | analyzing | generating | reviewing | revisionRequired =>
    have resumes : resumable row.status = true := by rw [status]; rfl
    exact escapes_resumable escapable held resumes isOpen (movable.2 resumes)
  | pendingApproval => exact escapes_pending escapable held status isOpen
  | manualReviewRequired => exact absurd status movable.1
  | needsClarification => exact absurd status (escapable.clear id row found)
  | approved => exact .here ⟨row, found, .inl status⟩
  | rejected => exact .here ⟨row, found, .inr (.inl status)⟩
  | failed => exact .here ⟨row, found, .inr (.inr (.inl status))⟩

/-! ### Workflows that nothing moves -/

/-- No run works on the workflow. -/
def Unattended (w : World (hintedHandlers settings)) (id : WorkflowId) : Prop :=
  ∀ runId run, w.runs.lookup runId = some run → run.job.payload ≠ .workflowRun id

/-- No run of the workflow has come further than to find what there is to do. -/
def Harmless (w : World (hintedHandlers settings)) (id : WorkflowId) : Prop :=
  ∀ runId run held, w.runs.lookup runId = some run → run.job.payload = .workflowRun id →
    hintedOf run = some held → held.stage = .checkpoint ∨ held.stage = .getWorkflow

/-- The jobs of the workflow have succeeded, and it gets no other. -/
structure Spent (jobKey : WorkflowId → String) (w : World (hintedHandlers settings))
    (id : WorkflowId) : Prop where
  there : id ∈ w.resources.workflows
  taken : ∃ jobId job, w.jobs.lookup jobId = some job ∧ job.idempotencyKey = jobKey id
  succeeded : ∀ jobId job, w.jobs.lookup jobId = some job → job.payload = .workflowRun id →
    job.status = .succeeded
  unattended : Unattended w id

/-- Nothing moves the workflow: it is to be reviewed manually and no run has got hold of it, or its
jobs are spent and no reviewer is to decide on it. -/
def Blocked (jobKey : WorkflowId → String) (w : World (hintedHandlers settings))
    (id : WorkflowId) : Prop :=
  ∃ row, w.resources.workflows.lookup id = some row ∧ row.completedAt = none ∧
    (row.status = .manualReviewRequired ∧ Harmless w id ∨
      (row.status = .manualReviewRequired ∨ resumable row.status = true) ∧ Spent jobKey w id)

theorem Unattended.harmless {id : WorkflowId} (unattended : Unattended w id) : Harmless w id := by
  intro runId run held found payload
  exact absurd payload (unattended runId run found)

theorem Blocked.not_left {id : WorkflowId} (blocked : Blocked jobKey w id) :
    ¬Left w.resources id := by
  rintro ⟨row, found, left⟩
  obtain ⟨row', found', isOpen, status⟩ := blocked
  obtain rfl := Option.some.inj (found.symm.trans found')
  have idle : row.status = .manualReviewRequired ∨ resumable row.status = true := by
    rcases status with ⟨manual, -⟩ | ⟨idle, -⟩
    · exact .inl manual
    · exact idle
  rcases left with status | status | status | ⟨-, closed⟩
  · rw [status] at idle
    rcases idle with idle | idle <;> cases idle
  · rw [status] at idle
    rcases idle with idle | idle <;> cases idle
  · rw [status] at idle
    rcases idle with idle | idle <;> cases idle
  · exact closed isOpen

/-- An offered event gives a spent workflow no new job. -/
theorem spent_row {id : WorkflowId} (spent : Spent jobKey w id) (offered : Offered jobKey w event)
    {jobId : JobId} {job' : BackgroundJobModel}
    (row' : (w.step settings event).jobs.lookup jobId = some job')
    (payload : job'.payload = .workflowRun id) : job'.status = .succeeded := by
  cases before : w.jobs.lookup jobId with
  | some job =>
    have change := @step_row _ settings w event jobId
    rw [before, row'] at change
    obtain ⟨job₁, same, identified⟩ := change.identified
    cases same
    have done := spent.succeeded jobId job before (identified.payload.symm.trans payload)
    exact change.stays_succeeded done
  | none =>
    have change := @step_row _ settings w event jobId
    rw [before, row'] at change
    cases change with
    | submitted accepted written =>
      rename_i submission priority maxAttempts availableAt idempotencyKey payload' write
      have payload : payload' = .workflowRun id := payload
      subst payload
      cases submission with
      | other other =>
        have accepted : submit (.other other) w.resources = some (.workflowRun id, write) := accepted
        simp only [submit] at accepted
        split at accepted
        · cases accepted
        · rename_i unlike
          cases accepted
          exact absurd rfl (unlike id)
      | acceptCampaign campaignId created workflowId =>
        obtain ⟨store, created, same⟩ := Option.map_eq_some_iff.mp accepted
        cases same
        obtain ⟨-, -, unused, -⟩ := acceptCampaign_some created
        exact absurd spent.there unused
      | runWorkflow workflowId =>
        have admitted : (if workflowId ∈ w.resources.workflows then
          some (JobPayload.workflowRun workflowId, fun _ : JobId => w.resources) else none) =
            some (.workflowRun id, write) := accepted
        split at admitted
        · cases admitted
          -- the key of the workflow is taken, so no job is made
          obtain ⟨other, job, row, key⟩ := spent.taken
          obtain ⟨found, taken⟩ := findByIdempotencyKey_isSome row
          rw [key, ← offered.2.2.2] at taken
          have unchanged : (w.step settings (.submit (.runWorkflow id) jobId priority maxAttempts
              availableAt idempotencyKey)).jobs = w.jobs := by
            simp only [World.step, World.submit, accepted]
            split
            · rfl
            · rename_i enqueued
              exact enqueue_taken taken enqueued
          rw [unchanged, before] at row'
          cases row'
        · cases admitted

theorem Spent.step {id : WorkflowId} (spent : Spent jobKey w id) (hints : HintsHeld w)
    (offered : Offered jobKey w event) : Spent jobKey (w.step settings event) id where
  there := by
    obtain ⟨row, found⟩ := Option.isSome_iff_exists.mp (AList.lookup_isSome.mpr spent.there)
    obtain ⟨row', found', -⟩ := @rowKept_step settings w event hints id row found
    exact AList.lookup_isSome.mp (by rw [found']; rfl)
  taken := by
    obtain ⟨jobId, job, row, key⟩ := spent.taken
    obtain ⟨job', row', identified⟩ := @row_identified _ settings w event _ _ row
    exact ⟨jobId, job', row', identified.idempotencyKey.trans key⟩
  succeeded := by
    intro jobId job' row' payload
    exact spent_row spent offered row' payload
  unattended := by
    intro runId run' found' payload
    rcases run_leased found' with ⟨run, found, same⟩ | ⟨job, row, pending, same⟩
    · rw [same] at payload
      exact spent.unattended runId run found payload
    · have done := spent.succeeded _ job row (same.trans payload)
      rw [pending] at done
      cases done

theorem payload_workflow {job : LeasedJob} {id : WorkflowId}
    (payload : job.payload = .workflowRun id) : workflowOf job.payload = some id := by
  rw [payload]
  rfl

/-- A run that finds its workflow to be reviewed manually goes no further. -/
theorem harmless_step {id : WorkflowId} {row : WorkflowRunModel} (harmless : Harmless w id)
    (found : w.resources.workflows.lookup id = some row)
    (manual : row.status = .manualReviewRequired) : Harmless (w.step settings event) id := by
  intro runId run' held' found' payload' stands'
  obtain ⟨run, foundRun, same, -, move⟩ := step_handler found' (hintedOf_eq.mp stands')
  rw [same] at payload'
  have about : workflowId run = id := by
    unfold workflowId
    rw [payload_workflow payload']
    rfl
  cases move with
  | kept phase => exact harmless runId run held' foundRun payload' (hintedOf_eq.mpr phase)
  | began phase =>
    refine .inl ?_
    show (if (workflowOf run.job.payload).isSome then Stage.checkpoint else .other false) = _
    rw [payload_workflow payload']
    rfl
  | stepped phase calm outcome =>
    rename_i answer held
    have before := harmless runId run held foundRun payload' (hintedOf_eq.mpr phase)
    have step := hinted_stepped outcome
    rw [about] at step
    generalize ((hintedHandlers settings).handle w.now run.workerId run.job answer w.jobs
      w.resources held).1 = store at step
    rcases hinted_continues step with ⟨-, ⟨error, fails, -⟩ | ⟨-, performed⟩⟩ | ⟨locks, -⟩
    · rcases before with before | before <;> rw [before] at fails <;> cases fails
    · rcases before with before | before
      · rw [before] at performed
        simp only [Stage.perform, jobCheckpoint] at performed
        split at performed
        · cases performed
        · have next := (Prod.mk.inj (Except.ok.inj performed)).2
          exact .inr (Outcome.continues.inj next).symm
      · -- the handler returns on a workflow that is to be reviewed manually
        rw [before] at performed
        have returns : handlerReturns row.status = true := by
          rw [manual]
          rfl
        simp only [Stage.perform, found, returns, if_true] at performed
        cases (Prod.mk.inj (Except.ok.inj performed)).2
    · rcases before with before | before <;> rw [before] at locks <;> cases locks
  | interrupted phase raised next hit =>
    rename_i held
    have before := harmless runId run held foundRun payload' (hintedOf_eq.mpr phase)
    obtain ⟨stage, goesOn, -⟩ := Option.map_eq_some_iff.mp next
    rcases before with before | before <;> rw [before] at goesOn <;> cases goesOn

/-- A transaction that is neither a decision nor the record of a failure moves a workflow that its job
is to go on with to such a status, or to a manual review. -/
theorem resumable_edge {status nextStatus : CampaignStatus}
    (source : LockedPair.failable status = true) (edge : nextStatus ∈ allowedTransitions status)
    (other : ¬(nextStatus = .pendingApproval ∨ nextStatus = .failed ∨
      nextStatus = .needsClarification)) :
    (nextStatus = .manualReviewRequired ∨ resumable nextStatus = true) ∧
      closing nextStatus = false := by
  revert source edge other
  cases status <;> cases nextStatus <;> decide

/-- A workflow that is to be reviewed manually, or that only its job goes on with, stays one. -/
structure StaysIdle (row row' : WorkflowRunModel) : Prop where
  isOpen : row'.completedAt = none
  manual : row.status = .manualReviewRequired → row'.status = .manualReviewRequired
  idle : row'.status = .manualReviewRequired ∨ resumable row'.status = true

/-- What is left of a workflow that a request has locked, when it is no decision. -/
theorem PairChange.staysIdle {pair pair' : LockedPair} (change : PairChange pair pair')
    (kept : pair'.workflow.status = pair.workflow.status ∨
      pair'.workflow.status ≠ .pendingApproval ∧ pair'.workflow.status ≠ .failed)
    (isOpen : pair.workflow.completedAt = none)
    (idle : pair.workflow.status = .manualReviewRequired ∨
      resumable pair.workflow.status = true) : StaysIdle pair.workflow pair'.workflow := by
  cases change with
  | quiet workflow =>
    obtain ⟨llmCallCount, same⟩ := workflow
    rw [same]
    exact ⟨isOpen, id, idle⟩
  | moved source edge _ _ _ _ completed _ _ _ clear =>
    have failable : LockedPair.failable pair.workflow.status = true := by
      revert idle source
      cases pair.workflow.status <;> decide
    have other : pair'.workflow.status ≠ pair.workflow.status := by
      intro same
      rw [same] at edge
      revert edge source
      cases pair.workflow.status <;> decide
    obtain ⟨pending, failed⟩ := kept.resolve_left other
    obtain ⟨idle', unclosed⟩ := resumable_edge failable edge (by simp [pending, failed, clear])
    refine ⟨?_, ?_, idle'⟩
    · rcases completed with same | ⟨same, -⟩
      · rw [unclosed] at same
        exact Option.isNone_iff_eq_none.mp (Option.isSome_eq_false_iff.mp same)
      · exact same.trans isOpen
    · intro manual
      rw [manual] at source
      cases source

theorem idle_requested {asked : Request} {store : WorkflowStore} {id : WorkflowId}
    {row : WorkflowRunModel} (change : StoreChange (rowsOf w) (.request asked) store)
    (found : w.resources.workflows.lookup id = some row) (isOpen : row.completedAt = none)
    (idle : row.status = .manualReviewRequired ∨ resumable row.status = true) :
    ∃ row', store.workflows.lookup id = some row' ∧ StaysIdle row row' := by
  have written : ∀ {id' pair pair'}, (rowsOf w).resources.pair id' = some pair →
      PairChange pair pair' → (pair'.workflow.status = pair.workflow.status ∨
        pair'.workflow.status ≠ .pendingApproval ∧ pair'.workflow.status ≠ .failed) →
      ∃ row', ((rowsOf w).resources.setPair id' pair').workflows.lookup id = some row' ∧
        StaysIdle row row' := by
    intro id' pair pair' held change kept
    by_cases same : id = id'
    · subst same
      have there : w.resources.workflows.lookup id = some pair.workflow :=
        (WorkflowStore.pair_eq_some.mp held).1
      obtain rfl := Option.some.inj (found.symm.trans there)
      exact ⟨_, AList.lookup_insert _, change.staysIdle kept isOpen idle⟩
    · exact ⟨row, (AList.lookup_insert_ne same).trans found, isOpen, fun manual => manual, idle⟩
  cases change with
  | same | campaignCreated | campaignUpdated =>
    exact ⟨row, found, isOpen, fun manual => manual, idle⟩
  | paired held change content kept => exact written held change kept
  | decided held fresh change content completed kept => exact written held change (.inr kept)
  | workflowCreated created =>
    obtain ⟨fresh, -, campaign, row', -, rfl, -⟩ := createWorkflow_some created
    refine ⟨row, (AList.lookup_insert_ne ?_).trans found, isOpen, fun manual => manual, idle⟩
    rintro rfl
    have there : id ∈ w.resources.workflows := AList.lookup_isSome.mp (by rw [found]; rfl)
    exact fresh there

/-- No run writes a workflow that it has not got hold of. -/
theorem unwritten (works : Works w) {id : WorkflowId} {runId : RunId}
    {run : ProcessRun (hintedHandlers settings)} {stage : Stage} {hint : WorkflowRunModel}
    {pair pair' : LockedPair} (harmless : Harmless w id) (found : w.runs.lookup runId = some run)
    (held : hintedOf run = some { stage, hint := some hint })
    (assigns : Assigns settings w.now pair stage pair') : workflowId run ≠ id := by
  intro about
  have locks := assigns.locks
  cases kind : workflowOf run.job.payload with
  | none =>
    obtain ⟨checked, other⟩ := works runId run _ found held kind
    have other : stage = .other checked := other
    rw [other] at locks
    cases locks
  | some id' =>
    have payload : run.job.payload = .workflowRun id := by
      unfold workflowId at about
      rw [kind] at about
      have about : id' = id := about
      subst about
      generalize run.job.payload = payload at kind
      cases payload <;> cases kind
      rfl
    have before : stage = .checkpoint ∨ stage = .getWorkflow :=
      harmless runId run _ found payload held
    rcases before with before | before <;> rw [before] at locks <;> cases locks

theorem idle_step (works : Works w) {id : WorkflowId} {row : WorkflowRunModel}
    (harmless : Harmless w id) (found : w.resources.workflows.lookup id = some row)
    (isOpen : row.completedAt = none)
    (idle : row.status = .manualReviewRequired ∨ resumable row.status = true) :
    ∃ row', (w.step settings event).resources.workflows.lookup id = some row' ∧
      StaysIdle row row' := by
  have change := @step_hinted settings w event
  generalize (w.step settings event).resources = store at change ⊢
  have same : StaysIdle row row := ⟨isOpen, fun manual => manual, idle⟩
  cases change with
  | quiet => exact ⟨row, found, same⟩
  | requested change => exact idle_requested change found isOpen idle
  | accepted accepted =>
    obtain ⟨campaign, -, unused, -, rfl⟩ := acceptCampaign_some accepted
    refine ⟨row, (AList.lookup_insert_ne ?_).trans found, same⟩
    rintro rfl
    exact unused (AList.lookup_isSome.mp (by rw [found]; rfl))
  | written foundRun held goesOn there campaignRow assigns =>
    have other := unwritten works harmless foundRun held assigns
    exact ⟨row, (AList.lookup_insert_ne other.symm).trans found, same⟩

theorem Blocked.step {id : WorkflowId} (blocked : Blocked jobKey w id)
    (escapable : Escapable jobKey w) (offered : Offered jobKey w event) :
    Blocked jobKey (w.step settings event) id := by
  obtain ⟨row, found, isOpen, status⟩ := blocked
  have works := escapable.works
  rcases status with ⟨manual, harmless⟩ | ⟨idle, spent⟩
  · obtain ⟨row', found', stays⟩ :=
      @idle_step settings w event works id row harmless found isOpen (.inl manual)
    exact ⟨row', found', stays.isOpen,
      .inl ⟨stays.manual manual, harmless_step harmless found manual⟩⟩
  · obtain ⟨row', found', stays⟩ :=
      @idle_step settings w event works id row spent.unattended.harmless found isOpen idle
    exact ⟨row', found', stays.isOpen, .inr ⟨stays.idle, spent.step escapable.hints offered⟩⟩

theorem blocked_run (injective : Function.Injective jobKey) {id : WorkflowId}
    (events : List (WorldEvent (hintedHandlers settings))) {w : World (hintedHandlers settings)}
    (blocked : Blocked jobKey w id) (escapable : Escapable jobKey w)
    (offered : (hintedApplication settings).Meets (Offered jobKey) w events) :
    Blocked jobKey ((hintedApplication settings).run w events) id := by
  induction events generalizing w with
  | nil => exact blocked
  | cons event events ih =>
    exact ih (blocked.step escapable offered.1) (escapable_step injective escapable offered.1)
      offered.2

/-- A workflow that is not movable, and that no run works on, is blocked. -/
theorem blocked_of_not_movable {id : WorkflowId} {row : WorkflowRunModel}
    (found : w.resources.workflows.lookup id = some row) (isOpen : row.completedAt = none)
    (unattended : Unattended w id) (fixed : ¬Movable jobKey w.jobs id row.status) :
    Blocked jobKey w id := by
  refine ⟨row, found, isOpen, ?_⟩
  by_cases manual : row.status = .manualReviewRequired
  · exact .inl ⟨manual, unattended.harmless⟩
  · obtain ⟨resumes, lost⟩ := Classical.not_imp.mp fun moves => fixed ⟨manual, moves⟩
    obtain ⟨taken, succeeded⟩ := not_or.mp lost
    push Not at taken succeeded
    exact .inr ⟨.inr resumes, AList.lookup_isSome.mp (by rw [found]; rfl), taken, succeeded,
      unattended⟩

/-! ### Every run -/

/-- In every state of every run of offered events, an open workflow can be left if it is movable, and,
where no run works on it, only then. -/
theorem escapes_iff (settings : Settings) (jobKey : WorkflowId → String)
    (injective : Function.Injective jobKey)
    (events : List (WorldEvent (hintedHandlers settings)))
    (offered : (hintedApplication settings).Meets (Offered jobKey)
      (hintedApplication settings).init events)
    (w : World (hintedHandlers settings))
    (reached : (hintedApplication settings).run (hintedApplication settings).init events = w)
    (id : WorkflowId) (row : WorkflowRunModel)
    (found : w.resources.workflows.lookup id = some row) (isOpen : row.completedAt = none) :
    (Movable jobKey w.jobs id row.status → Escapes jobKey w id) ∧
      (Unattended w id → Escapes jobKey w id → Movable jobKey w.jobs id row.status) := by
  have escapable : Escapable jobKey w := by
    rw [← reached]
    exact (hintedApplication settings).run_holds
      (fun _ _ held ok => escapable_step injective held ok) escapable_init offered
  refine ⟨escapes_movable escapable found isOpen, fun unattended escapes => ?_⟩
  by_contra fixed
  obtain ⟨events, meets, left⟩ := escapes
  exact (blocked_run injective events (blocked_of_not_movable found isOpen unattended fixed)
    escapable meets).not_left left

/-! ### Runs -/

/-- The key of the job of a workflow, without a digest. -/
def plainKey (id : WorkflowId) : String := "workflow-" ++ Nat.repr id

theorem plainKey_injective : Function.Injective plainKey := by
  intro id other same
  exact Nat.repr_injective ((String.append_right_inj _).mp same)

/-- Workflow 1 of a new campaign is run by job 7 up to its review. -/
def draftedRun : List (WorldEvent (hintedHandlers {})) :=
  [.request (.createCampaign "spring-launch"
      { brief := {}, tone := "", targetAudience := "", promotion := none }),
    .request (.createWorkflow "spring-launch" 1),
    .submit (.runWorkflow 1) 7 50 none none (plainKey 1), .lease "worker" none [] 0] ++
    goesOn 0 11 ++ specialistRun 0 (.analysis "analysis") ++ specialistRun 0 (.content "content")

/-- The review of the content asks for a manual review. -/
def manualRun : List (WorldEvent (hintedHandlers {})) :=
  draftedRun ++ specialistRun 0 (.review { status := .manualReviewRequired, qualityScore := 60 })

/-- Whether an event is a submission. -/
def submits : WorldEvent (hintedHandlers settings) → Bool
  | .submit .. => true
  | _ => false

theorem meets_offered {events : List (WorldEvent (hintedHandlers settings))}
    (none : ∀ event ∈ events, submits event = false) (w : World (hintedHandlers settings)) :
    (hintedApplication settings).Meets (Offered jobKey) w events := by
  induction events generalizing w with
  | nil => exact trivial
  | cons event events ih =>
    refine ⟨?_, ih (fun event member => none event (List.mem_cons_of_mem _ member)) _⟩
    have other := none event (List.mem_cons_self ..)
    cases event with
    | submit => cases other
    | _ => trivial

theorem manualRun_offered : (hintedApplication {}).Meets (Offered plainKey)
    (hintedApplication {}).init manualRun := by
  refine ⟨trivial, trivial, ⟨rfl, rfl, rfl, rfl⟩, meets_offered ?_ _⟩
  decide

/-- A workflow under review is left by its job. -/
theorem drafted_run_escapes :
    ∃ row, ((hintedApplication {}).run (hintedApplication {}).init
        draftedRun).resources.workflows.lookup 1 = some row ∧
      Escapes plainKey ((hintedApplication {}).run (hintedApplication {}).init draftedRun) 1 := by
  have offered : (hintedApplication {}).Meets (Offered plainKey)
      (hintedApplication {}).init draftedRun := (Machine.Meets.append.mp manualRun_offered).1
  have facts : (((hintedApplication {}).run (hintedApplication {}).init
      draftedRun).resources.workflows.lookup 1).map
        (fun row => (row.status, row.completedAt)) = some (.reviewing, none) := by
    decide +kernel
  have running : (((hintedApplication {}).run (hintedApplication {}).init draftedRun).jobs.lookup
      7).map (fun job => (job.payload, job.status)) = some (.workflowRun 1, .running) := by
    decide +kernel
  obtain ⟨row, found, facts⟩ := Option.map_eq_some_iff.mp facts
  obtain ⟨status, isOpen⟩ := Prod.mk.inj facts
  obtain ⟨job, there, running⟩ := Option.map_eq_some_iff.mp running
  obtain ⟨payload, running⟩ := Prod.mk.inj running
  refine ⟨row, found, (escapes_iff {} plainKey plainKey_injective draftedRun offered _ rfl 1 row
    found isOpen).1 ⟨?_, fun _ => .inr ⟨7, job, there, payload, ?_⟩⟩⟩
  · rw [status]
    decide
  · rw [running]
    decide

/-- A workflow that is to be reviewed manually is never left. -/
theorem manual_run_stuck :
    ¬∀ events : List (WorldEvent (hintedHandlers {})),
      (hintedApplication {}).Meets (Offered plainKey) (hintedApplication {}).init events →
        ∀ id row, ((hintedApplication {}).run (hintedApplication {}).init
          events).resources.workflows.lookup id = some row → row.completedAt = none →
            Escapes plainKey ((hintedApplication {}).run (hintedApplication {}).init events) id := by
  intro escapes
  -- the run of the job has found nothing more to do, and is no longer there
  have offered : (hintedApplication {}).Meets (Offered plainKey) (hintedApplication {}).init
      (manualRun ++ goesOn 0 8) :=
    Machine.Meets.append.mpr ⟨manualRun_offered, meets_offered (by decide) _⟩
  have facts : (((hintedApplication {}).run (hintedApplication {}).init
      (manualRun ++ goesOn 0 8)).resources.workflows.lookup 1).map
        (fun row => (row.status, row.completedAt)) = some (.manualReviewRequired, none) ∧
      ((hintedApplication {}).run (hintedApplication {}).init
        (manualRun ++ goesOn 0 8)).runs.keys = [] := by
    decide +kernel
  obtain ⟨row, found, fields⟩ := Option.map_eq_some_iff.mp facts.1
  obtain ⟨status, isOpen⟩ := Prod.mk.inj fields
  obtain ⟨events, meets, left⟩ := escapes _ offered 1 row found isOpen
  have escapable := (hintedApplication {}).run_holds
    (fun _ _ held ok => escapable_step plainKey_injective held ok) escapable_init offered
  have unattended : Unattended ((hintedApplication {}).run (hintedApplication {}).init
      (manualRun ++ goesOn 0 8)) 1 := by
    intro runId run there
    have member : runId ∈ ((hintedApplication {}).run (hintedApplication {}).init
      (manualRun ++ goesOn 0 8)).runs.keys := AList.mem_keys.mp
        (AList.lookup_isSome.mp (by rw [there]; rfl))
    rw [facts.2] at member
    cases member
  have blocked := @blocked_of_not_movable _ plainKey _ _ _ found isOpen unattended
    fun movable => movable.1 status
  exact (blocked_run plainKey_injective events blocked escapable meets).not_left left

/-- The review asks for another content. Before it is saved the lease of the job runs out, and
another worker takes the job and saves a verdict that leaves the content to a reviewer. The first
worker saves its review on the workflow as it has read it, and dies. -/
def overtakenRun : List (WorldEvent (hintedHandlers {})) :=
  draftedRun ++ goesOn 0 7 ++
    [.process 0 (.final (.review { status := .fail, qualityScore := 60 }))] ++ goesOn 0 2 ++
    [.tick (seconds 1000), .reclaim none [], .tick (seconds 5), .lease "other" none [] 0] ++
    goesOn 1 3 ++ specialistRun 1 (.review { status := .pass, qualityScore := 90 }) ++ goesOn 1 8 ++
    [.process 0 .proceed, .crash "worker"]

/-- The content is to be generated again, by a job that has succeeded. -/
example : (((hintedApplication {}).run (hintedApplication {}).init
      overtakenRun).resources.workflows.lookup 1).map (fun row => (row.status, row.completedAt)) =
        some (.generating, none) ∧
    (((hintedApplication {}).run (hintedApplication {}).init overtakenRun).jobs.lookup 7).map
      (fun job => job.status) = some .succeeded := by
  decide +kernel

end CyberLegends.Workflow
