import CyberLegends.Workflow.Changes

/-! The loop of a run by itself, with nobody else writing: what each of its transactions uses up of
the retries, the checkpoints and the LLM calls that are left, and from it that the loop ends. -/

namespace CyberLegends.Workflow

open CyberLegends.Core Lib Jobs

/-- The rows that a run of the loop finds committed, and where it stands. -/
structure LoopState where
  store : WorkflowStore
  outcome : Outcome Stage := .continues .readWorkflow

def WorkflowStore.retryCount (store : WorkflowStore) (workflowId : WorkflowId) : Nat :=
  ((store.workflows.lookup workflowId).map (·.retryCount)).getD 0

section

variable (settings : Settings) (workerId : String) (job : LeasedJob) (jobs : JobStore)
  (workflowId : WorkflowId)

/-- The next transaction of the loop at some time, on what the agent or the database answers. -/
def LoopState.step (state : LoopState) (event : Timestamp × Answer) : LoopState :=
  match state.outcome with
  | .continues stage =>
    let performed :=
      stage.handle settings event.1 workerId job jobs workflowId event.2 state.store
    { store := performed.1, outcome := performed.2 }
  | _ => state

/-- The loop on a workflow, from any rows. -/
def runToPendingApproval (store : WorkflowStore) : Machine LoopState (Timestamp × Answer) where
  init := { store }
  step := LoopState.step settings workerId job jobs workflowId

end

namespace LoopState

variable (state : LoopState)

/-- Whether the loop has returned or raised. -/
def ended : Bool :=
  match state.outcome with
  | .continues _ => false
  | _ => true

/-- One for a transaction of the loop. -/
def acts : Nat := if state.ended then 0 else 1

/-- One for a transaction that begins an iteration. -/
def startsIteration : Nat := if state.outcome = .continues .readWorkflow then 1 else 0

/-- One for a transaction that begins a content generation. -/
def generates : Nat :=
  if state.outcome = .continues (.buildContext .contentGenerator) then 1 else 0

end LoopState

/-! ### What is left -/

namespace LockedPair

variable (settings : Settings) (pair : LockedPair)

def retriesLeft : Nat := settings.maxContentRetries - pair.workflow.retryCount

def callsLeft : Nat := settings.maxLlmCallsPerWorkflow - pair.workflow.llmCallCount

/-- The checkpoints from the status of the workflow to a human, without a retry. -/
def place : Nat :=
  match pair.workflow.status with
  | .received => 5
  | .validating => 4
  | .revisionRequired | .analyzing => 3
  | .generating => 2
  | .reviewing => if pair.campaign.generatedContent = none then 3 else 1
  | _ => 0

/-- The checkpoints that are left: a retry takes two more. -/
def checkpointsLeft : Nat := pair.place + 2 * pair.retriesLeft settings

/-- The content generations that are left. -/
def generationsLeft : Nat :=
  match pair.workflow.status with
  | .received | .validating | .revisionRequired | .analyzing | .generating =>
    pair.retriesLeft settings + 1
  | .reviewing =>
    if pair.campaign.generatedContent = none then pair.retriesLeft settings + 1
    else pair.retriesLeft settings
  | _ => 0

end LockedPair

namespace Stage

/-- The transactions that are left of an iteration, one turn of the agent counted. -/
def rank : Stage → Nat
  | recordMemory => 14
  | readWorkflow => 13
  | readCampaign _ => 12
  | transition _ | buildContext _ => 11
  | createRun _ => 10
  | startRun .. => 9
  | agentTurn .. => 8
  | agentLoop .. => 7
  | completeRun .. => 6
  | save .. => 5
  | failRun .. => 2
  | persistFailure _ => 1
  | checkpoint | getWorkflow | other _ => 0

/-- Whether the run is about to raise. -/
def failing : Stage → Bool
  | failRun .. | persistFailure _ => true
  | _ => false

/-- The agent that the run is in the middle of. -/
def agent : Stage → Option AgentName
  | createRun context | startRun _ context | agentLoop _ context | agentTurn _ context
  | completeRun _ context _ | save context _ => some context.agentName
  | _ => none

end Stage

namespace LoopState

variable (settings : Settings) (workflowId : WorkflowId) (state : LoopState)

/-- What is left by the rows. -/
def left (f : LockedPair → Nat) : Nat := ((state.store.pair workflowId).map f).getD 0

def actsLeft : Nat :=
  match state.outcome with
  | .continues stage =>
    if stage.failing then stage.rank
    else
      20 * state.left workflowId (·.checkpointsLeft settings) +
        2 * state.left workflowId (·.callsLeft settings) + stage.rank
  | _ => 0

def iterationsLeft : Nat :=
  match state.outcome with
  | .continues stage =>
    if stage.failing then 0
    else if stage = .readWorkflow ∨ stage = .recordMemory then
      state.left workflowId (·.checkpointsLeft settings) + 1
    else state.left workflowId (·.checkpointsLeft settings)
  | _ => 0

def generationsLeft : Nat :=
  match state.outcome with
  | .continues stage =>
    if stage.failing then 0
    else if stage.agent = some .contentGenerator then
      state.left workflowId (·.retriesLeft settings)
    else state.left workflowId (·.generationsLeft settings)
  | _ => 0

/-- What the loop knows of the rows, where nobody else writes them. -/
def Fits : Prop :=
  match state.outcome with
  | .continues (.readCampaign workflow) =>
    state.store.workflows.lookup workflowId = some workflow
  | .continues (.transition expectedStatus) =>
    ∃ pair, state.store.pair workflowId = some pair ∧ pair.workflow.status = expectedStatus ∧
      (expectedStatus = .reviewing → pair.campaign.generatedContent = none)
  | .continues (.buildContext .contentGenerator) =>
    ∃ pair, state.store.pair workflowId = some pair ∧ pair.workflow.status = .generating
  | .continues (.completeRun _ context output) => output.author = context.agentName
  | .continues (.save context output) => output.author = context.agentName
  | .continues .checkpoint | .continues .getWorkflow | .continues (.other _) => False
  | _ => True

end LoopState

/-- A transaction uses up what it starts, and takes no retry that is not left. -/
structure Spends (settings : Settings) (workflowId : WorkflowId) (state state' : LoopState) :
    Prop where
  fits : state'.Fits workflowId
  acts : state.acts + state'.actsLeft settings workflowId ≤ state.actsLeft settings workflowId
  iterations : state.startsIteration + state'.iterationsLeft settings workflowId ≤
    state.iterationsLeft settings workflowId
  generations : state.generates + state'.generationsLeft settings workflowId ≤
    state.generationsLeft settings workflowId
  retries : state'.store.retryCount workflowId ≤
    max settings.maxContentRetries (state.store.retryCount workflowId)

/-! ### Transactions that commit nothing to the pair -/

variable {settings : Settings} {workflowId : WorkflowId} {store store' : WorkflowStore}

/-- Where an error or the record of a failure takes the run. -/
def ClosesFrom (stage : Stage) (outcome : Outcome Stage) : Prop :=
  ∀ stage', outcome = .continues stage' → stage'.failing = true ∧ stage'.rank < stage.rank

theorem handleError_closes {stage : Stage} (rank : 1 < stage.rank) (error : RaisedError) :
    ClosesFrom stage (handleError error) := by
  intro stage' goesOn
  obtain ⟨raised, rfl⟩ := handleError_continues goesOn
  exact ⟨rfl, rank⟩

theorem fails_closes {stage : Stage} (inLoop : 0 < stage.rank) (error : RaisedError) :
    ClosesFrom stage (stage.fails error) := by
  cases stage with
  | checkpoint | getWorkflow | other => cases inLoop
  | agentLoop | agentTurn | completeRun =>
    intro stage' goesOn
    cases goesOn
    exact ⟨rfl, by simp [Stage.rank]⟩
  | persistFailure recorded =>
    intro stage' goesOn
    cases goesOn
  | _ => exact handleError_closes (by simp [Stage.rank]) error

theorem rank_le_actsLeft (stage : Stage) :
    stage.rank ≤ LoopState.actsLeft settings workflowId ⟨store, .continues stage⟩ := by
  unfold LoopState.actsLeft
  simp only
  split <;> omega

/-- A run that is about to raise keeps to what is left. -/
theorem Spends.closes {stage : Stage} {outcome : Outcome Stage}
    (fits : LoopState.Fits workflowId ⟨store, .continues stage⟩) (inLoop : 0 < stage.rank)
    (closes : ClosesFrom stage outcome)
    (retries : store'.retryCount workflowId = store.retryCount workflowId) :
    Spends settings workflowId ⟨store, .continues stage⟩ ⟨store', outcome⟩ := by
  have room : stage.rank ≤ LoopState.actsLeft settings workflowId ⟨store, .continues stage⟩ :=
    rank_le_actsLeft stage
  have started : LoopState.startsIteration ⟨store, .continues stage⟩ ≤
      LoopState.iterationsLeft settings workflowId ⟨store, .continues stage⟩ := by
    unfold LoopState.startsIteration LoopState.iterationsLeft
    simp only [Outcome.continues.injEq]
    split
    · rename_i same
      subst same
      simp [Stage.failing]
    · omega
  have generated : LoopState.generates ⟨store, .continues stage⟩ ≤
      LoopState.generationsLeft settings workflowId ⟨store, .continues stage⟩ := by
    unfold LoopState.generates LoopState.generationsLeft
    simp only [Outcome.continues.injEq]
    split
    · rename_i same
      subst same
      obtain ⟨pair, held, status⟩ := fits
      simp [Stage.failing, Stage.agent, LoopState.left, held, LockedPair.generationsLeft, status]
    · omega
  cases outcome with
  | continues stage' =>
    obtain ⟨failing, rank⟩ := closes stage' rfl
    refine ⟨?_, ?_, ?_, ?_, by rw [show _ = _ from retries]; exact Nat.le_max_right ..⟩
    · cases stage' <;> first | exact trivial | cases failing
    · have after : LoopState.actsLeft settings workflowId ⟨store', .continues stage'⟩ =
          stage'.rank := by
        simp [LoopState.actsLeft, failing]
      simp only [LoopState.acts, LoopState.ended, Bool.false_eq_true, if_false]
      omega
    · simpa [LoopState.iterationsLeft, failing] using started
    · simpa [LoopState.generationsLeft, failing] using generated
  | returns | raises =>
    refine ⟨trivial, ?_, started, generated,
      by rw [show _ = _ from retries]; exact Nat.le_max_right ..⟩
    show 1 + 0 ≤ _
    omega

/-- A transaction that leaves the pair as it is and goes on inside the iteration. -/
theorem Spends.stays {stage stage' : Stage} (same : store'.pair workflowId = store.pair workflowId)
    (retries : store'.retryCount workflowId = store.retryCount workflowId)
    (fits : LoopState.Fits workflowId ⟨store', .continues stage'⟩)
    (ahead : stage.failing = false) (ahead' : stage'.failing = false)
    (rank : stage'.rank < stage.rank) (loops : stage' = .readWorkflow → stage = .recordMemory)
    (other : stage' ≠ .recordMemory)
    (generations : LoopState.generates ⟨store, .continues stage⟩ +
      LoopState.generationsLeft settings workflowId ⟨store', .continues stage'⟩ ≤
        LoopState.generationsLeft settings workflowId ⟨store, .continues stage⟩) :
    Spends settings workflowId ⟨store, .continues stage⟩ ⟨store', .continues stage'⟩ := by
  refine ⟨fits, ?_, ?_, generations, by rw [show _ = _ from retries]; exact Nat.le_max_right ..⟩
  · simp only [LoopState.acts, LoopState.ended, LoopState.actsLeft, LoopState.left, ahead, ahead',
      same, Bool.false_eq_true, if_false]
    omega
  · simp only [LoopState.startsIteration, LoopState.iterationsLeft, LoopState.left, ahead, ahead',
      same, Bool.false_eq_true, if_false, Outcome.continues.injEq]
    by_cases again : stage' = .readWorkflow
    · simp [again, loops again]
    · simp only [again, other, or_self, if_false]
      by_cases starts : stage = .readWorkflow
      · simp [starts]
        omega
      · simp only [starts, if_false, false_or]
        split <;> omega

/-- A transaction that neither begins nor ends the run of an agent. -/
theorem Spends.goesOn {stage stage' : Stage} (same : store'.pair workflowId = store.pair workflowId)
    (retries : store'.retryCount workflowId = store.retryCount workflowId)
    (fits : LoopState.Fits workflowId ⟨store', .continues stage'⟩)
    (ahead : stage.failing = false) (ahead' : stage'.failing = false)
    (rank : stage'.rank < stage.rank) (loops : stage' = .readWorkflow → stage = .recordMemory)
    (other : stage' ≠ .recordMemory) (agent : stage'.agent = stage.agent)
    (builds : stage ≠ .buildContext .contentGenerator) :
    Spends settings workflowId ⟨store, .continues stage⟩ ⟨store', .continues stage'⟩ := by
  refine .stays same retries fits ahead ahead' rank loops other ?_
  simp only [LoopState.generates, LoopState.generationsLeft, LoopState.left, ahead, ahead', same,
    agent, Outcome.continues.injEq, builds, Bool.false_eq_true, if_false, Nat.zero_add,
    Nat.le_refl]

/-! ### Checkpoints -/

theorem left_held {f : LockedPair → Nat} {outcome : Outcome Stage} {pair : LockedPair}
    (held : store.pair workflowId = some pair) :
    LoopState.left workflowId ⟨store, outcome⟩ f = f pair := by
  unfold LoopState.left
  rw [held]
  rfl

theorem retryCount_held {pair : LockedPair} (held : store.pair workflowId = some pair) :
    store.retryCount workflowId = pair.workflow.retryCount := by
  unfold WorkflowStore.retryCount
  rw [(WorkflowStore.pair_eq_some.mp held).1]
  rfl

/-- A checkpoint that brings the pair on and begins the next iteration. -/
theorem Spends.commits {stage stage' : Stage} {pair pair' : LockedPair}
    (held : store.pair workflowId = some pair)
    (ahead : stage.failing = false) (inside : stage ≠ .readWorkflow ∧ stage ≠ .recordMemory)
    (next : stage' = .readWorkflow ∨ stage' = .recordMemory)
    (generates : stage ≠ .buildContext .contentGenerator)
    (checkpoints : pair'.checkpointsLeft settings < pair.checkpointsLeft settings)
    (calls : pair'.callsLeft settings = pair.callsLeft settings)
    (generations : pair'.generationsLeft settings ≤
      if stage.agent = some .contentGenerator then pair.retriesLeft settings
      else pair.generationsLeft settings)
    (retries : pair'.workflow.retryCount ≤
      max settings.maxContentRetries pair.workflow.retryCount) :
    Spends settings workflowId ⟨store, .continues stage⟩
      ⟨store.setPair workflowId pair', .continues stage'⟩ := by
  have held' : (store.setPair workflowId pair').pair workflowId = some pair' := setPair_self
  have after : stage'.failing = false ∧ stage'.agent = none ∧ stage'.rank ≤ 14 ∧
      LoopState.Fits workflowId ⟨store.setPair workflowId pair', .continues stage'⟩ := by
    rcases next with rfl | rfl
    · exact ⟨rfl, rfl, by decide, trivial⟩
    · exact ⟨rfl, rfl, by decide, trivial⟩
  obtain ⟨ahead', agent, rank, fits⟩ := after
  refine ⟨fits, ?_, ?_, ?_, ?_⟩
  · simp only [LoopState.acts, LoopState.ended, LoopState.actsLeft, ahead, ahead', left_held held,
      left_held held', calls, Bool.false_eq_true, if_false]
    omega
  · simp only [LoopState.startsIteration, LoopState.iterationsLeft, ahead, ahead', left_held held,
      left_held held', Bool.false_eq_true, if_false, Outcome.continues.injEq, inside.1, inside.2,
      or_self, if_pos next]
    omega
  · simp only [LoopState.generates, LoopState.generationsLeft, ahead, ahead', left_held held,
      left_held held', Bool.false_eq_true, if_false, Outcome.continues.injEq, generates, agent,
      reduceCtorEq, Nat.zero_add]
    exact generations
  · show (store.setPair workflowId pair').retryCount workflowId ≤
      max _ (store.retryCount workflowId)
    rw [retryCount_held held, retryCount_held held']
    exact retries

theorem transition_spends {expectedStatus nextStatus : CampaignStatus} {nextStep : WorkflowStep}
    {pair : LockedPair} (held : store.pair workflowId = some pair)
    (fits : LoopState.Fits workflowId ⟨store, .continues (.transition expectedStatus)⟩)
    (rule : checkpointAfter expectedStatus = some (nextStatus, nextStep))
    (expected : pair.workflow.status = expectedStatus)
    (valid : nextStatus ∈ allowedTransitions expectedStatus) :
    Spends settings workflowId ⟨store, .continues (.transition expectedStatus)⟩
      ⟨store.setPair workflowId (pair.setStatus nextStatus nextStep), .continues .readWorkflow⟩ := by
  obtain ⟨pair₁, held₁, -, undrafted⟩ := fits
  rw [held] at held₁
  cases held₁
  have moves : (pair.setStatus nextStatus nextStep).place < pair.place ∧
      (pair.setStatus nextStatus nextStep).generationsLeft settings ≤
        pair.generationsLeft settings := by
    unfold LockedPair.place LockedPair.generationsLeft
    rw [expected]
    cases expectedStatus <;> cases rule <;>
      simp_all [LockedPair.setStatus, LockedPair.retriesLeft, allowedTransitions]
  refine .commits held rfl ⟨by simp, by simp⟩ (.inl rfl) (by simp) ?_ rfl moves.2
    (Nat.le_max_right ..)
  have same : (pair.setStatus nextStatus nextStep).retriesLeft settings =
    pair.retriesLeft settings := rfl
  have place := moves.1
  unfold LockedPair.checkpointsLeft
  omega

/-- A verdict hands the workflow to a human, or takes one of the retries that are left. -/
theorem reviewed_next {review : QualityReview} {pair pair' : LockedPair}
    (h : pair.saveReviewDecisionCheckpoint settings review = .ok pair') :
    pair.workflow.status = .reviewing ∧
      ((∃ nextStatus nextStep, (nextStatus = .pendingApproval ∨
          nextStatus = .manualReviewRequired) ∧
            pair' = pair.reviewed review 0 nextStatus nextStep) ∨
        pair.workflow.retryCount < settings.maxContentRetries ∧
          pair' = pair.reviewed review 1 .generating .generateContent) := by
  obtain ⟨_, expected, h⟩ := bind_eq_ok.mp h
  refine ⟨ensureExpectedStatus_ok.mp expected, ?_⟩
  cases verdict : review.status with
  | pass =>
    simp only [verdict] at h
    exact .inl ⟨.pendingApproval, .humanReview, .inl rfl, (LockedPair.transitionLocked_ok h).2⟩
  | manualReviewRequired =>
    simp only [verdict] at h
    exact .inl ⟨.manualReviewRequired, .humanReview, .inr rfl,
      (LockedPair.transitionLocked_ok h).2⟩
  | fail =>
    simp only [verdict] at h
    split at h
    · exact .inl ⟨.manualReviewRequired, .humanReview, .inr rfl,
        (LockedPair.transitionLocked_ok h).2⟩
    · exact .inr ⟨by omega, (LockedPair.transitionLocked_ok h).2⟩

theorem save_spends {context : AgentContext} {output : AgentOutput} {pair pair' : LockedPair}
    (held : store.pair workflowId = some pair) (author : output.author = context.agentName)
    (saved : output.save settings pair = .ok pair') :
    Spends settings workflowId ⟨store, .continues (.save context output)⟩
      ⟨store.setPair workflowId pair',
        .continues (if output.author = .contentReviewer then .recordMemory else .readWorkflow)⟩ := by
  have commits : pair'.checkpointsLeft settings < pair.checkpointsLeft settings →
      pair'.callsLeft settings = pair.callsLeft settings →
      pair'.generationsLeft settings ≤
        (if output.author = .contentGenerator then pair.retriesLeft settings
          else pair.generationsLeft settings) →
      pair'.workflow.retryCount ≤ max settings.maxContentRetries pair.workflow.retryCount →
      Spends settings workflowId ⟨store, .continues (.save context output)⟩
        ⟨store.setPair workflowId pair', .continues
          (if output.author = .contentReviewer then .recordMemory else .readWorkflow)⟩ := by
    intro checkpoints calls generations retries
    refine .commits held rfl ⟨by simp, by simp⟩ ?_ (by simp) checkpoints calls ?_ retries
    · split
      · exact .inr rfl
      · exact .inl rfl
    · simpa [Stage.agent, author] using generations
  cases output with
  | analysis analysis =>
    obtain ⟨status, rfl⟩ := LockedPair.saveAnalysisCheckpoint_ok saved
    refine commits ?_ rfl ?_ (Nat.le_max_right ..)
    · simp [LockedPair.checkpointsLeft, LockedPair.place, LockedPair.setStatus, status,
        LockedPair.retriesLeft]
    · simp [LockedPair.generationsLeft, LockedPair.setStatus, status, LockedPair.retriesLeft,
        AgentOutput.author]
  | content content =>
    obtain ⟨status, rfl⟩ := LockedPair.saveContentCheckpoint_ok saved
    refine commits ?_ rfl ?_ (Nat.le_max_right ..)
    · simp [LockedPair.checkpointsLeft, LockedPair.place, LockedPair.setStatus, status,
        LockedPair.retriesLeft]
    · simp [LockedPair.generationsLeft, LockedPair.setStatus, LockedPair.retriesLeft,
        AgentOutput.author]
  | review review =>
    obtain ⟨status, ⟨nextStatus, nextStep, human, rfl⟩ | ⟨room, rfl⟩⟩ := reviewed_next saved
    · refine commits ?_ rfl ?_ (Nat.le_max_right ..)
      · rcases human with rfl | rfl <;>
          simp [LockedPair.checkpointsLeft, LockedPair.place, LockedPair.setStatus, status,
            LockedPair.retriesLeft, LockedPair.reviewed] <;> split <;> omega
      · rcases human with rfl | rfl <;>
          simp [LockedPair.generationsLeft, LockedPair.setStatus, LockedPair.reviewed]
    · refine commits ?_ rfl ?_ ?_
      · simp only [LockedPair.checkpointsLeft, LockedPair.place, LockedPair.setStatus, status,
          LockedPair.retriesLeft, LockedPair.reviewed]
        split <;> omega
      · simp only [LockedPair.generationsLeft, LockedPair.setStatus, LockedPair.reviewed, status,
          LockedPair.retriesLeft, AgentOutput.author, reduceCtorEq, if_false]
        split <;> omega
      · show pair.workflow.retryCount + 1 ≤ _
        omega

/-! ### Steps -/

/-- A reserved LLM call is one call less. -/
theorem turned_spends {agentRunId : Uuid} {context : AgentContext} {pair pair' : LockedPair}
    (held : store.pair workflowId = some pair) (counted : pair.recordLlmCall settings = .ok pair') :
    Spends settings workflowId ⟨store, .continues (.agentLoop agentRunId context)⟩
      ⟨store.setPair workflowId pair', .continues (.agentTurn agentRunId context)⟩ := by
  have room : pair.workflow.llmCallCount < settings.maxLlmCallsPerWorkflow := by
    unfold LockedPair.recordLlmCall at counted
    split at counted
    · cases counted
    · omega
  have after := LockedPair.recordLlmCall_ok counted
  have held' : (store.setPair workflowId pair').pair workflowId = some pair' := setPair_self
  have checkpoints : pair'.checkpointsLeft settings = pair.checkpointsLeft settings := by
    rw [after]
    rfl
  have retries : pair'.retriesLeft settings = pair.retriesLeft settings := by
    rw [after]
    rfl
  have generations : pair'.generationsLeft settings = pair.generationsLeft settings := by
    rw [after]
    rfl
  have calls : pair'.callsLeft settings + 1 = pair.callsLeft settings := by
    rw [after]
    show settings.maxLlmCallsPerWorkflow - (pair.workflow.llmCallCount + 1) + 1 =
      settings.maxLlmCallsPerWorkflow - pair.workflow.llmCallCount
    omega
  refine ⟨trivial, ?_, ?_, ?_, ?_⟩
  · simp only [LoopState.acts, LoopState.ended, LoopState.actsLeft, Stage.failing, left_held held,
      left_held held', checkpoints, Stage.rank, Bool.false_eq_true, if_false]
    omega
  · simp [LoopState.startsIteration, LoopState.iterationsLeft, Stage.failing, left_held held,
      left_held held', checkpoints]
  · simp [LoopState.generates, LoopState.generationsLeft, Stage.failing, Stage.agent,
      left_held held, left_held held', generations, retries]
  · show (store.setPair workflowId pair').retryCount workflowId ≤
      max _ (store.retryCount workflowId)
    rw [retryCount_held held, retryCount_held held', after]
    exact Nat.le_max_right ..

theorem persistFailure_retryCount (error : RaisedError) (now : Timestamp) :
    (store.persistFailure workflowId error now).retryCount workflowId =
      store.retryCount workflowId := by
  unfold WorkflowStore.persistFailure
  split
  · rfl
  · rename_i pair held
    split
    · rfl
    · rename_i failed recorded
      obtain ⟨-, rfl⟩ := LockedPair.persistFailure_eq.mp recorded
      rw [retryCount_held held, retryCount_held setPair_self]

/-- The loop goes on from a snapshot as the rows that it was read of say. -/
theorem snapshot_spends {workflow : WorkflowRunModel} {campaign : CampaignModel}
    (read : store.workflows.lookup workflowId = some workflow)
    (row : store.campaigns.lookup workflow.campaignId = some campaign) :
    Spends settings workflowId ⟨store, .continues (.readCampaign workflow)⟩
      ⟨store, nextStage workflow.status campaign⟩ := by
  have held : store.pair workflowId = some { workflow, campaign } :=
    WorkflowStore.pair_eq_some.mpr ⟨read, row⟩
  have transition : ∀ expectedStatus, workflow.status = expectedStatus →
      (expectedStatus = .reviewing → campaign.generatedContent = none) →
      Spends settings workflowId ⟨store, .continues (.readCampaign workflow)⟩
        ⟨store, .continues (.transition expectedStatus)⟩ := by
    intro expectedStatus expected undrafted
    exact .goesOn rfl rfl ⟨_, held, expected, undrafted⟩ rfl rfl (by simp [Stage.rank]) (by simp)
      (by simp) rfl (by simp)
  have build : ∀ agentName,
      LoopState.Fits workflowId ⟨store, .continues (.buildContext agentName)⟩ →
      Spends settings workflowId ⟨store, .continues (.readCampaign workflow)⟩
        ⟨store, .continues (.buildContext agentName)⟩ := by
    intro agentName fits
    exact .goesOn rfl rfl fits rfl rfl (by simp [Stage.rank]) (by simp) (by simp) rfl (by simp)
  unfold nextStage
  split
  · exact .closes read (by simp [Stage.rank]) (by rintro _ ⟨⟩) rfl
  · split
    · exact build _ trivial
    · rename_i generating
      split
      · exact transition _ generating (by simp)
      · exact build _ ⟨_, held, generating⟩
    · rename_i reviewing
      split
      · rename_i undrafted
        exact transition _ reviewing fun _ => undrafted
      · exact build _ trivial
    · rename_i other
      exact transition _ rfl fun reviewing => absurd reviewing other

theorem buildContext_agent {agentName : AgentName} {campaign : CampaignModel}
    {context : AgentContext} (built : buildContext agentName campaign = .ok context) :
    context.agentName = agentName := by
  unfold buildContext at built
  split at built
  · cases built
    rfl
  · split at built
    · cases built
    · cases built
      rfl
  · split at built
    · cases built
    · cases built
      rfl

/-- The context of a generator is the beginning of one of the generations that are left. -/
theorem built_spends {agentName : AgentName} {pair : LockedPair} {context : AgentContext}
    (fits : LoopState.Fits workflowId ⟨store, .continues (.buildContext agentName)⟩)
    (held : store.pair workflowId = some pair)
    (built : buildContext agentName pair.campaign = .ok context) :
    Spends settings workflowId ⟨store, .continues (.buildContext agentName)⟩
      ⟨store, .continues (.createRun context)⟩ := by
  have agent := buildContext_agent built
  refine .stays rfl rfl trivial rfl rfl (by simp [Stage.rank]) (by simp) (by simp) ?_
  simp only [LoopState.generates, LoopState.generationsLeft, Stage.failing, Stage.agent, agent,
    left_held held, Outcome.continues.injEq, Stage.buildContext.injEq, Bool.false_eq_true,
    if_false, reduceCtorEq, Option.some.injEq]
  by_cases generator : agentName = .contentGenerator
  · subst generator
    obtain ⟨pair₁, held₁, status⟩ := fits
    rw [held] at held₁
    cases held₁
    simp only [if_true, LockedPair.generationsLeft, status]
    omega
  · simp [generator]

/-- Every transaction of the loop keeps to what is left. -/
theorem stageStep_spends {now : Timestamp} {workerId : String} {job : LeasedJob} {jobs : JobStore}
    {answer : Answer} {stage : Stage} {outcome : Outcome Stage}
    (fits : LoopState.Fits workflowId ⟨store, .continues stage⟩)
    (step : StageStep settings now workerId job jobs workflowId answer store stage store' outcome) :
    Spends settings workflowId ⟨store, .continues stage⟩ ⟨store', outcome⟩ := by
  cases step with
  | failed _ error =>
    have inLoop : 0 < stage.rank := by
      cases stage <;> first | exact absurd fits id | simp [Stage.rank]
    exact .closes fits inLoop (fails_closes inLoop error) rfl
  | checked | got | other => exact absurd fits id
  | read row =>
    exact .goesOn rfl rfl row rfl rfl (by simp [Stage.rank]) (by simp) (by simp) rfl (by simp)
  | snapshot row => exact snapshot_spends fits row
  | transitioned goesOn rule held expected valid =>
    exact transition_spends held fits rule expected valid
  | built held built => exact built_spends fits held built
  | created | started | completed =>
    exact .goesOn rfl rfl fits rfl rfl (by simp [Stage.rank]) (by simp)
      (by simp) rfl (by simp)
  | answered author =>
    exact .goesOn rfl rfl author rfl rfl (by simp [Stage.rank]) (by simp) (by simp) rfl (by simp)
  | continued =>
    exact .goesOn rfl rfl trivial rfl rfl (by simp [Stage.rank]) (by simp) (by simp) rfl (by simp)
  | turned held counted => exact turned_spends held counted
  | saved goesOn held saved => exact save_spends held fits saved
  | remembered =>
    exact .goesOn rfl rfl trivial rfl rfl (by simp [Stage.rank]) (by simp) (by simp) rfl (by simp)
  | @recorded agentRunId limit error run row source =>
    refine .closes fits (by simp [Stage.rank]) ?_ rfl
    cases error with
    | none => rintro _ ⟨⟩
    | some error => exact handleError_closes (by simp [Stage.rank]) error
  | persisted =>
    exact .closes fits (by simp [Stage.rank]) (by rintro _ ⟨⟩) (persistFailure_retryCount ..)

theorem step_spends {state : LoopState} {event : Timestamp × Answer} {workerId : String}
    {job : LeasedJob} {jobs : JobStore} (fits : state.Fits workflowId) :
    Spends settings workflowId state (state.step settings workerId job jobs workflowId event) := by
  obtain ⟨store, outcome⟩ := state
  cases outcome with
  | continues stage => exact stageStep_spends fits (handle_step ..)
  | returns | raises =>
    exact ⟨trivial, Nat.le_refl _, Nat.le_refl _, Nat.le_refl _, Nat.le_max_right ..⟩

/-! ### Runs -/

section

variable (settings : Settings) (workerId : String) (job : LeasedJob) (jobs : JobStore)
  (workflowId : WorkflowId) (store : WorkflowStore)

/-- A run that has not ended has taken a transaction with every event. -/
theorem acts_total {state : LoopState} {events : List (Timestamp × Answer)}
    (goesOn : ((runToPendingApproval settings workerId job jobs workflowId store).run state
      events).ended = false) :
    (runToPendingApproval settings workerId job jobs workflowId store).total
      (fun state _ => state.acts) state events = events.length := by
  induction events generalizing state with
  | nil => rfl
  | cons event events ih =>
    have open_ : state.ended = false := by
      by_contra done
      obtain ⟨store', outcome⟩ := state
      have stays : ∀ events, (runToPendingApproval settings workerId job jobs workflowId store).run
          ⟨store', outcome⟩ events = ⟨store', outcome⟩ := by
        intro events
        induction events with
        | nil => rfl
        | cons event events ih =>
          cases outcome with
          | continues => exact absurd rfl done
          | returns | raises => exact ih
      rw [stays] at goesOn
      exact done goesOn
    rw [Machine.total, ih goesOn, List.length_cons]
    simp only [LoopState.acts, open_, Bool.false_eq_true, if_false]
    omega

theorem left_start {f : LockedPair → Nat} {outcome : Outcome Stage} {bound : Nat}
    (bounded : ∀ pair, store.pair workflowId = some pair → f pair ≤ bound) :
    LoopState.left workflowId ⟨store, outcome⟩ f ≤ bound := by
  unfold LoopState.left
  cases held : store.pair workflowId with
  | none => exact Nat.zero_le _
  | some pair => exact bounded pair held

/-- The loop ends on every sequence of results of the agents and the database, from any rows. Until
then it takes at most the retries that were left at first, and it generates content at most once
more than that. -/
theorem run_terminates :
    (∀ answers : Nat → Timestamp × Answer, ∃ n,
      ((runToPendingApproval settings workerId job jobs workflowId store).run
        (runToPendingApproval settings workerId job jobs workflowId store).init
        ((List.range n).map answers)).ended = true) ∧
    ∀ answers : List (Timestamp × Answer),
      (runToPendingApproval settings workerId job jobs workflowId store).total
          (fun state _ => state.startsIteration)
          (runToPendingApproval settings workerId job jobs workflowId store).init answers ≤
        2 * (settings.maxContentRetries - store.retryCount workflowId) + 6 ∧
      (runToPendingApproval settings workerId job jobs workflowId store).total
          (fun state _ => state.generates)
          (runToPendingApproval settings workerId job jobs workflowId store).init answers ≤
        (settings.maxContentRetries - store.retryCount workflowId) + 1 ∧
      (runToPendingApproval settings workerId job jobs workflowId store).Always
        (fun state => state.store.retryCount workflowId ≤
          max settings.maxContentRetries (store.retryCount workflowId))
        (runToPendingApproval settings workerId job jobs workflowId store).init answers := by
  generalize same : runToPendingApproval settings workerId job jobs workflowId store = loop
  have spends : ∀ (state : LoopState) (event : Timestamp × Answer), state.Fits workflowId →
      Spends settings workflowId state (loop.step state event) := by
    subst same
    exact fun state event fits => step_spends fits
  have init : loop.init = { store } := by rw [← same]; rfl
  have keep : ∀ (state : LoopState) (event : Timestamp × Answer), state.Fits workflowId →
      (loop.step state event).Fits workflowId :=
    fun state event fits => (spends state event fits).fits
  have fits : LoopState.Fits workflowId { store } := trivial
  rw [init]
  refine ⟨fun answers => ?_, fun answers => ⟨?_, ?_, ?_⟩⟩
  · let n := LoopState.actsLeft settings workflowId { store } + 1
    refine ⟨n, ?_⟩
    by_contra goesOn
    have taken : loop.total (fun state _ => state.acts) { store } ((List.range n).map answers) =
        n := by
      subst same
      rw [acts_total settings workerId job jobs workflowId store (by simpa using goesOn)]
      simp
    have bounded := Machine.total_le keep (fun state event fits => (spends state event fits).acts)
      fits ((List.range n).map answers)
    rw [taken] at bounded
    omega
  · refine (Machine.total_le keep (fun state event fits => (spends state event fits).iterations)
      fits answers).trans ?_
    show LoopState.left workflowId { store } (·.checkpointsLeft settings) + 1 ≤ _
    have bounded : LoopState.left workflowId { store } (·.checkpointsLeft settings) ≤
        2 * (settings.maxContentRetries - store.retryCount workflowId) + 5 := by
      refine left_start workflowId store fun pair held => ?_
      rw [retryCount_held held]
      simp only [LockedPair.checkpointsLeft, LockedPair.retriesLeft, LockedPair.place]
      split <;> first | omega | (split <;> omega)
    omega
  · refine (Machine.total_le keep (fun state event fits => (spends state event fits).generations)
      fits answers).trans ?_
    show LoopState.left workflowId { store } (·.generationsLeft settings) ≤ _
    refine left_start workflowId store fun pair held => ?_
    rw [retryCount_held held]
    simp only [LockedPair.generationsLeft, LockedPair.retriesLeft]
    split <;> first | omega | (split <;> omega)
  · refine Machine.always_of_invariant
      (I := fun state : LoopState => state.Fits workflowId ∧ state.store.retryCount workflowId ≤
        max settings.maxContentRetries (store.retryCount workflowId)) ?_
      (fun state holds => holds.2) ⟨fits, Nat.le_max_right ..⟩
    rintro state event ⟨fits, bounded⟩
    have spent := spends state event fits
    refine ⟨spent.fits, ?_⟩
    have retries := spent.retries
    omega

end

end CyberLegends.Workflow
