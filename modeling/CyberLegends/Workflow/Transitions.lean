import CyberLegends.Workflow.Sessions

/-! Committed status changes of workflows. The locks serialize the operations, but a locked row that
the session has loaded before is not refreshed, so an operation follows the transition table as long
as what its session has loaded is what is committed. -/

namespace CyberLegends.Workflow

open CyberLegends.Core Lib

variable {settings : Settings} {w : WorkflowWorld}

/-- The workflow that an event locks, and the status that its operation is validated against. -/
def WorkflowWorld.validated (w : WorkflowWorld) : WorkflowEvent → Option (WorkflowId × CampaignStatus)
  | .run id _ => do
    let pending ← (w.session id).pending
    let pair ← (w.session id).lockedPair w.db pending.workflowId pending.campaignId
    return (pending.workflowId, pair.workflow.status)
  | .decide id request _ _ _ => do
    let pair ← (w.session id).lockedPair w.db request.workflowId request.campaignId
    return (request.workflowId, pair.workflow.status)
  | .act _ guard _ => do
    let pair ← ({} : WorkflowSession).lockedPair w.db guard.workflowId guard.campaignId
    return (guard.workflowId, pair.workflow.status)
  | _ => none

/-- Every status change that an event commits starts from the status committed before it, against
which the operation was validated, and is in the transition table. -/
def TransitionSafe (w : WorkflowWorld) (event : WorkflowEvent) (w' : WorkflowWorld) : Prop :=
  ∀ workflowId row row', w.db.workflows.lookup workflowId = some row →
    w'.db.workflows.lookup workflowId = some row' → row'.status ≠ row.status →
      w.validated event = some (workflowId, row.status) ∧
        row'.status ∈ allowedTransitions row.status

/-- The session has not loaded the workflow, or has loaded it with the committed status. -/
def WorkflowSession.fresh (session : WorkflowSession) (db : Database) (workflowId : WorkflowId) :
    Bool :=
  (session.workflows.lookup workflowId).all fun row =>
    (db.workflows.lookup workflowId).all fun current => row.status = current.status

/-- The session of an event that locks a workflow is fresh there. The handler of an action rolls
back before it locks, so it needs no condition. -/
def LocksFresh (w : WorkflowWorld) : WorkflowEvent → Prop
  | .run id _ => (w.session id).pending.all fun pending =>
      (w.session id).fresh w.db pending.workflowId
  | .decide id request _ _ _ => (w.session id).fresh w.db request.workflowId
  | _ => True

instance decidableLocksFresh (w : WorkflowWorld) (event : WorkflowEvent) :
    Decidable (LocksFresh w event) :=
  match event with
  | .run .. | .decide .. => inferInstanceAs (Decidable (_ = true))
  | .loadWorkflow .. | .loadCampaign .. | .forgetWorkflow .. | .forgetCampaign .. | .rollback _
  | .start .. | .act .. => isTrue trivial

/-! ### What the operations do to the status -/

/-- A status that a validated operation leaves behind. -/
def Follows (status status' : CampaignStatus) : Prop :=
  status' = status ∨ status' ∈ allowedTransitions status

theorem ensureValidTransition_ok {status nextStatus : CampaignStatus} :
    ensureValidTransition status nextStatus = .ok () ↔ nextStatus ∈ allowedTransitions status := by
  unfold ensureValidTransition
  rw [← canTransition_iff]
  by_cases valid : canTransition status nextStatus = true
  · simp [valid]
  · simp [valid]

theorem ensureExpectedStatus_ok {actual expected : CampaignStatus} :
    ensureExpectedStatus actual expected = .ok () ↔ actual = expected := by
  unfold ensureExpectedStatus
  by_cases same : actual = expected <;> simp [same]

theorem toOption_eq_some {α : Type} {x : Except WorkflowError α} {a : α} :
    x.toOption = some a ↔ x = .ok a := by
  cases x <;> simp [Except.toOption]

namespace LockedPair

variable {pair pair' : LockedPair}

theorem transitionLocked_ok {nextStatus : CampaignStatus} {nextStep : WorkflowStep}
    (h : pair.transitionLocked nextStatus nextStep = .ok pair') :
    nextStatus ∈ allowedTransitions pair.workflow.status ∧
      pair' = pair.setStatus nextStatus nextStep := by
  obtain ⟨_, valid, result⟩ := bind_eq_ok.mp h
  exact ⟨ensureValidTransition_ok.mp valid, (pure_eq_ok.mp result).symm⟩

theorem transitionCheckpoint_follows {expectedStatus nextStatus : CampaignStatus}
    {nextStep : WorkflowStep}
    (h : pair.transitionCheckpoint expectedStatus nextStatus nextStep = .ok pair') :
    Follows pair.workflow.status pair'.workflow.status := by
  obtain ⟨_, expected, h⟩ := bind_eq_ok.mp h
  obtain ⟨_, valid, result⟩ := bind_eq_ok.mp h
  rw [ensureExpectedStatus_ok.mp expected, ← pure_eq_ok.mp result]
  exact .inr (ensureValidTransition_ok.mp valid)

theorem transitionLocked_follows {status nextStatus : CampaignStatus} {nextStep : WorkflowStep}
    (same : pair.workflow.status = status)
    (h : pair.transitionLocked nextStatus nextStep = .ok pair') :
    Follows status pair'.workflow.status := by
  obtain ⟨valid, rfl⟩ := transitionLocked_ok h
  rw [same] at valid
  exact .inr valid

theorem saveAnalysisCheckpoint_follows {analysis : String}
    (h : pair.saveAnalysisCheckpoint analysis = .ok pair') :
    Follows pair.workflow.status pair'.workflow.status := by
  obtain ⟨_, -, h⟩ := bind_eq_ok.mp h
  exact transitionLocked_follows (by exact rfl) h

theorem saveContentCheckpoint_follows {content : String}
    (h : pair.saveContentCheckpoint content = .ok pair') :
    Follows pair.workflow.status pair'.workflow.status := by
  obtain ⟨_, -, h⟩ := bind_eq_ok.mp h
  exact transitionLocked_follows (by exact rfl) h

theorem saveReviewDecisionCheckpoint_follows {review : QualityReview}
    (h : pair.saveReviewDecisionCheckpoint settings review = .ok pair') :
    Follows pair.workflow.status pair'.workflow.status := by
  obtain ⟨_, -, h⟩ := bind_eq_ok.mp h
  cases verdict : review.status with
  | pass => simp only [verdict] at h; exact transitionLocked_follows (by exact rfl) h
  | manualReviewRequired => simp only [verdict] at h; exact transitionLocked_follows (by exact rfl) h
  | fail =>
    simp only [verdict] at h
    split at h
    · exact transitionLocked_follows (by exact rfl) h
    · exact transitionLocked_follows (by exact rfl) h

theorem persistFailure_follows {errorCode errorMessage : String} {now : Timestamp}
    (h : pair.persistFailure errorCode errorMessage now = some pair') :
    Follows pair.workflow.status pair'.workflow.status := by
  unfold persistFailure at h
  split at h
  · cases h
  · split at h
    · rename_i valid
      cases h
      exact .inr (canTransition_iff.mp valid)
    · cases h

theorem transition_follows {nextStatus : CampaignStatus} {step : Option WorkflowStep}
    (h : pair.transition nextStatus step = .ok pair') :
    Follows pair.workflow.status pair'.workflow.status := by
  obtain ⟨_, valid, result⟩ := bind_eq_ok.mp h
  rw [← pure_eq_ok.mp result]
  exact .inr (ensureValidTransition_ok.mp valid)

theorem recordLlmCall_follows (h : pair.recordLlmCall settings = .ok pair') :
    Follows pair.workflow.status pair'.workflow.status := by
  unfold recordLlmCall at h
  split at h
  · cases h
  · cases h
    exact .inl rfl

theorem decide_follows {request : ApprovalRequest} {decided : Bool} {actorId : String}
    {actorRole : UserRole} {now : Timestamp} {record : ApprovalRecordModel}
    (h : pair.decide request decided actorId actorRole now = .ok (pair', record)) :
    Follows pair.workflow.status pair'.workflow.status := by
  unfold LockedPair.decide at h
  split at h
  · cases h
  · split at h
    · cases h
    · split at h
      · cases h
      · obtain ⟨_, valid, result⟩ := bind_eq_ok.mp h
        cases result
        exact .inr (ensureValidTransition_ok.mp valid)

theorem act_follows {guard : ActionExecutionGuard} {effect : ActionEffect}
    (h : pair.act guard effect = .ok pair') :
    Follows pair.workflow.status pair'.workflow.status := by
  unfold act at h
  split at h
  · cases effect with
    | validate => cases h; exact .inl rfl
    | updateMetadata => cases h; exact .inl rfl
    | transition nextStatus step =>
      simp only at h
      split at h
      · rename_i valid
        cases h
        exact .inr (canTransition_iff.mp valid)
      · cases h
  · cases h

end LockedPair

theorem PairOperation.perform_follows {now : Timestamp} {pair pair' : LockedPair}
    {operation : PairOperation} (h : operation.perform settings now pair = some pair') :
    Follows pair.workflow.status pair'.workflow.status := by
  cases operation with
  | transitionCheckpoint =>
    exact LockedPair.transitionCheckpoint_follows (toOption_eq_some.mp h)
  | saveAnalysisCheckpoint =>
    exact LockedPair.saveAnalysisCheckpoint_follows (toOption_eq_some.mp h)
  | saveContentCheckpoint =>
    exact LockedPair.saveContentCheckpoint_follows (toOption_eq_some.mp h)
  | saveReviewDecisionCheckpoint =>
    exact LockedPair.saveReviewDecisionCheckpoint_follows (toOption_eq_some.mp h)
  | persistFailure => exact LockedPair.persistFailure_follows h
  | transition => exact LockedPair.transition_follows (toOption_eq_some.mp h)
  | recordLlmCall => exact LockedPair.recordLlmCall_follows (toOption_eq_some.mp h)

/-! ### Commits -/

theorem lockedPair_spec {session : WorkflowSession} {db : Database} {workflowId : WorkflowId}
    {campaignId : CampaignId} {pair : LockedPair}
    (h : session.lockedPair db workflowId campaignId = some pair) :
    Table.getForUpdate session.workflows db.workflows workflowId = some pair.workflow ∧
      Table.getForUpdate session.campaigns db.campaigns campaignId = some pair.campaign := by
  simp only [WorkflowSession.lockedPair, Option.bind_eq_bind, Option.bind_eq_some_iff] at h
  obtain ⟨campaign, locked, workflow, locked', h⟩ := h
  split at h
  · cases h
    exact ⟨locked', locked⟩
  · cases h

/-- A fresh session sees the committed status of the workflow it locks. -/
theorem fresh_status {session : WorkflowSession} {db : Database} {workflowId : WorkflowId}
    {seen current : WorkflowRunModel} (fresh : session.fresh db workflowId = true)
    (locked : Table.getForUpdate session.workflows db.workflows workflowId = some seen)
    (row : db.workflows.lookup workflowId = some current) : seen.status = current.status := by
  obtain ⟨current', row', held | ⟨-, rfl⟩⟩ := Table.getForUpdate_cases locked
  · unfold WorkflowSession.fresh at fresh
    rw [held, row] at fresh
    exact of_decide_eq_true fresh
  · rw [row] at row'
    cases row'
    rfl

/-- A commit of a fresh session changes the status of the workflow it has locked only, and as the
operation that it validated. -/
theorem finish_safe {id : SessionId} {session : WorkflowSession} {workflowId : WorkflowId}
    {campaignId : CampaignId} {pair : LockedPair} {result : Option LockedPair}
    (locked : session.lockedPair w.db workflowId campaignId = some pair)
    (fresh : session.fresh w.db workflowId = true)
    (follows : ∀ pair', result = some pair' →
      Follows pair.workflow.status pair'.workflow.status)
    {k : WorkflowId} {row row' : WorkflowRunModel} (before : w.db.workflows.lookup k = some row)
    (after : (w.finish id session workflowId campaignId pair result).db.workflows.lookup k =
      some row') (changed : row'.status ≠ row.status) :
    k = workflowId ∧ pair.workflow.status = row.status ∧
      row'.status ∈ allowedTransitions row.status := by
  cases result with
  | none =>
    rw [show w.db.workflows.lookup k = some row' from after] at before
    cases before
    exact absurd rfl changed
  | some pair' =>
    obtain ⟨seenWorkflow, -⟩ := lockedPair_spec locked
    have after : (w.db.flushPair workflowId campaignId pair pair').workflows.lookup k =
      some row' := after
    unfold Database.flushPair at after
    split at after
    · rename_i workflow campaign current _
      obtain ⟨rfl, rfl⟩ | ⟨-, same⟩ := Table.lookup_insert_cases after
      · rw [before] at current
        cases current
        have same := fresh_status fresh seenWorkflow before
        have written : (pair.workflow.flush pair'.workflow row).status =
            pair'.workflow.status := by
          show Lib.flush pair.workflow.status pair'.workflow.status row.status = _
          rw [same, flush_fresh]
        rw [written] at changed ⊢
        refine ⟨rfl, same, ?_⟩
        rw [← same] at changed ⊢
        exact (follows pair' rfl).resolve_left changed
      · rw [before] at same
        cases same
        exact absurd rfl changed
    · rw [before] at after
      cases after
      exact absurd rfl changed

theorem empty_fresh (db : Database) (workflowId : WorkflowId) :
    ({} : WorkflowSession).fresh db workflowId = true := rfl

/-! ### Steps and runs -/

/-- An event that commits nothing changes no status. -/
theorem transitionSafe_of_same {w w' : WorkflowWorld} {event : WorkflowEvent}
    (same : w'.db = w.db) : TransitionSafe w event w' := by
  intro workflowId row row' before after changed
  rw [same, before] at after
  cases after
  exact absurd rfl changed

theorem run_safe {id : SessionId} {now : Timestamp} (fresh : LocksFresh w (.run id now)) :
    TransitionSafe w (.run id now) (w.run settings id now) := by
  simp only [WorkflowWorld.run]
  split
  · exact transitionSafe_of_same rfl
  · rename_i pending held
    simp only [LocksFresh, held, Option.all_some] at fresh
    split
    · exact transitionSafe_of_same rfl
    · rename_i pair locked
      intro workflowId row row' before after changed
      obtain ⟨rfl, same, allowed⟩ := finish_safe locked fresh
        (fun _ result => PairOperation.perform_follows result) before after changed
      refine ⟨?_, allowed⟩
      simp only [WorkflowWorld.validated, held, Option.bind_eq_bind, Option.bind_some, locked,
        Option.pure_def, same]

theorem decide_safe {id : SessionId} {request : ApprovalRequest} {actorId : String}
    {actorRole : UserRole} {now : Timestamp}
    (fresh : LocksFresh w (.decide id request actorId actorRole now)) :
    TransitionSafe w (.decide id request actorId actorRole now)
      (w.decide id request actorId actorRole now) := by
  simp only [WorkflowWorld.decide]
  split
  · split
    · exact transitionSafe_of_same rfl
    · rename_i pair locked
      split
      · exact transitionSafe_of_same rfl
      · rename_i decided record result
        intro workflowId row row' before after changed
        have follows : ∀ pair', some decided = some pair' →
            Follows pair.workflow.status pair'.workflow.status := by
          rintro _ ⟨⟩
          exact LockedPair.decide_follows result
        obtain ⟨rfl, same, allowed⟩ := finish_safe locked fresh follows before after changed
        refine ⟨?_, allowed⟩
        simp only [WorkflowWorld.validated, Option.bind_eq_bind, Option.bind_some, locked,
          Option.pure_def, same]
  · exact transitionSafe_of_same rfl

theorem act_safe (id : SessionId) (guard : ActionExecutionGuard) (effect : ActionEffect) :
    TransitionSafe w (.act id guard effect) (w.act id guard effect) := by
  unfold WorkflowWorld.act
  split
  · exact transitionSafe_of_same rfl
  · rename_i pair locked
    intro workflowId row row' before after changed
    obtain ⟨rfl, same, allowed⟩ := finish_safe locked (empty_fresh w.db guard.workflowId)
      (fun _ result => LockedPair.act_follows (toOption_eq_some.mp result)) before after changed
    refine ⟨?_, allowed⟩
    simp only [WorkflowWorld.validated, Option.bind_eq_bind, Option.bind_some, locked,
      Option.pure_def, same]

theorem start_db (id : SessionId) (workflowId : WorkflowId) (operation : PairOperation) :
    (w.start id workflowId operation).db = w.db := by
  simp only [WorkflowWorld.start]
  split
  · rfl
  · split <;> rfl

theorem step_safe (w : WorkflowWorld) (event : WorkflowEvent) (fresh : LocksFresh w event) :
    TransitionSafe w event (w.step settings event) := by
  cases event with
  | loadWorkflow | loadCampaign | forgetCampaign | rollback => exact transitionSafe_of_same rfl
  | forgetWorkflow id workflowId =>
    refine transitionSafe_of_same ?_
    simp only [WorkflowWorld.step, WorkflowWorld.forgetWorkflow]
    split <;> rfl
  | start id workflowId operation =>
    exact transitionSafe_of_same (start_db id workflowId operation)
  | run id now => exact run_safe fresh
  | decide id request actorId actorRole now => exact decide_safe fresh
  | act id guard effect => exact act_safe id guard effect

/-- In a run of any sessions on any database in which every session that locks a workflow is fresh
there, each committed status change starts from the status committed before it and is allowed. -/
theorem transitions_safe (settings : Settings) (db : Database) (events : List WorkflowEvent)
    (fresh : (workflowMachine settings db).Meets LocksFresh (workflowMachine settings db).init
      events) :
    (workflowMachine settings db).Steps TransitionSafe (workflowMachine settings db).init events :=
  Machine.steps_hold (I := fun _ => True) (fun _ _ _ _ => trivial)
    (fun w event _ fresh => step_safe w event fresh) trivial fresh

/-- One campaign whose workflow generates content. -/
def generatingDatabase : Database where
  campaigns := AList.singleton "spring-launch" { status := .generating }
  workflows := AList.singleton 1 { campaignId := "spring-launch", status := .generating }

/-- The content is saved, reviewed and approved by one session after the other. -/
def approvedRun : List WorkflowEvent :=
  [.start 0 1 (.saveContentCheckpoint "content"), .run 0 0,
    .start 0 1 (.saveReviewDecisionCheckpoint { status := .pass, qualityScore := 90 }), .run 0 1,
    .loadWorkflow 1 1,
    .decide 1 { campaignId := "spring-launch", workflowId := 1, decision := .approve } "mia"
      .reviewer 2]

theorem approved_run_safe :
    (workflowMachine {} generatingDatabase).Meets LocksFresh
        (workflowMachine {} generatingDatabase).init approvedRun ∧
      (workflowMachine {} generatingDatabase).Steps TransitionSafe
        (workflowMachine {} generatingDatabase).init approvedRun := by
  have fresh : (workflowMachine {} generatingDatabase).Meets LocksFresh
      (workflowMachine {} generatingDatabase).init approvedRun := by
    decide +kernel
  exact ⟨fresh, transitions_safe {} generatingDatabase approvedRun fresh⟩

/-- Two loops run the workflow. One has read its hint in order to save the content when the other
records a failure; then the first takes the locks. -/
def overwritingRun : List WorkflowEvent :=
  [.start 0 1 (.saveContentCheckpoint "content"),
    .start 1 1 (.persistFailure "LLM_TIMEOUT" "Provider timed out"), .run 1 0]

/-- The first loop validates the status of its hint and takes the failed workflow to review. -/
theorem overwriting_run_unsafe :
    ¬ (workflowMachine {} generatingDatabase).Steps TransitionSafe
      (workflowMachine {} generatingDatabase).init (overwritingRun ++ [.run 0 1]) := by
  intro safe
  have last := (Machine.Steps.append.mp safe).2.1
  let w := (workflowMachine {} generatingDatabase).run
    (workflowMachine {} generatingDatabase).init overwritingRun
  have before : (w.db.workflows.lookup 1).map (·.status) = some .failed := by decide +kernel
  have after : (((workflowMachine {} generatingDatabase).step w (.run 0 1)).db.workflows.lookup
      1).map (·.status) = some .reviewing := by
    decide +kernel
  obtain ⟨row, found, failed⟩ := Option.map_eq_some_iff.mp before
  obtain ⟨row', found', reviewing⟩ := Option.map_eq_some_iff.mp after
  have allowed := (last 1 row row' found found' (by rw [failed, reviewing]; decide)).2
  rw [failed, reviewing] at allowed
  exact absurd allowed (by decide)

end CyberLegends.Workflow
