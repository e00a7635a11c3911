import CyberLegends.Actions.Service

/-! Authorization of controlled actions. An execution is reserved only when the policy, evaluated
again on the locked rows, and the recorded approval admit it; approvers are human, a request has at
most one execution, and a rejected or expired one has none. -/

namespace CyberLegends.Actions

open CyberLegends.Core Lib Workflow

variable {config : ActionConfig} {w w' : ActionWorld}

/-! ### What is claimed of states and steps -/

def ActionRequestStatus.closed (status : ActionRequestStatus) : Bool :=
  status = .rejected ∨ status = .expired

/-- The statuses of a request with an execution. -/
def ActionRequestStatus.reserved (status : ActionRequestStatus) : Bool :=
  status = .executing ∨ status = .completed ∨ status = .failed

open ActionRequestStatus (closed reserved)

/-- The approver on record is neither SYSTEM nor the agent that proposed the action. -/
def HumanApproval (request : AgentActionRequestModel) : Prop :=
  ∃ actorId role, request.approvedBy = some actorId ∧ request.approvedRole = some role ∧
    role ≠ .system ∧ actorId ≠ agentActorId request.agentName

/-- No execution belongs to the request. -/
def ActionWorld.Unexecuted (w : ActionWorld) (requestId : ActionRequestId) : Prop :=
  ∀ executionId execution, w.executions.lookup executionId = some execution →
    execution.actionRequestId ≠ requestId

/-- The request is rejected or expired. -/
def ActionWorld.Closed (w : ActionWorld) (requestId : ActionRequestId) : Prop :=
  ∃ request, w.requests.lookup requestId = some request ∧ closed request.status = true

structure Authorized (w : ActionWorld) : Prop where
  human : ∀ requestId request, w.requests.lookup requestId = some request →
    request.status = .approved → HumanApproval request
  single : ∀ executionId executionId' execution execution',
    w.executions.lookup executionId = some execution →
      w.executions.lookup executionId' = some execution' →
        execution.actionRequestId = execution'.actionRequestId → executionId = executionId'
  closed : ∀ requestId, w.Closed requestId → w.Unexecuted requestId

/-- The policy, evaluated on the campaign and the workflow as they are committed, and the approval
on record admit the execution of the request. -/
def Warranted (config : ActionConfig) (w : ActionWorld) (request : AgentActionRequestModel)
    (now : Timestamp) : Prop :=
  ∃ campaign workflow, w.db.campaigns.lookup request.campaignId = some campaign ∧
    w.db.workflows.lookup request.workflowId = some workflow ∧
    let fresh := evaluate (w.context request campaign workflow)
      (config.registry.get request.actionName)
    fresh.decision ≠ .forbidden ∧
    (∀ expiry, request.expiresAt = some expiry → now < expiry) ∧
    (fresh.decision = .safe ∧
        (request.policyDecision ≠ .approvalRequired ∨ request.status = .approved) ∨
      fresh.decision = .approvalRequired ∧ request.status = .approved ∧
        roleSatisfiesRequirement request.approvedRole fresh.requiredRole = true)

/-- Every execution that an event creates is warranted in the state before it. -/
def CreatesWarranted (config : ActionConfig) (w : ActionWorld) (event : ActionEvent)
    (w' : ActionWorld) : Prop :=
  ∀ executionId execution, w.executions.lookup executionId = none →
    w'.executions.lookup executionId = some execution →
      ∃ caller identifier now request, event = .proceed caller identifier now ∧
        w.requests.lookup execution.actionRequestId = some request ∧
          Warranted config w request now

/-! ### Reservations -/

/-- How a refused reservation may rewrite its request: an approval is never new. -/
structure Rewrites (request request' : AgentActionRequestModel) : Prop where
  agent : request'.agentName = request.agentName
  approval : request'.status = .approved → request.status = .approved ∧
    request'.approvedBy = request.approvedBy ∧ request'.approvedRole = request.approvedRole

theorem Rewrites.refl (request : AgentActionRequestModel) : Rewrites request request :=
  ⟨rfl, fun approved => ⟨approved, rfl, rfl⟩⟩

theorem Rewrites.of_not_approved {request request' : AgentActionRequestModel}
    (agent : request'.agentName = request.agentName) (other : request'.status ≠ .approved) :
    Rewrites request request' :=
  ⟨agent, fun approved => absurd approved other⟩

theorem expire_some {request request' : AgentActionRequestModel} {version : Nat}
    (h : request.expire version = some request') :
    request' = { request with status := .expired, version := request.version + 1 } ∧
      (request.status = .pendingApproval ∨ request.status = .approved) := by
  unfold AgentActionRequestModel.expire at h
  split at h
  · rename_i condition
    exact ⟨(Option.some.inj h).symm, condition.2⟩
  · cases h

theorem approve_some {request request' : AgentActionRequestModel} {actorId : String}
    {role : UserRole} {version : Nat} {now : Timestamp}
    (h : request.approve actorId role version now = some request') :
    request' = { request with
        status := .approved, approvedBy := some actorId, approvedRole := some role
        approvedAt := some now, version := request.version + 1 } ∧
      request.status = .pendingApproval := by
  unfold AgentActionRequestModel.approve at h
  split at h
  · rename_i condition
    exact ⟨(Option.some.inj h).symm, condition.2⟩
  · cases h

theorem reject_some {request request' : AgentActionRequestModel} {actorId reason : String}
    {version : Nat} {now : Timestamp}
    (h : request.reject actorId reason version now = some request') :
    request' = { request with
        status := .rejected, rejectedBy := some actorId, rejectedAt := some now
        rejectionReason := some reason, version := request.version + 1 } ∧
      (request.status = .proposed ∨ request.status = .pendingApproval) := by
  unfold AgentActionRequestModel.reject at h
  split at h
  · rename_i condition
    exact ⟨(Option.some.inj h).symm, condition.2⟩
  · cases h

theorem commitAndRaise_some {α : Type} {request request' : AgentActionRequestModel}
    {error error' : ActionError}
    (h : (commitAndRaise request error : Except Refusal α) = .error ⟨some request', error'⟩) :
    request' = request := by
  cases h
  rfl

theorem authorize_commits {settings : Settings} {request request' : AgentActionRequestModel}
    {current : PolicyEvaluationResult} {context : PolicyEvaluationContext} {now : Timestamp}
    {error : ActionError}
    (h : authorize settings request current context now = .error ⟨some request', error⟩) :
    Rewrites request request' := by
  unfold authorize at h
  split at h
  · obtain rfl := commitAndRaise_some h
    exact .of_not_approved rfl nofun
  split at h
  · obtain rfl := commitAndRaise_some h
    cases expired : request.expire request.version with
    | none => exact .refl _
    | some request' =>
      obtain ⟨rfl, -⟩ := expire_some expired
      exact .of_not_approved rfl nofun
  split at h
  · split at h
    · obtain rfl := commitAndRaise_some h
      exact .of_not_approved rfl nofun
    split at h
    · obtain rfl := commitAndRaise_some h
      exact .refl _
    split at h
    · obtain rfl := commitAndRaise_some h
      exact .of_not_approved rfl nofun
    · cases h
  split at h
  · obtain rfl := commitAndRaise_some h
    exact .refl _
  split at h <;> cases h

/-- An authorized request meets the conditions on the fresh decision, the expiry and the
approval. -/
theorem authorize_ok {settings : Settings} {request : AgentActionRequestModel}
    {current : PolicyEvaluationResult} {context : PolicyEvaluationContext} {now : Timestamp}
    (h : authorize settings request current context now = .ok ()) :
    current.decision ≠ .forbidden ∧
      (∀ expiry, request.expiresAt = some expiry → now < expiry) ∧
      (current.decision = .safe ∧
          (request.policyDecision ≠ .approvalRequired ∨ request.status = .approved) ∨
        current.decision = .approvalRequired ∧ request.status = .approved ∧
          roleSatisfiesRequirement request.approvedRole current.requiredRole = true) := by
  unfold authorize at h
  split at h
  · cases h
  rename_i allowed
  split at h
  · cases h
  rename_i unexpired
  have alive : ∀ expiry, request.expiresAt = some expiry → now < expiry := by
    intro expiry stored
    rw [stored] at unexpired
    simpa using unexpired
  refine ⟨allowed, alive, ?_⟩
  split at h
  · rename_i required
    split at h
    · cases h
    split at h
    · cases h
    rename_i approved
    split at h
    · cases h
    rename_i satisfied
    exact .inr ⟨required, not_not.mp approved, by simpa using satisfied⟩
  · rename_i free
    have safe : current.decision = .safe := by
      cases decision : current.decision with
      | safe => rfl
      | approvalRequired => exact absurd decision free
      | forbidden => exact absurd decision allowed
    split at h
    · cases h
    rename_i original
    refine .inl ⟨safe, ?_⟩
    by_cases required : request.policyDecision = .approvalRequired
    · exact .inr (not_not.mp fun other => original ⟨required, other⟩)
    · exact .inl required

theorem createExecution_ok {store : ActionStore} {requestId : ActionRequestId}
    {request : AgentActionRequestModel} {definition : Option ActionDefinition}
    {guard : ActionExecutionGuard} {now : Timestamp} {reservation : Reservation}
    (h : createExecution store requestId request definition guard now = .ok reservation) :
    reservation.request = request.markExecuting ∧
      reservation.execution.actionRequestId = requestId ∧
      ∀ executionId execution, store.executions.lookup executionId = some execution →
        execution.actionRequestId ≠ requestId := by
  unfold createExecution at h
  split at h
  · cases h
  split at h
  · cases h
  split at h
  · cases h
  rename_i fresh
  cases h
  refine ⟨rfl, rfl, ?_⟩
  intro executionId execution found same
  refine fresh (List.any_eq_true.mpr ⟨⟨executionId, execution⟩, ?_, by simpa using same⟩)
  exact AList.mem_lookup_iff.mp found

theorem createExecution_error {store : ActionStore} {requestId : ActionRequestId}
    {request request' : AgentActionRequestModel} {definition : Option ActionDefinition}
    {guard : ActionExecutionGuard} {now : Timestamp} {error : ActionError} :
    createExecution store requestId request definition guard now ≠
      .error ⟨some request', error⟩ := by
  intro h
  unfold createExecution at h
  split at h
  · cases h
  split at h
  · cases h
  split at h <;> cases h

/-- The locked rows that a reservation works on, once it has looked at its request. -/
structure Locked (store : ActionStore) (requestId : ActionRequestId)
    (request : AgentActionRequestModel) (campaign : CampaignModel)
    (workflow : WorkflowRunModel) : Prop where
  row : store.requests.lookup requestId = some request
  campaign : store.db.campaigns.lookup request.campaignId = some campaign
  workflow : store.db.workflows.lookup request.workflowId = some workflow
  unclosed : closed request.status = false
  unreserved : reserved request.status = false

theorem rollback_commits_nothing {α : Type} {error error' : ActionError}
    {request : AgentActionRequestModel} :
    (rollback error : Except Refusal α) ≠ .error ⟨some request, error'⟩ := nofun

/-- Whether a reservation goes on to the policy. -/
def AgentActionRequestModel.admits (request : AgentActionRequestModel)
    (expectedVersion : Option Nat) : Bool :=
  closed request.status = false ∧ reserved request.status = false ∧
    expectedVersion.all fun version => request.version = version

theorem reserveLocked_admitted {registry : ActionRegistry} {settings : Settings}
    {store : ActionStore} {requestId : ActionRequestId} {request : AgentActionRequestModel}
    {campaign : CampaignModel} {workflow : WorkflowRunModel} {expectedVersion : Option Nat}
    {now : Timestamp} (admitted : request.admits expectedVersion = true) :
    ∃ guard,
      let context := store.context request campaign workflow
      let current := evaluate context (registry.get request.actionName)
      let evaluated := request.saveLatestPolicyResult current context none none now
      reserveLocked registry settings store requestId request campaign workflow expectedVersion
          now =
        (authorize settings evaluated current context now >>= fun _ =>
          createExecution store requestId evaluated (registry.get request.actionName) guard
            now) := by
  obtain ⟨unclosed, unreserved, version⟩ := of_decide_eq_true admitted
  have unexpired : request.status ≠ .expired := by
    intro expired
    rw [expired] at unclosed
    cases unclosed
  have live : request.status ∉ ([.executing, .completed, .failed, .rejected] :
      List ActionRequestStatus) := by
    cases status : request.status <;> revert unclosed unreserved <;> rw [status] <;> decide
  have current : ¬(expectedVersion.any fun version => request.version ≠ version) = true := by
    cases expectedVersion with
    | none => simp
    | some expected => simpa using version
  unfold reserveLocked
  simp only [unexpired, live, current, if_false]
  exact ⟨_, rfl⟩

theorem reserveLocked_refused {registry : ActionRegistry} {settings : Settings}
    {store : ActionStore} {requestId : ActionRequestId} {request : AgentActionRequestModel}
    {campaign : CampaignModel} {workflow : WorkflowRunModel} {expectedVersion : Option Nat}
    {now : Timestamp} (refused : request.admits expectedVersion = false) :
    ∃ error, reserveLocked registry settings store requestId request campaign workflow
      expectedVersion now = rollback error := by
  unfold reserveLocked
  split
  · exact ⟨_, rfl⟩
  rename_i unexpired
  split
  · exact ⟨_, rfl⟩
  rename_i live
  split
  · exact ⟨_, rfl⟩
  rename_i version
  refine absurd (decide_eq_true ⟨?_, ?_, ?_⟩) (ne_true_of_eq_false refused)
  · have unrejected : request.status ≠ .rejected := fun same => live (by simp [same])
    simp [closed, unexpired, unrejected]
  · simp only [List.mem_cons, List.not_mem_nil, or_false, not_or] at live
    simp [reserved, live.1, live.2.1, live.2.2.1]
  · cases expectedVersion with
    | none => rfl
    | some expected => simpa using version

/-- A reservation is refused with a rollback, or it decides about the locked rows. -/
theorem reserve_cases {registry : ActionRegistry} {settings : Settings} {store : ActionStore}
    {requestId : ActionRequestId} {campaignId : CampaignId} {workflowId : WorkflowId}
    {expectedVersion : Option Nat} {now : Timestamp} :
    (∃ error, reserve registry settings store requestId campaignId workflowId expectedVersion now =
        rollback error) ∨
      ∃ request campaign workflow guard, Locked store requestId request campaign workflow ∧
        let context := store.context request campaign workflow
        let current := evaluate context (registry.get request.actionName)
        let evaluated := request.saveLatestPolicyResult current context none none now
        reserve registry settings store requestId campaignId workflowId expectedVersion now =
          (authorize settings evaluated current context now >>= fun _ =>
            createExecution store requestId evaluated (registry.get request.actionName) guard
              now) := by
  unfold reserve
  split
  · exact .inl ⟨_, rfl⟩
  rename_i campaign campaignRow
  split
  · exact .inl ⟨_, rfl⟩
  rename_i workflow workflowRow
  split
  · exact .inl ⟨_, rfl⟩
  split
  · exact .inl ⟨_, rfl⟩
  rename_i request row
  split
  · exact .inl ⟨_, rfl⟩
  rename_i scope
  obtain ⟨inCampaign, inWorkflow⟩ := not_or.mp scope
  obtain rfl := not_not.mp inCampaign
  obtain rfl := not_not.mp inWorkflow
  cases admitted : request.admits expectedVersion with
  | false =>
    obtain ⟨error, refused⟩ := reserveLocked_refused admitted
    exact .inl ⟨error, refused⟩
  | true =>
    obtain ⟨guard, decided⟩ := reserveLocked_admitted admitted
    obtain ⟨unclosed, unreserved, -⟩ := of_decide_eq_true admitted
    exact .inr ⟨request, campaign, workflow, guard,
      ⟨row, campaignRow, workflowRow, unclosed, unreserved⟩, decided⟩

/-- What a reservation that succeeds has checked, and what it commits. -/
theorem reserve_ok {requestId : ActionRequestId} {campaignId : CampaignId}
    {workflowId : WorkflowId} {expectedVersion : Option Nat} {now : Timestamp}
    {reservation : Reservation}
    (h : reserve config.registry config.settings w.toActionStore requestId campaignId workflowId
      expectedVersion now = .ok reservation) :
    ∃ request, w.requests.lookup requestId = some request ∧ Warranted config w request now ∧
      reservation.request.agentName = request.agentName ∧
      reservation.request.status = .executing ∧ closed request.status = false ∧
      reservation.execution.actionRequestId = requestId ∧ w.Unexecuted requestId := by
  obtain ⟨error, refused⟩ | ⟨request, campaign, workflow, guard, locked, decided⟩ := @reserve_cases
    config.registry config.settings w.toActionStore requestId campaignId workflowId expectedVersion
    now
  · rw [refused] at h
    cases h
  · rw [decided] at h
    obtain ⟨⟨⟩, authorized, created⟩ := bind_eq_ok.mp h
    obtain ⟨rewritten, owner, fresh⟩ := createExecution_ok created
    have admitted := authorize_ok authorized
    refine ⟨request, locked.row, ⟨campaign, workflow, locked.campaign, locked.workflow, admitted⟩,
      ?_, ?_, locked.unclosed, owner, fresh⟩
    · rw [rewritten]
      rfl
    · rw [rewritten]
      rfl

/-- What a refused reservation commits. -/
theorem reserve_commits {registry : ActionRegistry} {settings : Settings} {store : ActionStore}
    {requestId : ActionRequestId} {campaignId : CampaignId} {workflowId : WorkflowId}
    {expectedVersion : Option Nat} {now : Timestamp} {request' : AgentActionRequestModel}
    {error : ActionError}
    (h : reserve registry settings store requestId campaignId workflowId expectedVersion now =
      .error ⟨some request', error⟩) :
    ∃ request, store.requests.lookup requestId = some request ∧ Rewrites request request' ∧
      closed request.status = false ∧ reserved request.status = false := by
  obtain ⟨error', refused⟩ | ⟨request, campaign, workflow, guard, locked, decided⟩ := @reserve_cases
    registry settings store requestId campaignId workflowId expectedVersion now
  · rw [refused] at h
    exact absurd h rollback_commits_nothing
  · rw [decided] at h
    refine ⟨request, locked.row, ?_, locked.unclosed, locked.unreserved⟩
    obtain unauthorized | ⟨⟨⟩, -, uncreated⟩ := bind_eq_error.mp h
    · -- The evaluation that is recorded leaves the agent and the approval alone.
      obtain ⟨agent, approval⟩ := authorize_commits unauthorized
      exact ⟨agent, approval⟩
    · exact absurd uncreated createExecution_error

/-! ### Rows that stay -/

/-- Requests keep their agents and do not leave a closed status, and executions keep their
requests. -/
structure Evolves (w w' : ActionWorld) : Prop where
  requests : ∀ requestId request, w.requests.lookup requestId = some request →
    ∃ request', w'.requests.lookup requestId = some request' ∧
      request'.agentName = request.agentName ∧
      (closed request.status = true → request'.status = request.status)
  executions : ∀ executionId execution, w.executions.lookup executionId = some execution →
    ∃ execution', w'.executions.lookup executionId = some execution' ∧
      execution'.actionRequestId = execution.actionRequestId

theorem Evolves.of_same (requests : w'.requests = w.requests)
    (executions : w'.executions = w.executions) : Evolves w w' where
  requests requestId request row := ⟨request, by rw [requests, row], rfl, fun _ => rfl⟩
  executions executionId execution row := ⟨execution, by rw [executions, row], rfl⟩

theorem Evolves.trans {w'' : ActionWorld} (first : Evolves w w') (second : Evolves w' w'') :
    Evolves w w'' where
  requests requestId request row := by
    obtain ⟨request', row', agent, stays⟩ := first.requests requestId request row
    obtain ⟨request'', row'', agent', stays'⟩ := second.requests requestId request' row'
    refine ⟨request'', row'', agent'.trans agent, fun shut => ?_⟩
    have same := stays shut
    rw [stays' (by rw [same]; exact shut), same]
  executions executionId execution row := by
    obtain ⟨execution', row', owner⟩ := first.executions executionId execution row
    obtain ⟨execution'', row'', owner'⟩ := second.executions executionId execution' row'
    exact ⟨execution'', row'', owner'.trans owner⟩

theorem Evolves.setRequest {requestId : ActionRequestId} {request request' : AgentActionRequestModel}
    (row : w.requests.lookup requestId = some request)
    (agent : request'.agentName = request.agentName)
    (stays : closed request.status = true → request'.status = request.status) :
    Evolves w (w.setRequest requestId request') where
  requests other otherRequest otherRow := by
    by_cases same : other = requestId
    · subst same
      obtain rfl := Option.some.inj (row.symm.trans otherRow)
      exact ⟨request', AList.lookup_insert .., agent, stays⟩
    · exact ⟨otherRequest, (AList.lookup_insert_ne same).trans otherRow, rfl, fun _ => rfl⟩
  executions executionId execution row := ⟨execution, row, rfl⟩

theorem Evolves.addRequest {requestId : ActionRequestId} {request : AgentActionRequestModel}
    (fresh : requestId ∉ w.requests) : Evolves w (w.setRequest requestId request) where
  requests other otherRequest otherRow := by
    have ne : other ≠ requestId := by
      rintro rfl
      exact fresh (AList.lookup_isSome.mp (by rw [otherRow]; rfl))
    exact ⟨otherRequest, (AList.lookup_insert_ne ne).trans otherRow, rfl, fun _ => rfl⟩
  executions executionId execution row := ⟨execution, row, rfl⟩

theorem Evolves.setExecution {executionId : ActionExecutionId}
    {execution : AgentActionExecutionModel}
    (owner : ∀ before, w.executions.lookup executionId = some before →
      execution.actionRequestId = before.actionRequestId) :
    Evolves w { w with executions := w.executions.insert executionId execution } where
  requests requestId request row := ⟨request, row, rfl, fun _ => rfl⟩
  executions other otherExecution otherRow := by
    by_cases same : other = executionId
    · subst same
      exact ⟨execution, AList.lookup_insert .., owner otherExecution otherRow⟩
    · exact ⟨otherExecution, (AList.lookup_insert_ne same).trans otherRow, rfl⟩

/-! ### The invariant -/

/-- What a caller knows when it is about to issue its statement. -/
def CallSound (w : ActionWorld) : ActionCall → Prop
  | .approve requestId actor _ => actor.role ≠ .system ∧
      ∃ request, w.requests.lookup requestId = some request ∧
        actor.actorId ≠ agentActorId request.agentName
  | .handle requestId executionId =>
    ∃ execution, w.executions.lookup executionId = some execution ∧
      execution.actionRequestId = requestId
  | _ => True

theorem CallSound.evolves {call : ActionCall} (h : CallSound w call) (evolves : Evolves w w') :
    CallSound w' call := by
  cases call with
  | approve requestId actor expectedVersion =>
    obtain ⟨human, request, row, other⟩ := h
    obtain ⟨request', row', agent, -⟩ := evolves.requests requestId request row
    exact ⟨human, request', row', by rw [agent]; exact other⟩
  | handle requestId executionId =>
    obtain ⟨execution, row, owner⟩ := h
    obtain ⟨execution', row', same⟩ := evolves.executions executionId execution row
    exact ⟨execution', row', same.trans owner⟩
  | propose | reject | expire | execute | reserve => trivial

structure Sound (w : ActionWorld) : Prop where
  human : ∀ requestId request, w.requests.lookup requestId = some request →
    request.status = .approved → HumanApproval request
  single : ∀ executionId executionId' execution execution',
    w.executions.lookup executionId = some execution →
      w.executions.lookup executionId' = some execution' →
        execution.actionRequestId = execution'.actionRequestId → executionId = executionId'
  executed : ∀ executionId execution, w.executions.lookup executionId = some execution →
    ∃ request, w.requests.lookup execution.actionRequestId = some request ∧
      reserved request.status = true
  calls : ∀ caller call, w.calls.lookup caller = some call → CallSound w call

theorem closed_not_reserved {status : ActionRequestStatus} (h : closed status = true) :
    reserved status = false := by
  cases status <;> revert h <;> decide

/-- A request without a reserved status has no execution. -/
theorem Sound.unexecuted (sound : Sound w) {requestId : ActionRequestId}
    {request : AgentActionRequestModel} (row : w.requests.lookup requestId = some request)
    (unreserved : reserved request.status = false) : w.Unexecuted requestId := by
  intro executionId execution found same
  obtain ⟨owner, ownerRow, held⟩ := sound.executed executionId execution found
  rw [same, row] at ownerRow
  cases ownerRow
  rw [unreserved] at held
  cases held

theorem Sound.authorized (sound : Sound w) : Authorized w where
  human := sound.human
  single := sound.single
  closed requestId h := by
    obtain ⟨request, row, shut⟩ := h
    exact sound.unexecuted row (closed_not_reserved shut)

theorem Sound.empty : Sound {} where
  human _ _ row := by simp at row
  single _ _ _ _ row := by simp at row
  executed _ _ row := by simp at row
  calls _ _ row := by simp at row

theorem Sound.of_same (sound : Sound w) (requests : w'.requests = w.requests)
    (executions : w'.executions = w.executions) (calls : w'.calls = w.calls) : Sound w' where
  human := by rw [requests]; exact sound.human
  single := by rw [executions]; exact sound.single
  executed := by rw [requests, executions]; exact sound.executed
  calls caller call found :=
    CallSound.evolves (sound.calls caller call (by rw [← calls]; exact found))
      (.of_same requests executions)

theorem Sound.endCall (sound : Sound w) (caller : CallerId) : Sound (w.endCall caller) where
  human := sound.human
  single := sound.single
  executed := sound.executed
  calls other call found :=
    CallSound.evolves (sound.calls other call (Table.lookup_erase_some found).2)
      (Evolves.of_same rfl rfl)

theorem Sound.setCall (sound : Sound w) (caller : CallerId) {call : ActionCall}
    (known : CallSound w call) : Sound (w.setCall caller call) where
  human := sound.human
  single := sound.single
  executed := sound.executed
  calls other otherCall found := by
    have before : CallSound w otherCall := by
      obtain ⟨-, rfl⟩ | ⟨-, held⟩ := Table.lookup_insert_cases found
      · exact known
      · exact sound.calls other otherCall held
    exact before.evolves (Evolves.of_same rfl rfl)

/-- The rewrite of a request that had no reserved status, or has one after it too. -/
theorem Sound.setRequest (sound : Sound w) {requestId : ActionRequestId}
    {request request' : AgentActionRequestModel}
    (row : w.requests.lookup requestId = some request)
    (agent : request'.agentName = request.agentName)
    (human : request'.status = .approved → HumanApproval request')
    (unclosed : closed request.status = false)
    (stays : reserved request.status = true →
      reserved request'.status = true) :
    Sound (w.setRequest requestId request') where
  human other otherRequest found approved := by
    obtain ⟨-, rfl⟩ | ⟨-, held⟩ := Table.lookup_insert_cases found
    · exact human approved
    · exact sound.human other otherRequest held approved
  single := sound.single
  executed executionId execution found := by
    obtain ⟨owner, ownerRow, held⟩ := sound.executed executionId execution found
    by_cases same : execution.actionRequestId = requestId
    · rw [same, row] at ownerRow
      cases ownerRow
      exact ⟨request', by rw [same]; exact AList.lookup_insert .., stays held⟩
    · exact ⟨owner, (AList.lookup_insert_ne same).trans ownerRow, held⟩
  calls caller call found :=
    CallSound.evolves (sound.calls caller call found)
      (Evolves.setRequest row agent fun shut => by rw [unclosed] at shut; cases shut)

theorem Sound.addRequest (sound : Sound w) {requestId : ActionRequestId}
    {request : AgentActionRequestModel} (fresh : requestId ∉ w.requests)
    (unapproved : request.status ≠ .approved) : Sound (w.setRequest requestId request) where
  human other otherRequest found approved := by
    obtain ⟨-, rfl⟩ | ⟨-, held⟩ := Table.lookup_insert_cases found
    · exact absurd approved unapproved
    · exact sound.human other otherRequest held approved
  single := sound.single
  executed executionId execution found := by
    obtain ⟨owner, ownerRow, held⟩ := sound.executed executionId execution found
    have ne : execution.actionRequestId ≠ requestId := by
      rintro rfl
      exact fresh (AList.lookup_isSome.mp (by rw [ownerRow]; rfl))
    exact ⟨owner, (AList.lookup_insert_ne ne).trans ownerRow, held⟩
  calls caller call found :=
    CallSound.evolves (sound.calls caller call found) (Evolves.addRequest fresh)

/-- A new execution of a reserved request that has none, or the rewrite of one that stays with its
request. -/
theorem Sound.setExecution (sound : Sound w) {executionId : ActionExecutionId}
    {execution : AgentActionExecutionModel}
    (owner : ∀ before, w.executions.lookup executionId = some before →
      execution.actionRequestId = before.actionRequestId)
    (alone : ∀ other otherExecution, w.executions.lookup other = some otherExecution →
      otherExecution.actionRequestId = execution.actionRequestId → other = executionId)
    (held : ∃ request, w.requests.lookup execution.actionRequestId = some request ∧
      reserved request.status = true) :
    Sound { w with executions := w.executions.insert executionId execution } where
  human := sound.human
  single first second firstRow secondRow foundFirst foundSecond same := by
    obtain ⟨rfl, rfl⟩ | ⟨-, beforeFirst⟩ := Table.lookup_insert_cases foundFirst
    · obtain ⟨rfl, -⟩ | ⟨-, beforeSecond⟩ := Table.lookup_insert_cases foundSecond
      · rfl
      · exact (alone second secondRow beforeSecond same.symm).symm
    · obtain ⟨rfl, rfl⟩ | ⟨-, beforeSecond⟩ := Table.lookup_insert_cases foundSecond
      · exact alone first firstRow beforeFirst same
      · exact sound.single first second firstRow secondRow beforeFirst beforeSecond same
  executed other otherExecution found := by
    obtain ⟨-, rfl⟩ | ⟨-, before⟩ := Table.lookup_insert_cases found
    · exact held
    · exact sound.executed other otherExecution before
  calls caller call found :=
    CallSound.evolves (sound.calls caller call found) (Evolves.setExecution owner)

/-! ### The events -/

/-- What an event does to a sound world. -/
structure Governed (config : ActionConfig) (w : ActionWorld) (event : ActionEvent)
    (w' : ActionWorld) : Prop where
  sound : Sound w'
  evolves : Evolves w w'
  warranted : CreatesWarranted config w event w'

theorem CreatesWarranted.of_same {event : ActionEvent} (same : w'.executions = w.executions) :
    CreatesWarranted config w event w' := by
  intro executionId execution absent present
  rw [same, absent] at present
  cases present

theorem Governed.endCall (sound : Sound w) (event : ActionEvent) (caller : CallerId) :
    Governed config w event (w.endCall caller) :=
  ⟨sound.endCall caller, .of_same rfl rfl, .of_same rfl⟩

theorem Governed.setCall (sound : Sound w) (event : ActionEvent) (caller : CallerId)
    {call : ActionCall} (known : CallSound w call) :
    Governed config w event (w.setCall caller call) :=
  ⟨sound.setCall caller known, .of_same rfl rfl, .of_same rfl⟩

/-- The rewrite of a request that ends a call. -/
theorem Governed.setRequest (sound : Sound w) (event : ActionEvent) (caller : CallerId)
    {requestId : ActionRequestId} {request request' : AgentActionRequestModel}
    (row : w.requests.lookup requestId = some request)
    (agent : request'.agentName = request.agentName)
    (human : request'.status = .approved → HumanApproval request')
    (unclosed : closed request.status = false) (unreserved : reserved request.status = false) :
    Governed config w event ((w.setRequest requestId request').endCall caller) where
  sound := (sound.setRequest row agent human unclosed
    fun held => by rw [unreserved] at held; cases held).endCall caller
  evolves := (Evolves.setRequest row agent
    fun shut => by rw [unclosed] at shut; cases shut).trans (.of_same rfl rfl)
  warranted := .of_same rfl

theorem propose_governed (sound : Sound w) (caller : CallerId) (agentRunId : Uuid)
    (agentName : AgentName) (proposal : AgentActionProposal) (event : ActionEvent) :
    Governed config w event (w.propose config caller agentRunId agentName proposal) := by
  unfold ActionWorld.propose
  split
  · exact .endCall sound event caller
  · exact .setCall sound event caller trivial

theorem checkDecision_ok {request : AgentActionRequestModel} {actor : AuthenticatedActor}
    {expectedVersion : Nat}
    (h : ActionWorld.checkDecision request actor expectedVersion = .ok ()) :
    actor.role ≠ .system ∧ actor.actorId ≠ agentActorId request.agentName := by
  obtain ⟨⟨⟩, permitted, -⟩ := bind_eq_ok.mp h
  exact requireActionApproval_ok permitted

theorem approve_governed (sound : Sound w) (caller : CallerId) (requestId : ActionRequestId)
    (actor : AuthenticatedActor) (expectedVersion : Nat) (now : Timestamp) (event : ActionEvent) :
    Governed config w event (w.approve caller requestId actor expectedVersion now) := by
  unfold ActionWorld.approve
  split
  · exact .endCall sound event caller
  rename_i request row
  split
  · exact .endCall sound event caller
  rename_i checked
  split
  · exact .setCall sound event caller trivial
  · obtain ⟨human, other⟩ := checkDecision_ok checked
    exact .setCall sound event caller ⟨human, request, row, other⟩

theorem reject_governed (sound : Sound w) (caller : CallerId) (requestId : ActionRequestId)
    (actor : AuthenticatedActor) (expectedVersion : Nat) (reason : String) (event : ActionEvent) :
    Governed config w event (w.reject caller requestId actor expectedVersion reason) := by
  unfold ActionWorld.reject
  split
  · exact .endCall sound event caller
  split
  · exact .endCall sound event caller
  · exact .setCall sound event caller trivial

theorem execute_governed (sound : Sound w) (caller : CallerId) (requestId : ActionRequestId)
    (actor : AuthenticatedActor) (expectedVersion : Nat) (event : ActionEvent) :
    Governed config w event (w.execute caller requestId actor expectedVersion) := by
  unfold ActionWorld.execute
  split
  · exact .endCall sound event caller
  split
  · exact .endCall sound event caller
  · exact .setCall sound event caller trivial

theorem insertProposal_governed (sound : Sound w) (caller : CallerId)
    (requestId : ActionRequestId) (evaluated : EvaluatedProposal) (now : Timestamp)
    (event : ActionEvent) :
    Governed config w event (w.insertProposal config caller requestId evaluated now) := by
  unfold ActionWorld.insertProposal
  simp only
  split
  · exact .endCall sound event caller
  rename_i admitted
  have fresh : requestId ∉ w.requests := (not_or.mp admitted).2
  have unapproved : (ActionWorld.createProposal config evaluated now).status ≠ .approved := by
    simp only [ActionWorld.createProposal]
    split <;> decide
  have added := sound.addRequest fresh unapproved
  have stays : Evolves w (w.setRequest requestId
      (ActionWorld.createProposal config evaluated now)) := .addRequest fresh
  split
  · exact ⟨added.setCall caller trivial, stays.trans (.of_same rfl rfl), .of_same rfl⟩
  · exact ⟨added.endCall caller, stays.trans (.of_same rfl rfl), .of_same rfl⟩

/-- A conditional update that keeps the agent and rewrites only requests without an execution. -/
theorem updateRequest_governed (sound : Sound w) (caller : CallerId)
    (requestId : ActionRequestId)
    {update : AgentActionRequestModel → Option AgentActionRequestModel}
    (spec : ∀ request request', w.requests.lookup requestId = some request →
      update request = some request' → request'.agentName = request.agentName ∧
        (request'.status = .approved → HumanApproval request') ∧
        closed request.status = false ∧ reserved request.status = false)
    (event : ActionEvent) :
    Governed config w event (w.updateRequest caller requestId update) := by
  unfold ActionWorld.updateRequest
  split
  · exact .endCall sound event caller
  rename_i request' updated
  obtain ⟨request, row, result⟩ := Option.bind_eq_some_iff.mp updated
  obtain ⟨agent, human, unclosed, unreserved⟩ := spec request request' row result
  exact .setRequest sound event caller row agent human unclosed unreserved

theorem reserve_governed (sound : Sound w) (caller : CallerId) (requestId : ActionRequestId)
    (expectedVersion : Option Nat) (campaignId : CampaignId) (workflowId : WorkflowId)
    (executionId : ActionExecutionId) (now : Timestamp) :
    Governed config w (.proceed caller executionId now)
      (w.reserve config caller requestId expectedVersion campaignId workflowId executionId now) := by
  unfold ActionWorld.reserve
  split
  · exact .endCall sound _ caller
  · rename_i request' error refused
    obtain ⟨request, row, ⟨agent, approval⟩, unclosed, unreserved⟩ := reserve_commits refused
    refine .setRequest sound _ caller row agent ?_ unclosed unreserved
    intro approved
    obtain ⟨before, actor, role⟩ := approval approved
    obtain ⟨actorId, actorRole, stored, storedRole, human⟩ := sound.human requestId request row before
    exact ⟨actorId, actorRole, actor.trans stored, role.trans storedRole, by rw [agent]; exact human⟩
  · rename_i request' execution reserved
    obtain ⟨request, row, warranted, agent, executing, unclosed, owner, unexecuted⟩ :=
      reserve_ok reserved
    simp only at agent executing owner
    split
    · exact .endCall sound _ caller
    rename_i absent
    have unused : ∀ before, w.executions.lookup executionId = some before →
        execution.actionRequestId = before.actionRequestId := by
      intro before found
      exact absurd (AList.lookup_isSome.mp (by rw [found]; rfl)) absent
    have rewritten := sound.setRequest row agent (by rw [executing]; nofun) unclosed
      (by rw [executing]; exact fun _ => rfl)
    have inserted := rewritten.setExecution unused
      (fun other otherExecution found same =>
        absurd (same.trans owner) (unexecuted other otherExecution found))
      ⟨request', by rw [owner]; exact AList.lookup_insert .., by rw [executing]; rfl⟩
    refine ⟨inserted.setCall caller ⟨execution, AList.lookup_insert .., owner⟩,
      ((Evolves.setRequest row agent fun shut => by rw [unclosed] at shut; cases shut).trans
        (.setExecution unused)).trans (.of_same rfl rfl), ?_⟩
    intro created createdRow before after
    obtain ⟨-, rfl⟩ | ⟨-, held⟩ := Table.lookup_insert_cases after
    · exact ⟨caller, executionId, now, request, rfl, by rw [owner]; exact row, warranted⟩
    · have held : w.executions.lookup created = some createdRow := held
      rw [before] at held
      cases held

theorem proceed_governed (sound : Sound w) (caller : CallerId) (identifier : Uuid)
    (now : Timestamp) :
    Governed config w (.proceed caller identifier now)
      (w.proceed config caller identifier now) := by
  unfold ActionWorld.proceed
  split
  · exact ⟨sound, .of_same rfl rfl, .of_same rfl⟩
  · exact insertProposal_governed sound ..
  · rename_i requestId actor expectedVersion call
    obtain ⟨human, request, row, other⟩ := sound.calls caller _ call
    refine updateRequest_governed sound caller requestId ?_ _
    intro request₀ request' row₀ approved
    obtain rfl := Option.some.inj (row.symm.trans row₀)
    obtain ⟨rfl, pending⟩ := approve_some approved
    refine ⟨rfl, fun _ => ⟨actor.actorId, actor.role, rfl, rfl, human, other⟩, ?_, ?_⟩ <;>
      rw [pending] <;> rfl
  · rename_i requestId actor reason expectedVersion call
    refine updateRequest_governed sound caller requestId ?_ _
    intro request request' row rejected
    obtain ⟨rfl, proposed | pending⟩ := reject_some rejected
    · exact ⟨rfl, nofun, by rw [proposed]; rfl, by rw [proposed]; rfl⟩
    · exact ⟨rfl, nofun, by rw [pending]; rfl, by rw [pending]; rfl⟩
  · rename_i requestId expectedVersion call
    refine updateRequest_governed sound caller requestId ?_ _
    intro request request' row expired
    obtain ⟨rfl, pending | approved⟩ := expire_some expired
    · exact ⟨rfl, nofun, by rw [pending]; rfl, by rw [pending]; rfl⟩
    · exact ⟨rfl, nofun, by rw [approved]; rfl, by rw [approved]; rfl⟩
  · split
    · exact .endCall sound _ caller
    · exact .setCall sound _ caller trivial
  · exact reserve_governed sound ..
  · exact ⟨sound, .of_same rfl rfl, .of_same rfl⟩

theorem addEvent_same (executionId : ActionExecutionId) (eventType : Option OutboxEventType) :
    (w.addEvent executionId eventType).toActionStore = w.toActionStore ∧
      (w.addEvent executionId eventType).calls = w.calls := by
  cases eventType with
  | none => exact ⟨rfl, rfl⟩
  | some eventType =>
    by_cases listed : (executionId, eventType) ∈ w.events <;> simp [ActionWorld.addEvent, listed]

theorem requiredRows_ok {store : ActionStore} {requestId : ActionRequestId}
    {executionId : ActionExecutionId} {request : AgentActionRequestModel}
    {execution : AgentActionExecutionModel}
    (h : requiredRows store requestId executionId = .ok (request, execution)) :
    store.requests.lookup requestId = some request ∧
      store.executions.lookup executionId = some execution ∧ execution.status = .running := by
  unfold requiredRows at h
  split at h
  · cases h
  rename_i request' row
  split at h
  · cases h
  rename_i execution' executionRow
  split at h
  · cases h
  rename_i running
  cases h
  exact ⟨row, executionRow, not_not.mp running⟩

theorem finishRequest_spec (outcome : HandlerOutcome) (request : AgentActionRequestModel) :
    (outcome.finishRequest request).agentName = request.agentName ∧
      reserved (outcome.finishRequest request).status = true := by
  cases outcome <;> exact ⟨rfl, rfl⟩

theorem finishExecution_owner (outcome : HandlerOutcome) (execution : AgentActionExecutionModel)
    (now : Timestamp) :
    (outcome.finishExecution execution now).actionRequestId = execution.actionRequestId := by
  cases outcome <;> rfl

theorem reserved_not_approved {status : ActionRequestStatus} (h : reserved status = true) :
    status ≠ .approved := by
  rintro rfl
  cases h

theorem finish_governed (sound : Sound w) (caller : CallerId) (outcome : HandlerOutcome)
    (now : Timestamp) (event : ActionEvent) :
    Governed config w event (w.finish caller outcome now) := by
  unfold ActionWorld.finish
  split
  · rename_i requestId executionId call
    split
    · exact .endCall sound event caller
    rename_i request execution rows
    obtain ⟨row, executionRow, -⟩ := requiredRows_ok rows
    -- The request of a running handler is the one that its execution belongs to.
    obtain ⟨_, executionRow', owner⟩ := sound.calls caller _ call
    obtain rfl := Option.some.inj (executionRow.symm.trans executionRow')
    have held : reserved request.status = true := by
      obtain ⟨owning, owningRow, held⟩ := sound.executed executionId execution executionRow
      rw [owner, row] at owningRow
      cases owningRow
      exact held
    have unclosed : closed request.status = false := by
      cases shut : closed request.status with
      | false => rfl
      | true => rw [closed_not_reserved shut] at held; cases held
    obtain ⟨agent, finished⟩ := finishRequest_spec outcome request
    have kept := finishExecution_owner outcome execution now
    have same : ∀ before, w.executions.lookup executionId = some before →
        (outcome.finishExecution execution now).actionRequestId = before.actionRequestId := by
      intro before found
      rw [executionRow] at found
      cases found
      exact kept
    have rewritten := sound.setRequest row agent
      (fun approved => absurd approved (reserved_not_approved finished)) unclosed
      (fun _ => finished)
    have inserted := rewritten.setExecution same
      (fun other otherExecution found shared =>
        sound.single other executionId otherExecution execution found executionRow
          (shared.trans kept))
      ⟨_, by rw [kept, owner]; exact AList.lookup_insert .., finished⟩
    obtain ⟨store, calls⟩ := @addEvent_same
      { w.setRequest requestId (outcome.finishRequest request) with
        executions := w.executions.insert executionId
          (outcome.finishExecution execution now) } executionId outcome.eventType
    have requests := congrArg ActionStore.requests store
    have executions := congrArg ActionStore.executions store
    refine ⟨(inserted.of_same requests executions calls).endCall caller,
      ((Evolves.setRequest row agent fun shut => by rw [unclosed] at shut; cases shut).trans
        (.setExecution same)).trans (.of_same requests executions), ?_⟩
    intro created createdRow before after
    have after := executions ▸ after
    obtain ⟨rfl, -⟩ | ⟨-, present⟩ := Table.lookup_insert_cases after
    · rw [executionRow] at before
      cases before
    · have present : w.executions.lookup created = some createdRow := present
      rw [before] at present
      cases present
  · exact ⟨sound, .of_same rfl rfl, .of_same rfl⟩

theorem step_governed (sound : Sound w) (event : ActionEvent) :
    Governed config w event (w.step config event) := by
  cases event with
  | elsewhere db runs =>
    exact ⟨sound.of_same rfl rfl rfl, .of_same rfl rfl, .of_same rfl⟩
  | propose caller agentRunId agentName proposal => exact propose_governed sound ..
  | approve caller requestId actor expectedVersion now => exact approve_governed sound ..
  | reject caller requestId actor expectedVersion reason => exact reject_governed sound ..
  | execute caller requestId actor expectedVersion => exact execute_governed sound ..
  | proceed caller identifier now => exact proceed_governed sound ..
  | finish caller outcome now => exact finish_governed sound ..
  | abandon caller => exact .endCall sound _ caller

theorem run_governed (sound : Sound w) (events : List ActionEvent) :
    Sound ((actionMachine config).run w events) ∧
      Evolves w ((actionMachine config).run w events) := by
  induction events generalizing w with
  | nil => exact ⟨sound, .of_same rfl rfl⟩
  | cons event events ih =>
    have first : Governed config w event (w.step config event) := step_governed sound event
    obtain ⟨rest, evolves⟩ := ih first.sound
    exact ⟨rest, first.evolves.trans evolves⟩

/-- In every run of any callers, an execution is created only when it is warranted, approvals are
human, each request has at most one execution, and a request that is rejected or expired at any time
has no execution at any time. -/
theorem actions_authorized (config : ActionConfig) (events : List ActionEvent) :
    (actionMachine config).Always Authorized (actionMachine config).init events ∧
      (actionMachine config).Steps (CreatesWarranted config) (actionMachine config).init events ∧
      ∀ before after, before ++ after = events → ∀ requestId,
        let early := (actionMachine config).run (actionMachine config).init before
        let late := (actionMachine config).run (actionMachine config).init events
        early.Closed requestId ∨ late.Closed requestId →
          early.Unexecuted requestId ∧ late.Unexecuted requestId := by
  refine ⟨?_, ?_, ?_⟩
  · rw [Machine.always_iff_prefix]
    intro prefixEvents _
    exact (run_governed Sound.empty prefixEvents).1.authorized
  · exact Machine.steps_of_invariant (I := Sound)
      (fun w event sound => (step_governed sound event).sound)
      (fun w event sound => (step_governed sound event).warranted) Sound.empty
  · rintro before after rfl requestId early late shut
    have start : Sound early := (run_governed Sound.empty before).1
    have rest : Sound late ∧ Evolves early late := by
      show Sound ((actionMachine config).run _ _) ∧ Evolves _ ((actionMachine config).run _ _)
      rw [Machine.run_append]
      exact run_governed start after
    obtain ⟨finish, evolves⟩ := rest
    have lateShut : late.Closed requestId := by
      rcases shut with ⟨request, row, closed⟩ | shut
      · obtain ⟨request', row', -, stays⟩ := evolves.requests requestId request row
        exact ⟨request', row', by rw [stays closed]; exact closed⟩
      · exact shut
    have none := finish.authorized.closed requestId lateShut
    refine ⟨?_, none⟩
    intro executionId execution found
    obtain ⟨execution', found', owner⟩ := evolves.executions executionId execution found
    rw [← owner]
    exact none executionId execution' found'

/-- A registry with the one action that sends a campaign to manual review. -/
def manualReviewConfig : ActionConfig where
  registry :=
    { definitions :=
        [{ name := "mark_for_manual_review"
           inputModel := fun _ => some {}
           defaultPolicy := .approvalRequired
           reversible := true
           allowedAgents := [.contentReviewer]
           requiredRole := some .reviewer
           allowedCampaignStatuses := [.reviewing]
           allowedWorkflowStatuses := [.reviewing] }]
      nodup := by decide }
  buildIdempotencyKey _ _ _ actionName _ := actionName

/-- The action is proposed, approved by a reviewer and executed. -/
def manualReviewRun : List ActionEvent :=
  [.elsewhere
      { campaigns := AList.singleton "spring-launch" { status := .reviewing }
        workflows := AList.singleton 1 { campaignId := "spring-launch", status := .reviewing } }
      (AList.singleton 5
        { workflowId := 1, campaignId := "spring-launch", agentName := .contentReviewer }),
    .propose 0 5 .contentReviewer
      { actionName := "mark_for_manual_review", arguments := .dict [], rationaleSummary := "risk" },
    .proceed 0 10 0, .approve 1 10 { actorId := "mia", role := .reviewer } 1 1, .proceed 1 0 1,
    .execute 2 10 { actorId := "mia", role := .reviewer } 2, .proceed 2 0 2, .proceed 2 20 2]

example :
    (((actionMachine manualReviewConfig).run {} manualReviewRun).executions.lookup 20).any
      (fun execution => execution.actionRequestId = 10 ∧ execution.status = .running) = true := by
  decide +kernel

end CyberLegends.Actions
