import CyberLegends.Actions.Steps

/-! Request, execution and event in lockstep: exactly the runs in which no finalization of a cancelled
execution commits and no reservation withdraws a request that has been reserved since it was loaded
keep the statuses of both rows and the outbox event of the execution together. -/

namespace CyberLegends.Actions

open CyberLegends.Core Lib Workflow Jobs
open ActionRequestStatus (closed reserved)

variable {config : ActionConfig} {now : Timestamp} {w w' : ExecutorWorld}

/-! ### What is claimed of states and steps -/

def ActionExecutionStatus.ended (status : ActionExecutionStatus) : Bool :=
  status = .completed ∨ status = .failed ∨ status = .cancelled

open ActionExecutionStatus (ended)

/-- The events that tell of the end of an execution. -/
def ExecutorWorld.announcements (w : ExecutorWorld) (executionId : ActionExecutionId) : Nat :=
  w.events.countP fun event =>
    event.1 = executionId ∧ (event.2 = .actionCompleted ∨ event.2 = .actionFailed)

/-- The status of a request agrees with the status of its execution. -/
def InStep (request : ActionRequestStatus) (execution : ActionExecutionStatus) : Prop :=
  (request = .executing ↔ execution = .running) ∧
    (request = .completed ↔ execution = .completed) ∧
      (request = .failed ↔ execution = .failed ∨ execution = .cancelled)

structure Lockstep (w : ExecutorWorld) : Prop where
  inStep : ∀ executionId execution, w.executions.lookup executionId = some execution →
    ∃ request, w.requests.lookup execution.actionRequestId = some request ∧
      InStep request.status execution.status
  executed : ∀ requestId request, w.requests.lookup requestId = some request →
    reserved request.status = true → ∃ executionId execution,
      w.executions.lookup executionId = some execution ∧ execution.actionRequestId = requestId
  single : ∀ executionId executionId' execution execution',
    w.executions.lookup executionId = some execution →
      w.executions.lookup executionId' = some execution' →
        execution.actionRequestId = execution'.actionRequestId → executionId = executionId'
  announced : ∀ executionId execution, w.executions.lookup executionId = some execution →
    ended execution.status = true → w.announcements executionId = 1

/-- What a step does to executions that have ended, and to those that end in it. -/
structure Finalizes (w : ExecutorWorld) (event : ExecutorEvent) (w' : ExecutorWorld) : Prop where
  kept : ∀ executionId execution, w.executions.lookup executionId = some execution →
    ended execution.status = true →
      ∃ memory, w'.executions.lookup executionId = some { execution with memory }
  refused : ∀ caller answer now requestId executionId outcome raised execution,
    event = .advance caller answer now →
      w.activities.lookup caller =
          some (.executor (.finalize requestId executionId outcome raised)) →
        w.executions.lookup executionId = some execution → ended execution.status = true →
          w'.requests = w.requests ∧ w'.executions = w.executions
  together : ∀ executionId execution', w'.executions.lookup executionId = some execution' →
    ended execution'.status = true →
      (∀ execution, w.executions.lookup executionId = some execution →
        ended execution.status = false) →
        w.announcements executionId = 0 ∧ w'.announcements executionId = 1

/-! ### The condition on events -/

/-- The policy result takes the request, as it is loaded, back from where it stands. -/
def withdraws (policy : PolicyEvaluationResult) (request : AgentActionRequestModel)
    (now : Timestamp) : Bool :=
  policy.decision = .forbidden ∨
    policy.decision = .approvalRequired ∧ (request.expiresAt.all fun expiry => now < expiry) ∧
      (request.status = .proposed ∨ request.status = .approved ∧
        roleSatisfiesRequirement request.approvedRole policy.requiredRole = false)

/-- The reservation withdraws a request that another one has reserved since the session loaded it. -/
def ExecutorWorld.overwrites (config : ActionConfig) (w : ExecutorWorld)
    (requestId : ActionRequestId) (expectedVersion : Option Nat) (hint : AgentActionRequestModel)
    (now : Timestamp) : Bool :=
  match w.requests.lookup requestId, w.db.campaigns.lookup hint.campaignId,
      w.db.workflows.lookup hint.workflowId with
  | some committed, some campaign, some workflow =>
    reserved committed.status ∧ workflow.campaignId = hint.campaignId ∧
      hint.admits expectedVersion ∧
        withdraws (evaluate (w.context hint campaign workflow)
          (config.registry.get hint.actionName)) hint now
  | _, _, _ => false

/-- The executor finalizes a running execution as cancelled. -/
def ExecutorWorld.cancels (w : ExecutorWorld) (requestId : ActionRequestId)
    (executionId : ActionExecutionId) : Prop :=
  requestId ∈ w.requests ∧
    ∃ execution ∈ w.executions.lookup executionId, execution.status = .running

/-- The step of an executor that finalizes no execution as cancelled and overwrites no reserved
request. -/
def Executor.Paired (config : ActionConfig) (w : ExecutorWorld) (answer : Answer)
    (now : Timestamp) : Executor → Prop
  | .finalize requestId executionId outcome _ => (∀ failure, answer ≠ .error failure) →
    outcome = .cancelled → ¬w.cancels requestId executionId
  | .reserve requestId expectedVersion loaded => ∀ identifier, answer = .proceed identifier →
    w.overwrites config requestId expectedVersion loaded now = false
  | _ => True

/-- No cancelled execution is finalized, and no reserved request is overwritten. -/
def Paired (config : ActionConfig) (w : ExecutorWorld) : ExecutorEvent → Prop
  | .advance caller answer now => ∀ executor,
    w.activities.lookup caller = some (.executor executor) → executor.Paired config w answer now
  | _ => True

/-! ### Refused reservations -/

theorem authorize_error {settings : Settings} {request request' : AgentActionRequestModel}
    {current : PolicyEvaluationResult} {context : PolicyEvaluationContext} {error : ActionError}
    (h : authorize settings request current context now = .error ⟨some request', error⟩) :
    withdraws current request now = true ∧
        (request'.status = .rejected ∨
          request.status = .proposed ∧ request'.status = .pendingApproval) ∨
      withdraws current request now = false ∧
        (request'.status = request.status ∨ request'.status = .expired) := by
  unfold authorize at h
  unfold withdraws
  split at h
  · rename_i forbidden
    obtain rfl := commitAndRaise_some h
    exact .inl ⟨by simp [forbidden], .inl rfl⟩
  rename_i allowed
  split at h
  · rename_i late
    obtain rfl := commitAndRaise_some h
    have passed : (request.expiresAt.all fun expiry => decide (now < expiry)) = false := by
      cases expiresAt : request.expiresAt with
      | none => simp [expiresAt] at late
      | some expiry => simpa [expiresAt] using late
    refine .inr ⟨by simp [allowed, passed], ?_⟩
    cases expired : request.expire request.version with
    | none => exact .inl rfl
    | some request' =>
      obtain ⟨rfl, -⟩ := expire_some expired
      exact .inr rfl
  rename_i early
  have alive : (request.expiresAt.all fun expiry => decide (now < expiry)) = true := by
    cases expiresAt : request.expiresAt with
    | none => rfl
    | some expiry => simpa [expiresAt] using early
  split at h
  · rename_i required
    split at h
    · rename_i proposed
      obtain rfl := commitAndRaise_some h
      exact .inl ⟨by simp [required, proposed, alive], .inr ⟨proposed, rfl⟩⟩
    rename_i unproposed
    split at h
    · rename_i unapproved
      obtain rfl := commitAndRaise_some h
      exact .inr ⟨by simp [required, unproposed, unapproved], .inl rfl⟩
    rename_i approved
    split at h
    · rename_i short
      obtain rfl := commitAndRaise_some h
      have short : roleSatisfiesRequirement request.approvedRole current.requiredRole = false := by
        simpa using short
      exact .inl ⟨by simp [required, not_not.mp approved, alive, short], .inl rfl⟩
    · cases h
  rename_i free
  split at h
  · obtain rfl := commitAndRaise_some h
    exact .inr ⟨by simp [allowed, free], .inl rfl⟩
  split at h <;> cases h

theorem authorize_withdrawn {settings : Settings} {request : AgentActionRequestModel}
    {current : PolicyEvaluationResult} {context : PolicyEvaluationContext}
    (withdrawn : withdraws current request now = true) :
    ∃ request' error, authorize settings request current context now =
      .error ⟨some request', error⟩ := by
  unfold authorize
  split
  · exact ⟨_, _, rfl⟩
  rename_i allowed
  split
  · exact ⟨_, _, rfl⟩
  have ⟨required, alive, before⟩ := (of_decide_eq_true withdrawn).resolve_left allowed
  rw [if_pos required]
  split
  · exact ⟨_, _, rfl⟩
  rename_i unproposed
  obtain ⟨approved, short⟩ := before.resolve_left unproposed
  rw [if_neg (not_not.mpr approved), short]
  exact ⟨_, _, rfl⟩

/-- A reservation on a loaded request rolls back, or it decides about that request. -/
theorem reserveLoaded_cases {requestId : ActionRequestId} {hint : AgentActionRequestModel}
    {expectedVersion : Option Nat} {committed : AgentActionRequestModel}
    (row : w.requests.lookup requestId = some committed) :
    (∃ error, w.overwrites config requestId expectedVersion hint now = false ∧
        reserveLoaded config.registry config.settings w.toActionStore requestId hint
          expectedVersion now = rollback error) ∨
      ∃ current context guard, closed hint.status = false ∧ reserved hint.status = false ∧
        (w.overwrites config requestId expectedVersion hint now = true ↔
          reserved committed.status = true ∧ withdraws current hint now = true) ∧
        let evaluated := hint.saveLatestPolicyResult current context none none now
        reserveLoaded config.registry config.settings w.toActionStore requestId hint
            expectedVersion now =
          (authorize config.settings evaluated current context now >>= fun _ =>
            createExecution w.toActionStore requestId evaluated
              (config.registry.get hint.actionName) guard now) := by
  unfold ExecutorWorld.overwrites reserveLoaded
  rw [row]
  cases campaignRow : w.db.campaigns.lookup hint.campaignId with
  | none => exact .inl ⟨_, rfl, rfl⟩
  | some campaign =>
    cases workflowRow : w.db.workflows.lookup hint.workflowId with
    | none => exact .inl ⟨_, rfl, rfl⟩
    | some workflow =>
      dsimp only
      by_cases scope : workflow.campaignId = hint.campaignId
      · have present : requestId ∈ w.requests := AList.lookup_isSome.mp (by rw [row]; rfl)
        rw [if_neg (not_not.mpr scope), if_neg (not_not.mpr present)]
        cases admitted : hint.admits expectedVersion with
        | false =>
          obtain ⟨error, refused⟩ := @reserveLocked_refused config.registry config.settings
            w.toActionStore requestId hint campaign workflow expectedVersion now admitted
          exact .inl ⟨error, by simp, refused⟩
        | true =>
          obtain ⟨guard, decided⟩ := @reserveLocked_admitted config.registry config.settings
            w.toActionStore requestId hint campaign workflow expectedVersion now admitted
          obtain ⟨unclosed, unreserved, -⟩ := of_decide_eq_true admitted
          exact .inr ⟨_, _, guard, unclosed, unreserved, by simp [scope], decided⟩
      · rw [if_pos scope]
        exact .inl ⟨_, by simp [scope], rfl⟩

theorem withdraws_saved {current : PolicyEvaluationResult} {context : PolicyEvaluationContext}
    {request : AgentActionRequestModel} :
    withdraws current (request.saveLatestPolicyResult current context none none now) now =
      withdraws current request now := rfl

/-- A reservation that commits no refusal overwrites nothing. -/
theorem overwrites_refused {requestId : ActionRequestId} {hint : AgentActionRequestModel}
    {expectedVersion : Option Nat} {committed : AgentActionRequestModel}
    (row : w.requests.lookup requestId = some committed)
    (uncommitted : ∀ assigned error,
      reserveLoaded config.registry config.settings w.toActionStore requestId hint
        expectedVersion now ≠ .error { committed := some assigned, error }) :
    w.overwrites config requestId expectedVersion hint now = false := by
  obtain ⟨error, fine, -⟩ | ⟨current, context, guard, -, -, exact_, decided⟩ :=
    @reserveLoaded_cases config now w requestId hint expectedVersion committed row
  · exact fine
  · rw [← Bool.not_eq_true, exact_]
    rintro ⟨-, withdrawn⟩
    obtain ⟨request', error, refused⟩ := @authorize_withdrawn now config.settings
      (hint.saveLatestPolicyResult current context none none now) current context withdrawn
    dsimp only at decided
    rw [refused] at decided
    exact uncommitted request' error decided

theorem commitRefusal_flush {hint assigned committed : AgentActionRequestModel}
    (unexpired : assigned.status ≠ .expired) :
    (hint.commitRefusal assigned committed).status =
      Lib.flush hint.status assigned.status committed.status := by
  unfold AgentActionRequestModel.commitRefusal
  rw [if_neg unexpired]
  rfl

theorem commitRefusal_expired {hint assigned committed : AgentActionRequestModel}
    (expired : assigned.status = .expired) :
    (hint.commitRefusal assigned committed).status = committed.status ∨
      reserved committed.status = false ∧
        reserved (hint.commitRefusal assigned committed).status = false := by
  unfold AgentActionRequestModel.commitRefusal
  rw [if_pos expired]
  dsimp only
  have status : (hint.flush
      { assigned with status := hint.status, version := hint.version } committed).status =
        committed.status := flush_same
  cases result : (hint.flush
      { assigned with status := hint.status, version := hint.version } committed).expire
        hint.version with
  | none => exact .inl status
  | some written =>
    obtain ⟨rfl, before⟩ := expire_some result
    rw [status] at before
    refine .inr ⟨?_, rfl⟩
    rcases before with before | before <;> rw [before] <;> rfl

/-- What a refused reservation writes on a request. -/
theorem refused_status {requestId : ActionRequestId} {hint assigned : AgentActionRequestModel}
    {expectedVersion : Option Nat} {committed : AgentActionRequestModel} {error : ActionError}
    (row : w.requests.lookup requestId = some committed)
    (refused : reserveLoaded config.registry config.settings w.toActionStore requestId hint
      expectedVersion now = .error { committed := some assigned, error }) :
    let written := (hint.commitRefusal assigned committed).status
    w.overwrites config requestId expectedVersion hint now = true ∧
        reserved committed.status = true ∧ reserved written = false ∨
      w.overwrites config requestId expectedVersion hint now = false ∧
        (written = committed.status ∨
          reserved committed.status = false ∧ reserved written = false) := by
  obtain ⟨error', fine, rolledBack⟩ | ⟨current, context, guard, unclosed, unreserved, exact_,
      decided⟩ := @reserveLoaded_cases config now w requestId hint expectedVersion committed row
  · rw [rolledBack] at refused
    cases refused
  dsimp only at decided ⊢
  rw [decided] at refused
  have refused : authorize config.settings
      (hint.saveLatestPolicyResult current context none none now) current context now =
        .error ⟨some assigned, error⟩ := by
    rcases bind_eq_error.mp refused with refused | ⟨⟨⟩, -, created⟩
    · exact refused
    · exact absurd created createExecution_error
  rcases authorize_error refused with ⟨withdrawn, status⟩ | ⟨stays, status⟩
  · -- the policy takes the loaded request back, whatever has been committed since
    have written : reserved assigned.status = false ∧ assigned.status ≠ .expired ∧
        assigned.status ≠ hint.status := by
      rcases status with rejected | ⟨proposed, pending⟩
      · rw [rejected]
        refine ⟨rfl, by decide, ?_⟩
        intro same
        rw [← same] at unclosed
        cases unclosed
      · have proposed : hint.status = .proposed := proposed
        rw [pending, proposed]
        decide
    obtain ⟨open_, unexpired, changed⟩ := written
    rw [commitRefusal_flush unexpired, flush_changed changed]
    cases held : reserved committed.status with
    | true => exact .inl ⟨exact_.mpr ⟨held, withdrawn⟩, rfl, open_⟩
    | false =>
      refine .inr ⟨?_, .inr ⟨rfl, open_⟩⟩
      rw [← Bool.not_eq_true, exact_, held]
      rintro ⟨⟨⟩, -⟩
  · refine .inr ⟨?_, ?_⟩
    · rw [← Bool.not_eq_true, exact_]
      rintro ⟨-, withdrawn⟩
      rw [← withdraws_saved, stays] at withdrawn
      cases withdrawn
    rcases status with same | expired
    · have same : assigned.status = hint.status := same
      have unexpired : hint.status ≠ .expired := by
        intro expired
        rw [expired] at unclosed
        cases unclosed
      rw [commitRefusal_flush (same ▸ unexpired), same]
      exact .inl flush_same
    · exact commitRefusal_expired expired

/-! ### Announcements -/

theorem addEvent_frame (executionId : ActionExecutionId) (eventType : OutboxEventType) :
    let w' := w.addEvent executionId eventType
    w'.requests = w.requests ∧ w'.executions = w.executions ∧ w'.activities = w.activities ∧
      w'.calls = w.calls ∧ w'.entries = w.entries ∧ w'.handled = w.handled := by
  by_cases listed : (executionId, eventType) ∈ w.events <;>
    simp [ExecutorWorld.addEvent, listed]

/-- The rows of a finalization that is not refused. -/
theorem finalize_frame {requestId : ActionRequestId} {executionId : ActionExecutionId}
    {outcome : HandlerOutcome} {columns : MemoryColumns}
    (result : w.finalize now requestId executionId outcome = .ok (w', columns)) :
    (∃ request execution, w.requests.lookup requestId = some request ∧
      w.executions.lookup executionId = some execution ∧ execution.status = .running ∧
      w'.requests = w.requests.insert requestId (outcome.finishRequest request) ∧
      w'.executions =
        w.executions.insert executionId (outcome.finishExecution execution now)) ∧
      w'.activities = w.activities ∧ w'.calls = w.calls ∧ w'.entries = w.entries ∧
        w'.handled = w.handled := by
  obtain ⟨request, execution, row, executionRow, running, -, rfl⟩ := finalize_ok result
  split
  · exact ⟨⟨request, execution, row, executionRow, running, rfl, rfl⟩, rfl, rfl, rfl, rfl⟩
  · rename_i eventType _
    obtain ⟨requests, executions, frame⟩ := addEvent_frame (w := (w.setRequest requestId
      (outcome.finishRequest request)).setExecution executionId
        (outcome.finishExecution execution now)) executionId eventType
    exact ⟨⟨request, execution, row, executionRow, running, requests, executions⟩, frame⟩

theorem announcements_other {executionId other : ActionExecutionId} {eventType : OutboxEventType}
    (elsewhere : other ≠ executionId ∨
      eventType ≠ .actionCompleted ∧ eventType ≠ .actionFailed) :
    (w.addEvent executionId eventType).announcements other = w.announcements other := by
  by_cases listed : (executionId, eventType) ∈ w.events
  · simp [ExecutorWorld.addEvent, listed]
  · have silent : ¬(executionId = other ∧
        (eventType = .actionCompleted ∨ eventType = .actionFailed)) := by
      rintro ⟨rfl, told⟩
      rcases elsewhere with different | ⟨incomplete, unfailed⟩
      · exact different rfl
      · exact told.elim incomplete unfailed
    simp [ExecutorWorld.addEvent, ExecutorWorld.announcements, listed, silent]

theorem announcements_first {executionId : ActionExecutionId} {eventType : OutboxEventType}
    (unannounced : w.announcements executionId = 0)
    (tells : eventType = .actionCompleted ∨ eventType = .actionFailed) :
    (w.addEvent executionId eventType).announcements executionId = 1 := by
  have fresh : (executionId, eventType) ∉ w.events := by
    intro listed
    have none := List.countP_eq_zero.mp unannounced _ listed
    simp [tells] at none
  unfold ExecutorWorld.announcements at unannounced ⊢
  rw [ExecutorWorld.addEvent, if_neg fresh, List.countP_cons, unannounced]
  simp [tells]

/-! ### The rows that steps change -/

/-- The executions are the same but for what they tell of their memory. -/
structure Remembers (w w' : ExecutorWorld) : Prop where
  forth : ∀ executionId execution, w.executions.lookup executionId = some execution →
    ∃ memory, w'.executions.lookup executionId = some { execution with memory }
  back : ∀ executionId execution', w'.executions.lookup executionId = some execution' →
    ∃ memory, w.executions.lookup executionId = some { execution' with memory }

theorem Remembers.of_same (same : w'.executions = w.executions) : Remembers w w' where
  forth executionId execution row := ⟨execution.memory, by rw [same]; exact row⟩
  back executionId execution' row := ⟨execution'.memory, by rw [← same]; exact row⟩

theorem Remembers.setMemory {executionId : ActionExecutionId}
    {execution : AgentActionExecutionModel} {memory : MemoryColumns}
    (row : w.executions.lookup executionId = some execution)
    (same : w'.executions = w.executions.insert executionId { execution with memory }) :
    Remembers w w' where
  forth other otherExecution found := by
    rw [same]
    by_cases here : other = executionId
    · subst here
      rw [row] at found
      cases found
      exact ⟨memory, AList.lookup_insert ..⟩
    · exact ⟨otherExecution.memory, (AList.lookup_insert_ne here).trans found⟩
  back other otherExecution found := by
    rw [same] at found
    obtain ⟨rfl, rfl⟩ | ⟨-, before⟩ := Table.lookup_insert_cases found
    · exact ⟨execution.memory, row⟩
    · exact ⟨otherExecution.memory, before⟩

/-- What an event does to requests, executions and announcements. Whether it keeps them paired is
`ok`. -/
inductive TableChange (ok : Prop) (w w' : ExecutorWorld) : Prop
  | quiet (fine : ok) (requests : Unreserving w.requests w'.requests)
      (executions : Remembers w w')
      (announcements : ∀ executionId, w'.announcements executionId = w.announcements executionId)
  | reserved {requestId executionId committed request execution} (fine : ok)
      (row : w.requests.lookup requestId = some committed) (fresh : executionId ∉ w.executions)
      (unexecuted : w.Unexecuted requestId) (executing : request.status = .executing)
      (running : execution.status = .running) (owner : execution.actionRequestId = requestId)
      (requests : w'.requests = w.requests.insert requestId request)
      (executions : w'.executions = w.executions.insert executionId execution)
      (announcements : ∀ executionId, w'.announcements executionId = w.announcements executionId)
  | finalized {requestId executionId outcome request execution now}
      (fine : ok ↔ outcome ≠ HandlerOutcome.cancelled)
      (row : w.requests.lookup requestId = some request)
      (executionRow : w.executions.lookup executionId = some execution)
      (owner : execution.actionRequestId = requestId) (running : execution.status = .running)
      (requests : w'.requests = w.requests.insert requestId (outcome.finishRequest request))
      (executions : w'.executions =
        w.executions.insert executionId (outcome.finishExecution execution now))
      (announced : w.announcements executionId = 0 → w'.announcements executionId =
        if outcome.eventType.isSome then 1 else 0)
      (others : ∀ other, other ≠ executionId → w'.announcements other = w.announcements other)
  | overwrote {requestId committed request'} (bad : ¬ok)
      (row : w.requests.lookup requestId = some committed)
      (held : reserved committed.status = true) (lost : reserved request'.status = false)
      (requests : w'.requests = w.requests.insert requestId request')
      (executions : w'.executions = w.executions)
      (announcements : ∀ executionId, w'.announcements executionId = w.announcements executionId)

/-! ### What holds in every run -/

/-- The execution belongs to the request. -/
def ExecutorWorld.Executes (w : ExecutorWorld) (requestId : ActionRequestId)
    (executionId : ActionExecutionId) : Prop :=
  ∃ execution, w.executions.lookup executionId = some execution ∧
    execution.actionRequestId = requestId

/-- Executors past their reservation, and records, are about an execution of their request. -/
def Activity.Subject (w : ExecutorWorld) : Activity → Prop
  | .executor (.start requestId executionId) | .executor (.handle requestId executionId)
  | .executor (.finalize requestId executionId _ _)
  | .executor (.record requestId executionId _ _ _)
  | .reconciler (.record requestId executionId _ _ _) => w.Executes requestId executionId
  | _ => True

def announcementsOf : Option AgentActionExecutionModel → Nat
  | some execution => if execution.status = .completed ∨ execution.status = .failed then 1 else 0
  | none => 0

structure Coherent (w : ExecutorWorld) : Prop where
  begun : ∀ executionId execution, w.executions.lookup executionId = some execution →
    execution.status ≠ .created
  single : ∀ executionId executionId' execution execution',
    w.executions.lookup executionId = some execution →
      w.executions.lookup executionId' = some execution' →
        execution.actionRequestId = execution'.actionRequestId → executionId = executionId'
  owned : ∀ executionId execution, w.executions.lookup executionId = some execution →
    execution.actionRequestId ∈ w.requests
  announced : ∀ executionId,
    w.announcements executionId = announcementsOf (w.executions.lookup executionId)
  subjects : ∀ caller activity, w.activities.lookup caller = some activity → activity.Subject w
  calls : ∀ caller call, w.calls.lookup caller = some call → call.preliminary = true

theorem Coherent.empty : Coherent {} where
  begun _ _ row := by simp at row
  single _ _ _ _ row := by simp at row
  owned _ _ row := by simp at row
  announced _ := rfl
  subjects _ _ row := by simp at row
  calls _ _ row := by simp at row

theorem Coherent.announcements_running (coherent : Coherent w) {executionId : ActionExecutionId}
    {execution : AgentActionExecutionModel}
    (row : w.executions.lookup executionId = some execution)
    (running : execution.status = .running) : w.announcements executionId = 0 := by
  rw [coherent.announced, row]
  simp [announcementsOf, running]

theorem HandlerOutcome.finishExecution_status (outcome : HandlerOutcome)
    (execution : AgentActionExecutionModel) :
    (outcome.finishExecution execution now).status ≠ .created ∧
      ended (outcome.finishExecution execution now).status = true ∧
      announcementsOf (some (outcome.finishExecution execution now)) =
        if outcome.eventType.isSome then 1 else 0 := by
  cases outcome <;> exact ⟨nofun, rfl, rfl⟩

section

variable {ok : Prop}

theorem TableChange.executes (change : TableChange ok w w') {requestId : ActionRequestId}
    {executionId : ActionExecutionId} (h : w.Executes requestId executionId) :
    w'.Executes requestId executionId := by
  obtain ⟨execution, row, owner⟩ := h
  cases change with
  | quiet _ _ executions =>
    obtain ⟨memory, row'⟩ := executions.forth executionId execution row
    exact ⟨_, row', owner⟩
  | @reserved _ reservedId _ _ _ _ _ fresh _ _ _ _ _ executions =>
    have ne : executionId ≠ reservedId := by
      rintro rfl
      exact fresh (AList.lookup_isSome.mp (by rw [row]; rfl))
    exact ⟨execution, by rw [executions, AList.lookup_insert_ne ne]; exact row, owner⟩
  | @finalized _ finalizedId outcome _ _ now _ _ executionRow _ _ _ executions =>
    by_cases same : executionId = finalizedId
    · subst same
      rw [row] at executionRow
      cases executionRow
      exact ⟨_, by rw [executions]; exact AList.lookup_insert ..,
        (finishExecution_owner outcome execution now).trans owner⟩
    · exact ⟨execution, by rw [executions, AList.lookup_insert_ne same]; exact row, owner⟩
  | overwrote _ _ _ _ _ executions => exact ⟨execution, by rw [executions]; exact row, owner⟩

theorem Activity.Subject.kept {activity : Activity} (h : activity.Subject w)
    (keeps : ∀ requestId executionId, w.Executes requestId executionId →
      w'.Executes requestId executionId) : activity.Subject w' := by
  unfold Activity.Subject at h ⊢
  split
  all_goals first | exact keeps _ _ h | trivial

/-- Where the executions of the state after a step come from. -/
theorem TableChange.origin (change : TableChange ok w w') {executionId : ActionExecutionId}
    {execution' : AgentActionExecutionModel}
    (row' : w'.executions.lookup executionId = some execution') :
    w.Executes execution'.actionRequestId executionId ∨
      w.Unexecuted execution'.actionRequestId ∧ execution'.status ≠ .created ∧
        ∀ other, w'.Executes execution'.actionRequestId other → other = executionId := by
  cases change with
  | quiet _ _ executions =>
    obtain ⟨memory, row⟩ := executions.back executionId execution' row'
    exact .inl ⟨_, row, rfl⟩
  | @reserved _ reservedId _ _ _ _ _ _ unexecuted _ running owner _ executions =>
    rw [executions] at row'
    obtain ⟨rfl, rfl⟩ | ⟨-, row⟩ := Table.lookup_insert_cases row'
    · refine .inr ⟨owner ▸ unexecuted, by rw [running]; decide, ?_⟩
      rintro other ⟨otherExecution, otherRow, same⟩
      rw [executions] at otherRow
      obtain ⟨rfl, -⟩ | ⟨-, before⟩ := Table.lookup_insert_cases otherRow
      · rfl
      · exact absurd (same.trans owner) (unexecuted other otherExecution before)
    · exact .inl ⟨execution', row, rfl⟩
  | @finalized _ finalizedId outcome _ execution now _ _ executionRow _ _ _ executions =>
    rw [executions] at row'
    obtain ⟨rfl, rfl⟩ | ⟨-, row⟩ := Table.lookup_insert_cases row'
    · exact .inl ⟨execution, executionRow, (finishExecution_owner outcome execution now).symm⟩
    · exact .inl ⟨execution', row, rfl⟩
  | overwrote _ _ _ _ _ executions => exact .inl ⟨execution', by rw [← executions]; exact row', rfl⟩

theorem TableChange.present (change : TableChange ok w w') {requestId : ActionRequestId}
    (member : requestId ∈ w.requests) : requestId ∈ w'.requests := by
  cases change with
  | quiet _ requests => exact requests.present member
  | reserved _ _ _ _ _ _ _ requests | finalized _ _ _ _ _ requests | overwrote _ _ _ _ requests =>
    rw [requests]
    exact (AList.mem_insert _).mpr (.inr member)

theorem TableChange.single (coherent : Coherent w) (change : TableChange ok w w')
    {first second : ActionExecutionId} {firstRow secondRow : AgentActionExecutionModel}
    (foundFirst : w'.executions.lookup first = some firstRow)
    (foundSecond : w'.executions.lookup second = some secondRow)
    (same : firstRow.actionRequestId = secondRow.actionRequestId) : first = second := by
  rcases change.origin foundFirst with ⟨firstBefore, rowFirst, ownerFirst⟩ | ⟨-, -, alone⟩
  · rcases change.origin foundSecond with ⟨secondBefore, rowSecond, ownerSecond⟩ | ⟨-, -, alone⟩
    · exact coherent.single first second firstBefore secondBefore rowFirst rowSecond
        (ownerFirst.trans (same.trans ownerSecond.symm))
    · exact alone first ⟨firstRow, foundFirst, same⟩
  · exact (alone second ⟨secondRow, foundSecond, same.symm⟩).symm

theorem TableChange.begun (coherent : Coherent w) (change : TableChange ok w w')
    {executionId : ActionExecutionId} {execution' : AgentActionExecutionModel}
    (row' : w'.executions.lookup executionId = some execution') :
    execution'.status ≠ .created := by
  cases change with
  | quiet _ _ executions =>
    obtain ⟨memory, row⟩ := executions.back executionId execution' row'
    have begun := coherent.begun executionId _ row
    exact begun
  | reserved _ _ _ _ _ running _ _ executions =>
    rw [executions] at row'
    obtain ⟨-, rfl⟩ | ⟨-, row⟩ := Table.lookup_insert_cases row'
    · rw [running]
      decide
    · exact coherent.begun executionId execution' row
  | @finalized _ _ outcome _ execution now _ _ _ _ _ _ executions =>
    rw [executions] at row'
    obtain ⟨-, rfl⟩ | ⟨-, row⟩ := Table.lookup_insert_cases row'
    · exact (outcome.finishExecution_status execution).1
    · exact coherent.begun executionId execution' row
  | overwrote _ _ _ _ _ executions =>
    exact coherent.begun executionId execution' (by rw [← executions]; exact row')

theorem TableChange.owned (coherent : Coherent w) (change : TableChange ok w w')
    {executionId : ActionExecutionId} {execution' : AgentActionExecutionModel}
    (row' : w'.executions.lookup executionId = some execution') :
    execution'.actionRequestId ∈ w'.requests := by
  have before : ∀ execution, w.executions.lookup executionId = some execution →
      execution.actionRequestId ∈ w'.requests :=
    fun execution row => change.present (coherent.owned executionId execution row)
  rcases change.origin row' with ⟨execution, row, owner⟩ | ⟨fresh, -⟩
  · exact owner ▸ before execution row
  · cases change with
    | quiet _ _ executions =>
      obtain ⟨memory, row⟩ := executions.back executionId execution' row'
      have other := fresh executionId _ row
      exact absurd rfl other
    | @reserved requestId _ _ request _ _ _ _ _ _ _ owner requests executions =>
      rw [executions] at row'
      obtain ⟨rfl, rfl⟩ | ⟨-, row⟩ := Table.lookup_insert_cases row'
      · rw [requests, owner]
        exact (AList.mem_insert _).mpr (.inl rfl)
      · exact absurd rfl (fresh executionId execution' row)
    | @finalized _ _ outcome _ execution now _ _ executionRow _ _ _ executions =>
      rw [executions] at row'
      obtain ⟨rfl, rfl⟩ | ⟨-, row⟩ := Table.lookup_insert_cases row'
      · exact absurd (finishExecution_owner outcome execution now).symm
          (fresh executionId execution executionRow)
      · exact absurd rfl (fresh executionId execution' row)
    | overwrote _ _ _ _ _ executions =>
      exact absurd rfl (fresh executionId execution' (by rw [← executions]; exact row'))

theorem Remembers.announcementsOf (executions : Remembers w w') (executionId : ActionExecutionId) :
    Actions.announcementsOf (w'.executions.lookup executionId) =
      Actions.announcementsOf (w.executions.lookup executionId) := by
  cases row : w.executions.lookup executionId with
  | some execution =>
    obtain ⟨memory, row'⟩ := executions.forth executionId execution row
    rw [row']
    rfl
  | none =>
    cases row' : w'.executions.lookup executionId with
    | none => rfl
    | some execution' =>
      obtain ⟨memory, before⟩ := executions.back executionId execution' row'
      rw [row] at before
      cases before

theorem TableChange.announced (coherent : Coherent w) (change : TableChange ok w w')
    (executionId : ActionExecutionId) :
    w'.announcements executionId = announcementsOf (w'.executions.lookup executionId) := by
  cases change with
  | quiet _ _ executions announcements =>
    rw [announcements, coherent.announced, executions.announcementsOf]
  | @reserved _ reservedId _ _ execution _ _ fresh _ _ running _ _ executions announcements =>
    rw [announcements, coherent.announced, executions]
    by_cases same : executionId = reservedId
    · subst same
      rw [AList.lookup_insert, AList.lookup_eq_none.mpr fresh]
      simp [announcementsOf, running]
    · rw [AList.lookup_insert_ne same]
  | @finalized _ finalizedId outcome _ execution now _ _ executionRow _ running _ executions
      announced others =>
    by_cases same : executionId = finalizedId
    · subst same
      rw [announced (coherent.announcements_running executionRow running), executions,
        AList.lookup_insert]
      exact (outcome.finishExecution_status execution).2.2.symm
    · rw [others _ same, coherent.announced, executions, AList.lookup_insert_ne same]
  | overwrote _ _ _ _ _ executions announcements =>
    rw [announcements, coherent.announced, executions]

theorem TableChange.coherent (coherent : Coherent w) (change : TableChange ok w w')
    (subjects : ∀ caller activity, w'.activities.lookup caller = some activity →
      activity.Subject w')
    (calls : ∀ caller call, w'.calls.lookup caller = some call → call.preliminary = true) :
    Coherent w' where
  begun _ _ row := change.begun coherent row
  single _ _ _ _ first second same := change.single coherent first second same
  owned _ _ row := change.owned coherent row
  announced := change.announced coherent
  subjects := subjects
  calls := calls

/-! ### Lockstep -/

theorem InStep.reserved {request : ActionRequestStatus} {execution : ActionExecutionStatus}
    (h : InStep request execution) (begun : execution ≠ .created) :
    ActionRequestStatus.reserved request = true := by
  obtain ⟨executing, completed, failed⟩ := h
  cases execution with
  | created => exact absurd rfl begun
  | running => rw [executing.mpr rfl]; rfl
  | completed => rw [completed.mpr rfl]; rfl
  | failed => rw [failed.mpr (.inl rfl)]; rfl
  | cancelled => rw [failed.mpr (.inr rfl)]; rfl

theorem InStep.finish (outcome : HandlerOutcome) (request : AgentActionRequestModel)
    (execution : AgentActionExecutionModel) :
    InStep (outcome.finishRequest request).status
      (outcome.finishExecution execution now).status := by
  cases outcome <;> simp [InStep, HandlerOutcome.finishRequest, HandlerOutcome.finishExecution,
    AgentActionRequestModel.markCompleted, AgentActionRequestModel.markFailed,
    AgentActionExecutionModel.markCompleted, AgentActionExecutionModel.markFailed,
    AgentActionExecutionModel.markCancelled]

/-- A cancelled execution has no announcement, so that there is none in lockstep. -/
theorem Lockstep.uncancelled (lockstep : Lockstep w) (coherent : Coherent w)
    {executionId : ActionExecutionId} {execution : AgentActionExecutionModel}
    (row : w.executions.lookup executionId = some execution) : execution.status ≠ .cancelled := by
  intro cancelled
  have told := lockstep.announced executionId execution row (by rw [cancelled]; rfl)
  rw [coherent.announced, row] at told
  simp [announcementsOf, cancelled] at told

theorem TableChange.uncancelled (coherent : Coherent w) (lockstep : Lockstep w) (fine : ok)
    (change : TableChange ok w w') {executionId : ActionExecutionId}
    {execution' : AgentActionExecutionModel}
    (row' : w'.executions.lookup executionId = some execution') :
    execution'.status ≠ .cancelled := by
  cases change with
  | quiet _ _ executions =>
    obtain ⟨memory, row⟩ := executions.back executionId execution' row'
    have before := lockstep.uncancelled coherent row
    exact before
  | reserved _ _ _ _ _ running _ _ executions =>
    rw [executions] at row'
    obtain ⟨-, rfl⟩ | ⟨-, row⟩ := Table.lookup_insert_cases row'
    · rw [running]
      decide
    · exact lockstep.uncancelled coherent row
  | @finalized _ _ outcome _ execution now paired _ _ _ _ _ executions =>
    rw [executions] at row'
    obtain ⟨-, rfl⟩ | ⟨-, row⟩ := Table.lookup_insert_cases row'
    · have told := paired.mp fine
      cases outcome with
      | success resultSummary => exact nofun
      | failure errorCode errorMessage => exact nofun
      | cancelled => exact absurd rfl told
    · exact lockstep.uncancelled coherent row
  | overwrote bad => exact absurd fine bad

theorem TableChange.inStep (coherent : Coherent w) (lockstep : Lockstep w) (fine : ok)
    (change : TableChange ok w w') {executionId : ActionExecutionId}
    {execution' : AgentActionExecutionModel}
    (row' : w'.executions.lookup executionId = some execution') :
    ∃ request, w'.requests.lookup execution'.actionRequestId = some request ∧
      InStep request.status execution'.status := by
  cases change with
  | quiet _ requests executions =>
    obtain ⟨memory, row⟩ := executions.back executionId execution' row'
    obtain ⟨request, requestRow, inStep⟩ := lockstep.inStep executionId _ row
    have begun := coherent.begun executionId _ row
    obtain ⟨request', after, status⟩ := requests.reserved_kept requestRow (inStep.reserved begun)
    exact ⟨request', after, status ▸ inStep⟩
  | @reserved requestId _ _ request _ _ _ _ unexecuted executing running owner requests
      executions =>
    rw [executions] at row'
    obtain ⟨rfl, rfl⟩ | ⟨-, row⟩ := Table.lookup_insert_cases row'
    · refine ⟨request, by rw [requests, owner]; exact AList.lookup_insert .., ?_⟩
      rw [executing, running]
      simp [InStep]
    · obtain ⟨other, otherRow, inStep⟩ := lockstep.inStep executionId execution' row
      have ne : execution'.actionRequestId ≠ requestId := unexecuted executionId execution' row
      exact ⟨other, by rw [requests, AList.lookup_insert_ne ne]; exact otherRow, inStep⟩
  | @finalized requestId finalizedId outcome request execution now _ row executionRow owner _
      requests executions =>
    rw [executions] at row'
    obtain ⟨rfl, rfl⟩ | ⟨elsewhere, before⟩ := Table.lookup_insert_cases row'
    · refine ⟨outcome.finishRequest request, ?_, InStep.finish outcome request execution⟩
      rw [requests, finishExecution_owner, owner]
      exact AList.lookup_insert ..
    · obtain ⟨other, otherRow, inStep⟩ := lockstep.inStep executionId execution' before
      have ne : execution'.actionRequestId ≠ requestId := by
        intro same
        exact elsewhere (coherent.single executionId finalizedId execution' execution before
          executionRow (same.trans owner.symm))
      exact ⟨other, by rw [requests, AList.lookup_insert_ne ne]; exact otherRow, inStep⟩
  | overwrote bad => exact absurd fine bad

theorem TableChange.executed (lockstep : Lockstep w) (fine : ok)
    (change : TableChange ok w w') {requestId : ActionRequestId}
    {request' : AgentActionRequestModel} (row' : w'.requests.lookup requestId = some request')
    (held : ActionRequestStatus.reserved request'.status = true) :
    ∃ executionId, w'.Executes requestId executionId := by
  have before : ∀ request, w.requests.lookup requestId = some request →
      ActionRequestStatus.reserved request.status = true →
        ∃ executionId, w'.Executes requestId executionId := by
    intro request row held
    obtain ⟨executionId, execution, executionRow, owner⟩ :=
      lockstep.executed requestId request row held
    exact ⟨executionId, change.executes ⟨execution, executionRow, owner⟩⟩
  cases change with
  | quiet _ requests =>
    obtain ⟨request, row, status⟩ := requests.reserved_before row' held
    exact before request row (status ▸ held)
  | reserved _ _ _ _ _ _ owner requests executions =>
    rw [requests] at row'
    obtain ⟨rfl, -⟩ | ⟨-, row⟩ := Table.lookup_insert_cases row'
    · exact ⟨_, _, by rw [executions]; exact AList.lookup_insert .., owner⟩
    · exact before request' row held
  | @finalized _ finalizedId outcome _ execution now _ _ _ owner _ requests executions =>
    rw [requests] at row'
    obtain ⟨rfl, -⟩ | ⟨-, row⟩ := Table.lookup_insert_cases row'
    · exact ⟨finalizedId, _, by rw [executions]; exact AList.lookup_insert ..,
        (finishExecution_owner outcome execution now).trans owner⟩
    · exact before request' row held
  | overwrote bad => exact absurd fine bad

theorem TableChange.lockstep (coherent : Coherent w) (lockstep : Lockstep w) (fine : ok)
    (change : TableChange ok w w') : Lockstep w' where
  inStep _ _ row' := change.inStep coherent lockstep fine row'
  executed requestId request' row' held := by
    obtain ⟨executionId, execution, row, owner⟩ := change.executed lockstep fine row' held
    exact ⟨executionId, execution, row, owner⟩
  single _ _ _ _ first second same := change.single coherent first second same
  announced executionId execution' row' closed := by
    have uncancelled := change.uncancelled coherent lockstep fine row'
    rw [change.announced coherent, row']
    revert closed uncancelled
    cases status : execution'.status <;> simp [announcementsOf, status, ended]

theorem TableChange.broken (coherent : Coherent w) (lockstep : Lockstep w) (bad : ¬ok)
    (change : TableChange ok w w') : ¬Lockstep w' := by
  intro lockstep'
  cases change with
  | quiet fine => exact bad fine
  | reserved fine => exact bad fine
  | @finalized _ executionId outcome _ execution now paired _ executionRow _ running _ executions
      announced =>
    have outcome_ : outcome = .cancelled := not_not.mp fun other => bad (paired.mpr other)
    subst outcome_
    have row' : w'.executions.lookup executionId =
        some (HandlerOutcome.cancelled.finishExecution execution now) := by
      rw [executions]
      exact AList.lookup_insert ..
    have told := lockstep'.announced executionId _ row' rfl
    rw [announced (coherent.announcements_running executionRow running)] at told
    cases told
  | @overwrote requestId committed request' _ row held lost requests executions =>
    obtain ⟨executionId, execution, executionRow, owner⟩ :=
      lockstep.executed requestId committed row held
    obtain ⟨request, requestRow, inStep⟩ := lockstep'.inStep executionId execution
      (by rw [executions]; exact executionRow)
    rw [requests, owner, AList.lookup_insert] at requestRow
    cases requestRow
    rw [inStep.reserved (coherent.begun executionId execution executionRow)] at lost
    cases lost

theorem TableChange.kept (change : TableChange ok w w') {executionId : ActionExecutionId}
    {execution : AgentActionExecutionModel}
    (row : w.executions.lookup executionId = some execution)
    (closed : ended execution.status = true) :
    ∃ memory, w'.executions.lookup executionId = some { execution with memory } := by
  cases change with
  | quiet _ _ executions => exact executions.forth executionId execution row
  | @reserved _ reservedId _ _ _ _ _ fresh _ _ _ _ _ executions =>
    have ne : executionId ≠ reservedId := by
      rintro rfl
      exact fresh (AList.lookup_isSome.mp (by rw [row]; rfl))
    exact ⟨execution.memory, by rw [executions, AList.lookup_insert_ne ne]; exact row⟩
  | @finalized _ finalizedId _ _ _ _ _ _ executionRow _ running _ executions =>
    have ne : executionId ≠ finalizedId := by
      rintro rfl
      rw [row] at executionRow
      cases executionRow
      rw [running] at closed
      cases closed
    exact ⟨execution.memory, by rw [executions, AList.lookup_insert_ne ne]; exact row⟩
  | overwrote _ _ _ _ _ executions =>
    exact ⟨execution.memory, by rw [executions]; exact row⟩

theorem TableChange.together (coherent : Coherent w) (fine : ok) (change : TableChange ok w w')
    {executionId : ActionExecutionId} {execution' : AgentActionExecutionModel}
    (row' : w'.executions.lookup executionId = some execution')
    (closed : ended execution'.status = true)
    (open_ : ∀ execution, w.executions.lookup executionId = some execution →
      ended execution.status = false) :
    w.announcements executionId = 0 ∧ w'.announcements executionId = 1 := by
  have stayed : ∀ execution, w.executions.lookup executionId = some execution →
      ended execution.status ≠ true := by
    intro execution row closed
    rw [open_ execution row] at closed
    cases closed
  cases change with
  | quiet _ _ executions =>
    obtain ⟨memory, row⟩ := executions.back executionId execution' row'
    have before := stayed _ row
    exact absurd closed before
  | reserved _ _ _ _ _ running _ _ executions =>
    rw [executions] at row'
    obtain ⟨-, rfl⟩ | ⟨-, row⟩ := Table.lookup_insert_cases row'
    · rw [running] at closed
      cases closed
    · exact absurd closed (stayed execution' row)
  | @finalized _ _ outcome _ execution now paired _ executionRow _ running _ executions
      announced =>
    rw [executions] at row'
    obtain ⟨rfl, rfl⟩ | ⟨-, row⟩ := Table.lookup_insert_cases row'
    · have silent := coherent.announcements_running executionRow running
      refine ⟨silent, ?_⟩
      rw [announced silent]
      cases outcome with
      | success resultSummary => rfl
      | failure errorCode errorMessage => rfl
      | cancelled => exact absurd rfl (paired.mp fine)
    · exact absurd closed (stayed execution' row)
  | overwrote bad => exact absurd fine bad

end

/-! ### The events -/

theorem RecordStep.frame {requestId : ActionRequestId} {executionId : ActionExecutionId}
    {eventType : MemoryEventType} {stage : RecordStage} {outcome : RecordOutcome}
    (step : RecordStep now w requestId executionId eventType stage w' outcome) :
    w'.requests = w.requests ∧ w'.calls = w.calls ∧ w'.activities = w.activities ∧
      w'.handled = w.handled ∧ Remembers w w' ∧
        ∀ executionId, w'.announcements executionId = w.announcements executionId := by
  cases step with
  | raised | aborted | done | found | missing =>
    exact ⟨rfl, rfl, rfl, rfl, .of_same rfl, fun _ => rfl⟩
  | inserted => exact ⟨rfl, rfl, rfl, rfl, .of_same rfl, fun _ => rfl⟩
  | started row | marked row => exact ⟨rfl, rfl, rfl, rfl, .setMemory row rfl, fun _ => rfl⟩
  | @failed errorCode errorMessage execution row =>
    obtain ⟨requests, executions, activities, calls, -, handled⟩ := @addEvent_frame
      (w.setExecution executionId
        { execution with
          memory := execution.memory.markMemoryRecordFailed errorCode errorMessage })
      executionId .memoryReconciliationRequired
    exact ⟨requests, calls, activities, handled, .setMemory row executions, fun other =>
      announcements_other (.inr ⟨by decide, by decide⟩)⟩

theorem requiredRows_refused {requestId : ActionRequestId} {executionId : ActionExecutionId}
    {error : ActionError}
    (h : requiredRows w.toActionStore requestId executionId = .error error) :
    ¬w.cancels requestId executionId := by
  rintro ⟨member, execution, row, running⟩
  obtain ⟨request, requestRow⟩ := Option.isSome_iff_exists.mp (AList.lookup_isSome.mpr member)
  have row : w.executions.lookup executionId = some execution := row
  unfold requiredRows at h
  rw [requestRow, row] at h
  simp [running] at h

section

variable {ok : Prop} {w'' : ExecutorWorld}

/-- A change is about requests, executions and outbox events only. -/
theorem TableChange.congr (change : TableChange ok w w')
    (requests : w''.requests = w'.requests) (executions : w''.executions = w'.executions)
    (events : w''.events = w'.events) : TableChange ok w w'' := by
  have announcements : ∀ executionId,
      w''.announcements executionId = w'.announcements executionId := by
    intro executionId
    rw [ExecutorWorld.announcements, events]
    rfl
  cases change with
  | quiet fine quiet remembers told =>
    refine .quiet fine (requests ▸ quiet) ⟨?_, ?_⟩ fun other => (announcements other).trans (told _)
    · rw [executions]
      exact remembers.forth
    · rw [executions]
      exact remembers.back
  | reserved fine row fresh unexecuted executing running owner written created told =>
    exact .reserved fine row fresh unexecuted executing running owner (requests.trans written)
      (executions.trans created) fun other => (announcements other).trans (told _)
  | finalized fine row executionRow owner running written ended announced told =>
    exact .finalized fine row executionRow owner running (requests.trans written)
      (executions.trans ended) (fun silent => (announcements _).trans (announced silent))
      fun other ne => (announcements other).trans (told other ne)
  | overwrote bad row held lost written same told =>
    exact .overwrote bad row held lost (requests.trans written) (executions.trans same)
      fun other => (announcements other).trans (told _)

theorem TableChange.still (fine : ok) (requests : w'.requests = w.requests)
    (executions : w'.executions = w.executions) (events : w'.events = w.events) :
    TableChange ok w w' :=
  .quiet fine (by rw [requests]; exact .refl _) (.of_same executions) fun executionId => by
    rw [ExecutorWorld.announcements, events]
    rfl

theorem RecordStep.change (fine : ok) {requestId : ActionRequestId}
    {executionId : ActionExecutionId} {eventType : MemoryEventType} {stage : RecordStage}
    {outcome : RecordOutcome}
    (step : RecordStep now w requestId executionId eventType stage w' outcome) :
    TableChange ok w w' := by
  obtain ⟨requests, -, -, -, remembers, announcements⟩ := step.frame
  exact .quiet fine (by rw [requests]; exact .refl _) remembers announcements

end

/-- The execution that a reservation creates, and its request. -/
theorem reserveLoaded_ok {requestId : ActionRequestId} {hint : AgentActionRequestModel}
    {expectedVersion : Option Nat} {committed : AgentActionRequestModel}
    {reservation : Reservation} (row : w.requests.lookup requestId = some committed)
    (h : reserveLoaded config.registry config.settings w.toActionStore requestId hint
      expectedVersion now = .ok reservation) :
    (hint.flush reservation.request committed).status = .executing ∧
      reservation.execution.actionRequestId = requestId ∧
      reservation.execution.status = .running ∧ reservation.execution.memory = {} ∧
        w.Unexecuted requestId := by
  obtain ⟨error, -, rolledBack⟩ | ⟨current, context, guard, -, unreserved, -, decided⟩ :=
    @reserveLoaded_cases config now w requestId hint expectedVersion committed row
  · rw [rolledBack] at h
    cases h
  · dsimp only at decided
    rw [decided] at h
    obtain ⟨⟨⟩, -, created⟩ := bind_eq_ok.mp h
    obtain ⟨executing, owner, unexecuted⟩ := createExecution_ok created
    have status : reservation.request.status = .executing := by
      rw [executing]
      rfl
    have changed : reservation.request.status ≠ hint.status := by
      rw [status]
      intro same
      rw [← same] at unreserved
      cases unreserved
    suffices begun : reservation.execution.status = .running ∧ reservation.execution.memory = {} from
      ⟨(flush_changed changed).trans status, owner, begun.1, begun.2, unexecuted⟩
    unfold createExecution at created
    split at created
    · cases created
    split at created
    · cases created
    split at created
    · cases created
    · cases created
      exact ⟨rfl, rfl⟩

theorem finalize_change {ok : Prop} {requestId : ActionRequestId}
    {executionId : ActionExecutionId} {outcome : HandlerOutcome} {columns : MemoryColumns}
    (paired : (∃ execution, w.executions.lookup executionId = some execution ∧
      execution.status = .running) → requestId ∈ w.requests → (ok ↔ outcome ≠ .cancelled))
    (subject : w.Executes requestId executionId)
    (result : w.finalize now requestId executionId outcome = .ok (w', columns)) :
    TableChange ok w w' := by
  obtain ⟨request, execution, row, executionRow, running, -, rfl⟩ := finalize_ok result
  obtain ⟨found, foundRow, owner⟩ := subject
  rw [executionRow] at foundRow
  cases foundRow
  have fine := paired ⟨execution, executionRow, running⟩
    (AList.lookup_isSome.mp (by rw [row]; rfl))
  cases outcome with
  | cancelled =>
    exact .finalized fine row executionRow owner running rfl rfl (fun silent => silent)
      fun _ _ => rfl
  | success resultSummary =>
    obtain ⟨requests, executions, -⟩ := @addEvent_frame
      ((w.setRequest requestId request.markCompleted).setExecution executionId
        (execution.markCompleted resultSummary now)) executionId .actionCompleted
    exact @TableChange.finalized _ _ _ _ _ (.success resultSummary) _ _ now fine row executionRow
      owner running requests executions (fun silent => announcements_first silent (.inl rfl))
      fun other ne => announcements_other (.inl ne)
  | failure errorCode errorMessage =>
    obtain ⟨requests, executions, -⟩ := @addEvent_frame
      ((w.setRequest requestId request.markFailed).setExecution executionId
        (execution.markFailed errorCode errorMessage now)) executionId .actionFailed
    exact @TableChange.finalized _ _ _ _ _ (.failure errorCode errorMessage) _ _ now fine row
      executionRow owner running requests executions (fun silent => announcements_first silent (.inr rfl))
      fun other ne => announcements_other (.inl ne)

/-- A finalization that is lost or refused cancels nothing. -/
theorem uncancelled_of {answer : Answer} {requestId : ActionRequestId}
    {executionId : ActionExecutionId} {outcome : HandlerOutcome}
    (lost : (∃ failure, answer = .error failure) ∨ ∃ error,
      requiredRows w.toActionStore requestId executionId = .error error)
    (goesOn : ∀ failure, answer ≠ .error failure) :
    outcome = .cancelled → ¬w.cancels requestId executionId := by
  intro _
  obtain ⟨failure, raises⟩ | ⟨error, refused⟩ := lost
  · exact absurd raises (goesOn failure)
  · exact requiredRows_refused refused

/-- One step of an executor, as the rows have it. -/
theorem ExecutorStep.change {answer : Answer} {executor : Executor} {outcome : Outcome Executor}
    (subject : (Activity.executor executor).Subject w)
    (step : ExecutorStep config now w answer executor w' outcome) :
    TableChange (executor.Paired config w answer now) w w' := by
  cases step with
  | waits unanswered =>
    refine .still ?_ rfl rfl rfl
    rcases unanswered with ⟨_, _, rfl⟩ | ⟨_, _, _, _, rfl, rfl⟩
    · trivial
    · exact nofun
  | unread | hinted | started | handled => exact .still trivial rfl rfl rfl
  | @unreserved requestId expectedVersion hint error uncommitted =>
    refine .still ?_ rfl rfl rfl
    intro identifier goesOn
    cases held : w.requests.lookup requestId with
    | none => simp [ExecutorWorld.overwrites, held]
    | some committed =>
      exact overwrites_refused held fun assigned error =>
        uncommitted identifier committed assigned error goesOn held
  | @refused requestId expectedVersion hint committed assigned error identifier goesOn held result =>
    obtain ⟨overwrites, was, lost⟩ | ⟨fine, status⟩ := refused_status held result
    · refine .overwrote ?_ held was lost rfl rfl fun _ => rfl
      intro paired
      rw [paired identifier goesOn] at overwrites
      cases overwrites
    · have paired : (Executor.reserve requestId expectedVersion hint).Paired config w answer now :=
        fun _ _ => fine
      obtain same | ⟨was, stays⟩ := status
      · exact .quiet paired (.insert_same held same) (.of_same rfl) fun _ => rfl
      · refine .quiet paired (.insert ?_ stays) (.of_same rfl) fun _ => rfl
        intro request found
        rw [held] at found
        cases found
        exact was
  | @reserved requestId expectedVersion hint committed request execution identifier _ held result
      fresh =>
    obtain ⟨executing, owner, running, -, unexecuted⟩ := reserveLoaded_ok held result
    refine .reserved ?_ held fresh unexecuted executing running owner rfl rfl fun _ => rfl
    intro _ _
    refine overwrites_refused held fun assigned error refused => ?_
    rw [result] at refused
    cases refused
  | @failed _ requestId executionId errorCode errorMessage retryable at_ =>
    refine .still ?_ rfl rfl rfl
    obtain rfl | rfl | ⟨outcome, rfl, lost⟩ := at_
    · trivial
    · trivial
    · exact uncancelled_of lost
  | unfinished error lost =>
    exact .still (uncancelled_of lost) rfl rfl rfl
  | @finalized requestId executionId outcome raised _ columns goesOn result =>
    refine finalize_change ?_ subject result
    rintro ⟨execution, held, running⟩ member
    constructor
    · intro paired cancelled
      exact paired goesOn cancelled ⟨member, execution, held, running⟩
    · intro other _ cancelled
      exact absurd cancelled other
  | records step => exact step.change trivial
  | recorded step => exact step.change trivial
  | unrecorded => exact .still trivial rfl rfl rfl

/-- Where an executor goes on, it is about an execution of its request. -/
theorem ExecutorStep.subject {answer : Answer} {executor executor' : Executor}
    (subject : (Activity.executor executor).Subject w)
    (kept : ∀ requestId executionId, w.Executes requestId executionId →
      w'.Executes requestId executionId)
    (step : ExecutorStep config now w answer executor w' (.continues executor')) :
    (Activity.executor executor').Subject w' := by
  generalize result : Outcome.continues executor' = outcome at step
  cases step with
  | waits =>
    cases result
    exact subject.kept kept
  | unread | unreserved | refused | unfinished => cases result
  | hinted =>
    cases result
    trivial
  | @reserved requestId _ hint committed request execution identifier _ row created =>
    cases result
    obtain ⟨-, owner, -⟩ := reserveLoaded_ok row created
    exact ⟨execution, AList.lookup_insert .., owner⟩
  | started | handled | finalized | records =>
    cases result
    exact kept _ _ subject
  | failed at_ =>
    cases result
    obtain rfl | rfl | ⟨outcome, rfl, -⟩ := at_ <;> exact kept _ _ subject
  | recorded _ ends => exact absurd result.symm (ends executor')
  | unrecorded ends =>
    obtain ends | ⟨errorCode, errorMessage, retryable, same⟩ := ends
    · exact absurd result.symm (ends executor')
    · cases result.trans same
      exact subject

theorem Executor.interrupted_subject {executor executor' : Executor}
    (subject : (Activity.executor executor).Subject w)
    (on : executor.interrupted = some executor') : (Activity.executor executor').Subject w := by
  unfold Executor.interrupted at on
  split at on
  · cases on
  · cases on
  · cases on
  · cases on
    exact subject
  · cases on
    exact subject
  · cases on
    exact subject
  · split at on
    · cases on
      exact subject
    · cases on
  · split at on
    · cases on
      exact subject
    · cases on

theorem ReconcilerStep.subject {reconciler reconciler' : Reconciler}
    (subject : (Activity.reconciler reconciler).Subject w)
    (kept : ∀ requestId executionId, w.Executes requestId executionId →
      w'.Executes requestId executionId)
    (step : ReconcilerStep now w reconciler w' (.continues reconciler')) :
    (Activity.reconciler reconciler').Subject w' := by
  generalize result : Outcome.continues reconciler' = outcome at step
  cases step with
  | ends ends => exact absurd result.symm (ends reconciler')
  | skipped | recorded =>
    cases result
    trivial
  | opened row =>
    cases result
    exact ⟨_, row, rfl⟩
  | records =>
    cases result
    exact kept _ _ subject

theorem ReconcilerStep.change {ok : Prop} (fine : ok) {reconciler : Reconciler}
    {outcome : Outcome Reconciler} (step : ReconcilerStep now w reconciler w' outcome) :
    TableChange ok w w' := by
  cases step with
  | ends | skipped | opened => exact .still fine rfl rfl rfl
  | records step => exact step.change fine
  | recorded step => exact step.change fine

theorem ExecutorStep.frame {answer : Answer} {executor : Executor} {outcome : Outcome Executor}
    (step : ExecutorStep config now w answer executor w' outcome) :
    w'.activities = w.activities ∧ w'.calls = w.calls := by
  cases step with
  | waits | unread | hinted | unreserved | refused | reserved | started | failed | handled
  | unfinished | unrecorded => exact ⟨rfl, rfl⟩
  | finalized _ result =>
    obtain ⟨-, activities, calls, -⟩ := finalize_frame result
    exact ⟨activities, calls⟩
  | records step =>
    obtain ⟨-, calls, activities, -⟩ := step.frame
    exact ⟨activities, calls⟩
  | recorded step =>
    obtain ⟨-, calls, activities, -⟩ := step.frame
    exact ⟨activities, calls⟩

theorem ReconcilerStep.frame {reconciler : Reconciler} {outcome : Outcome Reconciler}
    (step : ReconcilerStep now w reconciler w' outcome) :
    w'.activities = w.activities ∧ w'.calls = w.calls := by
  cases step with
  | ends | skipped | opened => exact ⟨rfl, rfl⟩
  | records step =>
    obtain ⟨-, calls, activities, -⟩ := step.frame
    exact ⟨activities, calls⟩
  | recorded step =>
    obtain ⟨-, calls, activities, -⟩ := step.frame
    exact ⟨activities, calls⟩

theorem ReconcilerStep.remembers {reconciler : Reconciler} {outcome : Outcome Reconciler}
    (step : ReconcilerStep now w reconciler w' outcome) : Remembers w w' := by
  cases step with
  | ends | skipped | opened => exact .of_same rfl
  | records step =>
    obtain ⟨-, -, -, -, remembers, -⟩ := step.frame
    exact remembers
  | recorded step =>
    obtain ⟨-, -, -, -, remembers, -⟩ := step.frame
    exact remembers

theorem TableChange.mono {ok ok' : Prop} (same : ok ↔ ok') (change : TableChange ok w w') :
    TableChange ok' w w' :=
  propext same ▸ change

theorem WorldStep.change (coherent : Coherent w) {event : ExecutorEvent}
    (step : WorldStep config w event w') : TableChange (Paired config w event) w w' := by
  cases step with
  | idle unheld =>
    refine .still ?_ rfl rfl rfl
    cases event with
    | advance caller answer now =>
      intro executor row
      rw [unheld caller answer now rfl] at row
      cases row
    | service | reconcile | interrupt | lose => trivial
  | served change | began change =>
    exact .quiet trivial change.requests (.of_same change.executions) fun executionId => by
      rw [ExecutorWorld.announcements, ← ExecutorWorld.announcements]
      exact congrArg (List.countP _) change.events
  | reconciling | interrupted | stopped | lost => exact .still trivial rfl rfl rfl
  | @executed caller answer now executor next outcome row step =>
    have same : executor.Paired config w answer now ↔ Paired config w (.advance caller answer now) := by
      constructor
      · intro paired executor' found
        rw [row] at found
        cases found
        exact paired
      · exact fun paired => paired executor row
    refine ((step.change (coherent.subjects caller _ row)).mono same).congr ?_ ?_ ?_ <;>
      cases outcome <;> rfl
  | @reconciled caller answer now reconciler next outcome row step =>
    have paired : Paired config w (.advance caller answer now) := by
      intro executor found
      rw [row] at found
      cases found
    refine (step.change paired).congr ?_ ?_ ?_ <;> cases outcome <;> rfl

theorem WorldStep.activities (coherent : Coherent w) {event : ExecutorEvent}
    (step : WorldStep config w event w')
    (kept : ∀ requestId executionId, w.Executes requestId executionId →
      w'.Executes requestId executionId) {other : CallerId} {activity : Activity}
    (found : w'.activities.lookup other = some activity) :
    w.activities.lookup other = some activity ∨ activity.Subject w' := by
  cases step with
  | idle => exact .inl found
  | served => exact .inl found
  | began =>
    obtain ⟨-, rfl⟩ | ⟨-, before⟩ := Table.lookup_insert_cases found
    · exact .inr trivial
    · exact .inl before
  | reconciling =>
    obtain ⟨-, rfl⟩ | ⟨-, before⟩ := Table.lookup_insert_cases found
    · exact .inr trivial
    · exact .inl before
  | @executed caller answer now executor next outcome row step =>
    have frame := step.frame.1
    cases outcome with
    | continues executor' =>
      obtain ⟨rfl, rfl⟩ | ⟨-, before⟩ := Table.lookup_insert_cases found
      · have subject : (Activity.executor executor').Subject next :=
          step.subject (coherent.subjects _ _ row) kept
        exact .inr (subject.kept fun _ _ h => h)
      · exact .inl (frame ▸ before)
    | returns => exact .inl (frame ▸ (Table.lookup_erase_some found).2)
    | raises => exact .inl (frame ▸ (Table.lookup_erase_some found).2)
  | @reconciled caller answer now reconciler next outcome row step =>
    have frame := step.frame.1
    cases outcome with
    | continues reconciler' =>
      obtain ⟨rfl, rfl⟩ | ⟨-, before⟩ := Table.lookup_insert_cases found
      · have subject : (Activity.reconciler reconciler').Subject next :=
          step.subject (coherent.subjects _ _ row) kept
        exact .inr (subject.kept fun _ _ h => h)
      · exact .inl (frame ▸ before)
    | returns => exact .inl (frame ▸ (Table.lookup_erase_some found).2)
    | raises => exact .inl (frame ▸ (Table.lookup_erase_some found).2)
  | interrupted row on =>
    obtain ⟨rfl, rfl⟩ | ⟨-, before⟩ := Table.lookup_insert_cases found
    · exact .inr ((Executor.interrupted_subject (coherent.subjects _ _ row) on).kept kept)
    · exact .inl before
  | stopped => exact .inl (Table.lookup_erase_some found).2
  | lost => exact .inl (Table.lookup_erase_some found).2

theorem WorldStep.calls (coherent : Coherent w) {event : ExecutorEvent}
    (step : WorldStep config w event w') {caller : CallerId} {call : ActionCall}
    (found : w'.calls.lookup caller = some call) : call.preliminary = true := by
  cases step with
  | served change => exact (change.calls caller call found).elim id (coherent.calls caller call)
  | began change => exact (change.calls caller call found).elim id (coherent.calls caller call)
  | @executed _ _ _ _ _ outcome _ step =>
    have same := step.frame.2
    refine coherent.calls caller call (same ▸ ?_)
    cases outcome <;> exact found
  | @reconciled _ _ _ _ _ outcome _ step =>
    have same := step.frame.2
    refine coherent.calls caller call (same ▸ ?_)
    cases outcome <;> exact found
  | idle | reconciling | interrupted | stopped | lost => exact coherent.calls caller call found

theorem WorldStep.coherent (coherent : Coherent w) {event : ExecutorEvent}
    (step : WorldStep config w event w') : Coherent w' := by
  have change := step.change coherent
  have kept : ∀ requestId executionId, w.Executes requestId executionId →
      w'.Executes requestId executionId := fun _ _ h => change.executes h
  refine change.coherent coherent ?_ fun _ _ found => step.calls coherent found
  intro other activity found
  rcases step.activities coherent kept found with before | subject
  · exact (coherent.subjects other activity before).kept kept
  · exact subject

theorem coherent_step (coherent : Coherent w) (event : ExecutorEvent) :
    Coherent (w.step config event) :=
  (world_step coherent.calls event).coherent coherent

/-- A second finalization of an execution changes neither its row nor its request. -/
theorem WorldStep.refused {caller : CallerId} {answer : Answer} {requestId : ActionRequestId}
    {executionId : ActionExecutionId} {outcome : HandlerOutcome} {raised : Option HandlerError}
    {execution : AgentActionExecutionModel}
    (step : WorldStep config w (.advance caller answer now) w')
    (row : w.activities.lookup caller =
      some (.executor (.finalize requestId executionId outcome raised)))
    (executionRow : w.executions.lookup executionId = some execution)
    (closed : ended execution.status = true) :
    w'.requests = w.requests ∧ w'.executions = w.executions := by
  generalize same : ExecutorEvent.advance caller answer now = event at step
  cases step with
  | idle => exact ⟨rfl, rfl⟩
  | served | began | reconciling | interrupted | stopped | lost => cases same
  | @executed _ _ _ executor _ outcome' found step =>
    cases same
    rw [row] at found
    cases found
    cases step with
    | finalized goesOn result =>
      obtain ⟨⟨_, _, -, held, running, -⟩, -⟩ := finalize_frame result
      rw [executionRow] at held
      cases held
      rw [running] at closed
      cases closed
    | failed | waits => exact ⟨rfl, rfl⟩
    | unfinished => exact ⟨rfl, rfl⟩
  | reconciled found =>
    cases same
    rw [row] at found
    cases found

theorem step_finalizes (coherent : Coherent w) {event : ExecutorEvent}
    (paired : Paired config w event) : Finalizes w event (w.step config event) := by
  have step : WorldStep config w event (w.step config event) := world_step coherent.calls event
  have change := step.change coherent
  refine ⟨fun _ _ row closed => change.kept row closed, ?_,
    fun _ _ row' closed open_ => change.together coherent paired row' closed open_⟩
  rintro caller answer now requestId executionId outcome raised execution rfl row executionRow closed
  exact step.refused row executionRow closed

theorem Lockstep.empty : Lockstep {} where
  inStep _ _ row := by simp at row
  executed _ _ row := by simp at row
  single _ _ _ _ row := by simp at row
  announced _ _ row := by simp at row

/-- Exactly the runs whose events meet the condition are in lockstep all along: in each of their
states the statuses of request and execution agree and every execution that has ended has been
announced once, and in each of their steps what has ended stays as it is and what ends is announced. -/
theorem lockstep_iff_paired (config : ActionConfig) (events : List ExecutorEvent) :
    let machine := executorMachine config
    machine.Always Lockstep machine.init events ∧ machine.Steps Finalizes machine.init events ↔
      machine.Meets (Paired config) machine.init events := by
  intro machine
  have states : machine.Always Lockstep machine.init events ↔
      machine.Meets (Paired config) machine.init events := by
    refine Machine.always_iff_meets (I := Coherent) (fun w event coherent => ?_)
      (fun w event coherent lockstep => ?_) Coherent.empty Lockstep.empty
    · exact coherent_step coherent event
    · have change := (@world_step config w coherent.calls event).change coherent
      constructor
      · intro lockstep'
        by_contra bad
        exact change.broken coherent lockstep bad lockstep'
      · exact fun fine => change.lockstep coherent lockstep fine
  constructor
  · rintro ⟨always, -⟩
    exact states.mp always
  · intro meets
    refine ⟨states.mpr meets, ?_⟩
    exact Machine.steps_hold (I := Coherent) (fun w event coherent _ => coherent_step coherent event)
      (fun w event coherent paired => step_finalizes coherent paired) Coherent.empty meets

/-- The action that a reviewer has approved is executed, and the cancellation of its caller reaches
its handler. -/
def cancelledRun : List ExecutorEvent :=
  (manualReviewRun.take 6).map .service ++
    [.service (.proceed 2 0 2), .advance 2 (.proceed 0) 2, .advance 2 (.proceed 20) 2,
      .advance 2 (.proceed 0) 2, .interrupt 2, .advance 2 (.proceed 0) 3]

/-- The cancelled execution ends, and its request fails, without an outbox event. -/
theorem cancelled_unannounced :
    ¬(executorMachine manualReviewConfig).Always Lockstep (executorMachine manualReviewConfig).init
      cancelledRun := by
  intro always
  have last := Machine.always_iff_prefix.mp always cancelledRun List.prefix_rfl
  have cancelled : (((executorMachine manualReviewConfig).run
      (executorMachine manualReviewConfig).init cancelledRun).executions.lookup 20).any
        (fun execution => execution.status = .cancelled) = true := by
    decide +kernel
  have silent : ((executorMachine manualReviewConfig).run
      (executorMachine manualReviewConfig).init cancelledRun).announcements 20 = 0 := by
    decide +kernel
  generalize (executorMachine manualReviewConfig).run
    (executorMachine manualReviewConfig).init cancelledRun = w at *
  obtain ⟨execution, row, status⟩ := (Option.any_eq_true ..).mp cancelled
  have status : execution.status = .cancelled := of_decide_eq_true status
  have told := last.announced 20 execution row (by rw [status]; rfl)
  rw [silent] at told
  cases told

end CyberLegends.Actions
