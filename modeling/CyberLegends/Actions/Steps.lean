import CyberLegends.Actions.Authorization
import CyberLegends.Actions.Execution

/-! The steps of executors and reconcilers and the statements of the service, case by case. -/

namespace CyberLegends.Actions

open CyberLegends.Core Lib Workflow Jobs

variable {config : ActionConfig} {now : Timestamp} {w w' : ExecutorWorld}

/-! ### Records -/

/-- One transaction of the record of an execution: what it commits and what it leads to. -/
inductive RecordStep (now : Timestamp) (w : ExecutorWorld) (requestId : ActionRequestId)
    (executionId : ActionExecutionId) (eventType : MemoryEventType) :
    RecordStage → ExecutorWorld → RecordOutcome → Prop
  | raised (stage failure) :
      RecordStep now w requestId executionId eventType stage w (.raises failure)
  | aborted (stage errorCode errorMessage) :
      RecordStep now w requestId executionId eventType stage w
        (.continues (.fail errorCode errorMessage))
  | done {loaded} : RecordStep now w requestId executionId eventType (.start loaded) w .returns
  | started {loaded execution columns} (row : w.executions.lookup executionId = some execution)
      (owner : execution.actionRequestId = requestId)
      (columns_ : columns = loaded.getD execution.memory)
      (open_ : columns.recordStatus ≠ .recorded) :
      RecordStep now w requestId executionId eventType (.start loaded)
        (w.setExecution executionId
          { execution with
            memory := columns.flush columns.startMemoryRecordAttempt execution.memory })
        (.continues (.insert columns.startMemoryRecordAttempt))
  | found {loaded entry} (member : entry ∈ w.entries)
      (about : entry.actionExecutionId = executionId) (kind : entry.eventType = eventType) :
      RecordStep now w requestId executionId eventType (.insert loaded) w (.continues (.mark none))
  | inserted {loaded request} (row : w.requests.lookup requestId = some request)
      (fresh : ∀ entry ∈ w.entries, entry.actionExecutionId = executionId →
        entry.eventType ≠ eventType) :
      RecordStep now w requestId executionId eventType (.insert loaded)
        { w with entries := ExecutorWorld.memoryEntry requestId request executionId eventType ::
            w.entries }
        (.continues (.mark (some loaded)))
  | marked {loaded execution columns} (row : w.executions.lookup executionId = some execution)
      (columns_ : columns = loaded.getD execution.memory) :
      RecordStep now w requestId executionId eventType (.mark loaded)
        (w.setExecution executionId
          { execution with
            memory := columns.flush (columns.markMemoryRecorded now) execution.memory }) .returns
  | missing {errorCode errorMessage} :
      RecordStep now w requestId executionId eventType (.fail errorCode errorMessage) w .returns
  | failed {errorCode errorMessage execution}
      (row : w.executions.lookup executionId = some execution) :
      RecordStep now w requestId executionId eventType (.fail errorCode errorMessage)
        ((w.setExecution executionId
          { execution with
            memory := execution.memory.markMemoryRecordFailed errorCode errorMessage }).addEvent
              executionId .memoryReconciliationRequired) .returns

theorem recordEvent_ok {entry : MemoryEntry} {kept : Bool}
    (h : w.recordEvent entry = .ok (w', kept)) :
    w' = w ∧ kept = false ∧ (∃ other ∈ w.entries,
        other.actionExecutionId = entry.actionExecutionId ∧ other.eventType = entry.eventType) ∨
      w' = { w with entries := entry :: w.entries } ∧ kept = true ∧ ∀ other ∈ w.entries,
        other.actionExecutionId = entry.actionExecutionId → other.eventType ≠ entry.eventType := by
  unfold ExecutorWorld.recordEvent at h
  obtain ⟨-, -, h⟩ := bind_eq_ok.mp h
  split at h
  · rename_i duplicate
    cases h
    obtain ⟨other, member, same⟩ := List.any_eq_true.mp duplicate
    exact .inl ⟨rfl, rfl, other, member, by simpa using same⟩
  · rename_i fresh
    cases h
    refine .inr ⟨rfl, rfl, ?_⟩
    intro other member about kind
    exact fresh (List.any_eq_true.mpr ⟨other, member, by simp [about, kind]⟩)

theorem record_step (requestId : ActionRequestId) (executionId : ActionExecutionId)
    (eventType : MemoryEventType) (answer : Answer) (stage : RecordStage) :
    RecordStep now w requestId executionId eventType stage
      (w.record now requestId executionId eventType answer stage).1
      (w.record now requestId executionId eventType answer stage).2 := by
  unfold ExecutorWorld.record
  split
  · exact .raised _ _
  · exact .raised _ _
  · exact .aborted _ _ _
  · exact .aborted _ _ _
  · split
    · exact .raised _ _
    · rename_i execution row
      split
      · exact .raised _ _
      · rename_i owner
        dsimp only
        split
        · exact .done
        · rename_i open_
          refine .started row ?_ rfl open_
          cases request : w.requests.lookup requestId with
          | none => simp [request] at owner
          | some => simpa [request] using owner
  · split
    · exact .aborted _ _ _
    · rename_i request row
      split
      · exact .aborted _ _ _
      · rename_i inserted kept result
        obtain ⟨rfl, rfl, entry, member, about, kind⟩ | ⟨rfl, rfl, fresh⟩ := recordEvent_ok result
        · exact .found member about kind
        · exact .inserted row fresh
  · split
    · exact .aborted _ _ _
    · rename_i execution row
      exact .marked row rfl
  · split
    · exact .missing
    · rename_i execution row
      exact .failed row

/-- A transaction that raises commits nothing. -/
theorem RecordStep.unchanged {requestId : ActionRequestId} {executionId : ActionExecutionId}
    {eventType : MemoryEventType} {stage : RecordStage} {failure : Failure}
    (step : RecordStep now w requestId executionId eventType stage w' (.raises failure)) :
    w' = w := by
  generalize result : RecordOutcome.raises failure = outcome at step
  cases step with
  | raised => rfl
  | _ => cases result

/-! ### Executors -/

/-- One step of an executor: what it commits and what it leads to. -/
inductive ExecutorStep (config : ActionConfig) (now : Timestamp) (w : ExecutorWorld)
    (answer : Answer) : Executor → ExecutorWorld → Outcome Executor → Prop
  | waits {executor}
      (unanswered : (∃ requestId executionId, executor = .handle requestId executionId) ∨
        ∃ requestId expectedVersion hint resultSummary,
          executor = .reserve requestId expectedVersion hint ∧ answer = .success resultSummary) :
      ExecutorStep config now w answer executor w (.continues executor)
  | unread {requestId expectedVersion} (error) :
      ExecutorStep config now w answer (.hint requestId expectedVersion) w (.raises error)
  | hinted {requestId expectedVersion hint} (row : w.requests.lookup requestId = some hint) :
      ExecutorStep config now w answer (.hint requestId expectedVersion) w
        (.continues (.reserve requestId expectedVersion hint))
  | unreserved {requestId expectedVersion hint} (error)
      (uncommitted : ∀ identifier committed assigned error, answer = .proceed identifier →
        w.requests.lookup requestId = some committed →
          reserveLoaded config.registry config.settings w.toActionStore requestId hint
            expectedVersion now ≠ .error { committed := some assigned, error }) :
      ExecutorStep config now w answer (.reserve requestId expectedVersion hint) w (.raises error)
  | refused {requestId expectedVersion hint committed assigned error identifier}
      (goesOn : answer = .proceed identifier)
      (row : w.requests.lookup requestId = some committed)
      (result : reserveLoaded config.registry config.settings w.toActionStore requestId hint
        expectedVersion now = .error { committed := some assigned, error }) :
      ExecutorStep config now w answer (.reserve requestId expectedVersion hint)
        (w.setRequest requestId (hint.commitRefusal assigned committed))
        (.raises error.failure.toHandlerError)
  | reserved {requestId expectedVersion hint committed request execution identifier}
      (goesOn : answer = .proceed identifier)
      (row : w.requests.lookup requestId = some committed)
      (result : reserveLoaded config.registry config.settings w.toActionStore requestId hint
        expectedVersion now = .ok { request, execution })
      (fresh : identifier ∉ w.executions) :
      ExecutorStep config now w answer (.reserve requestId expectedVersion hint)
        ((w.setRequest requestId (hint.flush request committed)).setExecution identifier execution)
        (.continues (.start requestId identifier))
  | started {requestId executionId} :
      ExecutorStep config now w answer (.start requestId executionId)
        { w with handled := requestId :: w.handled } (.continues (.handle requestId executionId))
  | failed {executor requestId executionId errorCode errorMessage retryable}
      (at_ : executor = .start requestId executionId ∨ executor = .handle requestId executionId ∨
        ∃ outcome, executor = .finalize requestId executionId outcome none ∧
          ((∃ failure, answer = .error failure) ∨ ∃ error,
            requiredRows w.toActionStore requestId executionId = .error error)) :
      ExecutorStep config now w answer executor w
        (.continues (ExecutorWorld.fail requestId executionId errorCode errorMessage retryable))
  | handled {requestId executionId resultSummary} :
      ExecutorStep config now w answer (.handle requestId executionId) w
        (.continues (.finalize requestId executionId (.success resultSummary) none))
  | unfinished {requestId executionId outcome raised} (error)
      (lost : (∃ failure, answer = .error failure) ∨ ∃ error,
        requiredRows w.toActionStore requestId executionId = .error error) :
      ExecutorStep config now w answer (.finalize requestId executionId outcome (some raised)) w
        (.raises error)
  | finalized {requestId executionId outcome raised finalized columns}
      (goesOn : ∀ failure, answer ≠ .error failure)
      (result : w.finalize now requestId executionId outcome = .ok (finalized, columns)) :
      ExecutorStep config now w answer (.finalize requestId executionId outcome raised) finalized
        (.continues (.record requestId executionId outcome.memoryEventType raised
          (.start (some columns))))
  | records {requestId executionId eventType raised stage recorded stage'}
      (step : RecordStep now w requestId executionId eventType stage recorded (.continues stage')) :
      ExecutorStep config now w answer (.record requestId executionId eventType raised stage)
        recorded (.continues (.record requestId executionId eventType raised stage'))
  | recorded {requestId executionId eventType raised stage recorded outcome}
      (step : RecordStep now w requestId executionId eventType stage recorded .returns)
      (ends : ∀ executor, outcome ≠ .continues executor) :
      ExecutorStep config now w answer (.record requestId executionId eventType raised stage)
        recorded outcome
  | unrecorded {requestId executionId eventType raised stage outcome}
      (ends : (∀ executor, outcome ≠ .continues executor) ∨ ∃ errorCode errorMessage retryable,
        outcome = .continues
          (ExecutorWorld.fail requestId executionId errorCode errorMessage retryable)) :
      ExecutorStep config now w answer (.record requestId executionId eventType raised stage) w
        outcome

theorem except_eq (requestId : ActionRequestId) (executionId : ActionExecutionId)
    (failure : Failure) : ∃ errorCode errorMessage retryable,
      ExecutorWorld.except requestId executionId failure =
        ExecutorWorld.fail requestId executionId errorCode errorMessage retryable := by
  exact ⟨_, _, _, rfl⟩

theorem finalize_error {requestId : ActionRequestId} {executionId : ActionExecutionId}
    {outcome : HandlerOutcome} {error : ActionError}
    (h : w.finalize now requestId executionId outcome = .error error) :
    requiredRows w.toActionStore requestId executionId = .error error := by
  unfold ExecutorWorld.finalize at h
  split at h
  · cases h
    assumption
  · cases h

theorem reserve_step {requestId : ActionRequestId} {expectedVersion : Option Nat}
    {hint : AgentActionRequestModel} {identifier : ActionExecutionId} :
    ExecutorStep config now w (.proceed identifier) (.reserve requestId expectedVersion hint)
      (w.reserve config now requestId expectedVersion hint identifier).1
      (w.reserve config now requestId expectedVersion hint identifier).2 := by
  unfold ExecutorWorld.reserve
  split
  · rename_i row result
    exact .refused rfl row result
  · rename_i result rolledBack
    refine .unreserved _ ?_
    intro _ committed assigned error _ row refused
    rw [result] at refused
    cases refused
    exact rolledBack committed assigned row rfl
  · rename_i absent _
    refine .unreserved _ ?_
    intro _ committed assigned error _ row
    rw [absent] at row
    cases row
  · rename_i row result
    split
    · refine .unreserved _ ?_
      intro _ committed assigned error _ _ refused
      rw [result] at refused
      cases refused
    · rename_i fresh
      exact .reserved rfl row result fresh

/-- What one transaction of a record makes of the executor at it. -/
theorem recordStep_executor {answer : Answer} {requestId : ActionRequestId}
    {executionId : ActionExecutionId} {eventType : MemoryEventType}
    {raised : Option HandlerError} {stage : RecordStage} :
    ExecutorStep config now w answer (.record requestId executionId eventType raised stage)
      (w.execute config now answer (.record requestId executionId eventType raised stage)).1
      (w.execute config now answer (.record requestId executionId eventType raised stage)).2 := by
  have step := @record_step now w requestId executionId eventType answer stage
  obtain ⟨recorded, outcome, result⟩ : ∃ recorded outcome,
      w.record now requestId executionId eventType answer stage = (recorded, outcome) :=
    ⟨_, _, rfl⟩
  simp only [ExecutorWorld.execute, result]
  rw [result] at step
  cases outcome with
  | continues stage => exact .records step
  | returns =>
    cases raised with
    | none => exact .recorded step (by simp)
    | some error => exact .recorded step (by simp)
  | raises failure =>
    obtain rfl := step.unchanged
    cases raised with
    | none =>
      obtain ⟨errorCode, errorMessage, retryable, same⟩ := except_eq requestId executionId failure
      exact .unrecorded
        (.inr ⟨errorCode, errorMessage, retryable, congrArg Outcome.continues same⟩)
    | some error => exact .unrecorded (.inl (by simp))

theorem execute_step (answer : Answer) (executor : Executor) :
    ExecutorStep config now w answer executor (w.execute config now answer executor).1
      (w.execute config now answer executor).2 := by
  unfold ExecutorWorld.execute
  split
  · exact .unread _
  · exact .unreserved _ (by simp)
  · split
    · exact .unread _
    · exact .hinted ‹_›
  · exact reserve_step
  · split
    · exact .started
    · exact .failed (.inl rfl)
  · exact .handled
  · exact .failed (.inr (.inl rfl))
  · exact .failed (.inr (.inr ⟨_, rfl, .inl ⟨_, rfl⟩⟩))
  · exact .unfinished _ (.inl ⟨_, rfl⟩)
  · rename_i executor answer requestId executionId outcome raised calm₁ calm₂
    split
    · rename_i result
      exact .failed (.inr (.inr ⟨_, rfl, .inr ⟨_, finalize_error result⟩⟩))
    · rename_i result
      exact .unfinished _ (.inr ⟨_, finalize_error result⟩)
    · rename_i outerRaised _ _ _ _ result
      refine .finalized ?_ result
      rintro failure rfl
      obtain none | error := outerRaised
      · exact calm₁ failure rfl rfl
      · exact calm₂ error failure rfl rfl
  · exact recordStep_executor
  · rename_i unhinted unstarted unfinalized unrecorded _ unraised unreserved _ _ _ _
    cases executor with
    | hint requestId expectedVersion => exact (unhinted _ _ rfl).elim
    | start requestId executionId => exact (unstarted _ _ rfl).elim
    | finalize requestId executionId outcome raised => exact (unfinalized _ _ _ _ rfl).elim
    | record requestId executionId eventType raised stage => exact (unrecorded _ _ _ _ _ rfl).elim
    | handle requestId executionId => exact .waits (.inl ⟨_, _, rfl⟩)
    | reserve requestId expectedVersion hint =>
      cases answer with
      | proceed identifier => exact (unreserved _ _ _ _ rfl rfl).elim
      | success resultSummary => exact .waits (.inr ⟨_, _, _, _, rfl, rfl⟩)
      | error failure => exact (unraised _ _ _ _ rfl rfl).elim

/-- A finalization that is not refused ends a running execution, with its request and its event. -/
theorem finalize_ok {requestId : ActionRequestId} {executionId : ActionExecutionId}
    {outcome : HandlerOutcome} {columns : MemoryColumns}
    (h : w.finalize now requestId executionId outcome = .ok (w', columns)) :
    ∃ request execution, w.requests.lookup requestId = some request ∧
      w.executions.lookup executionId = some execution ∧ execution.status = .running ∧
      columns = execution.memoryPending ∧
      let updated := (w.setRequest requestId (outcome.finishRequest request)).setExecution
        executionId (outcome.finishExecution execution now)
      w' = match outcome.eventType with
        | none => updated
        | some eventType => updated.addEvent executionId eventType := by
  unfold ExecutorWorld.finalize at h
  split at h
  · cases h
  rename_i request execution rows
  obtain ⟨row, executionRow, running⟩ := requiredRows_ok rows
  cases h
  refine ⟨request, execution, row, executionRow, running, ?_, rfl⟩
  cases outcome <;> rfl

/-! ### Reconcilers -/

/-- One step of a reconciler: what it commits and what it leads to. -/
inductive ReconcilerStep (now : Timestamp) (w : ExecutorWorld) :
    Reconciler → ExecutorWorld → Outcome Reconciler → Prop
  | ends {reconciler outcome} (ends : ∀ reconciler, outcome ≠ .continues reconciler) :
      ReconcilerStep now w reconciler w outcome
  | skipped {executionId executionIds} :
      ReconcilerStep now w (.next (executionId :: executionIds)) w (.continues (.next executionIds))
  | opened {executionId executionIds execution}
      (row : w.executions.lookup executionId = some execution) :
      ReconcilerStep now w (.next (executionId :: executionIds)) w
        (.continues (.record execution.actionRequestId executionId
          (ExecutorWorld.eventTypeOf execution.status) (.start none) executionIds))
  | records {requestId executionId eventType stage executionIds recorded stage'}
      (step : RecordStep now w requestId executionId eventType stage recorded (.continues stage')) :
      ReconcilerStep now w (.record requestId executionId eventType stage executionIds) recorded
        (.continues (.record requestId executionId eventType stage' executionIds))
  | recorded {requestId executionId eventType stage executionIds recorded}
      (step : RecordStep now w requestId executionId eventType stage recorded .returns) :
      ReconcilerStep now w (.record requestId executionId eventType stage executionIds) recorded
        (.continues (.next executionIds))

theorem reconcile_step (answer : Answer) (reconciler : Reconciler) :
    ReconcilerStep now w reconciler (w.reconcile now answer reconciler).1
      (w.reconcile now answer reconciler).2 := by
  unfold ExecutorWorld.reconcile
  split
  · exact .ends (by simp)
  · exact .ends (by simp)
  · split
    · exact .skipped
    · rename_i execution row
      split
      · exact .opened row
      · exact .skipped
  · rename_i requestId executionId eventType stage executionIds
    have step := @record_step now w requestId executionId eventType answer stage
    split
    · rename_i result
      rw [result] at step
      exact .records step
    · rename_i result
      rw [result] at step
      exact .recorded step
    · rename_i result
      rw [result] at step
      obtain rfl := step.unchanged
      exact .ends (by simp)

/-! ### Statements of the service -/

open ActionRequestStatus (reserved)

/-- The calls that have not come to an execution. -/
def ActionCall.preliminary : ActionCall → Bool
  | .reserve .. | .handle .. => false
  | _ => true

/-- Each request keeps its status, or has none with an execution before and after. -/
def Unreserving (before after : Table ActionRequestId AgentActionRequestModel) : Prop :=
  ∀ requestId, (after.lookup requestId).map (·.status) = (before.lookup requestId).map (·.status) ∨
    (∃ request, after.lookup requestId = some request ∧ reserved request.status = false) ∧
      ∀ request, before.lookup requestId = some request → reserved request.status = false

section

variable {requests requests' : Table ActionRequestId AgentActionRequestModel}
  {requestId : ActionRequestId}

theorem Unreserving.refl (requests : Table ActionRequestId AgentActionRequestModel) :
    Unreserving requests requests :=
  fun _ => .inl rfl

theorem Unreserving.insert {request' : AgentActionRequestModel}
    (before : ∀ request, requests.lookup requestId = some request →
      reserved request.status = false) (after : reserved request'.status = false) :
    Unreserving requests (requests.insert requestId request') := by
  intro other
  by_cases same : other = requestId
  · subst same
    exact .inr ⟨⟨request', AList.lookup_insert .., after⟩, before⟩
  · exact .inl (by rw [AList.lookup_insert_ne same])

theorem Unreserving.insert_same {request request' : AgentActionRequestModel}
    (row : requests.lookup requestId = some request) (status : request'.status = request.status) :
    Unreserving requests (requests.insert requestId request') := by
  intro other
  by_cases same : other = requestId
  · subst same
    refine .inl ?_
    rw [AList.lookup_insert, row]
    exact congrArg some status
  · exact .inl (by rw [AList.lookup_insert_ne same])

theorem Unreserving.reserved_kept {request : AgentActionRequestModel}
    (quiet : Unreserving requests requests') (row : requests.lookup requestId = some request)
    (held : reserved request.status = true) :
    ∃ request', requests'.lookup requestId = some request' ∧ request'.status = request.status := by
  rcases quiet requestId with same | ⟨-, before⟩
  · rw [row] at same
    exact Option.map_eq_some_iff.mp same
  · rw [before request row] at held
    cases held

theorem Unreserving.reserved_before {request' : AgentActionRequestModel}
    (quiet : Unreserving requests requests') (row : requests'.lookup requestId = some request')
    (held : reserved request'.status = true) :
    ∃ request, requests.lookup requestId = some request ∧ request.status = request'.status := by
  rcases quiet requestId with same | ⟨⟨request, after, unreserved⟩, -⟩
  · rw [row] at same
    exact Option.map_eq_some_iff.mp same.symm
  · rw [row] at after
    cases after
    rw [unreserved] at held
    cases held

theorem Unreserving.present (quiet : Unreserving requests requests')
    (member : requestId ∈ requests) : requestId ∈ requests' := by
  rcases quiet requestId with same | ⟨⟨request, after, -⟩, -⟩
  · obtain ⟨request, row⟩ := Option.isSome_iff_exists.mp (AList.lookup_isSome.mpr member)
    rw [row] at same
    obtain ⟨request', row', -⟩ := Option.map_eq_some_iff.mp same
    exact AList.lookup_isSome.mp (by rw [row']; rfl)
  · exact AList.lookup_isSome.mp (by rw [after]; rfl)

end

/-- What the service does before an execution. -/
structure Served (w w' : ActionWorld) : Prop where
  executions : w'.executions = w.executions
  events : w'.events = w.events
  requests : Unreserving w.requests w'.requests
  calls : ∀ caller call, w'.calls.lookup caller = some call →
    call.preliminary = true ∨ w.calls.lookup caller = some call

section

variable {v : ActionWorld}

theorem Served.refl : Served v v := ⟨rfl, rfl, .refl _, fun _ _ found => .inr found⟩

theorem Served.endCall {v' : ActionWorld} (served : Served v v') (caller : CallerId) :
    Served v (v'.endCall caller) where
  executions := served.executions
  events := served.events
  requests := served.requests
  calls other call found := served.calls other call (Table.lookup_erase_some found).2

theorem Served.setCall {v' : ActionWorld} (served : Served v v') (caller : CallerId)
    {call : ActionCall} (early : call.preliminary = true) : Served v (v'.setCall caller call) where
  executions := served.executions
  events := served.events
  requests := served.requests
  calls other otherCall found := by
    obtain ⟨-, rfl⟩ | ⟨-, held⟩ := Table.lookup_insert_cases found
    · exact .inl early
    · exact served.calls other otherCall held

theorem Served.setRequest {requestId : ActionRequestId} {request' : AgentActionRequestModel}
    (before : ∀ request, v.requests.lookup requestId = some request →
      reserved request.status = false) (after : reserved request'.status = false) :
    Served v (v.setRequest requestId request') :=
  ⟨rfl, rfl, .insert before after, fun _ _ found => .inr found⟩

theorem updateRequest_served (caller : CallerId) (requestId : ActionRequestId)
    {update : AgentActionRequestModel → Option AgentActionRequestModel}
    (spec : ∀ request request', update request = some request' →
      reserved request.status = false ∧ reserved request'.status = false) :
    Served v (v.updateRequest caller requestId update) := by
  unfold ActionWorld.updateRequest
  split
  · exact Served.refl.endCall caller
  · rename_i request' result
    obtain ⟨request, row, updated⟩ := Option.bind_eq_some_iff.mp result
    obtain ⟨before, after⟩ := spec request request' updated
    refine Served.endCall (.setRequest ?_ after) caller
    intro found foundRow
    rw [row] at foundRow
    cases foundRow
    exact before

theorem insertProposal_served (caller : CallerId) (requestId : ActionRequestId)
    (evaluated : EvaluatedProposal) :
    Served v (v.insertProposal config caller requestId evaluated now) := by
  unfold ActionWorld.insertProposal
  simp only
  split
  · exact Served.refl.endCall caller
  rename_i admitted
  have fresh : requestId ∉ v.requests := (not_or.mp admitted).2
  have inserted : Served v (v.setRequest requestId
      (ActionWorld.createProposal config evaluated now)) := by
    refine .setRequest ?_ ?_
    · intro request row
      exact absurd (AList.lookup_isSome.mp (by rw [row]; rfl)) fresh
    · simp only [ActionWorld.createProposal]
      split <;> decide
  split
  · exact inserted.setCall caller rfl
  · exact inserted.endCall caller

/-- Calls that have not come to an execution, and events that do not take them there. -/
theorem step_served (early : ∀ caller call, v.calls.lookup caller = some call →
      call.preliminary = true) (event : ActionEvent)
    (stays : ∀ caller identifier now, event = .proceed caller identifier now →
      ∀ requestId expectedVersion,
        v.calls.lookup caller ≠ some (.execute requestId expectedVersion)) :
    Served v (v.step config event) := by
  cases event with
  | elsewhere db runs => exact ⟨rfl, rfl, .refl _, fun _ _ found => .inr found⟩
  | propose caller agentRunId agentName proposal =>
    unfold ActionWorld.step ActionWorld.propose
    dsimp only
    split
    · exact Served.refl.endCall caller
    · exact Served.refl.setCall caller rfl
  | approve caller requestId actor expectedVersion now =>
    unfold ActionWorld.step ActionWorld.approve
    dsimp only
    split
    · exact Served.refl.endCall caller
    split
    · exact Served.refl.endCall caller
    split
    · exact Served.refl.setCall caller rfl
    · exact Served.refl.setCall caller rfl
  | reject caller requestId actor expectedVersion reason =>
    unfold ActionWorld.step ActionWorld.reject
    dsimp only
    split
    · exact Served.refl.endCall caller
    split
    · exact Served.refl.endCall caller
    · exact Served.refl.setCall caller rfl
  | execute caller requestId actor expectedVersion =>
    unfold ActionWorld.step ActionWorld.execute
    dsimp only
    split
    · exact Served.refl.endCall caller
    split
    · exact Served.refl.endCall caller
    · exact Served.refl.setCall caller rfl
  | proceed caller identifier now =>
    show Served v (v.proceed config caller identifier now)
    unfold ActionWorld.proceed
    split
    · exact .refl
    · exact insertProposal_served caller identifier _
    · refine updateRequest_served caller _ ?_
      intro request request' approved
      obtain ⟨rfl, pending⟩ := approve_some approved
      exact ⟨by rw [pending]; rfl, rfl⟩
    · refine updateRequest_served caller _ ?_
      intro request request' rejected
      obtain ⟨rfl, proposed | pending⟩ := reject_some rejected
      · exact ⟨by rw [proposed]; rfl, rfl⟩
      · exact ⟨by rw [pending]; rfl, rfl⟩
    · refine updateRequest_served caller _ ?_
      intro request request' expired
      obtain ⟨rfl, pending | approved⟩ := expire_some expired
      · exact ⟨by rw [pending]; rfl, rfl⟩
      · exact ⟨by rw [approved]; rfl, rfl⟩
    · rename_i call
      exact absurd call (stays caller identifier now rfl _ _)
    · rename_i call
      cases early _ _ call
    · exact .refl
  | finish caller outcome now =>
    show Served v (v.finish caller outcome now)
    unfold ActionWorld.finish
    split
    · rename_i call
      cases early _ _ call
    · exact .refl
  | abandon caller => exact Served.refl.endCall caller

end

/-! ### The system -/

def ExecutorWorld.afterExecutor (w : ExecutorWorld) (caller : CallerId) :
    Outcome Executor → ExecutorWorld
  | .continues executor => w.setActivity caller (.executor executor)
  | _ => w.endActivity caller

def ExecutorWorld.afterReconciler (w : ExecutorWorld) (caller : CallerId) :
    Outcome Reconciler → ExecutorWorld
  | .continues reconciler => w.setActivity caller (.reconciler reconciler)
  | _ => w.endActivity caller

theorem advance_executor {caller : CallerId} {answer : Answer} {executor : Executor}
    (row : w.activities.lookup caller = some (.executor executor)) :
    w.advance config caller answer now =
      (w.execute config now answer executor).1.afterExecutor caller
        (w.execute config now answer executor).2 := by
  unfold ExecutorWorld.advance
  rw [row]
  dsimp only
  obtain ⟨next, outcome⟩ := w.execute config now answer executor
  cases outcome <;> rfl

theorem advance_reconciler {caller : CallerId} {answer : Answer} {reconciler : Reconciler}
    (row : w.activities.lookup caller = some (.reconciler reconciler)) :
    w.advance config caller answer now =
      (w.reconcile now answer reconciler).1.afterReconciler caller
        (w.reconcile now answer reconciler).2 := by
  unfold ExecutorWorld.advance
  rw [row]
  dsimp only
  obtain ⟨next, outcome⟩ := w.reconcile now answer reconciler
  cases outcome <;> rfl

/-- What an event does to the executors and reconcilers and to their tables. -/
inductive WorldStep (config : ActionConfig) (w : ExecutorWorld) :
    ExecutorEvent → ExecutorWorld → Prop
  | idle {event} (unheld : ∀ caller answer now, event = .advance caller answer now →
        w.activities.lookup caller = none) : WorldStep config w event w
  | served {event v} (change : Served w.toActionWorld v) :
      WorldStep config w (.service event) { w with toActionWorld := v }
  | began {event caller requestId expectedVersion v} (change : Served w.toActionWorld v)
      (free : caller ∉ w.activities) :
      WorldStep config w (.service event)
        ({ w with toActionWorld := v }.setActivity caller
          (.executor (.hint requestId expectedVersion)))
  | reconciling {caller limit executionIds} (named : ∀ executionId ∈ executionIds,
        w.reconcilable executionId = true) (free : caller ∉ w.activities) :
      WorldStep config w (.reconcile caller limit executionIds)
        (w.setActivity caller (.reconciler (.next executionIds)))
  | executed {caller answer now executor next outcome}
      (row : w.activities.lookup caller = some (.executor executor))
      (step : ExecutorStep config now w answer executor next outcome) :
      WorldStep config w (.advance caller answer now) (next.afterExecutor caller outcome)
  | reconciled {caller answer now reconciler next outcome}
      (row : w.activities.lookup caller = some (.reconciler reconciler))
      (step : ReconcilerStep now w reconciler next outcome) :
      WorldStep config w (.advance caller answer now) (next.afterReconciler caller outcome)
  | interrupted {caller executor executor'}
      (row : w.activities.lookup caller = some (.executor executor))
      (on : executor.interrupted = some executor') :
      WorldStep config w (.interrupt caller) (w.setActivity caller (.executor executor'))
  | stopped {caller} (at_ : ∀ executor, w.activities.lookup caller = some (.executor executor) →
        executor.interrupted = none) : WorldStep config w (.interrupt caller) (w.endActivity caller)
  | lost {caller} : WorldStep config w (.lose caller) (w.endActivity caller)

theorem serve_step (early : ∀ caller call, w.calls.lookup caller = some call →
      call.preliminary = true) (event : ActionEvent) :
    WorldStep config w (.service event) (w.serve config event) := by
  unfold ExecutorWorld.serve
  dsimp only
  split
  · rename_i caller identifier now
    split
    · split
      · exact .idle nofun
      · rename_i free
        exact .began (Served.refl.endCall caller) free
    · rename_i elsewhere
      refine .served (step_served early _ ?_)
      rintro _ _ _ ⟨⟩ requestId expectedVersion call
      exact elsewhere requestId expectedVersion call
  · rename_i other
    refine .served (step_served early _ ?_)
    rintro caller identifier now rfl
    exact absurd rfl (other caller identifier now)

theorem world_step (early : ∀ caller call, w.calls.lookup caller = some call →
      call.preliminary = true) (event : ExecutorEvent) :
    WorldStep config w event (w.step config event) := by
  cases event with
  | service event => exact serve_step early event
  | reconcile caller limit executionIds =>
    show WorldStep config w _ (w.beginReconcile caller limit executionIds)
    unfold ExecutorWorld.beginReconcile
    split
    · rename_i admitted
      exact .reconciling (List.all_eq_true.mp admitted.2.2.1) admitted.2.2.2
    · exact .idle nofun
  | advance caller answer now =>
    show WorldStep config w _ (w.advance config caller answer now)
    match row : w.activities.lookup caller with
    | none =>
      rw [ExecutorWorld.advance, row]
      refine .idle ?_
      rintro _ _ _ ⟨⟩
      exact row
    | some (.executor executor) =>
      rw [advance_executor row]
      exact .executed row (execute_step answer executor)
    | some (.reconciler reconciler) =>
      rw [advance_reconciler row]
      exact .reconciled row (reconcile_step answer reconciler)
  | interrupt caller =>
    show WorldStep config w _ (w.interrupt caller)
    unfold ExecutorWorld.interrupt
    split
    · exact .idle nofun
    · rename_i executor row
      split
      · rename_i ends
        refine .stopped ?_
        intro found same
        rw [row] at same
        cases same
        exact ends
      · rename_i executor' on
        exact .interrupted row on
    · rename_i row
      refine .stopped ?_
      intro found same
      rw [row] at same
      cases same
  | lose caller => exact .lost

end CyberLegends.Actions
