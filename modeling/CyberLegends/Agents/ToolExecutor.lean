import CyberLegends.Agents.AgentLoop
import CyberLegends.Lib.Table

/-! The executor of tools with the audit row of a call, and when the row ends in a terminal status.
Each call of the audit service is a transaction that a cancellation may reach before its commit, or
once the commit has taken effect. -/

namespace CyberLegends.Agents

open CyberLegends.Core Lib Actions

/-! ### Errors -/

inductive ToolCallStatus
  | requested
  | running
  | completed
  | failed
  | rejected
  deriving DecidableEq, Repr

def ToolCallStatus.value : ToolCallStatus → String
  | requested => "REQUESTED"
  | running => "RUNNING"
  | completed => "COMPLETED"
  | failed => "FAILED"
  | rejected => "REJECTED"

/-- What the checks or the handler of a tool raise. -/
inductive RaisedError
  | toolNotFound (message : String)
  | toolNotAllowed (message : String)
  | toolInputValidation (message : String)
  /-- Any other application error. -/
  | application (errorCode message : String)
  /-- The timeout of the call, or one of the handler's own. -/
  | timeout
  | other (message : String)
  | cancelled
  deriving DecidableEq

/-- What reaches the audit or the caller. -/
inductive CallError
  | raised (error : RaisedError)
  | toolTimeout (message : String)
  | toolExecution (message : String)
  | toolCancelled (message : String)
  | invalidToolCallTransition (message : String)
  deriving DecidableEq

def RaisedError.isRejection : RaisedError → Bool
  | toolNotFound _ => true
  | toolNotAllowed _ => true
  | toolInputValidation _ => true
  | _ => false

/-- The error that a handler's error is turned into before the audit sees it. -/
def RaisedError.callError : RaisedError → CallError
  | timeout => .toolTimeout "Tool execution timed out"
  | error => .raised error

/-- Only the errors of the checks are rejections. -/
def CallError.auditStatus : CallError → ToolCallStatus
  | raised error => if error.isRejection then .rejected else .failed
  | _ => .failed

/-- An error that is no application error is wrapped. -/
def CallError.wrapped : CallError → CallError
  | raised (.other _) => toolExecution "Tool execution failed"
  | raised .timeout => toolExecution "Tool execution failed"
  | error => error

/-- The error code and the message of an error in an audit row. -/
def CallError.fields : CallError → String × String
  | raised (.toolNotFound message) => ("TOOL_NOT_FOUND", message)
  | raised (.toolNotAllowed message) => ("TOOL_NOT_ALLOWED", message)
  | raised (.toolInputValidation message) => ("TOOL_INPUT_VALIDATION_ERROR", message)
  | raised (.application errorCode message) => (errorCode, message)
  | raised .timeout => ("TOOL_EXECUTION_ERROR", "")
  | raised (.other message) => ("TOOL_EXECUTION_ERROR", message)
  | raised .cancelled => ("TOOL_EXECUTION_ERROR", "")
  | toolTimeout message => ("TOOL_TIMEOUT", message)
  | toolExecution message => ("TOOL_EXECUTION_ERROR", message)
  | toolCancelled message => ("TOOL_CANCELLED", message)
  | invalidToolCallTransition message => ("INVALID_TOOL_CALL_TRANSITION", message)

/-! ### Audit rows -/

structure AgentToolCallModel where
  toolName : String
  arguments : Json
  status : ToolCallStatus := .requested
  resultSummary : Option String := none
  errorCode : Option String := none
  errorMessage : Option String := none
  completedAt : Option Timestamp := none

/-- Where a cancellation reaches a transaction. -/
inductive Interrupt
  | none
  | before
  | after
  deriving DecidableEq, Repr

namespace AgentToolCallModel

variable (call : AgentToolCallModel)

def requireToolStatus (allowed : List ToolCallStatus) (target : ToolCallStatus) :
    Except CallError Unit :=
  if call.status ∈ allowed then .ok ()
  else
    .error (.invalidToolCallTransition
      ("Tool call cannot transition from " ++ call.status.value ++ " to " ++ target.value))

/-- A transaction on the row, which a cancellation may reach. -/
def transact (interrupt : Interrupt) (allowed : List ToolCallStatus) (target : ToolCallStatus)
    (assigned : AgentToolCallModel) : AgentToolCallModel × Except CallError Unit :=
  match interrupt, call.requireToolStatus allowed target with
  | .before, _ => (call, .error (.raised .cancelled))
  | _, .error error => (call, .error error)
  | .after, .ok () => (assigned, .error (.raised .cancelled))
  | .none, .ok () => (assigned, .ok ())

def startToolCall (interrupt : Interrupt) : AgentToolCallModel × Except CallError Unit :=
  call.transact interrupt [.requested] .running { call with status := .running }

/-- The statuses from which a call may finish. -/
def allowedFrom : ToolCallStatus → List ToolCallStatus
  | .completed => [.running]
  | .rejected => [.requested]
  | .failed => [.requested, .running]
  | _ => []

/-- The row of a call that has finished. -/
def finished (status : ToolCallStatus) (resultSummary : Option String) (error : Option CallError)
    (now : Timestamp) : AgentToolCallModel :=
  { call with
    status
    resultSummary := (resultSummary.filter (· ≠ "")).map (sanitizeText 12000)
    errorCode := error.map fun error => error.fields.1
    errorMessage := error.map fun error => sanitizeText 2000 error.fields.2
    completedAt := some now }

def finishToolCall (status : ToolCallStatus) (resultSummary : Option String)
    (error : Option CallError) (now : Timestamp) (interrupt : Interrupt) :
    AgentToolCallModel × Except CallError Unit :=
  call.transact interrupt (allowedFrom status) status
    (call.finished status resultSummary error now)

end AgentToolCallModel

/-! ### The executor -/

/-- A tool, with the arguments that its input model accepts. -/
structure ToolDefinition where
  inputModel : List (String × Json) → Bool

structure ToolExecutor where
  tools : Table String ToolDefinition
  permissions : AgentName → List String
  maxResultCharacters : Nat

/-- The context of a run, with its workflow as text. -/
structure ToolContext where
  campaignId : String
  workflowId : String

structure ToolCallResult where
  toolName : String
  status : ToolCallStatus
  content : Json

inductive HandlerOutcome
  | returned (value : Json)
  | raised (error : RaisedError)

/-- What the surroundings of a call decide: the status of its run, the outcome of the handler, and
where cancellations reach its transactions, the last of which is the one that an except clause
makes. -/
structure Outcomes where
  run : Option AgentRunStatus := some .running
  create : Interrupt := .none
  start : Interrupt := .none
  handler : HandlerOutcome
  finish : Interrupt := .none
  audit : Interrupt := .none

namespace ToolExecutor

variable (executor : ToolExecutor) (agentName : AgentName) (request : AgentToolRequest)
  (context : ToolContext) (outcomes : Outcomes) (now : Timestamp)

def getForAgent : Except RaisedError ToolDefinition :=
  match executor.tools.lookup request.toolName with
  | none => .error (.toolNotFound "Unknown tool requested")
  | some definition =>
    if request.toolName ∈ executor.permissions agentName then .ok definition
    else .error (.toolNotAllowed "Tool is not allowed for this specialist")

/-- Of the values that are no texts, none is written as an identifier is. -/
def validateScope : Except RaisedError Unit :=
  match request.arguments.lookup "campaign_id" with
  | some (.string campaignId) =>
    if campaignId ≠ context.campaignId then
      .error (.toolNotAllowed "Tool campaign is outside the Agent run scope")
    else
      match request.arguments.lookup "workflow_id" with
      | none | some .null => .ok ()
      | some (.string workflowId) =>
        if workflowId = context.workflowId then .ok ()
        else .error (.toolNotAllowed "Tool workflow is outside the Agent run scope")
      | some _ => .error (.toolNotAllowed "Tool workflow is outside the Agent run scope")
  | _ => .error (.toolNotAllowed "Tool campaign is outside the Agent run scope")

/-- The checks before a call is started. -/
def check : Except RaisedError Unit := do
  let definition ← executor.getForAgent agentName request
  validateScope request context
  if definition.inputModel request.arguments then .ok ()
  else .error (.toolInputValidation "Tool arguments are invalid")

/-- The end of a call whose handler has returned. -/
def complete (call : AgentToolCallModel) (value : Json) :
    AgentToolCallModel × Except CallError ToolCallResult :=
  let (content, summary) := boundedResult executor.maxResultCharacters value
  match call.finishToolCall .completed (some summary) none now outcomes.finish with
  | (call, .error error) => (call, .error error)
  | (call, .ok ()) => (call, .ok ⟨request.toolName, .completed, content⟩)

/-- The call itself, with the row as it leaves it. -/
def attempt (call : AgentToolCallModel) : AgentToolCallModel × Except CallError ToolCallResult :=
  match executor.check agentName request context with
  | .error error => (call, .error (.raised error))
  | .ok () =>
    match call.startToolCall outcomes.start with
    | (call, .error error) => (call, .error error)
    | (call, .ok ()) =>
      match outcomes.handler with
      | .raised error => (call, .error error.callError)
      | .returned value => executor.complete request outcomes now call value

/-- What an except clause leaves and raises. Only the audit of a cancelled call is shielded: another
cancellation does not stop it. -/
def settle (call : AgentToolCallModel) (error : CallError) : AgentToolCallModel × CallError :=
  match error with
  | .raised .cancelled =>
    let (call, finished) := call.finishToolCall .failed none
      (some (.toolCancelled "Tool execution was cancelled")) now .none
    match outcomes.audit, finished with
    | .none, .error transition => (call, transition)
    | _, _ => (call, error)
  | _ =>
    match call.finishToolCall error.auditStatus none (some error.wrapped) now outcomes.audit with
    | (call, .error refused) => (call, refused)
    | (call, .ok ()) => (call, error.wrapped)

/-- The try statement: an error goes to the except clauses. -/
def conclude : AgentToolCallModel × Except CallError ToolCallResult →
    Option AgentToolCallModel × Except CallError ToolCallResult
  | (call, .ok result) => (some call, .ok result)
  | (call, .error error) =>
    let (call, error) := settle outcomes now call error
    (some call, .error error)

/-- The audit row of a call, if one was created, and what the caller gets. -/
def execute : Option AgentToolCallModel × Except CallError ToolCallResult :=
  match outcomes.run with
  | none => (none, .error (.raised (.application "AGENT_RUN_NOT_FOUND" "Agent run not found")))
  | some status =>
    if status ≠ .running then
      (none, .error (.raised (.application "INVALID_AGENT_RUN_TRANSITION"
        ("Agent run cannot transition from " ++ AgentRunRow.statusValue status))))
    else
      let call : AgentToolCallModel :=
        { toolName := request.toolName
          arguments := sanitizeJson 2000 (.dict request.arguments) }
      match outcomes.create with
      | .before => (none, .error (.raised .cancelled))
      | .after => (some call, .error (.raised .cancelled))
      | .none =>
        conclude outcomes now (executor.attempt agentName request context outcomes now call)

end ToolExecutor

/-! ### What the audit is for -/

def AgentToolCallModel.Terminal (call : AgentToolCallModel) : Prop :=
  call.status ∈ [.completed, .failed, .rejected] ∧ call.completedAt.isSome

section

variable (executor : ToolExecutor) (agentName : AgentName) (request : AgentToolRequest)
  (context : ToolContext) (outcomes : Outcomes) (now : Timestamp)

/-- What the caller gets of a call that no cancellation reaches: the result, or the error of the
checks or the handler, wrapped where it is no application error. -/
def ownOutcome : Except CallError ToolCallResult :=
  match executor.check agentName request context with
  | .error error => .error (.raised error)
  | .ok () =>
    match outcomes.handler with
    | .raised error => .error error.callError.wrapped
    | .returned value =>
      .ok ⟨request.toolName, .completed, (boundedResult executor.maxResultCharacters value).1⟩

/-- A cancellation reaches one of the transactions. -/
def Outcomes.Interrupted : Prop :=
  outcomes.create ≠ .none ∨ outcomes.start ≠ .none ∨ outcomes.finish ≠ .none ∨
    outcomes.audit ≠ .none

/-- A row that was created has ended in a terminal status, and the caller has got the outcome, or the
cancellation that was delivered. -/
def EndsWell (outcome : Except CallError ToolCallResult)
    (ended : Option AgentToolCallModel × Except CallError ToolCallResult) : Prop :=
  ∀ call ∈ ended.1, call.Terminal ∧
    (ended.2 = outcome ∨ outcomes.Interrupted ∧ ended.2 = .error (.raised .cancelled))

/-- The call is audited to its end, and the caller gets what it comes to. -/
def Audited : Prop :=
  EndsWell outcomes (ownOutcome executor agentName request context outcomes)
    (executor.execute agentName request context outcomes now)

/-- Once the row is created, no cancellation is in the way of it; no cancellation stops the audit of a
rejected or failed call before its commit; the handler raises none of the errors that only the checks
may raise; and a cancellation after the commit of a completed call does not come alone. -/
def Orderly : Prop :=
  outcomes.run = some .running → outcomes.create ≠ .before →
    outcomes.create = .none ∧
      match executor.check agentName request context with
      | .error _ => outcomes.audit ≠ .before
      | .ok () =>
        outcomes.start = .none →
          match outcomes.handler with
          | .raised error =>
            error.isRejection = false ∧ (error ≠ .cancelled → outcomes.audit ≠ .before)
          | .returned _ => outcomes.finish = .after → outcomes.audit ≠ .none

end

/-! ### Transactions -/

namespace AgentToolCallModel

variable {call assigned : AgentToolCallModel} {allowed : List ToolCallStatus}
  {target : ToolCallStatus} {interrupt : Interrupt}

@[simp] theorem transact_before :
    call.transact .before allowed target assigned = (call, .error (.raised .cancelled)) := by
  unfold transact
  split <;> simp_all

theorem transact_allowed (inside : call.status ∈ allowed) :
    call.transact interrupt allowed target assigned =
      (if interrupt = .before then call else assigned,
        if interrupt = .none then .ok () else .error (.raised .cancelled)) := by
  cases interrupt <;> simp [transact, requireToolStatus, inside]

theorem transact_refused (outside : call.status ∉ allowed) (reached : interrupt ≠ .before) :
    ∃ message, call.transact interrupt allowed target assigned =
      (call, .error (.invalidToolCallTransition message)) := by
  cases interrupt with
  | before => exact absurd rfl reached
  | none => exact ⟨_, by simp [transact, requireToolStatus, outside]; rfl⟩
  | after => exact ⟨_, by simp [transact, requireToolStatus, outside]; rfl⟩

end AgentToolCallModel

/-- A call that has not finished has no terminal status. -/
theorem not_terminal {call : AgentToolCallModel} (unfinished : call.status ∈ [.requested, .running]) :
    ¬ call.Terminal := by
  rintro ⟨terminal, -⟩
  revert unfinished terminal
  cases call.status <;> decide

section

variable {outcomes : Outcomes} {now : Timestamp} {call : AgentToolCallModel}
  {outcome result : Except CallError ToolCallResult}

theorem endsWell_none : EndsWell outcomes outcome (none, result) := fun _ none => nomatch none

theorem endsWell_unfinished (unfinished : call.status ∈ [.requested, .running]) :
    ¬ EndsWell outcomes outcome (some call, result) :=
  fun ends => not_terminal unfinished (ends call rfl).1

theorem endsWell_terminal (terminal : call.Terminal) :
    EndsWell outcomes outcome (some call, result) ↔
      (result = outcome ∨ outcomes.Interrupted ∧ result = .error (.raised .cancelled)) := by
  constructor
  · exact fun ends => (ends call rfl).2
  · rintro well _ ⟨⟩
    exact ⟨terminal, well⟩

theorem finished_terminal {status : ToolCallStatus} {resultSummary : Option String}
    {error : Option CallError} (ended : status ∈ [.completed, .failed, .rejected]) :
    (call.finished status resultSummary error now).Terminal := ⟨ended, rfl⟩

/-! ### The except clauses -/

/-- A cancelled call that has not finished is audited as failed, whatever reaches the audit. -/
theorem settle_cancelled (unfinished : call.status ∈ [.requested, .running]) :
    ToolExecutor.settle outcomes now call (.raised .cancelled) =
      (call.finished .failed none (some (.toolCancelled "Tool execution was cancelled")) now,
        .raised .cancelled) := by
  have allowed : call.status ∈ AgentToolCallModel.allowedFrom .failed := unfinished
  simp only [ToolExecutor.settle, AgentToolCallModel.finishToolCall,
    AgentToolCallModel.transact_allowed allowed]
  cases outcomes.audit <;> rfl

/-- A cancelled call that has finished is refused another end, which reaches the caller unless another
cancellation does. -/
theorem settle_finished (ended : call.status ∉ [.requested, .running]) :
    ∃ message, ToolExecutor.settle outcomes now call (.raised .cancelled) =
      (call, if outcomes.audit = .none then .invalidToolCallTransition message
        else .raised .cancelled) := by
  obtain ⟨message, refused⟩ : ∃ message,
      call.transact .none (AgentToolCallModel.allowedFrom .failed) .failed
        (call.finished .failed none (some (.toolCancelled "Tool execution was cancelled")) now) =
      (call, .error (.invalidToolCallTransition message)) :=
    AgentToolCallModel.transact_refused ended (by decide)
  refine ⟨message, ?_⟩
  simp only [ToolExecutor.settle, AgentToolCallModel.finishToolCall, refused]
  cases outcomes.audit <;> rfl

/-- Any other error that the status of the call admits is audited unless a cancellation comes before
the commit. -/
theorem settle_error {error : CallError} (uncancelled : error ≠ .raised .cancelled)
    (admitted : call.status ∈ AgentToolCallModel.allowedFrom error.auditStatus) :
    ToolExecutor.settle outcomes now call error =
      (if outcomes.audit = .before then call
        else call.finished error.auditStatus none (some error.wrapped) now,
        if outcomes.audit = .none then error.wrapped else .raised .cancelled) := by
  unfold ToolExecutor.settle
  split
  · exact absurd rfl uncancelled
  · simp only [AgentToolCallModel.finishToolCall, AgentToolCallModel.transact_allowed admitted]
    cases outcomes.audit <;> rfl

/-- An error that the status of the call does not admit leaves the row as it is. -/
theorem settle_refused {error : CallError} (uncancelled : error ≠ .raised .cancelled)
    (refused : call.status ∉ AgentToolCallModel.allowedFrom error.auditStatus) :
    (ToolExecutor.settle outcomes now call error).1 = call := by
  unfold ToolExecutor.settle
  split
  · exact absurd rfl uncancelled
  · simp only [AgentToolCallModel.finishToolCall]
    by_cases reached : outcomes.audit = .before
    · rw [reached, AgentToolCallModel.transact_before]
    · obtain ⟨message, same⟩ := AgentToolCallModel.transact_refused refused reached
      rw [same]

end

/-! ### The whole call -/

section

variable {executor : ToolExecutor} {agentName : AgentName} {request : AgentToolRequest}
  {context : ToolContext} {outcomes : Outcomes} {now : Timestamp}

theorem validateScope_rejects {error : RaisedError}
    (result : ToolExecutor.validateScope request context = .error error) :
    error.isRejection = true := by
  unfold ToolExecutor.validateScope at result
  split at result
  · split at result
    · cases result
      rfl
    · split at result
      · cases result
      · cases result
      · split at result <;> cases result
        rfl
      · cases result
        rfl
  · cases result
    rfl

/-- The checks raise rejections only. -/
theorem check_rejects {error : RaisedError}
    (result : executor.check agentName request context = .error error) :
    error.isRejection = true := by
  rcases bind_eq_error.mp result with missing | ⟨definition, -, rest⟩
  · unfold ToolExecutor.getForAgent at missing
    split at missing
    · cases missing
      rfl
    · split at missing <;> cases missing
      rfl
  · rcases bind_eq_error.mp rest with outside | ⟨_, -, rest⟩
    · exact validateScope_rejects outside
    · split at rest <;> cases rest
      rfl

/-- The row that a call starts with. -/
def requestedCall (request : AgentToolRequest) : AgentToolCallModel where
  toolName := request.toolName
  arguments := sanitizeJson 2000 (.dict request.arguments)

/-- The row of a call that has started. -/
def runningCall (request : AgentToolRequest) : AgentToolCallModel :=
  { requestedCall request with status := .running }

@[simp] theorem requestedCall_status (request : AgentToolRequest) :
    (requestedCall request).status = .requested := rfl

@[simp] theorem runningCall_status (request : AgentToolRequest) :
    (runningCall request).status = .running := rfl

theorem start_requested (request : AgentToolRequest) (interrupt : Interrupt) :
    (requestedCall request).startToolCall interrupt =
      (if interrupt = .before then requestedCall request else runningCall request,
        if interrupt = .none then .ok () else .error (.raised .cancelled)) :=
  AgentToolCallModel.transact_allowed (by simp)

theorem execute_created (run : outcomes.run = some .running) (create : outcomes.create = .none) :
    executor.execute agentName request context outcomes now =
      ToolExecutor.conclude outcomes now
        (executor.attempt agentName request context outcomes now (requestedCall request)) := by
  simp only [ToolExecutor.execute, run, create]
  rfl

theorem RaisedError.rejection_auditStatus {error : RaisedError} (rejection : error.isRejection = true) :
    (CallError.raised error).auditStatus = .rejected := if_pos rejection

theorem RaisedError.rejection_wrapped {error : RaisedError} (rejection : error.isRejection = true) :
    (CallError.raised error).wrapped = .raised error ∧ error ≠ .cancelled ∧
      error.callError = .raised error := by
  cases error with
  | toolNotFound | toolNotAllowed | toolInputValidation => exact ⟨rfl, by simp, rfl⟩
  | application | timeout | other | cancelled => cases rejection

/-- An error of the handler that is no rejection is audited as a failure. -/
theorem RaisedError.failure_auditStatus {error : RaisedError} (failure : error.isRejection = false)
    (uncancelled : error ≠ .cancelled) :
    error.callError.auditStatus = .failed ∧ error.callError ≠ .raised .cancelled := by
  cases error with
  | toolNotFound | toolNotAllowed | toolInputValidation => cases failure
  | application | timeout | other => exact ⟨rfl, by simp [RaisedError.callError]⟩
  | cancelled => exact absurd rfl uncancelled

/-- A call whose error is audited ends well unless a cancellation stops the audit. -/
theorem conclude_error_iff (outcomes : Outcomes) (now : Timestamp) {call : AgentToolCallModel}
    {error : CallError} (unfinished : call.status ∈ [.requested, .running])
    (uncancelled : error ≠ .raised .cancelled)
    (admitted : call.status ∈ AgentToolCallModel.allowedFrom error.auditStatus) :
    EndsWell outcomes (.error error.wrapped)
        (ToolExecutor.conclude outcomes now (call, .error error)) ↔
      outcomes.audit ≠ .before := by
  rw [ToolExecutor.conclude, settle_error uncancelled admitted]
  dsimp only
  by_cases stopped : outcomes.audit = .before
  · simp only [stopped, if_true, ne_eq, not_true, iff_false]
    exact endsWell_unfinished unfinished
  · rw [if_neg stopped]
    have ended : error.auditStatus ∈ [.completed, .failed, .rejected] := by
      unfold CallError.auditStatus
      split
      · split <;> decide
      · decide
    rw [endsWell_terminal (finished_terminal ended)]
    by_cases quiet : outcomes.audit = .none
    · simp [quiet]
    · simp [quiet, stopped, Outcomes.Interrupted]

/-- A call whose audit is a cancellation's ends well. -/
theorem conclude_cancelled {call : AgentToolCallModel} {outcome : Except CallError ToolCallResult}
    (unfinished : call.status ∈ [.requested, .running])
    (own : outcome = .error (.raised .cancelled) ∨ outcomes.Interrupted) :
    EndsWell outcomes outcome
      (ToolExecutor.conclude outcomes now (call, .error (.raised .cancelled))) := by
  rw [ToolExecutor.conclude, settle_cancelled unfinished]
  refine (endsWell_terminal (finished_terminal (by decide))).mpr ?_
  rcases own with own | interrupted
  · exact .inl own.symm
  · exact .inr ⟨interrupted, rfl⟩

/-- What a started call comes to whose handler raises. -/
theorem raised_endsWell_iff (error : RaisedError) :
    EndsWell outcomes (.error error.callError.wrapped)
        (ToolExecutor.conclude outcomes now (runningCall request, .error error.callError)) ↔
      error.isRejection = false ∧ (error ≠ .cancelled → outcomes.audit ≠ .before) := by
  cases rejection : error.isRejection with
  | true =>
    obtain ⟨-, uncancelled, same⟩ := RaisedError.rejection_wrapped rejection
    have refused : (ToolExecutor.settle outcomes now (runningCall request) error.callError).1 =
        runningCall request := by
      rw [same]
      refine settle_refused (by simpa using uncancelled) ?_
      rw [RaisedError.rejection_auditStatus rejection]
      simp [AgentToolCallModel.allowedFrom]
    simp only [ToolExecutor.conclude, refused, Bool.true_eq_false, false_and, iff_false]
    exact endsWell_unfinished (by simp)
  | false =>
    by_cases cancelled : error = .cancelled
    · subst cancelled
      simp only [ne_eq, not_true, false_imp_iff, and_self, iff_true]
      exact conclude_cancelled (by simp) (.inl rfl)
    · obtain ⟨failed, uncancelled⟩ := RaisedError.failure_auditStatus rejection cancelled
      rw [conclude_error_iff outcomes now (by simp) uncancelled
        (by simp [failed, AgentToolCallModel.allowedFrom])]
      simp [cancelled]

/-- What a started call comes to whose handler returns. -/
theorem returned_endsWell_iff (value : Json) :
    EndsWell outcomes
        (.ok ⟨request.toolName, .completed, (boundedResult executor.maxResultCharacters value).1⟩)
        (ToolExecutor.conclude outcomes now
          (executor.complete request outcomes now (runningCall request) value)) ↔
      (outcomes.finish = .after → outcomes.audit ≠ .none) := by
  have running : (runningCall request).status ∈ AgentToolCallModel.allowedFrom .completed := by
    simp [AgentToolCallModel.allowedFrom]
  simp only [ToolExecutor.complete, AgentToolCallModel.finishToolCall,
    AgentToolCallModel.transact_allowed running]
  cases finish : outcomes.finish with
  | none =>
    simp only [reduceCtorEq, if_false, if_true, false_imp_iff, iff_true]
    exact (endsWell_terminal (finished_terminal (by decide))).mpr (.inl rfl)
  | before =>
    simp only [reduceCtorEq, if_false, if_true, false_imp_iff, iff_true]
    exact conclude_cancelled (by simp) (.inr (.inr (.inr (.inl (by simp [finish])))))
  | after =>
    simp only [reduceCtorEq, if_false, forall_const, ToolExecutor.conclude]
    have ended : ((runningCall request).finished .completed
        (some (boundedResult executor.maxResultCharacters value).2) none now).status ∉
        [.requested, .running] := by
      simp [AgentToolCallModel.finished]
    obtain ⟨message, settled⟩ : ∃ message, ToolExecutor.settle outcomes now _ _ = _ :=
      settle_finished ended
    rw [settled, endsWell_terminal (finished_terminal (by decide))]
    by_cases quiet : outcomes.audit = .none
    · simp [quiet]
    · simp [quiet, Outcomes.Interrupted]

/-- What a call comes to that the checks admit. -/
theorem admitted_endsWell_iff (run : outcomes.run = some .running) (create : outcomes.create = .none)
    (admitted : executor.check agentName request context = .ok ()) :
    Audited executor agentName request context outcomes now ↔
      (outcomes.start = .none →
        match outcomes.handler with
        | .raised error =>
          error.isRejection = false ∧ (error ≠ .cancelled → outcomes.audit ≠ .before)
        | .returned _ => outcomes.finish = .after → outcomes.audit ≠ .none) := by
  unfold Audited
  rw [execute_created run create, ToolExecutor.attempt, ownOutcome, admitted]
  dsimp only
  rw [start_requested]
  by_cases started : outcomes.start = .none
  · simp only [started, forall_const]
    cases outcomes.handler with
    | raised error => exact raised_endsWell_iff error
    | returned value => exact returned_endsWell_iff value
  · simp only [started, false_imp_iff, iff_true]
    refine conclude_cancelled ?_ (.inr (.inr (.inl started)))
    split <;> simp

/-- A row is audited to its end, and the caller gets the outcome of the call, exactly if the call is
orderly. -/
theorem audited_iff (executor : ToolExecutor) (agentName : AgentName) (request : AgentToolRequest)
    (context : ToolContext) (outcomes : Outcomes) (now : Timestamp) :
    Audited executor agentName request context outcomes now ↔
      Orderly executor agentName request context outcomes := by
  unfold Orderly
  by_cases running : outcomes.run = some .running
  · cases create : outcomes.create with
    | before =>
      have none : executor.execute agentName request context outcomes now =
          (none, .error (.raised .cancelled)) := by
        simp [ToolExecutor.execute, running, create]
      rw [Audited, none]
      simp [endsWell_none]
    | after =>
      have abandoned : executor.execute agentName request context outcomes now =
          (some (requestedCall request), .error (.raised .cancelled)) := by
        simp only [ToolExecutor.execute, running, create]
        rfl
      rw [Audited, abandoned]
      constructor
      · exact fun ends => absurd ends (endsWell_unfinished (by simp))
      · exact fun orderly => nomatch (orderly running (by decide)).1
    | none =>
      simp only [running, ne_eq, reduceCtorEq, not_false_eq_true, forall_const, true_and]
      cases checked : executor.check agentName request context with
      | error error =>
        have rejection := check_rejects checked
        obtain ⟨wrapped, uncancelled, -⟩ := RaisedError.rejection_wrapped rejection
        rw [Audited, execute_created running create, ToolExecutor.attempt, ownOutcome, checked]
        have admitted : (requestedCall request).status ∈
            AgentToolCallModel.allowedFrom (CallError.raised error).auditStatus := by
          rw [RaisedError.rejection_auditStatus rejection]
          simp [AgentToolCallModel.allowedFrom]
        have ends := conclude_error_iff outcomes now (by simp) (by simpa using uncancelled) admitted
        rw [wrapped] at ends
        exact ends
      | ok => exact admitted_endsWell_iff running create checked
  · have none : (executor.execute agentName request context outcomes now).1 = none := by
      unfold ToolExecutor.execute
      split
      · rfl
      · rename_i status run
        rw [if_pos (fun same => running (by rw [run, same]))]
    constructor
    · exact fun _ created => absurd created running
    · intro _ call member
      rw [none] at member
      cases member

end

/-- An executor with one tool, which every agent may call with any arguments. -/
def oneTool : ToolExecutor where
  tools := (∅ : Table String ToolDefinition).insert "t" ⟨fun _ => true⟩
  permissions _ := ["t"]
  maxResultCharacters := 100

def oneToolRequest : AgentToolRequest where
  toolCallId := "1"
  toolName := "t"
  arguments := [("campaign_id", .string "c")]
  toolCallId_length := by decide
  toolName_length := by decide

/-- A handler that raises an input error of its own leaves its call running. -/
theorem handler_rejection_unfinished :
    ¬ ∀ (executor : ToolExecutor) (agentName : AgentName) (request : AgentToolRequest)
      (context : ToolContext) (outcomes : Outcomes) (now : Timestamp),
      Audited executor agentName request context outcomes now := by
  intro law
  have audited := law oneTool .briefAnalyst oneToolRequest ⟨"c", "w"⟩
    { handler := .raised (.toolInputValidation "m") } 0
  have left : (oneTool.execute .briefAnalyst oneToolRequest ⟨"c", "w"⟩
      { handler := .raised (.toolInputValidation "m") } 0).1.map AgentToolCallModel.status =
      some .running := by
    decide +kernel
  obtain ⟨call, row, running⟩ := Option.map_eq_some_iff.mp left
  refine not_terminal ?_ (audited call row).1
  simp [running]

end CyberLegends.Agents
