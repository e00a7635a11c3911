import CyberLegends.Agents.ToolResults
import CyberLegends.Lib.Machine

/-! The loop of an agent: iterations, LLM calls, tool executions and action proposals, each checked
against its budget before it begins, counted in the state of the loop and in the row of the run. One
step is one call that the loop waits for, with what the loop does until the next one. -/

namespace CyberLegends.Agents

open CyberLegends.Core Lib Actions Workflow

/-! ### Errors -/

inductive LoopError
  | agentIterationLimit (message : String)
  | agentLlmCallLimit (message : String)
  | agentToolCallLimit (message : String)
  | agentActionProposalLimit (message : String)
  | agentTimeout (message : String)
  | agentOutputValidation (message : String)
  | invalidAgentRunTransition (message : String)
  | validationError
  | workflow (error : WorkflowError)
  /-- What the provider, a tool or the database raises, and the cancellation of the run. -/
  | raised (message : String)

/-! ### The budget -/

/-- The budget of a run, in the ranges that the settings it is taken from have too. -/
structure AgentExecutionBudget where
  maxIterations : Nat
  maxLlmCalls : Nat
  maxToolCalls : Nat
  timeoutSeconds : Nat
  maxActionProposals : Nat := 3
  maxIterations_range : 1 ≤ maxIterations ∧ maxIterations ≤ 20
  maxLlmCalls_range : 1 ≤ maxLlmCalls ∧ maxLlmCalls ≤ 20
  maxToolCalls_range : maxToolCalls ≤ 50
  timeoutSeconds_range : 1 ≤ timeoutSeconds ∧ timeoutSeconds ≤ 300
  maxActionProposals_range : maxActionProposals ≤ 10

structure BudgetTracker where
  budget : AgentExecutionBudget
  startedAt : Timestamp

namespace BudgetTracker

variable (tracker : BudgetTracker) (now : Timestamp)

def checkTimeout : Except LoopError Unit :=
  if now - tracker.startedAt ≥ seconds tracker.budget.timeoutSeconds then
    .error (.agentTimeout "Agent execution timed out")
  else .ok ()

def beforeIteration (current : Nat) : Except LoopError Unit := do
  tracker.checkTimeout now
  if current ≥ tracker.budget.maxIterations then
    .error (.agentIterationLimit "Agent iteration budget exhausted")
  else .ok ()

def beforeLlmCall (current : Nat) : Except LoopError Unit := do
  tracker.checkTimeout now
  if current ≥ tracker.budget.maxLlmCalls then
    .error (.agentLlmCallLimit "Agent LLM call budget exhausted")
  else .ok ()

def beforeToolCalls (current requested : Nat) : Except LoopError Unit := do
  tracker.checkTimeout now
  if current + requested > tracker.budget.maxToolCalls then
    .error (.agentToolCallLimit "Agent tool call budget exhausted")
  else .ok ()

def beforeActionProposals (current requested : Nat) : Except LoopError Unit := do
  tracker.checkTimeout now
  if current + requested > tracker.budget.maxActionProposals then
    .error (.agentActionProposalLimit "Agent action proposal budget exhausted")
  else .ok ()

end BudgetTracker

/-! ### The counters -/

structure AgentState where
  iterationCount : Nat := 0
  llmCallCount : Nat := 0
  toolCallCount : Nat := 0
  actionProposalCount : Nat := 0
  messages : List AgentMessage := []
  finalOutput : Option Json := none

/-- The committed row of the run. -/
structure AgentRunRow where
  status : AgentRunStatus := .running
  iterationCount : Nat := 0
  llmCallCount : Nat := 0
  toolCallCount : Nat := 0

namespace AgentRunRow

variable (row : AgentRunRow)

def statusValue : AgentRunStatus → String
  | .created => "CREATED"
  | .running => "RUNNING"
  | .completed => "COMPLETED"
  | .failed => "FAILED"
  | .limitExceeded => "LIMIT_EXCEEDED"

def requireRunning : Except LoopError Unit :=
  if row.status = .running then .ok ()
  else
    .error (.invalidAgentRunTransition
      ("Agent run cannot transition from " ++ statusValue row.status))

def recordIteration : Except LoopError AgentRunRow := do
  row.requireRunning
  return { row with iterationCount := row.iterationCount + 1 }

def recordLlmCall : Except LoopError AgentRunRow := do
  row.requireRunning
  return { row with llmCallCount := row.llmCallCount + 1 }

def createToolCall : Except LoopError AgentRunRow := do
  row.requireRunning
  return { row with toolCallCount := row.toolCallCount + 1 }

end AgentRunRow

/-! ### Turns -/

structure AgentActionProposal where
  actionName : String
  arguments : List (String × Json) := []
  rationaleSummary : String
  actionName_length : 1 ≤ actionName.length ∧ actionName.length ≤ 100
  rationaleSummary_length : 1 ≤ rationaleSummary.length ∧ rationaleSummary.length ≤ 1000

/-- What the LLM answers: calls of tools, or a final output with what it proposes. -/
structure AgentTurn where
  assistantText : Option String := none
  toolCalls : List AgentToolRequest := []
  finalOutput : Option Json := none
  actionProposals : List AgentActionProposal := []
  assistantText_length : ∀ text ∈ assistantText, text.length ≤ 20000
  toolCalls_length : toolCalls.length ≤ 10
  actionProposals_length : actionProposals.length ≤ 10
  requireAction : toolCalls ≠ [] ∨ finalOutput.isSome
  exclusive : toolCalls = [] ∨ finalOutput = none

/-! ### The loop -/

/-- The call that the loop waits for. -/
inductive LoopPoint
  /-- None: the next iteration is about to begin. -/
  | iteration
  | recordIteration
  | reserveWorkflowLlmCall
  | recordLlmCall
  | runAgentTurn
  | createToolCall (request : AgentToolRequest) (requests : List AgentToolRequest)
  | executeTool (request : AgentToolRequest) (requests : List AgentToolRequest)
  | processActionProposal (proposal : AgentActionProposal)
      (proposals : List AgentActionProposal) (output : Json)
  | returned (output : Json)
  | raised (error : LoopError)

/-- How the call ends. -/
inductive LoopAnswer
  | completes
  | turn (turn : AgentTurn)
  | result (value : Json)
  /-- The call raises, after its commit or without one. -/
  | raises (message : String) (committed : Bool)

inductive LoopEvent
  | answered (now : Timestamp) (answer : LoopAnswer)
  /-- Somebody else writes the workflow or its campaign. -/
  | written (pair : LockedPair)

/-- What a loop is started with. -/
structure LoopConfig where
  settings : Settings
  budget : AgentExecutionBudget
  maxResultCharacters : Nat
  /-- The schema of the final output, which dumps what it admits. -/
  validateOutput : Json → Option Json
  processesProposals : Bool

structure LoopRun where
  startedAt : Timestamp
  /-- The iterations that are left of the range. -/
  remaining : Nat
  state : AgentState
  row : AgentRunRow
  pair : LockedPair
  point : LoopPoint

namespace LoopRun

variable (config : LoopConfig) (run : LoopRun)

def raises (error : LoopError) : LoopRun := { run with point := .raised error }

def tracker : BudgetTracker where
  budget := config.budget
  startedAt := run.startedAt

/-- A call that commits: what it assigns, and how the loop goes on once it is committed. -/
def transact (answer : LoopAnswer) (assign : Except LoopError LoopRun)
    (goesOn : LoopRun → LoopRun) : LoopRun :=
  match answer, assign with
  | .raises message true, .ok assigned => assigned.raises (.raised message)
  | .raises message _, _ => run.raises (.raised message)
  | _, .ok assigned => goesOn assigned
  | _, .error error => run.raises error

def beginIteration (now : Timestamp) : LoopRun :=
  if run.remaining = 0 then
    run.raises (.agentIterationLimit "Agent iteration budget exhausted")
  else
    let checked : Except LoopError Unit := do
      (run.tracker config).beforeIteration now run.state.iterationCount
      (run.tracker config).beforeLlmCall now run.state.llmCallCount
    match checked with
    | .error error => run.raises error
    | .ok () => { run with remaining := run.remaining - 1, point := .recordIteration }

def recordIteration (answer : LoopAnswer) : LoopRun :=
  run.transact answer (run.row.recordIteration.map fun row => { run with row }) fun run =>
    { run with
      state := { run.state with iterationCount := run.state.iterationCount + 1 }
      point := .reserveWorkflowLlmCall }

def reserveWorkflowLlmCall (answer : LoopAnswer) : LoopRun :=
  let assign :=
    match run.pair.recordLlmCall config.settings with
    | .ok pair => .ok { run with pair }
    | .error error => .error (.workflow error)
  run.transact answer assign fun run => { run with point := .recordLlmCall }

def recordLlmCall (answer : LoopAnswer) : LoopRun :=
  run.transact answer (run.row.recordLlmCall.map fun row => { run with row }) fun run =>
    { run with
      state := { run.state with llmCallCount := run.state.llmCallCount + 1 }
      point := .runAgentTurn }

/-- Goes on with the next tool, or with the next iteration. -/
def nextTool : List AgentToolRequest → LoopRun
  | [] => { run with point := .iteration }
  | request :: requests => { run with point := .createToolCall request requests }

/-- Goes on with the next proposal, or returns. -/
def nextProposal (output : Json) : List AgentActionProposal → LoopRun
  | [] => { run with point := .returned output }
  | proposal :: proposals =>
    if config.processesProposals then
      { run with point := .processActionProposal proposal proposals output }
    else run.raises (.agentOutputValidation "Agent action proposal processing is unavailable")

/-- A final output. -/
def finish (now : Timestamp) (turn : AgentTurn) (finalOutput : Json) : LoopRun :=
  match config.validateOutput finalOutput with
  | none => run.raises (.agentOutputValidation "Agent final output is invalid")
  | some output =>
    let run := { run with state := { run.state with finalOutput := some output } }
    match (run.tracker config).beforeActionProposals now run.state.actionProposalCount
      turn.actionProposals.length with
    | .error error => run.raises error
    | .ok () => run.nextProposal config output turn.actionProposals

/-- Calls of tools. -/
def callTools (now : Timestamp) (turn : AgentTurn) : LoopRun :=
  match (run.tracker config).beforeToolCalls now run.state.toolCallCount turn.toolCalls.length with
  | .error error => run.raises error
  | .ok () =>
    match AgentMessage.validate .assistant (turn.assistantText.getD "") none none turn.toolCalls with
    | none => run.raises .validationError
    | some message =>
      { run with
        state := { run.state with messages := run.state.messages ++ [message] } }.nextTool
          turn.toolCalls

def runAgentTurn (now : Timestamp) : LoopAnswer → LoopRun
  | .turn turn =>
    match (run.tracker config).checkTimeout now with
    | .error error => run.raises error
    | .ok () =>
      match turn.finalOutput with
      | some finalOutput => run.finish config now turn finalOutput
      | none => run.callTools config now turn
  | .raises message _ => run.raises (.raised message)
  | _ => run.raises (.raised "")

def createToolCall (request : AgentToolRequest) (requests : List AgentToolRequest)
    (answer : LoopAnswer) : LoopRun :=
  run.transact answer (run.row.createToolCall.map fun row => { run with row }) fun run =>
    { run with point := .executeTool request requests }

def executeTool (request : AgentToolRequest) (requests : List AgentToolRequest) :
    LoopAnswer → LoopRun
  | .result value =>
    let content := (boundedResult config.maxResultCharacters value).1
    let state := { run.state with toolCallCount := run.state.toolCallCount + 1 }
    match toolMessage request content with
    | none => { run with state }.raises .validationError
    | some message =>
      { run with state := { state with messages := state.messages ++ [message] } }.nextTool requests
  | .raises message _ => run.raises (.raised message)
  | _ => run.raises (.raised "")

def processActionProposal (proposals : List AgentActionProposal) (output : Json) :
    LoopAnswer → LoopRun
  | .raises message _ => run.raises (.raised message)
  | _ =>
    { run with
      state :=
        { run.state with actionProposalCount := run.state.actionProposalCount + 1 } }.nextProposal
      config output proposals

def answer (now : Timestamp) (answer : LoopAnswer) : LoopRun :=
  match run.point with
  | .iteration => run.beginIteration config now
  | .recordIteration => run.recordIteration answer
  | .reserveWorkflowLlmCall => run.reserveWorkflowLlmCall config answer
  | .recordLlmCall => run.recordLlmCall answer
  | .runAgentTurn => run.runAgentTurn config now answer
  | .createToolCall request requests => run.createToolCall request requests answer
  | .executeTool request requests => run.executeTool config request requests answer
  | .processActionProposal _ proposals output =>
    run.processActionProposal config proposals output answer
  | .returned _ | .raised _ => run

def step : LoopEvent → LoopRun
  | .answered now answered => run.answer config now answered
  | .written pair => { run with pair }

end LoopRun

/-- A loop with fresh counters, on a run that has just been started and a workflow in any state. The
messages that it begins with may fail to be built. -/
def agentLoop (config : LoopConfig) (startedAt : Timestamp) (messages : Option (List AgentMessage))
    (pair : LockedPair) : Machine LoopRun LoopEvent where
  init :=
    { startedAt
      remaining := config.budget.maxIterations
      state := { messages := messages.getD [] }
      row := {}
      pair
      point := if messages.isSome then .iteration else .raised .validationError }
  step := LoopRun.step config

end CyberLegends.Agents
