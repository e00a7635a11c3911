import CyberLegends.Agents.AgentLoop

/-! What a run of the loop of an agent uses of its budgets, and how the counters in its state and in
its row keep together. -/

namespace CyberLegends.Agents

open CyberLegends.Core Lib Actions Workflow

/-! ### What an event begins -/

namespace LoopPoint

def callsLlm : LoopPoint → Nat
  | runAgentTurn => 1
  | _ => 0

def executesTool : LoopPoint → Nat
  | createToolCall .. => 1
  | _ => 0

def proposes : LoopPoint → Nat
  | processActionProposal .. => 1
  | _ => 0

/-- Whether the LLM is called or the loop has returned. -/
def settled : LoopPoint → Bool
  | runAgentTurn | returned _ => true
  | _ => false

end LoopPoint

section

variable (config : LoopConfig) (run : LoopRun)

/-- One for an event that begins a call of the LLM. -/
def callsLlm : LoopEvent → Nat
  | .answered now answer => (run.answer config now answer).point.callsLlm
  | .written _ => 0

/-- One for an event that begins the execution of a tool. -/
def executesTool : LoopEvent → Nat
  | .answered now answer => (run.answer config now answer).point.executesTool
  | .written _ => 0

/-- One for an event that begins to process a proposal. -/
def proposes : LoopEvent → Nat
  | .answered now answer => (run.answer config now answer).point.proposes
  | .written _ => 0

/-- What an event of the loop adds to the committed count of LLM calls of the workflow. -/
def reserves : LoopEvent → Nat
  | .answered now answer =>
    (run.answer config now answer).pair.workflow.llmCallCount - run.pair.workflow.llmCallCount
  | .written _ => 0

end

/-- The counters in the state of the loop are those of the committed row. -/
structure Mirrored (run : LoopRun) : Prop where
  iterations : run.state.iterationCount = run.row.iterationCount
  llmCalls : run.state.llmCallCount = run.row.llmCallCount
  toolCalls : run.state.toolCallCount = run.row.toolCallCount

/-! ### The invariant and what is left -/

namespace LoopRun

variable (config : LoopConfig) (run : LoopRun)

/-- The counters keep together except while a tool is executed, and what is under way was admitted
by the budgets. -/
def Sound : Prop :=
  match run.point with
  | .recordIteration | .reserveWorkflowLlmCall | .recordLlmCall =>
    Mirrored run ∧ run.state.llmCallCount < config.budget.maxLlmCalls
  | .createToolCall _ requests =>
    Mirrored run ∧
      run.state.toolCallCount + 1 + requests.length ≤ config.budget.maxToolCalls
  | .executeTool _ requests =>
    Mirrored { run with state := { run.state with toolCallCount := run.state.toolCallCount + 1 } } ∧
      run.state.toolCallCount + 1 + requests.length ≤ config.budget.maxToolCalls
  | .processActionProposal _ proposals _ =>
    Mirrored run ∧
      run.state.actionProposalCount + 1 + proposals.length ≤ config.budget.maxActionProposals
  | .iteration | .runAgentTurn | .returned _ => Mirrored run
  | .raised _ => True

/-- The LLM calls that are left. -/
def llmCallsLeft : Nat :=
  match run.point with
  | .iteration | .runAgentTurn | .createToolCall .. | .executeTool .. =>
    min run.remaining (config.budget.maxLlmCalls - run.state.llmCallCount)
  | .recordIteration | .reserveWorkflowLlmCall | .recordLlmCall =>
    min run.remaining (config.budget.maxLlmCalls - run.state.llmCallCount - 1) + 1
  | .processActionProposal .. | .returned _ | .raised _ => 0

/-- The tool executions that are left, the one under way counted out. -/
def toolCallsLeft : Nat :=
  match run.point with
  | .createToolCall .. | .executeTool .. =>
    config.budget.maxToolCalls - run.state.toolCallCount - 1
  | .processActionProposal .. | .returned _ | .raised _ => 0
  | _ => config.budget.maxToolCalls - run.state.toolCallCount

/-- The action proposals that are left, the one under way counted out. -/
def actionProposalsLeft : Nat :=
  match run.point with
  | .processActionProposal .. =>
    config.budget.maxActionProposals - run.state.actionProposalCount - 1
  | .returned _ | .raised _ => 0
  | _ => config.budget.maxActionProposals - run.state.actionProposalCount

/-- One for a reservation whose call has not begun. -/
def inHand : Nat :=
  match run.point with
  | .recordLlmCall => 1
  | _ => 0

end LoopRun

/-- A step of the loop uses what it begins. -/
structure Uses (config : LoopConfig) (run run' : LoopRun) : Prop where
  sound : run'.Sound config
  llmCalls : run'.point.callsLlm + run'.llmCallsLeft config ≤ run.llmCallsLeft config
  toolCalls : run'.point.executesTool + run'.toolCallsLeft config ≤ run.toolCallsLeft config
  proposals :
    run'.point.proposes + run'.actionProposalsLeft config ≤ run.actionProposalsLeft config
  reservations : run'.point.callsLlm + run'.inHand ≤
    run'.pair.workflow.llmCallCount - run.pair.workflow.llmCallCount + run.inHand

/-! ### Steps -/

section

variable {config : LoopConfig} {run : LoopRun}

theorem Uses.raises (run' : LoopRun) (error : LoopError) : Uses config run (run'.raises error) :=
  ⟨trivial, Nat.zero_le _, Nat.zero_le _, Nat.zero_le _, Nat.zero_le _⟩

/-- A call that commits raises, or goes on from what it has assigned. -/
theorem Uses.transact {answer : LoopAnswer} {assign : Except LoopError LoopRun}
    {goesOn : LoopRun → LoopRun}
    (goes : ∀ assigned, assign = .ok assigned → Uses config run (goesOn assigned)) :
    Uses config run (run.transact answer assign goesOn) := by
  unfold LoopRun.transact
  split
  · exact .raises _ _
  · exact .raises _ _
  · exact goes _ rfl
  · exact .raises _ _

theorem beginIteration_uses {now : Timestamp} (sound : run.Sound config)
    (point : run.point = .iteration) : Uses config run (run.beginIteration config now) := by
  simp only [LoopRun.Sound, point] at sound
  simp only [LoopRun.beginIteration]
  split
  · exact .raises _ _
  rename_i more
  split
  · exact .raises _ _
  rename_i admitted
  obtain ⟨_, -, admitted⟩ := bind_eq_ok.mp admitted
  obtain ⟨_, -, admitted⟩ := bind_eq_ok.mp admitted
  have room : run.state.llmCallCount < config.budget.maxLlmCalls := by
    split at admitted
    · cases admitted
    · rename_i room
      exact Nat.not_le.mp room
  refine ⟨⟨⟨sound.1, sound.2, sound.3⟩, room⟩, ?_, ?_, ?_, Nat.zero_le _⟩
  · simp only [LoopRun.llmCallsLeft, LoopPoint.callsLlm, point]
    omega
  · simp [LoopRun.toolCallsLeft, LoopPoint.executesTool, point]
  · simp [LoopRun.actionProposalsLeft, LoopPoint.proposes, point]

theorem recordIteration_uses {answer : LoopAnswer} (sound : run.Sound config)
    (point : run.point = .recordIteration) : Uses config run (run.recordIteration answer) := by
  simp only [LoopRun.Sound, point] at sound
  refine .transact fun assigned committed => ?_
  obtain ⟨row, recorded, rfl⟩ := map_eq_ok.mp committed
  obtain ⟨_, -, result⟩ := bind_eq_ok.mp recorded
  obtain rfl := pure_eq_ok.mp result
  have mirrored := sound.1
  refine ⟨⟨⟨?_, mirrored.llmCalls, mirrored.toolCalls⟩, sound.2⟩, ?_, ?_, ?_, Nat.zero_le _⟩
  · show run.state.iterationCount + 1 = run.row.iterationCount + 1
    rw [mirrored.iterations]
  · simp [LoopRun.llmCallsLeft, LoopPoint.callsLlm, point]
  · simp [LoopRun.toolCallsLeft, LoopPoint.executesTool, point]
  · simp [LoopRun.actionProposalsLeft, LoopPoint.proposes, point]

theorem reserveWorkflowLlmCall_uses {answer : LoopAnswer} (sound : run.Sound config)
    (point : run.point = .reserveWorkflowLlmCall) :
    Uses config run (run.reserveWorkflowLlmCall config answer) := by
  simp only [LoopRun.Sound, point] at sound
  refine .transact fun assigned committed => ?_
  have mirrored := sound.1
  split at committed
  · rename_i pair counted
    cases committed
    refine ⟨⟨⟨mirrored.iterations, mirrored.llmCalls, mirrored.toolCalls⟩, sound.2⟩, ?_, ?_, ?_, ?_⟩
    · simp [LoopRun.llmCallsLeft, LoopPoint.callsLlm, point]
    · simp [LoopRun.toolCallsLeft, LoopPoint.executesTool, point]
    · simp [LoopRun.actionProposalsLeft, LoopPoint.proposes, point]
    · unfold LockedPair.recordLlmCall at counted
      split at counted
      · cases counted
      · cases counted
        simp [LoopPoint.callsLlm, LoopRun.inHand, point]
  · cases committed

theorem recordLlmCall_uses {answer : LoopAnswer} (sound : run.Sound config)
    (point : run.point = .recordLlmCall) : Uses config run (run.recordLlmCall answer) := by
  simp only [LoopRun.Sound, point] at sound
  refine .transact fun assigned committed => ?_
  obtain ⟨row, recorded, rfl⟩ := map_eq_ok.mp committed
  obtain ⟨_, -, result⟩ := bind_eq_ok.mp recorded
  obtain rfl := pure_eq_ok.mp result
  obtain ⟨mirrored, room⟩ := sound
  refine ⟨⟨mirrored.iterations, ?_, mirrored.toolCalls⟩, ?_, ?_, ?_, ?_⟩
  · show run.state.llmCallCount + 1 = run.row.llmCallCount + 1
    rw [mirrored.llmCalls]
  · simp only [LoopRun.llmCallsLeft, LoopPoint.callsLlm, point]
    omega
  · simp [LoopRun.toolCallsLeft, LoopPoint.executesTool, point]
  · simp [LoopRun.actionProposalsLeft, LoopPoint.proposes, point]
  · simp [LoopPoint.callsLlm, LoopRun.inHand, point]

theorem beforeToolCalls_admits {tracker : BudgetTracker} {now : Timestamp} {current requested : Nat}
    (admitted : tracker.beforeToolCalls now current requested = .ok ()) :
    current + requested ≤ tracker.budget.maxToolCalls := by
  unfold BudgetTracker.beforeToolCalls at admitted
  obtain ⟨_, -, admitted⟩ := bind_eq_ok.mp admitted
  split at admitted
  · cases admitted
  · omega

theorem beforeActionProposals_admits {tracker : BudgetTracker} {now : Timestamp}
    {current requested : Nat}
    (admitted : tracker.beforeActionProposals now current requested = .ok ()) :
    current + requested ≤ tracker.budget.maxActionProposals := by
  unfold BudgetTracker.beforeActionProposals at admitted
  obtain ⟨_, -, admitted⟩ := bind_eq_ok.mp admitted
  split at admitted
  · cases admitted
  · omega

/-- The next tool is one that the budget has admitted with the others of its turn. -/
theorem nextTool_uses {run' : LoopRun} {requests : List AgentToolRequest} (mirrored : Mirrored run')
    (admitted : run'.state.toolCallCount + requests.length ≤ config.budget.maxToolCalls)
    (llmCalls : min run'.remaining (config.budget.maxLlmCalls - run'.state.llmCallCount) ≤
      run.llmCallsLeft config)
    (toolCalls : config.budget.maxToolCalls - run'.state.toolCallCount ≤ run.toolCallsLeft config)
    (proposals : config.budget.maxActionProposals - run'.state.actionProposalCount ≤
      run.actionProposalsLeft config) : Uses config run (run'.nextTool requests) := by
  cases requests with
  | nil =>
    refine ⟨⟨mirrored.1, mirrored.2, mirrored.3⟩, ?_, ?_, ?_, Nat.zero_le _⟩
    · simpa [LoopRun.nextTool, LoopPoint.callsLlm, LoopRun.llmCallsLeft] using llmCalls
    · simpa [LoopRun.nextTool, LoopPoint.executesTool, LoopRun.toolCallsLeft] using toolCalls
    · simpa [LoopRun.nextTool, LoopPoint.proposes, LoopRun.actionProposalsLeft] using proposals
  | cons request requests =>
    rw [List.length_cons] at admitted
    refine ⟨⟨⟨mirrored.1, mirrored.2, mirrored.3⟩, ?_⟩, ?_, ?_, ?_, Nat.zero_le _⟩
    · show run'.state.toolCallCount + 1 + requests.length ≤ _
      omega
    · simpa [LoopRun.nextTool, LoopPoint.callsLlm, LoopRun.llmCallsLeft] using llmCalls
    · simp only [LoopRun.nextTool, LoopPoint.executesTool, LoopRun.toolCallsLeft]
      simp only [LoopRun.toolCallsLeft] at toolCalls
      omega
    · simpa [LoopRun.nextTool, LoopPoint.proposes, LoopRun.actionProposalsLeft] using proposals

/-- The next proposal is one that the budget has admitted with the others of its turn. -/
theorem nextProposal_uses {run' : LoopRun} {output : Json} {proposals : List AgentActionProposal}
    (mirrored : Mirrored run')
    (admitted : run'.state.actionProposalCount + proposals.length ≤
      config.budget.maxActionProposals)
    (left : config.budget.maxActionProposals - run'.state.actionProposalCount ≤
      run.actionProposalsLeft config) :
    Uses config run (run'.nextProposal config output proposals) := by
  cases proposals with
  | nil =>
    exact ⟨⟨mirrored.1, mirrored.2, mirrored.3⟩, Nat.zero_le _, Nat.zero_le _, Nat.zero_le _,
      Nat.zero_le _⟩
  | cons proposal proposals =>
    rw [List.length_cons] at admitted
    by_cases processes : config.processesProposals = true
    · simp only [LoopRun.nextProposal, processes, if_true]
      refine ⟨⟨⟨mirrored.1, mirrored.2, mirrored.3⟩, ?_⟩, Nat.zero_le _, Nat.zero_le _, ?_,
        Nat.zero_le _⟩
      · show run'.state.actionProposalCount + 1 + proposals.length ≤ _
        omega
      · show 1 + (config.budget.maxActionProposals - run'.state.actionProposalCount - 1) ≤ _
        omega
    · simp only [LoopRun.nextProposal, processes, Bool.false_eq_true, if_false]
      exact .raises _ _

/-- What is checked first raises, or goes on because it is admitted. -/
theorem Uses.checked {check : Except LoopError Unit} {run' goesOn : LoopRun} :
    (check = .ok () → Uses config run goesOn) →
      Uses config run
        (match check with
          | .error error => run'.raises error
          | .ok () => goesOn) := by
  intro admitted
  cases check with
  | error error => exact .raises _ _
  | ok => exact admitted rfl

/-- An output that is validated first raises, or goes on with what is valid. -/
theorem Uses.validated {result : Option Json} {run' : LoopRun} {error : LoopError}
    {goesOn : Json → LoopRun} (valid : ∀ output, Uses config run (goesOn output)) :
    Uses config run
      (match result with
        | none => run'.raises error
        | some output => goesOn output) := by
  cases result with
  | none => exact .raises _ _
  | some output => exact valid output

theorem finish_uses {now : Timestamp} {turn : AgentTurn} {finalOutput : Json}
    (mirrored : Mirrored run) (point : run.point = .runAgentTurn) :
    Uses config run (run.finish config now turn finalOutput) := by
  rw [LoopRun.finish]
  refine .validated fun output => .checked fun admitted => ?_
  refine nextProposal_uses ⟨mirrored.1, mirrored.2, mirrored.3⟩
    (beforeActionProposals_admits admitted) ?_
  simp [LoopRun.actionProposalsLeft, point]

theorem callTools_uses {now : Timestamp} {turn : AgentTurn} (mirrored : Mirrored run)
    (point : run.point = .runAgentTurn) : Uses config run (run.callTools config now turn) := by
  -- unfolded as a function, since unfolding the call would compute the timeout in unary
  generalize body : @LoopRun.callTools = callTools
  delta LoopRun.callTools at body
  subst body
  refine .checked fun admitted => ?_
  cases AgentMessage.validate .assistant (turn.assistantText.getD "") none none turn.toolCalls with
  | none => exact .raises _ _
  | some message =>
    refine nextTool_uses ⟨mirrored.1, mirrored.2, mirrored.3⟩ (beforeToolCalls_admits admitted)
      ?_ ?_ ?_
    · simp [LoopRun.llmCallsLeft, point]
    · simp [LoopRun.toolCallsLeft, point]
    · simp [LoopRun.actionProposalsLeft, point]

theorem runAgentTurn_uses {now : Timestamp} {answer : LoopAnswer} (sound : run.Sound config)
    (point : run.point = .runAgentTurn) : Uses config run (run.runAgentTurn config now answer) := by
  have mirrored : Mirrored run := by
    simpa only [LoopRun.Sound, point] using sound
  generalize body : @LoopRun.runAgentTurn = runAgentTurn
  delta LoopRun.runAgentTurn at body
  subst body
  beta_reduce
  obtain ⟨check, checked⟩ : ∃ check, check = (run.tracker config).checkTimeout now := ⟨_, rfl⟩
  rw [← checked]
  cases answer with
  | turn turn =>
    refine .checked fun _ => ?_
    cases turn.finalOutput with
    | some finalOutput => exact finish_uses mirrored point
    | none => exact callTools_uses mirrored point
  | completes | result | raises => exact .raises _ _

theorem createToolCall_uses {answer : LoopAnswer} {request : AgentToolRequest}
    {requests : List AgentToolRequest} (sound : run.Sound config)
    (point : run.point = .createToolCall request requests) :
    Uses config run (run.createToolCall request requests answer) := by
  simp only [LoopRun.Sound, point] at sound
  refine .transact fun assigned committed => ?_
  obtain ⟨row, recorded, rfl⟩ := map_eq_ok.mp committed
  obtain ⟨_, -, result⟩ := bind_eq_ok.mp recorded
  obtain rfl := pure_eq_ok.mp result
  obtain ⟨mirrored, admitted⟩ := sound
  refine ⟨⟨⟨mirrored.iterations, mirrored.llmCalls, ?_⟩, admitted⟩, ?_, ?_, ?_, Nat.zero_le _⟩
  · show run.state.toolCallCount + 1 = run.row.toolCallCount + 1
    rw [mirrored.toolCalls]
  · simp [LoopRun.llmCallsLeft, LoopPoint.callsLlm, point]
  · simp [LoopRun.toolCallsLeft, LoopPoint.executesTool, point]
  · simp [LoopRun.actionProposalsLeft, LoopPoint.proposes, point]

theorem executeTool_uses {answer : LoopAnswer} {request : AgentToolRequest}
    {requests : List AgentToolRequest} (sound : run.Sound config)
    (point : run.point = .executeTool request requests) :
    Uses config run (run.executeTool config request requests answer) := by
  simp only [LoopRun.Sound, point] at sound
  obtain ⟨mirrored, admitted⟩ := sound
  cases answer with
  | result value =>
    simp only [LoopRun.executeTool]
    split
    · exact .raises _ _
    refine nextTool_uses ⟨mirrored.1, mirrored.2, mirrored.3⟩ ?_ ?_ ?_ ?_
    · show run.state.toolCallCount + 1 + requests.length ≤ _
      exact admitted
    · simp [LoopRun.llmCallsLeft, point]
    · show config.budget.maxToolCalls - (run.state.toolCallCount + 1) ≤ _
      simp only [LoopRun.toolCallsLeft, point]
      omega
    · simp [LoopRun.actionProposalsLeft, point]
  | completes | turn | raises => exact .raises _ _

theorem processActionProposal_uses {answer : LoopAnswer} {proposal : AgentActionProposal}
    {proposals : List AgentActionProposal} {output : Json} (sound : run.Sound config)
    (point : run.point = .processActionProposal proposal proposals output) :
    Uses config run (run.processActionProposal config proposals output answer) := by
  simp only [LoopRun.Sound, point] at sound
  obtain ⟨mirrored, admitted⟩ := sound
  unfold LoopRun.processActionProposal
  split
  · exact .raises _ _
  · refine nextProposal_uses ⟨mirrored.1, mirrored.2, mirrored.3⟩ ?_ ?_
    · show run.state.actionProposalCount + 1 + proposals.length ≤ _
      exact admitted
    · show config.budget.maxActionProposals - (run.state.actionProposalCount + 1) ≤ _
      simp only [LoopRun.actionProposalsLeft, point]
      omega

/-- Every call that the loop waits for uses what it begins. -/
theorem answer_uses {now : Timestamp} {answer : LoopAnswer} (sound : run.Sound config) :
    Uses config run (run.answer config now answer) := by
  cases point : run.point with
  | iteration =>
    simpa only [LoopRun.answer, point] using beginIteration_uses sound point
  | recordIteration =>
    simpa only [LoopRun.answer, point] using recordIteration_uses sound point
  | reserveWorkflowLlmCall =>
    simpa only [LoopRun.answer, point] using reserveWorkflowLlmCall_uses sound point
  | recordLlmCall =>
    simpa only [LoopRun.answer, point] using recordLlmCall_uses sound point
  | runAgentTurn =>
    simpa only [LoopRun.answer, point] using runAgentTurn_uses sound point
  | createToolCall =>
    simpa only [LoopRun.answer, point] using createToolCall_uses sound point
  | executeTool =>
    simpa only [LoopRun.answer, point] using executeTool_uses sound point
  | processActionProposal =>
    simpa only [LoopRun.answer, point] using processActionProposal_uses sound point
  | returned | raised =>
    simp only [LoopRun.answer, point]
    refine ⟨sound, ?_, ?_, ?_, ?_⟩
    · simp [LoopPoint.callsLlm, point]
    · simp [LoopPoint.executesTool, point]
    · simp [LoopPoint.proposes, point]
    · simp [LoopPoint.callsLlm, point]

end

/-! ### Runs -/

section

variable {config : LoopConfig}

/-- Whoever acts, the invariant is kept. -/
theorem step_sound (run : LoopRun) (event : LoopEvent) (sound : run.Sound config) :
    (run.step config event).Sound config := by
  cases event with
  | answered now answer => exact (answer_uses sound).sound
  | written pair =>
    have counters : ∀ state, Mirrored { run with state } → Mirrored { run with state, pair } :=
      fun state mirrored => ⟨mirrored.1, mirrored.2, mirrored.3⟩
    revert sound
    simp only [LoopRun.step, LoopRun.Sound]
    split
    · exact fun sound => ⟨counters _ sound.1, sound.2⟩
    · exact fun sound => ⟨counters _ sound.1, sound.2⟩
    · exact fun sound => ⟨counters _ sound.1, sound.2⟩
    · exact fun sound => ⟨counters _ sound.1, sound.2⟩
    · exact fun sound => ⟨counters _ sound.1, sound.2⟩
    · exact fun sound => ⟨counters _ sound.1, sound.2⟩
    · exact fun sound => counters _ sound
    · exact fun sound => counters _ sound
    · exact fun sound => counters _ sound
    · exact id

/-- A run of the loop of an agent, whatever the LLM, the tools, the database and the other writers
of the workflow do: the calls of the LLM, the executions of tools and the proposals stay within the
budget; each call of the LLM has its own reservation, committed before it; and at each call of the
LLM and once the loop has returned, the counters in its state are those of the row. -/
theorem loop_within_budgets (config : LoopConfig) (startedAt : Timestamp)
    (messages : Option (List AgentMessage)) (pair : LockedPair) (events : List LoopEvent) :
    (agentLoop config startedAt messages pair).total (callsLlm config)
        (agentLoop config startedAt messages pair).init events ≤
      min config.budget.maxIterations config.budget.maxLlmCalls ∧
    (agentLoop config startedAt messages pair).total (executesTool config)
        (agentLoop config startedAt messages pair).init events ≤ config.budget.maxToolCalls ∧
    (agentLoop config startedAt messages pair).total (proposes config)
        (agentLoop config startedAt messages pair).init events ≤
      config.budget.maxActionProposals ∧
    (agentLoop config startedAt messages pair).total (callsLlm config)
        (agentLoop config startedAt messages pair).init events ≤
      (agentLoop config startedAt messages pair).total (reserves config)
        (agentLoop config startedAt messages pair).init events ∧
    (agentLoop config startedAt messages pair).Always
      (fun run => run.point.settled = true → Mirrored run)
      (agentLoop config startedAt messages pair).init events := by
  have keep : ∀ (run : LoopRun) (event : LoopEvent), run.Sound config →
      ((agentLoop config startedAt messages pair).step run event).Sound config := step_sound
  have init : (agentLoop config startedAt messages pair).init.Sound config ∧
      (agentLoop config startedAt messages pair).init.inHand = 0 ∧
      (agentLoop config startedAt messages pair).init.llmCallsLeft config ≤
        min config.budget.maxIterations config.budget.maxLlmCalls ∧
      (agentLoop config startedAt messages pair).init.toolCallsLeft config ≤
        config.budget.maxToolCalls ∧
      (agentLoop config startedAt messages pair).init.actionProposalsLeft config ≤
        config.budget.maxActionProposals := by
    cases messages with
    | none => exact ⟨trivial, rfl, Nat.zero_le _, Nat.zero_le _, Nat.zero_le _⟩
    | some messages =>
      exact ⟨⟨rfl, rfl, rfl⟩, rfl, Nat.le_refl _, Nat.le_refl _, Nat.le_refl _⟩
  obtain ⟨sound, empty, llmCalls, toolCalls, proposals⟩ := init
  refine ⟨?_, ?_, ?_, ?_, ?_⟩
  · refine (Machine.total_le keep (fun run event sound => ?_) sound events).trans llmCalls
    cases event with
    | answered now answer => exact (answer_uses sound).llmCalls
    | written pair => exact Nat.le_of_eq (Nat.zero_add _)
  · refine (Machine.total_le keep (fun run event sound => ?_) sound events).trans toolCalls
    cases event with
    | answered now answer => exact (answer_uses sound).toolCalls
    | written pair => exact Nat.le_of_eq (Nat.zero_add _)
  · refine (Machine.total_le keep (fun run event sound => ?_) sound events).trans proposals
    cases event with
    | answered now answer => exact (answer_uses sound).proposals
    | written pair => exact Nat.le_of_eq (Nat.zero_add _)
  · have pays : ∀ (run : LoopRun) (event : LoopEvent), run.Sound config →
        callsLlm config run event +
            ((agentLoop config startedAt messages pair).step run event).inHand ≤
          reserves config run event + run.inHand := by
      intro run event sound
      cases event with
      | answered now answer => exact (answer_uses sound).reservations
      | written pair => exact Nat.le_refl _
    have paid := Machine.total_add_le keep pays sound events
    omega
  · refine Machine.always_of_invariant keep (fun run sound settled => ?_) sound
    cases point : run.point with
    | runAgentTurn => simpa only [LoopRun.Sound, point] using sound
    | returned => simpa only [LoopRun.Sound, point] using sound
    | _ =>
      rw [point] at settled
      cases settled

end

end CyberLegends.Agents
