import CyberLegends.Workflow.Pairs

/-! The budget of LLM calls of a workflow. A reservation checks the counter and writes it back while
it holds the row, but what it reads is the row that its session has loaded. -/

namespace CyberLegends.Workflow

open CyberLegends.Core Lib

/-- The committed count of LLM calls of a workflow. -/
def Database.llmCallCount (db : Database) (workflowId : WorkflowId) : Nat :=
  ((db.workflows.lookup workflowId).map (·.llmCallCount)).getD 0

/-- The pair that an event reserves an LLM call on, as its session sees it; nothing when the event
is no reservation on the workflow or the reservation does not return. -/
def WorkflowWorld.reservation (settings : Settings) (w : WorkflowWorld) (workflowId : WorkflowId) :
    WorkflowEvent → Option LockedPair
  | .run id _ => do
    let pending ← (w.session id).pending
    guard (pending.workflowId = workflowId ∧ pending.operation = .recordLlmCall)
    let pair ← (w.session id).lockedPair w.db workflowId pending.campaignId
    guard (pair.recordLlmCall settings).isOk
    return pair
  | _ => none

/-- What an event adds to the number of reservations that have returned. -/
def WorkflowWorld.reserved (settings : Settings) (workflowId : WorkflowId) (w : WorkflowWorld)
    (event : WorkflowEvent) : Nat :=
  if (w.reservation settings workflowId event).isSome then 1 else 0

/-- A reservation reads the committed count. -/
def ReservesFresh (settings : Settings) (workflowId : WorkflowId) (w : WorkflowWorld)
    (event : WorkflowEvent) : Prop :=
  (w.reservation settings workflowId event).all fun pair =>
    pair.workflow.llmCallCount = w.db.llmCallCount workflowId

variable {settings : Settings} {w : WorkflowWorld}

/-! ### What the operations do to the count -/

namespace LockedPair

variable {pair pair' : LockedPair}

theorem recordLlmCall_isOk :
    (pair.recordLlmCall settings).isOk = true ↔
      pair.workflow.llmCallCount < settings.maxLlmCallsPerWorkflow := by
  unfold recordLlmCall
  split
  · simp [Except.toBool]
    omega
  · simp [Except.toBool]
    omega

theorem act_count {guard : ActionExecutionGuard} {effect : ActionEffect}
    (h : pair.act guard effect = .ok pair') :
    pair'.workflow.llmCallCount = pair.workflow.llmCallCount := by
  unfold act at h
  split at h
  · cases effect with
    | validate => cases h; rfl
    | updateMetadata => cases h; rfl
    | transition nextStatus step =>
      simp only at h
      split at h
      · cases h
        rfl
      · cases h
  · cases h

theorem transition_count {nextStatus : CampaignStatus} {step : Option WorkflowStep}
    (h : pair.transition nextStatus step = .ok pair') :
    pair'.workflow.llmCallCount = pair.workflow.llmCallCount := by
  obtain ⟨_, -, result⟩ := bind_eq_ok.mp h
  rw [← pure_eq_ok.mp result]
  rfl

end LockedPair

/-- Only a reservation changes the count of the pair. -/
theorem PairOperation.perform_count {now : Timestamp} {pair pair' : LockedPair}
    {operation : PairOperation} (h : operation.perform settings now pair = some pair')
    (other : operation ≠ .recordLlmCall) :
    pair'.workflow.llmCallCount = pair.workflow.llmCallCount := by
  cases operation with
  | transitionCheckpoint =>
    obtain ⟨-, -, rfl⟩ := LockedPair.transitionCheckpoint_ok.mp (toOption_eq_some.mp h)
    rfl
  | saveAnalysisCheckpoint =>
    obtain ⟨-, rfl⟩ := LockedPair.saveAnalysisCheckpoint_ok (toOption_eq_some.mp h)
    rfl
  | saveContentCheckpoint =>
    obtain ⟨-, rfl⟩ := LockedPair.saveContentCheckpoint_ok (toOption_eq_some.mp h)
    rfl
  | saveReviewDecisionCheckpoint =>
    obtain ⟨-, retries, nextStatus, nextStep, rfl, -⟩ :=
      LockedPair.saveReviewDecisionCheckpoint_ok (toOption_eq_some.mp h)
    rfl
  | persistFailure =>
    obtain ⟨-, rfl⟩ := LockedPair.persistFailure_eq.mp h
    rfl
  | transition => exact LockedPair.transition_count (toOption_eq_some.mp h)
  | recordLlmCall => exact absurd rfl other

/-! ### Commits -/

/-- A commit flushes the count over the committed one. -/
theorem flushPair_count {session : WorkflowSession} {db : Database} {workflowId : WorkflowId}
    {campaignId : CampaignId} {pair pair' : LockedPair}
    (locked : session.lockedPair db workflowId campaignId = some pair) (k : WorkflowId) :
    (db.flushPair workflowId campaignId pair pair').llmCallCount k =
      if k = workflowId then
        Lib.flush pair.workflow.llmCallCount pair'.workflow.llmCallCount (db.llmCallCount k)
      else db.llmCallCount k := by
  obtain ⟨seenWorkflow, seenCampaign⟩ := lockedPair_spec locked
  obtain ⟨workflow, row, -⟩ := Table.getForUpdate_cases seenWorkflow
  obtain ⟨campaign, row', -⟩ := Table.getForUpdate_cases seenCampaign
  unfold Database.flushPair Database.llmCallCount
  rw [row, row']
  by_cases same : k = workflowId
  · subst same
    rw [if_pos rfl, AList.lookup_insert, row]
    rfl
  · rw [if_neg same, AList.lookup_insert_ne same]

/-- A commit that does not change the count of the pair leaves every committed count. -/
theorem finish_count {id : SessionId} {session : WorkflowSession} {workflowId : WorkflowId}
    {campaignId : CampaignId} {pair : LockedPair} {result : Option LockedPair}
    (locked : session.lockedPair w.db workflowId campaignId = some pair)
    (keeps : ∀ pair', result = some pair' →
      pair'.workflow.llmCallCount = pair.workflow.llmCallCount) (k : WorkflowId) :
    (w.finish id session workflowId campaignId pair result).db.llmCallCount k =
      w.db.llmCallCount k := by
  cases result with
  | none => rfl
  | some pair' =>
    refine (flushPair_count locked k).trans ?_
    rw [keeps pair' rfl, flush_same, ite_self]

/-- A commit leaves the counts of the other workflows. -/
theorem finish_other {id : SessionId} {session : WorkflowSession} {workflowId : WorkflowId}
    {campaignId : CampaignId} {pair : LockedPair} {result : Option LockedPair}
    (locked : session.lockedPair w.db workflowId campaignId = some pair) {k : WorkflowId}
    (other : k ≠ workflowId) :
    (w.finish id session workflowId campaignId pair result).db.llmCallCount k =
      w.db.llmCallCount k := by
  cases result with
  | none => rfl
  | some pair' => exact (flushPair_count locked k).trans (if_neg other)

/-- The commit of a reservation writes one more than the count it has read. -/
theorem finish_reserved {id : SessionId} {session : WorkflowSession} {workflowId : WorkflowId}
    {campaignId : CampaignId} {pair : LockedPair}
    (locked : session.lockedPair w.db workflowId campaignId = some pair)
    (room : pair.workflow.llmCallCount < settings.maxLlmCallsPerWorkflow) :
    (w.finish id session workflowId campaignId pair
      (pair.recordLlmCall settings).toOption).db.llmCallCount workflowId =
        pair.workflow.llmCallCount + 1 := by
  have result : (pair.recordLlmCall settings).toOption =
      some { pair with
        workflow := { pair.workflow with llmCallCount := pair.workflow.llmCallCount + 1 } } := by
    unfold LockedPair.recordLlmCall
    rw [if_neg (by omega)]
    rfl
  rw [result]
  refine (flushPair_count locked workflowId).trans ?_
  rw [if_pos rfl, flush_changed (by simp)]

/-! ### Steps -/

/-- The committed count after an event: a reservation writes one more than it has read, and nothing
else changes the count. -/
def CountsReserved (settings : Settings) (workflowId : WorkflowId) (w : WorkflowWorld)
    (event : WorkflowEvent) (w' : WorkflowWorld) : Prop :=
  w'.db.llmCallCount workflowId =
    ((w.reservation settings workflowId event).map
      fun pair => pair.workflow.llmCallCount + 1).getD (w.db.llmCallCount workflowId)

theorem run_count (id : SessionId) (now : Timestamp) (workflowId : WorkflowId) :
    CountsReserved settings workflowId w (.run id now) (w.run settings id now) := by
  unfold CountsReserved
  simp only [WorkflowWorld.run, WorkflowWorld.reservation]
  split
  · rename_i idle
    rw [idle]
    rfl
  rename_i pending held
  rw [held]
  simp only [Option.bind_eq_bind, Option.bind_some]
  by_cases counts : pending.workflowId = workflowId ∧ pending.operation = .recordLlmCall
  · obtain ⟨rfl, operation⟩ := counts
    simp only [operation, and_self, guard, if_true]
    split
    · rename_i absent
      rw [absent]
      rfl
    rename_i pair locked
    rw [locked]
    by_cases room : (pair.recordLlmCall settings).isOk = true
    · have counts := LockedPair.recordLlmCall_isOk.mp room
      simpa [room, PairOperation.perform] using finish_reserved locked counts
    · have refused : (pair.recordLlmCall settings).toOption = none := by
        cases result : pair.recordLlmCall settings with
        | error error => rfl
        | ok pair' => simp [result, Except.toBool] at room
      simp [room, PairOperation.perform, refused]
      rfl
  · simp only [guard, if_neg counts]
    split
    · rfl
    rename_i pair locked
    by_cases same : pending.workflowId = workflowId
    · subst same
      have other : pending.operation ≠ .recordLlmCall := fun reserve => counts ⟨rfl, reserve⟩
      exact finish_count locked (fun pair' result => PairOperation.perform_count result other) _
    · exact finish_other locked fun same' => same same'.symm

theorem decide_count (id : SessionId) (request : ApprovalRequest) (actorId : String)
    (actorRole : UserRole) (now : Timestamp) (workflowId : WorkflowId) :
    (w.decide id request actorId actorRole now).db.llmCallCount workflowId =
      w.db.llmCallCount workflowId := by
  simp only [WorkflowWorld.decide]
  split
  · split
    · rfl
    · rename_i pair locked
      split
      · rfl
      · rename_i decided record result
        refine finish_count locked ?_ workflowId
        rintro _ ⟨⟩
        obtain ⟨-, -, -, rfl⟩ := LockedPair.decide_ok result
        rfl
  · rfl

theorem act_count (id : SessionId) (guard : ActionExecutionGuard) (effect : ActionEffect)
    (workflowId : WorkflowId) :
    (w.act id guard effect).db.llmCallCount workflowId = w.db.llmCallCount workflowId := by
  unfold WorkflowWorld.act
  split
  · rfl
  · rename_i pair locked
    exact finish_count locked
      (fun pair' result => LockedPair.act_count (toOption_eq_some.mp result)) workflowId

theorem step_count (w : WorkflowWorld) (event : WorkflowEvent) (workflowId : WorkflowId) :
    CountsReserved settings workflowId w event (w.step settings event) := by
  cases event with
  | loadWorkflow | loadCampaign | forgetCampaign | rollback => rfl
  | forgetWorkflow id workflowId' =>
    show (w.forgetWorkflow id workflowId').db.llmCallCount workflowId = _
    simp only [WorkflowWorld.forgetWorkflow]
    split <;> rfl
  | start id workflowId' operation =>
    show (w.start id workflowId' operation).db.llmCallCount workflowId = _
    rw [start_db]
    rfl
  | run id now => exact run_count id now workflowId
  | decide id request actorId actorRole now =>
    exact decide_count id request actorId actorRole now workflowId
  | act id guard effect => exact act_count id guard effect workflowId

/-- A reservation that returns has read a count below the limit. -/
theorem reservation_room {event : WorkflowEvent} {workflowId : WorkflowId} {pair : LockedPair}
    (reserves : w.reservation settings workflowId event = some pair) :
    pair.workflow.llmCallCount < settings.maxLlmCallsPerWorkflow := by
  cases event with
  | run id now =>
    obtain ⟨pending, -, reserves⟩ := Option.bind_eq_some_iff.mp reserves
    obtain ⟨_, -, reserves⟩ := Option.bind_eq_some_iff.mp reserves
    obtain ⟨pair', -, reserves⟩ := Option.bind_eq_some_iff.mp reserves
    obtain ⟨_, counted, same⟩ := Option.bind_eq_some_iff.mp reserves
    cases same
    refine LockedPair.recordLlmCall_isOk.mp ?_
    by_contra refused
    simp [guard, refused] at counted
  | _ => cases reserves

/-- A step adds what it reserves exactly if the reservation has read the committed count. -/
theorem step_counts_iff (w : WorkflowWorld) (event : WorkflowEvent) (workflowId : WorkflowId) :
    (w.step settings event).db.llmCallCount workflowId =
        w.db.llmCallCount workflowId + w.reserved settings workflowId event ↔
      ReservesFresh settings workflowId w event := by
  rw [show _ = _ from @step_count settings w event workflowId]
  unfold WorkflowWorld.reserved ReservesFresh
  cases w.reservation settings workflowId event with
  | none => simp
  | some pair => simp

/-- A reservation goes through only below the limit, so no event takes the count above it. -/
theorem step_count_le (w : WorkflowWorld) (event : WorkflowEvent) (workflowId : WorkflowId)
    {start : Nat} (bounded : w.db.llmCallCount workflowId ≤
      max settings.maxLlmCallsPerWorkflow start) :
    (w.step settings event).db.llmCallCount workflowId ≤
      max settings.maxLlmCallsPerWorkflow start := by
  rw [show _ = _ from @step_count settings w event workflowId]
  cases reserves : w.reservation settings workflowId event with
  | none => exact bounded
  | some pair =>
    have room := reservation_room reserves
    simp only [Option.map_some, Option.getD_some]
    omega

/-! ### Runs -/

/-- In a run of any sessions on any database, the committed count of a workflow is what it was plus
the number of reservations that have returned, all along the run, exactly if every reservation that
returns has read the committed count. It never exceeds the limit, or what it was at first. -/
theorem llm_calls_counted_iff (settings : Settings) (db : Database) (workflowId : WorkflowId)
    (events : List WorkflowEvent) :
    ((∀ done, done <+: events →
        ((workflowMachine settings db).run (workflowMachine settings db).init
          done).db.llmCallCount workflowId = db.llmCallCount workflowId +
            (workflowMachine settings db).total
              (fun w event => w.reserved settings workflowId event)
              (workflowMachine settings db).init done) ↔
      (workflowMachine settings db).Meets (ReservesFresh settings workflowId)
        (workflowMachine settings db).init events) ∧
    (workflowMachine settings db).Always
      (fun w => w.db.llmCallCount workflowId ≤
        max settings.maxLlmCallsPerWorkflow (db.llmCallCount workflowId))
      (workflowMachine settings db).init events := by
  constructor
  · refine Iff.trans ?_ (Machine.steps_iff_meets
      (R := fun w event w' => w'.db.llmCallCount workflowId =
        w.db.llmCallCount workflowId + w.reserved settings workflowId event)
      fun w event => step_counts_iff w event workflowId)
    exact Machine.counts_iff_steps (M := workflowMachine settings db)
      (f := fun w => w.db.llmCallCount workflowId)
  · refine Machine.always_of_invariant (M := workflowMachine settings db)
      (I := fun w => w.db.llmCallCount workflowId ≤
        max settings.maxLlmCallsPerWorkflow (db.llmCallCount workflowId))
      (fun w event bounded => step_count_le w event workflowId bounded) (fun _ bounded => bounded)
      ?_
    show db.llmCallCount workflowId ≤ _
    omega

/-- Two loops have read their hints before either takes the locks. -/
def overlappingReservations : List WorkflowEvent :=
  [.start 0 1 .recordLlmCall, .start 1 1 .recordLlmCall, .run 0 0, .run 1 1]

/-- Both reservations return and the workflow has one call counted. -/
theorem overlapping_reservations_lost :
    ((workflowMachine {} generatingDatabase).total
        (fun w event => w.reserved {} 1 event)
        (workflowMachine {} generatingDatabase).init overlappingReservations = 2 ∧
      ((workflowMachine {} generatingDatabase).run (workflowMachine {} generatingDatabase).init
        overlappingReservations).db.llmCallCount 1 = 1) ∧
    ¬ ∀ (db : Database) (events : List WorkflowEvent),
      ((workflowMachine {} db).run (workflowMachine {} db).init events).db.llmCallCount 1 =
        db.llmCallCount 1 + (workflowMachine {} db).total
          (fun w event => w.reserved {} 1 event) (workflowMachine {} db).init events := by
  have lost : (workflowMachine {} generatingDatabase).total
        (fun w event => w.reserved {} 1 event)
        (workflowMachine {} generatingDatabase).init overlappingReservations = 2 ∧
      ((workflowMachine {} generatingDatabase).run (workflowMachine {} generatingDatabase).init
        overlappingReservations).db.llmCallCount 1 = 1 := by
    decide +kernel
  refine ⟨lost, fun counted => ?_⟩
  have all := counted generatingDatabase overlappingReservations
  rw [lost.1, lost.2] at all
  exact absurd all (by decide +kernel)

end CyberLegends.Workflow
