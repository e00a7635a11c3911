import CyberLegends.Actions.Policy
import CyberLegends.Lib.Latest
import CyberLegends.Lib.Table
import CyberLegends.Media.Keys
import Mathlib.Data.Prod.Lex
import Mathlib.Data.String.Basic

/-! The timelines of workflows and campaigns: every row that belongs to a workflow is one event, and a
timeline shows the latest of them. -/

namespace CyberLegends.Operations.Timelines

open CyberLegends.Core Lib Actions Media

/-! ### Rows -/

structure CampaignModel where
  status : String
  createdAt : Timestamp

structure WorkflowRunModel where
  campaignId : String
  revisionNumber : Nat
  status : String
  currentStep : String
  startedAt : Timestamp

structure AgentRunModel where
  workflowId : UuidBits
  agentName : String
  status : String
  iterationCount : Nat
  llmCallCount : Nat
  toolCallCount : Nat
  startedAt : Timestamp

structure AgentToolCallModel where
  agentRunId : UuidBits
  toolName : String
  status : String
  startedAt : Timestamp

structure AgentActionRequestModel where
  workflowId : UuidBits
  actionName : String
  status : String
  policyDecision : String
  requestedAt : Timestamp

structure AgentActionExecutionModel where
  actionRequestId : UuidBits
  status : String
  resultSummary : Option String
  errorMessage : Option String
  startedAt : Option Timestamp
  createdAt : Timestamp

structure AgentMemoryEntryModel where
  workflowId : UuidBits
  eventType : String
  summary : String
  createdAt : Timestamp

structure BackgroundJobModel where
  jobType : String
  status : String
  /-- The text under `workflow_id` in the payload. -/
  payloadWorkflowId : Option String
  correlationId : String
  createdAt : Timestamp

structure OutboxEventModel where
  eventType : String
  aggregateType : String
  aggregateId : String
  status : String
  correlationId : String
  createdAt : Timestamp

structure Tables where
  campaigns : Table String CampaignModel := ∅
  workflows : Table UuidBits WorkflowRunModel := ∅
  agentRuns : Table UuidBits AgentRunModel := ∅
  toolCalls : Table UuidBits AgentToolCallModel := ∅
  requests : Table UuidBits AgentActionRequestModel := ∅
  executions : Table UuidBits AgentActionExecutionModel := ∅
  memories : Table UuidBits AgentMemoryEntryModel := ∅
  jobs : Table UuidBits BackgroundJobModel := ∅
  outbox : Table UuidBits OutboxEventModel := ∅

/-! ### Events -/

structure TimelineEvent where
  occurredAt : Timestamp
  eventType : String
  resourceType : String
  resourceId : String
  status : Option String := none
  summary : String
  correlationId : Option String := none
  metadata : List (String × Json) := []

def lowered (status : String) : String := String.ofList (lower status)

/-- The event of a workflow in its own timeline. -/
def workflowCreated (id : UuidBits) (workflow : WorkflowRunModel) : TimelineEvent where
  occurredAt := workflow.startedAt
  eventType := "WORKFLOW_CREATED"
  resourceType := "workflow"
  resourceId := uuidText id
  status := some workflow.status
  summary := "Workflow entered " ++ workflow.status
  metadata := [("step", .string workflow.currentStep), ("revision", .int workflow.revisionNumber)]

def campaignCreated (id : String) (campaign : CampaignModel) : TimelineEvent where
  occurredAt := campaign.createdAt
  eventType := "CAMPAIGN_CREATED"
  resourceType := "campaign"
  resourceId := id
  status := some campaign.status
  summary := "Campaign entered " ++ campaign.status

/-- The event of a workflow in the timeline of its campaign. -/
def revisionCreated (id : UuidBits) (workflow : WorkflowRunModel) : TimelineEvent where
  occurredAt := workflow.startedAt
  eventType := "WORKFLOW_CREATED"
  resourceType := "workflow"
  resourceId := uuidText id
  status := some workflow.status
  summary := "Workflow revision " ++ toString workflow.revisionNumber ++ " entered " ++ workflow.status

def agentRunEvent (id : UuidBits) (run : AgentRunModel) : TimelineEvent where
  occurredAt := run.startedAt
  eventType := "AGENT_RUN"
  resourceType := "agent_run"
  resourceId := uuidText id
  status := some run.status
  summary := run.agentName ++ " run " ++ lowered run.status
  metadata := [("iterations", .int run.iterationCount), ("llm_calls", .int run.llmCallCount),
    ("tool_calls", .int run.toolCallCount)]

def toolCallEvent (id : UuidBits) (tool : AgentToolCallModel) : TimelineEvent where
  occurredAt := tool.startedAt
  eventType := "TOOL_CALL"
  resourceType := "tool_call"
  resourceId := uuidText id
  status := some tool.status
  summary := "Tool " ++ tool.toolName ++ " " ++ lowered tool.status

def requestEvent (id : UuidBits) (request : AgentActionRequestModel) : TimelineEvent where
  occurredAt := request.requestedAt
  eventType := "ACTION_REQUEST"
  resourceType := "action_request"
  resourceId := uuidText id
  status := some request.status
  summary := "Action " ++ request.actionName ++ " " ++ lowered request.status
  metadata := [("policy_decision", .string request.policyDecision)]

/-- The text if it is there and not empty. -/
def textOr (text : Option String) (otherwise : String) : String :=
  match text with
  | none => otherwise
  | some text => if text = "" then otherwise else text

def executionEvent (id : UuidBits) (execution : AgentActionExecutionModel) : TimelineEvent where
  occurredAt := execution.startedAt.getD execution.createdAt
  eventType := "ACTION_EXECUTION"
  resourceType := "action_execution"
  resourceId := uuidText id
  status := some execution.status
  summary := textOr execution.resultSummary <| textOr execution.errorMessage <|
    "Action execution " ++ lowered execution.status

def memoryEvent (id : UuidBits) (memory : AgentMemoryEntryModel) : TimelineEvent where
  occurredAt := memory.createdAt
  eventType := "MEMORY_RECORDED"
  resourceType := "memory"
  resourceId := uuidText id
  status := some memory.eventType
  summary := memory.summary

def jobEvent (id : UuidBits) (job : BackgroundJobModel) : TimelineEvent where
  occurredAt := job.createdAt
  eventType := "BACKGROUND_JOB"
  resourceType := "job"
  resourceId := uuidText id
  status := some job.status
  summary := job.jobType ++ " job " ++ lowered job.status
  correlationId := some job.correlationId

def outboxEvent (id : UuidBits) (event : OutboxEventModel) : TimelineEvent where
  occurredAt := event.createdAt
  eventType := event.eventType
  resourceType := "outbox_event"
  resourceId := uuidText id
  status := some event.status
  summary := "Outbox event " ++ lowered event.eventType
  correlationId := some event.correlationId

/-! ### Timelines -/

/-- The key by which a timeline is ordered. -/
def TimelineEvent.key (event : TimelineEvent) : Timestamp ×ₗ String ×ₗ String :=
  toLex (event.occurredAt, toLex (event.eventType, event.resourceId))

/-- How many events a request for `limit` shows at most. -/
def shownAtMost (limit : Int) : Nat := (min (max limit 1) 500).toNat

def orderedEvents (events : List TimelineEvent) (limit : Int) : List TimelineEvent :=
  latest TimelineEvent.key (shownAtMost limit) events

/-- The rows that satisfy a condition, in the order in which the database returns them. -/
def scalars {ρ : Type} (table : Table UuidBits ρ) (p : ρ → Bool) : List (UuidBits × ρ) :=
  (table.entries.filter fun entry => p entry.2).map fun entry => (entry.1, entry.2)

/-- One event for each row. -/
def events {ρ : Type} (event : UuidBits → ρ → TimelineEvent) (rows : List (UuidBits × ρ)) :
    List TimelineEvent :=
  rows.map fun row => event row.1 row.2

inductive TimelineError
  | campaignNotFound (message : String)
  | workflowNotFound (message : String)
  deriving DecidableEq, Repr

namespace Tables

variable (t : Tables)

-- No run and no request means no tool call and no execution either, which the source does not ask for.
def workflowRelated (workflowId : UuidBits) : List TimelineEvent :=
  let runs := scalars t.agentRuns fun run => run.workflowId = workflowId
  let runIds := runs.map Prod.fst
  let tools := scalars t.toolCalls fun tool => tool.agentRunId ∈ runIds
  let requests := scalars t.requests fun request => request.workflowId = workflowId
  let requestIds := requests.map Prod.fst
  let executions := scalars t.executions fun execution => execution.actionRequestId ∈ requestIds
  let memories := scalars t.memories fun memory => memory.workflowId = workflowId
  let jobs := scalars t.jobs fun job => job.payloadWorkflowId = some (uuidText workflowId)
  let outbox := scalars t.outbox fun event =>
    event.aggregateType = "workflow" ∧ event.aggregateId = uuidText workflowId
  events agentRunEvent runs ++ events toolCallEvent tools ++ events requestEvent requests ++
    events executionEvent executions ++ events memoryEvent memories ++ events jobEvent jobs ++
    events outboxEvent outbox

/-- The events of a workflow before they are ordered. -/
def workflowEvents (workflowId : UuidBits) : Except TimelineError (List TimelineEvent) :=
  match t.workflows.lookup workflowId with
  | none => .error (.workflowNotFound "Workflow not found")
  | some workflow => .ok (workflowCreated workflowId workflow :: t.workflowRelated workflowId)

def workflow (workflowId : UuidBits) (limit : Int) : Except TimelineError (List TimelineEvent) :=
  (t.workflowEvents workflowId).map fun events => orderedEvents events limit

/-- The workflows of a campaign in the order in which they were started. -/
def campaignWorkflows (campaignId : String) : List (UuidBits × WorkflowRunModel) :=
  ordered (fun row : UuidBits × WorkflowRunModel => toLex (row.2.startedAt, row.1))
    (scalars t.workflows fun workflow => workflow.campaignId = campaignId)

/-- The events of a campaign before they are ordered. -/
def campaignEvents (campaignId : String) : Except TimelineError (List TimelineEvent) :=
  match t.campaigns.lookup campaignId with
  | none => .error (.campaignNotFound "Campaign not found")
  | some campaign =>
    .ok (campaignCreated campaignId campaign ::
      (t.campaignWorkflows campaignId).flatMap fun row =>
        revisionCreated row.1 row.2 :: t.workflowRelated row.1)

def campaign (campaignId : String) (limit : Int) : Except TimelineError (List TimelineEvent) :=
  (t.campaignEvents campaignId).map fun events => orderedEvents events limit

end Tables

/-! ### Windows -/

/-- What an event is about. -/
def TimelineEvent.resource (event : TimelineEvent) : String × String :=
  (event.resourceType, event.resourceId)

/-- The latest of the events, in their order, and each resource at most once. -/
structure Window (all shown : List TimelineEvent) (limit : Int) : Prop where
  sorted : shown.Pairwise fun a b => a.key ≤ b.key
  latest : ∃ earlier, (earlier ++ shown).Perm all ∧ ∀ a ∈ earlier, ∀ b ∈ shown, a.key ≤ b.key
  length : shown.length = min (shownAtMost limit) all.length
  once : (shown.map TimelineEvent.resource).Nodup

theorem orderedEvents_window {all : List TimelineEvent}
    (once : (all.map TimelineEvent.resource).Nodup) (limit : Int) :
    Window all (orderedEvents all limit) limit where
  sorted := latest_sorted _ _ _
  latest := latest_split _ _ _
  length := length_latest _ _ _
  once := by
    have ordered := ((ordered_perm TimelineEvent.key all).map TimelineEvent.resource).nodup_iff.mpr once
    exact ordered.sublist ((latest_sublist _ _ _).map _)

theorem mem_scalars {ρ : Type} {table : Table UuidBits ρ} {p : ρ → Bool} {row : UuidBits × ρ} :
    row ∈ scalars table p ↔ table.lookup row.1 = some row.2 ∧ p row.2 = true := by
  unfold scalars
  rw [List.mem_map]
  constructor
  · rintro ⟨entry, kept, rfl⟩
    obtain ⟨there, holds⟩ := List.mem_filter.mp kept
    exact ⟨AList.mem_lookup_iff.mpr there, holds⟩
  · rintro ⟨found, holds⟩
    exact ⟨⟨row.1, row.2⟩, List.mem_filter.mpr ⟨AList.mem_lookup_iff.mp found, holds⟩, rfl⟩

theorem scalars_nodup {ρ : Type} (table : Table UuidBits ρ) (p : ρ → Bool) :
    ((scalars table p).map Prod.fst).Nodup := by
  unfold scalars
  rw [List.map_map]
  exact table.keys_nodup.sublist (List.filter_sublist.map Sigma.fst)

theorem scalars_row {ρ : Type} {table : Table UuidBits ρ} {p q : ρ → Bool} {id : UuidBits}
    (first : id ∈ (scalars table p).map Prod.fst) (second : id ∈ (scalars table q).map Prod.fst) :
    ∃ row, p row = true ∧ q row = true := by
  obtain ⟨⟨_, row⟩, kept, rfl⟩ := List.mem_map.mp first
  obtain ⟨⟨_, row'⟩, kept', same⟩ := List.mem_map.mp second
  obtain ⟨found, holds⟩ := mem_scalars.mp kept
  obtain ⟨found', holds'⟩ := mem_scalars.mp kept'
  dsimp only at same found found' holds holds'
  rw [same, found] at found'
  cases found'
  exact ⟨row, holds, holds'⟩

/-! ### The resources of a workflow -/

inductive Kind
  | agentRun
  | toolCall
  | actionRequest
  | actionExecution
  | memory
  | job
  | outboxEvent
  deriving DecidableEq, Repr

def Kind.resourceType : Kind → String
  | agentRun => "agent_run"
  | toolCall => "tool_call"
  | actionRequest => "action_request"
  | actionExecution => "action_execution"
  | memory => "memory"
  | job => "job"
  | outboxEvent => "outbox_event"

/-- The kinds in the order in which their rows are read. -/
def kinds : List Kind :=
  [.agentRun, .toolCall, .actionRequest, .actionExecution, .memory, .job, .outboxEvent]

theorem resourceType_inj {kind kind' : Kind} (same : kind.resourceType = kind'.resourceType) :
    kind = kind' := by
  revert same
  cases kind <;> cases kind' <;> decide

theorem resourceType_ne (kind : Kind) :
    kind.resourceType ≠ "workflow" ∧ kind.resourceType ≠ "campaign" := by
  cases kind <;> decide

namespace Tables

variable {t : Tables} {workflowId workflowId' : UuidBits}

/-- The rows of each kind that belong to a workflow. -/
def owned (t : Tables) (workflowId : UuidBits) : Kind → List UuidBits
  | .agentRun => (scalars t.agentRuns fun run => run.workflowId = workflowId).map Prod.fst
  | .toolCall =>
    (scalars t.toolCalls fun tool =>
      tool.agentRunId ∈ (scalars t.agentRuns fun run => run.workflowId = workflowId).map
        Prod.fst).map Prod.fst
  | .actionRequest => (scalars t.requests fun request => request.workflowId = workflowId).map Prod.fst
  | .actionExecution =>
    (scalars t.executions fun execution =>
      execution.actionRequestId ∈ (scalars t.requests fun request =>
        request.workflowId = workflowId).map Prod.fst).map Prod.fst
  | .memory => (scalars t.memories fun memory => memory.workflowId = workflowId).map Prod.fst
  | .job =>
    (scalars t.jobs fun job => job.payloadWorkflowId = some (uuidText workflowId)).map Prod.fst
  | .outboxEvent =>
    (scalars t.outbox fun event =>
      event.aggregateType = "workflow" ∧ event.aggregateId = uuidText workflowId).map Prod.fst

theorem owned_nodup (t : Tables) (workflowId : UuidBits) (kind : Kind) :
    (t.owned workflowId kind).Nodup := by
  cases kind <;> exact scalars_nodup _ _

/-- A row belongs to one workflow only. -/
theorem owned_unique {kind : Kind} {id : UuidBits} (first : id ∈ t.owned workflowId kind)
    (second : id ∈ t.owned workflowId' kind) : workflowId = workflowId' := by
  cases kind with
  | agentRun | actionRequest | memory =>
    obtain ⟨row, holds, holds'⟩ := scalars_row first second
    exact (of_decide_eq_true holds).symm.trans (of_decide_eq_true holds')
  | toolCall | actionExecution =>
    obtain ⟨row, holds, holds'⟩ := scalars_row first second
    obtain ⟨owner, holds, holds'⟩ := scalars_row (of_decide_eq_true holds) (of_decide_eq_true holds')
    exact (of_decide_eq_true holds).symm.trans (of_decide_eq_true holds')
  | job =>
    obtain ⟨row, holds, holds'⟩ := scalars_row first second
    have same := (of_decide_eq_true holds).symm.trans (of_decide_eq_true holds')
    exact uuidText_inj (Option.some.inj same)
  | outboxEvent =>
    obtain ⟨row, holds, holds'⟩ := scalars_row first second
    exact uuidText_inj ((of_decide_eq_true holds).2.symm.trans (of_decide_eq_true holds').2)

theorem related_resources (t : Tables) (workflowId : UuidBits) :
    (t.workflowRelated workflowId).map TimelineEvent.resource =
      kinds.flatMap fun kind => (t.owned workflowId kind).map fun id =>
        (kind.resourceType, uuidText id) := by
  simp only [workflowRelated, events, kinds, owned, List.map_append, List.map_map,
    List.flatMap_cons, List.flatMap_nil, List.append_nil, List.append_assoc]
  rfl

theorem mem_related {resource : String × String} :
    resource ∈ (t.workflowRelated workflowId).map TimelineEvent.resource ↔
      ∃ kind, ∃ id ∈ t.owned workflowId kind, (kind.resourceType, uuidText id) = resource := by
  rw [related_resources]
  simp only [List.mem_flatMap, List.mem_map]
  constructor
  · rintro ⟨kind, -, found⟩
    exact ⟨kind, found⟩
  · rintro ⟨kind, found⟩
    exact ⟨kind, by cases kind <;> decide, found⟩

theorem related_nodup (t : Tables) (workflowId : UuidBits) :
    ((t.workflowRelated workflowId).map TimelineEvent.resource).Nodup := by
  rw [related_resources, List.nodup_flatMap]
  constructor
  · intro kind _
    refine (t.owned_nodup workflowId kind).map ?_
    intro id id' same
    exact uuidText_inj (Prod.mk.inj same).2
  · have apart : kinds.Pairwise fun kind kind' => kind ≠ kind' := by decide
    refine apart.imp fun {kind kind'} differ => ?_
    intro resource there there'
    obtain ⟨id, -, rfl⟩ := List.mem_map.mp there
    obtain ⟨id', -, same⟩ := List.mem_map.mp there'
    exact differ (resourceType_inj (Prod.mk.inj same).1.symm)

theorem related_unique {resource : String × String}
    (first : resource ∈ (t.workflowRelated workflowId).map TimelineEvent.resource)
    (second : resource ∈ (t.workflowRelated workflowId').map TimelineEvent.resource) :
    workflowId = workflowId' := by
  obtain ⟨kind, id, owned, rfl⟩ := mem_related.mp first
  obtain ⟨kind', id', owned', same⟩ := mem_related.mp second
  obtain ⟨sameType, sameText⟩ := Prod.mk.inj same
  cases resourceType_inj sameType
  cases uuidText_inj sameText
  exact owned_unique owned owned'

/-- No workflow and no campaign is among what belongs to a workflow. -/
theorem related_ne {resource : String × String}
    (member : resource ∈ (t.workflowRelated workflowId).map TimelineEvent.resource) :
    resource.1 ≠ "workflow" ∧ resource.1 ≠ "campaign" := by
  obtain ⟨kind, id, -, rfl⟩ := mem_related.mp member
  exact resourceType_ne kind

/-! ### The resources of a timeline -/

theorem workflowEvents_once {all : List TimelineEvent} (found : t.workflowEvents workflowId = .ok all) :
    (all.map TimelineEvent.resource).Nodup := by
  unfold workflowEvents at found
  split at found
  · cases found
  · cases found
    rw [List.map_cons, List.nodup_cons]
    exact ⟨fun member => (related_ne member).1 rfl, t.related_nodup workflowId⟩

theorem campaignWorkflows_nodup (t : Tables) (campaignId : String) :
    ((t.campaignWorkflows campaignId).map Prod.fst).Nodup :=
  ((ordered_perm _ _).map Prod.fst).nodup_iff.mpr (scalars_nodup _ _)

theorem campaignEvents_once {campaignId : String} {all : List TimelineEvent}
    (found : t.campaignEvents campaignId = .ok all) : (all.map TimelineEvent.resource).Nodup := by
  unfold campaignEvents at found
  split at found
  · cases found
  · cases found
    have distinct := t.campaignWorkflows_nodup campaignId
    rw [List.map_cons, List.nodup_cons, List.map_flatMap]
    constructor
    · intro member
      obtain ⟨row, -, inside⟩ := List.mem_flatMap.mp member
      rcases List.mem_cons.mp inside with same | related
      · have types : "campaign" = "workflow" := (Prod.mk.inj same).1
        exact absurd types (by decide)
      · exact (related_ne related).2 rfl
    · rw [List.nodup_flatMap]
      constructor
      · intro row _
        rw [List.map_cons, List.nodup_cons]
        exact ⟨fun member => (related_ne member).1 rfl, t.related_nodup row.1⟩
      · refine (List.pairwise_map.mp distinct).imp fun {row row'} differ => ?_
        intro resource there there'
        rcases List.mem_cons.mp there with rfl | related
        · rcases List.mem_cons.mp there' with same | related'
          · exact differ (uuidText_inj (Prod.mk.inj same).2)
          · exact (related_ne related').1 rfl
        · rcases List.mem_cons.mp there' with rfl | related'
          · exact (related_ne related).1 rfl
          · exact differ (related_unique related related')

/-! ### Two timelines -/

/-- The part of a timeline that belongs to a workflow, without the event of the workflow itself. -/
def part (t : Tables) (workflowId : UuidBits) (shown : List TimelineEvent) : List TimelineEvent :=
  shown.filter fun event =>
    event.resource ∈ (t.workflowRelated workflowId).map TimelineEvent.resource

theorem part_related (t : Tables) (workflowId : UuidBits) :
    t.part workflowId (t.workflowRelated workflowId) = t.workflowRelated workflowId := by
  unfold part
  rw [List.filter_eq_self]
  exact fun event member => decide_eq_true (List.mem_map_of_mem member)

theorem part_other (differ : workflowId ≠ workflowId') :
    t.part workflowId (t.workflowRelated workflowId') = [] := by
  unfold part
  rw [List.filter_eq_nil_iff]
  intro event member kept
  exact differ (related_unique (of_decide_eq_true kept) (List.mem_map_of_mem member))

/-- An event of a workflow or a campaign itself is no part. -/
theorem part_cons {event : TimelineEvent} {shown : List TimelineEvent}
    (own : event.resourceType = "workflow" ∨ event.resourceType = "campaign") :
    t.part workflowId (event :: shown) = t.part workflowId shown := by
  unfold part
  rw [List.filter_cons_of_neg]
  intro kept
  have outside := related_ne (of_decide_eq_true kept)
  rcases own with same | same
  · exact outside.1 same
  · exact outside.2 same

theorem part_append (t : Tables) (workflowId : UuidBits) (shown more : List TimelineEvent) :
    t.part workflowId (shown ++ more) = t.part workflowId shown ++ t.part workflowId more :=
  List.filter_append ..

theorem workflowEvents_part {all : List TimelineEvent} (found : t.workflowEvents workflowId = .ok all) :
    t.part workflowId all = t.workflowRelated workflowId := by
  unfold workflowEvents at found
  split at found
  · cases found
  · cases found
    rw [part_cons (Or.inl rfl), part_related]

theorem part_others {rows : List (UuidBits × WorkflowRunModel)}
    (absent : workflowId ∉ rows.map Prod.fst) :
    t.part workflowId (rows.flatMap fun row => revisionCreated row.1 row.2 :: t.workflowRelated row.1) =
      [] := by
  induction rows with
  | nil => rfl
  | cons row rows ih =>
    obtain ⟨differ, others⟩ := not_or.mp (mt List.mem_cons.mpr absent)
    rw [List.flatMap_cons, part_append, part_cons (Or.inl rfl), part_other differ, ih others]
    rfl

/-- Of a workflow of the campaign the timeline of the campaign has the same events. -/
theorem campaignEvents_part {campaignId : String} {all : List TimelineEvent}
    {workflow : WorkflowRunModel} (found : t.campaignEvents campaignId = .ok all)
    (row : t.workflows.lookup workflowId = some workflow) (member : workflow.campaignId = campaignId) :
    t.part workflowId all = t.workflowRelated workflowId := by
  unfold campaignEvents at found
  split at found
  · cases found
  · cases found
    have listed : (workflowId, workflow) ∈ t.campaignWorkflows campaignId :=
      (ordered_perm _ _).mem_iff.mpr (mem_scalars.mpr ⟨row, decide_eq_true member⟩)
    have distinct := t.campaignWorkflows_nodup campaignId
    obtain ⟨before, after, split⟩ := List.append_of_mem listed
    rw [split, List.map_append, List.map_cons, List.nodup_append] at distinct
    obtain ⟨-, later, apart⟩ := distinct
    have absent : workflowId ∉ before.map Prod.fst := fun there =>
      apart workflowId there workflowId List.mem_cons_self rfl
    rw [part_cons (Or.inr rfl), split, List.flatMap_append, List.flatMap_cons, part_append,
      part_append, part_others absent, part_cons (Or.inl rfl), part_related,
      part_others (List.nodup_cons.mp later).1]
    rw [List.nil_append, List.append_nil]

/-- The part of a window is the end of the part of the whole timeline. -/
theorem part_window (t : Tables) (workflowId : UuidBits) (all : List TimelineEvent) (limit : Int) :
    t.part workflowId (orderedEvents all limit) <:+
      ordered TimelineEvent.key (t.part workflowId all) := by
  have whole : t.part workflowId (ordered TimelineEvent.key all) =
      ordered TimelineEvent.key (t.part workflowId all) := filter_ordered _ _ _
  rw [← whole]
  exact (List.drop_suffix _ _).filter _

/-- A timeline shows the latest events in their order, as many as the request admits, and each resource
at most once. The timeline of a campaign and the one of a workflow in it never disagree on what belongs
to the workflow, whatever limits they have: what one of them shows of it is the end of what the other
shows. The event of the workflow itself is no part of that: the two show it with different texts. -/
theorem timeline_laws (t : Tables) :
    (∀ workflowId limit shown, t.workflow workflowId limit = .ok shown →
      ∃ all, t.workflowEvents workflowId = .ok all ∧ Window all shown limit) ∧
    (∀ campaignId limit shown, t.campaign campaignId limit = .ok shown →
      ∃ all, t.campaignEvents campaignId = .ok all ∧ Window all shown limit) ∧
    ∀ campaignId workflowId limit limit' workflow shown shown',
      t.workflows.lookup workflowId = some workflow → workflow.campaignId = campaignId →
      t.campaign campaignId limit = .ok shown → t.workflow workflowId limit' = .ok shown' →
        t.part workflowId shown <:+ t.part workflowId shown' ∨
          t.part workflowId shown' <:+ t.part workflowId shown := by
  refine ⟨?_, ?_, ?_⟩
  · intro workflowId limit shown answered
    obtain ⟨all, found, rfl⟩ := map_eq_ok.mp answered
    exact ⟨all, found, orderedEvents_window (workflowEvents_once found) limit⟩
  · intro campaignId limit shown answered
    obtain ⟨all, found, rfl⟩ := map_eq_ok.mp answered
    exact ⟨all, found, orderedEvents_window (campaignEvents_once found) limit⟩
  · intro campaignId workflowId limit limit' workflow shown shown' row member answered answered'
    obtain ⟨all, found, rfl⟩ := map_eq_ok.mp answered
    obtain ⟨own, found', rfl⟩ := map_eq_ok.mp answered'
    have first := t.part_window workflowId all limit
    have second := t.part_window workflowId own limit'
    rw [campaignEvents_part found row member] at first
    rw [workflowEvents_part found'] at second
    exact List.suffix_or_suffix_of_suffix first second

end Tables

end CyberLegends.Operations.Timelines
