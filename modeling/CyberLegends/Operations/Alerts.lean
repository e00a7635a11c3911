import CyberLegends.Actions.Repository
import CyberLegends.Agents.Sanitization
import CyberLegends.Jobs.Queue
import CyberLegends.Media.Keys
import CyberLegends.Outbox.Repository

/-! Operational alerts, and the reconciler that opens them for conditions of the tables and resolves
those whose conditions it no longer finds. -/

namespace CyberLegends.Operations

open CyberLegends.Core Lib Jobs Actions Agents Outbox Media

/-! ### Alerts -/

inductive AlertType
  | workflowFailureRateHigh
  | jobQueueBacklog
  | jobDeadLetter
  | actionExecutionFailure
  | memoryReconciliationBacklog
  | postgresUnavailable
  | migrationHeadMismatch
  | outboxBacklog
  deriving DecidableEq, Repr

inductive AlertStatus
  | opened
  | acknowledged
  | resolved
  deriving DecidableEq, Repr

inductive SecuritySeverity
  | low
  | medium
  | high
  | critical
  deriving DecidableEq, Repr

/-- What an alert is about. -/
structure AlertIdentity where
  alertType : AlertType
  resourceType : String
  resourceId : String
  deriving DecidableEq, Repr

/-- What the key of an alert is the digest of: the identity as it was given, and the hour. -/
structure DeduplicationKey where
  identity : AlertIdentity
  bucket : Nat
  deriving DecidableEq, Repr

/-- The columns that the row under a key is inserted with. -/
def DeduplicationKey.columns (key : DeduplicationKey) : AlertIdentity where
  alertType := key.identity.alertType
  resourceType := sanitizeText 100 key.identity.resourceType
  resourceId := sanitizeText 200 key.identity.resourceId

/-- The other columns of an alert. -/
structure OperationalAlertModel where
  status : AlertStatus := .opened
  severity : SecuritySeverity
  summary : String
  details : Json
  firstSeenAt : Timestamp
  lastSeenAt : Timestamp
  occurrenceCount : Nat := 1
  acknowledgedBy : Option String := none
  acknowledgedAt : Option Timestamp := none
  resolvedBy : Option String := none
  resolvedAt : Option Timestamp := none

abbrev Alerts := Table DeduplicationKey OperationalAlertModel

structure AlertCondition where
  identity : AlertIdentity
  severity : SecuritySeverity
  summary : String
  details : List (String × Json)

/-- The hour of a time. -/
def bucketOf (now : Timestamp) : Nat := now / seconds 3600

namespace Alerts

variable (alerts : Alerts)

/-- An alert that is there already is open again, and as it would be if it were new but for its first
occurrence. -/
def openOrIncrement (key : DeduplicationKey) (severity : SecuritySeverity) (summary : String)
    (details : Json) (now : Timestamp) : Alerts :=
  match alerts.lookup key with
  | none =>
    alerts.insert key { severity, summary, details, firstSeenAt := now, lastSeenAt := now }
  | some row =>
    alerts.insert key
      { severity, summary, details
        firstSeenAt := row.firstSeenAt
        lastSeenAt := now
        occurrenceCount := row.occurrenceCount + 1 }

/-- The opening of the alert of a condition. -/
def openAlert (condition : AlertCondition) (now : Timestamp) : Alerts :=
  alerts.openOrIncrement ⟨condition.identity, bucketOf now⟩ condition.severity
    (sanitizeText 1000 condition.summary) (sanitizeJson 2000 (.dict condition.details)) now

/-- The alerts of the types that are open or acknowledged. -/
def listActiveForTypes (alertTypes : List AlertType) : List DeduplicationKey :=
  (alerts.entries.filter fun entry =>
    entry.1.identity.alertType ∈ alertTypes ∧ entry.2.status ∈ [.opened, .acknowledged]).map Sigma.fst

def resolveRow (actorId : String) (now : Timestamp) (row : OperationalAlertModel) :
    OperationalAlertModel :=
  { row with status := .resolved, resolvedBy := some actorId, resolvedAt := some now }

def resolveCleared (managedTypes : List AlertType) (activeResources : List AlertIdentity)
    (actorId : String) (now : Timestamp) : Alerts :=
  alerts.rewriteEach (resolveRow actorId now) <|
    (alerts.listActiveForTypes managedTypes).filter fun key => key.columns ∉ activeResources

end Alerts

/-! ### Conditions -/

/-- The tables that the reconciler watches. -/
structure Watched where
  jobs : Table UuidBits BackgroundJobModel := ∅
  executions : Table UuidBits AgentActionExecutionModel := ∅
  outbox : Table UuidBits OutboxEventModel := ∅

structure AlertSettings where
  jobBatchSize : Nat := 10
  outboxReadyBacklogLimit : Nat := 1000

/-- Later times come first, and a missing one before all. -/
def newestFirst : Option Timestamp → Option Timestamp → Bool
  | none, _ => true
  | some _, none => false
  | some a, some b => b ≤ a

/-- The order of rows by the time of their completion, the newest first, and then by identifier. -/
def completedOrder {ρ : Type} (completedAt : ρ → Option Timestamp) (a b : UuidBits × ρ) : Bool :=
  if completedAt a.2 = completedAt b.2 then a.1 ≤ b.1
  else newestFirst (completedAt a.2) (completedAt b.2)

def jobIdentity (jobId : UuidBits) : AlertIdentity := ⟨.jobDeadLetter, "job", uuidText jobId⟩

def executionIdentity (actionExecutionId : UuidBits) : AlertIdentity :=
  ⟨.actionExecutionFailure, "action_execution", uuidText actionExecutionId⟩

def memoryIdentity : AlertIdentity := ⟨.memoryReconciliationBacklog, "system", "memory"⟩

def queueIdentity : AlertIdentity := ⟨.jobQueueBacklog, "system", "job-queue"⟩

def outboxIdentity : AlertIdentity := ⟨.outboxBacklog, "system", "outbox"⟩

def textOrNull : Option String → Json
  | none => .null
  | some text => .string text

namespace Watched

variable (watched : Watched) (settings : AlertSettings) (limit : Nat)

def isDeadLetter (_ : UuidBits) (job : BackgroundJobModel) : Bool := job.status = .deadLetter

def isFailed (_ : UuidBits) (execution : AgentActionExecutionModel) : Bool :=
  execution.status = .failed

def deadJobs : List (UuidBits × BackgroundJobModel) :=
  watched.jobs.page isDeadLetter (completedOrder BackgroundJobModel.completedAt) limit 0

def failedActions : List (UuidBits × AgentActionExecutionModel) :=
  watched.executions.page isFailed (completedOrder AgentActionExecutionModel.completedAt) limit 0

def memoryBacklog : Nat :=
  watched.executions.entries.countP fun entry => entry.2.memory.recordStatus = .failed

def queueBacklog : Nat := watched.jobs.entries.countP fun entry => entry.2.status = .pending

def outboxBacklog : Nat :=
  watched.outbox.entries.countP fun entry => entry.2.status ∈ [.pending, .failed, .deadLetter]

def deadJobCondition (row : UuidBits × BackgroundJobModel) : AlertCondition where
  identity := jobIdentity row.1
  severity := .high
  summary := "Background job reached dead letter"
  details := [("job_type", .string row.2.jobType), ("error_code", textOrNull row.2.errorCode)]

def failedActionCondition (row : UuidBits × AgentActionExecutionModel) : AlertCondition where
  identity := executionIdentity row.1
  severity := .high
  summary := "Controlled action execution failed"
  details := [("error_code", textOrNull row.2.errorCode)]

/-- A condition of the whole system, if it holds. -/
def systemCondition (holds : Bool) (identity : AlertIdentity) (severity : SecuritySeverity)
    (summary : String) (count : Nat) : List AlertCondition :=
  if holds then [⟨identity, severity, summary, [("count", .int count)]⟩] else []

/-- The conditions that the reconciler collects, of dead jobs and failed executions as many as the
limit allows. -/
def conditions : List AlertCondition :=
  (watched.deadJobs limit).map deadJobCondition ++
    (watched.failedActions limit).map failedActionCondition ++
    systemCondition (watched.memoryBacklog ≠ 0) memoryIdentity .medium
      "Action memory reconciliation is pending" watched.memoryBacklog ++
    systemCondition (settings.jobBatchSize * 10 < watched.queueBacklog) queueIdentity .medium
      "Background job queue exceeds its operational threshold" watched.queueBacklog ++
    systemCondition (settings.outboxReadyBacklogLimit < watched.outboxBacklog) outboxIdentity .high
      "Transactional outbox exceeds its operational threshold" watched.outboxBacklog

end Watched

/-! ### Reconciliation -/

def managedTypes : List AlertType :=
  [.jobQueueBacklog, .jobDeadLetter, .actionExecutionFailure, .memoryReconciliationBacklog,
    .outboxBacklog]

def effectiveLimit (limit : Int) : Nat := clamp limit 1 500

/-- The times at which the reconciler opens the alert of an identity, and resolves those that are
cleared. -/
structure Clock where
  openedAt : AlertIdentity → Timestamp
  resolvedAt : Timestamp

def reconcile (settings : AlertSettings) (watched : Watched) (limit : Int) (clock : Clock)
    (alerts : Alerts) : Alerts :=
  let conditions := watched.conditions settings (effectiveLimit limit)
  let opened := conditions.foldl
    (fun alerts condition => alerts.openAlert condition (clock.openedAt condition.identity)) alerts
  opened.resolveCleared managedTypes (conditions.map AlertCondition.identity) "alert-reconciler"
    clock.resolvedAt

/-! ### What reconciliation is for -/

/-- The condition of the identity holds in the tables. -/
inductive Holds (settings : AlertSettings) (watched : Watched) : AlertIdentity → Prop
  | deadJob {jobId : UuidBits} {job : BackgroundJobModel} (row : watched.jobs.lookup jobId = some job)
    (status : job.status = .deadLetter) : Holds settings watched (jobIdentity jobId)
  | failedAction {actionExecutionId : UuidBits} {execution : AgentActionExecutionModel}
    (row : watched.executions.lookup actionExecutionId = some execution)
    (status : execution.status = .failed) :
    Holds settings watched (executionIdentity actionExecutionId)
  | memory (backlog : watched.memoryBacklog ≠ 0) : Holds settings watched memoryIdentity
  | queue (backlog : settings.jobBatchSize * 10 < watched.queueBacklog) :
    Holds settings watched queueIdentity
  | outbox (backlog : settings.outboxReadyBacklogLimit < watched.outboxBacklog) :
    Holds settings watched outboxIdentity

/-- There is an alert under the key, and it is not resolved. -/
def Alerts.Unresolved (alerts : Alerts) (key : DeduplicationKey) : Prop :=
  ∃ row, alerts.lookup key = some row ∧ row.status ≠ .resolved

/-- The unresolved alerts of the managed types match the conditions that hold one to one. -/
structure Bijective (settings : AlertSettings) (watched : Watched) (alerts : Alerts) : Prop where
  exactlyOne : ∀ identity, Holds settings watched identity →
    ∃! key, alerts.Unresolved key ∧ key.columns = identity
  holds : ∀ key, alerts.Unresolved key → key.identity.alertType ∈ managedTypes →
    Holds settings watched key.columns

/-- Some alert of the identity is not resolved. -/
def Alerts.Active (alerts : Alerts) (identity : AlertIdentity) : Prop :=
  ∃ key, alerts.Unresolved key ∧ key.columns = identity

end CyberLegends.Operations
