import CyberLegends.Jobs.Model

/-! The rows of the transactional outbox and the repository's operations on them. -/

namespace CyberLegends.Outbox

open CyberLegends.Core Lib

/-- A row of the outbox. Of the payload only the evaluation run that it names is read. -/
structure OutboxEventModel where
  eventType : String
  evaluationRunId : Option Uuid := none
  status : OutboxStatus := .pending
  attemptCount : Nat := 0
  maxAttempts : Nat
  availableAt : Timestamp
  lockedBy : Option String := none
  lockedAt : Option Timestamp := none
  leaseExpiresAt : Option Timestamp := none
  lastHeartbeatAt : Option Timestamp := none
  leaseVersion : Nat := 0
  processedAt : Option Timestamp := none
  idempotencyKey : String
  errorCode : Option String := none
  errorMessage : Option String := none
  createdAt : Timestamp
  deriving DecidableEq, Repr

abbrev OutboxStore := Table Uuid OutboxEventModel

/-! ### Operations on one row -/

namespace OutboxEventModel

variable (event : OutboxEventModel)

def lease (workerId : String) (leaseSeconds : Nat) (now : Timestamp) : OutboxEventModel :=
  { event with
    status := .processing
    lockedBy := some workerId
    lockedAt := some now
    lastHeartbeatAt := some now
    leaseExpiresAt := some (now + seconds leaseSeconds)
    leaseVersion := event.leaseVersion + 1
    attemptCount := event.attemptCount + 1 }

/-- Whether the row is leased to the worker under the version, and the lease still runs. -/
def leaseCondition (workerId : String) (leaseVersion : Nat) (now : Timestamp) : Bool :=
  event.status = .processing ∧ event.lockedBy = some workerId ∧
    event.leaseVersion = leaseVersion ∧ event.leaseExpiresAt.any fun expiry => now < expiry

def clearLease : OutboxEventModel :=
  { event with
    lockedBy := none, lockedAt := none, leaseExpiresAt := none, lastHeartbeatAt := none }

def renewLease (leaseSeconds : Nat) (now : Timestamp) : OutboxEventModel :=
  { event with
    lastHeartbeatAt := some now, leaseExpiresAt := some (now + seconds leaseSeconds) }

def markProcessed (now : Timestamp) : OutboxEventModel :=
  clearLease { event with
    status := .processed, processedAt := some now, errorCode := none, errorMessage := none }

/-- A failed consumption; the counts are those that the caller has read with its lease. -/
def markFailed (attemptCount maxAttempts : Nat) (errorCode errorMessage : String)
    (retryBaseSeconds retryMaxSeconds : Nat) (now : Timestamp) : OutboxEventModel :=
  clearLease { event with
    status := if attemptCount ≥ maxAttempts then .deadLetter else .failed
    availableAt :=
      now + seconds (Jobs.retryDelaySeconds attemptCount retryBaseSeconds retryMaxSeconds)
    errorCode := some errorCode
    errorMessage := some errorMessage }

/-- A row whose lease has run out, `later` being the clock when it is rewritten. -/
def expire (later : Timestamp) : OutboxEventModel :=
  clearLease { event with
    status := if event.attemptCount ≥ event.maxAttempts then .deadLetter else .failed
    availableAt := later
    errorCode := some "OUTBOX_LEASE_EXPIRED"
    errorMessage := some "Outbox consumer lease expired" }

def leasable (now : Timestamp) : Bool :=
  (event.status = .pending ∨ event.status = .failed) ∧ event.availableAt ≤ now

def stale (now : Timestamp) : Bool :=
  event.status = .processing ∧ event.leaseExpiresAt.any fun expiry => expiry ≤ now

end OutboxEventModel

/-! ### Operations on the store -/

/-- An update on behalf of a lease. -/
inductive LeaseUpdate
  | renewLease (leaseSeconds : Nat)
  | markProcessed
  | markFailed (attemptCount maxAttempts : Nat) (errorCode errorMessage : String)
      (retryBaseSeconds retryMaxSeconds : Nat)
  deriving DecidableEq, Repr

/-- What the update sets. -/
def LeaseUpdate.values (now : Timestamp) (event : OutboxEventModel) :
    LeaseUpdate → OutboxEventModel
  | renewLease leaseSeconds => event.renewLease leaseSeconds now
  | markProcessed => event.markProcessed now
  | markFailed attemptCount maxAttempts errorCode errorMessage retryBaseSeconds retryMaxSeconds =>
    event.markFailed attemptCount maxAttempts errorCode errorMessage retryBaseSeconds
      retryMaxSeconds now

/-- A call on behalf of a lease: the event, and the worker and version that the lease was given
under. -/
structure LeaseCall where
  eventId : Uuid
  workerId : String
  leaseVersion : Nat
  update : LeaseUpdate
  deriving DecidableEq, Repr

namespace OutboxStore

def findByKey (store : OutboxStore) (idempotencyKey : String) : Option Uuid :=
  (store.entries.find? fun entry => entry.2.idempotencyKey = idempotencyKey).map Sigma.fst

/-- Inserts an event under a fresh identifier unless its idempotency key is taken. -/
def addEvent (settings : Settings) (store : OutboxStore) (eventId : Uuid)
    (eventType : OutboxEventType) (evaluationRunId : Option Uuid) (idempotencyKey : String)
    (now : Timestamp) : OutboxStore :=
  if eventId ∈ store ∨ (findByKey store idempotencyKey).isSome then store
  else
    store.insert eventId
      { eventType := eventType.value
        evaluationRunId
        maxAttempts := settings.outboxMaxAttempts
        availableAt := now
        idempotencyKey
        createdAt := now }

def leaseOrder (a b : Uuid × OutboxEventModel) : Bool :=
  if a.2.availableAt ≠ b.2.availableAt then a.2.availableAt < b.2.availableAt
  else a.2.createdAt ≤ b.2.createdAt

/-- The rows that a lease takes, `locked` being the rows that other transactions hold. -/
def leaseSelection (store : OutboxStore) (limit : Nat) (locked : Uuid → Bool) (now : Timestamp) :
    List Uuid :=
  Table.select (fun eventId event => event.leasable now && !locked eventId) leaseOrder limit store

def leaseBatch (store : OutboxStore) (workerId : String) (limit leaseSeconds : Nat)
    (locked : Uuid → Bool) (now : Timestamp) : List Uuid × OutboxStore :=
  let events := leaseSelection store limit locked now
  (events, Table.rewriteEach (fun event => event.lease workerId leaseSeconds now) events store)

def classifyLeaseFailure (store : OutboxStore) (eventId : Uuid) : LeaseUpdateResult :=
  match store.lookup eventId with
  | none => .notFound
  | some event => if event.status ≠ .processing then .invalidState else .leaseLost

/-- The conditional update of one row. -/
def updateLeased (store : OutboxStore) (call : LeaseCall) (now : Timestamp) :
    LeaseUpdateResult × OutboxStore :=
  match store.lookup call.eventId with
  | none => (classifyLeaseFailure store call.eventId, store)
  | some event =>
    if event.leaseCondition call.workerId call.leaseVersion now then
      (.updated, store.insert call.eventId (call.update.values now event))
    else (classifyLeaseFailure store call.eventId, store)

def reconcileOrder (a b : Uuid × OutboxEventModel) : Bool :=
  if a.2.lockedAt ≠ b.2.lockedAt then a.2.lockedAt.getD 0 < b.2.lockedAt.getD 0 else a.1 ≤ b.1

def reconcileSelection (store : OutboxStore) (limit : Nat) (locked : Uuid → Bool)
    (now : Timestamp) : List Uuid :=
  Table.select (fun eventId event => event.stale now && !locked eventId) reconcileOrder limit store

def reconcileStale (store : OutboxStore) (limit : Nat) (locked : Uuid → Bool)
    (now later : Timestamp) : OutboxStore :=
  Table.rewriteEach (fun event => event.expire later) (reconcileSelection store limit locked now)
    store

end OutboxStore

end CyberLegends.Outbox
