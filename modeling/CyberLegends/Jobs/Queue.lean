import CyberLegends.Lib.Machine
import CyberLegends.Jobs.Repository

/-! The job queue over the repository, and the job store as a machine whose events are its
operations. -/

namespace CyberLegends.Jobs

open CyberLegends.Core Lib

/-- `value or default`, where zero counts as no value. -/
def orDefault (value : Option Int) (default : Nat) : Int :=
  match value with
  | none => default
  | some n => if n = 0 then default else n

def clamp (value low high : Int) : Nat := (min (max value low) high).toNat

namespace JobStore

variable (settings : Settings)

/-- The row that `enqueue` inserts. -/
def newJob (payload : JobPayload) (priority : Int) (maxAttempts : Nat)
    (availableAt : Option Timestamp) (idempotencyKey : String) (now : Timestamp) :
    BackgroundJobModel where
  jobType := payload.jobType.value
  payload := payload
  priority := clamp priority 0 100
  maxAttempts := maxAttempts
  availableAt := availableAt.getD now
  idempotencyKey := idempotencyKey
  createdAt := now

def findByIdempotencyKey (store : JobStore) (idempotencyKey : String) : Option JobId :=
  (store.entries.find? fun entry => entry.2.idempotencyKey = idempotencyKey).map Sigma.fst

/-- Inserts a job under the fresh identifier `jobId`, unless its idempotency key is taken: then the
job that has the key is returned and nothing is written. -/
def enqueue (store : JobStore) (jobId : JobId) (payload : JobPayload) (priority : Int)
    (maxAttempts : Option Int) (availableAt : Option Timestamp) (idempotencyKey : String)
    (now : Timestamp) : Except JobError (JobId × JobStore) :=
  let maxAttempts := orDefault maxAttempts settings.jobMaxAttempts
  -- the check constraint on `max_attempts` and the primary key refuse the insert
  if maxAttempts ≤ 0 ∨ jobId ∈ store then
    .error (.persistence "Unable to persist background job")
  else
    match findByIdempotencyKey store idempotencyKey with
    | some duplicate => .ok (duplicate, store)
    | none =>
      .ok (jobId,
        store.insert jobId
          (newJob payload priority maxAttempts.toNat availableAt idempotencyKey now))

/-- Fails the leased rows whose type is not supported and returns the others. -/
def leasedJobs (workerId : String) (now : Timestamp) :
    List JobId → JobStore → Except JobError (List LeasedJob × JobStore)
  | [], store => .ok ([], store)
  | jobId :: jobIds, store =>
    match store.lookup jobId with
    | none => leasedJobs workerId now jobIds store
    | some job =>
      match JobType.ofValue job.jobType with
      | none => do
        let store ← fail store jobId workerId "UNKNOWN_JOB_TYPE"
          "Background job type is not supported" false settings.jobRetryBaseSeconds
          settings.jobRetryMaxSeconds now
        leasedJobs workerId now jobIds store
      | some jobType => do
        let (leased, store) ← leasedJobs workerId now jobIds store
        return (job.leasedJob jobId jobType :: leased, store)

def batchLimit (limit : Option Int) : Nat := clamp (orDefault limit settings.jobBatchSize) 1 100

/-- A lease by the queue: `later` is the clock when it fails the rows of an unsupported type. -/
def lease (store : JobStore) (workerId : String) (limit : Option Int) (locked : List JobId)
    (now later : Timestamp) : Except JobError (List LeasedJob × JobStore) := do
  let (jobIds, store) ← leaseBatch store workerId (batchLimit settings limit)
    settings.jobLeaseSeconds locked now
  leasedJobs settings workerId later jobIds store

end JobStore

/-! ### The store as a machine -/

/-- The operations on the job store, each with its arguments. -/
inductive Operation
  | enqueue (jobId : JobId) (payload : JobPayload) (priority : Int) (maxAttempts : Option Int)
      (availableAt : Option Timestamp) (idempotencyKey : String)
  | leaseBatch (workerId : String) (limit leaseSeconds : Nat) (locked : List JobId)
  | lease (workerId : String) (limit : Option Int) (locked : List JobId) (later : Timestamp)
  | heartbeat (jobId : JobId) (workerId : String) (leaseSeconds : Nat)
  | complete (jobId : JobId) (workerId : String)
  | fail (jobId : JobId) (workerId errorCode errorMessage : String) (retryable : Bool)
      (retryBaseSeconds retryMaxSeconds : Nat)
  | cancel (jobId : JobId)
  | markCancelled (jobId : JobId) (workerId : String)
  | retry (jobId : JobId)
  | reclaimStale (limit retryBaseSeconds retryMaxSeconds : Nat) (locked : List JobId)

/-- The store that an operation commits at time `now`, or the error that it raises. -/
def perform (settings : Settings) (store : JobStore) (now : Timestamp) :
    Operation → Except JobError JobStore
  | .enqueue jobId payload priority maxAttempts availableAt idempotencyKey =>
    (JobStore.enqueue settings store jobId payload priority maxAttempts availableAt idempotencyKey
      now).map Prod.snd
  | .leaseBatch workerId limit leaseSeconds locked =>
    (JobStore.leaseBatch store workerId limit leaseSeconds locked now).map Prod.snd
  | .lease workerId limit locked later =>
    (JobStore.lease settings store workerId limit locked now later).map Prod.snd
  | .heartbeat jobId workerId leaseSeconds =>
    .ok (JobStore.heartbeat store jobId workerId leaseSeconds now).2
  | .complete jobId workerId => JobStore.complete store jobId workerId now
  | .fail jobId workerId errorCode errorMessage retryable retryBaseSeconds retryMaxSeconds =>
    JobStore.fail store jobId workerId errorCode errorMessage retryable retryBaseSeconds
      retryMaxSeconds now
  | .cancel jobId => JobStore.cancel store jobId now
  | .markCancelled jobId workerId => JobStore.markCancelled store jobId workerId now
  | .retry jobId => JobStore.retry store jobId now
  | .reclaimStale limit retryBaseSeconds retryMaxSeconds locked =>
    JobStore.reclaimStale store limit retryBaseSeconds retryMaxSeconds locked now

/-- An operation and the time at which it runs. -/
structure JobEvent where
  now : Timestamp
  operation : Operation

/-- The job store under any operations at any times. An operation that raises is rolled back. -/
def jobMachine (settings : Settings) : Machine JobStore JobEvent where
  init := ∅
  step store event :=
    match perform settings store event.now event.operation with
    | .ok store' => store'
    | .error _ => store

end CyberLegends.Jobs
