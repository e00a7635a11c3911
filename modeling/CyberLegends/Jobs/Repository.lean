import CyberLegends.Jobs.Model

/-! The operations of the job repository. Each is one transaction: it returns the store that is
committed, or the error whose rollback leaves the store as it was. -/

namespace CyberLegends.Jobs

open CyberLegends.Core Lib

namespace BackgroundJobModel

/-- Whether `workerId` holds the job under a lease that has not run out. -/
def ownsLiveLease (job : BackgroundJobModel) (workerId : String) (now : Timestamp) : Bool :=
  job.status = .running ∧ job.lockedBy = some workerId ∧
    job.leaseExpiresAt.any fun expiry => now < expiry

def clearLease (job : BackgroundJobModel) : BackgroundJobModel :=
  { job with lockedBy := none, lockedAt := none, leaseExpiresAt := none, heartbeatAt := none }

/-- Whether an attempt row is the one that `finishAttempt` looks for. -/
def isActiveAttempt (job : BackgroundJobModel) (attempt : JobAttemptModel) : Bool :=
  attempt.attemptNumber = job.attemptCount ∧ attempt.status = .running

def auditMissing : JobError := .jobConflict "Active job attempt audit is missing"

/-- The attempts of the job with the active one closed. -/
def closeAttempt (job : BackgroundJobModel) (workerId : String) (status : JobAttemptStatus)
    (now : Timestamp) (errorCode errorMessage : Option String) : List JobAttemptModel :=
  job.attempts.map fun attempt =>
    if job.isActiveAttempt attempt then
      { attempt with workerId, status, completedAt := some now, errorCode, errorMessage }
    else attempt

def finishAttempt (job : BackgroundJobModel) (workerId : String) (status : JobAttemptStatus)
    (now : Timestamp) (errorCode errorMessage : Option String) :
    Except JobError BackgroundJobModel :=
  if job.attempts.any job.isActiveAttempt then
    .ok { job with attempts := job.closeAttempt workerId status now errorCode errorMessage }
  else .error auditMissing

/-- The lease of one selected row, with its new attempt row. -/
def lease (workerId : String) (leaseSeconds : Nat) (now : Timestamp) (job : BackgroundJobModel) :
    Except JobError BackgroundJobModel :=
  let attemptNumber := job.attemptCount + 1
  if job.attempts.any fun attempt => attempt.attemptNumber = attemptNumber then
    .error (.integrity "uq_job_attempts_job_number")
  else
    .ok { job with
      status := .running
      lockedBy := some workerId
      lockedAt := some now
      heartbeatAt := some now
      leaseExpiresAt := some (now + seconds leaseSeconds)
      startedAt := job.startedAt.or (some now)
      attemptCount := attemptNumber
      errorCode := none
      errorMessage := none
      attempts := job.attempts ++ [{ attemptNumber, workerId, startedAt := now }] }

def renew (leaseSeconds : Nat) (now : Timestamp) (job : BackgroundJobModel) :
    BackgroundJobModel :=
  { job with heartbeatAt := some now, leaseExpiresAt := some (now + seconds leaseSeconds) }

def complete (workerId : String) (now : Timestamp) (job : BackgroundJobModel) :
    Except JobError BackgroundJobModel :=
  finishAttempt (clearLease { job with status := .succeeded, completedAt := some now }) workerId
    .succeeded now none none

/-- The end of a failed attempt: another try after a delay, or none. -/
def requeueOrDeadLetter (retryable : Bool) (retryBaseSeconds retryMaxSeconds : Nat)
    (now : Timestamp) (job : BackgroundJobModel) : BackgroundJobModel :=
  if retryable ∧ job.attemptCount < job.maxAttempts then
    { job with
      status := .pending
      availableAt :=
        now + seconds (retryDelaySeconds job.attemptCount retryBaseSeconds retryMaxSeconds) }
  else { job with status := .deadLetter, completedAt := some now }

def fail (workerId errorCode errorMessage : String) (retryable : Bool)
    (retryBaseSeconds retryMaxSeconds : Nat) (now : Timestamp) (job : BackgroundJobModel) :
    Except JobError BackgroundJobModel := do
  let job ← job.finishAttempt workerId .failed now (some errorCode) (some errorMessage)
  let job := { job with errorCode := some errorCode, errorMessage := some errorMessage }
  return (job.requeueOrDeadLetter retryable retryBaseSeconds retryMaxSeconds now).clearLease

def cancel (now : Timestamp) (job : BackgroundJobModel) : Except JobError BackgroundJobModel :=
  match job.status with
  | .pending =>
    .ok { job with status := .cancelled, cancelRequested := true, completedAt := some now }
  | .running => .ok { job with cancelRequested := true }
  | .cancelled | .succeeded => .ok job
  | .failed | .deadLetter => .error (.jobConflict "Job cannot be cancelled in its current state")

def markCancelled (workerId : String) (now : Timestamp) (job : BackgroundJobModel) :
    Except JobError BackgroundJobModel :=
  finishAttempt
    (clearLease { job with
      status := .cancelled, cancelRequested := true, completedAt := some now })
    workerId .cancelled now none none

def retry (now : Timestamp) (job : BackgroundJobModel) : Except JobError BackgroundJobModel :=
  match job.status with
  | .failed | .deadLetter | .cancelled =>
    .ok (clearLease { job with
      status := .pending
      cancelRequested := false
      availableAt := now
      completedAt := none
      errorCode := none
      errorMessage := none
      maxAttempts :=
        if job.attemptCount ≥ job.maxAttempts then job.attemptCount + 1 else job.maxAttempts })
  | .pending | .running | .succeeded =>
    .error (.jobConflict "Job is not retryable in its current state")

def leaseExpiredCode : String := "JOB_LEASE_EXPIRED"

def leaseExpiredMessage : String := "Worker lease expired before completion"

/-- The worker whose attempt a reclaim ends; an empty name is none. -/
def expiredWorker (job : BackgroundJobModel) : String :=
  (job.lockedBy.filter (· ≠ "")).getD "expired-worker"

/-- The end of an attempt whose lease ran out. -/
def reclaim (retryBaseSeconds retryMaxSeconds : Nat) (now : Timestamp)
    (job : BackgroundJobModel) : Except JobError BackgroundJobModel :=
  job.fail job.expiredWorker leaseExpiredCode leaseExpiredMessage true retryBaseSeconds
    retryMaxSeconds now

end BackgroundJobModel

/-! ### Operations on the store -/

namespace JobStore

/-- The lock on one row: the row as committed, or the error for a row that is not there. -/
def getForUpdate (store : JobStore) (jobId : JobId) (absent : JobError) :
    Except JobError BackgroundJobModel :=
  match store.lookup jobId with
  | none => .error absent
  | some job => .ok job

def leaseLost : JobError := .jobLeaseLost "Job lease is no longer owned by this worker"

def requiredLiveLease (store : JobStore) (jobId : JobId) (workerId : String) (now : Timestamp) :
    Except JobError BackgroundJobModel := do
  let job ← getForUpdate store jobId leaseLost
  if job.ownsLiveLease workerId now then return job else throw leaseLost

/-- Whether a row may be leased at `now`. -/
def leasable (now : Timestamp) (job : BackgroundJobModel) : Bool :=
  job.status = .pending ∧ job.availableAt ≤ now ∧ job.cancelRequested = false

/-- Highest priority first, then the row that became available, was created or was named first. -/
def leaseOrder (a b : JobId × BackgroundJobModel) : Bool :=
  if a.2.priority ≠ b.2.priority then b.2.priority < a.2.priority
  else if a.2.availableAt ≠ b.2.availableAt then a.2.availableAt < b.2.availableAt
  else if a.2.createdAt ≠ b.2.createdAt then a.2.createdAt < b.2.createdAt
  else a.1 ≤ b.1

/-- The rows that a lease takes, `locked` being the rows that other transactions hold. -/
def leaseSelection (store : JobStore) (limit : Nat) (locked : List JobId) (now : Timestamp) :
    List JobId :=
  Table.select (fun jobId job => leasable now job && !locked.contains jobId) leaseOrder limit store

def leaseBatch (store : JobStore) (workerId : String) (limit leaseSeconds : Nat)
    (locked : List JobId) (now : Timestamp) : Except JobError (List JobId × JobStore) := do
  let jobs := leaseSelection store limit locked now
  let store ← Table.updateEach (fun _ => BackgroundJobModel.lease workerId leaseSeconds now) jobs
    store
  return (jobs, store)

def heartbeat (store : JobStore) (jobId : JobId) (workerId : String) (leaseSeconds : Nat)
    (now : Timestamp) : Bool × JobStore :=
  match store.lookup jobId with
  | none => (false, store)
  | some job =>
    if job.ownsLiveLease workerId now then (true, store.insert jobId (job.renew leaseSeconds now))
    else (false, store)

def complete (store : JobStore) (jobId : JobId) (workerId : String) (now : Timestamp) :
    Except JobError JobStore := do
  let job ← requiredLiveLease store jobId workerId now
  let job ← job.complete workerId now
  return store.insert jobId job

def fail (store : JobStore) (jobId : JobId) (workerId errorCode errorMessage : String)
    (retryable : Bool) (retryBaseSeconds retryMaxSeconds : Nat) (now : Timestamp) :
    Except JobError JobStore := do
  let job ← requiredLiveLease store jobId workerId now
  let job ← job.fail workerId errorCode errorMessage retryable retryBaseSeconds retryMaxSeconds now
  return store.insert jobId job

def unavailable : JobError := .jobConflict "Job is unavailable"

def cancel (store : JobStore) (jobId : JobId) (now : Timestamp) : Except JobError JobStore := do
  let job ← getForUpdate store jobId unavailable
  let job ← job.cancel now
  return store.insert jobId job

def markCancelled (store : JobStore) (jobId : JobId) (workerId : String) (now : Timestamp) :
    Except JobError JobStore := do
  let job ← requiredLiveLease store jobId workerId now
  let job ← job.markCancelled workerId now
  return store.insert jobId job

def retry (store : JobStore) (jobId : JobId) (now : Timestamp) : Except JobError JobStore := do
  let job ← getForUpdate store jobId unavailable
  let job ← job.retry now
  return store.insert jobId job

/-- Whether a row's lease has run out at `now`. -/
def stale (now : Timestamp) (job : BackgroundJobModel) : Bool :=
  job.status = .running ∧ job.leaseExpiresAt.any fun expiry => expiry ≤ now

def reclaimOrder (a b : JobId × BackgroundJobModel) : Bool :=
  if a.2.leaseExpiresAt ≠ b.2.leaseExpiresAt then
    a.2.leaseExpiresAt.getD 0 < b.2.leaseExpiresAt.getD 0
  else a.1 ≤ b.1

/-- The rows that a reclaim takes, `locked` being the rows that other transactions hold. -/
def reclaimSelection (store : JobStore) (limit : Nat) (locked : List JobId) (now : Timestamp) :
    List JobId :=
  Table.select (fun jobId job => stale now job && !locked.contains jobId) reclaimOrder limit store

def reclaimStale (store : JobStore) (limit retryBaseSeconds retryMaxSeconds : Nat)
    (locked : List JobId) (now : Timestamp) : Except JobError JobStore :=
  Table.updateEach (fun _ => BackgroundJobModel.reclaim retryBaseSeconds retryMaxSeconds now)
    (reclaimSelection store limit locked now) store

/-- Whether the row that `workerId` holds asks for cancellation; a row it does not hold does
not. -/
def cancellationRequested (store : JobStore) (jobId : JobId) (workerId : String) : Bool :=
  (store.lookup jobId).any fun job =>
    job.status = .running ∧ job.lockedBy = some workerId ∧ job.cancelRequested

end JobStore

end CyberLegends.Jobs
