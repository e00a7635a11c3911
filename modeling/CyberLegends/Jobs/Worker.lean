import CyberLegends.Jobs.Queue

/-! Workers over the job store: polling, the processing of leased jobs with its heartbeat, the
operator's calls, and crashes. The handlers and the resources they write are a parameter. -/

namespace CyberLegends.Jobs

open CyberLegends.Core Lib

/-- What a handler raises. -/
inductive HandlerError
  | cancelledError
  | jobCancelled
  | mediaAttemptLeaseLost
  | failure (errorCode errorMessage : String) (retryable : Bool)
  deriving DecidableEq, Repr

/-- What one step of a handler leads to. -/
inductive Outcome (α : Type)
  | continues (handler : α)
  | returns
  | raises (error : HandlerError)
  deriving DecidableEq, Repr

/-- The handlers of a worker and the resources that they, the reconciler and the other services
write. A transaction that reads a row without locking it and writes it later is a read followed by a
commit. -/
structure HandlerSystem where
  Resources : Type
  /-- Where a handler stands between two of its transactions. -/
  Handler : Type
  /-- What the outside world answers in one step of a handler. -/
  Answer : Type
  /-- What a transaction of the reconciler has read. -/
  Read : Type
  /-- A request that creates a job. -/
  Submission : Type
  /-- Any other request to the services. -/
  Request : Type
  start : LeasedJob → Handler
  handle : Timestamp → String → LeasedJob → Answer → JobStore → Resources → Handler →
    Resources × Outcome Handler
  /-- Where a handler goes on when it is cancelled, if it does. -/
  interrupted : Handler → Option Handler
  ensureRead : Resources → LeasedJob → Read
  ensureSuccessConsistency : Timestamp → Resources → LeasedJob → Read →
    Resources × Except HandlerError Bool
  reconcileRead : Resources → LeasedJob → Read
  reconcile : Timestamp → Resources → LeasedJob → Read → (cancelled : Bool) →
    (errorCode errorMessage : String) → Resources
  prepareRetryRead : Resources → LeasedJob → Read
  prepareRetry : Resources → LeasedJob → Read → Resources
  /-- The payload of the job that a submission creates, and what it writes once the job has its
  identifier. -/
  submit : Timestamp → Submission → Resources → Option (JobPayload × (JobId → Resources))
  /-- What a request writes, and the job that it cancels in the same transaction. -/
  request : Timestamp → Request → Resources → Option (Resources × Option JobId)

variable {H : HandlerSystem}

/-- Where the processing of a leased job stands. -/
inductive Phase (H : HandlerSystem)
  | starting
  | handling (handler : H.Handler)
  | ensuring (read : Option H.Read)
  | checkpointing
  | completing
  | failing (errorCode errorMessage : String) (retryable : Bool)
  | cancelling
  | reconciling (cancelled : Bool) (errorCode errorMessage : String) (read : Option H.Read)
  | closing (raised : Bool)

def Phase.isHandling : Phase H → Bool
  | .handling _ => true
  | _ => false

/-- Where the heartbeat task of a run stands. -/
inductive HeartbeatPhase
  | sleeping
  | polling
  | renewing
  | stopped
  deriving DecidableEq, Repr

/-- The processing of one leased job by one worker. -/
structure ProcessRun (H : HandlerSystem) where
  workerId : String
  job : LeasedJob
  phase : Phase H := .starting
  heartbeat : HeartbeatPhase := .stopped
  leaseLost : Bool := false
  cancellation : Bool := false
  /-- The handler task was cancelled and has not noticed yet. -/
  interrupted : Bool := false
  /-- The end of the lease that the run last obtained or renewed; no step reads it. -/
  leaseUntil : Timestamp

/-- The two calls of an operator that go on after their first commit. -/
inductive CallKind
  | retry
  | cancel
  deriving DecidableEq, Repr

structure ApiCall (H : HandlerSystem) where
  kind : CallKind
  job : LeasedJob
  read : Option H.Read := none

abbrev RunId := Nat

abbrev CallId := Nat

/-- The database and every activity on it. A worker with a batch waits for the runs in it. -/
structure World (H : HandlerSystem) where
  now : Timestamp := 0
  jobs : JobStore := ∅
  resources : H.Resources
  runs : Table RunId (ProcessRun H) := ∅
  nextRun : RunId := 0
  batches : Table String (List RunId) := ∅
  calls : Table CallId (ApiCall H) := ∅
  nextCall : CallId := 0

/-! ### The processing of a job -/

namespace ProcessRun

variable (settings : Settings) (run : ProcessRun H)

/-- Where an exception takes the processing. -/
def afterError : HandlerError → Phase H
  | .jobCancelled => .cancelling
  | .cancelledError =>
    if run.cancellation then .cancelling else .closing (!run.leaseLost)
  | .mediaAttemptLeaseLost => .closing false
  | .failure errorCode errorMessage retryable =>
    if run.leaseLost then .closing false else .failing errorCode errorMessage retryable

def afterHandler : Outcome H.Handler → Phase H
  | .continues handler => .handling handler
  | .returns => if run.leaseLost then .closing false else .ensuring none
  | .raises error => run.afterError error

/-- Where the delivery of a cancellation takes the handler. -/
def afterInterrupt (handler : H.Handler) : Phase H :=
  match H.interrupted handler with
  | some handler => .handling handler
  | none => run.afterError .cancelledError

def ofJobError : JobError → HandlerError
  | .jobLeaseLost message => .failure "JOB_LEASE_LOST" message true
  | .jobConflict message => .failure "JOB_CONFLICT" message false
  | .persistence message => .failure "PERSISTENCE_ERROR" message false
  | .integrity _ => .failure "JOB_HANDLER_ERROR" "Background job handler failed" false

def deadLettered (jobs : JobStore) (jobId : JobId) : Bool :=
  (jobs.lookup jobId).any fun job => job.status = .deadLetter

/-- The next transaction of the run. -/
def advance (now : Timestamp) (answer : H.Answer) (jobs : JobStore) (resources : H.Resources) :
    JobStore × H.Resources × Phase H :=
  match run.phase with
  | .starting => (jobs, resources, .handling (H.start run.job))
  | .handling handler =>
    let (resources, outcome) :=
      H.handle now run.workerId run.job answer jobs resources handler
    -- a cancellation may find the commit of this step already on its way
    (jobs, resources,
      if run.interrupted then run.afterInterrupt handler else run.afterHandler outcome)
  | .ensuring none => (jobs, resources, .ensuring (some (H.ensureRead resources run.job)))
  | .ensuring (some read) =>
    let (resources, result) := H.ensureSuccessConsistency now resources run.job read
    (jobs, resources,
      match result with
      | .ok true => .completing
      | .ok false => .checkpointing
      | .error error => run.afterError error)
  | .checkpointing =>
    (jobs, resources,
      if jobs.cancellationRequested run.job.jobId run.workerId then .cancelling else .completing)
  | .completing =>
    match jobs.complete run.job.jobId run.workerId now with
    | .ok jobs => (jobs, resources, .closing false)
    | .error error => (jobs, resources, run.afterError (ofJobError error))
  | .failing errorCode errorMessage retryable =>
    match jobs.fail run.job.jobId run.workerId errorCode errorMessage retryable
        settings.jobRetryBaseSeconds settings.jobRetryMaxSeconds now with
    | .ok jobs =>
      (jobs, resources,
        if deadLettered jobs run.job.jobId then .reconciling false errorCode errorMessage none
        else .closing false)
    | .error _ => (jobs, resources, .closing true)
  | .cancelling =>
    match jobs.markCancelled run.job.jobId run.workerId now with
    | .ok jobs =>
      (jobs, resources,
        .reconciling true "JOB_CANCELLED" "Background job was cancelled" none)
    | .error _ => (jobs, resources, .closing true)
  | .reconciling cancelled errorCode errorMessage none =>
    (jobs, resources,
      .reconciling cancelled errorCode errorMessage (some (H.reconcileRead resources run.job)))
  | .reconciling cancelled errorCode errorMessage (some read) =>
    (jobs, H.reconcile now resources run.job read cancelled errorCode errorMessage,
      .closing false)
  | .closing raised => (jobs, resources, .closing raised)

/-- Where an error of the database takes the processing outside its handler; nothing when the run
has not begun or is over. -/
def afterFault (retryable : Bool) : Option (Phase H) :=
  match run.phase with
  | .starting | .closing _ => none
  | .handling handler => some (.handling handler)
  | .ensuring _ | .checkpointing | .completing =>
    some (run.afterError (.failure "JOB_HANDLER_ERROR" "Background job handler failed" retryable))
  | .failing .. | .cancelling | .reconciling .. => some (.closing true)

end ProcessRun

/-! ### Events -/

namespace World

variable (settings : Settings) (w : World H)

/-- Writes back a run. -/
def setRun (id : RunId) (run : ProcessRun H) : World H :=
  { w with runs := w.runs.insert id run }

/-- Ends a run. A run that raises ends the wait of its worker at once, while the other runs of the
batch go on. -/
def release (id : RunId) (run : ProcessRun H) (raised : Bool) : World H :=
  let waiting := ((w.batches.lookup run.workerId).getD []).filter (· ≠ id)
  { w with
    runs := w.runs.erase id
    batches :=
      if raised ∨ waiting = [] then w.batches.erase run.workerId
      else w.batches.insert run.workerId waiting }

def process (id : RunId) (answer : H.Answer) : World H :=
  match w.runs.lookup id with
  | none => w
  | some run =>
    match run.phase with
    | .closing raised => w.release id run raised
    | phase =>
      let (jobs, resources, next) := run.advance settings w.now answer w.jobs w.resources
      let heartbeat := match phase with
        | .starting => .sleeping
        | _ => run.heartbeat
      { w with jobs, resources }.setRun id
        { run with phase := next, heartbeat, interrupted := false }

/-- The cancellation of the handler task reaches the handler. -/
def interrupt (id : RunId) : World H :=
  match w.runs.lookup id with
  | none => w
  | some run =>
    match run.phase with
    | .handling handler =>
      if run.interrupted then
        w.setRun id { run with phase := run.afterInterrupt handler, interrupted := false }
      else w
    | _ => w

/-- A transaction of the run outside its handler fails. -/
def fault (id : RunId) (retryable : Bool) : World H :=
  match w.runs.lookup id with
  | none => w
  | some run =>
    match run.afterFault retryable with
    | none => w.release id run true
    | some phase => w.setRun id { run with phase }

/-- Cancels the handler task of the run if it is not done. -/
def cancelHandler (id : RunId) (run : ProcessRun H) : World H :=
  w.setRun id { run with heartbeat := .stopped, interrupted := run.phase.isHandling }

/-- The next transaction of the heartbeat task of the run. -/
def heartbeat (id : RunId) : World H :=
  match w.runs.lookup id with
  | none => w
  | some run =>
    match run.heartbeat with
    | .stopped => w
    | .sleeping =>
      w.setRun id
        { run with heartbeat := if run.phase.isHandling then .polling else .stopped }
    | .polling =>
      if w.jobs.cancellationRequested run.job.jobId run.workerId then
        w.cancelHandler id { run with cancellation := true }
      else w.setRun id { run with heartbeat := .renewing }
    | .renewing =>
      let (renewed, jobs) :=
        w.jobs.heartbeat run.job.jobId run.workerId settings.jobLeaseSeconds w.now
      if renewed then
        { w with jobs }.setRun id
          { run with
            heartbeat := .sleeping
            leaseUntil := w.now + seconds settings.jobLeaseSeconds }
      else { w with jobs }.cancelHandler id { run with leaseLost := true }

/-- The heartbeat task of the run ends on an error that nobody looks at. -/
def heartbeatDies (id : RunId) : World H :=
  match w.runs.lookup id with
  | none => w
  | some run => w.setRun id { run with heartbeat := .stopped }

/-- The runs with one more for each leased job. -/
def beginRuns (workerId : String) (leaseUntil : Timestamp) :
    List LeasedJob → RunId → Table RunId (ProcessRun H) → Table RunId (ProcessRun H)
  | [], _, runs => runs
  | job :: jobs, next, runs =>
    beginRuns workerId leaseUntil jobs (next + 1) (runs.insert next { workerId, job, leaseUntil })

/-- A poll by a worker that waits for no batch. -/
def lease (workerId : String) (limit : Option Int) (locked : List JobId) (later : Timestamp) :
    World H :=
  if (w.batches.lookup workerId).isSome then w
  else
    match w.jobs.lease settings workerId limit locked w.now later with
    | .error _ => w
    | .ok (leased, jobs) =>
      { w with
        jobs
        runs :=
          beginRuns workerId (w.now + seconds settings.jobLeaseSeconds) leased w.nextRun w.runs
        nextRun := w.nextRun + leased.length
        batches :=
          if leased = [] then w.batches
          else w.batches.insert workerId (List.range' w.nextRun leased.length) }

def reclaim (limit : Option Int) (locked : List JobId) : World H :=
  match w.jobs.reclaimStale (JobStore.batchLimit settings limit) settings.jobRetryBaseSeconds
      settings.jobRetryMaxSeconds locked w.now with
  | .error _ => w
  | .ok jobs => { w with jobs }

/-- The process of a worker dies with all its runs. -/
def crash (workerId : String) : World H :=
  { w with
    runs := w.runs.keep fun _ run => run.workerId ≠ workerId
    batches := w.batches.erase workerId }

/-- The job as an operator's call passes it to the reconciler. -/
def leasedView (jobs : JobStore) (jobId : JobId) : Option LeasedJob := do
  let job ← jobs.lookup jobId
  let jobType ← JobType.ofValue job.jobType
  return { jobId, jobType, payload := job.payload, attemptCount := max job.attemptCount 1,
           maxAttempts := max job.maxAttempts 1 }

def beginCall (kind : CallKind) (job : LeasedJob) : World H :=
  { w with calls := w.calls.insert w.nextCall { kind, job }, nextCall := w.nextCall + 1 }

def cancel (jobId : JobId) : World H :=
  match w.jobs.cancel jobId w.now with
  | .error _ => w
  | .ok jobs =>
    match leasedView jobs jobId with
    | none => { w with jobs }
    | some job =>
      if (jobs.lookup jobId).any fun row => row.status = .cancelled then
        { w with jobs }.beginCall .cancel job
      else { w with jobs }

def retry (jobId : JobId) : World H :=
  match w.jobs.retry jobId w.now with
  | .error _ => w
  | .ok jobs =>
    match leasedView jobs jobId with
    | none => { w with jobs }
    | some job => { w with jobs }.beginCall .retry job

/-- The next transaction of an operator's call. -/
def call (id : CallId) : World H :=
  match w.calls.lookup id with
  | none => w
  | some call =>
    match call.kind, call.read with
    | .cancel, none =>
      { w with
        calls := w.calls.insert id
          { call with read := some (H.reconcileRead w.resources call.job) } }
    | .cancel, some read =>
      { w with
        resources := H.reconcile w.now w.resources call.job read true "JOB_CANCELLED"
          "Background job was cancelled"
        calls := w.calls.erase id }
    | .retry, none =>
      { w with
        calls := w.calls.insert id
          { call with read := some (H.prepareRetryRead w.resources call.job) } }
    | .retry, some read =>
      { w with
        resources := H.prepareRetry w.resources call.job read
        calls := w.calls.erase id }

/-- A request that creates a job, in one transaction with the resource that the job works on. -/
def submit (submission : H.Submission) (jobId : JobId) (priority : Int)
    (maxAttempts : Option Int) (availableAt : Option Timestamp) (idempotencyKey : String) :
    World H :=
  match H.submit w.now submission w.resources with
  | none => w
  | some (payload, resources) =>
    match w.jobs.enqueue settings jobId payload priority maxAttempts availableAt idempotencyKey
        w.now with
    | .error _ => w
    | .ok (jobId, jobs) => { w with jobs, resources := resources jobId }

def request (request : H.Request) : World H :=
  match H.request w.now request w.resources with
  | none => w
  | some (resources, none) => { w with resources }
  | some (resources, some jobId) =>
    match w.jobs.cancel jobId w.now with
    | .error _ => w
    | .ok jobs => { w with jobs, resources }

end World

/-- The events of the world. -/
inductive WorldEvent (H : HandlerSystem)
  | tick (elapsed : Timestamp)
  | submit (submission : H.Submission) (jobId : JobId) (priority : Int)
      (maxAttempts : Option Int) (availableAt : Option Timestamp) (idempotencyKey : String)
  | lease (workerId : String) (limit : Option Int) (locked : List JobId) (later : Timestamp)
  | reclaim (limit : Option Int) (locked : List JobId)
  | process (id : RunId) (answer : H.Answer)
  | interrupt (id : RunId)
  | fault (id : RunId) (retryable : Bool)
  | heartbeat (id : RunId)
  | heartbeatDies (id : RunId)
  | crash (workerId : String)
  | cancel (jobId : JobId)
  | retry (jobId : JobId)
  | call (id : CallId)
  | callDies (id : CallId)
  | request (request : H.Request)

def World.step (settings : Settings) (w : World H) : WorldEvent H → World H
  | .tick elapsed => { w with now := w.now + elapsed }
  | .submit submission jobId priority maxAttempts availableAt idempotencyKey =>
    w.submit settings submission jobId priority maxAttempts availableAt idempotencyKey
  | .lease workerId limit locked later => w.lease settings workerId limit locked later
  | .reclaim limit locked => w.reclaim settings limit locked
  | .process id answer => w.process settings id answer
  | .interrupt id => w.interrupt id
  | .fault id retryable => w.fault id retryable
  | .heartbeat id => w.heartbeat settings id
  | .heartbeatDies id => w.heartbeatDies id
  | .crash workerId => w.crash workerId
  | .cancel jobId => w.cancel jobId
  | .retry jobId => w.retry jobId
  | .call id => w.call id
  | .callDies id => { w with calls := w.calls.erase id }
  | .request request => w.request request

/-- The world as a machine, from an empty job store. -/
def workerMachine (settings : Settings) (resources : H.Resources) :
    Machine (World H) (WorldEvent H) where
  init := { resources }
  step := World.step settings

end CyberLegends.Jobs
