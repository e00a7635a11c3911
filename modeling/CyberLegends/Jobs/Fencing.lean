import CyberLegends.Jobs.Steps
import CyberLegends.Jobs.Invariant
import CyberLegends.Applied.Handlers

/-! The calls that a run makes on behalf of its attempt. The job store knows the holder of a lease
by its worker only, so a call of an earlier attempt is told apart from a call of the current one
exactly as long as no worker leases a job that it is still processing. -/

namespace CyberLegends.Jobs

open CyberLegends.Core Lib

variable {H : HandlerSystem} {settings : Settings} {w : World H}

/-- The operation on the job store that the next transaction of a run issues. -/
def ProcessRun.operation (settings : Settings) (run : ProcessRun H) : Option Operation :=
  match run.phase with
  | .completing => some (.complete run.job.jobId run.workerId)
  | .failing errorCode errorMessage retryable =>
    some (.fail run.job.jobId run.workerId errorCode errorMessage retryable
      settings.jobRetryBaseSeconds settings.jobRetryMaxSeconds)
  | .cancelling => some (.markCancelled run.job.jobId run.workerId)
  | _ => none

/-- The run on whose behalf an event calls the job store, and the operation that it calls. -/
def World.onBehalf (settings : Settings) (w : World H) (event : WorldEvent H) :
    Option (ProcessRun H × Operation) :=
  match event with
  | .process id _ => do
    let run ← w.runs.lookup id
    let operation ← run.operation settings
    return (run, operation)
  | .heartbeat id => do
    let run ← w.runs.lookup id
    if run.heartbeat = .renewing then
      return (run, .heartbeat run.job.jobId run.workerId settings.jobLeaseSeconds)
    else none
  | _ => none

/-- The operation is refused: a heartbeat returns false, any other operation raises. -/
def Operation.Refused (settings : Settings) (store : JobStore) (now : Timestamp)
    (operation : Operation) : Prop :=
  match operation with
  | .heartbeat jobId workerId leaseSeconds =>
    (store.heartbeat jobId workerId leaseSeconds now).1 = false
  | operation => ∃ error, perform settings store now operation = .error error

/-- A call on behalf of attempt `n` changes the job store only when the job is running and its
current attempt is `n`; it is refused, and changes nothing, when the current attempt is another. -/
def Fenced (settings : Settings) (w : World H) (event : WorldEvent H) (w' : World H) : Prop :=
  ∀ run operation, w.onBehalf settings event = some (run, operation) →
    (w'.jobs ≠ w.jobs → ∃ job, w.jobs.lookup run.job.jobId = some job ∧ job.status = .running ∧
      job.attemptCount = run.job.attemptCount) ∧
    ∀ job, w.jobs.lookup run.job.jobId = some job → job.attemptCount ≠ run.job.attemptCount →
      operation.Refused settings w.jobs w.now ∧ w'.jobs = w.jobs

/-- Whether some run of the job by the worker is alive. -/
def World.processes (w : World H) (workerId : String) (jobId : JobId) : Bool :=
  w.runs.entries.any fun entry => entry.2.workerId = workerId ∧ entry.2.job.jobId = jobId

/-- A poll leases no job that its worker is still processing. -/
def LeasesApart (settings : Settings) (w : World H) (event : WorldEvent H) : Prop :=
  match event with
  | .lease workerId limit locked _ =>
    w.batches.lookup workerId = none →
      ∀ jobId ∈ w.jobs.leaseSelection (JobStore.batchLimit settings limit) locked w.now,
        w.processes workerId jobId = false
  | _ => True

instance decidableLeasesApart (settings : Settings) (w : World H) (event : WorldEvent H) :
    Decidable (LeasesApart settings w event) :=
  match event with
  | .lease .. => inferInstanceAs (Decidable (_ → _))
  | .tick _ | .submit .. | .reclaim .. | .process .. | .interrupt _ | .fault .. | .heartbeat _
  | .heartbeatDies _ | .crash _ | .cancel _ | .retry _ | .call _ | .callDies _ | .request _ =>
    isTrue trivial

/-! ### The invariant -/

/-- A row that a live run's worker holds is at the attempt of that run. -/
def Owned (w : World H) : Prop :=
  ∀ id run, w.runs.lookup id = some run → ∀ job, w.jobs.lookup run.job.jobId = some job →
    job.status = .running → job.lockedBy = some run.workerId →
    job.attemptCount = run.job.attemptCount

theorem processes_of_lookup {id : RunId} {run : ProcessRun H}
    (found : w.runs.lookup id = some run) : w.processes run.workerId run.job.jobId = true := by
  refine List.any_eq_true.mpr ⟨⟨id, run⟩, AList.mem_lookup_iff.mp found, ?_⟩
  simp

/-- A step other than a lease leaves a running row only where one was, at the same attempt and with
the same holder. -/
theorem HeldStep.running {job job' : BackgroundJobModel} (step : HeldStep job job')
    (running : job'.status = .running) :
    job.status = .running ∧ job'.lockedBy = job.lockedBy ∧
      job'.attemptCount = job.attemptCount := by
  cases step with
  | renewed owned => exact ⟨(ownsLiveLease_iff.mp owned).1, rfl, rfl⟩
  | completed owned result =>
    exact absurd running (BackgroundJobModel.complete_settled result).left
  | failed owned result | reclaimed expired result =>
    obtain ⟨-, -, ⟨-, status, -⟩ | ⟨-, status, -⟩, -⟩ := BackgroundJobModel.fail_ok result <;>
      rw [status] at running <;> cases running
  | cancelled result =>
    obtain ⟨-, rfl⟩ | ⟨before, rfl⟩ | ⟨-, rfl⟩ := BackgroundJobModel.cancel_ok result
    · cases running
    · exact ⟨before, rfl, rfl⟩
    · exact ⟨running, rfl, rfl⟩
  | markedCancelled owned result =>
    exact absurd running (BackgroundJobModel.markCancelled_settled result).left
  | retried result =>
    obtain ⟨-, rfl⟩ := BackgroundJobModel.retry_ok result
    cases running

theorem held_running {job job' : BackgroundJobModel}
    (steps : Relation.ReflTransGen HeldStep job job') (running : job'.status = .running) :
    job.status = .running ∧ job'.lockedBy = job.lockedBy ∧
      job'.attemptCount = job.attemptCount := by
  induction steps with
  | refl => exact ⟨running, rfl, rfl⟩
  | tail _ step ih =>
    obtain ⟨before, holder, attempt⟩ := step.running running
    obtain ⟨start, holder', attempt'⟩ := ih before
    exact ⟨start, holder.trans holder', attempt.trans attempt'⟩

/-- A running row after an evolution without leases was running before it. -/
theorem Evolves.running {store store' : JobStore} (evolves : Evolves HeldStep store store')
    {jobId : JobId} {job' : BackgroundJobModel} (row' : store'.lookup jobId = some job')
    (running : job'.status = .running) :
    ∃ job, store.lookup jobId = some job ∧ job.status = .running ∧
      job'.lockedBy = job.lockedBy ∧ job'.attemptCount = job.attemptCount := by
  obtain ⟨job, origin, steps⟩ := evolves.rows jobId job' row'
  obtain ⟨before, holder, attempt⟩ := held_running steps running
  obtain row | ⟨-, new⟩ := origin
  · exact ⟨job, row, before, holder, attempt⟩
  · obtain ⟨_, _, _, _, _, _, -, rfl⟩ := new
    cases before

theorem Owned.other (owned : Owned w) {event : WorldEvent H}
    (other : ∀ workerId limit locked later, event ≠ .lease workerId limit locked later) :
    Owned (w.step settings event) := by
  intro id run' found' job' row' running held
  obtain ⟨run, found, worker, sameJob⟩ := step_runs w event other found'
  rw [sameJob] at row' ⊢
  rw [worker] at held
  obtain ⟨job, row, before, holder, attempt⟩ := (step_evolves w event other).running row' running
  rw [holder] at held
  rw [attempt]
  exact owned id run found job row before held

theorem lease_lockedBy {job job' : BackgroundJobModel} {workerId : String} {leaseSeconds : Nat}
    {now : Timestamp} (result : job.lease workerId leaseSeconds now = .ok job') :
    job'.lockedBy = some workerId := by
  simp only [BackgroundJobModel.lease] at result
  split at result
  · cases result
  · cases result; rfl

/-- A row that a lease has selected and that still runs is held by the worker that polled. -/
theorem lease_holder {store store' : JobStore} {workerId : String} {limit : Option Int}
    {locked : List JobId} {now later : Timestamp} {leased : List LeasedJob}
    (handed : store.lease settings workerId limit locked now later = .ok (leased, store'))
    {jobId : JobId}
    (selected : jobId ∈ store.leaseSelection (JobStore.batchLimit settings limit) locked now)
    {job : BackgroundJobModel} (row : store'.lookup jobId = some job)
    (running : job.status = .running) : job.lockedBy = some workerId := by
  obtain ⟨⟨jobIds, middle⟩, batch, rest⟩ := bind_eq_ok.mp handed
  simp only [JobStore.leaseBatch, bind_eq_ok] at batch
  obtain ⟨updatedStore, updated, result⟩ := batch
  cases result
  obtain ⟨before, found, -⟩ := leaseSelection_spec selected
  obtain ⟨taken, leasing, takenRow⟩ := Table.updateEach_mem leaseSelection_nodup updated selected found
  obtain ⟨same, row', -, holder, -⟩ := (leasedJobs_evolves rest).running row running
  rw [takenRow] at row'
  cases row'
  rw [holder, lease_lockedBy leasing]

theorem Owned.lease (owned : Owned w) {workerId : String} {limit : Option Int}
    {locked : List JobId} {later : Timestamp}
    (apart : LeasesApart settings w (.lease workerId limit locked later)) :
    Owned (w.lease settings workerId limit locked later) := by
  obtain same | ⟨free, leased, jobs, batches, handed, after⟩ :=
    @lease_cases _ settings w workerId limit locked later
  · rw [same]; exact owned
  · rw [after]
    obtain ⟨unselected, given, -⟩ := lease_spec handed
    intro id run found job row running held
    obtain before | ⟨new, member, rfl⟩ := beginRuns_lookup found
    · by_cases selected : run.job.jobId ∈
          w.jobs.leaseSelection (JobStore.batchLimit settings limit) locked w.now
      · -- the polling worker holds the row, so it is the worker of this run
        have holder := lease_holder handed selected row running
        rw [held] at holder
        obtain rfl := Option.some.inj holder
        have alive := processes_of_lookup before
        rw [apart free _ selected] at alive
        cases alive
      · refine owned id run before job ?_ running held
        rw [← unselected _ selected]
        exact row
    · obtain ⟨-, _, row', _, -, -, -, found', -, view⟩ := given new member
      have same : job = row' := Option.some.inj (row.symm.trans found')
      rw [same, view]
      rfl

theorem Owned.step (owned : Owned w) {event : WorldEvent H}
    (apart : LeasesApart settings w event) : Owned (w.step settings event) := by
  cases event with
  | lease workerId limit locked later => exact owned.lease apart
  | _ => exact owned.other (by rintro _ _ _ _ ⟨⟩)

/-! ### The calls of a run -/

/-- What a transaction of a run does to the job store: it calls the operation of the run, and an
operation that raises changes nothing. -/
theorem advance_operation {run : ProcessRun H} {operation : Operation}
    (calls : run.operation settings = some operation) (now : Timestamp) (answer : H.Answer)
    (jobs : JobStore) (resources : H.Resources) :
    (run.advance settings now answer jobs resources).1 =
      match perform settings jobs now operation with
      | .ok jobs' => jobs'
      | .error _ => jobs := by
  unfold ProcessRun.operation at calls
  unfold ProcessRun.advance
  split at calls
  · rename_i completing
    cases calls
    simp only [completing, perform]
    cases jobs.complete run.job.jobId run.workerId now <;> rfl
  · rename_i errorCode errorMessage retryable failing
    cases calls
    simp only [failing, perform]
    cases jobs.fail run.job.jobId run.workerId errorCode errorMessage retryable
      settings.jobRetryBaseSeconds settings.jobRetryMaxSeconds now <;> rfl
  · rename_i cancelling
    cases calls
    simp only [cancelling, perform]
    cases jobs.markCancelled run.job.jobId run.workerId now <;> rfl
  · cases calls

/-- An operation that a run calls acts on the run's job under the run's worker: it is refused unless
that worker holds a live lease. -/
theorem operation_refused {run : ProcessRun H} {operation : Operation}
    (calls : run.operation settings = some operation) {store : JobStore} {now : Timestamp} :
    (∃ error, perform settings store now operation = .error error) ∨
      ∃ job, store.lookup run.job.jobId = some job ∧ job.ownsLiveLease run.workerId now := by
  cases result : perform settings store now operation with
  | error error => exact .inl ⟨error, rfl⟩
  | ok store' =>
    right
    unfold ProcessRun.operation at calls
    split at calls
    · cases calls
      obtain ⟨job, _, row, owned, -⟩ := complete_ok result
      exact ⟨job, row, owned⟩
    · cases calls
      obtain ⟨job, _, row, owned, -⟩ := fail_ok result
      exact ⟨job, row, owned⟩
    · cases calls
      obtain ⟨job, _, row, owned, -⟩ := markCancelled_ok result
      exact ⟨job, row, owned⟩
    · cases calls

theorem Operation.refused_of_error {store : JobStore} {now : Timestamp} {operation : Operation}
    {error : JobError} (raised : perform settings store now operation = .error error) :
    operation.Refused settings store now := by
  cases operation with
  | heartbeat => cases raised
  | _ => exact ⟨error, raised⟩

/-- A call on behalf of a run is refused and changes nothing, or the run's worker holds a live lease
of its job. -/
theorem onBehalf_cases {event : WorldEvent H} {run : ProcessRun H} {operation : Operation}
    (calls : w.onBehalf settings event = some (run, operation)) :
    (∃ id, w.runs.lookup id = some run) ∧
      (operation.Refused settings w.jobs w.now ∧ (w.step settings event).jobs = w.jobs ∨
        ∃ job, w.jobs.lookup run.job.jobId = some job ∧
          job.ownsLiveLease run.workerId w.now = true) := by
  cases event with
  | process id answer =>
    simp only [World.onBehalf, Option.bind_eq_bind, Option.bind_eq_some_iff, Option.pure_def,
      Option.some.injEq, Prod.mk.injEq] at calls
    obtain ⟨run, found, operation, called, rfl, rfl⟩ := calls
    refine ⟨⟨id, found⟩, ?_⟩
    obtain ⟨error, raised⟩ | owned := operation_refused called
    · refine .inl ⟨Operation.refused_of_error raised, ?_⟩
      simp only [World.step, World.process, found]
      split
      · rfl
      · show (run.advance settings w.now answer w.jobs w.resources).1 = w.jobs
        rw [advance_operation called, raised]
    · exact .inr owned
  | heartbeat id =>
    simp only [World.onBehalf, Option.bind_eq_bind, Option.bind_eq_some_iff] at calls
    obtain ⟨run, found, called⟩ := calls
    by_cases renewing : run.heartbeat = .renewing
    · rw [if_pos renewing] at called
      cases called
      refine ⟨⟨id, found⟩, ?_⟩
      obtain lost | ⟨job, row, owned, -⟩ := heartbeat_cases w.jobs run.job.jobId run.workerId
        settings.jobLeaseSeconds w.now
      · refine .inl ⟨congrArg Prod.fst lost, ?_⟩
        simp only [World.step, World.heartbeat, found, renewing, lost]
        rfl
      · exact .inr ⟨job, row, owned⟩
    · rw [if_neg renewing] at called
      cases called
  | _ => cases calls

theorem Owned.fenced (owned : Owned w) (event : WorldEvent H) :
    Fenced settings w event (w.step settings event) := by
  intro run operation calls
  obtain ⟨⟨id, found⟩, ⟨refused, same⟩ | ⟨job, row, live⟩⟩ := onBehalf_cases calls
  · exact ⟨fun changed => absurd same changed, fun _ _ _ => ⟨refused, same⟩⟩
  · obtain ⟨running, held, -⟩ := ownsLiveLease_iff.mp live
    have current := owned id run found job row running held
    refine ⟨fun _ => ⟨job, row, running, current⟩, fun job' row' other => ?_⟩
    rw [row] at row'
    cases row'
    exact absurd current other

/-- In a run in which no poll hands a worker a job that it is still processing, every call on behalf
of an attempt is fenced. -/
theorem attempts_fenced (settings : Settings) (resources : H.Resources)
    (events : List (WorldEvent H))
    (apart : (workerMachine settings resources).Meets (LeasesApart settings)
      (workerMachine settings resources).init events) :
    (workerMachine settings resources).Steps (Fenced settings)
      (workerMachine settings resources).init events := by
  have start : Owned (workerMachine settings resources).init := by
    intro id run found
    cases found
  exact Machine.steps_hold (fun _ _ owned apart => owned.step apart)
    (fun _ event owned _ => owned.fenced event) start apart

/-! ### Runs -/

open Applied (jobHandlers application)

/-- A worker leases a job and stalls; its lease runs out, another worker takes the job over, and then
the first worker reports its failure. -/
def takenOverRun : List (WorldEvent jobHandlers) :=
  [.submit (.other (.alertReconciliation 5)) 1 50 none none "alerts",
    .lease "first" none [] 0, .process 0 .last, .process 0 (.error "TIMEOUT" "Timed out" true),
    .tick (seconds 600), .reclaim none [], .tick (seconds 600), .lease "second" none [] 0,
    .process 0 .last]

theorem taken_over_run_fenced :
    application.Meets (LeasesApart {}) application.init takenOverRun ∧
      application.Steps (Fenced {}) application.init takenOverRun := by
  have apart : application.Meets (LeasesApart {}) application.init takenOverRun := by
    decide +kernel
  exact ⟨apart, attempts_fenced {} _ takenOverRun apart⟩

/-- A worker leases two jobs in one poll. The first is about to complete when the lease of both runs
out; the second fails, which ends the worker's wait for the batch. Both jobs are reclaimed, and the
worker leases them again. -/
def leasedTwiceRun : List (WorldEvent jobHandlers) :=
  [.submit (.other (.alertReconciliation 5)) 1 50 none none "alerts",
    .submit (.other (.memoryReconciliation 5)) 2 50 none none "memory",
    .lease "worker" (some 2) [] 0, .process 0 .last, .process 0 .last, .process 0 .last,
    .process 0 .last, .process 0 .last, .process 0 .last, .process 1 .last,
    .process 1 (.error "TIMEOUT" "Timed out" true), .tick (seconds 600), .process 1 .last,
    .process 1 .last, .reclaim none [], .tick (seconds 600), .lease "worker" (some 2) [] 0]

/-- The completion that the first run then reports is accepted for the second attempt. -/
theorem leased_twice_run_unfenced :
    ¬ application.Steps (Fenced {}) application.init (leasedTwiceRun ++ [.process 0 .last]) := by
  intro fenced
  have last := (Machine.Steps.append.mp fenced).2.1
  let w := application.run application.init leasedTwiceRun
  have calls : (w.onBehalf {} (.process 0 .last)).any (fun (run, _) =>
      (w.jobs.lookup run.job.jobId).any fun job =>
        job.attemptCount ≠ run.job.attemptCount ∧
          ((application.step w (.process 0 .last)).jobs.lookup run.job.jobId).any
            fun job' => job' ≠ job) = true := by
    decide +kernel
  obtain ⟨⟨run, operation⟩, called, calls⟩ := (Option.any_eq_true ..).mp calls
  obtain ⟨job, row, other⟩ := (Option.any_eq_true ..).mp calls
  obtain ⟨attempt, changed⟩ := of_decide_eq_true other
  obtain ⟨job', row', differs⟩ := (Option.any_eq_true ..).mp changed
  have same := ((last run operation called).2 job row attempt).2
  rw [show (application.step w (.process 0 .last)).jobs = w.jobs from same, row] at row'
  cases row'
  exact of_decide_eq_true differs rfl

end CyberLegends.Jobs
