import Mathlib.Data.Fintype.EquivFin
import Mathlib.Logic.Relation
import CyberLegends.Jobs.Names

/-! Jobs brought back to a worker. From any state, events of the clock, of the workers and of the
operator alone lead to a run that starts on any job that has not succeeded. -/

namespace CyberLegends.Jobs

open CyberLegends.Core Lib

variable {H : HandlerSystem} {settings : Settings} {w : World H}

/-- An event of the clock, a poll, a reclaim or a call of the operator. -/
def WorldEvent.operates : WorldEvent H → Bool
  | .tick _ | .lease .. | .reclaim .. | .cancel _ | .retry _ => true
  | _ => false

/-- One such event leads from a state to another. -/
def Operates (settings : Settings) (w w' : World H) : Prop :=
  ∃ event : WorldEvent H, event.operates = true ∧ w.step settings event = w'

/-- A row whose kind of job is known. -/
structure Supported (job : BackgroundJobModel) : Prop where
  consistent : job.Consistent
  known : JobType.ofValue job.jobType = some job.payload.jobType

theorem Supported.of_identified {job job' : BackgroundJobModel} (supported : Supported job)
    (identified : Identified job job') (consistent : job'.Consistent) : Supported job' where
  consistent := consistent
  known := by rw [identified.jobType, identified.payload]; exact supported.known

theorem Supported.newJob {job : BackgroundJobModel} (new : NewJob job) : Supported job where
  consistent := .newJob new
  known := by
    obtain ⟨payload, priority, maxAttempts, availableAt, idempotencyKey, now, -, rfl⟩ := new
    exact JobType.ofValue_value payload.jobType

theorem Supported.step {job job' : BackgroundJobModel} (supported : Supported job)
    (step : RowStep job job') : Supported job' :=
  supported.of_identified step.identified (supported.consistent.step step)

/-- The job is there, with its payload, and can be leased. -/
def Ready (w : World H) (jobId : JobId) (payload : JobPayload) : Prop :=
  ∃ job, w.jobs.lookup jobId = some job ∧ Supported job ∧ job.payload = payload ∧
    JobStore.leasable w.now job = true

/-- From the state, operations that leave the resources alone lead to one where the job is ready. -/
def BecomesReady (settings : Settings) (w : World H) (jobId : JobId) (payload : JobPayload) : Prop :=
  ∃ w' : World H, Relation.ReflTransGen (Operates settings) w w' ∧ w'.resources = w.resources ∧
    Ready w' jobId payload

theorem BecomesReady.step {event : WorldEvent H} {jobId : JobId} {payload : JobPayload}
    (operates : event.operates = true)
    (resources : (w.step settings event).resources = w.resources)
    (ready : BecomesReady settings (w.step settings event) jobId payload) :
    BecomesReady settings w jobId payload := by
  obtain ⟨w', leads, same, ready⟩ := ready
  exact ⟨w', .head ⟨event, operates, rfl⟩ leads, same.trans resources, ready⟩

/-! ### The calls of the operator -/

section

variable {jobId : JobId} {jobs : JobStore}

theorem retry_frame (retried : w.jobs.retry jobId w.now = .ok jobs) :
    (w.step settings (.retry jobId)).jobs = jobs ∧
      (w.step settings (.retry jobId)).resources = w.resources ∧
        (w.step settings (.retry jobId)).now = w.now := by
  simp only [World.step, World.retry, retried]
  split <;> exact ⟨rfl, rfl, rfl⟩

theorem cancel_frame (cancelled : w.jobs.cancel jobId w.now = .ok jobs) :
    (w.step settings (.cancel jobId)).jobs = jobs ∧
      (w.step settings (.cancel jobId)).resources = w.resources ∧
        (w.step settings (.cancel jobId)).now = w.now := by
  simp only [World.step, World.cancel, cancelled]
  split
  · exact ⟨rfl, rfl, rfl⟩
  · split <;> exact ⟨rfl, rfl, rfl⟩

variable {job : BackgroundJobModel}

/-- A job that has ended without success is ready once it is retried. -/
theorem ready_of_ended (row : w.jobs.lookup jobId = some job) (supported : Supported job)
    (ended : job.status = .failed ∨ job.status = .deadLetter ∨ job.status = .cancelled) :
    BecomesReady settings w jobId job.payload := by
  obtain ⟨job', result, pending, clear, available⟩ : ∃ job', job.retry w.now = .ok job' ∧
      job'.status = .pending ∧ job'.cancelRequested = false ∧ job'.availableAt = w.now := by
    unfold BackgroundJobModel.retry
    rcases ended with status | status | status <;> rw [status] <;> exact ⟨_, rfl, rfl, rfl, rfl⟩
  have retried : w.jobs.retry jobId w.now = .ok (w.jobs.insert jobId job') := by
    simp only [JobStore.retry, JobStore.getForUpdate, row]
    exact bind_eq_ok.mpr ⟨job, rfl, bind_eq_ok.mpr ⟨job', result, rfl⟩⟩
  obtain ⟨jobs, resources, now⟩ := @retry_frame _ settings w jobId _ retried
  have step : RowStep job job' := .held (.retried result)
  refine .step rfl resources ⟨_, .refl, rfl, job', ?_, supported.step step, step.identified.payload,
    leasable_iff.mpr ⟨pending, ?_, clear⟩⟩
  · rw [jobs, AList.lookup_insert]
  · rw [available, now]

/-- A pending job is ready once it is cancelled and retried. -/
theorem ready_of_pending (row : w.jobs.lookup jobId = some job) (supported : Supported job)
    (pending : job.status = .pending) : BecomesReady settings w jobId job.payload := by
  obtain ⟨job', result, status⟩ : ∃ job', job.cancel w.now = .ok job' ∧
      job'.status = .cancelled := by
    unfold BackgroundJobModel.cancel
    rw [pending]
    exact ⟨_, rfl, rfl⟩
  have cancelled : w.jobs.cancel jobId w.now = .ok (w.jobs.insert jobId job') := by
    simp only [JobStore.cancel, JobStore.getForUpdate, row]
    exact bind_eq_ok.mpr ⟨job, rfl, bind_eq_ok.mpr ⟨job', result, rfl⟩⟩
  obtain ⟨jobs, resources, -⟩ := @cancel_frame _ settings w jobId _ cancelled
  have step : RowStep job job' := .held (.cancelled result)
  refine @BecomesReady.step _ settings w (.cancel jobId) _ _ rfl resources ?_
  rw [← step.identified.payload]
  refine ready_of_ended ?_ (supported.step step) (.inr (.inr status))
  rw [jobs, AList.lookup_insert]

end

/-! ### Leases that have run out -/

/-- All jobs but one, as the rows that other transactions hold. -/
def others (jobs : JobStore) (jobId : JobId) : List JobId :=
  jobs.keys.filter fun other => other ≠ jobId

theorem not_mem_others {jobs : JobStore} {jobId other : JobId} {job : BackgroundJobModel}
    (row : jobs.lookup other = some job) (free : (!(others jobs jobId).contains other) = true) :
    other = jobId := by
  by_contra ne
  have listed : other ∈ others jobs jobId :=
    List.mem_filter.mpr ⟨AList.mem_keys.mp (AList.lookup_isSome.mp (by rw [row]; rfl)), by simpa⟩
  simp [listed] at free

theorem contains_others (jobs : JobStore) (jobId : JobId) :
    (!(others jobs jobId).contains jobId) = true := by
  simp [others]

theorem batchLimit_pos (limit : Option Int) : 0 < JobStore.batchLimit settings limit := by
  unfold JobStore.batchLimit clamp
  omega

section

variable {jobId : JobId} {job : BackgroundJobModel}

/-- A running job is ready once its lease has run out, it is reclaimed and, as the case may be, it is
retried. -/
theorem ready_of_running (row : w.jobs.lookup jobId = some job) (supported : Supported job)
    (running : job.status = .running) : BecomesReady settings w jobId job.payload := by
  obtain ⟨expiry, lease⟩ := Option.isSome_iff_exists.mp
    (supported.consistent.leased.mp running).2.2.1
  have resources : (w.step settings (.tick expiry)).resources = w.resources := rfl
  refine @BecomesReady.step _ settings w (.tick expiry) _ _ rfl resources ?_
  generalize later : w.step settings (.tick expiry) = v
  have jobs : v.jobs = w.jobs := by rw [← later]; rfl
  have now : expiry ≤ v.now := by rw [← later]; exact Nat.le_add_left ..
  rw [← jobs] at row
  have stale : JobStore.stale v.now job = true := stale_iff.mpr ⟨running, expiry, lease, now⟩
  obtain ⟨job', result⟩ : ∃ job', job.reclaim settings.jobRetryBaseSeconds
      settings.jobRetryMaxSeconds v.now = .ok job' := supported.consistent.fail_total running
  have step : RowStep job job' := .held (.reclaimed stale result)
  have selection : v.jobs.reclaimSelection (JobStore.batchLimit settings none)
      (others v.jobs jobId) v.now = [jobId] := by
    refine Table.select_only row ?_ ?_ (batchLimit_pos none)
    · rw [stale, contains_others, Bool.and_self]
    · intro other job₀ row₀ chosen
      exact not_mem_others row₀ (Bool.and_eq_true_iff.mp chosen).2
  have reclaimed : (v.step settings (.reclaim none (others v.jobs jobId))).jobs =
      v.jobs.insert jobId job' := by
    have updated : Table.updateEach (fun _ => BackgroundJobModel.reclaim
        settings.jobRetryBaseSeconds settings.jobRetryMaxSeconds v.now) [jobId] v.jobs =
          .ok (v.jobs.insert jobId job') := Table.updateEach_one row result
    simp only [World.step, World.reclaim, JobStore.reclaimStale, selection, updated]
  have kept : (v.step settings (.reclaim none (others v.jobs jobId))).resources = v.resources := by
    simp only [World.step, World.reclaim]
    split <;> rfl
  refine .step rfl kept ?_
  have row' : (v.step settings (.reclaim none (others v.jobs jobId))).jobs.lookup jobId =
      some job' := by rw [reclaimed, AList.lookup_insert]
  rw [← step.identified.payload]
  obtain ⟨-, -, ⟨-, pending, -⟩ | ⟨-, dead, -⟩, -⟩ := BackgroundJobModel.fail_ok result
  · exact ready_of_pending row' (supported.step step) pending
  · exact ready_of_ended row' (supported.step step) (.inr (.inl dead))

/-- Any job that has not succeeded can be made ready. -/
theorem becomes_ready (row : w.jobs.lookup jobId = some job) (supported : Supported job)
    (unfinished : job.status ≠ .succeeded) : BecomesReady settings w jobId job.payload := by
  cases status : job.status with
  | pending => exact ready_of_pending row supported status
  | running => exact ready_of_running row supported status
  | succeeded => exact absurd status unfinished
  | failed => exact ready_of_ended row supported (.inl status)
  | deadLetter => exact ready_of_ended row supported (.inr (.inl status))
  | cancelled => exact ready_of_ended row supported (.inr (.inr status))

/-! ### The lease -/

/-- A run that is about to start the handler of a job, whose cancellation nobody has requested. -/
structure Starts (w : World H) (id : RunId) (payload : JobPayload) (run : ProcessRun H) : Prop where
  found : w.runs.lookup id = some run
  phase : run.phase = .starting
  calm : run.interrupted = false
  payload : run.job.payload = payload
  uncancelled : w.jobs.cancellationRequested run.job.jobId run.workerId = false

/-- The lease of the one job that is ready and not held by others. -/
theorem lease_one {workerId : String} (row : w.jobs.lookup jobId = some job)
    (supported : Supported job) (leasable : JobStore.leasable w.now job = true) :
    ∃ job', job.lease workerId settings.jobLeaseSeconds w.now = .ok job' ∧
      w.jobs.lease settings workerId none (others w.jobs jobId) w.now w.now =
        .ok ([job'.leasedJob jobId job.payload.jobType], w.jobs.insert jobId job') := by
  obtain ⟨job', result⟩ : ∃ job', job.lease workerId settings.jobLeaseSeconds w.now = .ok job' := by
    unfold BackgroundJobModel.lease
    rw [if_neg (by rw [supported.consistent.next_free]; exact Bool.false_ne_true)]
    exact ⟨_, rfl⟩
  refine ⟨job', result, ?_⟩
  have selection : w.jobs.leaseSelection (JobStore.batchLimit settings none)
      (others w.jobs jobId) w.now = [jobId] := by
    refine Table.select_only row ?_ ?_ (batchLimit_pos none)
    · rw [leasable, contains_others, Bool.and_self]
    · intro other job₀ row₀ chosen
      exact not_mem_others row₀ (Bool.and_eq_true_iff.mp chosen).2
  have updated : Table.updateEach (fun _ => BackgroundJobModel.lease workerId
      settings.jobLeaseSeconds w.now) [jobId] w.jobs = .ok (w.jobs.insert jobId job') :=
    Table.updateEach_one row result
  have known : JobType.ofValue job'.jobType = some job.payload.jobType := by
    rw [(lease_identified result).jobType]
    exact supported.known
  have batch : w.jobs.leaseBatch workerId (JobStore.batchLimit settings none)
      settings.jobLeaseSeconds (others w.jobs jobId) w.now =
        .ok ([jobId], w.jobs.insert jobId job') := by
    simp only [JobStore.leaseBatch, selection]
    exact bind_eq_ok.mpr ⟨_, updated, rfl⟩
  refine bind_eq_ok.mpr ⟨_, batch, ?_⟩
  simp only [JobStore.leasedJobs, AList.lookup_insert, known]
  rfl

/-- A run that starts its handler. -/
theorem Starts.begins {id : RunId} {payload : JobPayload} {run : ProcessRun H}
    (starts : Starts w id payload run) (answer : H.Answer) :
    (w.step settings (.process id answer)).resources = w.resources ∧
      (w.step settings (.process id answer)).jobs = w.jobs ∧
        ∃ run', (w.step settings (.process id answer)).runs.lookup id = some run' ∧
          run'.phase = .handling (H.start run.job) ∧ run'.interrupted = false ∧
            run'.job = run.job ∧ run'.workerId = run.workerId := by
  simp only [World.step, World.process, starts.found, starts.phase, ProcessRun.advance,
    World.setRun]
  exact ⟨trivial, trivial, _, AList.lookup_insert _, rfl, rfl, rfl, rfl⟩

/-- A worker without a batch leases the job that is ready. -/
theorem leased_of_ready {payload : JobPayload} (ready : Ready w jobId payload) :
    ∃ event : WorldEvent H, event.operates = true ∧
      (w.step settings event).resources = w.resources ∧
        ∃ id run, Starts (w.step settings event) id payload run := by
  obtain ⟨job, row, supported, rfl, leasable⟩ := ready
  obtain ⟨workerId, idle⟩ := Infinite.exists_notMem_finset w.batches.keys.toFinset
  have free : ¬(w.batches.lookup workerId).isSome := by
    rw [AList.lookup_isSome]
    exact fun member => idle (List.mem_toFinset.mpr (AList.mem_keys.mp member))
  obtain ⟨job', result, handed⟩ := @lease_one _ settings w jobId job workerId row supported leasable
  have identified := lease_identified result
  have clear : job'.cancelRequested = false := by
    obtain ⟨-, -, clear⟩ := leasable_iff.mp leasable
    simp only [BackgroundJobModel.lease] at result
    split at result
    · cases result
    · cases result
      exact clear
  refine ⟨.lease workerId none (others w.jobs jobId) w.now, rfl, ?_⟩
  simp only [World.step, World.lease, if_neg free, handed, World.beginRuns]
  refine ⟨trivial, w.nextRun, _, AList.lookup_insert _, rfl, rfl, identified.payload, ?_⟩
  simp [JobStore.cancellationRequested, BackgroundJobModel.leasedJob, clear]

/-- From any state, operations that leave the resources alone lead to the start of a run on any job
that has not succeeded. -/
theorem recalled (row : w.jobs.lookup jobId = some job) (supported : Supported job)
    (unfinished : job.status ≠ .succeeded) :
    ∃ w' : World H, Relation.ReflTransGen (Operates settings) w w' ∧
      w'.resources = w.resources ∧ ∃ id run, Starts w' id job.payload run := by
  obtain ⟨v, leads, kept, ready⟩ := @becomes_ready _ settings w jobId job row supported unfinished
  obtain ⟨event, operates, same, starts⟩ := @leased_of_ready _ settings v jobId _ ready
  exact ⟨_, leads.tail ⟨event, operates, rfl⟩, same.trans kept, starts⟩

end

/-! ### Jobs under a key -/

theorem findByIdempotencyKey_some {jobs : JobStore} {idempotencyKey : String} {jobId : JobId}
    (taken : jobs.findByIdempotencyKey idempotencyKey = some jobId) :
    ∃ job, jobs.lookup jobId = some job ∧ job.idempotencyKey = idempotencyKey := by
  unfold JobStore.findByIdempotencyKey at taken
  obtain ⟨entry, found, rfl⟩ := Option.map_eq_some_iff.mp taken
  exact ⟨entry.2, AList.mem_lookup_iff.mpr (List.mem_of_find?_eq_some found),
    of_decide_eq_true (List.find?_eq_some_iff_append.mp found).1⟩

theorem findByIdempotencyKey_eq_none {jobs : JobStore} {idempotencyKey : String}
    (unused : ∀ jobId job, jobs.lookup jobId = some job → job.idempotencyKey ≠ idempotencyKey) :
    jobs.findByIdempotencyKey idempotencyKey = none := by
  cases taken : jobs.findByIdempotencyKey idempotencyKey with
  | none => rfl
  | some jobId =>
    obtain ⟨job, row, key⟩ := findByIdempotencyKey_some taken
    exact absurd key (unused jobId job row)

theorem findByIdempotencyKey_isSome {jobs : JobStore} {jobId : JobId} {job : BackgroundJobModel}
    (row : jobs.lookup jobId = some job) :
    ∃ other, jobs.findByIdempotencyKey job.idempotencyKey = some other := by
  refine Option.isSome_iff_exists.mp ?_
  unfold JobStore.findByIdempotencyKey
  rw [Option.isSome_map, List.find?_isSome]
  exact ⟨⟨jobId, job⟩, AList.mem_lookup_iff.mp row, decide_eq_true rfl⟩

/-- No job is enqueued under a key that a job has. -/
theorem enqueue_taken {jobs jobs' : JobStore} {jobId jobId' other : JobId} {payload : JobPayload}
    {priority : Int} {maxAttempts : Option Int} {availableAt : Option Timestamp}
    {idempotencyKey : String} {now : Timestamp}
    (taken : jobs.findByIdempotencyKey idempotencyKey = some other)
    (enqueued : jobs.enqueue settings jobId payload priority maxAttempts availableAt
      idempotencyKey now = .ok (jobId', jobs')) : jobs' = jobs := by
  unfold JobStore.enqueue at enqueued
  simp only [taken] at enqueued
  split at enqueued
  · cases enqueued
  · cases enqueued
    rfl

/-- A job is enqueued under a key that no job has. -/
theorem enqueue_unused (settings : Settings) {jobs : JobStore} {idempotencyKey : String}
    (unused : jobs.findByIdempotencyKey idempotencyKey = none) (payload : JobPayload)
    (priority : Int) (availableAt : Option Timestamp) (now : Timestamp) :
    ∃ jobId job, NewJob job ∧ job.payload = payload ∧ job.status = .pending ∧
      jobs.enqueue settings jobId payload priority none availableAt idempotencyKey now =
        .ok (jobId, jobs.insert jobId job) := by
  obtain ⟨jobId, fresh⟩ := Infinite.exists_notMem_finset jobs.keys.toFinset
  have absent : jobId ∉ jobs :=
    fun member => fresh (List.mem_toFinset.mpr (AList.mem_keys.mp member))
  have positive : 0 < settings.jobMaxAttempts := settings.range.jobMaxAttempts.1
  have admitted : ¬(orDefault none settings.jobMaxAttempts ≤ 0 ∨ jobId ∈ jobs) := by
    rintro (zero | member)
    · have zero : (settings.jobMaxAttempts : Int) ≤ 0 := zero
      omega
    · exact absent member
  refine ⟨jobId, _, ⟨payload, priority, settings.jobMaxAttempts, availableAt, idempotencyKey, now,
    positive, rfl⟩, rfl, rfl, ?_⟩
  unfold JobStore.enqueue
  simp only [if_neg admitted, unused]
  rfl

end CyberLegends.Jobs
