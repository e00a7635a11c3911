import CyberLegends.Jobs.Steps

/-! The change that an event makes in the row of one job, in one run and in one call of an operator,
case by case, and the transaction that it commits on the resources. -/

namespace CyberLegends.Jobs

open CyberLegends.Core Lib

variable {H : HandlerSystem} {settings : Settings} {w : World H}

/-! ### The row of a job -/

/-- What an event does to the row of the job `jobId`. -/
inductive RowChange (settings : Settings) (w : World H) (jobId : JobId) :
    WorldEvent H → Option BackgroundJobModel → Option BackgroundJobModel → Prop
  | same (event row) : RowChange settings w jobId event row row
  | submitted {submission priority maxAttempts availableAt idempotencyKey payload}
      {write : JobId → H.Resources} (accepted : H.submit w.now submission w.resources =
        some (payload, write))
      (written : (w.step settings (.submit submission jobId priority maxAttempts availableAt
        idempotencyKey)).resources = write jobId) :
      RowChange settings w jobId
        (.submit submission jobId priority maxAttempts availableAt idempotencyKey) none
        (some (JobStore.newJob payload priority (orDefault maxAttempts settings.jobMaxAttempts).toNat
          availableAt idempotencyKey w.now))
  | completed {id answer run job job'} (found : w.runs.lookup id = some run)
      (phase : run.phase = .completing) (target : run.job.jobId = jobId)
      (owned : job.ownsLiveLease run.workerId w.now = true)
      (result : job.complete run.workerId w.now = .ok job') :
      RowChange settings w jobId (.process id answer) (some job) (some job')
  | failed {id answer run errorCode errorMessage retryable job job'}
      (found : w.runs.lookup id = some run)
      (phase : run.phase = .failing errorCode errorMessage retryable)
      (target : run.job.jobId = jobId) (owned : job.ownsLiveLease run.workerId w.now = true)
      (result : job.fail run.workerId errorCode errorMessage retryable
        settings.jobRetryBaseSeconds settings.jobRetryMaxSeconds w.now = .ok job') :
      RowChange settings w jobId (.process id answer) (some job) (some job')
  | markedCancelled {id answer run job job'} (found : w.runs.lookup id = some run)
      (phase : run.phase = .cancelling) (target : run.job.jobId = jobId)
      (owned : job.ownsLiveLease run.workerId w.now = true)
      (result : job.markCancelled run.workerId w.now = .ok job') :
      RowChange settings w jobId (.process id answer) (some job) (some job')
  | renewed {id run job} (found : w.runs.lookup id = some run)
      (renewing : run.heartbeat = .renewing) (target : run.job.jobId = jobId)
      (owned : job.ownsLiveLease run.workerId w.now = true) :
      RowChange settings w jobId (.heartbeat id) (some job)
        (some (job.renew settings.jobLeaseSeconds w.now))
  | reclaimed {limit locked job job'}
      (selected : jobId ∈ w.jobs.reclaimSelection (JobStore.batchLimit settings limit) locked w.now)
      (expired : JobStore.stale w.now job = true)
      (result : job.reclaim settings.jobRetryBaseSeconds settings.jobRetryMaxSeconds w.now =
        .ok job') :
      RowChange settings w jobId (.reclaim limit locked) (some job) (some job')
  | cancelled {job job'} (result : job.cancel w.now = .ok job') :
      RowChange settings w jobId (.cancel jobId) (some job) (some job')
  | requested {request resources job job'}
      (asked : H.request w.now request w.resources = some (resources, some jobId))
      (result : job.cancel w.now = .ok job') :
      RowChange settings w jobId (.request request) (some job) (some job')
  | retried {job job'} (result : job.retry w.now = .ok job') :
      RowChange settings w jobId (.retry jobId) (some job) (some job')
  | leased {workerId limit locked later job job'}
      (free : w.batches.lookup workerId = none)
      (selected : jobId ∈ w.jobs.leaseSelection (JobStore.batchLimit settings limit) locked w.now)
      (ready : JobStore.leasable w.now job = true)
      (result : job.lease workerId settings.jobLeaseSeconds w.now = .ok job') :
      RowChange settings w jobId (.lease workerId limit locked later) (some job) (some job')
  | unsupported {workerId limit locked later job taken job'}
      (ready : JobStore.leasable w.now job = true)
      (result : job.lease workerId settings.jobLeaseSeconds w.now = .ok taken)
      (unknown : JobType.ofValue taken.jobType = none)
      (failed : taken.fail workerId "UNKNOWN_JOB_TYPE" "Background job type is not supported" false
        settings.jobRetryBaseSeconds settings.jobRetryMaxSeconds later = .ok job') :
      RowChange settings w jobId (.lease workerId limit locked later) (some job) (some job')

/-- The write of one row that is there, as each key sees it. -/
theorem lookup_rewrite {store : JobStore} {target : JobId} {job : BackgroundJobModel}
    (row : store.lookup target = some job) (job' : BackgroundJobModel) (jobId : JobId) :
    (store.insert target job').lookup jobId = store.lookup jobId ∨
      target = jobId ∧ store.lookup jobId = some job ∧
        (store.insert target job').lookup jobId = some job' := by
  by_cases same : jobId = target
  · subst same
    exact .inr ⟨rfl, row, AList.lookup_insert _⟩
  · exact .inl (AList.lookup_insert_ne same)

theorem enqueue_cases {store store' : JobStore} {jobId jobId' : JobId} {payload : JobPayload}
    {priority : Int} {maxAttempts : Option Int} {availableAt : Option Timestamp}
    {idempotencyKey : String} {now : Timestamp}
    (h : store.enqueue settings jobId payload priority maxAttempts availableAt idempotencyKey now =
      .ok (jobId', store')) :
    store' = store ∨
      jobId' = jobId ∧ store.lookup jobId = none ∧
        store' = store.insert jobId (JobStore.newJob payload priority
          (orDefault maxAttempts settings.jobMaxAttempts).toNat availableAt idempotencyKey now) := by
  unfold JobStore.enqueue at h
  by_cases refused : orDefault maxAttempts settings.jobMaxAttempts ≤ 0 ∨ jobId ∈ store
  · simp only [if_pos refused] at h
    cases h
  · simp only [if_neg refused] at h
    have absent := AList.lookup_eq_none.mpr (not_or.mp refused).2
    cases duplicate : store.findByIdempotencyKey idempotencyKey with
    | some other =>
      simp only [duplicate] at h
      cases h
      exact .inl rfl
    | none =>
      simp only [duplicate] at h
      cases h
      exact .inr ⟨rfl, absent, rfl⟩

/-- A listed row is left as it is, or failed because its type is not supported. -/
theorem leasedJobs_row {store store' : JobStore} {workerId : String} {now : Timestamp}
    {jobIds : List JobId} {leased : List LeasedJob} (nodup : jobIds.Nodup)
    (h : JobStore.leasedJobs settings workerId now jobIds store = .ok (leased, store'))
    {jobId : JobId} {job : BackgroundJobModel} (row : store.lookup jobId = some job) :
    store'.lookup jobId = some job ∨
      JobType.ofValue job.jobType = none ∧ ∃ job',
        job.fail workerId "UNKNOWN_JOB_TYPE" "Background job type is not supported" false
          settings.jobRetryBaseSeconds settings.jobRetryMaxSeconds now = .ok job' ∧
        store'.lookup jobId = some job' := by
  induction jobIds generalizing store leased with
  | nil => cases h; exact .inl row
  | cons first jobIds ih =>
    obtain ⟨fresh, nodup⟩ := List.nodup_cons.mp nodup
    obtain ⟨-, h⟩ | ⟨found, found', there, unknown, -, failed, h⟩ | ⟨_, _, rest, -, -, h, -⟩ :=
      leasedJobs_cons h
    · exact ih nodup h row
    · obtain unchanged | ⟨rfl, held, written⟩ := lookup_rewrite there found' jobId
      · exact ih nodup h (by rw [unchanged]; exact row)
      · obtain rfl := Option.some.inj (row.symm.trans held)
        refine .inr ⟨unknown, found', failed, ?_⟩
        rw [(leasedJobs_spec nodup h).1 first fresh, written]
    · exact ih nodup h row

theorem lease_row {workerId : String} {limit : Option Int} {locked : List JobId}
    {later : Timestamp} {leased : List LeasedJob} {jobs : JobStore}
    (free : w.batches.lookup workerId = none)
    (handed : w.jobs.lease settings workerId limit locked w.now later = .ok (leased, jobs))
    (jobId : JobId) :
    RowChange settings w jobId (.lease workerId limit locked later) (w.jobs.lookup jobId)
      (jobs.lookup jobId) := by
  by_cases selected : jobId ∈
      w.jobs.leaseSelection (JobStore.batchLimit settings limit) locked w.now
  · obtain ⟨⟨jobIds, after⟩, batch, rest⟩ := bind_eq_ok.mp handed
    simp only [JobStore.leaseBatch, bind_eq_ok] at batch
    obtain ⟨middle, updated, result⟩ := batch
    cases result
    obtain ⟨job, row, ready⟩ := leaseSelection_spec selected
    obtain ⟨taken, leasing, takenRow⟩ :=
      Table.updateEach_mem leaseSelection_nodup updated selected row
    rw [row]
    obtain kept | ⟨unknown, job', failed, row'⟩ :=
      leasedJobs_row leaseSelection_nodup rest takenRow
    · rw [kept]
      exact .leased free selected ready leasing
    · rw [row']
      exact .unsupported ready leasing unknown failed
  · rw [(lease_spec handed).1 jobId selected]
    exact .same _ _

theorem advance_row {id : RunId} {run : ProcessRun H} (found : w.runs.lookup id = some run)
    (answer : H.Answer) (jobId : JobId) :
    RowChange settings w jobId (.process id answer) (w.jobs.lookup jobId)
      ((run.advance settings w.now answer w.jobs w.resources).1.lookup jobId) := by
  unfold ProcessRun.advance
  split
  · exact .same _ _
  · exact .same _ _
  · exact .same _ _
  · exact .same _ _
  · exact .same _ _
  · rename_i phase
    split
    · rename_i done
      obtain ⟨job, job', row, owned, result, rfl⟩ := complete_ok done
      obtain same | ⟨target, row', written⟩ := lookup_rewrite row job' jobId
      · simp only [same]
        exact .same _ _
      · simp only [row', written]
        exact .completed found phase target owned result
    · exact .same _ _
  · rename_i errorCode errorMessage retryable phase
    split
    · rename_i done
      obtain ⟨job, job', row, owned, result, rfl⟩ := fail_ok done
      obtain same | ⟨target, row', written⟩ := lookup_rewrite row job' jobId
      · simp only [same]
        exact .same _ _
      · simp only [row', written]
        exact .failed found phase target owned result
    · exact .same _ _
  · rename_i phase
    split
    · rename_i done
      obtain ⟨job, job', row, owned, result, rfl⟩ := markCancelled_ok done
      obtain same | ⟨target, row', written⟩ := lookup_rewrite row job' jobId
      · simp only [same]
        exact .same _ _
      · simp only [row', written]
        exact .markedCancelled found phase target owned result
    · exact .same _ _
  · exact .same _ _
  · exact .same _ _
  · exact .same _ _

theorem step_row (w : World H) (event : WorldEvent H) (jobId : JobId) :
    RowChange settings w jobId event (w.jobs.lookup jobId)
      ((w.step settings event).jobs.lookup jobId) := by
  cases event with
  | tick | callDies | crash => exact .same _ _
  | submit submission target priority maxAttempts availableAt idempotencyKey =>
    have written : ∀ {payload write jobId' jobs},
        H.submit w.now submission w.resources = some (payload, write) →
        w.jobs.enqueue settings target payload priority maxAttempts availableAt idempotencyKey
          w.now = .ok (jobId', jobs) →
        w.step settings (.submit submission target priority maxAttempts availableAt
          idempotencyKey) = { w with jobs, resources := write jobId' } := by
      intro payload write jobId' jobs accepted result
      simp only [World.step, World.submit, accepted, result]
    cases accepted : H.submit w.now submission w.resources with
    | none =>
      simp only [World.step, World.submit, accepted]
      exact .same _ _
    | some accepted' =>
      obtain ⟨payload, write⟩ := accepted'
      cases result : w.jobs.enqueue settings target payload priority maxAttempts availableAt
          idempotencyKey w.now with
      | error =>
        simp only [World.step, World.submit, accepted, result]
        exact .same _ _
      | ok result' =>
        obtain ⟨jobId', jobs⟩ := result'
        rw [written accepted result]
        obtain rfl | ⟨rfl, absent, rfl⟩ := enqueue_cases result
        · exact .same _ _
        · by_cases same : jobId = jobId'
          · subst same
            simp only [absent, AList.lookup_insert]
            refine .submitted accepted ?_
            rw [written accepted result]
          · simp only [AList.lookup_insert_ne same]
            exact .same _ _
  | lease workerId limit locked later =>
    simp only [World.step]
    obtain same | ⟨free, leased, jobs, batches, handed, after⟩ :=
      @lease_cases _ settings w workerId limit locked later
    · rw [same]
      exact .same _ _
    · rw [after]
      exact lease_row free handed jobId
  | reclaim limit locked =>
    simp only [World.step, World.reclaim]
    split
    · exact .same _ _
    · rename_i updated
      obtain ⟨same, -⟩ | ⟨selected, job, job', row, result, row'⟩ :=
        Table.updateEach_lookup reclaimSelection_nodup updated jobId
      · simp only [same]
        exact .same _ _
      · obtain ⟨found, row₀, expired⟩ := reclaimSelection_spec selected
        obtain rfl := Option.some.inj (row.symm.trans row₀)
        simp only [row, row']
        exact .reclaimed selected expired result
  | process id answer =>
    simp only [World.step, World.process]
    split
    · exact .same _ _
    · rename_i run found
      split
      · exact .same _ _
      · exact advance_row found answer jobId
  | interrupt =>
    simp only [World.step, World.interrupt]
    split
    · exact .same _ _
    · split
      · split <;> exact .same _ _
      · exact .same _ _
  | fault =>
    simp only [World.step, World.fault]
    split
    · exact .same _ _
    · split <;> exact .same _ _
  | heartbeat id =>
    simp only [World.step, World.heartbeat]
    split
    · exact .same _ _
    · rename_i run found
      split
      · exact .same _ _
      · exact .same _ _
      · split <;> exact .same _ _
      · rename_i renewing
        obtain lost | ⟨job, row, owned, renewed⟩ := heartbeat_cases w.jobs run.job.jobId
          run.workerId settings.jobLeaseSeconds w.now
        · simp only [lost]
          exact .same _ _
        · simp only [renewed]
          obtain same | ⟨target, row', written⟩ :=
            lookup_rewrite row (job.renew settings.jobLeaseSeconds w.now) jobId
          · simp only [if_true, World.setRun, same]
            exact .same _ _
          · simp only [if_true, World.setRun, row', written]
            exact .renewed found renewing target owned
  | heartbeatDies =>
    simp only [World.step, World.heartbeatDies]
    split <;> exact .same _ _
  | cancel target =>
    have changed : ∀ {jobs}, w.jobs.cancel target w.now = .ok jobs →
        RowChange settings w jobId (.cancel target) (w.jobs.lookup jobId) (jobs.lookup jobId) := by
      intro jobs done
      obtain ⟨job, job', row, result, rfl⟩ := cancel_ok done
      obtain same | ⟨rfl, row', written⟩ := lookup_rewrite row job' jobId
      · rw [same]
        exact .same _ _
      · rw [row', written]
        exact .cancelled result
    simp only [World.step, World.cancel]
    split
    · exact .same _ _
    · split
      · exact changed ‹_›
      · split <;> exact changed ‹_›
  | retry target =>
    have changed : ∀ {jobs}, w.jobs.retry target w.now = .ok jobs →
        RowChange settings w jobId (.retry target) (w.jobs.lookup jobId) (jobs.lookup jobId) := by
      intro jobs done
      obtain ⟨job, job', row, result, rfl⟩ := retry_ok done
      obtain same | ⟨rfl, row', written⟩ := lookup_rewrite row job' jobId
      · rw [same]
        exact .same _ _
      · rw [row', written]
        exact .retried result
    simp only [World.step, World.retry]
    split
    · exact .same _ _
    · split <;> exact changed ‹_›
  | call =>
    simp only [World.step, World.call]
    split
    · exact .same _ _
    · split <;> exact .same _ _
  | request request =>
    simp only [World.step, World.request]
    split
    · exact .same _ _
    · exact .same _ _
    · rename_i resources target asked
      split
      · exact .same _ _
      · rename_i done
        obtain ⟨job, job', row, result, rfl⟩ := cancel_ok done
        obtain same | ⟨rfl, row', written⟩ := lookup_rewrite row job' jobId
        · simp only [same]
          exact .same _ _
        · simp only [row', written]
          exact .requested asked result

/-! ### A run -/

/-- What an event does to the run `id`. -/
inductive RunChange (settings : Settings) (w : World H) (id : RunId) :
    WorldEvent H → Option (ProcessRun H) → Option (ProcessRun H) → Prop
  | same (event run) (quiet : ∀ answer, event = .process id answer → run = none) :
      RunChange settings w id event run run
  | advanced {answer run} (goesOn : ∀ raised, run.phase ≠ .closing raised) :
      RunChange settings w id (.process id answer) (some run)
        (some { run with
          phase := (run.advance settings w.now answer w.jobs w.resources).2.2
          heartbeat := match run.phase with
            | .starting => .sleeping
            | _ => run.heartbeat
          interrupted := false })
  | closed {answer run raised} (phase : run.phase = .closing raised) :
      RunChange settings w id (.process id answer) (some run) none
  | interrupted {run handler} (phase : run.phase = .handling handler)
      (raised : run.interrupted = true) :
      RunChange settings w id (.interrupt id) (some run)
        (some { run with phase := run.afterInterrupt handler, interrupted := false })
  | faulted {retryable run phase} (next : run.afterFault retryable = some phase) :
      RunChange settings w id (.fault id retryable) (some run) (some { run with phase })
  | dropped {retryable run} (lapsed : run.afterFault retryable = none) :
      RunChange settings w id (.fault id retryable) (some run) none
  | beaten {event run heartbeat leaseLost cancellation interrupted}
      (beat : event = .heartbeat id ∨ event = .heartbeatDies id) :
      RunChange settings w id event (some run)
        (some { run with heartbeat, leaseLost, cancellation, interrupted })
  | renewed {run job} (renewing : run.heartbeat = .renewing)
      (row : w.jobs.lookup run.job.jobId = some job)
      (owned : job.ownsLiveLease run.workerId w.now = true) :
      RunChange settings w id (.heartbeat id) (some run)
        (some { run with
          heartbeat := .sleeping
          leaseUntil := w.now + seconds settings.jobLeaseSeconds })
  | crashed {run} : RunChange settings w id (.crash run.workerId) (some run) none
  | leased {workerId limit locked later leased jobs i job run}
      (free : w.batches.lookup workerId = none)
      (handed : w.jobs.lease settings workerId limit locked w.now later = .ok (leased, jobs))
      (after : (w.step settings (.lease workerId limit locked later)).jobs = jobs)
      (place : leased[i]? = some job) (position : id = w.nextRun + i)
      (below : id < (w.step settings (.lease workerId limit locked later)).nextRun) :
      RunChange settings w id (.lease workerId limit locked later) run
        (some { workerId, job, leaseUntil := w.now + seconds settings.jobLeaseSeconds })

theorem RunChange.unchanged {id : RunId} {event : WorldEvent H} {run run' : Option (ProcessRun H)}
    (same : run' = run) (quiet : ∀ answer, event = .process id answer → run = none) :
    RunChange settings w id event run run' := by
  subst same
  exact .same _ _ quiet

theorem beginRuns_row (workerId : String) (leaseUntil : Timestamp) (leased : List LeasedJob)
    (next : RunId) (runs : Table RunId (ProcessRun H)) (id : RunId) :
    (World.beginRuns workerId leaseUntil leased next runs).lookup id = runs.lookup id ∨
      ∃ i job, leased[i]? = some job ∧ id = next + i ∧
        (World.beginRuns workerId leaseUntil leased next runs).lookup id =
          some { workerId, job, leaseUntil } := by
  induction leased generalizing next runs with
  | nil => exact .inl rfl
  | cons first leased ih =>
    rw [World.beginRuns]
    obtain same | ⟨i, job, place, position, row⟩ :=
      ih (next + 1) (runs.insert next { workerId, job := first, leaseUntil })
    · rw [same]
      by_cases here : id = next
      · subst here
        exact .inr ⟨0, first, rfl, rfl, AList.lookup_insert _⟩
      · exact .inl (AList.lookup_insert_ne here)
    · exact .inr ⟨i + 1, job, by simpa using place, by rw [position, Nat.add_assoc, Nat.add_comm 1],
        row⟩

/-- The write of one run, as each identifier sees it. -/
theorem setRun_row {target : RunId} {run : ProcessRun H}
    (found : w.runs.lookup target = some run) (run' : ProcessRun H) (id : RunId) :
    id ≠ target ∧ (w.setRun target run').runs.lookup id = w.runs.lookup id ∨
      target = id ∧ w.runs.lookup id = some run ∧
        (w.setRun target run').runs.lookup id = some run' := by
  by_cases same : id = target
  · subst same
    exact .inr ⟨rfl, found, AList.lookup_insert _⟩
  · exact .inl ⟨same, AList.lookup_insert_ne same⟩

theorem release_row {target : RunId} {run : ProcessRun H}
    (found : w.runs.lookup target = some run) (raised : Bool) (id : RunId) :
    id ≠ target ∧ (w.release target run raised).runs.lookup id = w.runs.lookup id ∨
      target = id ∧ w.runs.lookup id = some run ∧
        (w.release target run raised).runs.lookup id = none := by
  by_cases same : id = target
  · subst same
    exact .inr ⟨rfl, found, AList.lookup_erase _ _⟩
  · exact .inl ⟨same, AList.lookup_erase_ne same⟩

theorem step_run (w : World H) (event : WorldEvent H) (id : RunId) :
    RunChange settings w id event (w.runs.lookup id)
      ((w.step settings event).runs.lookup id) := by
  have calm : ∀ event : WorldEvent H, (∀ answer, event ≠ .process id answer) → ∀ answer,
      event = .process id answer → w.runs.lookup id = none :=
    fun _ other answer isProcess => absurd isProcess (other answer)
  cases event with
  | tick | callDies => exact .same _ _ (calm _ (by intro _ h; cases h))
  | submit =>
    simp only [World.step, World.submit]
    split
    · exact .same _ _ (calm _ (by intro _ h; cases h))
    · split <;> exact .same _ _ (calm _ (by intro _ h; cases h))
  | lease workerId limit locked later =>
    obtain same | ⟨free, leased, jobs, batches, handed, after⟩ :=
      @lease_cases _ settings w workerId limit locked later
    · simp only [World.step, same]
      exact .same _ _ (calm _ (by intro _ h; cases h))
    · have stepped : w.step settings (.lease workerId limit locked later) = _ := after
      obtain kept | ⟨i, job, place, position, row⟩ := beginRuns_row workerId
        (w.now + seconds settings.jobLeaseSeconds) leased w.nextRun w.runs id
      · simp only [stepped, kept]
        exact .same _ _ (calm _ (by intro _ h; cases h))
      · simp only [stepped, row]
        refine .leased free handed (by rw [stepped]) place position ?_
        rw [stepped]
        obtain ⟨bound, -⟩ := List.getElem?_eq_some_iff.mp place
        rw [position]
        exact Nat.add_lt_add_left bound _
  | reclaim =>
    simp only [World.step, World.reclaim]
    split <;> exact .same _ _ (calm _ (by intro _ h; cases h))
  | process target answer =>
    simp only [World.step, World.process]
    split
    · rename_i absent
      refine .same _ _ ?_
      rintro _ h
      cases h
      exact absent
    · rename_i run found
      split
      · rename_i raised phase
        obtain ⟨other, same⟩ | ⟨rfl, row, gone⟩ := release_row found raised id
        · rw [same]
          exact .same _ _ (calm _ (by intro _ h; cases h; exact other rfl))
        · rw [row, gone]
          exact .closed phase
      · rename_i phase goesOn
        obtain ⟨other, same⟩ | ⟨rfl, row, written⟩ :=
          @setRun_row _ { w with
              jobs := (run.advance settings w.now answer w.jobs w.resources).1
              resources := (run.advance settings w.now answer w.jobs w.resources).2.1 } _ _ found
            { run with
              phase := (run.advance settings w.now answer w.jobs w.resources).2.2
              heartbeat := match run.phase with
                | .starting => .sleeping
                | _ => run.heartbeat
              interrupted := false } id
        · exact .unchanged same (calm _ (by intro _ h; cases h; exact other rfl))
        · refine written ▸ row ▸ ?_
          exact .advanced goesOn
  | interrupt target =>
    simp only [World.step, World.interrupt]
    split
    · exact .same _ _ (calm _ (by intro _ h; cases h))
    · rename_i run found
      split
      · rename_i handler phase
        split
        · rename_i raised
          obtain ⟨-, same⟩ | ⟨rfl, row, written⟩ := setRun_row found
            { run with phase := run.afterInterrupt handler, interrupted := false } id
          · rw [same]
            exact .same _ _ (calm _ (by intro _ h; cases h))
          · rw [row, written]
            exact .interrupted phase raised
        · exact .same _ _ (calm _ (by intro _ h; cases h))
      · exact .same _ _ (calm _ (by intro _ h; cases h))
  | fault target retryable =>
    simp only [World.step, World.fault]
    split
    · exact .same _ _ (calm _ (by intro _ h; cases h))
    · rename_i run found
      split
      · rename_i lapsed
        obtain ⟨-, same⟩ | ⟨rfl, row, gone⟩ := release_row found true id
        · rw [same]
          exact .same _ _ (calm _ (by intro _ h; cases h))
        · rw [row, gone]
          exact .dropped lapsed
      · rename_i phase next
        obtain ⟨-, same⟩ | ⟨rfl, row, written⟩ := setRun_row found { run with phase } id
        · rw [same]
          exact .same _ _ (calm _ (by intro _ h; cases h))
        · rw [row, written]
          exact .faulted next
  | heartbeat target =>
    simp only [World.step, World.heartbeat]
    split
    · exact .same _ _ (calm _ (by intro _ h; cases h))
    · rename_i run found
      have beaten : ∀ {w' : World H} {run' : ProcessRun H},
          w'.runs = w.runs → (∃ heartbeat leaseLost cancellation interrupted, run' =
            { run with heartbeat, leaseLost, cancellation, interrupted }) →
          RunChange settings w id (.heartbeat target) (w.runs.lookup id)
            ((w'.setRun target run').runs.lookup id) := by
        rintro w' _ same ⟨heartbeat, leaseLost, cancellation, interrupted, rfl⟩
        obtain ⟨-, kept⟩ | ⟨rfl, row, written⟩ := @setRun_row _ w' _ _
          (by rw [same]; exact found)
          { run with heartbeat, leaseLost, cancellation, interrupted } id
        · rw [kept, same]
          exact .same _ _ (calm _ (by intro _ h; cases h))
        · rw [same] at row
          rw [row, written]
          exact .beaten (.inl rfl)
      split
      · exact .same _ _ (calm _ (by intro _ h; cases h))
      · exact beaten rfl ⟨_, run.leaseLost, run.cancellation, run.interrupted, rfl⟩
      · split
        · exact beaten rfl ⟨_, _, _, _, rfl⟩
        · exact beaten rfl ⟨_, run.leaseLost, run.cancellation, run.interrupted, rfl⟩
      · rename_i renewing
        obtain lost | ⟨job, row, owned, renewed⟩ := heartbeat_cases w.jobs run.job.jobId
          run.workerId settings.jobLeaseSeconds w.now
        · simp only [lost]
          exact beaten rfl ⟨_, _, _, _, rfl⟩
        · simp only [renewed, if_true]
          obtain ⟨-, same⟩ | ⟨rfl, there, written⟩ := @setRun_row _ { w with
              jobs := w.jobs.insert run.job.jobId (job.renew settings.jobLeaseSeconds w.now) }
            _ _ found { run with
              heartbeat := .sleeping
              leaseUntil := w.now + seconds settings.jobLeaseSeconds } id
          · exact .unchanged same (calm _ (by intro _ h; cases h))
          · refine written ▸ there ▸ ?_
            exact .renewed renewing row owned
  | heartbeatDies target =>
    simp only [World.step, World.heartbeatDies]
    split
    · exact .same _ _ (calm _ (by intro _ h; cases h))
    · rename_i run found
      have beaten : RunChange settings w target (.heartbeatDies target) (some run)
          (some { run with
            heartbeat := .stopped
            leaseLost := run.leaseLost
            cancellation := run.cancellation
            interrupted := run.interrupted }) := .beaten (.inr rfl)
      obtain ⟨-, same⟩ | ⟨rfl, row, written⟩ :=
        setRun_row found { run with heartbeat := .stopped } id
      · rw [same]
        exact .same _ _ (calm _ (by intro _ h; cases h))
      · rw [row, written]
        exact beaten
  | crash workerId =>
    simp only [World.step, World.crash]
    cases row : w.runs.lookup id with
    | none =>
      have gone : (w.runs.keep fun _ run => run.workerId ≠ workerId).lookup id = none := by
        cases kept : (w.runs.keep fun _ run => run.workerId ≠ workerId).lookup id with
        | none => rfl
        | some run => rw [(Table.lookup_keep.mp kept).1] at row; cases row
      rw [gone]
      exact .same _ _ (by intro _ h; cases h)
    | some run =>
      by_cases mine : run.workerId = workerId
      · have gone : (w.runs.keep fun _ run => run.workerId ≠ workerId).lookup id = none := by
          cases kept : (w.runs.keep fun _ run => run.workerId ≠ workerId).lookup id with
          | none => rfl
          | some run' =>
            obtain ⟨row', other⟩ := Table.lookup_keep.mp kept
            obtain rfl := Option.some.inj (row.symm.trans row')
            simp [mine] at other
        subst mine
        rw [gone]
        exact .crashed
      · have kept : (w.runs.keep fun _ run => run.workerId ≠ workerId).lookup id = some run :=
          Table.lookup_keep.mpr ⟨row, by simpa using mine⟩
        rw [kept]
        exact .same _ _ (by intro _ h; cases h)
  | cancel =>
    simp only [World.step, World.cancel]
    split
    · exact .same _ _ (calm _ (by intro _ h; cases h))
    · split
      · exact .same _ _ (calm _ (by intro _ h; cases h))
      · split <;> exact .same _ _ (calm _ (by intro _ h; cases h))
  | retry =>
    simp only [World.step, World.retry]
    split
    · exact .same _ _ (calm _ (by intro _ h; cases h))
    · split <;> exact .same _ _ (calm _ (by intro _ h; cases h))
  | call =>
    simp only [World.step, World.call]
    split
    · exact .same _ _ (calm _ (by intro _ h; cases h))
    · split <;> exact .same _ _ (calm _ (by intro _ h; cases h))
  | request =>
    simp only [World.step, World.request]
    split
    · exact .same _ _ (calm _ (by intro _ h; cases h))
    · exact .same _ _ (calm _ (by intro _ h; cases h))
    · split <;> exact .same _ _ (calm _ (by intro _ h; cases h))

/-! ### The numbers of runs -/

/-- Every run has a number below the next one. -/
def RunsBelow (w : World H) : Prop := ∀ id run, w.runs.lookup id = some run → id < w.nextRun

theorem step_nextRun (w : World H) (event : WorldEvent H) :
    w.nextRun ≤ (w.step settings event).nextRun := by
  cases event with
  | tick | callDies | crash => exact Nat.le_refl _
  | lease workerId limit locked later =>
    simp only [World.step, World.lease]
    split
    · exact Nat.le_refl _
    · split
      · exact Nat.le_refl _
      · exact Nat.le_add_right _ _
  | process id answer =>
    simp only [World.step, World.process]
    split
    · exact Nat.le_refl _
    · split <;> exact Nat.le_refl _
  | interrupt id =>
    simp only [World.step, World.interrupt]
    split
    · exact Nat.le_refl _
    · split
      · split <;> exact Nat.le_refl _
      · exact Nat.le_refl _
  | heartbeat id =>
    simp only [World.step, World.heartbeat]
    split
    · exact Nat.le_refl _
    · split
      · exact Nat.le_refl _
      · exact Nat.le_refl _
      · split <;> exact Nat.le_refl _
      · split <;> exact Nat.le_refl _
  | reclaim | heartbeatDies =>
    simp only [World.step, World.reclaim, World.heartbeatDies]
    split <;> exact Nat.le_refl _
  | submit | fault | call =>
    simp only [World.step, World.submit, World.fault, World.call]
    split
    · exact Nat.le_refl _
    · split <;> exact Nat.le_refl _
  | cancel | retry =>
    simp only [World.step, World.cancel, World.retry]
    split
    · exact Nat.le_refl _
    · split
      · exact Nat.le_refl _
      · first
        | exact Nat.le_refl _
        | (split <;> exact Nat.le_refl _)
  | request =>
    simp only [World.step, World.request]
    split
    · exact Nat.le_refl _
    · exact Nat.le_refl _
    · split <;> exact Nat.le_refl _

theorem runsBelow_init (resources : H.Resources) : RunsBelow { resources : World H } := by
  intro id run found
  cases found

theorem runsBelow_step {event : WorldEvent H} (below : RunsBelow w) :
    RunsBelow (w.step settings event) := by
  intro id run' found'
  have change := @step_run _ settings w event id
  have grows := @step_nextRun _ settings w event
  rw [found'] at change
  generalize before : w.runs.lookup id = run at change
  cases change with
  | leased _ _ _ _ _ bound => exact bound
  | _ => exact Nat.lt_of_lt_of_le (below id _ before) grows

/-! ### A call of an operator -/

/-- What an event does to the call `id`. -/
inductive CallChange (settings : Settings) (w : World H) (id : CallId) :
    WorldEvent H → Option (ApiCall H) → Option (ApiCall H) → Prop
  | same (event call) (quiet : event = .call id → call = none) :
      CallChange settings w id event call call
  | cancels {jobId job call}
      (view : World.leasedView (w.step settings (.cancel jobId)).jobs jobId = some job) :
      CallChange settings w id (.cancel jobId) call (some { kind := .cancel, job })
  | retries {jobId job call}
      (view : World.leasedView (w.step settings (.retry jobId)).jobs jobId = some job) :
      CallChange settings w id (.retry jobId) call (some { kind := .retry, job })
  | reads {call read} (unread : call.read = none)
      (loaded : read = match call.kind with
        | .cancel => H.reconcileRead w.resources call.job
        | .retry => H.prepareRetryRead w.resources call.job) :
      CallChange settings w id (.call id) (some call) (some { call with read := some read })
  | ended {call} : CallChange settings w id (.call id) (some call) none
  | died {call} : CallChange settings w id (.callDies id) call none

theorem step_call (w : World H) (event : WorldEvent H) (id : CallId) :
    CallChange settings w id event (w.calls.lookup id)
      ((w.step settings event).calls.lookup id) := by
  have calm : ∀ event : WorldEvent H, event ≠ .call id → event = .call id →
      w.calls.lookup id = none := fun _ other isCall => absurd isCall other
  cases event with
  | tick | crash => exact .same _ _ (calm _ (by intro h; cases h))
  | callDies target =>
    simp only [World.step]
    by_cases same : id = target
    · subst same
      rw [AList.lookup_erase]
      exact .died
    · rw [AList.lookup_erase_ne same]
      exact .same _ _ (calm _ (by intro h; cases h))
  | submit =>
    simp only [World.step, World.submit]
    split
    · exact .same _ _ (calm _ (by intro h; cases h))
    · split <;> exact .same _ _ (calm _ (by intro h; cases h))
  | lease workerId limit locked later =>
    simp only [World.step]
    obtain same | ⟨free, leased, jobs, batches, handed, after⟩ :=
      @lease_cases _ settings w workerId limit locked later
    · rw [same]
      exact .same _ _ (calm _ (by intro h; cases h))
    · rw [after]
      exact .same _ _ (calm _ (by intro h; cases h))
  | reclaim =>
    simp only [World.step, World.reclaim]
    split <;> exact .same _ _ (calm _ (by intro h; cases h))
  | process =>
    simp only [World.step, World.process]
    split
    · exact .same _ _ (calm _ (by intro h; cases h))
    · split <;> exact .same _ _ (calm _ (by intro h; cases h))
  | interrupt =>
    simp only [World.step, World.interrupt]
    split
    · exact .same _ _ (calm _ (by intro h; cases h))
    · split
      · split <;> exact .same _ _ (calm _ (by intro h; cases h))
      · exact .same _ _ (calm _ (by intro h; cases h))
  | fault =>
    simp only [World.step, World.fault]
    split
    · exact .same _ _ (calm _ (by intro h; cases h))
    · split <;> exact .same _ _ (calm _ (by intro h; cases h))
  | heartbeat =>
    simp only [World.step, World.heartbeat]
    split
    · exact .same _ _ (calm _ (by intro h; cases h))
    · split
      · exact .same _ _ (calm _ (by intro h; cases h))
      · exact .same _ _ (calm _ (by intro h; cases h))
      · split <;> exact .same _ _ (calm _ (by intro h; cases h))
      · split <;> exact .same _ _ (calm _ (by intro h; cases h))
  | heartbeatDies =>
    simp only [World.step, World.heartbeatDies]
    split <;> exact .same _ _ (calm _ (by intro h; cases h))
  | cancel jobId =>
    cases done : w.jobs.cancel jobId w.now with
    | error =>
      simp only [World.step, World.cancel, done]
      exact .same _ _ (calm _ (by intro h; cases h))
    | ok jobs =>
      have after : (w.step settings (.cancel jobId)).jobs = jobs := by
        simp only [World.step, World.cancel, done]
        split
        · rfl
        · split <;> rfl
      cases view : World.leasedView jobs jobId with
      | none =>
        simp only [World.step, World.cancel, done, view]
        exact .same _ _ (calm _ (by intro h; cases h))
      | some job =>
        by_cases dead : (jobs.lookup jobId).any (fun row => row.status = .cancelled) = true
        · have begun : w.step settings (.cancel jobId) =
              { w with jobs }.beginCall .cancel job := by
            simp only [World.step, World.cancel, done, view]
            exact if_pos dead
          have calls : (w.step settings (.cancel jobId)).calls =
              w.calls.insert w.nextCall { kind := .cancel, job } := by rw [begun]; rfl
          rw [calls]
          by_cases same : id = w.nextCall
          · subst same
            rw [AList.lookup_insert]
            exact .cancels (by rw [after]; exact view)
          · rw [AList.lookup_insert_ne same]
            exact .same _ _ (calm _ (by intro h; cases h))
        · have kept : w.step settings (.cancel jobId) = { w with jobs } := by
            simp only [World.step, World.cancel, done, view]
            exact if_neg dead
          rw [kept]
          exact .same _ _ (calm _ (by intro h; cases h))
  | retry jobId =>
    cases done : w.jobs.retry jobId w.now with
    | error =>
      simp only [World.step, World.retry, done]
      exact .same _ _ (calm _ (by intro h; cases h))
    | ok jobs =>
      cases view : World.leasedView jobs jobId with
      | none =>
        simp only [World.step, World.retry, done, view]
        exact .same _ _ (calm _ (by intro h; cases h))
      | some job =>
        have begun : w.step settings (.retry jobId) = { w with jobs }.beginCall .retry job := by
          simp only [World.step, World.retry, done, view]
        have calls : (w.step settings (.retry jobId)).calls =
            w.calls.insert w.nextCall { kind := .retry, job } := by rw [begun]; rfl
        rw [calls]
        by_cases same : id = w.nextCall
        · subst same
          rw [AList.lookup_insert]
          exact .retries (by rw [begun]; exact view)
        · rw [AList.lookup_insert_ne same]
          exact .same _ _ (calm _ (by intro h; cases h))
  | request =>
    simp only [World.step, World.request]
    split
    · exact .same _ _ (calm _ (by intro h; cases h))
    · exact .same _ _ (calm _ (by intro h; cases h))
    · split <;> exact .same _ _ (calm _ (by intro h; cases h))
  | call target =>
    simp only [World.step, World.call]
    split
    · rename_i absent
      refine .same _ _ ?_
      intro h
      cases h
      exact absent
    · rename_i call found
      by_cases same : id = target
      · subst same
        rw [found]
        split
        · rename_i kind unread
          simp only [AList.lookup_insert]
          exact .reads unread (by rw [kind])
        · simp only [AList.lookup_erase]
          exact .ended
        · rename_i kind unread
          simp only [AList.lookup_insert]
          exact .reads unread (by rw [kind])
        · simp only [AList.lookup_erase]
          exact .ended
      · split
        · simp only [AList.lookup_insert_ne same]
          exact .same _ _ (calm _ (by intro h; cases h; exact same rfl))
        · simp only [AList.lookup_erase_ne same]
          exact .same _ _ (calm _ (by intro h; cases h; exact same rfl))
        · simp only [AList.lookup_insert_ne same]
          exact .same _ _ (calm _ (by intro h; cases h; exact same rfl))
        · simp only [AList.lookup_erase_ne same]
          exact .same _ _ (calm _ (by intro h; cases h; exact same rfl))

/-! ### The resources -/

/-- The transaction that an event commits on the resources, with what it is committed by. -/
inductive ResourceChange (w : World H) : WorldEvent H → H.Resources → Prop
  | same (event) : ResourceChange w event w.resources
  | submitted {submission jobId priority maxAttempts availableAt idempotencyKey payload}
      {write : JobId → H.Resources} (jobId' : JobId)
      (accepted : H.submit w.now submission w.resources = some (payload, write)) :
      ResourceChange w
        (.submit submission jobId priority maxAttempts availableAt idempotencyKey) (write jobId')
  | requested {request r jobId} (accepted : H.request w.now request w.resources = some (r, jobId)) :
      ResourceChange w (.request request) r
  | handled {id answer run handler} (found : w.runs.lookup id = some run)
      (phase : run.phase = .handling handler) :
      ResourceChange w (.process id answer)
        (H.handle w.now run.workerId run.job answer w.jobs w.resources handler).1
  | ensured {id answer run read} (found : w.runs.lookup id = some run)
      (phase : run.phase = .ensuring (some read)) :
      ResourceChange w (.process id answer)
        (H.ensureSuccessConsistency w.now w.resources run.job read).1
  | reconciled {id answer run cancelled errorCode errorMessage read}
      (found : w.runs.lookup id = some run)
      (phase : run.phase = .reconciling cancelled errorCode errorMessage (some read)) :
      ResourceChange w (.process id answer)
        (H.reconcile w.now w.resources run.job read cancelled errorCode errorMessage)
  | cancelled {id call read} (found : w.calls.lookup id = some call) (kind : call.kind = .cancel)
      (loaded : call.read = some read) :
      ResourceChange w (.call id)
        (H.reconcile w.now w.resources call.job read true "JOB_CANCELLED"
          "Background job was cancelled")
  | prepared {id call read} (found : w.calls.lookup id = some call) (kind : call.kind = .retry)
      (loaded : call.read = some read) :
      ResourceChange w (.call id) (H.prepareRetry w.resources call.job read)

theorem advance_resources {id : RunId} {run : ProcessRun H}
    (found : w.runs.lookup id = some run) (answer : H.Answer) :
    ResourceChange w (.process id answer)
      (run.advance settings w.now answer w.jobs w.resources).2.1 := by
  unfold ProcessRun.advance
  split
  · exact .same _
  · exact .handled found ‹_›
  · exact .same _
  · exact .ensured found ‹_›
  · exact .same _
  · split <;> exact .same _
  · split <;> exact .same _
  · split <;> exact .same _
  · exact .same _
  · exact .reconciled found ‹_›
  · exact .same _

theorem step_resources (w : World H) (event : WorldEvent H) :
    ResourceChange w event (w.step settings event).resources := by
  cases event with
  | tick | callDies | crash => exact .same _
  | submit =>
    simp only [World.step, World.submit]
    split
    · exact .same _
    · rename_i accepted
      split
      · exact .same _
      · exact .submitted _ accepted
  | lease workerId limit locked later =>
    simp only [World.step]
    obtain same | ⟨-, leased, jobs, batches, -, after⟩ :=
      @lease_cases _ settings w workerId limit locked later
    · rw [same]
      exact .same _
    · rw [after]
      exact .same _
  | reclaim =>
    simp only [World.step, World.reclaim]
    split <;> exact .same _
  | process id answer =>
    simp only [World.step, World.process]
    split
    · exact .same _
    · rename_i run found
      split
      · exact .same _
      · exact advance_resources found answer
  | interrupt =>
    simp only [World.step, World.interrupt]
    split
    · exact .same _
    · split
      · split <;> exact .same _
      · exact .same _
  | fault =>
    simp only [World.step, World.fault]
    split
    · exact .same _
    · split <;> exact .same _
  | heartbeat =>
    simp only [World.step, World.heartbeat]
    split
    · exact .same _
    · split
      · exact .same _
      · exact .same _
      · split <;> exact .same _
      · split <;> exact .same _
  | heartbeatDies =>
    simp only [World.step, World.heartbeatDies]
    split <;> exact .same _
  | cancel =>
    simp only [World.step, World.cancel]
    split
    · exact .same _
    · split
      · exact .same _
      · split <;> exact .same _
  | retry =>
    simp only [World.step, World.retry]
    split
    · exact .same _
    · split <;> exact .same _
  | call =>
    simp only [World.step, World.call]
    split
    · exact .same _
    · rename_i call found
      split
      · exact .same _
      · exact .cancelled found ‹_› ‹_›
      · exact .same _
      · exact .prepared found ‹_› ‹_›
  | request =>
    simp only [World.step, World.request]
    split
    · exact .same _
    · exact .requested ‹_›
    · split
      · exact .same _
      · exact .requested ‹_›

/-- A step of a run in its handler: the transaction and where the run stands after it. -/
theorem advance_handling {run : ProcessRun H} {handler : H.Handler}
    (phase : run.phase = .handling handler) (answer : H.Answer) (jobs : JobStore)
    (resources : H.Resources) (now : Timestamp) :
    run.advance settings now answer jobs resources =
      (jobs, (H.handle now run.workerId run.job answer jobs resources handler).1,
        if run.interrupted then run.afterInterrupt handler
        else run.afterHandler
          (H.handle now run.workerId run.job answer jobs resources handler).2) := by
  unfold ProcessRun.advance
  rw [phase]

theorem process_handling {id : RunId} {run : ProcessRun H} {handler : H.Handler}
    (found : w.runs.lookup id = some run) (phase : run.phase = .handling handler)
    (answer : H.Answer) :
    (w.step settings (.process id answer)).resources =
      (H.handle w.now run.workerId run.job answer w.jobs w.resources handler).1 := by
  simp only [World.step, World.process, found, phase, World.setRun, advance_handling phase]

theorem process_run {id : RunId} {run : ProcessRun H} {handler : H.Handler}
    (found : w.runs.lookup id = some run) (phase : run.phase = .handling handler)
    (answer : H.Answer) :
    (w.step settings (.process id answer)).runs.lookup id =
      some { run with
        phase :=
          if run.interrupted then run.afterInterrupt handler
          else run.afterHandler
            (H.handle w.now run.workerId run.job answer w.jobs w.resources handler).2
        interrupted := false } := by
  simp only [World.step, World.process, found, phase, World.setRun, advance_handling phase,
    AList.lookup_insert]

/-! ### Handlers -/

/-- How a run has come to stand at a handler. -/
inductive HandlerMove (w : World H) (id : RunId) (run : ProcessRun H) :
    WorldEvent H → H.Handler → Prop
  | kept {event handler} (phase : run.phase = .handling handler)
      (quiet : ∀ answer, event ≠ .process id answer) : HandlerMove w id run event handler
  | began {answer} (phase : run.phase = .starting) :
      HandlerMove w id run (.process id answer) (H.start run.job)
  | stepped {answer handler handler'} (phase : run.phase = .handling handler)
      (calm : run.interrupted = false)
      (outcome : (H.handle w.now run.workerId run.job answer w.jobs w.resources handler).2 =
        .continues handler') :
      HandlerMove w id run (.process id answer) handler'
  | interrupted {event handler handler'} (phase : run.phase = .handling handler)
      (raised : run.interrupted = true) (next : H.interrupted handler = some handler')
      (hit : event = .interrupt id ∨ ∃ answer, event = .process id answer) :
      HandlerMove w id run event handler'

theorem afterError_phase {run : ProcessRun H} {error : HandlerError} {handler : H.Handler} :
    run.afterError error ≠ .handling handler := by
  unfold ProcessRun.afterError
  cases error with
  | jobCancelled | mediaAttemptLeaseLost => simp
  | cancelledError | failure =>
    dsimp only
    split <;> simp

theorem afterInterrupt_some {run : ProcessRun H} {handler handler' : H.Handler}
    (next : H.interrupted handler = some handler') :
    run.afterInterrupt handler = .handling handler' := by
  unfold ProcessRun.afterInterrupt
  rw [next]

theorem afterInterrupt_phase {run : ProcessRun H} {handler handler' : H.Handler}
    (phase : run.afterInterrupt handler = .handling handler') :
    H.interrupted handler = some handler' := by
  unfold ProcessRun.afterInterrupt at phase
  cases next : H.interrupted handler with
  | none =>
    simp only [next] at phase
    exact absurd phase afterError_phase
  | some handler'' =>
    simp only [next] at phase
    cases phase
    rfl

theorem afterHandler_phase {run : ProcessRun H} {outcome : Outcome H.Handler}
    {handler : H.Handler} (phase : run.afterHandler outcome = .handling handler) :
    outcome = .continues handler := by
  cases outcome with
  | continues handler' =>
    cases phase
    rfl
  | returns =>
    unfold ProcessRun.afterHandler at phase
    dsimp only at phase
    split at phase <;> cases phase
  | raises error => exact absurd phase afterError_phase

/-- A run that is not in its handler comes into it only by starting it. -/
theorem advance_outside {run : ProcessRun H} (phase : ∀ handler, run.phase ≠ .handling handler)
    (other : run.phase ≠ .starting) {answer : H.Answer} {jobs : JobStore}
    {resources : H.Resources} {now : Timestamp} {handler : H.Handler} :
    (run.advance settings now answer jobs resources).2.2 ≠ .handling handler := by
  unfold ProcessRun.advance
  split
  · exact absurd ‹_› other
  · exact absurd ‹_› (phase _)
  · simp
  · dsimp only
    split
    · simp
    · simp
    · exact afterError_phase
  · dsimp only
    split <;> simp
  · split
    · simp
    · exact afterError_phase
  · split
    · dsimp only
      split <;> simp
    · simp
  · split <;> simp
  · simp
  · simp
  · simp

theorem step_handler {event : WorldEvent H} {id : RunId} {run' : ProcessRun H}
    {handler' : H.Handler} (found' : (w.step settings event).runs.lookup id = some run')
    (phase' : run'.phase = .handling handler') :
    ∃ run, w.runs.lookup id = some run ∧ run'.job = run.job ∧ run'.workerId = run.workerId ∧
      HandlerMove w id run event handler' := by
  have change := @step_run _ settings w event id
  rw [found'] at change
  generalize before : w.runs.lookup id = run at change
  cases change with
  | same _ _ quiet =>
    refine ⟨run', rfl, rfl, rfl, .kept phase' ?_⟩
    intro answer isProcess
    cases quiet answer isProcess
  | advanced goesOn =>
    rename_i answer run
    refine ⟨run, rfl, rfl, rfl, ?_⟩
    dsimp only at phase'
    cases phase : run.phase with
    | starting =>
      unfold ProcessRun.advance at phase'
      rw [phase] at phase'
      cases phase'
      exact .began phase
    | handling handler =>
      rw [advance_handling phase] at phase'
      dsimp only at phase'
      split at phase'
      · rename_i raised
        exact .interrupted phase raised (afterInterrupt_phase phase') (.inr ⟨answer, rfl⟩)
      · rename_i calm
        exact .stepped phase (by simpa using calm) (afterHandler_phase phase')
    | _ => exact absurd phase' (advance_outside (by simp [phase]) (by simp [phase]))
  | interrupted phase raised =>
    exact ⟨_, rfl, rfl, rfl, .interrupted phase raised (afterInterrupt_phase phase') (.inl rfl)⟩
  | faulted next =>
    rename_i retryable run phase
    refine ⟨run, rfl, rfl, rfl, .kept ?_ (by intro answer h; cases h)⟩
    dsimp only at phase'
    subst phase'
    unfold ProcessRun.afterFault at next
    split at next
    · cases next
    · cases next
    · rename_i held
      cases next
      exact held
    · exact absurd (Option.some.inj next) afterError_phase
    · exact absurd (Option.some.inj next) afterError_phase
    · exact absurd (Option.some.inj next) afterError_phase
    · cases next
    · cases next
    · cases next
  | beaten beat =>
    refine ⟨_, rfl, rfl, rfl, .kept phase' ?_⟩
    rintro answer rfl
    rcases beat with h | h <;> cases h
  | renewed => exact ⟨_, rfl, rfl, rfl, .kept phase' (by intro answer h; cases h)⟩
  | leased => cases phase'

/-! ### Runs that are about to succeed -/

/-- Whether the handler has returned and the job is still to be completed. -/
def Phase.succeeding : Phase H → Bool
  | .ensuring _ | .checkpointing | .completing => true
  | _ => false

theorem afterError_succeeding {run : ProcessRun H} {error : HandlerError} :
    (run.afterError error).succeeding = false := by
  unfold ProcessRun.afterError
  cases error with
  | jobCancelled | mediaAttemptLeaseLost => rfl
  | cancelledError | failure =>
    dsimp only
    split <;> rfl

theorem afterInterrupt_succeeding {run : ProcessRun H} {handler : H.Handler} :
    (run.afterInterrupt handler).succeeding = false := by
  unfold ProcessRun.afterInterrupt
  split
  · rfl
  · exact afterError_succeeding

theorem afterHandler_succeeding {run : ProcessRun H} {outcome : Outcome H.Handler}
    (h : (run.afterHandler outcome).succeeding = true) : outcome = .returns := by
  cases outcome with
  | continues handler => cases h
  | returns => rfl
  | raises error =>
    unfold ProcessRun.afterHandler at h
    rw [afterError_succeeding] at h
    cases h

theorem afterFault_succeeding {run : ProcessRun H} {retryable : Bool} {phase : Phase H}
    (next : run.afterFault retryable = some phase) : phase.succeeding = false := by
  unfold ProcessRun.afterFault at next
  split at next
  · cases next
  · cases next
  · cases next
    rfl
  · cases next
    exact afterError_succeeding
  · cases next
    exact afterError_succeeding
  · cases next
    exact afterError_succeeding
  · cases next
    rfl
  · cases next
    rfl
  · cases next
    rfl

/-- A run that is not about to succeed comes to it only from a handler that returns. -/
theorem advance_succeeding {run : ProcessRun H} {answer : H.Answer} {jobs : JobStore}
    {resources : H.Resources} {now : Timestamp}
    (h : (run.advance settings now answer jobs resources).2.2.succeeding = true) :
    run.phase.succeeding = true ∨ ∃ handler, run.phase = .handling handler ∧
      run.interrupted = false ∧
      (H.handle now run.workerId run.job answer jobs resources handler).2 = .returns := by
  cases phase : run.phase with
  | ensuring | checkpointing | completing => exact .inl rfl
  | handling handler =>
    rw [advance_handling phase] at h
    dsimp only at h
    split at h
    · rw [afterInterrupt_succeeding] at h
      cases h
    · rename_i calm
      exact .inr ⟨handler, rfl, by simpa using calm, afterHandler_succeeding h⟩
  | starting | closing =>
    unfold ProcessRun.advance at h
    rw [phase] at h
    cases h
  | reconciling cancelled errorCode errorMessage read =>
    unfold ProcessRun.advance at h
    rw [phase] at h
    cases read <;> cases h
  | failing | cancelling =>
    unfold ProcessRun.advance at h
    rw [phase] at h
    dsimp only at h
    split at h
    · first
      | cases h
      | (dsimp only at h; split at h <;> cases h)
    · cases h

theorem step_succeeding {event : WorldEvent H} {id : RunId} {run' : ProcessRun H}
    (found' : (w.step settings event).runs.lookup id = some run')
    (h : run'.phase.succeeding = true) :
    ∃ run, w.runs.lookup id = some run ∧ run'.job = run.job ∧ run'.workerId = run.workerId ∧
      (run.phase.succeeding = true ∨ ∃ answer handler, event = .process id answer ∧
        run.phase = .handling handler ∧ run.interrupted = false ∧
        (H.handle w.now run.workerId run.job answer w.jobs w.resources handler).2 = .returns) := by
  have change := @step_run _ settings w event id
  rw [found'] at change
  generalize before : w.runs.lookup id = run at change
  cases change with
  | same => exact ⟨run', rfl, rfl, rfl, .inl h⟩
  | advanced =>
    rename_i answer run goesOn
    refine ⟨run, rfl, rfl, rfl, ?_⟩
    rcases advance_succeeding h with held | ⟨handler, phase, calm, returns⟩
    · exact .inl held
    · exact .inr ⟨answer, handler, rfl, phase, calm, returns⟩
  | interrupted =>
    dsimp only at h
    rw [afterInterrupt_succeeding] at h
    cases h
  | faulted next =>
    dsimp only at h
    rw [afterFault_succeeding next] at h
    cases h
  | beaten | renewed => exact ⟨_, rfl, rfl, rfl, .inl h⟩
  | leased => cases h

end CyberLegends.Jobs
