import CyberLegends.Jobs.Events
import CyberLegends.Jobs.Invariant

/-! The row of a job keeps its payload and succeeds by its own run alone; the job that a run or a call
works on has a row with the payload that the run or the call knows. -/

namespace CyberLegends.Jobs

open CyberLegends.Core Lib

/-! ### Rows -/

section

variable {job job' : BackgroundJobModel} {workerId : String} {now : Timestamp}

/-- What no operation changes in a row. -/
structure Identified (job job' : BackgroundJobModel) : Prop where
  payload : job'.payload = job.payload
  jobType : job'.jobType = job.jobType
  idempotencyKey : job'.idempotencyKey = job.idempotencyKey

theorem Identified.trans {job'' : BackgroundJobModel} (first : Identified job job')
    (second : Identified job' job'') : Identified job job'' where
  payload := second.payload.trans first.payload
  jobType := second.jobType.trans first.jobType
  idempotencyKey := second.idempotencyKey.trans first.idempotencyKey

theorem lease_identified {leaseSeconds : Nat}
    (result : job.lease workerId leaseSeconds now = .ok job') : Identified job job' := by
  simp only [BackgroundJobModel.lease] at result
  split at result
  · cases result
  · cases result
    exact ⟨rfl, rfl, rfl⟩

theorem fail_identified {errorCode errorMessage : String} {retryable : Bool} {base maximum : Nat}
    (result : job.fail workerId errorCode errorMessage retryable base maximum now = .ok job') :
    Identified job job' := by
  simp only [BackgroundJobModel.fail, bind_eq_ok, pure_eq_ok] at result
  obtain ⟨closed, finished, rfl⟩ := result
  obtain ⟨-, rfl⟩ := BackgroundJobModel.finishAttempt_ok.mp finished
  unfold BackgroundJobModel.requeueOrDeadLetter
  split <;> exact ⟨rfl, rfl, rfl⟩

theorem HeldStep.identified (step : HeldStep job job') : Identified job job' := by
  cases step with
  | renewed => exact ⟨rfl, rfl, rfl⟩
  | completed _ result | markedCancelled _ result =>
    obtain ⟨-, rfl⟩ := BackgroundJobModel.finishAttempt_ok.mp result
    exact ⟨rfl, rfl, rfl⟩
  | failed _ result | reclaimed _ result => exact fail_identified result
  | cancelled result =>
    rcases BackgroundJobModel.cancel_ok result with ⟨-, rfl⟩ | ⟨-, rfl⟩ | ⟨-, rfl⟩
    · exact ⟨rfl, rfl, rfl⟩
    · exact ⟨rfl, rfl, rfl⟩
    · exact ⟨rfl, rfl, rfl⟩
  | retried result =>
    obtain ⟨-, rfl⟩ := BackgroundJobModel.retry_ok result
    exact ⟨rfl, rfl, rfl⟩

theorem RowStep.identified (step : RowStep job job') : Identified job job' := by
  cases step with
  | leased free result => exact lease_identified result
  | held step => exact step.identified

end

variable {H : HandlerSystem} {settings : Settings} {w : World H} {event : WorldEvent H}

/-- A row stays, with all that identifies it. -/
theorem RowChange.identified {jobId : JobId} {job : BackgroundJobModel}
    {row' : Option BackgroundJobModel} (change : RowChange settings w jobId event (some job) row') :
    ∃ job', row' = some job' ∧ Identified job job' := by
  cases change with
  | same => exact ⟨job, rfl, rfl, rfl, rfl⟩
  | completed found phase target owned result =>
    exact ⟨_, rfl, (HeldStep.completed owned result).identified⟩
  | failed found phase target owned result =>
    exact ⟨_, rfl, (HeldStep.failed owned result).identified⟩
  | markedCancelled found phase target owned result =>
    exact ⟨_, rfl, (HeldStep.markedCancelled owned result).identified⟩
  | renewed => exact ⟨_, rfl, rfl, rfl, rfl⟩
  | reclaimed selected expired result =>
    exact ⟨_, rfl, (HeldStep.reclaimed expired result).identified⟩
  | cancelled result | requested _ result => exact ⟨_, rfl, (HeldStep.cancelled result).identified⟩
  | retried result => exact ⟨_, rfl, (HeldStep.retried result).identified⟩
  | leased free selected ready result => exact ⟨_, rfl, lease_identified result⟩
  | unsupported ready result unknown failed =>
    exact ⟨_, rfl, (lease_identified result).trans (fail_identified failed)⟩

/-- What every new row has and no operation on a row loses, every row of the store has. -/
theorem rows_all {P : BackgroundJobModel → Prop} (new : ∀ job, NewJob job → P job)
    (keep : ∀ job job', P job → RowStep job job' → P job')
    (all : Table.All (fun _ => P) w.jobs) :
    Table.All (fun _ => P) (w.step settings event).jobs := by
  have held : ∀ job job', P job → HeldStep job job' → P job' :=
    fun job job' holds step => keep job job' holds (.held step)
  by_cases polls : ∃ workerId limit locked later, event = .lease workerId limit locked later
  · obtain ⟨workerId, limit, locked, later, rfl⟩ := polls
    obtain same | ⟨-, leased, jobs, batches, handed, same⟩ :=
      @lease_cases _ settings w workerId limit locked later
    · show Table.All _ (w.lease settings workerId limit locked later).jobs
      rw [same]
      exact all
    · show Table.All _ (w.lease settings workerId limit locked later).jobs
      rw [same]
      exact (lease_evolves handed).all new keep all
  · refine (step_evolves w event ?_).all new held all
    intro workerId limit locked later same
    exact polls ⟨workerId, limit, locked, later, same⟩

theorem row_identified {jobId : JobId} {job : BackgroundJobModel}
    (row : w.jobs.lookup jobId = some job) :
    ∃ job', (w.step settings event).jobs.lookup jobId = some job' ∧ Identified job job' := by
  have change := @step_row _ settings w event jobId
  rw [row] at change
  exact change.identified

/-- A job succeeds only by the run of its handler that completes it. -/
theorem RowChange.succeeded {jobId : JobId} {job job' : BackgroundJobModel}
    (change : RowChange settings w jobId event (some job) (some job'))
    (open_ : job.status ≠ .succeeded) (done : job'.status = .succeeded) :
    ∃ id answer run, event = .process id answer ∧ w.runs.lookup id = some run ∧
      run.phase = .completing ∧ run.job.jobId = jobId := by
  have unfinished : ∀ {before : BackgroundJobModel} {workerId errorCode errorMessage retryable base
      maximum now}, before.fail workerId errorCode errorMessage retryable base maximum now =
        .ok job' → False := by
    intro before workerId errorCode errorMessage retryable base maximum now result
    obtain ⟨-, -, ⟨-, pending, -⟩ | ⟨-, dead, -⟩, -⟩ := BackgroundJobModel.fail_ok result
    · rw [pending] at done
      cases done
    · rw [dead] at done
      cases done
  cases change with
  | same => exact absurd done open_
  | completed found phase target => exact ⟨_, _, _, rfl, found, phase, target⟩
  | failed found phase target owned result => exact (unfinished result).elim
  | markedCancelled found phase target owned result =>
    obtain ⟨-, rfl⟩ := BackgroundJobModel.finishAttempt_ok.mp result
    cases done
  | renewed => exact absurd done open_
  | reclaimed selected expired result => exact (unfinished result).elim
  | cancelled result | requested _ result =>
    rcases BackgroundJobModel.cancel_ok result with ⟨-, rfl⟩ | ⟨-, rfl⟩ | ⟨-, rfl⟩
    · cases done
    · exact absurd done open_
    · exact absurd done open_
  | retried result =>
    obtain ⟨-, rfl⟩ := BackgroundJobModel.retry_ok result
    cases done
  | leased free selected ready result =>
    simp only [BackgroundJobModel.lease] at result
    split at result
    · cases result
    · cases result
      cases done
  | unsupported ready result unknown failed => exact (unfinished failed).elim

/-- A job that has succeeded stays so. -/
theorem RowChange.stays_succeeded {jobId : JobId} {job job' : BackgroundJobModel}
    (change : RowChange settings w jobId event (some job) (some job'))
    (done : job.status = .succeeded) : job'.status = .succeeded := by
  have idle : ∀ {workerId : String} {now : Timestamp},
      job.ownsLiveLease workerId now = true → False := by
    intro workerId now owned
    rw [(ownsLiveLease_iff.mp owned).1] at done
    cases done
  have free : JobStore.leasable w.now job = true → False := by
    intro ready
    rw [(leasable_iff.mp ready).1] at done
    cases done
  cases change with
  | same => exact done
  | completed _ _ _ owned | failed _ _ _ owned | markedCancelled _ _ _ owned =>
    exact (idle owned).elim
  | renewed _ _ _ owned => exact (idle owned).elim
  | reclaimed _ expired =>
    rw [(stale_iff.mp expired).1] at done
    cases done
  | cancelled result | requested _ result =>
    rcases BackgroundJobModel.cancel_ok result with ⟨other, -⟩ | ⟨other, -⟩ | ⟨-, rfl⟩
    · rw [other] at done
      cases done
    · rw [other] at done
      cases done
    · exact done
  | retried result =>
    unfold BackgroundJobModel.retry at result
    rw [done] at result
    cases result
  | leased _ _ ready | unsupported ready => exact (free ready).elim

/-! ### Runs and calls -/

/-- A run is one that was there, or works on a job that was pending. -/
theorem run_leased {id : RunId} {run' : ProcessRun H}
    (found' : (w.step settings event).runs.lookup id = some run') :
    (∃ run, w.runs.lookup id = some run ∧ run'.job = run.job) ∨
      ∃ job, w.jobs.lookup run'.job.jobId = some job ∧ job.status = .pending ∧
        job.payload = run'.job.payload := by
  have change := @step_run _ settings w event id
  rw [found'] at change
  generalize before : w.runs.lookup id = run at change
  cases change with
  | leased free handed after place position below =>
    rename_i workerId limit locked later leased jobs i job
    obtain ⟨-, row, row', jobType, there, ready, lease, held, -, view⟩ :=
      (lease_spec handed).2.1 job (List.mem_of_getElem? place)
    refine .inr ⟨row, there, (leasable_iff.mp ready).1, ?_⟩
    rw [view, ← (lease_identified lease).payload]
    rfl
  | same => exact .inl ⟨run', rfl, rfl⟩
  | advanced | interrupted | faulted | beaten | renewed => exact .inl ⟨_, rfl, rfl⟩

/-- The row of the job is there and has the payload that the view of the job has. -/
def Names (jobs : JobStore) (job : LeasedJob) : Prop :=
  ∃ row, jobs.lookup job.jobId = some row ∧ row.payload = job.payload

/-- Every run and every call works on the payload of the row of its job. -/
structure Named (w : World H) : Prop where
  runs : ∀ id run, w.runs.lookup id = some run → Names w.jobs run.job
  calls : ∀ id call, w.calls.lookup id = some call → Names w.jobs call.job

theorem named_init (resources : H.Resources) : Named { resources : World H } where
  runs := by intro id run found; cases found
  calls := by intro id call found; cases found

theorem Names.step {job : LeasedJob} (names : Names w.jobs job) :
    Names (w.step settings event).jobs job := by
  obtain ⟨row, found, payload⟩ := names
  obtain ⟨row', found', identified⟩ := @row_identified _ settings w event _ _ found
  exact ⟨row', found', identified.payload.trans payload⟩

theorem leasedView_names {jobs : JobStore} {jobId : JobId} {job : LeasedJob}
    (view : World.leasedView jobs jobId = some job) : job.jobId = jobId ∧ Names jobs job := by
  simp only [World.leasedView, Option.bind_eq_bind, Option.bind_eq_some_iff] at view
  obtain ⟨row, found, jobType, kind, result⟩ := view
  cases result
  exact ⟨rfl, row, found, rfl⟩

theorem named_step (named : Named w) : Named (w.step settings event) where
  runs := by
    intro id run' found'
    have change := @step_run _ settings w event id
    rw [found'] at change
    generalize before : w.runs.lookup id = run at change
    cases change with
    | leased free handed after place position below =>
      rename_i workerId limit locked later leased jobs i job
      obtain ⟨-, -, row, jobType, -, -, -, held, -, view⟩ :=
        (lease_spec handed).2.1 job (List.mem_of_getElem? place)
      rw [after]
      refine ⟨row, held, ?_⟩
      rw [view]
      rfl
    | same => exact (named.runs id _ before).step
    | advanced => exact (named.runs id _ before).step
    | interrupted | faulted | beaten | renewed => exact (named.runs id _ before).step
  calls := by
    intro id call' found'
    have change := @step_call _ settings w event id
    rw [found'] at change
    generalize before : w.calls.lookup id = call at change
    cases change with
    | same => exact (named.calls id _ before).step
    | cancels view => exact (leasedView_names view).2
    | retries view => exact (leasedView_names view).2
    | reads => exact (named.calls id _ before).step

end CyberLegends.Jobs
