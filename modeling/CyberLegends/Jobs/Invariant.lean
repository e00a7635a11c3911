import CyberLegends.Jobs.Rows

/-! The invariant of the job store: a row's status, lease, counters and attempts agree, whatever
operations run in whatever order. -/

namespace CyberLegends.Jobs

open CyberLegends.Core Lib

/-- The status, the lease, the counters and the attempts of a row agree. -/
structure BackgroundJobModel.Consistent (job : BackgroundJobModel) : Prop where
  leased : job.status = .running ↔
    job.lockedBy.isSome ∧ job.lockedAt.isSome ∧ job.leaseExpiresAt.isSome ∧ job.heartbeatAt.isSome
  unleased : job.status ≠ .running →
    job.lockedBy = none ∧ job.lockedAt = none ∧ job.leaseExpiresAt = none ∧ job.heartbeatAt = none
  numbered : job.attempts.map JobAttemptModel.attemptNumber = List.range' 1 job.attemptCount
  attempted : job.status = .running → 0 < job.attemptCount
  active : ∀ attempt ∈ job.attempts,
    attempt.status = .running ↔ job.status = .running ∧ attempt.attemptNumber = job.attemptCount
  bounded : job.attemptCount ≤ job.maxAttempts
  retriable : job.status = .pending → job.attemptCount < job.maxAttempts
  finished : job.completedAt.isSome ↔
    job.status = .succeeded ∨ job.status = .cancelled ∨ job.status = .deadLetter

namespace BackgroundJobModel

variable {job job' : BackgroundJobModel} {workerId : String} {now : Timestamp}

/-! ### Closing the active attempt -/

theorem isActiveAttempt_iff {attempt : JobAttemptModel} :
    job.isActiveAttempt attempt = true ↔
      attempt.attemptNumber = job.attemptCount ∧ attempt.status = .running := by
  simp [isActiveAttempt]

theorem closeAttempt_numbers (workerId : String) (status : JobAttemptStatus) (now : Timestamp)
    (errorCode errorMessage : Option String) :
    (job.closeAttempt workerId status now errorCode errorMessage).map
        JobAttemptModel.attemptNumber = job.attempts.map JobAttemptModel.attemptNumber := by
  rw [closeAttempt, List.map_map]
  refine List.map_congr_left fun attempt _ => ?_
  simp only [Function.comp_apply]
  split <;> rfl

/-- An attempt that still runs after the active one is closed is another one. -/
theorem closeAttempt_running {status : JobAttemptStatus} {errorCode errorMessage : Option String}
    (terminal : status ≠ .running) {attempt : JobAttemptModel}
    (member : attempt ∈ job.closeAttempt workerId status now errorCode errorMessage)
    (running : attempt.status = .running) :
    attempt ∈ job.attempts ∧ attempt.attemptNumber ≠ job.attemptCount := by
  obtain ⟨before, found, rfl⟩ := List.mem_map.mp member
  by_cases current : job.isActiveAttempt before = true
  · rw [if_pos current] at running
    exact absurd running terminal
  · rw [if_neg current] at running ⊢
    exact ⟨found, fun number => current (isActiveAttempt_iff.mpr ⟨number, running⟩)⟩

/-- A row that has ended its attempt: the lease is gone and the attempt is closed. -/
structure Settled (job job' : BackgroundJobModel) : Prop where
  attempts : ∃ workerId status now errorCode errorMessage, status ≠ .running ∧
    job'.attempts = job.closeAttempt workerId status now errorCode errorMessage
  count : job'.attemptCount = job.attemptCount
  limit : job'.maxAttempts = job.maxAttempts
  unlocked : job'.lockedBy = none ∧ job'.lockedAt = none ∧ job'.leaseExpiresAt = none ∧
    job'.heartbeatAt = none
  left : job'.status ≠ .running
  retriable : job'.status = .pending → job.attemptCount < job.maxAttempts
  finished : job'.completedAt.isSome ↔
    job'.status = .succeeded ∨ job'.status = .cancelled ∨ job'.status = .deadLetter

theorem Consistent.settle (h : job.Consistent) (settled : Settled job job') :
    job'.Consistent where
  leased := by simp [settled.left, settled.unlocked.1]
  unleased _ := settled.unlocked
  numbered := by
    obtain ⟨_, _, _, _, _, -, attempts⟩ := settled.attempts
    rw [attempts, closeAttempt_numbers, settled.count]
    exact h.numbered
  attempted running := absurd running settled.left
  active attempt member := by
    obtain ⟨_, _, _, _, _, terminal, attempts⟩ := settled.attempts
    rw [attempts] at member
    constructor
    · intro running
      obtain ⟨member, other⟩ := closeAttempt_running terminal member running
      exact absurd ((h.active attempt member).mp running).2 other
    · exact fun running => absurd running.1 settled.left
  bounded := by rw [settled.count, settled.limit]; exact h.bounded
  retriable pending := by rw [settled.count, settled.limit]; exact settled.retriable pending
  finished := settled.finished

/-- A running row has the attempt that `finishAttempt` looks for. -/
theorem Consistent.audited (h : job.Consistent) (running : job.status = .running) :
    job.attempts.any job.isActiveAttempt = true := by
  have positive := h.attempted running
  have current : job.attemptCount ∈ job.attempts.map JobAttemptModel.attemptNumber := by
    rw [h.numbered, List.mem_range'_1]
    omega
  obtain ⟨attempt, member, number⟩ := List.mem_map.mp current
  refine List.any_eq_true.mpr ⟨attempt, member, isActiveAttempt_iff.mpr ⟨number, ?_⟩⟩
  exact (h.active attempt member).mpr ⟨running, number⟩

/-- No attempt row has the number that the next lease gives out. -/
theorem Consistent.next_free (h : job.Consistent) :
    (job.attempts.any fun attempt => attempt.attemptNumber = job.attemptCount + 1) = false := by
  refine List.any_eq_false.mpr fun attempt member taken => ?_
  have number := List.mem_map_of_mem (f := JobAttemptModel.attemptNumber) member
  rw [h.numbered, List.mem_range'_1] at number
  have := of_decide_eq_true taken
  omega

/-! ### The row operations keep the invariant -/

theorem Consistent.lease (h : job.Consistent) {leaseSeconds : Nat}
    (free : JobStore.leasable now job = true)
    (result : job.lease workerId leaseSeconds now = .ok job') : job'.Consistent := by
  obtain ⟨pending, -, -⟩ := leasable_iff.mp free
  simp only [BackgroundJobModel.lease, h.next_free] at result
  cases result
  have room := h.retriable pending
  refine ⟨by simp, by simp, ?_, by simp, ?_, ?_, by simp, ?_⟩
  · simp only [List.map_append, h.numbered, List.map_cons, List.map_nil]
    rw [List.range'_1_concat, Nat.add_comm 1]
  · intro attempt member
    rcases List.mem_append.mp member with old | new
    · have number := List.mem_map_of_mem (f := JobAttemptModel.attemptNumber) old
      rw [h.numbered, List.mem_range'_1] at number
      have closed : attempt.status ≠ .running := by
        intro running
        have := ((h.active attempt old).mp running).1
        rw [pending] at this
        cases this
      simp only [closed, true_and, false_iff]
      omega
    · rw [List.mem_singleton] at new
      subst new
      simp
  · exact room
  · have := h.finished
    simp only [pending] at this
    simpa using this

theorem Consistent.renew (h : job.Consistent) {leaseSeconds : Nat}
    (owned : job.ownsLiveLease workerId now = true) : (job.renew leaseSeconds now).Consistent := by
  obtain ⟨running, locked, -⟩ := ownsLiveLease_iff.mp owned
  have held := h.leased.mp running
  refine ⟨?_, ?_, h.numbered, h.attempted, h.active, h.bounded, h.retriable, h.finished⟩
  · simp [BackgroundJobModel.renew, running, locked, held.2.1]
  · simp [BackgroundJobModel.renew, running]

theorem finishAttempt_ok {status : JobAttemptStatus} {errorCode errorMessage : Option String} :
    job.finishAttempt workerId status now errorCode errorMessage = .ok job' ↔
      job.attempts.any job.isActiveAttempt = true ∧
      job' = { job with
        attempts := job.closeAttempt workerId status now errorCode errorMessage } := by
  unfold finishAttempt
  by_cases audited : job.attempts.any job.isActiveAttempt = true
  · rw [if_pos audited]
    exact ⟨fun h => ⟨audited, (Except.ok.inj h).symm⟩, fun h => by rw [h.2]⟩
  · rw [if_neg audited]
    exact ⟨fun h => (nomatch h), fun h => absurd h.1 audited⟩

theorem complete_settled (result : job.complete workerId now = .ok job') : Settled job job' := by
  obtain ⟨-, rfl⟩ := finishAttempt_ok.mp result
  exact {
    attempts := ⟨workerId, .succeeded, now, none, none, by simp, rfl⟩
    count := rfl
    limit := rfl
    unlocked := ⟨rfl, rfl, rfl, rfl⟩
    left := by simp [clearLease]
    retriable := by simp [clearLease]
    finished := by simp [clearLease] }

theorem markCancelled_settled (result : job.markCancelled workerId now = .ok job') :
    Settled job job' := by
  obtain ⟨-, rfl⟩ := finishAttempt_ok.mp result
  exact {
    attempts := ⟨workerId, .cancelled, now, none, none, by simp, rfl⟩
    count := rfl
    limit := rfl
    unlocked := ⟨rfl, rfl, rfl, rfl⟩
    left := by simp [clearLease]
    retriable := by simp [clearLease]
    finished := by simp [clearLease] }

/-- The two ways in which a failed attempt ends. -/
theorem fail_ok {errorCode errorMessage : String} {retryable : Bool} {base maximum : Nat}
    (result : job.fail workerId errorCode errorMessage retryable base maximum now = .ok job') :
    job'.attempts = job.closeAttempt workerId .failed now (some errorCode) (some errorMessage) ∧
    job'.cancelRequested = job.cancelRequested ∧
    ((retryable = true ∧ job.attemptCount < job.maxAttempts) ∧
        job'.status = .pending ∧ job'.completedAt = job.completedAt ∨
      ¬ (retryable = true ∧ job.attemptCount < job.maxAttempts) ∧
        job'.status = .deadLetter ∧ job'.completedAt = some now) ∧
    job'.attemptCount = job.attemptCount ∧ job'.maxAttempts = job.maxAttempts ∧
    job'.lockedBy = none ∧ job'.lockedAt = none ∧ job'.leaseExpiresAt = none ∧
    job'.heartbeatAt = none := by
  simp only [fail, bind_eq_ok, pure_eq_ok] at result
  obtain ⟨closed, finished, rfl⟩ := result
  obtain ⟨-, rfl⟩ := finishAttempt_ok.mp finished
  unfold requeueOrDeadLetter
  by_cases again : retryable = true ∧ job.attemptCount < job.maxAttempts
  · simp only [if_pos again]
    exact ⟨rfl, rfl, .inl ⟨again, rfl, rfl⟩, rfl, rfl, rfl, rfl, rfl, rfl⟩
  · simp only [if_neg again]
    exact ⟨rfl, rfl, .inr ⟨again, rfl, rfl⟩, rfl, rfl, rfl, rfl, rfl, rfl⟩

theorem Consistent.fail (h : job.Consistent) (running : job.status = .running)
    {errorCode errorMessage : String} {retryable : Bool} {base maximum : Nat}
    (result : job.fail workerId errorCode errorMessage retryable base maximum now = .ok job') :
    job'.Consistent := by
  obtain ⟨attempts, -, ends, count, limit, unlocked⟩ := fail_ok result
  have open_ : job.completedAt.isSome = false := by
    have := h.finished
    simp only [running] at this
    simpa using this
  refine h.settle {
    attempts := ⟨_, _, _, _, _, by simp, attempts⟩
    count, limit, unlocked
    left := ?_
    retriable := ?_
    finished := ?_ }
  · obtain ⟨-, status, -⟩ | ⟨-, status, -⟩ := ends <;> simp [status]
  · intro pending
    obtain ⟨again, -⟩ | ⟨-, status, -⟩ := ends
    · exact again.2
    · rw [status] at pending; cases pending
  · obtain ⟨-, status, completed⟩ | ⟨-, status, completed⟩ := ends
    · simp [status, completed, open_]
    · simp [status, completed]

/-- What a cancellation does to a row, by the status it finds. -/
theorem cancel_ok (result : job.cancel now = .ok job') :
    job.status = .pending ∧
        job' = { job with
          status := .cancelled, cancelRequested := true, completedAt := some now } ∨
      job.status = .running ∧ job' = { job with cancelRequested := true } ∨
      (job.status = .cancelled ∨ job.status = .succeeded) ∧ job' = job := by
  unfold BackgroundJobModel.cancel at result
  split at result
  · exact .inl ⟨‹_›, (Except.ok.inj result).symm⟩
  · exact .inr (.inl ⟨‹_›, (Except.ok.inj result).symm⟩)
  · exact .inr (.inr ⟨.inl ‹_›, (Except.ok.inj result).symm⟩)
  · exact .inr (.inr ⟨.inr ‹_›, (Except.ok.inj result).symm⟩)
  · cases result
  · cases result

theorem Consistent.cancel (h : job.Consistent) (result : job.cancel now = .ok job') :
    job'.Consistent := by
  obtain ⟨pending, rfl⟩ | ⟨running, rfl⟩ | ⟨-, rfl⟩ := cancel_ok result
  · have idle := h.unleased (by simp [pending])
    refine ⟨by simp [idle.1], fun _ => idle, h.numbered, by simp, ?_, h.bounded, by simp, by simp⟩
    intro attempt member
    have closed := (h.active attempt member).mp
    simp only [pending] at closed
    constructor
    · intro running
      cases (closed running).1
    · rintro ⟨running, -⟩
      cases running
  · exact ⟨h.leased, h.unleased, h.numbered, h.attempted, h.active, h.bounded, h.retriable,
      h.finished⟩
  · exact h

theorem retry_ok (result : job.retry now = .ok job') :
    job.status ≠ .running ∧
    job' = clearLease { job with
      status := .pending
      cancelRequested := false
      availableAt := now
      completedAt := none
      errorCode := none
      errorMessage := none
      maxAttempts :=
        if job.attemptCount ≥ job.maxAttempts then job.attemptCount + 1 else job.maxAttempts } := by
  unfold BackgroundJobModel.retry at result
  cases status : job.status with
  | failed | deadLetter | cancelled =>
    simp only [status] at result
    cases result
    exact ⟨by simp, rfl⟩
  | pending | running | succeeded =>
    simp only [status] at result
    cases result

theorem Consistent.retry (h : job.Consistent) (result : job.retry now = .ok job') :
    job'.Consistent := by
  obtain ⟨idle, rfl⟩ := retry_ok result
  have limit : job.attemptCount <
      if job.attemptCount ≥ job.maxAttempts then job.attemptCount + 1 else job.maxAttempts := by
    split <;> omega
  refine ⟨by simp [clearLease], fun _ => ⟨rfl, rfl, rfl, rfl⟩, h.numbered, by simp [clearLease],
    ?_, limit.le, fun _ => limit, by simp [clearLease]⟩
  intro attempt member
  have closed := (h.active attempt member).mp
  constructor
  · exact fun running => absurd (closed running).1 idle
  · rintro ⟨running, -⟩
    cases running

theorem Consistent.newJob (new : NewJob job) : job.Consistent := by
  obtain ⟨payload, priority, maxAttempts, availableAt, idempotencyKey, now, positive, rfl⟩ := new
  refine ⟨by simp [JobStore.newJob], fun _ => ⟨rfl, rfl, rfl, rfl⟩, rfl, by simp [JobStore.newJob],
    by simp [JobStore.newJob], Nat.zero_le _, fun _ => positive, by simp [JobStore.newJob]⟩

theorem Consistent.held (h : job.Consistent) (step : HeldStep job job') : job'.Consistent := by
  cases step with
  | renewed owned => exact h.renew owned
  | completed owned result => exact h.settle (complete_settled result)
  | failed owned result => exact h.fail (ownsLiveLease_iff.mp owned).1 result
  | cancelled result => exact h.cancel result
  | markedCancelled owned result => exact h.settle (markCancelled_settled result)
  | retried result => exact h.retry result
  | reclaimed expired result => exact h.fail (stale_iff.mp expired).1 result

/-- Every row operation keeps the invariant. -/
theorem Consistent.step (h : job.Consistent) (step : RowStep job job') : job'.Consistent := by
  cases step with
  | leased free result => exact h.lease free result
  | held step => exact h.held step

/-! ### The audit row is always there -/

theorem Consistent.complete_total (h : job.Consistent) (running : job.status = .running) :
    ∃ job', job.complete workerId now = .ok job' :=
  ⟨_, finishAttempt_ok.mpr ⟨h.audited running, rfl⟩⟩

theorem Consistent.markCancelled_total (h : job.Consistent) (running : job.status = .running) :
    ∃ job', job.markCancelled workerId now = .ok job' :=
  ⟨_, finishAttempt_ok.mpr ⟨h.audited running, rfl⟩⟩

theorem Consistent.fail_total (h : job.Consistent) (running : job.status = .running)
    {errorCode errorMessage : String} {retryable : Bool} {base maximum : Nat} :
    ∃ job', job.fail workerId errorCode errorMessage retryable base maximum now = .ok job' := by
  exact ⟨_, bind_eq_ok.mpr ⟨_, finishAttempt_ok.mpr ⟨h.audited running, rfl⟩, rfl⟩⟩

theorem cancel_error : job.cancel now ≠ .error auditMissing := by
  unfold BackgroundJobModel.cancel
  split <;> simp [auditMissing]

theorem retry_error : job.retry now ≠ .error auditMissing := by
  unfold BackgroundJobModel.retry
  split <;> simp [auditMissing]

end BackgroundJobModel

/-- Every row of the store is consistent. -/
def JobStore.Consistent : JobStore → Prop := Table.All fun _ job => job.Consistent

section

variable {settings : Settings} {store : JobStore} {jobId : JobId} {workerId : String}
  {now : Timestamp} {e : JobError}

theorem getForUpdate_error {absent : JobError} (h : store.getForUpdate jobId absent = .error e) :
    e = absent := by
  unfold JobStore.getForUpdate at h
  cases row : store.lookup jobId with
  | none => simp only [row] at h; exact (Except.error.inj h).symm
  | some job => simp only [row] at h; cases h

theorem requiredLiveLease_error (h : store.requiredLiveLease jobId workerId now = .error e) :
    e = JobStore.leaseLost := by
  obtain absent | ⟨job, -, checked⟩ := bind_eq_error.mp h
  · exact getForUpdate_error absent
  · split at checked
    · cases checked
    · exact (Except.error.inj checked).symm

/-- An operation that needs a live lease is refused only for want of one, when the row operation
never refuses a running row. -/
theorem leased_error {f : BackgroundJobModel → Except JobError BackgroundJobModel}
    (all : store.Consistent)
    (total : ∀ job : BackgroundJobModel, job.Consistent → job.status = .running →
      ∃ job', f job = .ok job')
    (h : (do
      let job ← store.requiredLiveLease jobId workerId now
      let job ← f job
      return store.insert jobId job) = .error e) : e = JobStore.leaseLost := by
  obtain lost | ⟨job, owned, h⟩ := bind_eq_error.mp h
  · exact requiredLiveLease_error lost
  · obtain ⟨row, owned⟩ := requiredLiveLease_ok.mp owned
    obtain ⟨job', result⟩ := total job (all jobId job row) (ownsLiveLease_iff.mp owned).1
    obtain refused | ⟨_, _, pure⟩ := bind_eq_error.mp h
    · rw [result] at refused; cases refused
    · cases pure

theorem fail_error (all : store.Consistent)
    {errorCode errorMessage : String} {retryable : Bool} {base maximum : Nat}
    (h : store.fail jobId workerId errorCode errorMessage retryable base maximum now = .error e) :
    e = JobStore.leaseLost :=
  leased_error all (fun _ consistent running => consistent.fail_total running) h

/-- A lease never finds its attempt number taken. -/
theorem leaseBatch_total (all : store.Consistent)
    {limit leaseSeconds : Nat} {locked : List JobId} :
    store.leaseBatch workerId limit leaseSeconds locked now ≠ .error e := by
  intro h
  obtain refused | ⟨_, _, pure⟩ := bind_eq_error.mp h
  · obtain ⟨k, -, job, row, refused⟩ := Table.updateEach_error leaseSelection_nodup refused
    simp only [BackgroundJobModel.lease, (all k job row).next_free] at refused
    cases refused
  · cases pure

theorem leasedJobs_error (all : store.Consistent)
    {jobIds : List JobId} (h : JobStore.leasedJobs settings workerId now jobIds store = .error e) :
    e = JobStore.leaseLost := by
  induction jobIds generalizing store with
  | nil => cases h
  | cons jobId jobIds ih =>
    rw [JobStore.leasedJobs] at h
    cases row : store.lookup jobId with
    | none => simp only [row] at h; exact ih all h
    | some job =>
      simp only [row] at h
      cases kind : JobType.ofValue job.jobType with
      | none =>
        simp only [kind] at h
        obtain lost | ⟨after, failed, h⟩ := bind_eq_error.mp h
        · exact fail_error all lost
        · refine ih ((fail_evolves failed).all (fun _ => BackgroundJobModel.Consistent.newJob)
            (fun _ _ consistent step => consistent.held step) all) h
      | some jobType =>
        simp only [kind] at h
        obtain lost | ⟨_, _, pure⟩ := bind_eq_error.mp h
        · exact ih all lost
        · cases pure

theorem reclaimStale_total (all : store.Consistent)
    {limit base maximum : Nat} {locked : List JobId} :
    store.reclaimStale limit base maximum locked now ≠ .error e := by
  intro h
  obtain ⟨k, selected, job, row, refused⟩ := Table.updateEach_error reclaimSelection_nodup h
  obtain ⟨job₀, row₀, expired⟩ := reclaimSelection_spec selected
  rw [row] at row₀
  cases row₀
  obtain ⟨job', result⟩ := (all k job row).fail_total (stale_iff.mp expired).1
  rw [BackgroundJobModel.reclaim, result] at refused
  cases refused

end

/-- No operation on a consistent store misses the audit row of an attempt. -/
theorem perform_audited {settings : Settings} {store : JobStore}
    (all : store.Consistent) (now : Timestamp)
    (operation : Operation) :
    perform settings store now operation ≠ .error BackgroundJobModel.auditMissing := by
  intro h
  cases operation with
  | enqueue =>
    have h := map_eq_error.mp h
    simp only [JobStore.enqueue] at h
    split at h
    · simp [BackgroundJobModel.auditMissing] at h
    · split at h <;> cases h
  | leaseBatch => exact leaseBatch_total all (map_eq_error.mp h)
  | lease =>
    obtain refused | ⟨⟨jobIds, after⟩, batch, h⟩ := bind_eq_error.mp (map_eq_error.mp h)
    · exact leaseBatch_total all refused
    · have evolved := leaseBatch_evolves batch
      have all' := evolved.all (fun _ => BackgroundJobModel.Consistent.newJob)
        (fun _ _ consistent step => consistent.step step) all
      cases leasedJobs_error all' h
  | heartbeat => cases h
  | complete => cases leased_error all (fun _ consistent => consistent.complete_total) h
  | fail => cases fail_error all h
  | cancel jobId =>
    obtain absent | ⟨job, -, h⟩ := bind_eq_error.mp h
    · have := getForUpdate_error absent
      simp [BackgroundJobModel.auditMissing, JobStore.unavailable] at this
    · obtain refused | ⟨_, _, pure⟩ := bind_eq_error.mp h
      · exact BackgroundJobModel.cancel_error refused
      · cases pure
  | markCancelled => cases leased_error all (fun _ consistent => consistent.markCancelled_total) h
  | retry jobId =>
    obtain absent | ⟨job, -, h⟩ := bind_eq_error.mp h
    · have := getForUpdate_error absent
      simp [BackgroundJobModel.auditMissing, JobStore.unavailable] at this
    · obtain refused | ⟨_, _, pure⟩ := bind_eq_error.mp h
      · exact BackgroundJobModel.retry_error refused
      · cases pure
  | reclaimStale => exact reclaimStale_total all h

/-- Every event keeps the rows consistent. -/
theorem step_consistent {settings : Settings} {store : JobStore}
    (all : store.Consistent) (event : JobEvent) :
    ((jobMachine settings).step store event).Consistent :=
  step_all (fun _ => BackgroundJobModel.Consistent.newJob)
    (fun _ _ consistent step => consistent.step step) all event

/-- In every reachable store the rows are consistent, and no operation misses the audit row of the
attempt it ends. -/
theorem job_store_invariant (settings : Settings) (events : List JobEvent) :
    ((jobMachine settings).run (jobMachine settings).init events).Consistent ∧
    ∀ now operation,
      perform settings ((jobMachine settings).run (jobMachine settings).init events) now
        operation ≠ .error BackgroundJobModel.auditMissing := by
  have all := Machine.Reachable.holds (I := JobStore.Consistent) Table.All.empty
    (fun _ event all => step_consistent all event) (M := jobMachine settings) ⟨events, rfl⟩
  exact ⟨all, perform_audited all⟩

end CyberLegends.Jobs
