import CyberLegends.Jobs.Invariant

/-! Pending jobs that no lease ever takes. A cancellation of a running job sets a flag that a lease
refuses; the failure or the reclaim that sends the job back to the queue leaves the flag set. -/

namespace CyberLegends.Jobs

open CyberLegends.Core Lib

/-- A pending job with a cancellation that was neither applied nor withdrawn. -/
def BackgroundJobModel.Starved (job : BackgroundJobModel) : Prop :=
  job.status = .pending ∧ job.cancelRequested = true

instance (job : BackgroundJobModel) : Decidable job.Starved :=
  inferInstanceAs (Decidable (_ ∧ _))

/-- No row of the store is starved. -/
def NoneStarved : JobStore → Prop := Table.All fun _ job => ¬ job.Starved

/-- The event sends a job whose cancellation was requested back to the queue: a retryable failure
or a reclaim, with attempts left. -/
def RequeuesFlagged (store : JobStore) (event : JobEvent) : Prop :=
  match event.operation with
  | .fail jobId workerId _ _ retryable _ _ =>
    ∃ job, store.lookup jobId = some job ∧ job.ownsLiveLease workerId event.now = true ∧
      retryable = true ∧ job.attemptCount < job.maxAttempts ∧ job.cancelRequested = true
  | .reclaimStale limit _ _ locked =>
    ∃ jobId ∈ store.reclaimSelection limit locked event.now,
      ∃ job, store.lookup jobId = some job ∧ job.attemptCount < job.maxAttempts ∧
        job.cancelRequested = true
  | _ => False

/-! ### The rows that each operation leaves -/

section

variable {job job' : BackgroundJobModel} {workerId : String} {now : Timestamp}

theorem lease_status {leaseSeconds : Nat} (result : job.lease workerId leaseSeconds now = .ok job') :
    job'.status = .running := by
  simp only [BackgroundJobModel.lease] at result
  split at result
  · cases result
  · cases result; rfl

theorem fail_starved {errorCode errorMessage : String} {retryable : Bool} {base maximum : Nat}
    (result : job.fail workerId errorCode errorMessage retryable base maximum now = .ok job') :
    job'.Starved ↔
      retryable = true ∧ job.attemptCount < job.maxAttempts ∧ job.cancelRequested = true := by
  obtain ⟨-, flag, ends, -⟩ := BackgroundJobModel.fail_ok result
  obtain ⟨again, status, -⟩ | ⟨final, status, -⟩ := ends
  · simp [BackgroundJobModel.Starved, status, flag, again]
  · simp only [BackgroundJobModel.Starved, status, reduceCtorEq, false_and, false_iff]
    exact fun again => final ⟨again.1, again.2.1⟩

theorem complete_status (result : job.complete workerId now = .ok job') :
    job'.status = .succeeded := by
  obtain ⟨-, rfl⟩ := BackgroundJobModel.finishAttempt_ok.mp result
  rfl

theorem markCancelled_status (result : job.markCancelled workerId now = .ok job') :
    job'.status = .cancelled := by
  obtain ⟨-, rfl⟩ := BackgroundJobModel.finishAttempt_ok.mp result
  rfl

end

section

variable {settings : Settings} {store store' : JobStore} {now : Timestamp}

theorem leaseBatch_served {workerId : String} {limit leaseSeconds : Nat}
    {locked jobs : List JobId} (served : NoneStarved store)
    (h : store.leaseBatch workerId limit leaseSeconds locked now = .ok (jobs, store')) :
    NoneStarved store' := by
  simp only [JobStore.leaseBatch, bind_eq_ok] at h
  obtain ⟨after, updated, result⟩ := h
  cases result
  intro k job' row'
  obtain ⟨same, -⟩ | ⟨-, job, job₁, -, result, row₁⟩ :=
    Table.updateEach_lookup leaseSelection_nodup updated k
  · rw [same] at row'
    exact served k job' row'
  · rw [row₁] at row'
    cases row'
    rintro ⟨pending, -⟩
    rw [lease_status result] at pending
    cases pending

theorem leasedJobs_served {workerId : String} {jobIds : List JobId} {leased : List LeasedJob}
    (served : NoneStarved store)
    (h : JobStore.leasedJobs settings workerId now jobIds store = .ok (leased, store')) :
    NoneStarved store' := by
  induction jobIds generalizing store leased with
  | nil => cases h; exact served
  | cons jobId jobIds ih =>
    obtain ⟨-, h⟩ | ⟨_, _, -, -, -, result, h⟩ | ⟨_, _, rest, -, -, h, -⟩ := leasedJobs_cons h
    · exact ih served h
    · refine ih (served.insert fun starved => ?_) h
      -- an unsupported type is not retried
      cases ((fail_starved result).mp starved).1
    · exact ih served h

theorem reclaimStale_starved {limit base maximum : Nat} {locked : List JobId}
    (served : NoneStarved store)
    (h : store.reclaimStale limit base maximum locked now = .ok store') :
    NoneStarved store' ↔
      ¬ ∃ jobId ∈ store.reclaimSelection limit locked now,
        ∃ job, store.lookup jobId = some job ∧ job.attemptCount < job.maxAttempts ∧
          job.cancelRequested = true := by
  constructor
  · rintro served' ⟨k, selected, job, row, room, flag⟩
    obtain ⟨job', result, row'⟩ := Table.updateEach_mem reclaimSelection_nodup h selected row
    exact served' k job' row' ((fail_starved result).mpr ⟨rfl, room, flag⟩)
  · intro unflagged k job' row' starved
    obtain ⟨same, -⟩ | ⟨selected, job, job₁, row, result, row₁⟩ :=
      Table.updateEach_lookup reclaimSelection_nodup h k
    · rw [same] at row'
      exact served k job' row' starved
    · rw [row₁] at row'
      cases row'
      exact unflagged ⟨k, selected, job, row, ((fail_starved result).mp starved).2⟩

theorem enqueue_served {jobId jobId' : JobId} {payload : JobPayload} {priority : Int}
    {maxAttempts : Option Int} {availableAt : Option Timestamp} {idempotencyKey : String}
    (served : NoneStarved store)
    (h : store.enqueue settings jobId payload priority maxAttempts availableAt idempotencyKey now =
      .ok (jobId', store')) : NoneStarved store' := by
  simp only [JobStore.enqueue] at h
  split at h
  · cases h
  · split at h
    · cases h; exact served
    · cases h
      exact served.insert fun starved => by cases starved.2

/-- From a store with no starved row an event leads to a store with one exactly when it sends a
flagged job back to the queue. -/
theorem step_served (all : store.Consistent)
    (served : NoneStarved store) (event : JobEvent) :
    NoneStarved ((jobMachine settings).step store event) ↔ ¬ RequeuesFlagged store event := by
  obtain ⟨now, operation⟩ := event
  simp only [jobMachine]
  cases result : perform settings store now operation with
  | error e =>
    refine iff_of_true served ?_
    cases operation with
    | fail jobId workerId =>
      rintro ⟨job, row, owned, -⟩
      obtain ⟨job', ended⟩ := (all jobId job row).fail_total (ownsLiveLease_iff.mp owned).1
      have ok : perform settings store now (.fail jobId workerId _ _ _ _ _) = .ok _ :=
        bind_eq_ok.mpr ⟨job, requiredLiveLease_ok.mpr ⟨row, owned⟩,
          bind_eq_ok.mpr ⟨job', ended, rfl⟩⟩
      rw [result] at ok
      cases ok
    | reclaimStale => exact absurd result (reclaimStale_total all)
    | _ => exact id
  | ok store' =>
    show NoneStarved store' ↔ _
    cases operation with
    | enqueue =>
      obtain ⟨_, committed, rfl⟩ := map_eq_ok.mp result
      exact iff_of_true (enqueue_served served committed) id
    | leaseBatch =>
      obtain ⟨_, committed, rfl⟩ := map_eq_ok.mp result
      exact iff_of_true (leaseBatch_served served committed) id
    | lease =>
      obtain ⟨_, committed, rfl⟩ := map_eq_ok.mp result
      obtain ⟨_, batch, rest⟩ := bind_eq_ok.mp committed
      exact iff_of_true (leasedJobs_served (leaseBatch_served served batch) rest) id
    | heartbeat jobId workerId leaseSeconds =>
      cases result
      refine iff_of_true ?_ id
      obtain lost | ⟨job, row, -, renewed⟩ :=
        heartbeat_cases store jobId workerId leaseSeconds now
      · rw [lost]; exact served
      · rw [renewed]; exact served.insert (served jobId job row)
    | complete =>
      obtain ⟨job, job', row, -, ended, rfl⟩ := complete_ok result
      refine iff_of_true (served.insert fun starved => ?_) id
      rw [BackgroundJobModel.Starved, complete_status ended] at starved
      cases starved.1
    | fail jobId workerId errorCode errorMessage retryable =>
      obtain ⟨job, job', row, owned, ended, rfl⟩ := fail_ok result
      constructor
      · rintro served' ⟨job₀, row₀, -, again⟩
        rw [row] at row₀
        cases row₀
        exact served' jobId job' (AList.lookup_insert _) ((fail_starved ended).mpr again)
      · exact fun ok => served.insert fun starved =>
          ok ⟨job, row, owned, (fail_starved ended).mp starved⟩
    | cancel jobId =>
      obtain ⟨job, job', row, ended, rfl⟩ := cancel_ok result
      refine iff_of_true (served.insert fun starved => ?_) id
      obtain ⟨-, rfl⟩ | ⟨running, rfl⟩ | ⟨-, rfl⟩ := BackgroundJobModel.cancel_ok ended
      · cases starved.1
      · have pending : job.status = .pending := starved.1
        rw [running] at pending
        cases pending
      · exact served jobId _ row starved
    | markCancelled =>
      obtain ⟨job, job', row, -, ended, rfl⟩ := markCancelled_ok result
      refine iff_of_true (served.insert fun starved => ?_) id
      rw [BackgroundJobModel.Starved, markCancelled_status ended] at starved
      cases starved.1
    | retry =>
      obtain ⟨job, job', row, ended, rfl⟩ := retry_ok result
      obtain ⟨-, rfl⟩ := BackgroundJobModel.retry_ok ended
      exact iff_of_true (served.insert fun starved => by cases starved.2) id
    | reclaimStale => exact reclaimStale_starved served result

end

/-- What says of a store that no row is starved holds in every state of a run exactly when no event of
the run sends a flagged job back to the queue. -/
theorem always_served_iff {settings : Settings} {P : JobStore → Prop}
    (served : ∀ store, P store ↔ NoneStarved store) (events : List JobEvent) :
    (jobMachine settings).Always P (jobMachine settings).init events ↔
      (jobMachine settings).Meets (fun store event => ¬ RequeuesFlagged store event)
        (jobMachine settings).init events := by
  refine Machine.always_iff_meets (I := JobStore.Consistent)
    (fun _ event all => step_consistent all event) ?_ Table.All.empty
    ((served _).mpr Table.All.empty)
  intro store event all before
  rw [served]
  exact step_served all ((served store).mp before) event

/-- No job is starved in any state of a run exactly when no event of the run sends a flagged job
back to the queue. -/
theorem none_starved_iff (settings : Settings) (events : List JobEvent) :
    (jobMachine settings).Always NoneStarved (jobMachine settings).init events ↔
      (jobMachine settings).Meets (fun store event => ¬ RequeuesFlagged store event)
        (jobMachine settings).init events :=
  always_served_iff (fun _ => Iff.rfl) events

/-- The jobs that are not starved are those that a lease may take whenever they are pending and
available. -/
theorem not_starved_iff {job : BackgroundJobModel} :
    ¬ job.Starved ↔
      (job.status = .pending → ∀ now, job.availableAt ≤ now → JobStore.leasable now job = true) := by
  constructor
  · intro served pending now available
    refine leasable_iff.mpr ⟨pending, available, ?_⟩
    exact Bool.not_eq_true _ ▸ fun flag => served ⟨pending, flag⟩
  · rintro leasable ⟨pending, flag⟩
    obtain ⟨-, -, clear⟩ := leasable_iff.mp (leasable pending job.availableAt le_rfl)
    rw [clear] at flag
    cases flag

/-- So it is with the filter of the lease: it takes every pending job that is available. -/
theorem pending_leasable_iff (settings : Settings) (events : List JobEvent) :
    (jobMachine settings).Always (Table.All fun _ job => job.status = .pending →
        ∀ now, job.availableAt ≤ now → JobStore.leasable now job = true)
        (jobMachine settings).init events ↔
      (jobMachine settings).Meets (fun store event => ¬ RequeuesFlagged store event)
        (jobMachine settings).init events :=
  always_served_iff (fun _ => forall₂_congr fun _ _ => imp_congr_right fun _ => not_starved_iff.symm)
    events

/-- A worker leases a job, its owner asks for the cancellation, and the handler fails with an error
that is retried. -/
def starvingRun : List JobEvent :=
  [⟨0, .enqueue 1 (.dataAnalysis 7) 50 none none "analysis"⟩, ⟨0, .leaseBatch "worker" 1 60 []⟩,
    ⟨1, .cancel 1⟩, ⟨2, .fail 1 "worker" "LLM_TIMEOUT" "Provider timed out" true 5 300⟩]

theorem starving_run_starves :
    ¬ (jobMachine {}).Always NoneStarved (jobMachine {}).init starvingRun := by
  intro served
  have last := Machine.always_iff_prefix.mp served starvingRun List.prefix_rfl
  have row : (((jobMachine {}).run (jobMachine {}).init starvingRun).lookup 1).any
      (fun job => decide job.Starved) = true := by
    decide +kernel
  obtain ⟨job, row, starved⟩ := (Option.any_eq_true ..).mp row
  exact last 1 job row (of_decide_eq_true starved)

end CyberLegends.Jobs
