import Mathlib.Logic.Relation
import CyberLegends.Jobs.Queue

/-! What the operations do to one row of the job store. Every operation leaves a row as it is or
rewrites it by one of the row operations, under the condition that the operation checks. -/

namespace CyberLegends.Jobs

open CyberLegends.Core Lib

/-- One rewrite of a row by an operation other than a lease, with what the operation has checked. -/
inductive HeldStep : BackgroundJobModel → BackgroundJobModel → Prop
  | renewed {job workerId leaseSeconds now} : job.ownsLiveLease workerId now →
      HeldStep job (job.renew leaseSeconds now)
  | completed {job job' workerId now} : job.ownsLiveLease workerId now →
      job.complete workerId now = .ok job' → HeldStep job job'
  | failed {job job' workerId errorCode errorMessage retryable base maximum now} :
      job.ownsLiveLease workerId now →
      job.fail workerId errorCode errorMessage retryable base maximum now = .ok job' →
      HeldStep job job'
  | cancelled {job job' now} : job.cancel now = .ok job' → HeldStep job job'
  | markedCancelled {job job' workerId now} : job.ownsLiveLease workerId now →
      job.markCancelled workerId now = .ok job' → HeldStep job job'
  | retried {job job' now} : job.retry now = .ok job' → HeldStep job job'
  | reclaimed {job job' base maximum now} : JobStore.stale now job →
      job.reclaim base maximum now = .ok job' → HeldStep job job'

/-- One rewrite of a row. -/
inductive RowStep : BackgroundJobModel → BackgroundJobModel → Prop
  | leased {job job' workerId leaseSeconds now} : JobStore.leasable now job →
      job.lease workerId leaseSeconds now = .ok job' → RowStep job job'
  | held {job job'} : HeldStep job job' → RowStep job job'

/-- A row as `enqueue` inserts it. -/
def NewJob (job : BackgroundJobModel) : Prop :=
  ∃ payload priority maxAttempts availableAt idempotencyKey now, 0 < maxAttempts ∧
    job = JobStore.newJob payload priority maxAttempts availableAt idempotencyKey now

/-! ### Conditions that the operations check -/

theorem ownsLiveLease_iff {job : BackgroundJobModel} {workerId : String} {now : Timestamp} :
    job.ownsLiveLease workerId now = true ↔
      job.status = .running ∧ job.lockedBy = some workerId ∧
        ∃ expiry, job.leaseExpiresAt = some expiry ∧ now < expiry := by
  simp [BackgroundJobModel.ownsLiveLease, Option.any_eq_true]

theorem stale_iff {job : BackgroundJobModel} {now : Timestamp} :
    JobStore.stale now job = true ↔
      job.status = .running ∧ ∃ expiry, job.leaseExpiresAt = some expiry ∧ expiry ≤ now := by
  simp [JobStore.stale, Option.any_eq_true]

theorem leasable_iff {job : BackgroundJobModel} {now : Timestamp} :
    JobStore.leasable now job = true ↔
      job.status = .pending ∧ job.availableAt ≤ now ∧ job.cancelRequested = false := by
  simp [JobStore.leasable]

section

variable {store store' : JobStore} {jobId : JobId} {workerId : String} {now : Timestamp}

theorem getForUpdate_ok {job : BackgroundJobModel} {absent : JobError} :
    store.getForUpdate jobId absent = .ok job ↔ store.lookup jobId = some job := by
  unfold JobStore.getForUpdate
  cases store.lookup jobId <;> simp

/-- The row that an operation on behalf of a lease may write. -/
theorem requiredLiveLease_ok {job : BackgroundJobModel} :
    store.requiredLiveLease jobId workerId now = .ok job ↔
      store.lookup jobId = some job ∧ job.ownsLiveLease workerId now = true := by
  simp only [JobStore.requiredLiveLease, bind_eq_ok, getForUpdate_ok]
  constructor
  · rintro ⟨row, found, checked⟩
    by_cases owned : row.ownsLiveLease workerId now = true
    · rw [if_pos owned] at checked
      cases checked
      exact ⟨found, owned⟩
    · rw [if_neg owned] at checked
      cases checked
  · rintro ⟨found, owned⟩
    exact ⟨job, found, by rw [if_pos owned]; rfl⟩

theorem leaseSelection_spec {limit : Nat} {locked : List JobId}
    (h : jobId ∈ store.leaseSelection limit locked now) :
    ∃ job, store.lookup jobId = some job ∧ JobStore.leasable now job = true := by
  obtain ⟨job, row, holds⟩ := Table.mem_select h
  rw [Bool.and_eq_true] at holds
  exact ⟨job, row, holds.1⟩

theorem reclaimSelection_spec {limit : Nat} {locked : List JobId}
    (h : jobId ∈ store.reclaimSelection limit locked now) :
    ∃ job, store.lookup jobId = some job ∧ JobStore.stale now job = true := by
  obtain ⟨job, row, holds⟩ := Table.mem_select h
  rw [Bool.and_eq_true] at holds
  exact ⟨job, row, holds.1⟩

theorem leaseSelection_nodup {limit : Nat} {locked : List JobId} :
    (store.leaseSelection limit locked now).Nodup := Table.select_nodup ..

theorem reclaimSelection_nodup {limit : Nat} {locked : List JobId} :
    (store.reclaimSelection limit locked now).Nodup := Table.select_nodup ..

/-! ### The one row that an operation writes -/

theorem complete_ok (h : store.complete jobId workerId now = .ok store') :
    ∃ job job', store.lookup jobId = some job ∧ job.ownsLiveLease workerId now = true ∧
      job.complete workerId now = .ok job' ∧ store' = store.insert jobId job' := by
  simp only [JobStore.complete, bind_eq_ok, requiredLiveLease_ok, pure_eq_ok] at h
  obtain ⟨job, ⟨row, owned⟩, job', result, rfl⟩ := h
  exact ⟨job, job', row, owned, result, rfl⟩

theorem fail_ok {errorCode errorMessage : String} {retryable : Bool} {base maximum : Nat}
    (h : store.fail jobId workerId errorCode errorMessage retryable base maximum now =
      .ok store') :
    ∃ job job', store.lookup jobId = some job ∧ job.ownsLiveLease workerId now = true ∧
      job.fail workerId errorCode errorMessage retryable base maximum now = .ok job' ∧
      store' = store.insert jobId job' := by
  simp only [JobStore.fail, bind_eq_ok, requiredLiveLease_ok, pure_eq_ok] at h
  obtain ⟨job, ⟨row, owned⟩, job', result, rfl⟩ := h
  exact ⟨job, job', row, owned, result, rfl⟩

theorem cancel_ok (h : store.cancel jobId now = .ok store') :
    ∃ job job', store.lookup jobId = some job ∧ job.cancel now = .ok job' ∧
      store' = store.insert jobId job' := by
  simp only [JobStore.cancel, bind_eq_ok, getForUpdate_ok, pure_eq_ok] at h
  obtain ⟨job, row, job', result, rfl⟩ := h
  exact ⟨job, job', row, result, rfl⟩

theorem markCancelled_ok (h : store.markCancelled jobId workerId now = .ok store') :
    ∃ job job', store.lookup jobId = some job ∧ job.ownsLiveLease workerId now = true ∧
      job.markCancelled workerId now = .ok job' ∧ store' = store.insert jobId job' := by
  simp only [JobStore.markCancelled, bind_eq_ok, requiredLiveLease_ok, pure_eq_ok] at h
  obtain ⟨job, ⟨row, owned⟩, job', result, rfl⟩ := h
  exact ⟨job, job', row, owned, result, rfl⟩

theorem retry_ok (h : store.retry jobId now = .ok store') :
    ∃ job job', store.lookup jobId = some job ∧ job.retry now = .ok job' ∧
      store' = store.insert jobId job' := by
  simp only [JobStore.retry, bind_eq_ok, getForUpdate_ok, pure_eq_ok] at h
  obtain ⟨job, row, job', result, rfl⟩ := h
  exact ⟨job, job', row, result, rfl⟩

theorem heartbeat_cases (store : JobStore) (jobId : JobId) (workerId : String)
    (leaseSeconds : Nat) (now : Timestamp) :
    store.heartbeat jobId workerId leaseSeconds now = (false, store) ∨
      ∃ job, store.lookup jobId = some job ∧ job.ownsLiveLease workerId now = true ∧
        store.heartbeat jobId workerId leaseSeconds now =
          (true, store.insert jobId (job.renew leaseSeconds now)) := by
  unfold JobStore.heartbeat
  cases row : store.lookup jobId with
  | none => exact .inl rfl
  | some job =>
    by_cases owned : job.ownsLiveLease workerId now = true
    · exact .inr ⟨job, rfl, owned, if_pos owned⟩
    · exact .inl (if_neg owned)

end

/-! ### The rows that an operation leaves -/

/-- How a store grows out of another: each row goes through steps of `R`, and the rows that are
added are new. -/
structure Evolves (R : BackgroundJobModel → BackgroundJobModel → Prop) (store store' : JobStore) :
    Prop where
  rows : ∀ k job', store'.lookup k = some job' →
    ∃ job, (store.lookup k = some job ∨ store.lookup k = none ∧ NewJob job) ∧
      Relation.ReflTransGen R job job'
  kept : ∀ k job, store.lookup k = some job →
    ∃ job', store'.lookup k = some job' ∧ Relation.ReflTransGen R job job'

namespace Evolves

variable {R : BackgroundJobModel → BackgroundJobModel → Prop} {store store' store'' : JobStore}

theorem refl (store : JobStore) : Evolves R store store where
  rows _ job' row := ⟨job', .inl row, .refl⟩
  kept _ job row := ⟨job, row, .refl⟩

theorem trans (h : Evolves R store store') (h' : Evolves R store' store'') :
    Evolves R store store'' where
  rows k job'' row'' := by
    obtain ⟨job', row' | ⟨absent', new⟩, steps'⟩ := h'.rows k job'' row''
    · obtain ⟨job, origin, steps⟩ := h.rows k job' row'
      exact ⟨job, origin, steps.trans steps'⟩
    · refine ⟨job', .inr ⟨?_, new⟩, steps'⟩
      by_contra present
      obtain ⟨job, row⟩ := Option.ne_none_iff_exists'.mp present
      obtain ⟨_, row', -⟩ := h.kept k job row
      rw [row'] at absent'
      cases absent'
  kept k job row := by
    obtain ⟨job', row', steps⟩ := h.kept k job row
    obtain ⟨job'', row'', steps'⟩ := h'.kept k job' row'
    exact ⟨job'', row'', steps.trans steps'⟩

theorem mono {R' : BackgroundJobModel → BackgroundJobModel → Prop}
    (weaken : ∀ job job', R job job' → R' job job') (h : Evolves R store store') :
    Evolves R' store store' where
  rows k job' row' := by
    obtain ⟨job, origin, steps⟩ := h.rows k job' row'
    exact ⟨job, origin, Relation.ReflTransGen.mono weaken _ _ steps⟩
  kept k job row := by
    obtain ⟨job', row', steps⟩ := h.kept k job row
    exact ⟨job', row', Relation.ReflTransGen.mono weaken _ _ steps⟩

theorem rewrite {jobId : JobId} {job job' : BackgroundJobModel}
    (row : store.lookup jobId = some job) (step : R job job') :
    Evolves R store (store.insert jobId job') where
  rows k job₁ row₁ := by
    obtain ⟨rfl, rfl⟩ | ⟨-, row₁⟩ := Table.lookup_insert_cases row₁
    · exact ⟨job, .inl row, .single step⟩
    · exact ⟨job₁, .inl row₁, .refl⟩
  kept k job₀ row₀ := by
    by_cases same : k = jobId
    · subst same
      rw [row] at row₀
      cases row₀
      exact ⟨job', AList.lookup_insert _, .single step⟩
    · exact ⟨job₀, by rw [AList.lookup_insert_ne same]; exact row₀, .refl⟩

theorem add {jobId : JobId} {job : BackgroundJobModel} (absent : store.lookup jobId = none)
    (new : NewJob job) : Evolves R store (store.insert jobId job) where
  rows k job₁ row₁ := by
    obtain ⟨rfl, rfl⟩ | ⟨-, row₁⟩ := Table.lookup_insert_cases row₁
    · exact ⟨_, .inr ⟨absent, new⟩, .refl⟩
    · exact ⟨job₁, .inl row₁, .refl⟩
  kept k job₀ row₀ := by
    have other : k ≠ jobId := by
      rintro rfl
      rw [absent] at row₀
      cases row₀
    exact ⟨job₀, by rw [AList.lookup_insert_ne other]; exact row₀, .refl⟩

/-- An update of each selected row that is a step of `R` evolves the store. -/
theorem updateEach {jobs : List JobId}
    {f : JobId → BackgroundJobModel → Except JobError BackgroundJobModel} (nodup : jobs.Nodup)
    (h : Table.updateEach f jobs store = .ok store')
    (step : ∀ k ∈ jobs, ∀ job job', store.lookup k = some job → f k job = .ok job' →
      R job job') : Evolves R store store' where
  rows k job' row' := by
    obtain ⟨same, -⟩ | ⟨hk, job, job₁, row, result, row₁⟩ := Table.updateEach_lookup nodup h k
    · exact ⟨job', .inl (by rw [← same]; exact row'), .refl⟩
    · rw [row₁] at row'
      cases row'
      exact ⟨job, .inl row, .single (step k hk job _ row result)⟩
  kept k job row := by
    obtain ⟨same, -⟩ | ⟨hk, job₀, job', row₀, result, row'⟩ := Table.updateEach_lookup nodup h k
    · exact ⟨job, by rw [same]; exact row, .refl⟩
    · rw [row₀] at row
      cases row
      exact ⟨job', row', .single (step k hk job job' row₀ result)⟩

/-- A property that new rows have and that every step keeps survives an evolution. -/
theorem all {P : BackgroundJobModel → Prop} (new : ∀ job, NewJob job → P job)
    (keep : ∀ job job', P job → R job job' → P job') (h : Evolves R store store')
    (all : Table.All (fun _ => P) store) : Table.All (fun _ => P) store' := by
  intro k job' row'
  obtain ⟨job, origin, steps⟩ := h.rows k job' row'
  have start : P job := by
    obtain row | ⟨-, fresh⟩ := origin
    · exact all k job row
    · exact new job fresh
  clear row'
  induction steps with
  | refl => exact start
  | tail _ step ih => exact keep _ _ ih step

end Evolves

section

variable {settings : Settings} {store store' : JobStore} {jobId : JobId} {workerId : String}
  {now : Timestamp}

theorem enqueue_evolves {jobId' : JobId} {payload : JobPayload} {priority : Int}
    {maxAttempts : Option Int} {availableAt : Option Timestamp} {idempotencyKey : String}
    (h : store.enqueue settings jobId payload priority maxAttempts availableAt idempotencyKey now =
      .ok (jobId', store')) : Evolves HeldStep store store' := by
  unfold JobStore.enqueue at h
  by_cases refused : orDefault maxAttempts settings.jobMaxAttempts ≤ 0 ∨ jobId ∈ store
  · simp only [if_pos refused] at h
    cases h
  · simp only [if_neg refused] at h
    obtain ⟨positive, absent⟩ := not_or.mp refused
    cases duplicate : store.findByIdempotencyKey idempotencyKey with
    | some other =>
      simp only [duplicate] at h
      cases h
      exact .refl _
    | none =>
      simp only [duplicate] at h
      cases h
      exact .add (AList.lookup_eq_none.mpr absent) ⟨_, _, _, _, _, _, by omega, rfl⟩

theorem heartbeat_evolves (leaseSeconds : Nat) :
    Evolves HeldStep store (store.heartbeat jobId workerId leaseSeconds now).2 := by
  obtain lost | ⟨job, row, owned, renewed⟩ :=
    heartbeat_cases store jobId workerId leaseSeconds now
  · rw [lost]; exact .refl store
  · rw [renewed]; exact .rewrite row (.renewed owned)

theorem complete_evolves (h : store.complete jobId workerId now = .ok store') :
    Evolves HeldStep store store' := by
  obtain ⟨job, job', row, owned, result, rfl⟩ := complete_ok h
  exact .rewrite row (.completed owned result)

theorem fail_evolves {errorCode errorMessage : String} {retryable : Bool} {base maximum : Nat}
    (h : store.fail jobId workerId errorCode errorMessage retryable base maximum now =
      .ok store') : Evolves HeldStep store store' := by
  obtain ⟨job, job', row, owned, result, rfl⟩ := fail_ok h
  exact .rewrite row (.failed owned result)

theorem cancel_evolves (h : store.cancel jobId now = .ok store') :
    Evolves HeldStep store store' := by
  obtain ⟨job, job', row, result, rfl⟩ := cancel_ok h
  exact .rewrite row (.cancelled result)

theorem markCancelled_evolves (h : store.markCancelled jobId workerId now = .ok store') :
    Evolves HeldStep store store' := by
  obtain ⟨job, job', row, owned, result, rfl⟩ := markCancelled_ok h
  exact .rewrite row (.markedCancelled owned result)

theorem retry_evolves (h : store.retry jobId now = .ok store') :
    Evolves HeldStep store store' := by
  obtain ⟨job, job', row, result, rfl⟩ := retry_ok h
  exact .rewrite row (.retried result)

theorem reclaimStale_evolves {limit base maximum : Nat} {locked : List JobId}
    (h : store.reclaimStale limit base maximum locked now = .ok store') :
    Evolves HeldStep store store' := by
  refine Evolves.updateEach reclaimSelection_nodup h fun k hk job job' row result => ?_
  obtain ⟨job₀, row₀, expired⟩ := reclaimSelection_spec hk
  rw [row] at row₀
  cases row₀
  exact .reclaimed expired result

theorem leaseBatch_evolves {limit leaseSeconds : Nat} {locked jobs : List JobId}
    (h : store.leaseBatch workerId limit leaseSeconds locked now = .ok (jobs, store')) :
    Evolves RowStep store store' := by
  simp only [JobStore.leaseBatch, bind_eq_ok] at h
  obtain ⟨after, updated, result⟩ := h
  cases result
  refine Evolves.updateEach leaseSelection_nodup updated fun k hk job job' row result => ?_
  obtain ⟨job₀, row₀, free⟩ := leaseSelection_spec hk
  rw [row] at row₀
  cases row₀
  exact .leased free result

/-- The two ways in which the leased rows are read: the row of an unsupported type is failed
first. -/
theorem leasedJobs_cons {jobIds : List JobId} {leased : List LeasedJob}
    (h : JobStore.leasedJobs settings workerId now (jobId :: jobIds) store =
      .ok (leased, store')) :
    store.lookup jobId = none ∧
        JobStore.leasedJobs settings workerId now jobIds store = .ok (leased, store') ∨
      (∃ job job', store.lookup jobId = some job ∧ JobType.ofValue job.jobType = none ∧
        job.ownsLiveLease workerId now = true ∧
        job.fail workerId "UNKNOWN_JOB_TYPE" "Background job type is not supported" false
          settings.jobRetryBaseSeconds settings.jobRetryMaxSeconds now = .ok job' ∧
        JobStore.leasedJobs settings workerId now jobIds (store.insert jobId job') =
          .ok (leased, store')) ∨
      ∃ job jobType rest, store.lookup jobId = some job ∧
        JobType.ofValue job.jobType = some jobType ∧
        JobStore.leasedJobs settings workerId now jobIds store = .ok (rest, store') ∧
        leased = job.leasedJob jobId jobType :: rest := by
  rw [JobStore.leasedJobs] at h
  cases row : store.lookup jobId with
  | none => simp only [row] at h; exact .inl ⟨rfl, h⟩
  | some job =>
    simp only [row] at h
    cases kind : JobType.ofValue job.jobType with
    | none =>
      simp only [kind, bind_eq_ok] at h
      obtain ⟨after, failed, rest⟩ := h
      obtain ⟨job₀, job', row₀, owned, result, rfl⟩ := fail_ok failed
      rw [row] at row₀
      cases row₀
      exact .inr (.inl ⟨job, job', rfl, kind, owned, result, rest⟩)
    | some jobType =>
      simp only [kind, bind_eq_ok] at h
      obtain ⟨⟨rest, after⟩, tail, result⟩ := h
      cases result
      exact .inr (.inr ⟨job, jobType, rest, rfl, kind, tail, rfl⟩)

theorem leasedJobs_evolves {jobIds : List JobId} {leased : List LeasedJob}
    (h : JobStore.leasedJobs settings workerId now jobIds store = .ok (leased, store')) :
    Evolves HeldStep store store' := by
  induction jobIds generalizing store leased with
  | nil => cases h; exact .refl _
  | cons jobId jobIds ih =>
    obtain ⟨-, h⟩ | ⟨job, job', row, -, owned, result, h⟩ | ⟨_, _, rest, -, -, h, -⟩ :=
      leasedJobs_cons h
    · exact ih h
    · exact (Evolves.rewrite row (.failed owned result)).trans (ih h)
    · exact ih h

theorem lease_evolves {limit : Option Int} {locked : List JobId} {later : Timestamp}
    {leased : List LeasedJob}
    (h : store.lease settings workerId limit locked now later = .ok (leased, store')) :
    Evolves RowStep store store' := by
  obtain ⟨_, batch, rest⟩ := bind_eq_ok.mp h
  exact (leaseBatch_evolves batch).trans ((leasedJobs_evolves rest).mono fun _ _ => .held)

end

/-- Every operation leaves each row as it is, rewrites it by row operations, or adds a new row. -/
theorem perform_evolves {settings : Settings} {store store' : JobStore} {now : Timestamp}
    {operation : Operation} (h : perform settings store now operation = .ok store') :
    Evolves RowStep store store' := by
  cases operation with
  | enqueue =>
    obtain ⟨_, result, rfl⟩ := map_eq_ok.mp h
    exact (enqueue_evolves result).mono fun _ _ => .held
  | leaseBatch =>
    obtain ⟨_, result, rfl⟩ := map_eq_ok.mp h
    exact leaseBatch_evolves result
  | lease =>
    obtain ⟨_, result, rfl⟩ := map_eq_ok.mp h
    exact lease_evolves result
  | heartbeat => cases h; exact (heartbeat_evolves _).mono fun _ _ => .held
  | complete => exact (complete_evolves h).mono fun _ _ => .held
  | fail => exact (fail_evolves h).mono fun _ _ => .held
  | cancel => exact (cancel_evolves h).mono fun _ _ => .held
  | markCancelled => exact (markCancelled_evolves h).mono fun _ _ => .held
  | retry => exact (retry_evolves h).mono fun _ _ => .held
  | reclaimStale => exact (reclaimStale_evolves h).mono fun _ _ => .held

theorem step_all {settings : Settings} {P : BackgroundJobModel → Prop}
    (new : ∀ job, NewJob job → P job)
    (keep : ∀ job job', P job → RowStep job job' → P job') {store : JobStore}
    (all : Table.All (fun _ => P) store) (event : JobEvent) :
    Table.All (fun _ => P) ((jobMachine settings).step store event) := by
  simp only [jobMachine]
  cases result : perform settings store event.now event.operation with
  | error _ => exact all
  | ok store' => exact (perform_evolves result).all new keep all

/-! ### What a lease hands out -/

section

variable {settings : Settings} {store store' : JobStore} {workerId : String} {now : Timestamp}

/-- The rows that are not listed are as they were, and each job handed out is a listed row as it
now stands. -/
theorem leasedJobs_spec {jobIds : List JobId} {leased : List LeasedJob} (nodup : jobIds.Nodup)
    (h : JobStore.leasedJobs settings workerId now jobIds store = .ok (leased, store')) :
    (∀ k ∉ jobIds, store'.lookup k = store.lookup k) ∧
    (∀ job ∈ leased, job.jobId ∈ jobIds ∧ ∃ row jobType, store.lookup job.jobId = some row ∧
      store'.lookup job.jobId = some row ∧ JobType.ofValue row.jobType = some jobType ∧
      job = row.leasedJob job.jobId jobType) ∧
    (leased.map LeasedJob.jobId).Sublist jobIds := by
  induction jobIds generalizing store leased with
  | nil => cases h; simp
  | cons jobId jobIds ih =>
    obtain ⟨fresh, nodup⟩ := List.nodup_cons.mp nodup
    obtain ⟨-, h⟩ | ⟨row, row', found, -, -, -, h⟩ | ⟨row, jobType, rest, found, kind, tail, rfl⟩ :=
      leasedJobs_cons h
    · obtain ⟨other, handed, ids⟩ := ih nodup h
      refine ⟨fun k hk => other k (mt (List.mem_cons_of_mem _) hk), fun job member => ?_,
        ids.trans (List.sublist_cons_self ..)⟩
      obtain ⟨listed, rest⟩ := handed job member
      exact ⟨List.mem_cons_of_mem _ listed, rest⟩
    · obtain ⟨other, handed, ids⟩ := ih nodup h
      refine ⟨fun k hk => ?_, fun job member => ?_, ids.trans (List.sublist_cons_self ..)⟩
      · obtain ⟨ne, tail⟩ := not_or.mp (mt List.mem_cons.mpr hk)
        rw [other k tail, AList.lookup_insert_ne ne]
      · obtain ⟨listed, row₁, jobType, before, rest⟩ := handed job member
        rw [AList.lookup_insert_ne (ne_of_mem_of_not_mem listed fresh)] at before
        exact ⟨List.mem_cons_of_mem _ listed, row₁, jobType, before, rest⟩
    · obtain ⟨other, handed, ids⟩ := ih nodup tail
      refine ⟨fun k hk => other k (mt (List.mem_cons_of_mem _) hk), fun job member => ?_,
        ids.cons_cons _⟩
      rcases List.mem_cons.mp member with rfl | member
      · refine ⟨List.mem_cons_self, row, jobType, found, ?_, kind, rfl⟩
        show store'.lookup jobId = some row
        rw [other jobId fresh, found]
      · obtain ⟨listed, rest⟩ := handed job member
        exact ⟨List.mem_cons_of_mem _ listed, rest⟩

/-- What a lease of the queue does: rows that it does not select are as they were, and each job it
hands out is a row that it has just leased. -/
theorem lease_spec {limit : Option Int} {locked : List JobId} {later : Timestamp}
    {leased : List LeasedJob}
    (h : store.lease settings workerId limit locked now later = .ok (leased, store')) :
    (∀ k ∉ store.leaseSelection (JobStore.batchLimit settings limit) locked now,
      store'.lookup k = store.lookup k) ∧
    (∀ job ∈ leased,
      job.jobId ∈ store.leaseSelection (JobStore.batchLimit settings limit) locked now ∧
      ∃ before row jobType, store.lookup job.jobId = some before ∧
        JobStore.leasable now before = true ∧
        before.lease workerId settings.jobLeaseSeconds now = .ok row ∧
        store'.lookup job.jobId = some row ∧ JobType.ofValue row.jobType = some jobType ∧
        job = row.leasedJob job.jobId jobType) ∧
    (leased.map LeasedJob.jobId).Nodup := by
  obtain ⟨⟨jobIds, after⟩, batch, rest⟩ := bind_eq_ok.mp h
  simp only [JobStore.leaseBatch, bind_eq_ok] at batch
  obtain ⟨updatedStore, updated, result⟩ := batch
  cases result
  obtain ⟨other, handed, ids⟩ := leasedJobs_spec leaseSelection_nodup rest
  refine ⟨fun k hk => ?_, fun job member => ?_, leaseSelection_nodup.sublist ids⟩
  · rw [other k hk, Table.updateEach_other updated hk]
  · obtain ⟨selected, row, jobType, leasedRow, row', kind, view⟩ := handed job member
    obtain ⟨before, found, free⟩ := leaseSelection_spec selected
    obtain ⟨row₁, result, row₁'⟩ :=
      Table.updateEach_mem leaseSelection_nodup updated selected found
    rw [leasedRow] at row₁'
    cases row₁'
    exact ⟨selected, before, row, jobType, found, free, result, row', kind, view⟩

end

end CyberLegends.Jobs
