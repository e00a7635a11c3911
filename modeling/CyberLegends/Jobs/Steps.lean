import CyberLegends.Jobs.Rows
import CyberLegends.Jobs.Worker

/-! What an event of the world does to the job rows and to the runs: only a lease hands a job to a
worker, and a run keeps its worker and its job for as long as it lives. -/

namespace CyberLegends.Jobs

open CyberLegends.Core Lib

variable {H : HandlerSystem} {settings : Settings} {w : World H}

/-! ### The transactions of a run -/

theorem advance_evolves (run : ProcessRun H) (now : Timestamp) (answer : H.Answer)
    (jobs : JobStore) (resources : H.Resources) :
    Evolves HeldStep jobs (run.advance settings now answer jobs resources).1 := by
  unfold ProcessRun.advance
  split
  · exact .refl jobs
  · exact .refl jobs
  · exact .refl jobs
  · exact .refl jobs
  · exact .refl jobs
  · split
    · exact complete_evolves ‹_›
    · exact .refl jobs
  · split
    · exact fail_evolves ‹_›
    · exact .refl jobs
  · split
    · exact markCancelled_evolves ‹_›
    · exact .refl jobs
  · exact .refl jobs
  · exact .refl jobs
  · exact .refl jobs

/-! ### Leases -/

theorem beginRuns_lookup {workerId : String} {leaseUntil : Timestamp} {leased : List LeasedJob}
    {next id : RunId} {runs : Table RunId (ProcessRun H)} {run : ProcessRun H}
    (h : (World.beginRuns workerId leaseUntil leased next runs).lookup id = some run) :
    runs.lookup id = some run ∨
      ∃ job ∈ leased, run = { workerId := workerId, job := job, leaseUntil := leaseUntil } := by
  induction leased generalizing next runs with
  | nil => exact .inl h
  | cons job leased ih =>
    obtain before | ⟨job', member, new⟩ := ih h
    · obtain ⟨-, rfl⟩ | ⟨-, before⟩ := Table.lookup_insert_cases before
      · exact .inr ⟨job, List.mem_cons_self, rfl⟩
      · exact .inl before
    · exact .inr ⟨job', List.mem_cons_of_mem _ member, new⟩

/-- What a poll does: nothing, or a lease of the queue whose jobs get a run each. -/
theorem lease_cases (w : World H) (workerId : String) (limit : Option Int) (locked : List JobId)
    (later : Timestamp) :
    w.lease settings workerId limit locked later = w ∨
      w.batches.lookup workerId = none ∧
      ∃ leased jobs batches,
        w.jobs.lease settings workerId limit locked w.now later = .ok (leased, jobs) ∧
        w.lease settings workerId limit locked later = { w with
          jobs
          runs := World.beginRuns workerId (w.now + seconds settings.jobLeaseSeconds) leased
            w.nextRun w.runs
          nextRun := w.nextRun + leased.length
          batches } := by
  unfold World.lease
  by_cases waiting : (w.batches.lookup workerId).isSome
  · exact .inl (if_pos waiting)
  · rw [if_neg waiting]
    have free : w.batches.lookup workerId = none := by simpa using waiting
    cases result : w.jobs.lease settings workerId limit locked w.now later with
    | error e => exact .inl rfl
    | ok handed => exact .inr ⟨free, handed.1, handed.2, _, rfl, rfl⟩

/-! ### Events -/

/-- An event other than a poll leaves no row newly leased. -/
theorem step_evolves (w : World H) (event : WorldEvent H)
    (other : ∀ workerId limit locked later, event ≠ .lease workerId limit locked later) :
    Evolves HeldStep w.jobs (w.step settings event).jobs := by
  cases event with
  | lease workerId limit locked later => exact absurd rfl (other workerId limit locked later)
  | tick | callDies | crash => exact .refl _
  | submit =>
    simp only [World.step, World.submit]
    split
    · exact .refl _
    · split
      · exact .refl _
      · exact enqueue_evolves ‹_›
  | reclaim =>
    simp only [World.step, World.reclaim]
    split
    · exact .refl _
    · exact reclaimStale_evolves ‹_›
  | process id answer =>
    simp only [World.step, World.process]
    split
    · exact .refl _
    · split
      · exact .refl _
      · exact advance_evolves ..
  | interrupt =>
    simp only [World.step, World.interrupt]
    split
    · exact .refl _
    · split
      · split <;> exact .refl _
      · exact .refl _
  | fault =>
    simp only [World.step, World.fault]
    split
    · exact .refl _
    · split <;> exact .refl _
  | heartbeat =>
    simp only [World.step, World.heartbeat]
    split
    · exact .refl _
    · split
      · exact .refl _
      · exact .refl _
      · split <;> exact .refl _
      · split <;> exact heartbeat_evolves _
  | heartbeatDies =>
    simp only [World.step, World.heartbeatDies]
    split <;> exact .refl _
  | request =>
    simp only [World.step, World.request]
    split
    · exact .refl _
    · exact .refl _
    · split
      · exact .refl _
      · exact cancel_evolves ‹_›
  | cancel =>
    simp only [World.step, World.cancel]
    split
    · exact .refl _
    · split
      · exact cancel_evolves ‹_›
      · split <;> exact cancel_evolves ‹_›
  | retry =>
    simp only [World.step, World.retry]
    split
    · exact .refl _
    · split <;> exact retry_evolves ‹_›
  | call =>
    simp only [World.step, World.call]
    split
    · exact .refl _
    · split <;> exact .refl _

/-- Two records of one run: the worker and the job are the same. -/
def ProcessRun.Same (run run' : ProcessRun H) : Prop :=
  run'.workerId = run.workerId ∧ run'.job = run.job

theorem setRun_runs {id id' : RunId} {run run₁ run' : ProcessRun H}
    (found : w.runs.lookup id' = some run) (same : run.Same run₁)
    (h : (w.setRun id' run₁).runs.lookup id = some run') :
    ∃ run, w.runs.lookup id = some run ∧ run.Same run' := by
  obtain ⟨rfl, rfl⟩ | ⟨-, before⟩ := Table.lookup_insert_cases h
  · exact ⟨run, found, same⟩
  · exact ⟨run', before, rfl, rfl⟩

theorem release_runs {id id' : RunId} {run run' : ProcessRun H} {raised : Bool}
    (h : (w.release id' run raised).runs.lookup id = some run') :
    ∃ run, w.runs.lookup id = some run ∧ run.Same run' :=
  ⟨run', (Table.lookup_erase_some h).2, rfl, rfl⟩

/-- The runs after an event other than a poll are those before it. -/
theorem step_runs (w : World H) (event : WorldEvent H)
    (other : ∀ workerId limit locked later, event ≠ .lease workerId limit locked later)
    {id : RunId} {run' : ProcessRun H}
    (h : (w.step settings event).runs.lookup id = some run') :
    ∃ run, w.runs.lookup id = some run ∧ run.Same run' := by
  have unchanged : w.runs.lookup id = some run' →
      ∃ run, w.runs.lookup id = some run ∧ run.Same run' := fun h => ⟨run', h, rfl, rfl⟩
  cases event with
  | lease workerId limit locked later => exact absurd rfl (other workerId limit locked later)
  | tick | callDies => exact unchanged h
  | submit =>
    simp only [World.step, World.submit] at h
    split at h
    · exact unchanged h
    · split at h <;> exact unchanged h
  | reclaim =>
    simp only [World.step, World.reclaim] at h
    split at h <;> exact unchanged h
  | process id' answer =>
    simp only [World.step, World.process] at h
    split at h
    · exact unchanged h
    · split at h
      · exact release_runs h
      · exact setRun_runs (w := { w with jobs := _, resources := _ }) ‹_› (by exact ⟨rfl, rfl⟩) h
  | interrupt id' =>
    simp only [World.step, World.interrupt] at h
    split at h
    · exact unchanged h
    · split at h
      · split at h
        · exact setRun_runs ‹_› (by exact ⟨rfl, rfl⟩) h
        · exact unchanged h
      · exact unchanged h
  | fault id' retryable =>
    simp only [World.step, World.fault] at h
    split at h
    · exact unchanged h
    · split at h
      · exact release_runs h
      · exact setRun_runs ‹_› (by exact ⟨rfl, rfl⟩) h
  | heartbeat id' =>
    simp only [World.step, World.heartbeat] at h
    split at h
    · exact unchanged h
    · split at h
      · exact unchanged h
      · exact setRun_runs ‹_› (by exact ⟨rfl, rfl⟩) h
      · split at h <;> exact setRun_runs ‹_› (by exact ⟨rfl, rfl⟩) h
      · split at h <;> exact setRun_runs (w := { w with jobs := _ }) ‹_› (by exact ⟨rfl, rfl⟩) h
  | heartbeatDies id' =>
    simp only [World.step, World.heartbeatDies] at h
    split at h
    · exact unchanged h
    · exact setRun_runs ‹_› (by exact ⟨rfl, rfl⟩) h
  | crash workerId => exact unchanged (Table.lookup_keep.mp h).1
  | request request =>
    simp only [World.step, World.request] at h
    split at h
    · exact unchanged h
    · exact unchanged h
    · split at h <;> exact unchanged h
  | cancel jobId =>
    simp only [World.step, World.cancel] at h
    split at h
    · exact unchanged h
    · split at h
      · exact unchanged h
      · split at h <;> exact unchanged h
  | retry jobId =>
    simp only [World.step, World.retry] at h
    split at h
    · exact unchanged h
    · split at h <;> exact unchanged h
  | call id' =>
    simp only [World.step, World.call] at h
    split at h
    · exact unchanged h
    · split at h <;> exact unchanged h

end CyberLegends.Jobs
