import CyberLegends.Experiments.Runners

/-! What the runs of the runners leave of the case results: when a completed row keeps what it says,
and that a completed experiment or comparison has one row for each of its cases and variants. -/

namespace CyberLegends.Experiments

open CyberLegends.Core Lib Jobs Applied Agents

/-! ### Laws -/

/-- Every row that is completed before is completed after, with the output and the metrics that it
had. -/
def KeepsCompleted (db db' : Database) : Prop :=
  ∀ resultId row, db.results.lookup resultId = some row → row.status = .completed →
    ∃ row', db'.results.lookup resultId = some row' ∧ row'.status = .completed ∧
      row'.output = row.output ∧ row'.metrics = row.metrics

/-- What is completed has exactly one row for each of its cases and variants. -/
def OneResultEach (db : Database) : Prop :=
  ∀ subjectId subject, db.subjects.lookup subjectId = some subject →
    subject.row.status = .completed →
      ∀ caseId ∈ subject.sample, ∀ variant ∈ variants subject subjectId,
        ∃! resultId, ∃ row, db.results.lookup resultId = some row ∧
          row.key = ⟨subjectId, caseId, variant⟩

/-- The write of what is recorded over the loaded row leaves the committed row, if that is
completed, its status, output and metrics: each of the three is not changed by the session, or
changed to what is there. -/
def Recorded.Spares (recorded : Recorded) (loaded committed : CaseResultModel) : Prop :=
  committed.status = .completed →
    (recorded.status = loaded.status ∨ recorded.status = committed.status) ∧
      (recorded.output = loaded.output ∨ recorded.output = committed.output) ∧
      (recorded.columnMetrics = loaded.metrics ∨ recorded.columnMetrics = committed.metrics)

/-- If the event writes a case result over a row, it spares it. -/
def SparesCompleted (db : Database) : Event → Prop
  | .advance _ runId _ =>
    ∀ run, db.runs.lookup runId = some run → ∀ key recorded resultId loaded work,
      run.stage = .record key recorded (some (resultId, loaded)) work →
        ∀ committed, db.results.lookup resultId = some committed →
          recorded.Spares loaded committed
  | _ => True

theorem KeepsCompleted.refl (db : Database) : KeepsCompleted db db :=
  fun _ row found completed => ⟨row, found, completed, rfl, rfl⟩

theorem KeepsCompleted.trans (db db' db'' : Database) (first : KeepsCompleted db db')
    (second : KeepsCompleted db' db'') : KeepsCompleted db db'' := by
  intro resultId row found completed
  obtain ⟨row', found', completed', output, metrics⟩ := first resultId row found completed
  obtain ⟨row'', found'', completed'', output', metrics'⟩ := second resultId row' found' completed'
  exact ⟨row'', found'', completed'', output'.trans output, metrics'.trans metrics⟩

/-! ### What a run makes -/

/-- A run makes the results of the cases and the variants of its subject. -/
theorem mem_batches {subject : Subject} {subjectId : SubjectId} {key : ResultKey} :
    key ∈ (batches subject subjectId).flatten ↔
      key.subjectId = subjectId ∧ key.evaluationCaseId ∈ subject.sample ∧
        key.variant ∈ variants subject subjectId := by
  obtain ⟨keySubject, caseId, variant⟩ := key
  cases subjectId <;> simp [batches, variants] <;> grind

def Work.pending (work : Work) : List ResultKey := work.keys ++ work.batches.flatten

/-- The results that a run which has started has still to make. -/
def Stage.pending : Stage → List ResultKey
  | .start | .complete => []
  | .client batch rest => batch ++ rest.flatten
  | .checkpoint key work | .isCompleted key work | .execute key work | .select key _ work
  | .record key _ _ work => key :: work.pending

@[simp] theorem Stage.pending_clients (rest : List (List ResultKey)) :
    (Stage.clients rest).pending = rest.flatten := by
  cases rest with
  | nil => rfl
  | cons batch rest => simp [Stage.clients, Stage.pending]

@[simp] theorem Work.pending_next (work : Work) : work.next.pending = work.pending := by
  obtain ⟨unavailable, keys, rest⟩ := work
  cases keys with
  | nil => simp [Work.next, Work.pending]
  | cons key keys => cases unavailable <;> simp [Work.next, Work.pending, Stage.pending]

/-! ### The invariant -/

namespace Database

variable {db db' : Database}

def HasResult (db : Database) (key : ResultKey) : Prop :=
  ∃ resultId row, db.results.lookup resultId = some row ∧ row.key = key

theorem caseResult_row {key : ResultKey} {resultId : Uuid} {row : CaseResultModel}
    (found : db.caseResult key = some (resultId, row)) :
    db.results.lookup resultId = some row ∧ row.key = key := by
  obtain ⟨entry, first, same⟩ := Option.map_eq_some_iff.mp found
  cases same
  obtain ⟨there, sameKey⟩ := Table.find_row first
  exact ⟨there, by simpa using sameKey⟩

theorem caseResult_none {key : ResultKey} (missing : db.caseResult key = none) :
    ¬ db.HasResult key := by
  rintro ⟨resultId, row, found, sameKey⟩
  have nowhere := List.find?_eq_none.mp (Option.map_eq_none_iff.mp missing) ⟨resultId, row⟩
    (AList.mem_lookup_iff.mp found)
  simp [sameKey] at nowhere

/-- Rows keep their keys and subjects what they are about, and none is lost. -/
structure Grows (db db' : Database) : Prop where
  results : ∀ resultId row, db.results.lookup resultId = some row →
    ∃ row', db'.results.lookup resultId = some row' ∧ row'.key = row.key
  subjects : ∀ subjectId subject, db.subjects.lookup subjectId = some subject →
    ∃ subject', db'.subjects.lookup subjectId = some subject' ∧
      batches subject' subjectId = batches subject subjectId

theorem Grows.of_same (results : db'.results = db.results) (subjects : db'.subjects = db.subjects) :
    Grows db db' where
  results _ row found := ⟨row, by rw [results, found], rfl⟩
  subjects _ subject found := ⟨subject, by rw [subjects, found], rfl⟩

theorem Grows.hasResult (grows : Grows db db') {key : ResultKey} (there : db.HasResult key) :
    db'.HasResult key := by
  obtain ⟨resultId, row, found, rfl⟩ := there
  obtain ⟨row', found', same⟩ := grows.results resultId row found
  exact ⟨resultId, row', found', same⟩

/-- A started run has made what it has no more to make, and a row that it has loaded is there. -/
structure RunSound (db : Database) (run : Run) : Prop where
  covered : run.stage = .start ∨ ∃ subject, db.subjects.lookup run.subjectId = some subject ∧
    ∀ key ∈ (batches subject run.subjectId).flatten, key ∈ run.stage.pending ∨ db.HasResult key
  loaded : ∀ key recorded resultId row work,
    run.stage = .record key recorded (some (resultId, row)) work → db.HasResult key

structure Sound (db : Database) : Prop where
  fresh : ∀ resultId row, db.results.lookup resultId = some row → resultId < db.nextResult
  unique : ∀ resultId row resultId' row', db.results.lookup resultId = some row →
    db.results.lookup resultId' = some row' → row.key = row'.key → resultId = resultId'
  runs : ∀ runId run, db.runs.lookup runId = some run → RunSound db run
  finished : ∀ subjectId subject, db.subjects.lookup subjectId = some subject →
    subject.row.status = .completed →
      ∀ key ∈ (batches subject subjectId).flatten, db.HasResult key

theorem RunSound.grows {run : Run} (sound : RunSound db run) (grows : Grows db db') :
    RunSound db' run where
  covered := by
    rcases sound.covered with start | ⟨subject, found, covered⟩
    · exact .inl start
    obtain ⟨subject', found', same⟩ := grows.subjects _ _ found
    refine .inr ⟨subject', found', fun key listed => ?_⟩
    rw [same] at listed
    exact (covered key listed).imp_right grows.hasResult
  loaded key recorded resultId row work stage :=
    grows.hasResult (sound.loaded key recorded resultId row work stage)

/-- A run goes on to a stage from which it still makes all that is missing. -/
theorem RunSound.goOn {run : Run} {stage : Stage} (sound : RunSound db run)
    (started : run.stage ≠ .start)
    (pending : ∀ key ∈ run.stage.pending, key ∈ stage.pending ∨ db.HasResult key)
    (loaded : ∀ key recorded resultId row work,
      stage = .record key recorded (some (resultId, row)) work → db.HasResult key) :
    RunSound db { run with stage } where
  covered := by
    obtain ⟨subject, found, covered⟩ := sound.covered.resolve_left started
    refine .inr ⟨subject, found, fun key listed => ?_⟩
    rcases covered key listed with waiting | there
    · exact pending key waiting
    · exact .inr there
  loaded := loaded

theorem Sound.stop (sound : Sound db) (runId : Uuid) : Sound (db.stop runId) where
  fresh := sound.fresh
  unique := sound.unique
  runs runId' run found :=
    (sound.runs runId' run (Table.lookup_erase_some found).2).grows (.of_same rfl rfl)
  finished := sound.finished

theorem Sound.goOn (sound : Sound db) (runId : Uuid) {run : Run} {stage : Stage}
    (new : RunSound db { run with stage }) : Sound (db.goOn runId run stage) where
  fresh := sound.fresh
  unique := sound.unique
  runs runId' run' found := by
    rcases Table.lookup_insert_cases found with ⟨-, rfl⟩ | ⟨-, found⟩
    · exact new.grows (.of_same rfl rfl)
    · exact (sound.runs runId' run' found).grows (.of_same rfl rfl)
  finished := sound.finished

theorem Grows.setRow {subjectId : SubjectId} {subject : Subject}
    (found : db.subjects.lookup subjectId = some subject) (row : PromptExperimentModel) :
    Grows db (db.setRow subjectId subject row) where
  results resultId row there := ⟨row, there, rfl⟩
  subjects subjectId' subject' found' := by
    by_cases same : subjectId' = subjectId
    · subst same
      rw [found] at found'
      cases found'
      exact ⟨{ subject with row }, AList.lookup_insert _, by cases subjectId' <;> rfl⟩
    · exact ⟨subject', (AList.lookup_insert_ne same).trans found', rfl⟩

/-- The row of a subject is completed only once its results are there. -/
theorem Sound.setRow (sound : Sound db) {subjectId : SubjectId} {subject : Subject}
    {row : PromptExperimentModel} (found : db.subjects.lookup subjectId = some subject)
    (finished : row.status = .completed →
      ∀ key ∈ (batches subject subjectId).flatten, db.HasResult key) :
    Sound (db.setRow subjectId subject row) where
  fresh := sound.fresh
  unique := sound.unique
  runs runId run there := (sound.runs runId run there).grows (.setRow found row)
  finished subjectId' subject' found' completed key listed := by
    rcases Table.lookup_insert_cases found' with ⟨rfl, rfl⟩ | ⟨-, found'⟩
    · refine finished completed key ?_
      cases subjectId' <;> exact listed
    · exact sound.finished subjectId' subject' found' completed key listed

/-! ### The write of a case result -/

/-- What the write of a case result does: a row of its own, or new values in the row that was
selected. -/
theorem recordCase_cases {key : ResultKey} {recorded : Recorded}
    {loaded : Option (Uuid × CaseResultModel)} (written : db.recordCase key recorded loaded = some db') :
    loaded = none ∧ ¬ db.HasResult key ∧
        db' = { db with
          results := db.results.insert db.nextResult
            (recorded.assign { key, status := recorded.status })
          nextResult := db.nextResult + 1 } ∨
      ∃ resultId row committed, loaded = some (resultId, row) ∧
        db.results.lookup resultId = some committed ∧
        db' = { db with
          results := db.results.insert resultId (row.flush (recorded.assign row) committed) } := by
  unfold recordCase at written
  cases loaded with
  | none =>
    cases missing : db.caseResult key with
    | some entry => simp [missing] at written
    | none =>
      simp only [missing, Option.isSome_none, Bool.false_eq_true, if_false] at written
      cases written
      exact .inl ⟨rfl, caseResult_none missing, rfl⟩
  | some entry =>
    obtain ⟨resultId, row⟩ := entry
    cases found : db.results.lookup resultId with
    | none => simp [found] at written
    | some committed =>
      simp only [found] at written
      cases written
      exact .inr ⟨resultId, row, committed, rfl, found, rfl⟩

theorem Sound.recordCase (sound : Sound db) {key : ResultKey} {recorded : Recorded}
    {loaded : Option (Uuid × CaseResultModel)} (written : db.recordCase key recorded loaded = some db') :
    Grows db db' ∧ Sound db' := by
  rcases recordCase_cases written with
    ⟨rfl, missing, rfl⟩ | ⟨resultId, row, committed, rfl, found, rfl⟩
  · have other : ∀ resultId row, db.results.lookup resultId = some row →
        resultId ≠ db.nextResult := by
      intro resultId row there
      exact Nat.ne_of_lt (sound.fresh resultId row there)
    have grows : Grows db { db with
        results := db.results.insert db.nextResult
          (recorded.assign { key, status := recorded.status })
        nextResult := db.nextResult + 1 } :=
      ⟨fun resultId row there =>
        ⟨row, (AList.lookup_insert_ne (other resultId row there)).trans there, rfl⟩,
        fun _ subject there => ⟨subject, there, rfl⟩⟩
    refine ⟨grows, ⟨?_, ?_, ?_, ?_⟩⟩
    · intro resultId row there
      rcases Table.lookup_insert_cases there with ⟨rfl, -⟩ | ⟨-, there⟩
      · exact Nat.lt_succ_self _
      · exact Nat.lt_succ_of_lt (sound.fresh resultId row there)
    · intro resultId row resultId' row' there there' same
      rcases Table.lookup_insert_cases there with ⟨rfl, rfl⟩ | ⟨-, there⟩
      · rcases Table.lookup_insert_cases there' with ⟨rfl, -⟩ | ⟨-, there'⟩
        · rfl
        · exact absurd ⟨resultId', row', there', same.symm⟩ missing
      · rcases Table.lookup_insert_cases there' with ⟨rfl, rfl⟩ | ⟨-, there'⟩
        · exact absurd ⟨resultId, row, there, same⟩ missing
        · exact sound.unique resultId row resultId' row' there there' same
    · exact fun runId run there => (sound.runs runId run there).grows grows
    · exact fun subjectId subject there completed key listed =>
        grows.hasResult (sound.finished subjectId subject there completed key listed)
  · -- a row keeps its key, so the other clauses see the rows that were there
    have before : ∀ resultId' row', (db.results.insert resultId
        (row.flush (recorded.assign row) committed)).lookup resultId' = some row' →
          ∃ row'', db.results.lookup resultId' = some row'' ∧ row''.key = row'.key := by
      intro resultId' row' there
      rcases Table.lookup_insert_cases there with ⟨rfl, rfl⟩ | ⟨-, there⟩
      · exact ⟨committed, found, rfl⟩
      · exact ⟨row', there, rfl⟩
    have grows : Grows db { db with
        results := db.results.insert resultId (row.flush (recorded.assign row) committed) } := by
      refine ⟨fun resultId' row' there => ?_, fun _ subject there => ⟨subject, there, rfl⟩⟩
      by_cases same : resultId' = resultId
      · subst same
        rw [found] at there
        cases there
        exact ⟨_, AList.lookup_insert _, rfl⟩
      · exact ⟨row', (AList.lookup_insert_ne same).trans there, rfl⟩
    refine ⟨grows, ⟨?_, ?_, ?_, ?_⟩⟩
    · intro resultId' row' there
      obtain ⟨row'', there', -⟩ := before resultId' row' there
      exact sound.fresh resultId' row'' there'
    · intro resultId₁ row₁ resultId₂ row₂ there₁ there₂ same
      obtain ⟨row₁', there₁', same₁⟩ := before resultId₁ row₁ there₁
      obtain ⟨row₂', there₂', same₂⟩ := before resultId₂ row₂ there₂
      exact sound.unique resultId₁ row₁' resultId₂ row₂' there₁' there₂'
        (same₁.trans (same.trans same₂.symm))
    · exact fun runId run there => (sound.runs runId run there).grows grows
    · exact fun subjectId subject there completed key listed =>
        grows.hasResult (sound.finished subjectId subject there completed key listed)

/-- The key of a case result that was written has a row. -/
theorem recordCase_hasResult {key : ResultKey} {recorded : Recorded}
    {loaded : Option (Uuid × CaseResultModel)} (written : db.recordCase key recorded loaded = some db')
    (grows : Grows db db')
    (there : ∀ resultId row, loaded = some (resultId, row) → db.HasResult key) :
    db'.HasResult key := by
  rcases recordCase_cases written with ⟨-, -, rfl⟩ | ⟨resultId, row, -, loaded, -, -⟩
  · exact ⟨db.nextResult, _, AList.lookup_insert _, rfl⟩
  · exact grows.hasResult (there resultId row loaded)

/-! ### Steps -/

/-- A run whose stage is not the write over a loaded row has nothing loaded. -/
theorem RunSound.next {run : Run} (sound : RunSound db run) (started : run.stage ≠ .start)
    {stage : Stage} (pending : ∀ key ∈ run.stage.pending, key ∈ stage.pending ∨ db.HasResult key)
    (unloaded : ∀ key recorded resultId row work,
      stage ≠ .record key recorded (some (resultId, row)) work) :
    RunSound db { run with stage } :=
  sound.goOn started pending fun key recorded resultId row work same =>
    absurd same (unloaded key recorded resultId row work)

theorem Stage.clients_ne_record (rest : List (List ResultKey)) (key : ResultKey)
    (recorded : Recorded) (loaded : Option (Uuid × CaseResultModel)) (work : Work) :
    Stage.clients rest ≠ .record key recorded loaded work := by
  cases rest <;> simp [Stage.clients]

theorem Work.next_ne_record (work' : Work) (key : ResultKey) (recorded : Recorded)
    (loaded : Option (Uuid × CaseResultModel)) (work : Work) :
    work'.next ≠ .record key recorded loaded work := by
  obtain ⟨unavailable, keys, rest⟩ := work'
  cases keys with
  | nil => exact Stage.clients_ne_record rest key recorded loaded work
  | cons key keys => cases unavailable <;> simp [Work.next]

theorem start_cases {now : Timestamp} {absent : String} {row row' : PromptExperimentModel}
    (started : PromptExperimentModel.start now absent (some row) = .ok (some row')) :
    row'.status = .running := by
  unfold PromptExperimentModel.start at started
  split at started
  · cases started
  · split at started <;> cases started
    rfl

theorem Sound.startRun (sound : Sound db) (now : Timestamp) (runId : Uuid) (run : Run) :
    Sound (db.startRun now runId run) := by
  unfold Database.startRun
  cases found : db.subjects.lookup run.subjectId with
  | none => exact sound.stop runId
  | some subject =>
    dsimp only
    split
    · rename_i row started
      split
      · exact sound.stop runId
      have running := start_cases started
      have written : Sound (db.setRow run.subjectId subject row) :=
        sound.setRow found (by simp [running])
      refine written.goOn runId ⟨.inr ?_, ?_⟩
      · refine ⟨{ subject with row }, AList.lookup_insert _, fun key listed => .inl ?_⟩
        have same : batches { subject with row } run.subjectId = batches subject run.subjectId := by
          cases run.subjectId <;> rfl
        rw [Stage.pending_clients, ← same]
        exact listed
      · exact fun key recorded resultId row work same =>
          absurd same (Stage.clients_ne_record _ key recorded _ work)
    · exact sound.stop runId

theorem Sound.record (sound : Sound db) (runId : Uuid) {run : Run} {key : ResultKey}
    {recorded : Recorded} {loaded : Option (Uuid × CaseResultModel)} {work : Work}
    (runSound : RunSound db run) (stage : run.stage = .record key recorded loaded work) :
    Sound (db.record runId run key recorded loaded work) := by
  unfold Database.record
  cases written : db.recordCase key recorded loaded with
  | none => exact sound.stop runId
  | some db' =>
    obtain ⟨grows, sound'⟩ := sound.recordCase written
    have made : db'.HasResult key := by
      refine recordCase_hasResult written grows fun resultId row same => ?_
      subst same
      exact runSound.loaded key recorded resultId row work stage
    dsimp only
    unfold afterRecord
    split
    · exact sound'.stop runId
    · rename_i stage' goes
      have same : stage' = work.next := by
        split at goes <;> cases goes
        rfl
      subst same
      refine sound'.goOn runId ((runSound.grows grows).next (by simp [stage]) ?_ ?_)
      · intro key' waiting
        rw [stage] at waiting
        rcases List.mem_cons.mp waiting with rfl | later
        · exact .inr made
        · exact .inl (by simpa using later)
      · exact fun key recorded resultId row work' => Work.next_ne_record _ key recorded _ work'

theorem Sound.completeRun (sound : Sound db) (now : Timestamp) (runId : Uuid) {run : Run}
    (runSound : RunSound db run) (stage : run.stage = .complete) :
    Sound (db.completeRun now runId run) := by
  unfold Database.completeRun
  cases found : db.subjects.lookup run.subjectId with
  | none => exact sound.stop runId
  | some subject =>
    dsimp only
    split
    · rename_i row completed
      split
      · -- a run that is complete has nothing left to make
        refine (sound.setRow found fun _ key listed => ?_).stop runId
        obtain ⟨subject', found', covered⟩ := runSound.covered.resolve_left (by simp [stage])
        rw [found] at found'
        cases found'
        have there := covered key listed
        simpa [stage, Stage.pending] using there
      · exact sound.stop runId
    · exact sound.stop runId

theorem Sound.advance (sound : Sound db) (now : Timestamp) (runId : Uuid) {run : Run}
    (runSound : RunSound db run) (answer : Answer) : Sound (db.advance now runId run answer) := by
  unfold Database.advance
  split
  · exact sound.startRun now runId run
  · rename_i batch rest stage
    have goes : ∀ unavailable, Sound (db.goOn runId run (Work.next ⟨unavailable, batch, rest⟩)) := by
      intro unavailable
      refine sound.goOn runId (runSound.next (by simp [stage]) (fun key waiting => .inl ?_) ?_)
      · rw [stage] at waiting
        rw [Work.pending_next]
        exact waiting
      · exact fun key recorded resultId row work => Work.next_ne_record _ key recorded _ work
    unfold Database.makeClient
    split
    · exact sound.stop runId
    · exact goes _
    · exact goes _
  · rename_i key work stage
    split
    · exact sound.stop runId
    · exact sound.goOn runId (runSound.next (by simp [stage])
        (fun key waiting => .inl (by rwa [stage] at waiting)) (by simp))
  · rename_i key work stage
    refine sound.goOn runId ?_
    split
    · rename_i completed
      refine runSound.next (by simp [stage]) (fun key' waiting => ?_) ?_
      · rw [stage] at waiting
        rcases List.mem_cons.mp waiting with rfl | later
        · unfold Database.isCompleted at completed
          split at completed
          · rename_i resultId row found
            exact .inr ⟨resultId, row, caseResult_row found⟩
          · cases completed
        · exact .inl (by simpa using later)
      · exact fun key recorded resultId row work => Work.next_ne_record _ key recorded _ work
    · exact runSound.next (by simp [stage])
        (fun key waiting => .inl (by rwa [stage] at waiting)) (by simp)
  · rename_i key work stage
    unfold Database.execute
    refine sound.goOn runId ?_
    cases answer <;>
      exact runSound.next (by simp [stage])
        (fun key waiting => .inl (by rwa [stage] at waiting)) (by simp)
  · rename_i key recorded work stage
    refine sound.goOn runId (runSound.goOn (by simp [stage])
      (fun key waiting => .inl (by rwa [stage] at waiting)) ?_)
    intro key' recorded' resultId row work' same
    obtain ⟨rfl, -, loaded, -⟩ := Stage.record.inj same
    exact ⟨resultId, row, caseResult_row loaded⟩
  · rename_i key recorded loaded work stage
    exact sound.record runId runSound stage
  · rename_i stage
    exact sound.completeRun now runId runSound stage

end Database

/-- No change but the completion of a run makes a row completed. -/
theorem change_status {now : Timestamp} {loaded assigned committed : PromptExperimentModel}
    {change : Change} (changes : change.assigned now loaded = some assigned)
    (completed : (loaded.flush assigned committed).status = .completed) :
    committed.status = .completed := by
  have other : assigned.status ≠ .completed := by
    cases change with
    | run jobId =>
      simp only [Change.assigned] at changes
      split at changes <;> cases changes
      simp [PromptExperimentModel.run]
    | cancel =>
      simp only [Change.assigned, PromptExperimentModel.cancel] at changes
      split at changes <;> cases changes
      simp
    | finish cancelled errorCode errorMessage =>
      cases changes
      cases cancelled <;> simp [Resources.endExperiment]
    | prepareRetry =>
      cases changes
      simp [Resources.resetExperiment]
  simp only [PromptExperimentModel.flush] at completed
  rcases flush_cases loaded.status assigned.status committed.status with ⟨same, -⟩ | same
  · rwa [same] at completed
  · rw [same] at completed
    exact absurd completed other

theorem step_sound (db : Database) (event : Event) (sound : db.Sound) : (step db event).Sound := by
  cases event with
  | create subjectId subject =>
    simp only [step]
    split
    · exact sound
    · rename_i missing
      have grows : db.Grows { db with
          subjects := db.subjects.insert subjectId { subject with row := {} } } := by
        refine ⟨fun _ row found => ⟨row, found, rfl⟩, fun subjectId' subject' found => ?_⟩
        refine ⟨subject', (AList.lookup_insert_ne ?_).trans found, rfl⟩
        rintro rfl
        rw [missing] at found
        cases found
      refine ⟨sound.fresh, sound.unique, fun runId run there => ?_, ?_⟩
      · exact (sound.runs runId run there).grows grows
      · intro subjectId' subject' found completed key listed
        rcases Table.lookup_insert_cases found with ⟨-, rfl⟩ | ⟨-, found⟩
        · cases completed
        · exact grows.hasResult (sound.finished subjectId' subject' found completed key listed)
  | change now subjectId loaded change =>
    simp only [step]
    split
    · rename_i subject assigned found changes
      refine sound.setRow found fun completed => ?_
      exact sound.finished subjectId subject found (change_status changes completed)
    · exact sound
  | handle subjectId =>
    refine ⟨sound.fresh, sound.unique, fun runId run there => ?_, sound.finished⟩
    have same : db.Grows (step db (.handle subjectId)) := .of_same rfl rfl
    rcases Table.lookup_insert_cases there with ⟨-, rfl⟩ | ⟨-, there⟩
    · exact ⟨.inl rfl, by simp⟩
    · exact (sound.runs runId run there).grows same
  | advance now runId answer =>
    simp only [step]
    split
    · exact sound
    · rename_i run found
      exact sound.advance now runId (sound.runs runId run found) answer
  | stop runId => exact sound.stop runId

theorem init_sound : machine.init.Sound where
  fresh resultId row found := by cases found
  unique resultId row resultId' row' found := by cases found
  runs runId run found := by cases found
  finished subjectId subject found := by cases found

/-- What is completed has exactly one row for each of its cases and variants. -/
theorem Database.Sound.oneResultEach {db : Database} (sound : db.Sound) : OneResultEach db := by
  intro subjectId subject found completed caseId sampled variant listed
  obtain ⟨resultId, row, there, same⟩ := sound.finished subjectId subject found completed
    ⟨subjectId, caseId, variant⟩ (mem_batches.mpr ⟨rfl, sampled, listed⟩)
  refine ⟨resultId, ⟨row, there, same⟩, ?_⟩
  rintro resultId' ⟨row', there', same'⟩
  exact sound.unique resultId' row' resultId row there' there (same'.trans same.symm)

/-! ### Completed rows -/

namespace Database

variable {db : Database}

/-- The write of a case result is all that a step does to the case results. -/
theorem advance_record {now : Timestamp} {runId : Uuid} {run : Run} {answer : Answer}
    {key : ResultKey} {recorded : Recorded} {loaded : Option (Uuid × CaseResultModel)} {work : Work}
    (stage : run.stage = .record key recorded loaded work) :
    (db.advance now runId run answer).results =
      ((db.recordCase key recorded loaded).getD db).results := by
  simp only [Database.advance, stage, Database.record]
  cases db.recordCase key recorded loaded with
  | none => rfl
  | some db' =>
    dsimp only
    split <;> rfl

theorem advance_other {now : Timestamp} {runId : Uuid} {run : Run} {answer : Answer}
    (other : ∀ key recorded loaded work, run.stage ≠ .record key recorded loaded work) :
    (db.advance now runId run answer).results = db.results := by
  unfold Database.advance
  split
  · unfold Database.startRun
    split
    · rfl
    · split
      · split <;> rfl
      · rfl
  · unfold Database.makeClient
    split <;> rfl
  · split <;> rfl
  · rfl
  · rfl
  · rfl
  · rename_i key recorded loaded work stage
    exact absurd stage (other key recorded loaded work)
  · unfold Database.completeRun
    split
    · rfl
    · split
      · split <;> rfl
      · rfl

end Database

theorem KeepsCompleted.of_same {db db' : Database} (same : db'.results = db.results) :
    KeepsCompleted db db' := by
  intro resultId row found completed
  exact ⟨row, by rw [same, found], completed, rfl, rfl⟩

/-- A row of its own leaves the other rows. -/
theorem Database.Sound.insert_keeps {db : Database} (sound : db.Sound) (row : CaseResultModel) :
    KeepsCompleted db { db with
      results := db.results.insert db.nextResult row, nextResult := db.nextResult + 1 } := by
  intro resultId row' found completed
  have other := Nat.ne_of_lt (sound.fresh resultId row' found)
  exact ⟨row', (AList.lookup_insert_ne other).trans found, completed, rfl, rfl⟩

/-- The write over a loaded row keeps what is completed exactly if it spares the committed row. -/
theorem flush_keeps_iff {db : Database} {resultId : Uuid} {loaded committed : CaseResultModel}
    {recorded : Recorded} (found : db.results.lookup resultId = some committed) :
    KeepsCompleted db { db with
        results := db.results.insert resultId (loaded.flush (recorded.assign loaded) committed) } ↔
      recorded.Spares loaded committed := by
  constructor
  · intro keeps completed
    obtain ⟨row, found', status, output, metrics⟩ := keeps resultId committed found completed
    rw [AList.lookup_insert] at found'
    cases found'
    exact ⟨flush_eq_committed.mp (status.trans completed.symm), flush_eq_committed.mp output,
      flush_eq_committed.mp metrics⟩
  · intro spares resultId' row there completed
    by_cases same : resultId' = resultId
    · subst same
      rw [found] at there
      cases there
      obtain ⟨status, output, metrics⟩ := spares completed
      refine ⟨_, AList.lookup_insert _, ?_, flush_eq_committed.mpr output,
        flush_eq_committed.mpr metrics⟩
      exact (flush_eq_committed.mpr status).trans completed
    · exact ⟨row, (AList.lookup_insert_ne same).trans there, completed, rfl, rfl⟩

theorem record_keeps_iff {db : Database} {now : Timestamp} {runId : Uuid} {run : Run}
    {answer : Answer} {key : ResultKey} {recorded : Recorded}
    {loaded : Option (Uuid × CaseResultModel)} {work : Work} (sound : db.Sound)
    (found : db.runs.lookup runId = some run)
    (stage : run.stage = .record key recorded loaded work) :
    KeepsCompleted db (db.advance now runId run answer) ↔
      SparesCompleted db (.advance now runId answer) := by
  have spares_iff : SparesCompleted db (.advance now runId answer) ↔
      ∀ resultId row, loaded = some (resultId, row) →
        ∀ committed, db.results.lookup resultId = some committed →
          recorded.Spares row committed := by
    constructor
    · intro spares resultId row same
      subst same
      exact spares run found key recorded resultId row work stage
    · intro spares run' found' key' recorded' resultId row work' stage'
      rw [found] at found'
      cases found'
      rw [stage] at stage'
      obtain ⟨-, rfl, rfl, -⟩ := Stage.record.inj stage'
      exact spares resultId row rfl
  rw [spares_iff]
  have results : (db.advance now runId run answer).results =
      ((db.recordCase key recorded loaded).getD db).results := Database.advance_record stage
  cases written : db.recordCase key recorded loaded with
  | none =>
    rw [written] at results
    refine iff_of_true (.of_same results) ?_
    rintro resultId row rfl committed there
    simp [Database.recordCase, there] at written
  | some db' =>
    rw [written] at results
    have same : KeepsCompleted db (db.advance now runId run answer) ↔ KeepsCompleted db db' := by
      unfold KeepsCompleted
      rw [results]
      rfl
    rw [same]
    rcases Database.recordCase_cases written with
      ⟨rfl, -, rfl⟩ | ⟨resultId, row, committed, rfl, there, rfl⟩
    · exact iff_of_true (sound.insert_keeps _) (by simp)
    · rw [flush_keeps_iff there]
      constructor
      · rintro spares resultId' row' same' committed' there'
        cases same'
        rw [there] at there'
        cases there'
        exact spares
      · exact fun spares => spares resultId row rfl committed there

/-- A step keeps what is completed exactly if it spares it. -/
theorem step_keeps_iff (db : Database) (event : Event) (sound : db.Sound) :
    KeepsCompleted db (step db event) ↔ SparesCompleted db event := by
  cases event with
  | create subjectId subject =>
    refine iff_of_true (.of_same ?_) trivial
    simp only [step]
    split <;> rfl
  | change now subjectId loaded change =>
    refine iff_of_true (.of_same ?_) trivial
    simp only [step]
    split <;> rfl
  | handle subjectId => exact iff_of_true (.of_same rfl) trivial
  | stop runId => exact iff_of_true (.of_same rfl) trivial
  | advance now runId answer =>
    simp only [step]
    cases found : db.runs.lookup runId with
    | none => exact iff_of_true (.refl db) (by simp [SparesCompleted, found])
    | some run =>
      dsimp only
      by_cases written : ∃ key recorded loaded work, run.stage = .record key recorded loaded work
      · obtain ⟨key, recorded, loaded, work, stage⟩ := written
        exact record_keeps_iff sound found stage
      · have other : ∀ key recorded loaded work, run.stage ≠ .record key recorded loaded work :=
          fun key recorded loaded work stage => written ⟨key, recorded, loaded, work, stage⟩
        refine iff_of_true (.of_same (Database.advance_other other)) ?_
        intro run' found' key recorded resultId loaded work stage
        rw [found] at found'
        cases found'
        exact absurd stage (other key recorded _ work)

/-! ### How a completed row is written over -/

/-- How a run comes to write over a completed row. -/
inductive Overwrites (db : Database) : Event → Prop
  /-- The client of a provider could not be made, and the row of the case whose failure is to be
  recorded, which nobody looks at, is completed. -/
  | unavailable {now runId answer run key recorded work error}
      (found : db.runs.lookup runId = some run) (stage : run.stage = .select key recorded work)
      (failed : work.unavailable = some error) (completed : db.isCompleted key = true) :
      Overwrites db (.advance now runId answer)
  /-- Another run has completed the case since this one looked. -/
  | late {now runId answer run key recorded work}
      (found : db.runs.lookup runId = some run) (stage : run.stage = .select key recorded work)
      (made : work.unavailable = none) (completed : db.isCompleted key = true) :
      Overwrites db (.advance now runId answer)
  /-- Another run has completed the case since this one selected its row. -/
  | stale {now runId answer run key recorded resultId loaded work committed}
      (found : db.runs.lookup runId = some run)
      (stage : run.stage = .record key recorded (some (resultId, loaded)) work)
      (selected : loaded.status ≠ .completed) (row : db.results.lookup resultId = some committed)
      (completed : committed.status = .completed) : Overwrites db (.advance now runId answer)

def overwrites (db : Database) : Event → Bool
  | .advance _ runId _ =>
    (db.runs.lookup runId).any fun run =>
      match run.stage with
      | .select key _ _ => db.isCompleted key
      | .record _ _ (some (resultId, loaded)) _ =>
        loaded.status ≠ .completed ∧
          (db.results.lookup resultId).any fun committed => committed.status = .completed
      | _ => false
  | _ => false

theorem overwrites_iff {db : Database} {event : Event} :
    overwrites db event = true ↔ Overwrites db event := by
  constructor
  · intro holds
    cases event with
    | advance now runId answer =>
      obtain ⟨run, found, holds⟩ := (Option.any_eq_true ..).mp holds
      split at holds
      · rename_i key recorded work stage
        cases made : work.unavailable with
        | none => exact .late found stage made holds
        | some error => exact .unavailable found stage made holds
      · rename_i key recorded resultId loaded work stage
        obtain ⟨selected, there⟩ := of_decide_eq_true holds
        obtain ⟨committed, row, completed⟩ := (Option.any_eq_true ..).mp there
        exact .stale found stage selected row (of_decide_eq_true completed)
      · cases holds
    | create | change | handle | stop => cases holds
  · intro causes
    cases causes with
    | unavailable found stage failed completed | late found stage made completed =>
      simp [overwrites, found, stage, completed]
    | stale found stage selected row completed =>
      simp [overwrites, found, stage, selected, row, completed]

instance decidableOverwrites (db : Database) (event : Event) : Decidable (Overwrites db event) :=
  decidable_of_iff _ overwrites_iff

/-- The rows that runs have selected to write over are not completed. -/
def SelectedOpen (db : Database) : Prop :=
  ∀ runId run key recorded resultId loaded work, db.runs.lookup runId = some run →
    run.stage = .record key recorded (some (resultId, loaded)) work → loaded.status ≠ .completed

theorem SelectedOpen.stop {db : Database} (selected : SelectedOpen db) (runId : Uuid) :
    SelectedOpen (db.stop runId) :=
  fun runId' run key recorded resultId loaded work found =>
    selected runId' run key recorded resultId loaded work (Table.lookup_erase_some found).2

theorem SelectedOpen.goOn {db : Database} (selected : SelectedOpen db) (runId : Uuid) (run : Run)
    {stage : Stage} (unselected : ∀ key recorded resultId loaded work,
      stage = .record key recorded (some (resultId, loaded)) work → loaded.status ≠ .completed) :
    SelectedOpen (db.goOn runId run stage) := by
  intro runId' run' key recorded resultId loaded work found atRecord
  rcases Table.lookup_insert_cases found with ⟨-, rfl⟩ | ⟨-, found⟩
  · exact unselected key recorded resultId loaded work atRecord
  · exact selected runId' run' key recorded resultId loaded work found atRecord

/-- What else a step writes leaves the runs. -/
theorem SelectedOpen.of_runs {db db' : Database} (selected : SelectedOpen db)
    (same : db'.runs = db.runs) : SelectedOpen db' := by
  intro runId run key recorded resultId loaded work found
  rw [same] at found
  exact selected runId run key recorded resultId loaded work found

theorem clients_ne_record (rest : List (List ResultKey)) (key : ResultKey) (recorded : Recorded)
    (loaded : Option (Uuid × CaseResultModel)) (work : Work) :
    Stage.clients rest ≠ .record key recorded loaded work := by
  cases rest <;> exact Stage.noConfusion

theorem SelectedOpen.advance {db : Database} {now : Timestamp} {runId : Uuid} {run : Run}
    {answer : Answer} (selected : SelectedOpen db) (found : db.runs.lookup runId = some run)
    (clear : ¬ Overwrites db (.advance now runId answer)) :
    SelectedOpen (db.advance now runId run answer) := by
  have goes : ∀ {db' : Database} {stage : Stage}, db'.runs = db.runs →
      (∀ key recorded loaded work, stage ≠ .record key recorded loaded work) →
      SelectedOpen (db'.goOn runId run stage) := fun same other =>
    (selected.of_runs same).goOn runId run fun key recorded _ _ work atRecord =>
      absurd atRecord (other key recorded _ work)
  unfold Database.advance
  split
  · unfold Database.startRun
    split
    · exact selected.stop runId
    · split
      · split
        · exact selected.stop runId
        · exact goes rfl (clients_ne_record _)
      · exact selected.stop runId
  · unfold Database.makeClient
    split
    · exact selected.stop runId
    · exact goes rfl (Database.Work.next_ne_record _)
    · exact goes rfl (Database.Work.next_ne_record _)
  · split
    · exact selected.stop runId
    · exact goes rfl (by simp)
  · refine goes rfl ?_
    split
    · exact Database.Work.next_ne_record _
    · simp
  · unfold Database.execute
    refine goes rfl ?_
    cases answer <;> simp
  · -- what is selected here is not completed, or the case is written over
    rename_i key recorded work stage
    refine selected.goOn runId run ?_
    intro key' recorded' resultId loaded work' atRecord completed
    obtain ⟨rfl, rfl, row, rfl⟩ := Stage.record.inj atRecord
    have isCompleted : db.isCompleted key = true := by
      unfold Database.isCompleted
      rw [row]
      exact decide_eq_true completed
    cases made : work.unavailable with
    | none => exact clear (.late found stage made isCompleted)
    | some error => exact clear (.unavailable found stage made isCompleted)
  · unfold Database.record
    split
    · exact selected.stop runId
    · rename_i db' written
      have same : db'.runs = db.runs := by
        rcases Database.recordCase_cases written with
          ⟨-, -, rfl⟩ | ⟨_, _, _, -, -, rfl⟩ <;> rfl
      split
      · exact (selected.of_runs same).stop runId
      · rename_i key recorded loaded work stage stage' after
        refine goes same ?_
        unfold Database.afterRecord at after
        split at after
        · cases after
        · cases after
          exact Database.Work.next_ne_record _
  · unfold Database.completeRun
    split
    · exact selected.stop runId
    · split
      · split
        · exact (selected.of_runs rfl).stop runId
        · exact selected.stop runId
      · exact selected.stop runId

theorem SelectedOpen.step {db : Database} {event : Event} (selected : SelectedOpen db)
    (clear : ¬ Overwrites db event) : SelectedOpen (step db event) := by
  cases event with
  | create subjectId subject =>
    simp only [Experiments.step]
    split <;> exact selected
  | change now subjectId loaded change =>
    simp only [Experiments.step]
    split <;> exact selected
  | handle subjectId =>
    intro runId run key recorded resultId loaded work found atRecord
    rcases Table.lookup_insert_cases found with ⟨-, rfl⟩ | ⟨-, found⟩
    · cases atRecord
    · exact selected runId run key recorded resultId loaded work found atRecord
  | advance now runId answer =>
    simp only [Experiments.step]
    split
    · exact selected
    · rename_i run found
      exact selected.advance found clear
  | stop runId => exact selected.stop runId

/-- Without a cause to write over a completed row, none is written over. -/
theorem SelectedOpen.spares {db : Database} {event : Event} (selected : SelectedOpen db)
    (clear : ¬ Overwrites db event) : SparesCompleted db event := by
  cases event with
  | advance now runId answer =>
    intro run found key recorded resultId loaded work stage committed row completed
    exact absurd (.stale found stage
      (selected runId run key recorded resultId loaded work found stage) row completed) clear
  | create | change | handle | stop => trivial

/-- A run that selects a completed row and records a failure in its next step loses what the row
says. -/
theorem failure_overwrites {db : Database} (sound : db.Sound) {now now' : Timestamp} {runId : Uuid}
    {run : Run} {answer answer' : Answer} {key : ResultKey} {recorded : Recorded} {work : Work}
    (found : db.runs.lookup runId = some run) (stage : run.stage = .select key recorded work)
    (failure : recorded.status = .failed) (completed : db.isCompleted key = true) :
    ¬ KeepsCompleted (step db (.advance now runId answer))
      (step (step db (.advance now runId answer)) (.advance now' runId answer')) := by
  unfold Database.isCompleted at completed
  split at completed
  · rename_i resultId row listed
    have row₁ : db.results.lookup resultId = some row := (Database.caseResult_row listed).1
    have selected : step db (.advance now runId answer) =
        db.goOn runId run (.record key recorded (some (resultId, row)) work) := by
      simp only [step, found, Database.advance, stage, listed]
    have sound' := step_sound db (.advance now runId answer) sound
    rw [step_keeps_iff _ _ sound', selected]
    intro spares
    have there : (db.goOn runId run (.record key recorded (some (resultId, row)) work)).runs.lookup
        runId = some { run with stage := .record key recorded (some (resultId, row)) work } :=
      AList.lookup_insert _
    have status := (spares _ there key recorded resultId row work rfl row row₁
      (of_decide_eq_true completed)).1
    rw [failure, of_decide_eq_true completed] at status
    simp at status
  · cases completed

/-- In every run of the runners, with any number of them at a time and any changes of the requests
and the job system between their steps, what is completed has exactly one row for each of its cases
and variants; and unless a run selects a completed row, because the client of its provider could not
be made or another run has completed the case since it looked, or writes over one that has been
completed since it selected it, a completed row keeps its status, output and metrics between any two
states. -/
theorem completed_results_kept (events : List Event)
    (clear : machine.Meets (fun db event => ¬ Overwrites db event) machine.init events) :
    machine.Between KeepsCompleted machine.init events ∧
      machine.Always OneResultEach machine.init events := by
  constructor
  · rw [Machine.between_iff_steps KeepsCompleted.refl KeepsCompleted.trans]
    refine Machine.steps_hold (I := fun db => db.Sound ∧ SelectedOpen db)
      (fun db event held clear => ⟨step_sound db event held.1, held.2.step clear⟩)
      (fun db event held clear => ?_) ⟨init_sound, ?_⟩ clear
    · exact (step_keeps_iff db event held.1).mpr (held.2.spares clear)
    · intro runId run key recorded resultId loaded work found
      cases found
  · exact Machine.always_of_invariant step_sound (fun _ sound => sound.oneResultEach) init_sound

/-- A worker takes up a comparison of two providers and completes the case of the first one, then
dies. -/
def firstWorker : List Event :=
  [.create (.comparison 0) { cases := [0], sampleSize := 1, providers := ["openai", "gemini"] },
    .change 0 (.comparison 0) {} (.run 0), .handle (.comparison 0), .advance 1 0 .proceed,
    .advance 2 0 .proceed, .advance 3 0 .proceed, .advance 4 0 .proceed,
    .advance 5 0 (.executed "output" [("success", 1)]), .advance 6 0 .proceed,
    .advance 7 0 .proceed, .stop 0]

/-- Another worker takes its job up, and finds that case completed. -/
def thirdWorker : List Event :=
  [.handle (.comparison 0), .advance 8 1 .proceed, .advance 9 1 .proceed, .advance 10 1 .proceed,
    .advance 11 1 .proceed, .advance 12 1 (.raised .other), .advance 13 1 .proceed,
    .advance 14 1 .proceed, .advance 15 1 .proceed]

theorem resumed_results_kept :
    machine.Between KeepsCompleted machine.init (firstWorker ++ thirdWorker) ∧
      machine.Always OneResultEach machine.init (firstWorker ++ thirdWorker) :=
  completed_results_kept (firstWorker ++ thirdWorker) (by decide +kernel)

/-- Another worker takes its job up, and cannot make a client for the first provider. -/
def secondWorker : List Event :=
  [.handle (.comparison 0), .advance 8 1 .proceed,
    .advance 9 1 (.raised (.application "PROVIDER_UNAVAILABLE" "No client")),
    .advance 10 1 .proceed, .advance 11 1 .proceed]

theorem completed_result_overwritten :
    ¬ ∀ events, machine.Between KeepsCompleted machine.init events ∧
      machine.Always OneResultEach machine.init events := by
  intro law
  have kept := (law (firstWorker ++ secondWorker)).1 firstWorker secondWorker [] (by simp)
  have before : ((machine.run machine.init firstWorker).results.lookup 0).map
      CaseResultModel.status = some .completed := by decide +kernel
  have after : ((machine.run machine.init (firstWorker ++ secondWorker)).results.lookup 0).map
      CaseResultModel.status = some .failed := by decide +kernel
  obtain ⟨row, found, completed⟩ := Option.map_eq_some_iff.mp before
  obtain ⟨row', found', still, -⟩ := kept 0 row found completed
  rw [found', Option.map_some, still] at after
  cases after

end CyberLegends.Experiments
