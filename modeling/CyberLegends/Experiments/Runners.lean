import CyberLegends.Agents.Sanitization
import CyberLegends.Applied.Lifecycle
import CyberLegends.Lib.Machine

/-! The runners of prompt experiments and provider comparisons, any number of them at a time. One step
of a run is one of its transactions, or one call that it waits for. -/

namespace CyberLegends.Experiments

open CyberLegends.Core Lib Jobs Applied Agents

/-! ### Rows -/

/-- A prompt experiment or a provider comparison. -/
inductive SubjectId
  | experiment (experimentId : Uuid)
  | comparison (comparisonId : Uuid)
  deriving DecidableEq, Repr

/-- The row of an experiment or a comparison, with the enabled cases of its dataset in their
order. -/
structure Subject where
  row : PromptExperimentModel := {}
  cases : List Uuid
  sampleSize : Nat
  /-- What a comparison compares. -/
  providers : List String := []

/-- The columns of a case result that its unique constraint is on. -/
structure ResultKey where
  subjectId : SubjectId
  evaluationCaseId : Uuid
  /-- The variant of an experiment, or the provider of a comparison. -/
  variant : String
  deriving DecidableEq, Repr

inductive CaseStatus
  | completed
  | failed
  deriving DecidableEq, Repr

abbrev Metrics := List (String × Rat)

structure CaseResultModel where
  key : ResultKey
  status : CaseStatus
  output : Option String := none
  metrics : Metrics := []
  errorCode : Option String := none
  errorMessage : Option String := none
  deriving DecidableEq

/-- The columns that the session has changed are written. -/
def CaseResultModel.flush (loaded assigned committed : CaseResultModel) : CaseResultModel :=
  { committed with
    status := Lib.flush loaded.status assigned.status committed.status
    output := Lib.flush loaded.output assigned.output committed.output
    metrics := Lib.flush loaded.metrics assigned.metrics committed.metrics
    errorCode := Lib.flush loaded.errorCode assigned.errorCode committed.errorCode
    errorMessage := Lib.flush loaded.errorMessage assigned.errorMessage committed.errorMessage }

/-- What the execution of a case, or the making of a client, raises. -/
inductive ExecutionError
  | application (errorCode message : String)
  | other

def errorFields : Option ExecutionError → Option String × Option String
  | none => (none, none)
  | some (.application errorCode message) => (some errorCode, some (sanitizeText 2000 message))
  | some .other => (some "EXECUTION_ERROR", some (sanitizeText 2000 "Provider execution failed"))

/-- What is recorded of a case. -/
structure Recorded where
  status : CaseStatus
  output : Option String := none
  metrics : Option Metrics := none
  error : Option ExecutionError := none

/-- Metrics that are missing or empty are those of a failure. -/
def Recorded.columnMetrics (recorded : Recorded) : Metrics :=
  match recorded.metrics with
  | some (metric :: metrics) => metric :: metrics
  | _ => [("success", 0), ("failure", 1)]

def Recorded.assign (recorded : Recorded) (row : CaseResultModel) : CaseResultModel :=
  { row with
    status := recorded.status
    output := recorded.output
    metrics := recorded.columnMetrics
    errorCode := (errorFields recorded.error).1
    errorMessage := (errorFields recorded.error).2 }

/-! ### What a run has to do -/

def Subject.sample (subject : Subject) : List Uuid := subject.cases.take subject.sampleSize

def variants (subject : Subject) : SubjectId → List String
  | .experiment _ => ["control", "candidate"]
  | .comparison _ => subject.providers

/-- The results that a run makes, in its order: those that are made with one client stand
together. -/
def batches (subject : Subject) : SubjectId → List (List ResultKey)
  | .experiment experimentId =>
    [subject.sample.flatMap fun caseId =>
      ["control", "candidate"].map fun variant => ⟨.experiment experimentId, caseId, variant⟩]
  | .comparison comparisonId =>
    subject.providers.map fun provider =>
      subject.sample.map fun caseId => ⟨.comparison comparisonId, caseId, provider⟩

/-- What is left after a result: the rest of its batch, with the error of the batch when its client
could not be made, and the later batches. -/
structure Work where
  unavailable : Option ExecutionError
  keys : List ResultKey
  batches : List (List ResultKey)

/-- Where a run stands. -/
inductive Stage
  | start
  | client (batch : List ResultKey) (batches : List (List ResultKey))
  | checkpoint (key : ResultKey) (work : Work)
  | isCompleted (key : ResultKey) (work : Work)
  | execute (key : ResultKey) (work : Work)
  | select (key : ResultKey) (recorded : Recorded) (work : Work)
  | record (key : ResultKey) (recorded : Recorded) (loaded : Option (Uuid × CaseResultModel))
      (work : Work)
  | complete

def Stage.clients : List (List ResultKey) → Stage
  | [] => .complete
  | batch :: batches => .client batch batches

/-- The next result of a batch. Without a client it is a failure, and nothing is looked at. -/
def Work.next (work : Work) : Stage :=
  match work.keys, work.unavailable with
  | [], _ => .clients work.batches
  | key :: keys, none => .checkpoint key { work with keys }
  | key :: keys, some error =>
    .select key { status := .failed, error := some error } { work with keys }

/-- A run that a worker has begun. -/
structure Run where
  subjectId : SubjectId
  stage : Stage := .start

structure Database where
  subjects : Table SubjectId Subject := ∅
  results : Table Uuid CaseResultModel := ∅
  nextResult : Uuid := 0
  runs : Table Uuid Run := ∅
  nextRun : Uuid := 0

/-- What a call answers. -/
inductive Answer
  | proceed
  | executed (output : String) (metrics : Metrics)
  | raised (error : ExecutionError)

def absent : SubjectId → String
  | .experiment _ => "Prompt experiment not found"
  | .comparison _ => "Provider comparison not found"

namespace Database

variable (db : Database)

/-- The row under the key of a case result. -/
def caseResult (key : ResultKey) : Option (Uuid × CaseResultModel) :=
  (db.results.entries.find? fun entry => entry.2.key = key).map fun entry => (entry.1, entry.2)

def isCompleted (key : ResultKey) : Bool :=
  match db.caseResult key with
  | some (_, row) => row.status = .completed
  | none => false

/-- The run is over: it has returned or raised, or its worker has died. -/
def stop (runId : Uuid) : Database := { db with runs := db.runs.erase runId }

def goOn (runId : Uuid) (run : Run) (stage : Stage) : Database :=
  { db with runs := db.runs.insert runId { run with stage } }

def setRow (subjectId : SubjectId) (subject : Subject) (row : PromptExperimentModel) : Database :=
  { db with subjects := db.subjects.insert subjectId { subject with row } }

/-- The transaction that starts a run. -/
def startRun (now : Timestamp) (runId : Uuid) (run : Run) : Database :=
  match db.subjects.lookup run.subjectId with
  | none => db.stop runId
  | some subject =>
    match PromptExperimentModel.start now (absent run.subjectId) (some subject.row) with
    | .ok (some row) =>
      if subject.sample = [] then db.stop runId
      else
        (db.setRow run.subjectId subject row).goOn runId run
          (.clients (batches subject run.subjectId))
    | _ => db.stop runId

/-- An experiment stops without its client; a comparison goes on without that of a provider. -/
def makeClient (runId : Uuid) (run : Run) (batch : List ResultKey)
    (rest : List (List ResultKey)) (answer : Answer) : Database :=
  match answer, run.subjectId with
  | .raised _, .experiment _ => db.stop runId
  | .raised error, .comparison _ => db.goOn runId run (Work.next ⟨some error, batch, rest⟩)
  | _, _ => db.goOn runId run (Work.next ⟨none, batch, rest⟩)

def execute (runId : Uuid) (run : Run) (key : ResultKey) (work : Work) (answer : Answer) :
    Database :=
  db.goOn runId run <|
    match answer with
    | .executed output metrics =>
      .select key { status := .completed, output := some output, metrics := some metrics } work
    | .raised error => .select key { status := .failed, error := some error } work
    | .proceed => .execute key work

/-- The write of a case result over the row that was selected; nothing when the unique constraint or
a missing row refuses it. -/
def recordCase (key : ResultKey) (recorded : Recorded) (loaded : Option (Uuid × CaseResultModel)) :
    Option Database :=
  match loaded with
  | none =>
    if (db.caseResult key).isSome then none
    else
      some { db with
        results := db.results.insert db.nextResult
          (recorded.assign { key, status := recorded.status })
        nextResult := db.nextResult + 1 }
  | some (resultId, row) =>
    match db.results.lookup resultId with
    | none => none
    | some committed =>
      some { db with
        results := db.results.insert resultId (row.flush (recorded.assign row) committed) }

/-- An experiment stops at its first failure, once that is recorded. -/
def afterRecord (run : Run) (recorded : Recorded) (work : Work) : Option Stage :=
  match recorded.status, run.subjectId with
  | .failed, .experiment _ => none
  | _, _ => some work.next

def record (runId : Uuid) (run : Run) (key : ResultKey) (recorded : Recorded)
    (loaded : Option (Uuid × CaseResultModel)) (work : Work) : Database :=
  match db.recordCase key recorded loaded with
  | none => db.stop runId
  | some db =>
    match afterRecord run recorded work with
    | none => db.stop runId
    | some stage => db.goOn runId run stage

/-- A comparison has something to recommend once a case of one of its providers is completed. -/
def recommends (subject : Subject) : SubjectId → Bool
  | .experiment _ => true
  | .comparison comparisonId =>
    db.results.entries.any fun entry =>
      entry.2.key.subjectId = .comparison comparisonId ∧ entry.2.key.variant ∈ subject.providers ∧
        entry.2.status = .completed

/-- The transaction that completes a run, which is over then. -/
def completeRun (now : Timestamp) (runId : Uuid) (run : Run) : Database :=
  match db.subjects.lookup run.subjectId with
  | none => db.stop runId
  | some subject =>
    match PromptExperimentModel.complete now (absent run.subjectId) (some subject.row) with
    | .ok (some row) =>
      if db.recommends subject run.subjectId then
        (db.setRow run.subjectId subject row).stop runId
      else db.stop runId
    | _ => db.stop runId

def advance (now : Timestamp) (runId : Uuid) (run : Run) (answer : Answer) : Database :=
  match run.stage with
  | .start => db.startRun now runId run
  | .client batch rest => db.makeClient runId run batch rest answer
  | .checkpoint key work =>
    match answer with
    | .raised _ => db.stop runId
    | _ => db.goOn runId run (.isCompleted key work)
  | .isCompleted key work =>
    db.goOn runId run (if db.isCompleted key then work.next else .execute key work)
  | .execute key work => db.execute runId run key work answer
  | .select key recorded work =>
    db.goOn runId run (.record key recorded (db.caseResult key) work)
  | .record key recorded loaded work => db.record runId run key recorded loaded work
  | .complete => db.completeRun now runId run

end Database

/-! ### Events -/

/-- What the requests and the reconciler of jobs do to the row of an experiment or a comparison. -/
inductive Change
  | run (jobId : JobId)
  | cancel
  | finish (cancelled : Bool) (errorCode errorMessage : String)
  | prepareRetry

def Change.assigned (now : Timestamp) (loaded : PromptExperimentModel) :
    Change → Option PromptExperimentModel
  | .run jobId => if loaded.status = .draft then some (loaded.run now jobId) else none
  | .cancel => loaded.cancel now
  | .finish cancelled errorCode errorMessage =>
    some (Resources.endExperiment now cancelled errorCode errorMessage loaded)
  | .prepareRetry => some (Resources.resetExperiment loaded)

inductive Event
  | create (subjectId : SubjectId) (subject : Subject)
  /-- The session of the change has loaded the row without a lock, so at any time before. -/
  | change (now : Timestamp) (subjectId : SubjectId) (loaded : PromptExperimentModel)
      (change : Change)
  /-- A worker hands a job to its handler. -/
  | handle (subjectId : SubjectId)
  | advance (now : Timestamp) (runId : Uuid) (answer : Answer)
  /-- The worker dies, or the database raises. -/
  | stop (runId : Uuid)

def step (db : Database) : Event → Database
  | .create subjectId subject =>
    match db.subjects.lookup subjectId with
    | some _ => db
    | none => { db with subjects := db.subjects.insert subjectId { subject with row := {} } }
  | .change now subjectId loaded change =>
    match db.subjects.lookup subjectId, change.assigned now loaded with
    | some subject, some assigned => db.setRow subjectId subject (loaded.flush assigned subject.row)
    | _, _ => db
  | .handle subjectId =>
    { db with runs := db.runs.insert db.nextRun { subjectId }, nextRun := db.nextRun + 1 }
  | .advance now runId answer =>
    match db.runs.lookup runId with
    | none => db
    | some run => db.advance now runId run answer
  | .stop runId => db.stop runId

def machine : Machine Database Event where
  init := {}
  step := step

end CyberLegends.Experiments
