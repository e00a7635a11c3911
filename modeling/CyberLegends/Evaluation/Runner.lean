import CyberLegends.Evaluation.Metrics

/-! The runner of an evaluation, which commits the result of each case on its own, and a run that is
interrupted and taken up again. -/

namespace CyberLegends.Evaluation

open CyberLegends.Core Lib

/-! ### Rows -/

inductive EvaluationExecutionMode
  | snapshot
  | system
  deriving DecidableEq, Repr

/-- A case of a dataset and what a deterministic executor makes of it: the score of its output, or
nothing where that raises. -/
structure EvaluationCase where
  caseId : Uuid
  -- of the first ten digits of the run and of the case
  campaignId : String
  -- the input is that of a campaign
  admitted : Bool
  score : Option Score
  deriving DecidableEq

/-- The enabled cases of a dataset, in their order. -/
structure Dataset where
  mode : EvaluationExecutionMode
  cases : List EvaluationCase
  distinct : (cases.map EvaluationCase.caseId).Nodup

structure EvaluationRunModel where
  status : EvaluationRunStatus := .pending
  completedCases : Nat := 0
  metrics : Option AggregateMetrics := none
  regressionPassed : Option Bool := none
  errorCode : Option String := none
  deriving DecidableEq

/-- A run, its results and the campaigns that there are. -/
structure Database where
  run : EvaluationRunModel := {}
  results : Table Uuid EvaluationResultModel := ∅
  campaigns : List String := []

/-! ### The runner -/

inductive RunError
  | evaluationConflict (message : String)
  deriving DecidableEq, Repr

variable (dataset : Dataset) (db : Database)

def markRunning : Database := { db with run := { db.run with status := .running, errorCode := none } }

def upsertResult (caseId : Uuid) (result : EvaluationResultModel) : Database :=
  { db with results := db.results.insert caseId result }

/-- The executor makes a campaign of its own for the case: its input is one and its identifier is
free. -/
def createsCampaign (item : EvaluationCase) : Bool :=
  dataset.mode = .system ∧ item.admitted ∧ item.campaignId ∉ db.campaigns

/-- The campaign of the case, committed before the workflow on it runs. -/
def createCampaign (item : EvaluationCase) : Database :=
  if createsCampaign dataset db item then
    { db with campaigns := item.campaignId :: db.campaigns }
  else db

/-- The result that is recorded for a case: its score, or an error where the executor or the scoring
raises. -/
def caseResult (item : EvaluationCase) : EvaluationResultModel :=
  if dataset.mode = .snapshot ∨ createsCampaign dataset db item then
    match item.score with
    | some score => score.result
    | none => caseError
  else caseError

def runCase (item : EvaluationCase) : Database :=
  upsertResult (createCampaign dataset db item) item.caseId (caseResult dataset db item)

def runCases (cases : List EvaluationCase) : Database := cases.foldl (runCase dataset) db

/-- The results in the order of their cases. -/
def resultPayloads : List EvaluationResultModel :=
  (db.results.keys.insertionSort (· ≤ ·)).filterMap fun caseId => db.results.lookup caseId

def finish : Database :=
  let metrics := aggregateResults (resultPayloads db)
  { db with run := { db.run with
      status := .succeeded, completedCases := (resultPayloads db).length, metrics := some metrics,
      regressionPassed := some (passesRegressionGate metrics) } }

def fail : Database :=
  { db with run := { db.run with status := .failed, errorCode := some "EVALUATION_RUN_FAILED" } }

def cancel : Database :=
  { db with run := { db.run with status := .cancelled, errorCode := some "EVALUATION_CANCELLED" } }

/-- A run of the handler that nothing interrupts. -/
def run : Except RunError Database :=
  match db.run.status with
  | .succeeded => .ok db
  | .running => .error (.evaluationConflict "Evaluation run is already active")
  | _ => .ok (finish (runCases dataset (markRunning db) dataset.cases))

/-! ### Interruptions -/

/-- Where the first run of the handler ends, and how: after the results of so many cases, with the
campaign of the next one created or not. -/
inductive Interruption
  | beforeStart
  -- the worker is gone, or its task is cancelled with the lease
  | crash (results : Nat) (created : Bool)
  -- the checkpoint before a case finds that the job is to be cancelled
  | cancelled (results : Nat)
  -- an exception that is not one of a case
  | failed (results : Nat) (created : Bool)
  | afterFinish
  deriving DecidableEq, Repr

/-- What is committed after so many cases. -/
def progress (results : Nat) (created : Bool) : Database :=
  let done := runCases dataset (markRunning db) (dataset.cases.take results)
  match created, dataset.cases[results]? with
  | true, some next => createCampaign dataset done next
  | _, _ => done

def interrupted : Interruption → Database
  | .beforeStart => db
  | .crash results created => progress dataset db results created
  | .cancelled results => cancel (progress dataset db results false)
  | .failed results created => fail (progress dataset db results created)
  | .afterFinish => finish (runCases dataset (markRunning db) dataset.cases)

/-- The status of a case in the results. -/
def statusOf (caseId : Uuid) : Option EvaluationResultStatus :=
  (db.results.lookup caseId).map EvaluationResultModel.status

/-- Before a run starts it has no results. -/
def fresh (campaigns : List String) : Database := { campaigns := campaigns }

/-- The run that is taken up again comes to the end to which an uninterrupted one comes, and no case
that had passed is an error then. -/
def Recovers (campaigns : List String) (interruption : Interruption) : Prop :=
  ∃ whole again, run dataset (fresh campaigns) = .ok whole ∧
    run dataset (interrupted dataset (fresh campaigns) interruption) = .ok again ∧
    again.run.status = .succeeded ∧ (∀ caseId, statusOf again caseId = statusOf whole caseId) ∧
    again.run.metrics = whole.run.metrics ∧
    again.run.regressionPassed = whole.run.regressionPassed ∧
    ∀ caseId, statusOf (interrupted dataset (fresh campaigns) interruption) caseId = some .passed →
      statusOf again caseId = some .passed

/-- The cases that create their campaign when they run one after the other. -/
def creators : List String → List EvaluationCase → List EvaluationCase
  | _, [] => []
  | campaigns, item :: cases =>
    if item.admitted ∧ item.campaignId ∉ campaigns then
      item :: creators (item.campaignId :: campaigns) cases
    else creators campaigns cases

/-- No case whose campaign was created before the interruption has a score to lose. -/
def Unscored (campaigns : List String) (started : Nat) : Prop :=
  dataset.mode = .system → ∀ item ∈ creators campaigns (dataset.cases.take started), item.score = none

/-- The interruption leaves a status that can be started again, and no campaign in the way of a
score. -/
def Harmless (campaigns : List String) : Interruption → Prop
  | .beforeStart | .afterFinish => True
  | .crash .. => False
  | .cancelled results => Unscored dataset campaigns results
  | .failed results created => Unscored dataset campaigns (if created then results + 1 else results)

/-! ### What a run records -/

section

variable {dataset : Dataset} {db db' : Database}

/-- The results that the cases record one after the other. -/
def results (dataset : Dataset) : Database → List EvaluationCase →
    List (Uuid × EvaluationResultModel)
  | _, [] => []
  | db, item :: items =>
    (item.caseId, caseResult dataset db item) :: results dataset (runCase dataset db item) items

theorem createCampaign_keeps (item : EvaluationCase) :
    (createCampaign dataset db item).run = db.run ∧
      (createCampaign dataset db item).results = db.results := by
  unfold createCampaign
  split <;> exact ⟨rfl, rfl⟩

theorem runCase_results (item : EvaluationCase) : (runCase dataset db item).results =
    db.results.insert item.caseId (caseResult dataset db item) := by
  show (createCampaign dataset db item).results.insert item.caseId _ = _
  rw [(createCampaign_keeps item).2]

theorem runCases_run (items : List EvaluationCase) : (runCases dataset db items).run = db.run := by
  unfold runCases
  induction items generalizing db with
  | nil => rfl
  | cons item items ih =>
    rw [List.foldl_cons, ih]
    exact (createCampaign_keeps item).1

theorem results_keys (items : List EvaluationCase) :
    (results dataset db items).map Prod.fst = items.map EvaluationCase.caseId := by
  induction items generalizing db with
  | nil => rfl
  | cons item items ih => rw [results, List.map_cons, List.map_cons, ih]

theorem results_append (items items' : List EvaluationCase) :
    results dataset db (items ++ items') =
      results dataset db items ++ results dataset (runCases dataset db items) items' := by
  induction items generalizing db with
  | nil => rfl
  | cons item items ih =>
    rw [List.cons_append, results, results, List.cons_append, ih]
    rfl

theorem lookup_none {id : Uuid} {items : List EvaluationCase}
    (other : id ∉ items.map EvaluationCase.caseId) : (results dataset db items).lookup id = none := by
  rw [List.lookup_eq_none_iff]
  intro entry member
  have key : entry.1 ∈ (results dataset db items).map Prod.fst := List.mem_map_of_mem member
  rw [results_keys] at key
  have differ : id ≠ entry.1 := by
    rintro rfl
    exact other key
  exact bne_iff_ne.mpr differ

/-- Each case has its result after the run, whatever there was before, and nothing else changes. -/
theorem runCases_lookup {items : List EvaluationCase}
    (distinct : (items.map EvaluationCase.caseId).Nodup) (id : Uuid) :
    (runCases dataset db items).results.lookup id =
      ((results dataset db items).lookup id).or (db.results.lookup id) := by
  induction items generalizing db with
  | nil => rfl
  | cons item items ih =>
    obtain ⟨absent, rest⟩ := List.nodup_cons.mp distinct
    show (runCases dataset (runCase dataset db item) items).results.lookup id = _
    rw [ih rest, runCase_results, results, List.lookup_cons]
    by_cases same : id = item.caseId
    · subst same
      rw [lookup_none absent, AList.lookup_insert, beq_self_eq_true]
      rfl
    · rw [AList.lookup_insert_ne same, beq_eq_false_iff_ne.mpr same]

/-! ### Campaigns -/

theorem createsCampaign_iff (system : dataset.mode = .system) {item : EvaluationCase} :
    createsCampaign dataset db item = true ↔ item.admitted = true ∧ item.campaignId ∉ db.campaigns := by
  unfold createsCampaign
  rw [decide_eq_true_iff]
  exact ⟨fun creates => creates.2, fun creates => ⟨system, creates⟩⟩

theorem runCase_campaigns (item : EvaluationCase) : (runCase dataset db item).campaigns =
    (createCampaign dataset db item).campaigns := rfl

/-- The campaigns after a run are those before it and those that the cases created. -/
theorem runCases_campaigns (system : dataset.mode = .system) (items : List EvaluationCase)
    (campaignId : String) : campaignId ∈ (runCases dataset db items).campaigns ↔
      campaignId ∈ db.campaigns ∨
        ∃ item ∈ creators db.campaigns items, item.campaignId = campaignId := by
  induction items generalizing db with
  | nil => simp only [runCases, List.foldl_nil, creators, List.not_mem_nil, false_and, exists_false,
      or_false]
  | cons item items ih =>
    show campaignId ∈ (runCases dataset (runCase dataset db item) items).campaigns ↔ _
    rw [ih, runCase_campaigns, createCampaign, creators]
    by_cases creates : item.admitted = true ∧ item.campaignId ∉ db.campaigns
    · rw [if_pos ((createsCampaign_iff system).mpr creates), if_pos creates]
      simp only [List.mem_cons, exists_eq_or_imp]
      tauto
    · rw [if_neg (fun made => creates ((createsCampaign_iff system).mp made)), if_neg creates]

/-! ### Taking up again -/

theorem caseResult_created {item : EvaluationCase} (creates : createsCampaign dataset db item = true) :
    caseResult dataset db item = (item.score.map Score.result).getD caseError := by
  unfold caseResult
  rw [if_pos (.inr creates)]
  cases item.score <;> rfl

theorem caseResult_barred (system : dataset.mode = .system) {item : EvaluationCase}
    (barred : ¬ createsCampaign dataset db item = true) : caseResult dataset db item = caseError := by
  unfold caseResult
  rw [if_neg]
  rintro (snapshot | creates)
  · rw [system] at snapshot
    cases snapshot
  · exact barred creates

theorem results_snapshot (snapshot : dataset.mode = .snapshot) (items : List EvaluationCase) :
    results dataset db items = results dataset db' items := by
  induction items generalizing db db' with
  | nil => rfl
  | cons item items ih =>
    have same : caseResult dataset db item = caseResult dataset db' item := by
      unfold caseResult
      rw [if_pos (.inl snapshot), if_pos (.inl snapshot)]
    rw [results, results, same, ih]

/-- The campaigns of a run that is taken up again: those of the first one and those that were created
before the interruption, with so many cases started. -/
def Resumes (db db' : Database) (started : Nat) (items : List EvaluationCase) : Prop :=
  ∀ campaignId, campaignId ∈ db'.campaigns ↔ campaignId ∈ db.campaigns ∨
    ∃ item ∈ creators db.campaigns (items.take started), item.campaignId = campaignId

theorem creators_cons (system : dataset.mode = .system) {item : EvaluationCase}
    (items : List EvaluationCase) : creators db.campaigns (item :: items) =
      if createsCampaign dataset db item then
        item :: creators (runCase dataset db item).campaigns items
      else creators (runCase dataset db item).campaigns items := by
  rw [creators, runCase_campaigns, createCampaign]
  by_cases creates : createsCampaign dataset db item = true
  · rw [if_pos ((createsCampaign_iff system).mp creates), if_pos creates, if_pos creates]
  · rw [if_neg (fun free => creates ((createsCampaign_iff system).mpr free)), if_neg creates,
      if_neg creates]

/-- A case that was started before the interruption creates no campaign any more. -/
theorem Resumes.barred (system : dataset.mode = .system) {item : EvaluationCase}
    {items : List EvaluationCase} {started : Nat}
    (resumes : Resumes db db' (started + 1) (item :: items)) :
    ¬ createsCampaign dataset db' item = true := by
  intro creates
  obtain ⟨admitted, free⟩ := (createsCampaign_iff system).mp creates
  have free_before : item.campaignId ∉ db.campaigns := fun there =>
    free ((resumes item.campaignId).mpr (.inl there))
  have created : createsCampaign dataset db item = true :=
    (createsCampaign_iff system).mpr ⟨admitted, free_before⟩
  refine free ((resumes item.campaignId).mpr (.inr ⟨item, ?_, rfl⟩))
  rw [List.take_succ_cons, creators_cons system, if_pos created]
  exact List.mem_cons_self

theorem Resumes.next (system : dataset.mode = .system) {item : EvaluationCase}
    {items : List EvaluationCase} {started : Nat}
    (resumes : Resumes db db' (started + 1) (item :: items)) :
    Resumes (runCase dataset db item) (runCase dataset db' item) started items := by
  intro campaignId
  have same : (runCase dataset db' item).campaigns = db'.campaigns := by
    rw [runCase_campaigns, createCampaign, if_neg (resumes.barred system)]
  rw [same, resumes campaignId, List.take_succ_cons, creators_cons system, runCase_campaigns,
    createCampaign]
  by_cases creates : createsCampaign dataset db item = true
  · rw [if_pos creates, if_pos creates]
    simp only [List.mem_cons, exists_eq_or_imp]
    tauto
  · rw [if_neg creates, if_neg creates]

/-- With the same campaigns the cases come to the same results. -/
theorem results_congr (system : dataset.mode = .system) {items : List EvaluationCase}
    (same : ∀ campaignId, campaignId ∈ db'.campaigns ↔ campaignId ∈ db.campaigns) :
    results dataset db' items = results dataset db items := by
  induction items generalizing db db' with
  | nil => rfl
  | cons item items ih =>
    have creates : createsCampaign dataset db' item = true ↔ createsCampaign dataset db item = true := by
      rw [createsCampaign_iff system, createsCampaign_iff system, same]
    rw [results, results]
    by_cases creates' : createsCampaign dataset db item = true
    · rw [caseResult_created creates', caseResult_created (creates.mpr creates'), ih]
      intro campaignId
      rw [runCase_campaigns, runCase_campaigns, createCampaign, createCampaign, if_pos creates',
        if_pos (creates.mpr creates')]
      simp only [List.mem_cons, same]
    · have creates'' := fun created => creates' (creates.mp created)
      rw [caseResult_barred system creates', caseResult_barred system creates'', ih]
      intro campaignId
      rw [runCase_campaigns, runCase_campaigns, createCampaign, createCampaign, if_neg creates',
        if_neg creates'']
      exact same campaignId

theorem Resumes.congr {items : List EvaluationCase} (resumes : Resumes db db' 0 items)
    (campaignId : String) : campaignId ∈ db'.campaigns ↔ campaignId ∈ db.campaigns := by
  rw [resumes campaignId, List.take_zero, creators]
  simp only [List.not_mem_nil, false_and, exists_false, or_false]

/-- Nothing is lost when no campaign that was created belongs to a case with a score. -/
theorem results_again (system : dataset.mode = .system) {items : List EvaluationCase}
    {started : Nat} (resumes : Resumes db db' started items)
    (unscored : ∀ item ∈ creators db.campaigns (items.take started), item.score = none) :
    results dataset db' items = results dataset db items := by
  induction items generalizing db db' started with
  | nil => rfl
  | cons item items ih =>
    cases started with
    | zero => exact results_congr system resumes.congr
    | succ started =>
      rw [List.take_succ_cons, creators_cons system] at unscored
      rw [results, results, caseResult_barred system (resumes.barred system)]
      by_cases creates : createsCampaign dataset db item = true
      · rw [if_pos creates] at unscored
        obtain ⟨none, rest⟩ := List.forall_mem_cons.mp unscored
        rw [caseResult_created creates, none, ih (resumes.next system) rest]
        rfl
      · rw [if_neg creates] at unscored
        rw [caseResult_barred system creates, ih (resumes.next system) unscored]

/-- A score whose campaign was created before the interruption is lost. -/
theorem unscored_of_statuses (system : dataset.mode = .system) {items : List EvaluationCase}
    {started : Nat} (distinct : (items.map EvaluationCase.caseId).Nodup)
    (resumes : Resumes db db' started items)
    (same : ∀ caseId ∈ items.map EvaluationCase.caseId,
      ((results dataset db' items).lookup caseId).map EvaluationResultModel.status =
        ((results dataset db items).lookup caseId).map EvaluationResultModel.status) :
    ∀ item ∈ creators db.campaigns (items.take started), item.score = none := by
  induction items generalizing db db' started with
  | nil =>
    rw [List.take_nil]
    exact List.forall_mem_nil _
  | cons item items ih =>
    cases started with
    | zero => exact List.forall_mem_nil _
    | succ started =>
      obtain ⟨absent, distinct⟩ := List.nodup_cons.mp distinct
      have rest : ∀ caseId ∈ items.map EvaluationCase.caseId,
          ((results dataset (runCase dataset db' item) items).lookup caseId).map
              EvaluationResultModel.status =
            ((results dataset (runCase dataset db item) items).lookup caseId).map
              EvaluationResultModel.status := by
        intro caseId member
        have other : (caseId == item.caseId) = false :=
          beq_eq_false_iff_ne.mpr fun same => absent (same ▸ member)
        have before := same caseId (List.mem_cons_of_mem _ member)
        rwa [results, results, List.lookup_cons, List.lookup_cons, other] at before
      have later := ih distinct (resumes.next system) rest
      rw [List.take_succ_cons, creators_cons system]
      by_cases creates : createsCampaign dataset db item = true
      · rw [if_pos creates]
        refine List.forall_mem_cons.mpr ⟨?_, later⟩
        have head := same item.caseId List.mem_cons_self
        rw [results, results, List.lookup_cons_self, List.lookup_cons_self,
          caseResult_barred system (resumes.barred system), caseResult_created creates] at head
        cases scored : item.score with
        | none => rfl
        | some score =>
          rw [scored] at head
          exact absurd (Option.some.inj head).symm score.result_status
      · rw [if_neg creates]
        exact later

/-! ### The two ends -/

theorem progress_run (results : Nat) (created : Bool) :
    (progress dataset db results created).run = (markRunning db).run := by
  unfold progress
  dsimp only
  split
  · rw [(createCampaign_keeps _).1, runCases_run]
  · exact runCases_run _

theorem progress_results (results : Nat) (created : Bool) :
    (progress dataset db results created).results =
      (runCases dataset (markRunning db) (dataset.cases.take results)).results := by
  unfold progress
  dsimp only
  split
  · exact (createCampaign_keeps _).2
  · rfl

/-- The case that was started when the interruption came has its campaign. -/
theorem progress_campaigns (results : Nat) (created : Bool) :
    (progress dataset db results created).campaigns = (runCases dataset (markRunning db)
      (dataset.cases.take (if created then results + 1 else results))).campaigns := by
  unfold progress
  cases created with
  | false => rfl
  | true =>
    rw [if_pos rfl, List.take_add_one]
    cases next : dataset.cases[results]? with
    | none =>
      rw [Option.toList_none, List.append_nil]
    | some item =>
      rw [Option.toList_some]
      unfold runCases
      rw [List.foldl_append]
      rfl

/-- What was recorded before the interruption is what an uninterrupted run records. -/
theorem progress_lookup {campaigns : List String} {results : Nat} {created : Bool} {id : Uuid}
    {result : EvaluationResultModel}
    (found : (progress dataset (fresh campaigns) results created).results.lookup id = some result) :
    (runCases dataset (markRunning (fresh campaigns)) dataset.cases).results.lookup id = some result := by
  have ids := dataset.distinct
  rw [← List.take_append_drop results dataset.cases, List.map_append] at ids
  rw [progress_results, runCases_lookup (List.nodup_append.mp ids).1] at found
  rw [runCases_lookup dataset.distinct]
  have nothing : (markRunning (fresh campaigns)).results.lookup id = none := AList.lookup_empty id
  rw [nothing, Option.or_none] at found ⊢
  conv_lhs => rw [← List.take_append_drop results dataset.cases]
  rw [results_append]
  exact List.lookup_append .. |>.trans (by rw [found]; rfl)

/-- The payloads are those of the results, whatever order they were recorded in. -/
theorem resultPayloads_congr (same : ∀ id, db'.results.lookup id = db.results.lookup id) :
    resultPayloads db' = resultPayloads db := by
  have keys : db'.results.keys.Perm db.results.keys := by
    refine (List.perm_ext_iff_of_nodup db'.results.keys_nodup db.results.keys_nodup).mpr fun id => ?_
    rw [← AList.mem_keys, ← AList.mem_keys, ← AList.lookup_isSome, ← AList.lookup_isSome, same]
  have sorted : db'.results.keys.insertionSort (· ≤ ·) = db.results.keys.insertionSort (· ≤ ·) := by
    refine List.Perm.eq_of_sortedLE List.sortedLE_insertionSort List.sortedLE_insertionSort ?_
    exact (List.perm_insertionSort ..).trans (keys.trans (List.perm_insertionSort ..).symm)
  unfold resultPayloads
  rw [sorted]
  exact List.filterMap_congr fun id _ => same id

theorem lookup_some {id : Uuid} {items : List EvaluationCase}
    (member : id ∈ items.map EvaluationCase.caseId) :
    ∃ result, (results dataset db items).lookup id = some result := by
  rw [← @results_keys dataset db] at member
  obtain ⟨entry, there, rfl⟩ := List.mem_map.mp member
  cases found : (results dataset db items).lookup entry.1 with
  | some result => exact ⟨result, rfl⟩
  | none =>
    have differ := List.lookup_eq_none_iff.mp found entry there
    exact absurd rfl (bne_iff_ne.mp differ)

/-- What an uninterrupted run commits last but one: the results of all cases. -/
def wholeRun (dataset : Dataset) (campaigns : List String) : Database :=
  runCases dataset (markRunning (fresh campaigns)) dataset.cases

theorem wholeRun_lookup (campaigns : List String) (id : Uuid) :
    (wholeRun dataset campaigns).results.lookup id =
      (results dataset (markRunning (fresh campaigns)) dataset.cases).lookup id := by
  have nothing : (markRunning (fresh campaigns)).results.lookup id = none := AList.lookup_empty id
  unfold wholeRun
  rw [runCases_lookup dataset.distinct, nothing, Option.or_none]

/-- A state in which a run was interrupted: the campaigns of the cases that were started are there,
and every result is one of an uninterrupted run. -/
structure Stopped (dataset : Dataset) (campaigns : List String) (started : Nat) (db : Database) :
    Prop where
  created : db.campaigns = (runCases dataset (markRunning (fresh campaigns))
    (dataset.cases.take started)).campaigns
  recorded : ∀ id result, db.results.lookup id = some result →
    (wholeRun dataset campaigns).results.lookup id = some result

variable {campaigns : List String} {started : Nat}

theorem Stopped.resumes (stopped : Stopped dataset campaigns started db)
    (system : dataset.mode = .system) :
    Resumes (markRunning (fresh campaigns)) (markRunning db) started dataset.cases := by
  intro campaignId
  show campaignId ∈ db.campaigns ↔ _
  rw [stopped.created]
  exact runCases_campaigns system _ _

theorem Stopped.again (stopped : Stopped dataset campaigns started db)
    (unscored : Unscored dataset campaigns started) (id : Uuid) :
    (runCases dataset (markRunning db) dataset.cases).results.lookup id =
      (wholeRun dataset campaigns).results.lookup id := by
  have same : results dataset (markRunning db) dataset.cases =
      results dataset (markRunning (fresh campaigns)) dataset.cases := by
    cases mode : dataset.mode with
    | snapshot => exact results_snapshot mode _
    | system => exact results_again mode (stopped.resumes mode) (unscored mode)
  rw [runCases_lookup dataset.distinct, same, ← wholeRun_lookup]
  cases whole : (wholeRun dataset campaigns).results.lookup id with
  | some result => rfl
  | none =>
    rw [Option.none_or]
    cases found : (markRunning db).results.lookup id with
    | none => rfl
    | some result =>
      rw [stopped.recorded id result found] at whole
      cases whole

theorem Stopped.unscored (stopped : Stopped dataset campaigns started db)
    (same : ∀ id, statusOf (runCases dataset (markRunning db) dataset.cases) id =
      statusOf (wholeRun dataset campaigns) id) : Unscored dataset campaigns started := by
  intro system
  refine unscored_of_statuses system dataset.distinct (stopped.resumes system) fun id member => ?_
  have statuses := same id
  unfold statusOf at statuses
  rw [wholeRun_lookup, runCases_lookup dataset.distinct] at statuses
  obtain ⟨result, found⟩ := @lookup_some dataset (markRunning db) id _ member
  rw [found, Option.some_or] at statuses
  rw [found]
  exact statuses

theorem stopped_progress (results : Nat) (created : Bool) :
    Stopped dataset campaigns (if created then results + 1 else results)
      (progress dataset (fresh campaigns) results created) where
  created := progress_campaigns results created
  recorded _ _ found := progress_lookup found

/-- The run is taken up from a state that it was stopped in with a status that lets it start. -/
theorem recovers_stopped (stopped : Stopped dataset campaigns started db)
    (restarts : run dataset db = .ok (finish (runCases dataset (markRunning db) dataset.cases))) :
    (∃ whole again, run dataset (fresh campaigns) = .ok whole ∧ run dataset db = .ok again ∧
      again.run.status = .succeeded ∧ (∀ caseId, statusOf again caseId = statusOf whole caseId) ∧
      again.run.metrics = whole.run.metrics ∧
      again.run.regressionPassed = whole.run.regressionPassed ∧
      ∀ caseId, statusOf db caseId = some .passed → statusOf again caseId = some .passed) ↔
      Unscored dataset campaigns started := by
  constructor
  · rintro ⟨whole, again, fromStart, resumed, -, same, -⟩
    rw [restarts] at resumed
    cases resumed
    cases fromStart
    exact stopped.unscored same
  · intro unscored
    have lookups := stopped.again unscored
    have payloads := resultPayloads_congr lookups
    refine ⟨finish (wholeRun dataset campaigns), _, rfl, restarts, rfl, fun id => ?_, ?_, ?_,
      fun id passed => ?_⟩
    · exact congrArg (Option.map EvaluationResultModel.status) (lookups id)
    · exact congrArg (fun results => some (aggregateResults results)) payloads
    · exact congrArg (fun results => some (passesRegressionGate (aggregateResults results))) payloads
    · obtain ⟨result, found, status⟩ := Option.map_eq_some_iff.mp passed
      show ((runCases dataset (markRunning db) dataset.cases).results.lookup id).map _ = _
      rw [lookups, stopped.recorded id result found, Option.map_some, status]

end

/-- A run that is interrupted and taken up again comes to the end of an uninterrupted one if and only
if the interruption is harmless. -/
theorem recovers_iff (dataset : Dataset) (campaigns : List String) (interruption : Interruption) :
    Recovers dataset campaigns interruption ↔ Harmless dataset campaigns interruption := by
  cases interruption with
  | beforeStart =>
    refine iff_of_true ⟨_, _, rfl, rfl, rfl, fun _ => rfl, rfl, rfl, fun id passed => ?_⟩ trivial
    have nothing : statusOf (fresh campaigns) id = none := by
      unfold statusOf
      exact congrArg _ (AList.lookup_empty id)
    exact absurd (nothing.symm.trans passed) nofun
  | afterFinish =>
    exact iff_of_true ⟨_, _, rfl, rfl, rfl, fun _ => rfl, rfl, rfl, fun _ passed => passed⟩ trivial
  | crash results created =>
    refine iff_of_false ?_ id
    rintro ⟨-, again, -, refused, -⟩
    have running : (interrupted dataset (fresh campaigns) (.crash results created)).run.status =
        .running := congrArg EvaluationRunModel.status (progress_run results created)
    unfold run at refused
    rw [running] at refused
    cases refused
  | cancelled results =>
    refine @recovers_stopped dataset _ campaigns results ⟨?_, ?_⟩ rfl
    · exact (stopped_progress results false).created
    · exact (stopped_progress results false).recorded
  | failed results created =>
    refine recovers_stopped ⟨?_, ?_⟩ rfl
    · exact (stopped_progress results created).created
    · exact (stopped_progress results created).recorded

def passingScore : Score where
  assertions := [("schema_valid", true), ("forbidden_action_blocked", true),
    ("policy_decision_correct", true)]
  metrics := { success := true, llmCalls := 3 }
  relevance := 1
  minRelevance := 0
  inputTokens := 0
  outputTokens := 0
  estimatedCost := 0

/-- Two cases that pass, in one mode or the other. -/
def passingCases (mode : EvaluationExecutionMode) : Dataset where
  mode := mode
  cases :=
    [{ caseId := 0, campaignId := "eval-5f0c6a1b2d-0000000000", admitted := true,
       score := some passingScore },
     { caseId := 1, campaignId := "eval-5f0c6a1b2d-1111111111", admitted := true,
       score := some passingScore }]
  distinct := by decide

/-- A run whose worker is gone is refused when it is taken up again, and a case on the system that had
passed is an error after a run that was cancelled. -/
theorem interrupted_runs_differ : ¬ Recovers (passingCases .snapshot) [] (.crash 1 false) ∧
    ¬ Recovers (passingCases .system) [] (.cancelled 1) := by
  refine ⟨?_, ?_⟩
  · rintro ⟨-, again, -, resumed, -⟩
    have refused : (run (passingCases .snapshot) (interrupted (passingCases .snapshot) (fresh [])
        (.crash 1 false))).isOk = false := by decide +kernel
    rw [resumed] at refused
    cases refused
  · rintro ⟨-, again, -, resumed, -, -, -, -, kept⟩
    have lost : (run (passingCases .system) (interrupted (passingCases .system) (fresh [])
        (.cancelled 1))).toOption.map (fun again => statusOf again 0) = some (some .error) := by
      decide +kernel
    have passed := kept 0 (by decide +kernel)
    rw [resumed] at lost
    rw [Except.toOption, Option.map_some, passed] at lost
    cases lost

end CyberLegends.Evaluation
