import CyberLegends.BusinessImpact.Calculator
import CyberLegends.DataAnalysis.Numbers
import CyberLegends.Lib.Machine
import CyberLegends.Security.ResourceAccess

/-! The service that records the impact of applied tasks and the feedback on them, the review of a media
asset, which writes the same rows, and the figures that are made of the rows. -/

namespace CyberLegends.BusinessImpact

open CyberLegends.Core Lib Context Actions Security DataAnalysis

/-! ### Columns -/

/-- A number with so many digits, so many of them behind the point. -/
structure Numeric (precision scale : ℕ) where
  units : ℤ
  fits : units.natAbs < 10 ^ precision
  deriving DecidableEq

section
variable {precision scale : ℕ}

def Numeric.toDecimal (number : Numeric precision scale) : Decimal :=
  .finite (decide (number.units < 0)) number.units.natAbs (-scale)

/-- What a column keeps of a finite number: ties go away from zero, and a number with too many digits
is refused. -/
def Numeric.ofDecimal (value : Decimal) : Option (Numeric precision scale) :=
  let units : ℤ := halfUp (|value.toRat| * 10 ^ scale)
  let units := if value.toRat < 0 then -units else units
  if fits : units.natAbs < 10 ^ precision then some ⟨units, fits⟩ else none

end

/-- What an integer column keeps. -/
def integer (n : ℤ) : Option ℤ := if -2 ^ 31 ≤ n ∧ n < 2 ^ 31 then some n else none

/-! ### Rows -/

structure TaskBaselineModel where
  taskType : String
  department : String
  manualDurationMinutes : Numeric 12 2
  version : ℕ
  createdAt : Timestamp
  deriving DecidableEq

structure AppliedWorkflowTaskModel where
  workflowType : AppliedWorkflowType
  status : AppliedTaskStatus
  createdBy : String
  promptVersionId : Option Uuid
  provider : Option String
  model : Option String
  estimatedCost : Numeric 14 6
  durationMs : Option ℤ
  deriving DecidableEq

structure MediaAssetModel where
  taskRunId : Option Uuid
  status : MediaAssetStatus
  deriving DecidableEq

structure AITaskImpactModel where
  taskType : String
  department : Option String
  promptVersionId : Option Uuid
  provider : String
  model : String
  manualDurationBaseline : Numeric 12 2
  aiDurationMinutes : Numeric 12 2
  stepsBefore : ℤ
  stepsAfter : ℤ
  automatedSteps : ℤ
  taskCompletedSuccessfully : Bool
  outputAccepted : Option Bool
  acceptedWithoutEditing : Bool
  editingMinutes : Numeric 12 2
  reworkCount : ℤ
  errorCount : ℤ
  estimatedCost : Numeric 14 6
  minutesSaved : Numeric 12 2
  automationRate : Numeric 8 6
  createdAt : Timestamp
  deriving DecidableEq

structure UserFeedbackModel where
  taskType : String
  promptVersionId : Option Uuid
  provider : String
  model : String
  rating : ℤ
  helpfulness : ℤ
  accuracy : ℤ
  easeOfUse : ℤ
  outputAccepted : Option Bool
  acceptedWithoutEditing : Bool
  editingMinutes : Numeric 12 2
  reworkCount : ℤ
  wouldUseAgain : Bool
  version : ℤ
  createdAt : Timestamp
  deriving DecidableEq

/-- The tables that the operations read and write. -/
structure Store where
  tasks : Table Uuid AppliedWorkflowTaskModel := ∅
  baselines : List TaskBaselineModel := []
  assets : Table Uuid MediaAssetModel := ∅
  impacts : Table Uuid AITaskImpactModel := ∅
  feedback : Table (Uuid × String) UserFeedbackModel := ∅
  /-- The assets that an actor has reviewed. -/
  reviews : List (Uuid × String) := []

inductive ImpactError
  /-- The fields of a request that are not accepted. -/
  | fields (locs : List String)
  | value (message : String)
  | m7ResourceNotFound (message : String)
  | m7Conflict (message : String)
  | m7Validation (message : String)
  | authorization (message : String)
  | decimal (signal : Signal)
  /-- A column does not hold a value. -/
  | data
  | integrity
  deriving DecidableEq

def kept {α : Type} : Option α → Except ImpactError α
  | some value => .ok value
  | none => .error .data

def computed {α : Type} : Except Signal α → Except ImpactError α
  | .ok value => .ok value
  | .error signal => .error (.decimal signal)

/-! ### Requests -/

structure AcceptanceFields where
  outputAccepted : Option Bool := none
  acceptedWithoutEditing : Bool := false
  editingMinutes : Decimal
  reworkCount : ℤ
  deriving DecidableEq

structure TaskImpactCreate extends AcceptanceFields where
  department : Option String := none
  manualDurationBaselineOverride : Option Decimal := none
  stepsBefore : ℤ
  automatedSteps : ℤ
  errorCount : ℤ
  deriving DecidableEq

structure UserFeedbackCreate extends AcceptanceFields where
  rating : ℤ
  helpfulness : ℤ
  accuracy : ℤ
  easeOfUse : ℤ
  wouldUseAgain : Bool
  comment : Option String := none
  expectedVersion : Option ℤ := none
  deriving DecidableEq

inductive ReviewDecision
  | approve
  | reject
  deriving DecidableEq

structure MediaReviewRequest where
  decision : ReviewDecision
  rating : Option ℤ := none
  comment : Option String := none
  deriving DecidableEq

/-- The fields that do not pass their check. -/
def failedFields (checks : List (String × Bool)) : List String :=
  (checks.filter fun check => !check.2).map Prod.fst

/-- A number that is finite and not negative. -/
def amount (value : Decimal) : Bool := value.isFinite ∧ 0 ≤ value.toRat

def AcceptanceFields.checks (fields : AcceptanceFields) : List (String × Bool) :=
  [("editing_minutes", amount fields.editingMinutes), ("rework_count", 0 ≤ fields.reworkCount)]

def AcceptanceFields.validateAcceptance (fields : AcceptanceFields) : Except ImpactError Unit :=
  if fields.acceptedWithoutEditing then
    if fields.outputAccepted ≠ some true then
      .error (.value "accepted_without_editing requires explicit output acceptance")
    else if fields.editingMinutes.toRat ≠ 0 ∨ fields.reworkCount ≠ 0 then
      .error (.value "accepted_without_editing requires zero editing and rework")
    else .ok ()
  else .ok ()

/-- The validator runs once each field has passed. -/
def AcceptanceFields.validate (fields : AcceptanceFields) (checks : List (String × Bool)) :
    Except ImpactError Unit :=
  match failedFields (fields.checks ++ checks) with
  | [] => fields.validateAcceptance
  | locs => .error (.fields locs)

def TaskImpactCreate.validate (data : TaskImpactCreate) : Except ImpactError Unit :=
  data.toAcceptanceFields.validate [
    ("department", data.department.all (·.length ≤ 100)),
    ("manual_duration_baseline_override", data.manualDurationBaselineOverride.all amount),
    ("steps_before", 0 ≤ data.stepsBefore),
    ("automated_steps", 0 ≤ data.automatedSteps),
    ("error_count", 0 ≤ data.errorCount)]

def score (value : ℤ) : Bool := 1 ≤ value ∧ value ≤ 5

def UserFeedbackCreate.validate (data : UserFeedbackCreate) : Except ImpactError Unit :=
  data.toAcceptanceFields.validate [
    ("rating", score data.rating),
    ("helpfulness", score data.helpfulness),
    ("accuracy", score data.accuracy),
    ("ease_of_use", score data.easeOfUse),
    ("comment", data.comment.all (·.length ≤ 2000)),
    ("expected_version", data.expectedVersion.all (1 ≤ ·))]

def MediaReviewRequest.validate (data : MediaReviewRequest) : Except ImpactError Unit :=
  match failedFields [("rating", data.rating.all score),
    ("comment", data.comment.all (·.length ≤ 2000))] with
  | [] => .ok ()
  | locs => .error (.fields locs)

/-! ### Operations -/

/-- The workflow type in lower case. -/
def taskType : AppliedWorkflowType → String
  | .campaignContent => "campaign_content"
  | .dataAnalysis => "data_analysis"
  | .documentProcessing => "document_processing"
  | .imageGeneration => "image_generation"
  | .videoStoryboard => "video_storyboard"

/-- A text that is there and not empty, or `unknown`. -/
def orUnknown (text : Option String) : String :=
  if text.getD "" = "" then "unknown" else text.getD ""

def isOperator (actor : AuthenticatedActor) : Bool := actor.role ∈ [UserRole.manager, .admin]

def requireOperator (actor : AuthenticatedActor) : Except ImpactError Unit :=
  if isOperator actor then .ok ()
  else .error (.authorization "Operator role is required to record impact")

def requireReviewer (actor : AuthenticatedActor) : Except ImpactError Unit :=
  if actor.role ∈ [UserRole.reviewer, .manager, .admin] then .ok ()
  else .error (.m7Conflict "Reviewer role is required")

def provenance (task : AppliedWorkflowTaskModel) : Except ImpactError (String × String) :=
  match task.provider, task.model with
  | some provider, some model => .ok (provider, model)
  | _, _ => .error (.m7Conflict "Task execution provenance is incomplete")

namespace Store
variable (store : Store)

def eligibleTask (taskRunId : Uuid) (actor : AuthenticatedActor) (reviewable : Bool) :
    Except ImpactError AppliedWorkflowTaskModel :=
  match store.tasks.lookup taskRunId with
  | none => .error (.m7ResourceNotFound "Applied workflow task not found")
  | some task =>
    if actor.actorId ≠ task.createdBy ∧ ¬ isOperator actor then
      .error (.authorization "Actor cannot access this applied workflow task")
    else if task.status = .completed ∨ (reviewable ∧ task.status = .readyForReview) then .ok task
    else .error (.m7Conflict "Applied workflow task is not eligible")

/-- The baseline of the greatest version, the latest first among those. -/
def latestBaseline (taskType : String) (department : Option String) : Option TaskBaselineModel :=
  ((store.baselines.filter fun baseline =>
    baseline.taskType = taskType ∧ department.all (baseline.department = ·)).insertionSort
      fun a b => b.version < a.version ∨ (a.version = b.version ∧ b.createdAt ≤ a.createdAt)).head?

def getAssetByTask (taskRunId : Uuid) : Option MediaAssetModel :=
  (store.assets.entries.find? fun entry => entry.2.taskRunId = some taskRunId).map (·.2)

/-- What is known of the acceptance of the output of a task: what the request says, or else what the
review of its asset has said. -/
def knownAcceptance (taskRunId : Uuid) (outputAccepted : Option Bool) : Option Bool :=
  match outputAccepted, store.getAssetByTask taskRunId with
  | some accepted, _ => some accepted
  | none, some asset =>
    match asset.status with
    | .approved => some true
    | .rejected => some false
    | _ => none
  | none, none => none

def manualDuration (task : AppliedWorkflowTaskModel) (data : TaskImpactCreate) :
    Except ImpactError Decimal :=
  match data.manualDurationBaselineOverride,
    store.latestBaseline (taskType task.workflowType) data.department with
  | some duration, _ => .ok duration
  | none, some baseline => .ok baseline.manualDurationMinutes.toDecimal
  | none, none => .error (.m7Conflict "No task baseline is available")

/-- The row of an impact, as its columns keep it. -/
def impactModel (now : Timestamp) (task : AppliedWorkflowTaskModel) (data : TaskImpactCreate)
    (manualDuration aiDuration : Decimal) (provenance : String × String)
    (outputAccepted : Option Bool) : Except ImpactError AITaskImpactModel := do
  let saved ← computed (minutesSaved manualDuration aiDuration)
  let rate ← computed (automationRate data.automatedSteps data.stepsBefore)
  return {
    taskType := taskType task.workflowType
    department := data.department
    promptVersionId := task.promptVersionId
    provider := provenance.1
    model := provenance.2
    manualDurationBaseline := ← kept (Numeric.ofDecimal manualDuration)
    aiDurationMinutes := ← kept (Numeric.ofDecimal aiDuration)
    stepsBefore := ← kept (integer data.stepsBefore)
    stepsAfter := ← kept (integer (max (data.stepsBefore - data.automatedSteps) 0))
    automatedSteps := ← kept (integer data.automatedSteps)
    taskCompletedSuccessfully := true
    outputAccepted := outputAccepted
    acceptedWithoutEditing := data.acceptedWithoutEditing
    editingMinutes := ← kept (Numeric.ofDecimal data.editingMinutes)
    reworkCount := ← kept (integer data.reworkCount)
    errorCount := ← kept (integer data.errorCount)
    estimatedCost := task.estimatedCost
    minutesSaved := ← kept (Numeric.ofDecimal saved)
    automationRate := ← kept (Numeric.ofDecimal rate)
    createdAt := now }

def createImpact (taskRunId : Uuid) (impact : AITaskImpactModel) : Except ImpactError Store :=
  match store.impacts.lookup taskRunId with
  | some _ => .error (.m7Conflict "Impact already exists for this task run")
  | none => .ok { store with impacts := store.impacts.insert taskRunId impact }

def recordImpact (now : Timestamp) (taskRunId : Uuid) (data : TaskImpactCreate)
    (actor : AuthenticatedActor) : Except ImpactError Store := do
  data.validate
  let task ← store.eligibleTask taskRunId actor false
  requireOperator actor
  let manualDuration ← store.manualDuration task data
  let aiDuration ← computed <| defaultContext.div (ofInt (task.durationMs.getD 0)) (ofInt 60000)
  let provenance ← provenance task
  let outputAccepted := store.knownAcceptance taskRunId data.outputAccepted
  let impact ← impactModel now task data manualDuration aiDuration provenance outputAccepted
  store.createImpact taskRunId impact

/-- The impact after feedback that says whether the output was accepted. -/
def accept (data : UserFeedbackCreate) (impact : AITaskImpactModel) :
    Except ImpactError AITaskImpactModel := do
  return { impact with
    outputAccepted := data.outputAccepted
    acceptedWithoutEditing := data.acceptedWithoutEditing
    editingMinutes := ← kept (Numeric.ofDecimal data.editingMinutes)
    reworkCount := ← kept (integer data.reworkCount) }

def acceptImpact (taskRunId : Uuid) (data : UserFeedbackCreate) :
    Except ImpactError (Table Uuid AITaskImpactModel) :=
  match store.impacts.lookup taskRunId, data.outputAccepted with
  | some impact, some _ => (accept data impact).map (store.impacts.insert taskRunId)
  | _, _ => .ok store.impacts

/-- The version that feedback gets, and when it was first given. -/
def nextVersion (now : Timestamp) (expectedVersion : Option ℤ) :
    Option UserFeedbackModel → Except ImpactError (ℤ × Timestamp)
  | none =>
    if expectedVersion.isSome then
      .error (.m7Conflict "Feedback does not exist at the expected version")
    else .ok (1, now)
  | some existing =>
    if expectedVersion ≠ some existing.version then
      .error (.m7Conflict "Feedback changed; refresh and retry")
    else .ok (existing.version + 1, existing.createdAt)

def feedbackModel (task : AppliedWorkflowTaskModel) (data : UserFeedbackCreate)
    (version : ℤ × Timestamp) : Except ImpactError UserFeedbackModel := do
  return {
    taskType := taskType task.workflowType
    promptVersionId := task.promptVersionId
    provider := orUnknown task.provider
    model := orUnknown task.model
    rating := data.rating
    helpfulness := data.helpfulness
    accuracy := data.accuracy
    easeOfUse := data.easeOfUse
    outputAccepted := data.outputAccepted
    acceptedWithoutEditing := data.acceptedWithoutEditing
    editingMinutes := ← kept (Numeric.ofDecimal data.editingMinutes)
    reworkCount := ← kept (integer data.reworkCount)
    wouldUseAgain := data.wouldUseAgain
    version := ← kept (integer version.1)
    createdAt := version.2 }

/-- The impact is changed before the version of the feedback is looked at; a conflict undoes it. -/
def recordFeedback (now : Timestamp) (taskRunId : Uuid) (data : UserFeedbackCreate)
    (actor : AuthenticatedActor) : Except ImpactError Store := do
  data.validate
  let task ← store.eligibleTask taskRunId actor true
  let existing := store.feedback.lookup (taskRunId, actor.actorId)
  let impacts ← store.acceptImpact taskRunId data
  let version ← nextVersion now data.expectedVersion existing
  let model ← feedbackModel task data version
  return { store with
    impacts, feedback := store.feedback.insert (taskRunId, actor.actorId) model }

/-- A rejection takes back that nothing had to be edited. -/
def reviewed (decision : ReviewDecision) (impact : AITaskImpactModel) : AITaskImpactModel :=
  { impact with
    outputAccepted := some (decision = .approve)
    acceptedWithoutEditing := decision = .approve && impact.acceptedWithoutEditing }

def reviewImpact (asset : MediaAssetModel) (decision : ReviewDecision) :
    Table Uuid AITaskImpactModel :=
  match asset.taskRunId with
  | none => store.impacts
  | some taskRunId =>
    match store.impacts.lookup taskRunId with
    | none => store.impacts
    | some impact => store.impacts.insert taskRunId (reviewed decision impact)

def reviewableAsset (assetId : Uuid) : Except ImpactError MediaAssetModel :=
  match store.assets.lookup assetId with
  | none => .error (.m7ResourceNotFound "Media asset not found")
  | some asset =>
    if asset.status = .readyForReview then .ok asset
    else .error (.m7Conflict "Media asset is not ready for review")

/-- The status that a decision leads to. -/
def reviewStatus (data : MediaReviewRequest) : Except ImpactError MediaAssetStatus :=
  if data.decision = .approve then .ok .approved
  else if data.comment.getD "" = "" then .error (.m7Validation "A rejection reason is required")
  else .ok .rejected

def createReview (assetId : Uuid) (actorId : String) : Except ImpactError (List (Uuid × String)) :=
  if (assetId, actorId) ∈ store.reviews then .error .integrity
  else .ok ((assetId, actorId) :: store.reviews)

def review (assetId : Uuid) (data : MediaReviewRequest) (actor : AuthenticatedActor) :
    Except ImpactError Store := do
  data.validate
  requireReviewer actor
  let asset ← store.reviewableAsset assetId
  let status ← reviewStatus data
  let reviews ← store.createReview assetId actor.actorId
  return { store with
    assets := store.assets.insert assetId { asset with status }
    impacts := store.reviewImpact asset data.decision
    reviews }

end Store

/-! ### Figures -/

structure AnalyticsFilter where
  taskType : Option String := none
  department : Option String := none
  provider : Option String := none
  model : Option String := none
  promptVersionId : Option Uuid := none
  createdFrom : Option Timestamp := none
  createdTo : Option Timestamp := none

def AnalyticsFilter.impact (filter : AnalyticsFilter) (row : AITaskImpactModel) : Bool :=
  filter.taskType.all (row.taskType = ·) ∧ filter.department.all (row.department = some ·) ∧
    filter.provider.all (row.provider = ·) ∧ filter.model.all (row.model = ·) ∧
    filter.promptVersionId.all (row.promptVersionId = some ·) ∧
    filter.createdFrom.all (· ≤ row.createdAt) ∧ filter.createdTo.all (row.createdAt ≤ ·)

def AnalyticsFilter.feedback (filter : AnalyticsFilter) (row : UserFeedbackModel) : Bool :=
  filter.taskType.all (row.taskType = ·) ∧ filter.provider.all (row.provider = ·) ∧
    filter.model.all (row.model = ·) ∧
    filter.promptVersionId.all (row.promptVersionId = some ·) ∧
    filter.createdFrom.all (· ≤ row.createdAt) ∧ filter.createdTo.all (row.createdAt ≤ ·)

structure SeriesItem where
  taskRunId : Uuid
  taskType : String
  provider : String
  model : String
  minutesSaved : Text
  automationRate : Text
  createdAt : Timestamp

structure BusinessImpactAnalytics where
  completedTasks : ℕ
  totalMinutesSaved : Decimal
  averageAutomationRate : Decimal
  technicalSuccessRate : Decimal
  humanAcceptanceRate : Decimal
  firstPassAcceptanceRate : Decimal
  revisionRate : Decimal
  errorRate : Decimal
  userSatisfaction : Decimal
  wouldUseAgainRate : Decimal
  totalEstimatedCost : Decimal
  series : List SeriesItem

section
variable (impacts : List (Uuid × AITaskImpactModel)) (feedback : List UserFeedbackModel)

def averageAutomation : Except Signal Decimal := do
  if impacts = [] then return Decimal.zero
  let total ← defaultContext.sum (impacts.map (·.2.automationRate.toDecimal))
  defaultContext.div total (ofInt impacts.length)

def withKnownAcceptance : List (Uuid × AITaskImpactModel) :=
  impacts.filter (·.2.outputAccepted.isSome)

def humanAcceptance : Except Signal Decimal :=
  let known := withKnownAcceptance impacts
  ratio (known.countP (·.2.outputAccepted = some true)) known.length

def firstPassAcceptance : Except Signal Decimal :=
  let known := withKnownAcceptance impacts
  firstPassAcceptanceRate (known.countP (·.2.acceptedWithoutEditing)) known.length

/-- The figures of the rows that were listed. -/
def figures : Except Signal BusinessImpactAnalytics := do
  let completed := impacts.length
  return {
    completedTasks := completed
    totalMinutesSaved := ← defaultContext.sum (impacts.map (·.2.minutesSaved.toDecimal))
    totalEstimatedCost := ← defaultContext.sum (impacts.map (·.2.estimatedCost.toDecimal))
    averageAutomationRate := ← averageAutomation impacts
    technicalSuccessRate := ← ratio (impacts.countP (·.2.taskCompletedSuccessfully)) completed
    humanAcceptanceRate := ← humanAcceptance impacts
    firstPassAcceptanceRate := ← firstPassAcceptance impacts
    revisionRate := ← revisionRate (impacts.countP (0 < ·.2.reworkCount)) completed
    errorRate := ← errorRate (impacts.countP (0 < ·.2.errorCount)) completed
    userSatisfaction := ← userSatisfaction (feedback.map (·.rating))
    wouldUseAgainRate := ←
      wouldUseAgainRate (feedback.countP (·.wouldUseAgain)) feedback.length
    series := impacts.map fun entry => {
      taskRunId := entry.1
      taskType := entry.2.taskType
      provider := entry.2.provider
      model := entry.2.model
      minutesSaved := str entry.2.minutesSaved.toDecimal
      automationRate := str entry.2.automationRate.toDecimal
      createdAt := entry.2.createdAt } }

end

namespace Store
variable (store : Store)

/-- The rows that the filter admits, in the order in which they were made. -/
def listImpacts (filter : AnalyticsFilter) : List (Uuid × AITaskImpactModel) :=
  ((store.impacts.entries.map fun entry => (entry.1, entry.2)).filter
    fun entry => filter.impact entry.2).insertionSort fun a b => a.2.createdAt ≤ b.2.createdAt

def listFeedback (filter : AnalyticsFilter) : List UserFeedbackModel :=
  (store.feedback.entries.map (·.2)).filter filter.feedback

def analytics (filter : AnalyticsFilter) : Except Signal BusinessImpactAnalytics :=
  figures (store.listImpacts filter) (store.listFeedback filter)

end Store

/-! ### Runs -/

inductive ImpactEvent
  | recordImpact (now : Timestamp) (taskRunId : Uuid) (data : TaskImpactCreate)
    (actor : AuthenticatedActor)
  | recordFeedback (now : Timestamp) (taskRunId : Uuid) (data : UserFeedbackCreate)
    (actor : AuthenticatedActor)
  | review (assetId : Uuid) (data : MediaReviewRequest) (actor : AuthenticatedActor)
  /-- The other services write their tables. -/
  | others (tasks : Table Uuid AppliedWorkflowTaskModel) (baselines : List TaskBaselineModel)
    (assets : Table Uuid MediaAssetModel)

def Store.answer (store : Store) : ImpactEvent → Except ImpactError Store
  | .recordImpact now taskRunId data actor => store.recordImpact now taskRunId data actor
  | .recordFeedback now taskRunId data actor => store.recordFeedback now taskRunId data actor
  | .review assetId data actor => store.review assetId data actor
  | .others tasks baselines assets => .ok { store with tasks, baselines, assets }

/-- An operation that fails leaves the tables as they are. -/
def businessImpact : Machine Store ImpactEvent where
  init := {}
  step store event := (store.answer event).toOption.getD store

end CyberLegends.BusinessImpact
