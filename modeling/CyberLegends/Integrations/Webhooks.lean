import CyberLegends.Integrations.Signatures
import CyberLegends.Jobs.Queue

/-! The deliveries of webhooks, any number of them at a time. One step of a delivery is one of its
statements on the database; a statement that raises has had no effect. -/

namespace CyberLegends.Integrations

open CyberLegends.Core Lib Jobs

/-! ### Requests and responses -/

structure N8NCampaignRequest where
  campaignId : String
  runAsync : Bool := true
  deriving DecidableEq

/-- A file task with its content decoded. -/
structure N8NFileTaskRequest where
  filename : String
  content : Bytes
  contentType : String := "application/octet-stream"
  deriving DecidableEq

structure N8NWebhookResponse where
  accepted : Bool
  duplicate : Bool := false
  resourceType : String
  resourceId : String
  jobId : Option String := none
  deriving DecidableEq

inductive N8NError
  | validation (message : String)
  | conflict (message : String)
  | verify (error : VerifyError)
  | job (error : JobError)
  /-- A constraint of the database refuses a row. -/
  | integrity
  /-- A statement fails, or the delivery is cancelled. -/
  | fault (message : String)
  deriving DecidableEq

/-- What a delivery asks for. -/
inductive Route
  | acceptCampaign
  | acceptFileTask (endpoint : String)
  deriving DecidableEq

def Route.endpoint : Route → String
  | acceptCampaign => "campaigns"
  | acceptFileTask endpoint => endpoint

structure Delivery where
  route : Route
  rawBody : Bytes
  timestamp : String
  signature : String
  idempotencyKey : String
  deriving DecidableEq

/-- The services that file tasks are for. -/
inductive FileService
  | dataAnalysis
  | documentProcessing
  deriving DecidableEq

def FileService.payload : FileService → Uuid → JobPayload
  | dataAnalysis => .dataAnalysis
  | documentProcessing => .documentProcessing

def FileService.idempotencyKey (taskRunId : Uuid) : FileService → String
  | dataAnalysis => "data-analysis:" ++ toString taskRunId
  | documentProcessing => "document-processing:" ++ toString taskRunId

structure N8NConfig where
  hashes : Hashes
  n8nWebhookSecret : String
  n8nTimestampToleranceSeconds : Int
  n8nMaxBodyBytes : Nat
  settings : Settings
  /-- The request that a body holds, none for a body that its model refuses. -/
  campaignRequest : Bytes → Option N8NCampaignRequest
  fileTaskRequest : Bytes → Option N8NFileTaskRequest

/-! ### Rows -/

structure CampaignModel where
  createdBy : String
  deriving DecidableEq

structure WorkflowRunModel where
  campaignId : String
  revisionNumber : Nat := 0
  deriving DecidableEq

structure AppliedWorkflowTaskModel where
  service : FileService
  filename : String
  inputContent : Bytes
  createdBy : String
  jobId : Option JobId := none
  deriving DecidableEq

structure N8NWebhookReceiptModel where
  signatureHash : String
  endpoint : String
  responseStatus : Nat
  responseBody : N8NWebhookResponse
  deriving DecidableEq

/-- The tables that deliveries read and write. Receipts are kept under their idempotency keys. -/
structure Database where
  receipts : Table String N8NWebhookReceiptModel := ∅
  campaigns : Table String CampaignModel := ∅
  workflows : Table Uuid WorkflowRunModel := ∅
  tasks : Table Uuid AppliedWorkflowTaskModel := ∅
  jobs : JobStore := ∅

/-- A row that a delivery adds. -/
inductive Row
  | campaign (campaignId : String) (row : CampaignModel)
  | workflow (workflowId : Uuid) (row : WorkflowRunModel)
  | task (taskRunId : Uuid) (row : AppliedWorkflowTaskModel)
  | job (jobId : JobId) (row : BackgroundJobModel)
  | receipt (idempotencyKey : String) (row : N8NWebhookReceiptModel)
  deriving DecidableEq

def Row.setJobId (jobId : JobId) : Row → Row
  | task taskRunId row => task taskRunId { row with jobId := some jobId }
  | row => row

namespace Database

variable (db : Database)

def getBySignature (signatureHash : String) : Option N8NWebhookReceiptModel :=
  (db.receipts.entries.find? fun entry => entry.2.signatureHash = signatureHash).map Sigma.snd

/-- The tables with one more row, unless a unique column of it is taken. -/
def insert : Row → Option Database
  | .campaign campaignId row =>
    if campaignId ∈ db.campaigns then none
    else some { db with campaigns := db.campaigns.insert campaignId row }
  | .workflow workflowId row =>
    if workflowId ∈ db.workflows then none
    else some { db with workflows := db.workflows.insert workflowId row }
  | .task taskRunId row =>
    if taskRunId ∈ db.tasks then none
    else some { db with tasks := db.tasks.insert taskRunId row }
  | .job jobId row =>
    if jobId ∈ db.jobs ∨ (db.jobs.findByIdempotencyKey row.idempotencyKey).isSome then none
    else some { db with jobs := db.jobs.insert jobId row }
  | .receipt idempotencyKey row =>
    if idempotencyKey ∈ db.receipts ∨ (db.getBySignature row.signatureHash).isSome then none
    else some { db with receipts := db.receipts.insert idempotencyKey row }

/-- The commit of a transaction: all its rows, or none of them. -/
def commit (rows : List Row) : Option Database := rows.foldlM insert db

end Database

/-! ### Deliveries -/

/-- The statement of a delivery that comes next, with what the ones before it have found. -/
inductive Stage
  | getByIdempotency
  | getBySignature
  | campaignExists (request : N8NCampaignRequest)
  | createCampaign (request : N8NCampaignRequest)
  | createWorkflow (request : N8NCampaignRequest)
  | resolvePrompt (service : FileService) (request : N8NFileTaskRequest)
  | createTask (service : FileService) (request : N8NFileTaskRequest)
  | enqueue (payload : JobPayload) (idempotencyKey : String) (response : N8NWebhookResponse)
  | createReceipt (response : N8NWebhookResponse)
  | commit (response : N8NWebhookResponse)
  deriving DecidableEq

/-- A delivery that has passed verification, with the rows that its transaction has added. -/
structure Work where
  delivery : Delivery
  signatureHash : String
  stage : Stage := .getByIdempotency
  rows : List Row := []
  deriving DecidableEq

/-- How a statement leaves a delivery. -/
inductive Progress
  | goOn (work : Work)
  | answer (response : N8NWebhookResponse)
  | commit (rows : List Row) (response : N8NWebhookResponse)

/-- The checks of a delivery before its first statement. `now` is the current time in whole
seconds. -/
def Delivery.begin (config : N8NConfig) (delivery : Delivery) (now : Int) :
    Except N8NError Work :=
  if delivery.rawBody.length > config.n8nMaxBodyBytes then
    .error (.validation "Webhook body exceeds the size limit")
  else if delivery.idempotencyKey = "" ∨ delivery.idempotencyKey.length > 200 then
    .error (.validation "Webhook idempotency key is invalid")
  else
    match verifyWebhook config.hashes config.n8nWebhookSecret delivery.timestamp delivery.rawBody
        delivery.signature config.n8nTimestampToleranceSeconds now with
    | .error error => .error (.verify error)
    | .ok signatureHash => .ok { delivery, signatureHash }

namespace Work

variable (config : N8NConfig) (db : Database) (uuid : Uuid) (now : Timestamp) (work : Work)

/-- A campaign delivery takes whatever receipt there is under its key; a file delivery takes those of
its endpoint. -/
def findReceipt : Except N8NError Progress :=
  match db.receipts.lookup work.delivery.idempotencyKey with
  | none => .ok (.goOn { work with stage := .getBySignature })
  | some existing =>
    match work.delivery.route with
    | .acceptCampaign => .ok (.answer { existing.responseBody with duplicate := true })
    | .acceptFileTask endpoint =>
      if existing.endpoint ≠ endpoint then
        .error (.conflict "Webhook idempotency key belongs to another endpoint")
      else .ok (.answer { existing.responseBody with duplicate := true })

/-- What a new delivery does with its body. -/
def parse : Except N8NError Stage :=
  match work.delivery.route with
  | .acceptCampaign =>
    match config.campaignRequest work.delivery.rawBody with
    | none => .error (.validation "Webhook payload is invalid")
    | some request => .ok (.campaignExists request)
  | .acceptFileTask endpoint =>
    match config.fileTaskRequest work.delivery.rawBody with
    | none => .error (.validation "Webhook file payload is invalid")
    | some request =>
      if endpoint = "data-analysis" then .ok (.resolvePrompt .dataAnalysis request)
      else if endpoint = "document-processing" then .ok (.resolvePrompt .documentProcessing request)
      else .error (.validation "Webhook endpoint is unsupported")

/-- The insert of a row, refused at once when a committed row is in its way. -/
def flush (row : Row) (stage : Stage) : Except N8NError Progress :=
  if (db.insert row).isNone then .error .integrity
  else .ok (.goOn { work with stage, rows := work.rows ++ [row] })

def workflowResponse (request : N8NCampaignRequest) : N8NWebhookResponse where
  accepted := true
  resourceType := "campaign"
  resourceId := request.campaignId

def taskResponse (taskRunId : Uuid) : N8NWebhookResponse where
  accepted := true
  resourceType := "applied_task"
  resourceId := toString taskRunId

def afterWorkflow (request : N8NCampaignRequest) : Stage :=
  if request.runAsync then
    .enqueue (.workflowRun uuid) ("n8n:" ++ work.delivery.idempotencyKey ++ ":workflow")
      (workflowResponse request)
  else .createReceipt (workflowResponse request)

/-- The key of a job is at most 64 characters long. A job that has the key already is the job of the
delivery. -/
def enqueue (payload : JobPayload) (idempotencyKey : String) (response : N8NWebhookResponse) :
    Except N8NError Progress :=
  if idempotencyKey.length > 64 then .error (.fault "value too long for type character varying(64)")
  else
    match db.jobs.enqueue config.settings uuid payload 50 none none idempotencyKey now with
    | .error error => .error (.job error)
    | .ok (jobId, jobs) =>
      .ok <| .goOn { work with
        stage := .createReceipt { response with jobId := some (toString jobId) }
        rows := work.rows.map (Row.setJobId jobId) ++
          if jobId ∈ db.jobs then [] else ((jobs.lookup jobId).map (Row.job jobId)).toList }

def receipt (response : N8NWebhookResponse) : N8NWebhookReceiptModel where
  signatureHash := work.signatureHash
  endpoint := work.delivery.route.endpoint
  responseStatus := 202
  responseBody := response

/-- The next statement of the delivery. `uuid` is the identifier of a row that it adds. -/
def next : Except N8NError Progress :=
  match work.stage with
  | .getByIdempotency => work.findReceipt db
  | .getBySignature =>
    if (db.getBySignature work.signatureHash).isSome then
      .error (.conflict "Webhook replay was rejected")
    else
      match work.parse config with
      | .error error => .error error
      | .ok stage => .ok (.goOn { work with stage })
  | .campaignExists request =>
    if request.campaignId ∈ db.campaigns then .error (.conflict "Campaign already exists")
    else .ok (.goOn { work with stage := .createCampaign request })
  | .createCampaign request =>
    work.flush db (.campaign request.campaignId ⟨"n8n-webhook"⟩) (.createWorkflow request)
  | .createWorkflow request =>
    work.flush db (.workflow uuid { campaignId := request.campaignId })
      (work.afterWorkflow uuid request)
  | .resolvePrompt service request =>
    .ok (.goOn { work with stage := .createTask service request })
  | .createTask service request =>
    work.flush db
      (.task uuid
        { service, filename := request.filename, inputContent := request.content,
          createdBy := "n8n-webhook" })
      (.enqueue (service.payload uuid) (service.idempotencyKey uuid) (taskResponse uuid))
  | .enqueue payload idempotencyKey response =>
    work.enqueue config db uuid now payload idempotencyKey response
  | .createReceipt response =>
    work.flush db (.receipt work.delivery.idempotencyKey (work.receipt response)) (.commit response)
  | .commit response => .ok (.commit work.rows response)

/-- The next statement of the delivery, which may raise. -/
def statement : Option N8NError → Except N8NError Progress
  | some error => .error error
  | none => work.next config db uuid now

end Work

/-! ### The service -/

inductive Session
  | working (work : Work)
  | answered (delivery : Delivery) (outcome : Except N8NError N8NWebhookResponse)
  deriving DecidableEq

structure World where
  db : Database := {}
  sessions : Table Uuid Session := ∅

inductive Event
  /-- A delivery arrives. -/
  | receive (sessionId : Uuid) (delivery : Delivery) (now : Int)
  /-- A session makes its next statement, which may raise. -/
  | advance (sessionId uuid : Uuid) (now : Timestamp) (fault : Option N8NError)
  /-- Other parts of the application write their tables. -/
  | others (campaigns : Table String CampaignModel) (workflows : Table Uuid WorkflowRunModel)
      (tasks : Table Uuid AppliedWorkflowTaskModel) (jobs : JobStore)

namespace World

variable (config : N8NConfig) (w : World)

def setSession (sessionId : Uuid) (session : Session) : World :=
  { w with sessions := w.sessions.insert sessionId session }

def close (sessionId : Uuid) (work : Work) (outcome : Except N8NError N8NWebhookResponse) : World :=
  w.setSession sessionId (.answered work.delivery outcome)

def receive (sessionId : Uuid) (delivery : Delivery) (now : Int) : World :=
  if sessionId ∈ w.sessions then w
  else
    w.setSession sessionId <|
      match delivery.begin config now with
      | .error error => .answered delivery (.error error)
      | .ok work => .working work

/-- The rows of a session that is answered without a commit are rolled back. -/
def proceed (sessionId : Uuid) (work : Work) : Except N8NError Progress → World
  | .error error => w.close sessionId work (.error error)
  | .ok (.goOn work) => w.setSession sessionId (.working work)
  | .ok (.answer response) => w.close sessionId work (.ok response)
  | .ok (.commit rows response) =>
    match w.db.commit rows with
    | none => w.close sessionId work (.error .integrity)
    | some db => { w with db }.close sessionId work (.ok response)

def advance (sessionId uuid : Uuid) (now : Timestamp) (fault : Option N8NError) : World :=
  match w.sessions.lookup sessionId with
  | some (.working work) =>
    w.proceed sessionId work (work.statement config w.db uuid now fault)
  | _ => w

def step : Event → World
  | .receive sessionId delivery now => w.receive config sessionId delivery now
  | .advance sessionId uuid now fault => w.advance config sessionId uuid now fault
  | .others campaigns workflows tasks jobs =>
    { w with db := { w.db with campaigns, workflows, tasks, jobs } }

end World

def n8nMachine (config : N8NConfig) : Machine World Event := ⟨{}, World.step config⟩

end CyberLegends.Integrations
