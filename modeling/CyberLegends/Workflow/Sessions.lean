import CyberLegends.Lib.Machine
import CyberLegends.Workflow.Model

/-! Sessions that work on workflows at the same time. An operation first gets the workflow without a
lock to learn its campaign, and then locks the campaign and the workflow, validates and commits. Both
locks are held until the commit, so the second part is one step. -/

namespace CyberLegends.Workflow

open CyberLegends.Core Lib

structure Database where
  campaigns : Table CampaignId CampaignModel := ∅
  workflows : Table WorkflowId WorkflowRunModel := ∅
  /-- The decision on each workflow; the table admits one for each. -/
  approvals : Table WorkflowId ApprovalRecordModel := ∅

/-- The operations that read a hint of the workflow before they lock it. -/
inductive PairOperation
  | transitionCheckpoint (expectedStatus nextStatus : CampaignStatus) (nextStep : WorkflowStep)
  | saveAnalysisCheckpoint (analysis : String)
  | saveContentCheckpoint (content : String)
  | saveReviewDecisionCheckpoint (review : QualityReview)
  | persistFailure (errorCode errorMessage : String)
  | transition (nextStatus : CampaignStatus) (step : Option WorkflowStep)
  | recordLlmCall
  deriving DecidableEq, Repr

/-- The pair that the operation commits; nothing when it is rolled back. -/
def PairOperation.perform (settings : Settings) (now : Timestamp) (pair : LockedPair) :
    PairOperation → Option LockedPair
  | transitionCheckpoint expectedStatus nextStatus nextStep =>
    (pair.transitionCheckpoint expectedStatus nextStatus nextStep).toOption
  | saveAnalysisCheckpoint analysis => (pair.saveAnalysisCheckpoint analysis).toOption
  | saveContentCheckpoint content => (pair.saveContentCheckpoint content).toOption
  | saveReviewDecisionCheckpoint review =>
    (pair.saveReviewDecisionCheckpoint settings review).toOption
  | persistFailure errorCode errorMessage => pair.persistFailure errorCode errorMessage now
  | transition nextStatus step => (pair.transition nextStatus step).toOption
  | recordLlmCall => (pair.recordLlmCall settings).toOption

/-- An operation between its hint and its locks. -/
structure PendingOperation where
  workflowId : WorkflowId
  campaignId : CampaignId
  operation : PairOperation
  deriving DecidableEq, Repr

/-- A session: the rows that it has loaded and the operation that it is in the middle of. -/
structure WorkflowSession where
  campaigns : Table CampaignId CampaignModel := ∅
  workflows : Table WorkflowId WorkflowRunModel := ∅
  pending : Option PendingOperation := none

abbrev SessionId := Nat

structure WorkflowWorld where
  db : Database
  sessions : Table SessionId WorkflowSession := ∅

/-! ### Locks and commits -/

/-- The pair as a session sees it once it holds both rows. -/
def WorkflowSession.lockedPair (session : WorkflowSession) (db : Database)
    (workflowId : WorkflowId) (campaignId : CampaignId) : Option LockedPair := do
  let campaign ← Table.getForUpdate session.campaigns db.campaigns campaignId
  let workflow ← Table.getForUpdate session.workflows db.workflows workflowId
  if workflow.campaignId = campaignId then return { workflow, campaign } else none

/-- The database once a session that saw `seen` commits `assigned`. -/
def Database.flushPair (db : Database) (workflowId : WorkflowId) (campaignId : CampaignId)
    (seen assigned : LockedPair) : Database :=
  match db.workflows.lookup workflowId, db.campaigns.lookup campaignId with
  | some workflow, some campaign =>
    { db with
      workflows := db.workflows.insert workflowId
        (seen.workflow.flush assigned.workflow workflow)
      campaigns := db.campaigns.insert campaignId
        (seen.campaign.flush assigned.campaign campaign) }
  | _, _ => db

/-- What a session has loaded once it has committed a pair: a commit expires nothing. -/
def WorkflowSession.committed (session : WorkflowSession) (workflowId : WorkflowId)
    (campaignId : CampaignId) (pair : LockedPair) : WorkflowSession where
  campaigns := session.campaigns.insert campaignId pair.campaign
  workflows := session.workflows.insert workflowId pair.workflow

/-! ### Events -/

namespace WorkflowWorld

variable (settings : Settings) (w : WorkflowWorld)

def session (id : SessionId) : WorkflowSession := (w.sessions.lookup id).getD {}

def setSession (id : SessionId) (session : WorkflowSession) : WorkflowWorld :=
  { w with sessions := w.sessions.insert id session }

/-- A rollback expires everything that the session has loaded. -/
def rollback (id : SessionId) : WorkflowWorld := w.setSession id {}

def loadWorkflow (id : SessionId) (workflowId : WorkflowId) : WorkflowWorld :=
  let session := w.session id
  w.setSession id
    { session with workflows := Table.load session.workflows w.db.workflows workflowId }

def loadCampaign (id : SessionId) (campaignId : CampaignId) : WorkflowWorld :=
  let session := w.session id
  w.setSession id
    { session with campaigns := Table.load session.campaigns w.db.campaigns campaignId }

/-- A row that nothing refers to any more leaves the session. -/
def forgetWorkflow (id : SessionId) (workflowId : WorkflowId) : WorkflowWorld :=
  let session := w.session id
  if session.pending.any fun pending => pending.workflowId = workflowId then w
  else w.setSession id { session with workflows := session.workflows.erase workflowId }

def forgetCampaign (id : SessionId) (campaignId : CampaignId) : WorkflowWorld :=
  let session := w.session id
  w.setSession id { session with campaigns := session.campaigns.erase campaignId }

/-- The session in which an operation reads its hint: the record of a failure rolls back first. -/
def hintSession (id : SessionId) : PairOperation → WorkflowSession
  | .persistFailure .. => {}
  | _ => w.session id

/-- The hint of an operation, in a session that is in the middle of no other. -/
def start (id : SessionId) (workflowId : WorkflowId) (operation : PairOperation) : WorkflowWorld :=
  if (w.session id).pending.isSome then w
  else
    let session := w.hintSession id operation
    match Table.get session.workflows w.db.workflows workflowId with
    | none => w.rollback id
    | some hint =>
      w.setSession id
        { session with
          workflows := session.workflows.insert workflowId hint
          pending := some { workflowId, campaignId := hint.campaignId, operation } }

/-- The commit of a pair, or the rollback when there is nothing to commit. -/
def finish (id : SessionId) (session : WorkflowSession) (workflowId : WorkflowId)
    (campaignId : CampaignId) (seen : LockedPair) : Option LockedPair → WorkflowWorld
  | none => w.rollback id
  | some pair =>
    { w with db := w.db.flushPair workflowId campaignId seen pair }.setSession id
      (session.committed workflowId campaignId pair)

/-- The locks of the pending operation, its validation and its commit. -/
def run (id : SessionId) (now : Timestamp) : WorkflowWorld :=
  let session := w.session id
  match session.pending with
  | none => w
  | some pending =>
    match session.lockedPair w.db pending.workflowId pending.campaignId with
    | none => w.rollback id
    | some pair =>
      w.finish id session pending.workflowId pending.campaignId pair
        (pending.operation.perform settings now pair)

/-- An approval decision, which locks the pair at once. -/
def decide (id : SessionId) (request : ApprovalRequest) (actorId : String) (actorRole : UserRole)
    (now : Timestamp) : WorkflowWorld :=
  if isApprover actorRole then
    let session := w.session id
    match session.lockedPair w.db request.workflowId request.campaignId with
    | none => w.rollback id
    | some pair =>
      match pair.decide request (request.workflowId ∈ w.db.approvals) actorId actorRole now with
      | .error _ => w.rollback id
      | .ok (decided, record) =>
        let w := w.finish id session request.workflowId request.campaignId pair (some decided)
        { w with
          db := { w.db with approvals := w.db.approvals.insert request.workflowId record } }
  else w

/-- The handler of a controlled action, which rolls back before it locks the pair. -/
def act (id : SessionId) (guard : ActionExecutionGuard) (effect : ActionEffect) : WorkflowWorld :=
  match ({} : WorkflowSession).lockedPair w.db guard.workflowId guard.campaignId with
  | none => w.rollback id
  | some pair =>
    w.finish id {} guard.workflowId guard.campaignId pair (pair.act guard effect).toOption

end WorkflowWorld

inductive WorkflowEvent
  | loadWorkflow (id : SessionId) (workflowId : WorkflowId)
  | loadCampaign (id : SessionId) (campaignId : CampaignId)
  | forgetWorkflow (id : SessionId) (workflowId : WorkflowId)
  | forgetCampaign (id : SessionId) (campaignId : CampaignId)
  | rollback (id : SessionId)
  | start (id : SessionId) (workflowId : WorkflowId) (operation : PairOperation)
  | run (id : SessionId) (now : Timestamp)
  | decide (id : SessionId) (request : ApprovalRequest) (actorId : String) (actorRole : UserRole)
      (now : Timestamp)
  | act (id : SessionId) (guard : ActionExecutionGuard) (effect : ActionEffect)
  deriving DecidableEq, Repr

def WorkflowWorld.step (settings : Settings) (w : WorkflowWorld) : WorkflowEvent → WorkflowWorld
  | .loadWorkflow id workflowId => w.loadWorkflow id workflowId
  | .loadCampaign id campaignId => w.loadCampaign id campaignId
  | .forgetWorkflow id workflowId => w.forgetWorkflow id workflowId
  | .forgetCampaign id campaignId => w.forgetCampaign id campaignId
  | .rollback id => w.rollback id
  | .start id workflowId operation => w.start id workflowId operation
  | .run id now => w.run settings id now
  | .decide id request actorId actorRole now => w.decide id request actorId actorRole now
  | .act id guard effect => w.act id guard effect

/-- Any sessions on a database, none of which has loaded anything at first. -/
def workflowMachine (settings : Settings) (db : Database) : Machine WorkflowWorld WorkflowEvent where
  init := { db }
  step := WorkflowWorld.step settings

end CyberLegends.Workflow
