import CyberLegends.Actions.Repository
import CyberLegends.Lib.Machine
import CyberLegends.Lib.Session

/-! Prompt versions and the sessions that take them from draft to active. A call gets the version
before it locks the template, and then validates the version as it was and commits; the lock is held
until the commit, so the second part is one step. -/

namespace CyberLegends.Prompts

open CyberLegends.Core Lib Actions

/-- Where a version of a prompt stands. -/
inductive PromptVersionStatus
  | draft
  | testing
  | approved
  | active
  | retired
  deriving DecidableEq, Repr

def PromptVersionStatus.value : PromptVersionStatus → String
  | draft => "DRAFT"
  | testing => "TESTING"
  | approved => "APPROVED"
  | active => "ACTIVE"
  | retired => "RETIRED"

abbrev PromptTemplateId := Nat

abbrev PromptVersionId := Nat

/-- The version of a template counts its activations. -/
structure PromptTemplateModel where
  version : Nat := 1
  deriving DecidableEq, Repr

structure PromptVersionModel where
  promptTemplateId : PromptTemplateId
  version : Nat
  status : PromptVersionStatus := .draft
  approvedBy : Option String := none
  approvedAt : Option Timestamp := none
  activatedAt : Option Timestamp := none
  retiredAt : Option Timestamp := none
  deriving DecidableEq, Repr

/-- The flush of a version, column by column. -/
def PromptVersionModel.flush (loaded assigned committed : PromptVersionModel) :
    PromptVersionModel where
  promptTemplateId :=
    Lib.flush loaded.promptTemplateId assigned.promptTemplateId committed.promptTemplateId
  version := Lib.flush loaded.version assigned.version committed.version
  status := Lib.flush loaded.status assigned.status committed.status
  approvedBy := Lib.flush loaded.approvedBy assigned.approvedBy committed.approvedBy
  approvedAt := Lib.flush loaded.approvedAt assigned.approvedAt committed.approvedAt
  activatedAt := Lib.flush loaded.activatedAt assigned.activatedAt committed.activatedAt
  retiredAt := Lib.flush loaded.retiredAt assigned.retiredAt committed.retiredAt

inductive PromptError
  | conflict (message : String)
  | resourceNotFound (message : String)
  | validation (message : String)
  | integrity (constraint : String)
  deriving DecidableEq, Repr

def requireManager (actor : AuthenticatedActor) : Except PromptError Unit :=
  if actor.role = .manager ∨ actor.role = .admin then .ok ()
  else .error (.conflict "Manager or admin role is required")

/-! ### What a call makes of the version -/

/-- The statuses from which `transition` reaches a target. -/
def allowed : PromptVersionStatus → List PromptVersionStatus
  | .testing => [.draft]
  | .approved => [.testing]
  | .retired => [.active]
  | .draft | .active => []

namespace PromptVersionModel

variable (model : PromptVersionModel) (now : Timestamp)

def transition (target expectedStatus : PromptVersionStatus) (actor : AuthenticatedActor) :
    Except PromptError PromptVersionModel :=
  if model.status ≠ expectedStatus then
    .error (.conflict "Prompt version changed; refresh and retry")
  else if model.status ∉ allowed target then
    .error (.conflict
      ("Cannot transition prompt from " ++ model.status.value ++ " to " ++ target.value))
  else
    match target with
    | .approved =>
      if actor.role = .system then .error (.conflict "SYSTEM cannot approve prompt versions")
      else .ok { model with
        status := .approved, approvedBy := some actor.actorId, approvedAt := some now }
    | .retired => .ok { model with status := .retired, retiredAt := some now }
    | status => .ok { model with status }

/-- The check of `activate`. -/
def activatable (expectedStatus : PromptVersionStatus) : Bool :=
  model.status = expectedStatus ∧ (model.status = .approved ∨ model.status = .retired)

def activated : PromptVersionModel :=
  { model with status := .active, activatedAt := some now, retiredAt := none }

/-- The version that was active before. -/
def superseded : PromptVersionModel := { model with status := .retired, retiredAt := some now }

end PromptVersionModel

/-! ### Sessions -/

/-- The event that tells of an activation. -/
structure PromptActivated where
  promptTemplateId : PromptTemplateId
  promptVersionId : PromptVersionId
  version : Nat
  deriving DecidableEq, Repr

/-- The default key of an event is a digest of its content, and an event whose key is there is not
added. -/
def addEvent (outbox : List PromptActivated) (event : PromptActivated) : List PromptActivated :=
  if event ∈ outbox then outbox else outbox ++ [event]

abbrev Templates := Table PromptTemplateId PromptTemplateModel

abbrev Versions := Table PromptVersionId PromptVersionModel

structure Database where
  templates : Templates := ∅
  versions : Versions := ∅
  outbox : List PromptActivated := []

/-- The calls of the service, with the version and what the caller expects of it. -/
inductive PromptCall
  | transition (target expectedStatus : PromptVersionStatus)
  | activate (expectedStatus : PromptVersionStatus) (expectedTemplateVersion : Nat)
  | rollback (templateId : PromptTemplateId) (expectedTemplateVersion : Nat)
  deriving DecidableEq, Repr

/-- What a call does once it holds the lock. -/
inductive PromptOperation
  | transition (target expectedStatus : PromptVersionStatus)
  | activate (expectedStatus : PromptVersionStatus) (expectedTemplateVersion : Nat)
  deriving DecidableEq, Repr

/-- A call between its read of the version and the lock; it refers to the version that it has read. -/
structure PendingCall where
  versionId : PromptVersionId
  model : PromptVersionModel
  operation : PromptOperation
  actor : AuthenticatedActor
  deriving DecidableEq, Repr

/-- A session: the rows that it has loaded and the call that it is in the middle of. -/
structure PromptSession where
  templates : Templates := ∅
  versions : Versions := ∅
  pending : Option PendingCall := none

def versionFound : Option PromptVersionModel → Except PromptError PromptVersionModel
  | none => .error (.resourceNotFound "Prompt version not found")
  | some model => .ok model

/-- The call up to the lock; `rollback` expects the status that it has read. -/
def PromptCall.begin (actor : AuthenticatedActor) (found : Option PromptVersionModel) :
    PromptCall → Except PromptError (PromptVersionModel × PromptOperation)
  | transition target expectedStatus => do
    requireManager actor
    let model ← versionFound found
    return (model, .transition target expectedStatus)
  | activate expectedStatus expectedTemplateVersion => do
    requireManager actor
    let model ← versionFound found
    return (model, .activate expectedStatus expectedTemplateVersion)
  | rollback templateId expectedTemplateVersion => do
    let model ← versionFound found
    if model.promptTemplateId ≠ templateId then
      throw (.validation "Prompt version does not belong to the template")
    requireManager actor
    return (model, .activate model.status expectedTemplateVersion)

/-! ### Commits -/

namespace Database

variable (db : Database)

/-- The update of a version that a session has loaded and assigned. -/
def flushVersion (versionId : PromptVersionId) (loaded assigned : PromptVersionModel) : Database :=
  match db.versions.lookup versionId with
  | none => db
  | some committed =>
    { db with versions := db.versions.insert versionId (loaded.flush assigned committed) }

/-- The active versions of a template. -/
def activeVersions (templateId : PromptTemplateId) : List PromptVersionId :=
  db.versions.select (fun _ row => row.promptTemplateId = templateId ∧ row.status = .active)
    (fun _ _ => true) db.versions.entries.length

/-- The unique index on the active version of a template. -/
def oneActive (templateId : PromptTemplateId) : Bool := (db.activeVersions templateId).length ≤ 1

/-- The number of the next version of a template. -/
def nextVersion (templateId : PromptTemplateId) : Nat :=
  ((db.versions.entries.filter fun entry => entry.2.promptTemplateId = templateId).map
    fun entry => entry.2.version).foldl max 0 + 1

end Database

namespace PromptSession

variable (session : PromptSession) (db : Database) (now : Timestamp)

/-- The version that is active, as the session sees it, unless it is the one to activate. -/
def previous (templateId : PromptTemplateId) (versionId : PromptVersionId) :
    Option (PromptVersionId × PromptVersionModel) :=
  match db.activeVersions templateId with
  | [] => none
  | previousId :: _ =>
    if previousId = versionId then none
    else (Table.get session.versions db.versions previousId).map fun model => (previousId, model)

/-- The version that was active retires, in the database and in the session. -/
def supersede (templateId : PromptTemplateId) (versionId : PromptVersionId) : Database × Versions :=
  match session.previous db templateId versionId with
  | none => (db, session.versions)
  | some (previousId, model) =>
    (db.flushVersion previousId model (model.superseded now),
      session.versions.insert previousId (model.superseded now))

/-- `activate` under the lock. -/
def activate (pending : PendingCall) (template : PromptTemplateModel)
    (expectedStatus : PromptVersionStatus) (expectedTemplateVersion : Nat) :
    Except PromptError (Database × PromptSession) :=
  let templateId := pending.model.promptTemplateId
  if template.version ≠ expectedTemplateVersion then
    .error (.conflict "Prompt template changed; refresh and retry")
  else if pending.model.activatable expectedStatus = false then
    .error (.conflict "Only approved or retired prompt versions can activate")
  else
    let (db, versions) := session.supersede db now templateId pending.versionId
    let db := db.flushVersion pending.versionId pending.model (pending.model.activated now)
    if db.oneActive templateId then
      .ok
        ({ db with
            templates := db.templates.insert templateId { version := template.version + 1 }
            outbox := addEvent db.outbox
              { promptTemplateId := templateId
                promptVersionId := pending.versionId
                version := pending.model.version } },
          { templates := session.templates.insert templateId { version := template.version + 1 }
            versions := versions.insert pending.versionId (pending.model.activated now) })
    else .error (.integrity "uq_prompt_versions_one_active")

/-- A call from the lock on the template to its commit. -/
def commit (pending : PendingCall) : Except PromptError (Database × PromptSession) :=
  match Table.getForUpdate session.templates db.templates pending.model.promptTemplateId with
  | none => .error (.resourceNotFound "Prompt template not found")
  | some template =>
    match pending.operation with
    | .transition target expectedStatus =>
      match pending.model.transition now target expectedStatus pending.actor with
      | .error error => .error error
      | .ok assigned =>
        .ok (db.flushVersion pending.versionId pending.model assigned,
          { templates := session.templates.insert pending.model.promptTemplateId template
            versions := session.versions.insert pending.versionId assigned })
    | .activate expectedStatus expectedTemplateVersion =>
      session.activate db now pending template expectedStatus expectedTemplateVersion

end PromptSession

/-! ### Events -/

abbrev SessionId := Nat

structure PromptWorld where
  db : Database := {}
  sessions : Table SessionId PromptSession := ∅

/-- The events of the sessions. A row that nothing refers to any more leaves its session. -/
inductive PromptEvent
  | createTemplate (templateId : PromptTemplateId)
  | createVersion (id : SessionId) (versionId : PromptVersionId) (templateId : PromptTemplateId)
      (actor : AuthenticatedActor)
  | loadTemplate (id : SessionId) (templateId : PromptTemplateId)
  | loadVersion (id : SessionId) (versionId : PromptVersionId)
  | forgetTemplate (id : SessionId) (templateId : PromptTemplateId)
  | forgetVersion (id : SessionId) (versionId : PromptVersionId)
  | rollback (id : SessionId)
  | start (id : SessionId) (versionId : PromptVersionId) (call : PromptCall)
      (actor : AuthenticatedActor)
  | run (id : SessionId) (now : Timestamp)
  deriving DecidableEq, Repr

namespace PromptWorld

variable (w : PromptWorld)

def session (id : SessionId) : PromptSession := (w.sessions.lookup id).getD {}

def setSession (id : SessionId) (session : PromptSession) : PromptWorld :=
  { w with sessions := w.sessions.insert id session }

/-- A rollback expires everything that the session has loaded. -/
def rollback (id : SessionId) : PromptWorld := w.setSession id {}

/-- A new draft of a template, whose id no other version has. -/
def createVersion (id : SessionId) (versionId : PromptVersionId) (templateId : PromptTemplateId)
    (actor : AuthenticatedActor) : PromptWorld :=
  match requireManager actor with
  | .error _ => w.rollback id
  | .ok () =>
    if templateId ∈ w.db.templates ∧ versionId ∉ w.db.versions then
      let session := w.session id
      let model : PromptVersionModel :=
        { promptTemplateId := templateId, version := w.db.nextVersion templateId }
      { w with db := { w.db with versions := w.db.versions.insert versionId model } }.setSession id
        { session with versions := session.versions.insert versionId model }
    else w.rollback id

/-- The read of the version, in a session that is in the middle of no other call. -/
def start (id : SessionId) (versionId : PromptVersionId) (call : PromptCall)
    (actor : AuthenticatedActor) : PromptWorld :=
  let session := w.session id
  if session.pending.isSome then w
  else
    match call.begin actor (Table.get session.versions w.db.versions versionId) with
    | .error _ => w.rollback id
    | .ok (model, operation) =>
      w.setSession id
        { session with
          versions := session.versions.insert versionId model
          pending := some { versionId, model, operation, actor } }

/-- The lock of the pending call, its validation and its commit. -/
def run (id : SessionId) (now : Timestamp) : PromptWorld :=
  let session := w.session id
  match session.pending with
  | none => w
  | some pending =>
    match session.commit w.db now pending with
    | .error _ => w.rollback id
    | .ok (db, session) => { w with db }.setSession id session

def step (w : PromptWorld) : PromptEvent → PromptWorld
  | .createTemplate templateId =>
    if templateId ∈ w.db.templates then w
    else { w with db := { w.db with templates := w.db.templates.insert templateId {} } }
  | .createVersion id versionId templateId actor => w.createVersion id versionId templateId actor
  | .loadTemplate id templateId =>
    let session := w.session id
    w.setSession id
      { session with templates := Table.load session.templates w.db.templates templateId }
  | .loadVersion id versionId =>
    let session := w.session id
    w.setSession id
      { session with versions := Table.load session.versions w.db.versions versionId }
  | .forgetTemplate id templateId =>
    let session := w.session id
    w.setSession id { session with templates := session.templates.erase templateId }
  | .forgetVersion id versionId =>
    let session := w.session id
    if session.pending.any fun pending => pending.versionId = versionId then w
    else w.setSession id { session with versions := session.versions.erase versionId }
  | .rollback id => w.rollback id
  | .start id versionId call actor => w.start id versionId call actor
  | .run id now => w.run id now

end PromptWorld

/-- Any sessions on a database, which is empty at first. -/
def promptMachine : Machine PromptWorld PromptEvent where
  init := {}
  step := PromptWorld.step

end CyberLegends.Prompts
