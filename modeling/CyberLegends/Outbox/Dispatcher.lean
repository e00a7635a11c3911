import CyberLegends.Lib.Machine
import CyberLegends.Outbox.Repository

/-! The dispatchers of the outbox. A dispatch stages the effects of the consumer in one session,
renews its lease in another, marks the event in the first, which locks the row, and commits. -/

namespace CyberLegends.Outbox

open CyberLegends.Core Lib Jobs

/-- A leased event as a dispatcher carries it. -/
structure OutboxEvent where
  outboxEventId : Uuid
  eventType : OutboxEventType
  evaluationRunId : Option Uuid
  attemptCount : Nat
  maxAttempts : Nat
  leaseVersion : Nat
  deriving DecidableEq, Repr

def OutboxEventModel.outboxEvent (eventId : Uuid) (event : OutboxEventModel) :
    Option OutboxEvent :=
  (OutboxEventType.ofValue event.eventType).map fun eventType =>
    { outboxEventId := eventId
      eventType
      evaluationRunId := event.evaluationRunId
      attemptCount := event.attemptCount
      maxAttempts := event.maxAttempts
      leaseVersion := event.leaseVersion }

/-! ### The consumer -/

/-- The code and the message of an error that a consumer raises. -/
structure ConsumerError where
  errorCode : String
  errorMessage : String
  deriving DecidableEq, Repr

def ConsumerError.unexpected : ConsumerError := ⟨"OUTBOX_CONSUMER_ERROR", "Outbox consumer failed"⟩

/-! ### Dispatches -/

/-- Where the dispatch of one event stands. -/
inductive DispatchPhase (Effect : Type)
  | consuming
  | renewing (staged : List Effect)
  | marking (staged : List Effect)
  /-- The session holds the row, which it has updated, and has not committed. -/
  | committing (staged : List Effect) (markedAt : Timestamp)
  | failing (error : ConsumerError)
  deriving DecidableEq, Repr

structure Dispatch (Effect : Type) where
  workerId : String
  event : OutboxEvent
  phase : DispatchPhase Effect := .consuming
  leaseLost : Bool := false
  deriving DecidableEq, Repr

abbrev DispatchId := Nat

/-- The outbox, the effects that were committed with the event they belong to, and the dispatches
that are alive. -/
structure OutboxWorld (Effect : Type) where
  events : OutboxStore := ∅
  consumed : List (Uuid × List Effect) := []
  dispatches : Table DispatchId (Dispatch Effect) := ∅
  nextDispatch : DispatchId := 0

/-- What becomes of a commit: it may take effect although it is reported as an error. -/
inductive CommitOutcome
  | committed
  | reportedFailed
  | failed
  deriving DecidableEq, Repr

def CommitOutcome.durable (outcome : CommitOutcome) : Bool := outcome ≠ .failed

variable {Effect : Type}

namespace Dispatch

variable (settings : Settings) (dispatch : Dispatch Effect)

def leaseCall (update : LeaseUpdate) : LeaseCall where
  eventId := dispatch.event.outboxEventId
  workerId := dispatch.workerId
  leaseVersion := dispatch.event.leaseVersion
  update := update

def renewCall : LeaseCall := dispatch.leaseCall (.renewLease settings.outboxLeaseSeconds)

def processedCall : LeaseCall := dispatch.leaseCall .markProcessed

def failedCall (error : ConsumerError) : LeaseCall :=
  dispatch.leaseCall (.markFailed dispatch.event.attemptCount dispatch.event.maxAttempts
    error.errorCode error.errorMessage settings.outboxRetryBaseSeconds settings.outboxRetryMaxSeconds)

/-- Whether the session of the dispatch holds the row of the event. -/
def holds (eventId : Uuid) : Bool :=
  match dispatch.phase with
  | .committing .. => dispatch.event.outboxEventId = eventId
  | _ => false

end Dispatch

namespace OutboxWorld

variable (settings : Settings) (consumer : OutboxEvent → Except ConsumerError (List Effect))
  (w : OutboxWorld Effect)

/-- Whether some dispatch holds the row. -/
def held (eventId : Uuid) : Bool := w.dispatches.entries.any fun entry => entry.2.holds eventId

def setDispatch (id : DispatchId) (dispatch : Dispatch Effect) : OutboxWorld Effect :=
  { w with dispatches := w.dispatches.insert id dispatch }

/-- The dispatch ends; what its session has not committed is rolled back. -/
def endDispatch (id : DispatchId) : OutboxWorld Effect :=
  { w with dispatches := w.dispatches.erase id }

/-- The world with one more dispatch for each leased event. -/
def beginDispatches (workerId : String) : List OutboxEvent → OutboxWorld Effect →
    OutboxWorld Effect
  | [], w => w
  | event :: events, w =>
    beginDispatches workerId events
      { w with
        dispatches := w.dispatches.insert w.nextDispatch { workerId, event }
        nextDispatch := w.nextDispatch + 1 }

/-- A lease, which a dispatcher makes with the limit one. An event of an unknown type undoes it. -/
def lease (now : Timestamp) (workerId : String) (limit : Nat) (locked : List Uuid) :
    OutboxWorld Effect :=
  let batch := w.events.leaseBatch workerId limit settings.outboxLeaseSeconds
    (fun eventId => locked.contains eventId || w.held eventId) now
  match batch.1.mapM fun eventId => (batch.2.lookup eventId).bind (·.outboxEvent eventId) with
  | none => w
  | some leased => beginDispatches workerId leased { w with events := batch.2 }

/-- A renewal in a session of its own, unless another session holds the row. -/
def renewOnce (now : Timestamp) (dispatch : Dispatch Effect)
    (outcome : CommitOutcome) (renewed lost : OutboxWorld Effect → OutboxWorld Effect) :
    OutboxWorld Effect :=
  if w.held dispatch.event.outboxEventId then w
  else
    let update := w.events.updateLeased (dispatch.renewCall settings) now
    let after := if outcome.durable then { w with events := update.2 } else w
    if update.1 = .updated ∧ outcome = .committed then renewed after else lost after

/-- The heartbeat of a dispatch, which cancels the consumer when its renewal fails. -/
def heartbeat (now : Timestamp) (id : DispatchId) (outcome : CommitOutcome) :
    OutboxWorld Effect :=
  match w.dispatches.lookup id with
  | none => w
  | some dispatch =>
    match dispatch.phase with
    | .consuming | .failing _ =>
      w.renewOnce settings now dispatch outcome (fun w => w)
        fun w => w.setDispatch id { dispatch with leaseLost := true }
    | _ => w

/-- The consumer returns. -/
def consume (id : DispatchId) : OutboxWorld Effect :=
  match w.dispatches.lookup id with
  | none => w
  | some dispatch =>
    match dispatch.phase with
    | .consuming =>
      match consumer dispatch.event with
      | .error error => w.setDispatch id { dispatch with phase := .failing error }
      | .ok staged =>
        if dispatch.leaseLost then w.endDispatch id
        else w.setDispatch id { dispatch with phase := .renewing staged }
    | _ => w

/-- The consumer or a statement of its session raises. -/
def raises (id : DispatchId) (error : ConsumerError) : OutboxWorld Effect :=
  match w.dispatches.lookup id with
  | none => w
  | some dispatch =>
    match dispatch.phase with
    | .consuming | .marking _ | .committing .. =>
      w.setDispatch id { dispatch with phase := .failing error }
    | _ => w

/-- The renewal that precedes the mark. -/
def renew (now : Timestamp) (id : DispatchId) (outcome : CommitOutcome) : OutboxWorld Effect :=
  match w.dispatches.lookup id with
  | none => w
  | some dispatch =>
    match dispatch.phase with
    | .renewing staged =>
      w.renewOnce settings now dispatch outcome
        (fun w => w.setDispatch id { dispatch with phase := .marking staged })
        fun w => w.endDispatch id
    | _ => w

/-- The mark, which stays with the session until its commit. -/
def mark (now : Timestamp) (id : DispatchId) : OutboxWorld Effect :=
  match w.dispatches.lookup id with
  | none => w
  | some dispatch =>
    match dispatch.phase with
    | .marking staged =>
      if w.held dispatch.event.outboxEventId then w
      else if (w.events.updateLeased dispatch.processedCall now).1 = .updated then
        w.setDispatch id { dispatch with phase := .committing staged now }
      else w.endDispatch id
    | _ => w

/-- The marked row and the staged effects become visible. -/
def publish (eventId : Uuid) (staged : List Effect) (markedAt : Timestamp) :
    OutboxWorld Effect :=
  match w.events.lookup eventId with
  | none => w
  | some event =>
    { w with
      events := w.events.insert eventId (event.markProcessed markedAt)
      consumed := (eventId, staged) :: w.consumed }

def commit (id : DispatchId) (outcome : CommitOutcome) : OutboxWorld Effect :=
  match w.dispatches.lookup id with
  | none => w
  | some dispatch =>
    match dispatch.phase with
    | .committing staged markedAt =>
      let eventId := dispatch.event.outboxEventId
      match outcome with
      | .committed => (w.publish eventId staged markedAt).endDispatch id
      | .reportedFailed =>
        (w.publish eventId staged markedAt).setDispatch id
          { dispatch with phase := .failing .unexpected }
      | .failed => w.setDispatch id { dispatch with phase := .failing .unexpected }
    | _ => w

/-- The record of a failure, after which the dispatch is over. -/
def recordFailure (now : Timestamp) (id : DispatchId) (outcome : CommitOutcome) :
    OutboxWorld Effect :=
  match w.dispatches.lookup id with
  | none => w
  | some dispatch =>
    match dispatch.phase with
    | .failing error =>
      if w.held dispatch.event.outboxEventId then w
      else
        let update := w.events.updateLeased (dispatch.failedCall settings error) now
        let recorded := if outcome.durable then { w with events := update.2 } else w
        recorded.endDispatch id
    | _ => w

def reconcileStale (now later : Timestamp) (limit : Nat) (locked : List Uuid) :
    OutboxWorld Effect :=
  { w with
    events := w.events.reconcileStale (clamp limit) (fun eventId =>
      locked.contains eventId || w.held eventId) now later }
where
  /-- The bounds on the number of rows. -/
  clamp (limit : Nat) : Nat := min (max limit 1) 100

end OutboxWorld

/-! ### The outbox as a machine -/

/-- The events of the outbox and its dispatchers, each at any time. -/
inductive OutboxAction
  | addEvent (now : Timestamp) (eventId : Uuid) (eventType : OutboxEventType)
      (evaluationRunId : Option Uuid) (idempotencyKey : String)
  | lease (now : Timestamp) (workerId : String) (limit : Nat) (locked : List Uuid)
  | heartbeat (now : Timestamp) (id : DispatchId) (outcome : CommitOutcome)
  | consume (id : DispatchId)
  | raises (id : DispatchId) (error : ConsumerError)
  | renew (now : Timestamp) (id : DispatchId) (outcome : CommitOutcome)
  | mark (now : Timestamp) (id : DispatchId)
  | commit (id : DispatchId) (outcome : CommitOutcome)
  | recordFailure (now : Timestamp) (id : DispatchId) (outcome : CommitOutcome)
  | stop (id : DispatchId)
  | reconcileStale (now later : Timestamp) (limit : Nat) (locked : List Uuid)
  deriving DecidableEq, Repr

def OutboxWorld.step (settings : Settings)
    (consumer : OutboxEvent → Except ConsumerError (List Effect)) (w : OutboxWorld Effect) :
    OutboxAction → OutboxWorld Effect
  | .addEvent now eventId eventType evaluationRunId idempotencyKey =>
    { w with
      events :=
        w.events.addEvent settings eventId eventType evaluationRunId idempotencyKey now }
  | .lease now workerId limit locked => w.lease settings now workerId limit locked
  | .heartbeat now id outcome => w.heartbeat settings now id outcome
  | .consume id => w.consume consumer id
  | .raises id error => w.raises id error
  | .renew now id outcome => w.renew settings now id outcome
  | .mark now id => w.mark now id
  | .commit id outcome => w.commit id outcome
  | .recordFailure now id outcome => w.recordFailure settings now id outcome
  -- the process dies, or the dispatch is cancelled
  | .stop id => w.endDispatch id
  | .reconcileStale now later limit locked => w.reconcileStale now later limit locked

/-- The outbox under any actions, from an empty table. -/
def outboxMachine (settings : Settings)
    (consumer : OutboxEvent → Except ConsumerError (List Effect)) :
    Machine (OutboxWorld Effect) OutboxAction where
  init := {}
  step := OutboxWorld.step settings consumer

end CyberLegends.Outbox
