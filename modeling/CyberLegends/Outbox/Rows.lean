import CyberLegends.Outbox.Dispatcher

/-! What the operations of the outbox do to its rows: an operation other than the mark rewrites rows
that are neither settled nor held by a session, and a call under another version than the row's
changes nothing. -/

namespace CyberLegends.Outbox

open CyberLegends.Core Lib

variable {Effect : Type} {settings : Settings} {w : OutboxWorld Effect}

/-! ### Rows -/

/-- No operation of the outbox takes the row out of its status. -/
def OutboxEventModel.Settled (event : OutboxEventModel) : Prop :=
  event.status = .processed ∨ event.status = .deadLetter

/-- The counters of a row agree, and a row that can be leased has an attempt left. -/
structure OutboxEventModel.Counted (event : OutboxEventModel) : Prop where
  version : event.leaseVersion = event.attemptCount
  bound : event.attemptCount ≤ event.maxAttempts
  room : event.status = .pending ∨ event.status = .failed → event.attemptCount < event.maxAttempts

/-- A rewrite of a row by any operation but the mark. -/
structure OutboxEventModel.Rewrite (event event' : OutboxEventModel) : Prop where
  unsettled : ¬ event.Settled
  counted : event.Counted → event'.Counted
  unprocessed : event'.status ≠ .processed
  limit : event'.maxAttempts = event.maxAttempts

namespace OutboxEventModel

variable {event : OutboxEventModel} {workerId : String} {now : Timestamp}

theorem leasable_iff : event.leasable now = true ↔
    (event.status = .pending ∨ event.status = .failed) ∧ event.availableAt ≤ now := by
  simp [leasable]

theorem leaseCondition_iff {leaseVersion : Nat} :
    event.leaseCondition workerId leaseVersion now = true ↔
      event.status = .processing ∧ event.lockedBy = some workerId ∧
        event.leaseVersion = leaseVersion ∧
          ∃ expiry, event.leaseExpiresAt = some expiry ∧ now < expiry := by
  simp [leaseCondition, Option.any_eq_true]

theorem processing_unsettled (processing : event.status = .processing) : ¬ event.Settled := by
  rintro (settled | settled) <;> rw [processing] at settled <;> cases settled

theorem lease_rewrite (leaseSeconds : Nat) (free : event.leasable now = true) :
    event.Rewrite (event.lease workerId leaseSeconds now) where
  unsettled := by
    obtain ⟨pending | failed, -⟩ := leasable_iff.mp free
    · rintro (settled | settled) <;> rw [pending] at settled <;> cases settled
    · rintro (settled | settled) <;> rw [failed] at settled <;> cases settled
  counted counted := by
    have room := counted.room (leasable_iff.mp free).1
    refine ⟨congrArg (· + 1) counted.version, room, ?_⟩
    rintro (h | h) <;> cases h
  unprocessed h := by cases h
  limit := rfl

theorem expire_rewrite (later : Timestamp) (expired : event.stale now = true) :
    event.Rewrite (event.expire later) := by
  have processing : event.status = .processing := by
    simp only [stale, decide_eq_true_eq] at expired
    exact expired.1
  refine ⟨processing_unsettled processing, fun counted => ⟨counted.version, counted.bound, ?_⟩,
    ?_, rfl⟩
  · intro open'
    by_cases last : event.attemptCount ≥ event.maxAttempts
    · simp [expire, clearLease, last] at open'
    · exact Nat.lt_of_not_le last
  · simp only [expire, clearLease]
    split <;> decide

/-- An update on behalf of a lease, other than the mark, under the counts of that lease. -/
theorem update_rewrite {call : LeaseCall} (held : event.leaseCondition call.workerId
    call.leaseVersion now = true) (other : call.update ≠ .markProcessed)
    (counts : ∀ attemptCount maxAttempts errorCode errorMessage base maximum,
      call.update = .markFailed attemptCount maxAttempts errorCode errorMessage base maximum →
        attemptCount = call.leaseVersion ∧ maxAttempts = event.maxAttempts) :
    event.Rewrite (call.update.values now event) := by
  obtain ⟨processing, -, version, -⟩ := leaseCondition_iff.mp held
  have open_ := processing_unsettled processing
  cases update : call.update with
  | renewLease leaseSeconds =>
    refine ⟨open_, fun counted => ⟨counted.version, counted.bound, counted.room⟩, ?_, rfl⟩
    show event.status ≠ .processed
    rw [processing]
    decide
  | markProcessed => exact absurd update other
  | markFailed attemptCount maxAttempts errorCode errorMessage base maximum =>
    obtain ⟨attempt, limit⟩ := counts _ _ _ _ _ _ update
    refine ⟨open_, fun counted => ⟨counted.version, counted.bound, fun again => ?_⟩, ?_, rfl⟩
    · show event.attemptCount < event.maxAttempts
      rw [← counted.version, version, ← attempt, ← limit]
      by_contra last
      simp [LeaseUpdate.values, markFailed, clearLease, Nat.le_of_not_lt last] at again
    · simp only [LeaseUpdate.values, markFailed, clearLease]
      split <;> decide

end OutboxEventModel

/-- What an operation other than the mark does under one key, `held` telling whether a session holds
the row. -/
inductive RowChange (held : Bool) : Option OutboxEventModel → Option OutboxEventModel → Prop
  | same {row} : RowChange held row row
  | added {event} : event.Counted → event.status ≠ .processed → RowChange held none (some event)
  | rewritten {event event'} : held = false → event.Rewrite event' →
      RowChange held (some event) (some event')

def OutboxWorld.Changes (w : OutboxWorld Effect) (events : OutboxStore) : Prop :=
  ∀ eventId, RowChange (w.held eventId) (w.events.lookup eventId) (events.lookup eventId)

theorem held_iff {eventId : Uuid} : w.held eventId = true ↔
    ∃ id dispatch, w.dispatches.lookup id = some dispatch ∧ dispatch.holds eventId = true := by
  unfold OutboxWorld.held
  rw [List.any_eq_true]
  constructor
  · rintro ⟨⟨id, dispatch⟩, entry, holds⟩
    exact ⟨id, dispatch, AList.mem_lookup_iff.mpr entry, holds⟩
  · rintro ⟨id, dispatch, found, holds⟩
    exact ⟨⟨id, dispatch⟩, AList.mem_lookup_iff.mp found, holds⟩

theorem changes_refl : w.Changes w.events := fun _ => .same

/-! ### Operations on the store -/

theorem addEvent_changes (now : Timestamp) (eventId : Uuid) (eventType : OutboxEventType)
    (evaluationRunId : Option Uuid) (idempotencyKey : String) :
    w.Changes (w.events.addEvent settings eventId eventType evaluationRunId idempotencyKey now) := by
  intro k
  unfold OutboxStore.addEvent
  split
  · exact .same
  · rename_i absent
    by_cases same : k = eventId
    · subst same
      rw [AList.lookup_insert, AList.lookup_eq_none.mpr (not_or.mp absent).1]
      have attempts := settings.range.outboxMaxAttempts.1
      exact .added ⟨rfl, Nat.zero_le _, fun _ => attempts⟩ fun processed => by cases processed
    · rw [AList.lookup_insert_ne same]
      exact .same

/-- Rewriting selected rows that nobody holds. -/
theorem rewriteEach_changes {f : OutboxEventModel → OutboxEventModel} {eventIds : List Uuid}
    (nodup : eventIds.Nodup)
    (rewrite : ∀ k ∈ eventIds, w.held k = false ∧
      ∀ event, w.events.lookup k = some event → event.Rewrite (f event)) :
    w.Changes (Table.rewriteEach f eventIds w.events) := by
  intro k
  rw [Table.rewriteEach_lookup nodup]
  by_cases listed : k ∈ eventIds
  · rw [if_pos listed]
    cases row : w.events.lookup k with
    | none => exact .same
    | some event => exact .rewritten (rewrite k listed).1 ((rewrite k listed).2 event row)
  · rw [if_neg listed]
    exact .same

theorem selected_free {p : OutboxEventModel → Bool} {locked : List Uuid}
    {order : Uuid × OutboxEventModel → Uuid × OutboxEventModel → Bool} {limit : Nat} {k : Uuid}
    (selected : k ∈ Table.select (fun eventId event => p event &&
      !(locked.contains eventId || w.held eventId)) order limit w.events) :
    w.held k = false ∧ ∀ event, w.events.lookup k = some event → p event = true := by
  obtain ⟨event, row, holds⟩ := Table.mem_select selected
  rw [Bool.and_eq_true, Bool.not_eq_true', Bool.or_eq_false_iff] at holds
  refine ⟨holds.2.2, fun event' row' => ?_⟩
  rw [row] at row'
  cases row'
  exact holds.1

theorem leaseBatch_changes (workerId : String) (limit leaseSeconds : Nat) (locked : List Uuid)
    (now : Timestamp) :
    w.Changes (w.events.leaseBatch workerId limit leaseSeconds
      (fun eventId => locked.contains eventId || w.held eventId) now).2 :=
  rewriteEach_changes (Table.select_nodup ..) fun _ selected =>
    ⟨(selected_free selected).1, fun event row =>
      OutboxEventModel.lease_rewrite leaseSeconds ((selected_free selected).2 event row)⟩

theorem reconcileStale_changes (limit : Nat) (locked : List Uuid) (now later : Timestamp) :
    w.Changes (w.events.reconcileStale limit
      (fun eventId => locked.contains eventId || w.held eventId) now later) :=
  rewriteEach_changes (Table.select_nodup ..) fun _ selected =>
    ⟨(selected_free selected).1, fun event row =>
      OutboxEventModel.expire_rewrite later ((selected_free selected).2 event row)⟩

/-- What an update on behalf of a lease does: nothing, or it writes the row that the lease
holds. -/
theorem updateLeased_cases (store : OutboxStore) (call : LeaseCall) (now : Timestamp) :
    (store.updateLeased call now).1 ≠ .updated ∧ (store.updateLeased call now).2 = store ∨
      ∃ event, store.lookup call.eventId = some event ∧
        event.leaseCondition call.workerId call.leaseVersion now = true ∧
        store.updateLeased call now =
          (.updated, store.insert call.eventId (call.update.values now event)) := by
  have refused : store.classifyLeaseFailure call.eventId ≠ .updated := by
    unfold OutboxStore.classifyLeaseFailure
    split
    · decide
    · split <;> decide
  unfold OutboxStore.updateLeased
  cases row : store.lookup call.eventId with
  | none => exact .inl ⟨refused, rfl⟩
  | some event =>
    by_cases held : event.leaseCondition call.workerId call.leaseVersion now = true
    · exact .inr ⟨event, rfl, held, if_pos held⟩
    · left
      simp only [if_neg held]
      exact ⟨refused, trivial⟩

/-- A call under another version than the row's changes nothing. -/
theorem updateLeased_fenced {store : OutboxStore} {call : LeaseCall} {now : Timestamp}
    {event : OutboxEventModel} (row : store.lookup call.eventId = some event)
    (other : event.leaseVersion ≠ call.leaseVersion) : (store.updateLeased call now).2 = store := by
  obtain ⟨-, same⟩ | ⟨event', row', held, -⟩ := updateLeased_cases store call now
  · exact same
  · rw [row] at row'
    cases row'
    exact absurd (OutboxEventModel.leaseCondition_iff.mp held).2.2.1 other

theorem updateLeased_changes {call : LeaseCall} (free : w.held call.eventId = false)
    (other : call.update ≠ .markProcessed) {now : Timestamp}
    (counts : ∀ attemptCount maxAttempts errorCode errorMessage base maximum,
      call.update = .markFailed attemptCount maxAttempts errorCode errorMessage base maximum →
        attemptCount = call.leaseVersion ∧
          ∀ event, w.events.lookup call.eventId = some event → maxAttempts = event.maxAttempts) :
    w.Changes (w.events.updateLeased call now).2 := by
  obtain ⟨-, same⟩ | ⟨event, row, held, result⟩ := updateLeased_cases w.events call now
  · rw [same]
    exact changes_refl
  · rw [result]
    intro k
    by_cases this : k = call.eventId
    · subst this
      rw [AList.lookup_insert, row]
      refine .rewritten free (OutboxEventModel.update_rewrite held other
        fun _ _ _ _ _ _ update => ?_)
      obtain ⟨attempt, limit⟩ := counts _ _ _ _ _ _ update
      exact ⟨attempt, limit event row⟩
    · rw [AList.lookup_insert_ne this]
      exact .same

end CyberLegends.Outbox
