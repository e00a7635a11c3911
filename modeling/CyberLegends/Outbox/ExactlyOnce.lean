import CyberLegends.Outbox.Rows

/-! Each event of the outbox is consumed at most once, and exactly once when it is processed: a row
that a session has marked stays locked under the version of its lease until the commit that
publishes the mark together with the effects. -/

namespace CyberLegends.Outbox

open CyberLegends.Core Lib

variable {Effect : Type} {settings : Settings}
  {consumer : OutboxEvent → Except ConsumerError (List Effect)} {w : OutboxWorld Effect}

/-! ### What is claimed of states and steps -/

/-- How many times effects of consuming the event were committed. -/
def OutboxWorld.commits (w : OutboxWorld Effect) (eventId : Uuid) : Nat :=
  (w.consumed.map Prod.fst).count eventId

structure ExactlyOnce (consumer : OutboxEvent → Except ConsumerError (List Effect))
    (w : OutboxWorld Effect) : Prop where
  once : ∀ eventId, w.commits eventId ≤ 1
  processed : ∀ eventId,
    (∃ event, w.events.lookup eventId = some event ∧ event.status = .processed) ↔
      w.commits eventId = 1
  effects : ∀ entry ∈ w.consumed, ∃ event, event.outboxEventId = entry.1 ∧
    consumer event = .ok entry.2
  versions : ∀ eventId event, w.events.lookup eventId = some event →
    event.leaseVersion = event.attemptCount ∧ event.attemptCount ≤ event.maxAttempts

/-- The call on behalf of a lease that an action makes or commits. -/
def OutboxWorld.call (settings : Settings) (w : OutboxWorld Effect) :
    OutboxAction → Option LeaseCall
  | .heartbeat _ id _ | .renew _ id _ => (w.dispatches.lookup id).map (·.renewCall settings)
  | .mark _ id | .commit id _ => (w.dispatches.lookup id).map Dispatch.processedCall
  | .recordFailure _ id _ => do
    let dispatch ← w.dispatches.lookup id
    match dispatch.phase with
    | .failing error => some (dispatch.failedCall settings error)
    | _ => none
  | _ => none

structure LeaseSafe (settings : Settings) (w : OutboxWorld Effect) (action : OutboxAction)
    (w' : OutboxWorld Effect) : Prop where
  fenced : ∀ call, w.call settings action = some call →
    ∀ event, w.events.lookup call.eventId = some event →
      event.leaseVersion ≠ call.leaseVersion → w'.events = w.events
  settled : ∀ eventId event, w.events.lookup eventId = some event → event.Settled →
    ∃ event', w'.events.lookup eventId = some event' ∧ event'.status = event.status

/-! ### The invariant -/

/-- The effects that the session of a dispatch has staged. -/
def DispatchPhase.staged : DispatchPhase Effect → Option (List Effect)
  | .renewing staged | .marking staged | .committing staged _ => some staged
  | .consuming | .failing _ => none

/-- What a dispatch carries: the counts of its event's row at the lease, and staged effects that are
those of the consumer. While its session holds the row, the row is leased under its version. -/
structure Dispatch.Carries (consumer : OutboxEvent → Except ConsumerError (List Effect))
    (events : OutboxStore) (dispatch : Dispatch Effect) : Prop where
  version : dispatch.event.leaseVersion = dispatch.event.attemptCount
  row : ∃ event, events.lookup dispatch.event.outboxEventId = some event ∧
    event.maxAttempts = dispatch.event.maxAttempts ∧
    (dispatch.holds dispatch.event.outboxEventId = true →
      event.status = .processing ∧ event.leaseVersion = dispatch.event.leaseVersion)
  staged : ∀ staged, dispatch.phase.staged = some staged → consumer dispatch.event = .ok staged

structure OutboxInvariant (consumer : OutboxEvent → Except ConsumerError (List Effect))
    (w : OutboxWorld Effect) : Prop where
  counted : ∀ eventId event, w.events.lookup eventId = some event → event.Counted
  commits : ∀ eventId, w.commits eventId =
    if (w.events.lookup eventId).any (·.status = .processed) then 1 else 0
  effects : ∀ entry ∈ w.consumed, ∃ event, event.outboxEventId = entry.1 ∧
    consumer event = .ok entry.2
  carries : ∀ id dispatch, w.dispatches.lookup id = some dispatch →
    dispatch.Carries consumer w.events
  alone : ∀ id id' dispatch dispatch' eventId, w.dispatches.lookup id = some dispatch →
    w.dispatches.lookup id' = some dispatch' → dispatch.holds eventId = true →
      dispatch'.holds eventId = true → id = id'

theorem holds_event {dispatch : Dispatch Effect} {eventId : Uuid}
    (holds : dispatch.holds eventId = true) : dispatch.event.outboxEventId = eventId := by
  unfold Dispatch.holds at holds
  split at holds
  · exact of_decide_eq_true holds
  · cases holds

namespace OutboxInvariant

variable (inv : OutboxInvariant consumer w)

include inv

theorem exactlyOnce : ExactlyOnce consumer w where
  once eventId := by
    rw [inv.commits]
    split <;> decide
  processed eventId := by
    rw [inv.commits]
    cases row : w.events.lookup eventId with
    | none => simp
    | some event => by_cases done : event.status = .processed <;> simp [done]
  effects := inv.effects
  versions eventId event row :=
    ⟨(inv.counted eventId event row).version, (inv.counted eventId event row).bound⟩

/-- A change of the rows that spares the rows that sessions hold. -/
theorem change {events : OutboxStore} (changes : w.Changes events) :
    OutboxInvariant consumer { w with events } where
  counted eventId event' row' := by
    have change := changes eventId
    rw [show events.lookup eventId = some event' from row'] at change
    generalize before : w.events.lookup eventId = row at change
    cases change with
    | same => exact inv.counted eventId event' before
    | added counted => exact counted
    | rewritten _ rewrite => exact rewrite.counted (inv.counted eventId _ before)
  commits eventId := by
    have counts := inv.commits eventId
    have change := changes eventId
    show w.commits eventId = if (events.lookup eventId).any _ then 1 else 0
    rw [counts]
    generalize w.events.lookup eventId = row at change
    generalize events.lookup eventId = row' at change
    cases change with
    | same => rfl
    | added _ unprocessed => simp [unprocessed]
    | @rewritten event event' _ rewrite =>
      have before : event.status ≠ .processed := fun done => rewrite.unsettled (.inl done)
      simp [before, rewrite.unprocessed]
  effects := inv.effects
  carries id dispatch found := by
    obtain ⟨version, ⟨event, row, limit, held⟩, staged⟩ := inv.carries id dispatch found
    refine ⟨version, ?_, staged⟩
    have change := changes dispatch.event.outboxEventId
    show ∃ event, events.lookup dispatch.event.outboxEventId = some event ∧ _
    rw [row] at change
    generalize events.lookup dispatch.event.outboxEventId = row' at change
    cases change with
    | same => exact ⟨event, rfl, limit, held⟩
    | rewritten free rewrite =>
      refine ⟨_, rfl, rewrite.limit.trans limit, fun holds => ?_⟩
      have taken : w.held dispatch.event.outboxEventId = true :=
        held_iff.mpr ⟨id, dispatch, found, holds⟩
      rw [taken] at free
      cases free
  alone := inv.alone

/-- A dispatch moves on without taking hold of its row. -/
theorem setDispatch (id : DispatchId) {dispatch : Dispatch Effect}
    (carries : dispatch.Carries consumer w.events)
    (released : ∀ eventId, dispatch.holds eventId = false) :
    OutboxInvariant consumer (w.setDispatch id dispatch) where
  counted := inv.counted
  commits := inv.commits
  effects := inv.effects
  carries id' dispatch' found := by
    obtain ⟨-, rfl⟩ | ⟨-, found⟩ := Table.lookup_insert_cases found
    · exact carries
    · exact inv.carries id' dispatch' found
  alone id₁ id₂ d₁ d₂ eventId found₁ found₂ holds₁ holds₂ := by
    obtain ⟨-, rfl⟩ | ⟨-, found₁⟩ := Table.lookup_insert_cases found₁
    · rw [released eventId] at holds₁
      cases holds₁
    · obtain ⟨-, rfl⟩ | ⟨-, found₂⟩ := Table.lookup_insert_cases found₂
      · rw [released eventId] at holds₂
        cases holds₂
      · exact inv.alone id₁ id₂ d₁ d₂ eventId found₁ found₂ holds₁ holds₂

theorem endDispatch (id : DispatchId) : OutboxInvariant consumer (w.endDispatch id) where
  counted := inv.counted
  commits := inv.commits
  effects := inv.effects
  carries id' dispatch found := inv.carries id' dispatch (Table.lookup_erase_some found).2
  alone id₁ id₂ d₁ d₂ eventId found₁ found₂ :=
    inv.alone id₁ id₂ d₁ d₂ eventId (Table.lookup_erase_some found₁).2
      (Table.lookup_erase_some found₂).2

/-- A dispatch goes on to a phase in which it holds nothing. -/
theorem goesOn {id : DispatchId} {dispatch : Dispatch Effect}
    (found : w.dispatches.lookup id = some dispatch) (phase : DispatchPhase Effect)
    (leaseLost : Bool) (released : ∀ staged markedAt, phase ≠ .committing staged markedAt)
    (staged : ∀ staged, phase.staged = some staged → consumer dispatch.event = .ok staged) :
    OutboxInvariant consumer (w.setDispatch id { dispatch with phase, leaseLost }) := by
  have none : ∀ eventId, { dispatch with phase, leaseLost }.holds eventId = false := by
    intro eventId
    unfold Dispatch.holds
    split
    · exact absurd ‹_› (released _ _)
    · rfl
  obtain ⟨version, ⟨event, row, limit, -⟩, -⟩ := inv.carries id dispatch found
  refine inv.setDispatch id ⟨version, ⟨event, row, limit, fun holds => ?_⟩, staged⟩ none
  rw [none] at holds
  cases holds

/-- A dispatch that has staged its effects takes hold of a row that its lease covers. -/
theorem takeHold {id : DispatchId} {dispatch : Dispatch Effect} {staged : List Effect}
    (found : w.dispatches.lookup id = some dispatch) (ready : dispatch.phase.staged = some staged)
    (free : w.held dispatch.event.outboxEventId ≠ true) {event : OutboxEventModel}
    (row : w.events.lookup dispatch.event.outboxEventId = some event) {now : Timestamp}
    (held : event.leaseCondition dispatch.workerId dispatch.event.leaseVersion now = true) :
    OutboxInvariant consumer
      (w.setDispatch id { dispatch with phase := .committing staged now }) where
  counted := inv.counted
  commits := inv.commits
  effects := inv.effects
  carries id' dispatch' found' := by
    obtain ⟨-, rfl⟩ | ⟨-, found'⟩ := Table.lookup_insert_cases found'
    · obtain ⟨version, ⟨event', row', limit, -⟩, stagedBy⟩ := inv.carries id dispatch found
      rw [row] at row'
      cases row'
      obtain ⟨processing, -, leased, -⟩ := OutboxEventModel.leaseCondition_iff.mp held
      refine ⟨version, ⟨event, row, limit, fun _ => ⟨processing, leased⟩⟩, fun staged' same => ?_⟩
      cases same
      exact stagedBy staged ready
    · exact inv.carries id' dispatch' found'
  alone id₁ id₂ d₁ d₂ eventId found₁ found₂ holds₁ holds₂ := by
    have taken : ∀ id' dispatch', w.dispatches.lookup id' = some dispatch' →
        dispatch'.holds eventId = true → dispatch.event.outboxEventId ≠ eventId := by
      rintro id' dispatch' found' holds' rfl
      exact free (held_iff.mpr ⟨id', dispatch', found', holds'⟩)
    obtain ⟨rfl, rfl⟩ | ⟨-, found₁⟩ := Table.lookup_insert_cases found₁
    · obtain ⟨rfl, -⟩ | ⟨-, found₂⟩ := Table.lookup_insert_cases found₂
      · rfl
      · exact absurd (holds_event holds₁) (taken id₂ d₂ found₂ holds₂)
    · obtain ⟨-, rfl⟩ | ⟨-, found₂⟩ := Table.lookup_insert_cases found₂
      · exact absurd (holds_event holds₂) (taken id₁ d₁ found₁ holds₁)
      · exact inv.alone id₁ id₂ d₁ d₂ eventId found₁ found₂ holds₁ holds₂

/-! ### Steps -/

theorem beginDispatches {workerId : String} {leased : List OutboxEvent}
    (carries : ∀ event ∈ leased,
      ({ workerId := workerId, event := event } : Dispatch Effect).Carries consumer w.events) :
    OutboxInvariant consumer (OutboxWorld.beginDispatches workerId leased w) := by
  induction leased generalizing w with
  | nil => exact inv
  | cons event leased ih =>
    have next := inv.setDispatch w.nextDispatch (carries event List.mem_cons_self)
      fun _ => rfl
    exact ih ⟨next.counted, next.commits, next.effects, next.carries, next.alone⟩
      fun event' member => carries event' (List.mem_cons_of_mem _ member)

theorem lease (now : Timestamp) (workerId : String) (limit : Nat) (locked : List Uuid) :
    OutboxInvariant consumer (w.lease settings now workerId limit locked) := by
  have leasing := inv.change
    (leaseBatch_changes workerId limit settings.outboxLeaseSeconds locked now)
  simp only [OutboxWorld.lease]
  split
  · exact inv
  · rename_i leased snapshots
    refine leasing.beginDispatches fun event member => ?_
    obtain ⟨eventId, -, snapshot⟩ := Lib.mem_mapM_some snapshots member
    obtain ⟨row, found, snapshot⟩ := Option.bind_eq_some_iff.mp snapshot
    simp only [OutboxEventModel.outboxEvent, Option.map_eq_some_iff] at snapshot
    obtain ⟨_, -, rfl⟩ := snapshot
    refine ⟨(leasing.counted eventId row found).version, ⟨row, found, rfl, ?_⟩, ?_⟩
    · intro holds
      cases holds
    · intro staged none
      cases none

/-- An update on behalf of a dispatch whose row nobody holds, whether or not it becomes durable. -/
theorem update {id : DispatchId} {dispatch : Dispatch Effect}
    (found : w.dispatches.lookup id = some dispatch)
    (free : w.held dispatch.event.outboxEventId ≠ true) (change : LeaseUpdate)
    (other : change ≠ .markProcessed)
    (counts : ∀ attemptCount maxAttempts errorCode errorMessage base maximum,
      change = .markFailed attemptCount maxAttempts errorCode errorMessage base maximum →
        attemptCount = dispatch.event.attemptCount ∧ maxAttempts = dispatch.event.maxAttempts)
    (now : Timestamp) (durable : Bool) :
    OutboxInvariant consumer
        (if durable then
          { w with events := (w.events.updateLeased (dispatch.leaseCall change) now).2 } else w) ∧
      (if durable then
        { w with events := (w.events.updateLeased (dispatch.leaseCall change) now).2 }
        else w).dispatches.lookup id = some dispatch := by
  obtain ⟨version, ⟨event, row, limit, -⟩, -⟩ := inv.carries id dispatch found
  cases durable with
  | false => exact ⟨inv, found⟩
  | true =>
    refine ⟨inv.change (updateLeased_changes (Bool.eq_false_iff.mpr free) other
      fun _ _ _ _ _ _ failed => ?_), found⟩
    obtain ⟨attempt, limit'⟩ := counts _ _ _ _ _ _ failed
    refine ⟨attempt.trans version.symm, fun event' row' => ?_⟩
    rw [show w.events.lookup dispatch.event.outboxEventId = some event' from row'] at row
    cases row
    rw [limit', limit]

theorem renewOnce {id : DispatchId} {dispatch : Dispatch Effect}
    (found : w.dispatches.lookup id = some dispatch) (now : Timestamp) (outcome : CommitOutcome)
    {renewed lost : OutboxWorld Effect → OutboxWorld Effect}
    (goOn : ∀ w, OutboxInvariant consumer w → w.dispatches.lookup id = some dispatch →
      OutboxInvariant consumer (renewed w) ∧ OutboxInvariant consumer (lost w)) :
    OutboxInvariant consumer (w.renewOnce settings now dispatch outcome renewed lost) := by
  unfold OutboxWorld.renewOnce
  split
  · exact inv
  · rename_i free
    obtain ⟨after, found⟩ := inv.update found free (.renewLease settings.outboxLeaseSeconds)
      (by rintro ⟨⟩) (by rintro _ _ _ _ _ _ ⟨⟩) now outcome.durable
    obtain ⟨whenRenewed, whenLost⟩ := goOn _ after found
    show OutboxInvariant consumer (if _ then _ else _)
    split
    · exact whenRenewed
    · exact whenLost

theorem heartbeat (now : Timestamp) (id : DispatchId) (outcome : CommitOutcome) :
    OutboxInvariant consumer (w.heartbeat settings now id outcome) := by
  unfold OutboxWorld.heartbeat
  split
  · exact inv
  · rename_i dispatch found
    split
    · rename_i phase
      refine inv.renewOnce found now outcome fun w inv found => ⟨inv, ?_⟩
      exact inv.goesOn found _ _ (by rw [phase]; rintro _ _ ⟨⟩) (by rw [phase]; rintro _ ⟨⟩)
    · rename_i phase
      refine inv.renewOnce found now outcome fun w inv found => ⟨inv, ?_⟩
      exact inv.goesOn found _ _ (by rw [phase]; rintro _ _ ⟨⟩) (by rw [phase]; rintro _ ⟨⟩)
    · exact inv

theorem consume (id : DispatchId) : OutboxInvariant consumer (w.consume consumer id) := by
  unfold OutboxWorld.consume
  split
  · exact inv
  · rename_i dispatch found
    split
    · split
      · exact inv.goesOn found _ _ (by rintro _ _ ⟨⟩) (by rintro _ ⟨⟩)
      · rename_i staged result
        split
        · exact inv.endDispatch id
        · refine inv.goesOn found _ _ (by rintro _ _ ⟨⟩) fun staged' same => ?_
          cases same
          exact result
    · exact inv

theorem raises (id : DispatchId) (error : ConsumerError) :
    OutboxInvariant consumer (w.raises id error) := by
  unfold OutboxWorld.raises
  split
  · exact inv
  · rename_i dispatch found
    split
    · exact inv.goesOn found _ _ (by rintro _ _ ⟨⟩) (by rintro _ ⟨⟩)
    · exact inv.goesOn found _ _ (by rintro _ _ ⟨⟩) (by rintro _ ⟨⟩)
    · exact inv.goesOn found _ _ (by rintro _ _ ⟨⟩) (by rintro _ ⟨⟩)
    · exact inv

theorem renew (now : Timestamp) (id : DispatchId) (outcome : CommitOutcome) :
    OutboxInvariant consumer (w.renew settings now id outcome) := by
  unfold OutboxWorld.renew
  split
  · exact inv
  · rename_i dispatch found
    split
    · rename_i staged phase
      refine inv.renewOnce found now outcome fun w inv found => ⟨?_, inv.endDispatch id⟩
      refine inv.goesOn found _ _ (by rintro _ _ ⟨⟩) fun staged' same => ?_
      cases same
      exact (inv.carries id dispatch found).staged staged (by rw [phase]; rfl)
    · exact inv

/-- A mark takes hold of a row that nobody holds and that is leased under the dispatch's version. -/
theorem mark (now : Timestamp) (id : DispatchId) : OutboxInvariant consumer (w.mark now id) := by
  unfold OutboxWorld.mark
  split
  · exact inv
  · rename_i dispatch found
    split
    · rename_i staged phase
      split
      · exact inv
      · rename_i free
        split
        · rename_i marked
          obtain ⟨refused, -⟩ | ⟨event, row, held, -⟩ :=
            updateLeased_cases w.events dispatch.processedCall now
          · exact absurd marked refused
          · exact inv.takeHold found (by rw [phase]; rfl) free row held
        · exact inv.endDispatch id
    · exact inv

/-- A row that no session holds any more is published with the effects of its consumption. -/
theorem publish {eventId : Uuid} {staged : List Effect} {event : OutboxEventModel}
    (row : w.events.lookup eventId = some event) (processing : event.status = .processing)
    (free : w.held eventId ≠ true)
    (source : ∃ event, event.outboxEventId = eventId ∧ consumer event = .ok staged)
    (markedAt : Timestamp) : OutboxInvariant consumer (w.publish eventId staged markedAt) := by
  unfold OutboxWorld.publish
  rw [row]
  constructor
  · intro k event' row'
    obtain ⟨-, rfl⟩ | ⟨-, before⟩ := Table.lookup_insert_cases row'
    · have counted := inv.counted eventId event row
      exact ⟨counted.version, counted.bound, by rintro (h | h) <;> cases h⟩
    · exact inv.counted k event' before
  · intro k
    have before := inv.commits k
    unfold OutboxWorld.commits at before ⊢
    by_cases same : k = eventId
    · subst same
      rw [row] at before
      simp only [Option.any_some, processing] at before
      simp [before, OutboxEventModel.markProcessed, OutboxEventModel.clearLease]
    · rw [List.map_cons, List.count_cons_of_ne (Ne.symm same), before,
        AList.lookup_insert_ne same]
  · intro entry member
    rcases List.mem_cons.mp member with rfl | member
    · exact source
    · exact inv.effects entry member
  · intro id dispatch found
    obtain ⟨version, ⟨event', row', limit, held⟩, stagedBy⟩ := inv.carries id dispatch found
    refine ⟨version, ?_, stagedBy⟩
    by_cases same : dispatch.event.outboxEventId = eventId
    · rw [same] at row' ⊢
      rw [row] at row'
      cases row'
      refine ⟨_, AList.lookup_insert _, limit, fun holds => ?_⟩
      exact absurd (held_iff.mpr ⟨id, dispatch, found, holds⟩) free
    · exact ⟨event', by rw [AList.lookup_insert_ne same]; exact row', limit, held⟩
  · exact inv.alone

omit inv in
theorem publish_commutes {eventId : Uuid} {staged : List Effect} {event : OutboxEventModel}
    (row : w.events.lookup eventId = some event) (markedAt : Timestamp) (id : DispatchId)
    (dispatch : Dispatch Effect) :
    (w.publish eventId staged markedAt).endDispatch id =
        (w.endDispatch id).publish eventId staged markedAt ∧
      (w.publish eventId staged markedAt).setDispatch id dispatch =
        (w.setDispatch id dispatch).publish eventId staged markedAt := by
  simp only [OutboxWorld.publish, OutboxWorld.endDispatch, OutboxWorld.setDispatch, row, and_self]

/-- A commit ends the hold on the row, whether it takes effect or not. -/
theorem commit (id : DispatchId) (outcome : CommitOutcome) :
    OutboxInvariant consumer (w.commit id outcome) := by
  unfold OutboxWorld.commit
  split
  · exact inv
  · rename_i dispatch found
    split
    · rename_i staged markedAt phase
      have holds : dispatch.holds dispatch.event.outboxEventId = true := by
        unfold Dispatch.holds
        rw [phase]
        exact decide_eq_true rfl
      have source : ∃ event, event.outboxEventId = dispatch.event.outboxEventId ∧
          consumer event = .ok staged :=
        ⟨dispatch.event, rfl, (inv.carries id dispatch found).staged staged (by rw [phase]; rfl)⟩
      obtain ⟨-, ⟨event, row, -, leased⟩, -⟩ := inv.carries id dispatch found
      obtain ⟨processing, -⟩ := leased holds
      obtain ⟨ended, failed⟩ := publish_commutes row markedAt id
        { dispatch with phase := .failing .unexpected }
      have failing := inv.goesOn found (.failing .unexpected) dispatch.leaseLost (by rintro _ _ ⟨⟩) (by rintro _ ⟨⟩)
      split
      · rw [ended]
        refine (inv.endDispatch id).publish row processing (fun held => ?_) source markedAt
        obtain ⟨id', dispatch', found', holds'⟩ := held_iff.mp held
        obtain ⟨other, found'⟩ := Table.lookup_erase_some found'
        exact other (inv.alone id' id _ _ _ found' found holds' holds)
      · rw [failed]
        refine failing.publish row processing (fun held => ?_) source markedAt
        obtain ⟨id', dispatch', found', holds'⟩ := held_iff.mp held
        obtain ⟨-, rfl⟩ | ⟨other, found'⟩ := Table.lookup_insert_cases found'
        · cases holds'
        · exact other (inv.alone id' id _ _ _ found' found holds' holds)
      · exact failing
    · exact inv

theorem recordFailure (now : Timestamp) (id : DispatchId) (outcome : CommitOutcome) :
    OutboxInvariant consumer (w.recordFailure settings now id outcome) := by
  unfold OutboxWorld.recordFailure
  split
  · exact inv
  · rename_i dispatch found
    split
    · rename_i error phase
      split
      · exact inv
      · rename_i free
        obtain ⟨after, -⟩ := inv.update found free
          (.markFailed dispatch.event.attemptCount dispatch.event.maxAttempts error.errorCode
            error.errorMessage settings.outboxRetryBaseSeconds settings.outboxRetryMaxSeconds)
          (by rintro ⟨⟩) (by rintro _ _ _ _ _ _ ⟨⟩; exact ⟨rfl, rfl⟩) now outcome.durable
        exact after.endDispatch id
    · exact inv

theorem step (action : OutboxAction) :
    OutboxInvariant consumer (w.step settings consumer action) := by
  cases action with
  | addEvent now eventId eventType evaluationRunId idempotencyKey =>
    exact inv.change (addEvent_changes now eventId eventType evaluationRunId idempotencyKey)
  | lease now workerId limit locked => exact inv.lease now workerId limit locked
  | heartbeat now id outcome => exact inv.heartbeat now id outcome
  | consume id => exact inv.consume id
  | raises id error => exact inv.raises id error
  | renew now id outcome => exact inv.renew now id outcome
  | mark now id => exact inv.mark now id
  | commit id outcome => exact inv.commit id outcome
  | recordFailure now id outcome => exact inv.recordFailure now id outcome
  | stop id => exact inv.endDispatch id
  | reconcileStale now later limit locked =>
    exact inv.change (reconcileStale_changes _ locked now later)

end OutboxInvariant

/-! ### Rows along a step -/

theorem beginDispatches_events {workerId : String} {leased : List OutboxEvent} :
    (OutboxWorld.beginDispatches workerId leased w).events = w.events := by
  induction leased generalizing w with
  | nil => rfl
  | cons event leased ih => exact ih

/-- The store after an update is as it was, or one row that the lease of the call covers has been
rewritten. -/
theorem updateLeased_events (store : OutboxStore) (call : LeaseCall) (now : Timestamp) :
    (store.updateLeased call now).2 = store ∨
      ∃ event, store.lookup call.eventId = some event ∧ event.status = .processing ∧
        event.leaseVersion = call.leaseVersion ∧
        (store.updateLeased call now).2 =
          store.insert call.eventId (call.update.values now event) := by
  obtain ⟨-, same⟩ | ⟨event, row, held, result⟩ := updateLeased_cases store call now
  · exact .inl same
  · obtain ⟨processing, -, version, -⟩ := OutboxEventModel.leaseCondition_iff.mp held
    exact .inr ⟨event, row, processing, version, congrArg Prod.snd result⟩

/-- What an action does to the rows: nothing, the rewrite of a row that the lease of its call
covers, or, when it makes no such call, changes that spare settled rows. -/
def OutboxWorld.Moves (settings : Settings) (w : OutboxWorld Effect) (action : OutboxAction)
    (events : OutboxStore) : Prop :=
  events = w.events ∨
    (∃ call event now, w.call settings action = some call ∧
      w.events.lookup call.eventId = some event ∧ event.status = .processing ∧
      event.leaseVersion = call.leaseVersion ∧
      events = w.events.insert call.eventId (call.update.values now event)) ∨
    w.call settings action = none ∧ w.Changes events

theorem moves_update {action : OutboxAction} {call : LeaseCall}
    (calls : w.call settings action = some call) (now : Timestamp) (durable : Bool) :
    w.Moves settings action (if durable then
      { w with events := (w.events.updateLeased call now).2 } else w).events := by
  cases durable with
  | false => exact .inl rfl
  | true =>
    obtain same | ⟨event, row, processing, version, result⟩ :=
      updateLeased_events w.events call now
    · exact .inl same
    · exact .inr (.inl ⟨call, event, now, calls, row, processing, version, result⟩)

theorem moves_renewOnce {action : OutboxAction} {dispatch : Dispatch Effect}
    (calls : w.call settings action = some (dispatch.renewCall settings)) (now : Timestamp)
    (outcome : CommitOutcome) {renewed lost : OutboxWorld Effect → OutboxWorld Effect}
    (same : ∀ w, (renewed w).events = w.events ∧ (lost w).events = w.events) :
    w.Moves settings action
      (w.renewOnce settings now dispatch outcome renewed lost).events := by
  unfold OutboxWorld.renewOnce
  split
  · exact .inl rfl
  · show w.Moves settings action (if _ then renewed _ else lost _).events
    split
    · rw [(same _).1]
      exact moves_update calls now outcome.durable
    · rw [(same _).2]
      exact moves_update calls now outcome.durable

theorem step_moves (inv : OutboxInvariant consumer w) (action : OutboxAction) :
    w.Moves settings action (w.step settings consumer action).events := by
  cases action with
  | addEvent now eventId eventType evaluationRunId idempotencyKey =>
    exact .inr (.inr ⟨rfl, addEvent_changes now eventId eventType evaluationRunId idempotencyKey⟩)
  | lease now workerId limit locked =>
    simp only [OutboxWorld.step, OutboxWorld.lease]
    split
    · exact .inl rfl
    · rw [beginDispatches_events]
      exact .inr (.inr ⟨rfl, leaseBatch_changes workerId limit _ locked now⟩)
  | heartbeat now id outcome =>
    simp only [OutboxWorld.step, OutboxWorld.heartbeat]
    split
    · exact .inl rfl
    · rename_i dispatch found
      have calls : w.call settings (.heartbeat now id outcome) =
          some (dispatch.renewCall settings) := by
        simp only [OutboxWorld.call, found, Option.map_some]
      split
      · exact moves_renewOnce calls now outcome fun w => ⟨rfl, rfl⟩
      · exact moves_renewOnce calls now outcome fun w => ⟨rfl, rfl⟩
      · exact .inl rfl
  | consume id =>
    simp only [OutboxWorld.step, OutboxWorld.consume]
    split
    · exact .inl rfl
    · split
      · split
        · exact .inl rfl
        · split <;> exact .inl rfl
      · exact .inl rfl
  | raises id error =>
    simp only [OutboxWorld.step, OutboxWorld.raises]
    split
    · exact .inl rfl
    · split <;> exact .inl rfl
  | renew now id outcome =>
    simp only [OutboxWorld.step, OutboxWorld.renew]
    split
    · exact .inl rfl
    · rename_i dispatch found
      split
      · refine moves_renewOnce ?_ now outcome fun w => ⟨rfl, rfl⟩
        simp only [OutboxWorld.call, found, Option.map_some]
      · exact .inl rfl
  | mark now id =>
    simp only [OutboxWorld.step, OutboxWorld.mark]
    split
    · exact .inl rfl
    · split
      · split
        · exact .inl rfl
        · split <;> exact .inl rfl
      · exact .inl rfl
  | commit id outcome =>
    simp only [OutboxWorld.step, OutboxWorld.commit]
    split
    · exact .inl rfl
    · rename_i dispatch found
      split
      · rename_i staged markedAt phase
        have holds : dispatch.holds dispatch.event.outboxEventId = true := by
          unfold Dispatch.holds
          rw [phase]
          exact decide_eq_true rfl
        obtain ⟨-, ⟨event, row, -, leased⟩, -⟩ := inv.carries id dispatch found
        obtain ⟨processing, version⟩ := leased holds
        have calls : w.call settings (.commit id outcome) = some dispatch.processedCall := by
          simp only [OutboxWorld.call, found, Option.map_some]
        have published : (w.publish dispatch.event.outboxEventId staged markedAt).events =
            w.events.insert dispatch.event.outboxEventId (event.markProcessed markedAt) := by
          simp only [OutboxWorld.publish, row]
        have moves : w.Moves settings (.commit id outcome)
            (w.publish dispatch.event.outboxEventId staged markedAt).events :=
          .inr (.inl ⟨_, event, markedAt, calls, row, processing, version, published⟩)
        split
        · exact moves
        · exact moves
        · exact .inl rfl
      · exact .inl rfl
  | recordFailure now id outcome =>
    simp only [OutboxWorld.step, OutboxWorld.recordFailure]
    split
    · exact .inl rfl
    · rename_i dispatch found
      split
      · rename_i error phase
        split
        · exact .inl rfl
        · refine moves_update ?_ now outcome.durable
          simp only [OutboxWorld.call, found, Option.bind_eq_bind, Option.bind_some, phase]
      · exact .inl rfl
  | stop id => exact .inl rfl
  | reconcileStale now later limit locked =>
    exact .inr (.inr ⟨rfl, reconcileStale_changes _ locked now later⟩)

theorem step_leaseSafe (inv : OutboxInvariant consumer w) (action : OutboxAction) :
    LeaseSafe settings w action (w.step settings consumer action) := by
  obtain same | ⟨call, event, now, calls, row, processing, version, result⟩ | ⟨none, changes⟩ :=
    step_moves inv action
  · refine ⟨fun _ _ _ _ _ => same, fun eventId event row _ => ⟨event, ?_, rfl⟩⟩
    rw [same]
    exact row
  · constructor
    · intro call' calls' event' row' other
      rw [calls] at calls'
      cases calls'
      rw [row] at row'
      cases row'
      exact absurd version other
    · intro eventId event' row' settled
      refine ⟨event', ?_, rfl⟩
      have other : eventId ≠ call.eventId := by
        rintro rfl
        rw [row] at row'
        cases row'
        exact OutboxEventModel.processing_unsettled processing settled
      rw [result, AList.lookup_insert_ne other]
      exact row'
  · constructor
    · intro call calls
      rw [none] at calls
      cases calls
    · intro eventId event row settled
      have change := changes eventId
      rw [row] at change
      generalize (w.step settings consumer action).events.lookup eventId = row' at change
      cases change with
      | same => exact ⟨event, rfl, rfl⟩
      | rewritten _ rewrite => exact absurd settled rewrite.unsettled

/-- In every run of the outbox, each state consumes every event at most once and exactly once when
it is processed, and each step is safe for the leases; a call under another version than the row's
changes no store at all. -/
theorem outbox_exactly_once (settings : Settings)
    (consumer : OutboxEvent → Except ConsumerError (List Effect)) (actions : List OutboxAction) :
    (outboxMachine settings consumer).Always (ExactlyOnce consumer)
        (outboxMachine settings consumer).init actions ∧
      (outboxMachine settings consumer).Steps (LeaseSafe settings)
        (outboxMachine settings consumer).init actions ∧
      ∀ (store : OutboxStore) (call : LeaseCall) (now : Timestamp) (event : OutboxEventModel),
        store.lookup call.eventId = some event → event.leaseVersion ≠ call.leaseVersion →
          (store.updateLeased call now).2 = store := by
  have start : OutboxInvariant consumer (outboxMachine settings consumer).init := by
    constructor
    · intro eventId event row
      cases row
    · exact fun _ => rfl
    · intro entry member
      cases member
    · intro id dispatch found
      cases found
    · intro id id' dispatch dispatch' eventId found
      cases found
  refine ⟨Machine.always_iff_prefix.mpr fun actions' _ => ?_, ?_, fun _ _ _ _ => updateLeased_fenced⟩
  · have inv := Machine.Reachable.holds start (fun _ action inv => inv.step action)
      ⟨actions', rfl⟩
    exact inv.exactlyOnce
  · exact Machine.steps_of_invariant (I := OutboxInvariant consumer)
      (fun _ action inv => inv.step action) (fun _ action inv => step_leaseSafe inv action) start

end CyberLegends.Outbox
