import CyberLegends.Auth.SessionStore

/-! What the session store guarantees whatever its callers do: versions that only successful swaps
move, one swap for each version, claims that a later claim ends, and sessions that nobody can use any
more once they are revoked or have expired. -/

namespace CyberLegends.Auth

open CyberLegends.Core Lib

variable (config : OidcSessionConfig)

/-! ### What is to hold -/

/-- The event runs the update of a swap that expects the version, under the owner. -/
def Swaps (w : StoreWorld) (event : StoreEvent) (cookieValue : CookieValue) (expectedVersion : Nat)
    (ownerHash : Option OwnerHash) : Prop :=
  ∃ callId session, event = .proceed callId ∧
    w.calls.lookup callId = some (.swapping cookieValue expectedVersion session ownerHash)

/-- The event is a swap that succeeds. -/
def SwapSucceeds (w : StoreWorld) (event : StoreEvent) (cookieValue : CookieValue)
    (expectedVersion : Nat) : Prop :=
  (∃ ownerHash, Swaps w event cookieValue expectedVersion ownerHash) ∧ (w.executed event).1 = true

/-- The claim of the owner does not stand: it was superseded, or resolved by a swap. -/
def Unclaimed (w : StoreWorld) (cookieValue : CookieValue) (ownerHash : OwnerHash) : Prop :=
  ∀ row, w.sessions.lookup cookieValue = some row → row.refreshOwnerHash ≠ some ownerHash

/-- The session was revoked, has expired, or was deleted after that. -/
def Ended (w : StoreWorld) (cookieValue : CookieValue) : Prop :=
  cookieValue < w.nextCookie ∧
    ∀ row, w.sessions.lookup cookieValue = some row → row.closed w.now = true

/-- The rows are the same but for the time of their last activity. -/
def SameButActivity (row row' : SessionRow) : Prop :=
  { row with updatedAt := row'.updatedAt } = row'

/-- Two tables have the same rows but for the times of their last activities. -/
def OnlyActivity (sessions sessions' : Sessions) : Prop :=
  ∀ cookieValue, sessions'.lookup cookieValue = sessions.lookup cookieValue ∨
    ∃ row row', sessions.lookup cookieValue = some row ∧
      sessions'.lookup cookieValue = some row' ∧ SameButActivity row row'

/-- No query of the call has been answered. -/
def Unanswered : Option StoreCall → Prop
  | none => True
  | some (.readSession _ read) => read = .selecting
  | some (.swapping ..) => True
  | some (.rereading _ read) => read = .selecting
  | some (.swapped _) => False

/-- What holds in every state. -/
structure StoreLaws (w : StoreWorld) : Prop where
  sealed : ∀ cookieValue row, w.sessions.lookup cookieValue = some row →
    row.sessionVersion = row.encryptedPayload.sessionVersion
  versions : ∀ event cookieValue row row', w.sessions.lookup cookieValue = some row →
    (w.step config event).sessions.lookup cookieValue = some row' →
      (SwapSucceeds w event cookieValue row.sessionVersion →
          row'.sessionVersion = row.sessionVersion + 1) ∧
        (¬SwapSucceeds w event cookieValue row.sessionVersion →
          row'.sessionVersion = row.sessionVersion ∧ row'.encryptedPayload = row.encryptedPayload)
  swaps : ∀ event cookieValue expectedVersion,
    SwapSucceeds w event cookieValue expectedVersion →
      (∃ row, w.sessions.lookup cookieValue = some row ∧ row.sessionVersion = expectedVersion) ∧
        ∀ events event' later,
          SwapSucceeds ((sessionStore config).run (w.step config event) events) event' cookieValue
            later → expectedVersion < later
  losers : ∀ event cookieValue expectedVersion ownerHash,
    Swaps w event cookieValue expectedVersion ownerHash →
      (∀ row, w.sessions.lookup cookieValue = some row → row.sessionVersion ≠ expectedVersion ∨
        ∀ owner ∈ ownerHash, row.refreshOwnerHash ≠ some owner) →
          (w.step config event).sessions = w.sessions
  rereads : ∀ callId cookieValue read,
    w.calls.lookup callId = some (.rereading cookieValue read) →
      OnlyActivity w.sessions (w.step config (.proceed callId)).sessions
  superseded : ∀ cookieValue ownerHash, ownerHash < w.nextOwner →
    Unclaimed w cookieValue ownerHash →
      ∀ events, Unclaimed ((sessionStore config).run w events) cookieValue ownerHash
  ended : ∀ cookieValue, Ended w cookieValue → ∀ events,
    Ended ((sessionStore config).run w events) cookieValue ∧
      ∀ row', ((sessionStore config).run w events).sessions.lookup cookieValue = some row' →
        ∃ row, w.sessions.lookup cookieValue = some row ∧
          row'.sessionVersion = row.sessionVersion ∧ row'.encryptedPayload = row.encryptedPayload
  unread : ∀ cookieValue callId, Ended w cookieValue → Unanswered (w.calls.lookup callId) →
    ∀ events session, ((sessionStore config).run w events).calls.lookup callId ≠
      some (.readSession cookieValue (.done (.found session)))

/-! ### Rows -/

variable {config} {w : StoreWorld} {event : StoreEvent} {cookieValue : CookieValue}

/-- What an event does to the row under a cookie. -/
inductive RowChange (w : StoreWorld) (cookieValue : CookieValue) :
    StoreEvent → Option SessionRow → Option SessionRow → Prop
  | same (event : StoreEvent) (row) (fails : ∀ expectedVersion,
      ¬SwapSucceeds w event cookieValue expectedVersion) : RowChange w cookieValue event row row
  | created (session : AuthenticatedSession) (fresh : cookieValue = w.nextCookie)
      (version : 1 ≤ session.sessionVersion) :
      RowChange w cookieValue (.createSession session) none (some (session.newRow w.now))
  | touched {event : StoreEvent} {row : SessionRow} (fails : ∀ expectedVersion,
      ¬SwapSucceeds w event cookieValue expectedVersion) :
      RowChange w cookieValue event (some row) (some { row with updatedAt := w.now })
  | claimed {row expectedVersion} (claimable : row.claimable w.now expectedVersion = true) :
      RowChange w cookieValue (.claimRefresh cookieValue expectedVersion) (some row)
        (some { row with
          refreshOwnerHash := some w.nextOwner, refreshStartedAt := some w.now
          updatedAt := w.now })
  | swapped {callId row ownerHash} (session : AuthenticatedSession)
      (call : w.calls.lookup callId =
        some (.swapping cookieValue row.sessionVersion session ownerHash))
      (swappable : row.swappable w.now row.sessionVersion ownerHash = true)
      (written : (w.executed (.proceed callId)).1 = true) :
      RowChange w cookieValue (.proceed callId) (some row)
        (some { row with
          encryptedPayload := session
          accessTokenExpiresAt := seconds session.accessTokenExpiresAt
          updatedAt := w.now
          lastRefreshedAt := session.refreshedAt.map seconds
          sessionVersion := session.sessionVersion
          refreshOwnerHash := none
          refreshStartedAt := none })
  | revoked {row : SessionRow} (live : row.revokedAt = none) :
      RowChange w cookieValue (.revokeSession cookieValue) (some row)
        (some { row with revokedAt := some w.now, updatedAt := w.now })
  | deleted {row : SessionRow} {limit} (deletable : row.deletable w.now = true) :
      RowChange w cookieValue (.deleteExpiredSessions limit) (some row) none

/-- The event that runs a statement. -/
theorem statement_origin {statement : Statement} (runs : w.statement event = some statement) :
    match statement with
    | .insert cookieValue session =>
      event = .createSession session ∧ cookieValue = w.nextCookie
    | .touch .. => ∃ callId, event = .proceed callId
    | .claim cookieValue expectedVersion ownerHash =>
      event = .claimRefresh cookieValue expectedVersion ∧ ownerHash = w.nextOwner
    | .swap cookieValue expectedVersion session ownerHash => ∃ callId, event = .proceed callId ∧
      w.calls.lookup callId = some (.swapping cookieValue expectedVersion session ownerHash)
    | .revoke cookieValue => event = .revokeSession cookieValue
    | .deleteExpired limit => event = .deleteExpiredSessions limit := by
  cases event with
  | createSession => cases runs; exact ⟨rfl, rfl⟩
  | claimRefresh => cases runs; exact ⟨rfl, rfl⟩
  | revokeSession => cases runs; rfl
  | deleteExpiredSessions => cases runs; rfl
  | tick | readSession | compareAndSwapRefresh => cases runs
  | proceed callId =>
    obtain ⟨call, held, runs⟩ := Option.bind_eq_some_iff.mp runs
    cases call with
    | swapping => cases runs; exact ⟨callId, rfl, held⟩
    | readSession _ read | rereading _ read =>
      cases read <;> cases runs
      exact ⟨callId, rfl⟩
    | swapped => cases runs

/-- A swap succeeds on a row that meets its condition. -/
theorem swapSucceeds_iff {expectedVersion : Nat} :
    SwapSucceeds w event cookieValue expectedVersion ↔
      ∃ callId session ownerHash row, event = .proceed callId ∧
        w.calls.lookup callId = some (.swapping cookieValue expectedVersion session ownerHash) ∧
          w.sessions.lookup cookieValue = some row ∧
            row.swappable w.now expectedVersion ownerHash = true := by
  constructor
  · rintro ⟨⟨ownerHash, callId, session, rfl, held⟩, written⟩
    refine ⟨callId, session, ownerHash, ?_⟩
    simp only [StoreWorld.executed, StoreWorld.statement, held, Option.bind_some,
      StoreCall.statement, Statement.exec, updateWhere] at written
    split at written
    · cases written
    · rename_i row found
      split at written
      · rename_i swappable
        exact ⟨row, rfl, held, found, swappable⟩
      · cases written
  · rintro ⟨callId, session, ownerHash, row, rfl, held, found, swappable⟩
    refine ⟨⟨ownerHash, callId, session, rfl, held⟩, ?_⟩
    simp only [StoreWorld.executed, StoreWorld.statement, held, Option.bind_some,
      StoreCall.statement, Statement.exec, updateWhere, found, swappable, if_true]

theorem swappable_iff {row : SessionRow} {now : Timestamp} {expectedVersion : Nat}
    {ownerHash : Option OwnerHash} :
    row.swappable now expectedVersion ownerHash = true ↔
      row.sessionVersion = expectedVersion ∧ row.revokedAt = none ∧ now < row.sessionExpiresAt ∧
        ∃ owner, ownerHash = some owner ∧ row.refreshOwnerHash = some owner := by
  simp [SessionRow.swappable, Option.any_eq_true]

/-- What a swap that succeeds does. -/
theorem swapSucceeds_change {expectedVersion : Nat}
    (succeeds : SwapSucceeds w event cookieValue expectedVersion) :
    RowChange w cookieValue event (w.sessions.lookup cookieValue)
      ((w.executed event).2.lookup cookieValue) := by
  obtain ⟨callId, session, ownerHash, row, rfl, held, found, swappable⟩ :=
    swapSucceeds_iff.mp succeeds
  obtain rfl := (swappable_iff.mp swappable).1
  have after : (w.executed (.proceed callId)).2.lookup cookieValue = some { row with
      encryptedPayload := session
      accessTokenExpiresAt := seconds session.accessTokenExpiresAt
      updatedAt := w.now
      lastRefreshedAt := session.refreshedAt.map seconds
      sessionVersion := session.sessionVersion
      refreshOwnerHash := none
      refreshStartedAt := none } := by
    simp only [StoreWorld.executed, StoreWorld.statement, held, Option.bind_some,
      StoreCall.statement, Statement.exec, updateWhere, found, swappable, if_true,
      AList.lookup_insert]
  rw [found, after]
  exact .swapped session held swappable succeeds.2

theorem step_change (config : OidcSessionConfig) (w : StoreWorld) (event : StoreEvent)
    (cookieValue : CookieValue) :
    RowChange w cookieValue event (w.sessions.lookup cookieValue)
      ((w.step config event).sessions.lookup cookieValue) := by
  by_cases succeeds : ∃ expectedVersion, SwapSucceeds w event cookieValue expectedVersion
  · obtain ⟨expectedVersion, succeeds⟩ := succeeds
    rw [step_sessions]
    exact swapSucceeds_change succeeds
  · have fails := not_exists.mp succeeds
    rcases @step_row config w event cookieValue with same | ⟨statement, runs, step⟩
    · rw [same]
      exact .same _ _ fails
    · have origin := statement_origin runs
      generalize found : w.sessions.lookup cookieValue = row at step
      generalize (w.step config event).sessions.lookup cookieValue = row' at step ⊢
      cases step with
      | same => exact .same _ _ fails
      | touched => exact .touched fails
      | inserted session version =>
        obtain ⟨isCreate, fresh⟩ := origin
        rw [isCreate]
        exact .created session fresh version
      | claimed ownerHash claimable =>
        obtain ⟨isClaim, own⟩ := origin
        rw [isClaim, own]
        exact .claimed claimable
      | swapped session swappable =>
        obtain ⟨callId, isProceed, held⟩ := origin
        exact absurd (swapSucceeds_iff.mpr ⟨callId, _, _, _, isProceed, held, found, swappable⟩)
          (fails _)
      | revoked live =>
        have isRevoke : event = .revokeSession cookieValue := origin
        rw [isRevoke]
        exact .revoked live
      | deleted deletable =>
        have isDelete : event = .deleteExpiredSessions _ := origin
        rw [isDelete]
        exact .deleted deletable

/-! ### Names and versions -/

/-- Cookies and owners that occur were drawn, versions agree with the payloads, and the payload of a
swap follows the version that it expects. -/
structure Issued (w : StoreWorld) : Prop where
  cookies : ∀ cookieValue row, w.sessions.lookup cookieValue = some row →
    cookieValue < w.nextCookie
  owners : ∀ cookieValue row owner, w.sessions.lookup cookieValue = some row →
    row.refreshOwnerHash = some owner → owner < w.nextOwner
  sealed : ∀ cookieValue row, w.sessions.lookup cookieValue = some row →
    row.sessionVersion = row.encryptedPayload.sessionVersion
  calls : ∀ callId cookieValue expectedVersion session ownerHash,
    w.calls.lookup callId = some (.swapping cookieValue expectedVersion session ownerHash) →
      session.sessionVersion = expectedVersion + 1

theorem issued_init : Issued (sessionStore config).init where
  cookies := by intro cookieValue row found; cases found
  owners := by intro cookieValue row owner found; cases found
  sealed := by intro cookieValue row found; cases found
  calls := by intro callId cookieValue expectedVersion session ownerHash held; cases held

theorem step_counters : w.nextCookie ≤ (w.step config event).nextCookie ∧
    w.nextOwner ≤ (w.step config event).nextOwner := by
  cases event with
  | createSession => exact ⟨Nat.le_succ _, Nat.le_refl _⟩
  | claimRefresh => exact ⟨Nat.le_refl _, Nat.le_succ _⟩
  | tick | revokeSession | deleteExpiredSessions => exact ⟨Nat.le_refl _, Nat.le_refl _⟩
  | readSession | compareAndSwapRefresh =>
    simp only [StoreWorld.step, StoreWorld.begin]
    split <;> exact ⟨Nat.le_refl _, Nat.le_refl _⟩
  | proceed =>
    simp only [StoreWorld.step]
    split <;> exact ⟨Nat.le_refl _, Nat.le_refl _⟩

/-- A call does not go back to the swap. -/
theorem next_swapping {now : Timestamp} {sessions : Sessions} {written : Bool} {call : StoreCall}
    {expectedVersion : Nat} {session : AuthenticatedSession} {ownerHash : Option OwnerHash} :
    call.next config now sessions written ≠
      .swapping cookieValue expectedVersion session ownerHash := by
  intro same
  cases call with
  | readSession | swapped => cases same
  | swapping =>
    simp only [StoreCall.next] at same
    split at same <;> cases same
  | rereading =>
    simp only [StoreCall.next] at same
    split at same <;> cases same

theorem issued_step (issued : Issued w) : Issued (w.step config event) where
  cookies := by
    intro cookieValue row' found'
    have change := step_change config w event cookieValue
    rw [found'] at change
    have later := (@step_counters config w event).1
    generalize before : w.sessions.lookup cookieValue = row at change
    cases change with
    | created session fresh =>
      rw [fresh]
      exact Nat.lt_succ_self _
    | same | touched | claimed | swapped | revoked =>
      exact (issued.cookies cookieValue _ before).trans_le later
  owners := by
    intro cookieValue row' owner found' holds
    have change := step_change config w event cookieValue
    rw [found'] at change
    have later := (@step_counters config w event).2
    generalize before : w.sessions.lookup cookieValue = row at change
    cases change with
    | claimed =>
      cases holds
      exact Nat.lt_succ_self _
    | created | swapped => cases holds
    | same | touched | revoked => exact (issued.owners cookieValue _ owner before holds).trans_le later
  sealed := by
    intro cookieValue row' found'
    have change := step_change config w event cookieValue
    rw [found'] at change
    generalize before : w.sessions.lookup cookieValue = row at change
    cases change with
    | created | swapped => rfl
    | same | touched | claimed | revoked =>
      have agrees := issued.sealed cookieValue _ before
      exact agrees
  calls := by
    intro callId cookieValue expectedVersion session ownerHash held'
    have change := @step_call config w event callId
    rw [held'] at change
    generalize before : w.calls.lookup callId = call at change
    generalize after : StoreCall.swapping cookieValue expectedVersion session ownerHash = call' at change
    cases change with
    | same =>
      subst after
      exact issued.calls callId _ _ _ _ before
    | reads => cases after
    | swaps => cases after; rfl
    | proceeds => exact absurd after.symm next_swapping

theorem issued_run (issued : Issued w) (events : List StoreEvent) :
    Issued ((sessionStore config).run w events) := by
  induction events generalizing w with
  | nil => exact issued
  | cons event events ih => exact ih (issued_step issued)

/-- A version does not go back, and an issued cookie is not issued again. -/
def AtLeast (w : StoreWorld) (cookieValue : CookieValue) (version : Nat) : Prop :=
  cookieValue < w.nextCookie ∧
    ∀ row, w.sessions.lookup cookieValue = some row → version ≤ row.sessionVersion

theorem atLeast_step {version : Nat} (issued : Issued w) (atLeast : AtLeast w cookieValue version) :
    AtLeast (w.step config event) cookieValue version := by
  refine ⟨atLeast.1.trans_le step_counters.1, fun row' found' => ?_⟩
  have change := step_change config w event cookieValue
  rw [found'] at change
  generalize before : w.sessions.lookup cookieValue = row at change
  cases change with
  | created session fresh =>
    have drawn := atLeast.1
    rw [fresh] at drawn
    exact absurd drawn (Nat.lt_irrefl _)
  | same | touched | claimed | revoked =>
    have low := atLeast.2 _ before
    exact low
  | swapped session held =>
    have follows := issued.calls _ _ _ _ _ held
    have low := atLeast.2 _ before
    show version ≤ session.sessionVersion
    omega

theorem atLeast_run {version : Nat} (issued : Issued w) (atLeast : AtLeast w cookieValue version)
    (events : List StoreEvent) :
    AtLeast ((sessionStore config).run w events) cookieValue version := by
  induction events generalizing w with
  | nil => exact atLeast
  | cons event events ih => exact ih (issued_step issued) (atLeast_step issued atLeast)

theorem succeeded_version {expectedVersion : Nat}
    (succeeds : SwapSucceeds w event cookieValue expectedVersion) :
    ∃ row, w.sessions.lookup cookieValue = some row ∧ row.sessionVersion = expectedVersion := by
  obtain ⟨callId, session, ownerHash, row, -, -, found, swappable⟩ := swapSucceeds_iff.mp succeeds
  exact ⟨row, found, (swappable_iff.mp swappable).1⟩

/-- The row after a swap that succeeds follows the version that it expected. -/
theorem succeeded_row {row' : SessionRow} {expectedVersion : Nat} (issued : Issued w)
    (succeeds : SwapSucceeds w event cookieValue expectedVersion)
    (found' : (w.step config event).sessions.lookup cookieValue = some row') :
    row'.sessionVersion = expectedVersion + 1 := by
  have change := swapSucceeds_change succeeds
  obtain ⟨row, found, rfl⟩ := succeeded_version succeeds
  rw [← @step_sessions config w event, found', found] at change
  cases change with
  | same _ _ fails => exact absurd succeeds (fails _)
  | touched fails => exact absurd succeeds (fails _)
  | claimed | revoked =>
    obtain ⟨⟨_, _, _, other, _⟩, _⟩ := succeeds
    cases other
  | swapped session held => exact issued.calls _ _ _ _ _ held

theorem versions_law (issued : Issued w) {row row' : SessionRow}
    (found : w.sessions.lookup cookieValue = some row)
    (found' : (w.step config event).sessions.lookup cookieValue = some row') :
    (SwapSucceeds w event cookieValue row.sessionVersion →
        row'.sessionVersion = row.sessionVersion + 1) ∧
      (¬SwapSucceeds w event cookieValue row.sessionVersion →
        row'.sessionVersion = row.sessionVersion ∧
          row'.encryptedPayload = row.encryptedPayload) := by
  refine ⟨fun succeeds => succeeded_row issued succeeds found', fun fails => ?_⟩
  have change := step_change config w event cookieValue
  rw [found, found'] at change
  cases change with
  | same | touched | claimed | revoked => exact ⟨rfl, rfl⟩
  | swapped session held swappable =>
    exact absurd (swapSucceeds_iff.mpr ⟨_, session, _, row, rfl, held, found, swappable⟩) fails

theorem swaps_law (issued : Issued w) {expectedVersion : Nat}
    (succeeds : SwapSucceeds w event cookieValue expectedVersion) (events : List StoreEvent)
    {event' : StoreEvent} {later : Nat}
    (succeeds' : SwapSucceeds ((sessionStore config).run (w.step config event) events) event'
      cookieValue later) : expectedVersion < later := by
  obtain ⟨row, found, -⟩ := succeeded_version succeeds
  have start : AtLeast (w.step config event) cookieValue (expectedVersion + 1) :=
    ⟨(issued.cookies _ _ found).trans_le step_counters.1,
      fun row' found' => (succeeded_row issued succeeds found').ge⟩
  obtain ⟨row', found', rfl⟩ := succeeded_version succeeds'
  exact (atLeast_run (issued_step issued) start events).2 row' found'

/-! ### Claims -/

/-- A swap under an expectation or a claim that is not that of the row leaves the table alone. -/
theorem losers_law {expectedVersion : Nat} {ownerHash : Option OwnerHash}
    (swaps : Swaps w event cookieValue expectedVersion ownerHash)
    (loses : ∀ row, w.sessions.lookup cookieValue = some row →
      row.sessionVersion ≠ expectedVersion ∨ ∀ owner ∈ ownerHash, row.refreshOwnerHash ≠ some owner) :
    (w.step config event).sessions = w.sessions := by
  obtain ⟨callId, session, rfl, held⟩ := swaps
  rw [step_sessions]
  simp only [StoreWorld.executed, StoreWorld.statement, held, Option.bind_some,
    StoreCall.statement, Statement.exec, updateWhere]
  cases found : w.sessions.lookup cookieValue with
  | none => rfl
  | some row =>
    have refused : ¬row.swappable w.now expectedVersion ownerHash = true := by
      intro swappable
      obtain ⟨version, -, -, owner, rfl, claimed⟩ := swappable_iff.mp swappable
      rcases loses row found with other | unowned
      · exact other version
      · exact unowned owner rfl claimed
    simp only [refused]
    rfl

/-- The read of a failed swap renews the time of the last activity, and no more. -/
theorem rereads_law {callId : CallId} {read : Read}
    (held : w.calls.lookup callId = some (.rereading cookieValue read)) :
    OnlyActivity w.sessions (w.step config (.proceed callId)).sessions := by
  intro other
  rw [step_sessions]
  have runs : w.executed (.proceed callId) = (read.statement cookieValue).elim (false, w.sessions)
      fun statement => statement.exec w.now w.sessions := by
    have executes : w.statement (.proceed callId) = read.statement cookieValue := by
      simp only [StoreWorld.statement, held, Option.bind_some, StoreCall.statement]
    unfold StoreWorld.executed
    generalize w.statement (.proceed callId) = statement at executes
    subst executes
    cases read.statement cookieValue <;> rfl
  rw [runs]
  cases read with
  | selecting | received | done => exact .inl rfl
  | touching session =>
    have step := exec_row w.now w.sessions (.touch cookieValue session.sessionVersion) other
    show ((Statement.touch cookieValue session.sessionVersion).exec w.now w.sessions).2.lookup
      other = _ ∨ ∃ row row', _ ∧ ((Statement.touch cookieValue session.sessionVersion).exec w.now
        w.sessions).2.lookup other = some row' ∧ SameButActivity row row'
    generalize w.sessions.lookup other = row at step
    generalize ((Statement.touch cookieValue session.sessionVersion).exec w.now
      w.sessions).2.lookup other = row' at step ⊢
    cases step with
    | same => exact .inl rfl
    | touched => exact .inr ⟨_, _, rfl, rfl, rfl⟩

theorem superseded_step {ownerHash : OwnerHash} (drawn : ownerHash < w.nextOwner)
    (unclaimed : Unclaimed w cookieValue ownerHash) :
    Unclaimed (w.step config event) cookieValue ownerHash := by
  intro row' found' claimed'
  have change := step_change config w event cookieValue
  rw [found'] at change
  generalize before : w.sessions.lookup cookieValue = row at change
  cases change with
  | same | touched | revoked => exact unclaimed _ before claimed'
  | created | swapped => cases claimed'
  | claimed =>
    cases claimed'
    exact absurd drawn (Nat.lt_irrefl _)

theorem superseded_run {ownerHash : OwnerHash} (drawn : ownerHash < w.nextOwner)
    (unclaimed : Unclaimed w cookieValue ownerHash) (events : List StoreEvent) :
    Unclaimed ((sessionStore config).run w events) cookieValue ownerHash := by
  induction events generalizing w with
  | nil => exact unclaimed
  | cons event events ih =>
    exact ih (drawn.trans_le step_counters.2) (superseded_step drawn unclaimed)

/-! ### Sessions that have ended -/

theorem closed_iff {row : SessionRow} {now : Timestamp} :
    row.closed now = true ↔ row.revokedAt ≠ none ∨ row.sessionExpiresAt ≤ now := by
  simp [SessionRow.closed, Option.isSome_iff_ne_none]

/-- A session that has ended stays ended, with its payload. -/
theorem ended_step (ended : Ended w cookieValue) :
    Ended (w.step config event) cookieValue ∧
      ∀ row', (w.step config event).sessions.lookup cookieValue = some row' →
        ∃ row, w.sessions.lookup cookieValue = some row ∧
          row'.sessionVersion = row.sessionVersion ∧
            row'.encryptedPayload = row.encryptedPayload := by
  have kept : ∀ row', (w.step config event).sessions.lookup cookieValue = some row' →
      ∃ row, w.sessions.lookup cookieValue = some row ∧
        row'.sessionVersion = row.sessionVersion ∧
          row'.encryptedPayload = row.encryptedPayload ∧
            row'.closed (w.step config event).now = true := by
    intro row' found'
    have later := @step_now config w event
    have change := step_change config w event cookieValue
    rw [found'] at change
    generalize before : w.sessions.lookup cookieValue = row at change
    have closed : ∀ {row}, w.sessions.lookup cookieValue = some row →
        row.revokedAt ≠ none ∨ row.sessionExpiresAt ≤ w.now :=
      fun found => closed_iff.mp (ended.2 _ found)
    cases change with
    | created session fresh =>
      have drawn := ended.1
      rw [fresh] at drawn
      exact absurd drawn (Nat.lt_irrefl _)
    | same | touched =>
      refine ⟨_, rfl, rfl, rfl, closed_iff.mpr ?_⟩
      rcases closed before with revoked | expired
      · exact .inl revoked
      · exact .inr (expired.trans later)
    | revoked => exact ⟨_, rfl, rfl, rfl, closed_iff.mpr (.inl (by simp))⟩
    | claimed claimable =>
      obtain ⟨-, live, unexpired, -⟩ := of_decide_eq_true claimable
      rcases closed before with revoked | expired
      · exact absurd live revoked
      · exact absurd unexpired (Nat.not_lt.mpr expired)
    | swapped session held swappable =>
      obtain ⟨-, live, unexpired, -⟩ := swappable_iff.mp swappable
      rcases closed before with revoked | expired
      · exact absurd live revoked
      · exact absurd unexpired (Nat.not_lt.mpr expired)
  refine ⟨⟨ended.1.trans_le step_counters.1, fun row' found' => ?_⟩, fun row' found' => ?_⟩
  · obtain ⟨row, -, -, -, closed⟩ := kept row' found'
    exact closed
  · obtain ⟨row, found, version, payload, -⟩ := kept row' found'
    exact ⟨row, found, version, payload⟩

theorem ended_run (ended : Ended w cookieValue) (events : List StoreEvent) :
    Ended ((sessionStore config).run w events) cookieValue ∧
      ∀ row', ((sessionStore config).run w events).sessions.lookup cookieValue = some row' →
        ∃ row, w.sessions.lookup cookieValue = some row ∧
          row'.sessionVersion = row.sessionVersion ∧
            row'.encryptedPayload = row.encryptedPayload := by
  induction events generalizing w with
  | nil => exact ⟨ended, fun row' found' => ⟨row', found', rfl, rfl⟩⟩
  | cons event events ih =>
    obtain ⟨ended', kept⟩ := @ended_step config w event cookieValue ended
    obtain ⟨last, kept'⟩ := ih ended'
    refine ⟨last, fun row'' found'' => ?_⟩
    obtain ⟨row', found', version', payload'⟩ := kept' row'' found''
    obtain ⟨row, found, version, payload⟩ := kept row' found'
    exact ⟨row, found, version'.trans version, payload'.trans payload⟩

/-- The row of a session that has ended is not returned as found. -/
theorem outcome_closed {row : SessionRow} {now : Timestamp} (closed : row.closed now = true)
    (session : AuthenticatedSession) : row.outcome config now ≠ .found session := by
  unfold SessionRow.outcome
  rcases closed_iff.mp closed with revoked | expired
  · rw [if_pos (Option.isSome_iff_ne_none.mpr revoked)]
    exact nofun
  · split
    · exact nofun
    · rw [if_pos (show row.sessionExpiresAt / 1000 ≤ dateNow now from Nat.div_le_div_right expired)]
      exact nofun

section

variable {row : SessionRow} {now : Timestamp} {sessions : Sessions}

/-- A row that is read as found. -/
theorem next_found {session : AuthenticatedSession}
    (found : row.outcome config now = .found session) :
    (Read.received (some row)).next config now cookieValue sessions =
      if config.idleTimeoutSeconds.isSome then .touching session else .done (.found session) := by
  simp only [Read.next, found]

/-- A row that is not read as found. -/
theorem next_unfound (unfound : ∀ session, row.outcome config now ≠ .found session) :
    (Read.received (some row)).next config now cookieValue sessions =
      .done (row.outcome config now) := by
  cases outcome : row.outcome config now with
  | found session => exact absurd outcome (unfound session)
  | notFound | expired | revoked => simp only [Read.next, outcome]

end

/-- A read that does not find the session. -/
def Read.blind (now : Timestamp) : Read → Prop
  | .selecting => True
  | .received none => True
  | .received (some row) => row.closed now = true
  | .touching _ => False
  | .done result => ∀ session, result ≠ .found session

/-- No call reads the session as found. -/
def Blind (now : Timestamp) (cookieValue : CookieValue) : Option StoreCall → Prop
  | some (.readSession target read) => target = cookieValue → read.blind now
  | some (.rereading target read) => target = cookieValue → read.blind now
  | _ => True

theorem blind_mono {now now' : Timestamp} (later : now ≤ now') {read : Read}
    (blind : read.blind now) : read.blind now' := by
  cases read with
  | received row =>
    cases row with
    | none => exact trivial
    | some row =>
      refine closed_iff.mpr ?_
      rcases closed_iff.mp blind with revoked | expired
      · exact .inl revoked
      · exact .inr (expired.trans later)
  | selecting => exact trivial
  | touching => exact blind
  | done => exact blind

theorem blind_next {now : Timestamp} {sessions : Sessions}
    (ended : ∀ row, sessions.lookup cookieValue = some row → row.closed now = true) {read : Read}
    (blind : read.blind now) : (read.next config now cookieValue sessions).blind now := by
  cases read with
  | selecting =>
    show (Read.received (sessions.lookup cookieValue)).blind now
    cases found : sessions.lookup cookieValue with
    | none => exact trivial
    | some row => exact ended row found
  | received row =>
    cases row with
    | none =>
      intro session found
      cases found
    | some row =>
      have unfound := fun session => @outcome_closed config row now blind session
      rw [next_unfound unfound]
      exact unfound
  | touching => exact blind.elim
  | done => exact blind

theorem blind_step (ended : Ended w cookieValue) {callId : CallId}
    (blind : Blind w.now cookieValue (w.calls.lookup callId)) :
    Blind (w.step config event).now cookieValue ((w.step config event).calls.lookup callId) := by
  have later := @step_now config w event
  have change := @step_call config w event callId
  generalize w.calls.lookup callId = call at change blind
  generalize (w.step config event).calls.lookup callId = call' at change
  have kept : Blind (w.step config event).now cookieValue call := by
    cases call with
    | none => exact trivial
    | some call =>
      cases call with
      | readSession | rereading => exact fun same => blind_mono later (blind same)
      | swapping | swapped => exact trivial
  cases change with
  | same => exact kept
  | reads => exact fun _ => trivial
  | swaps => exact trivial
  | proceeds call =>
    cases call with
    | readSession target read =>
      rintro rfl
      exact blind_mono later (blind_next ended.2 (blind rfl))
    | swapping =>
      show Blind _ _ (some (if _ then _ else _))
      split
      · exact trivial
      · exact fun _ => trivial
    | rereading target read =>
      simp only [StoreCall.next]
      split
      · exact trivial
      · rintro rfl
        exact blind_mono later (blind_next ended.2 (blind rfl))
    | swapped => exact trivial

theorem blind_run (ended : Ended w cookieValue) {callId : CallId}
    (blind : Blind w.now cookieValue (w.calls.lookup callId)) (events : List StoreEvent) :
    Blind ((sessionStore config).run w events).now cookieValue
      (((sessionStore config).run w events).calls.lookup callId) := by
  induction events generalizing w with
  | nil => exact blind
  | cons event events ih => exact ih (ended_step ended).1 (blind_step ended blind)

theorem Unanswered.blind {now : Timestamp} {call : Option StoreCall} (unanswered : Unanswered call) :
    Blind now cookieValue call := by
  cases call with
  | none => exact trivial
  | some call =>
    cases call with
    | readSession | rereading =>
      have start := unanswered
      intro _
      rw [show _ = Read.selecting from start]
      exact trivial
    | swapping | swapped => exact trivial

/-! ### Every run -/

/-- In every state of every run: only a swap that succeeds moves a version, by one, and no two expect
the same one; a swap that loses, or whose claim was superseded, changes nothing but the time of the
last activity, which its read renews; a session that has ended keeps its payload and its version,
and no read whose query comes after that finds it. -/
theorem store_laws (config : OidcSessionConfig) (events : List StoreEvent) :
    StoreLaws config ((sessionStore config).run (sessionStore config).init events) := by
  have issued : Issued ((sessionStore config).run (sessionStore config).init events) :=
    issued_run issued_init events
  generalize (sessionStore config).run (sessionStore config).init events = w at issued
  constructor
  · exact issued.sealed
  · intro event cookieValue row row' found found'
    exact versions_law issued found found'
  · intro event cookieValue expectedVersion succeeds
    exact ⟨succeeded_version succeeds, fun events event' later => swaps_law issued succeeds events⟩
  · intro event cookieValue expectedVersion ownerHash swaps loses
    exact losers_law swaps loses
  · intro callId cookieValue read held
    exact rereads_law held
  · intro cookieValue ownerHash drawn unclaimed events
    exact superseded_run drawn unclaimed events
  · intro cookieValue ended events
    exact ended_run ended events
  · intro cookieValue callId ended unanswered events session held
    have blind := @blind_run config w cookieValue ended callId unanswered.blind events
    rw [held] at blind
    exact blind rfl session rfl

/-! ### Runs -/

/-- The read of a failed swap writes nothing. -/
def LosersSilent (config : OidcSessionConfig) (w : StoreWorld) : Prop :=
  ∀ callId cookieValue read, w.calls.lookup callId = some (.rereading cookieValue read) →
    (w.step config (.proceed callId)).sessions = w.sessions

/-- No read returns a session as found that has ended. -/
def ReadsCurrent (config : OidcSessionConfig) (w : StoreWorld) : Prop :=
  ∀ callId cookieValue read session, w.calls.lookup callId = some (.readSession cookieValue read) →
    (∀ result, read ≠ .done result) →
      (w.step config (.proceed callId)).calls.lookup callId =
          some (.readSession cookieValue (.done (.found session))) →
        ¬Ended w cookieValue

def idleConfig : OidcSessionConfig where
  idleTimeoutSeconds := some 600

def freshSession : AuthenticatedSession where
  actorId := "mia"
  actorRole := .marketing
  accessToken := "access"
  refreshToken := some "refresh"
  accessTokenExpiresAt := 60
  sessionExpiresAt := 36000
  createdAt := 0
  sessionVersion := 1

/-- The claim of the first owner is superseded, and its swap fails and reads the session. -/
def supersededRun : List StoreEvent :=
  [.createSession freshSession, .claimRefresh 0 1, .tick (seconds 21), .claimRefresh 0 1,
    .compareAndSwapRefresh 7 0 1 freshSession (some 0), .proceed 7, .proceed 7, .proceed 7,
    .tick (seconds 1)]

/-- A session is revoked while a read has its row. -/
def overtakenRead : List StoreEvent :=
  [.createSession freshSession, .readSession 7 0, .proceed 7, .revokeSession 0]

/-- The read of a failed swap renews the time of the last activity, and a read that has the row of a
session returns it after it was revoked. -/
theorem failed_swap_touches_and_read_overtaken :
    (¬∀ events, LosersSilent idleConfig ((sessionStore idleConfig).run (sessionStore idleConfig).init
        events)) ∧
      ¬∀ events, ReadsCurrent {} ((sessionStore {}).run (sessionStore {}).init events) := by
  constructor
  · intro silent
    have held : ((sessionStore idleConfig).run (sessionStore idleConfig).init
        supersededRun).calls.lookup 7 = some (.rereading 0 (.touching freshSession)) := by
      decide +kernel
    have same := silent supersededRun 7 0 _ held
    have before : (((sessionStore idleConfig).run (sessionStore idleConfig).init
        supersededRun).sessions.lookup 0).map SessionRow.updatedAt = some (seconds 21) := by
      decide +kernel
    have after : ((((sessionStore idleConfig).run (sessionStore idleConfig).init
        supersededRun).step idleConfig (.proceed 7)).sessions.lookup 0).map SessionRow.updatedAt =
          some (seconds 22) := by
      decide +kernel
    rw [same, before] at after
    exact absurd after (by decide)
  · intro current
    have held : ((sessionStore {}).run (sessionStore {}).init overtakenRead).calls.lookup 7 =
        some (.readSession 0 (.received (some (freshSession.newRow 0)))) := by
      decide +kernel
    have found : (((sessionStore {}).run (sessionStore {}).init overtakenRead).step {}
        (.proceed 7)).calls.lookup 7 = some (.readSession 0 (.done (.found freshSession))) := by
      decide +kernel
    refine current overtakenRead 7 0 _ _ held (fun result => nofun) found ⟨by decide +kernel, ?_⟩
    have revoked : ((sessionStore {}).run (sessionStore {}).init overtakenRead).sessions.lookup 0 =
        some { freshSession.newRow 0 with revokedAt := some 0 } := by
      decide +kernel
    intro row there
    rw [revoked] at there
    cases there
    rfl

end CyberLegends.Auth
