import CyberLegends.Auth.Model
import CyberLegends.Lib.Machine

/-! The session store in PostgreSQL. Any number of callers on any number of replicas run its
operations, statement by statement, in any order. -/

namespace CyberLegends.Auth

open CyberLegends.Core Lib

/-! ### Reads -/

inductive SessionReadResult
  | found (session : AuthenticatedSession)
  | notFound
  | expired
  | revoked
  deriving DecidableEq, Repr

/-- Where a call of `readSession` stands: before its query, with the row that the query has answered,
before the statement that renews the time of the last activity, or at its end. -/
inductive Read
  | selecting
  | received (row : Option SessionRow)
  | touching (session : AuthenticatedSession)
  | done (result : SessionReadResult)
  deriving DecidableEq, Repr

variable (config : OidcSessionConfig)

/-- The session has not been used for longer than the configuration allows. -/
def SessionRow.idled (row : SessionRow) (now : Timestamp) : Bool :=
  config.idleTimeoutSeconds.any fun idle => row.updatedAt / 1000 + idle * 1000 ≤ dateNow now

/-- What `readSession` makes of a row. -/
def SessionRow.outcome (row : SessionRow) (now : Timestamp) : SessionReadResult :=
  if row.revokedAt.isSome then .revoked
  else if row.sessionExpiresAt / 1000 ≤ dateNow now then .expired
  else if row.idled config now then .expired
  else
    match decodePayload row.encryptedPayload with
    | none => .notFound
    | some session => if session.sessionVersion ≠ row.sessionVersion then .notFound else .found session

/-- The statement that a read is about to run, if it writes. -/
def Read.statement (cookieValue : CookieValue) : Read → Option Statement
  | touching session => some (.touch cookieValue session.sessionVersion)
  | _ => none

/-- Where a read goes on. -/
def Read.next (now : Timestamp) (cookieValue : CookieValue) (sessions : Sessions) : Read → Read
  | selecting => received (sessions.lookup cookieValue)
  | received none => done .notFound
  | received (some row) =>
    match row.outcome config now with
    | .found session =>
      if config.idleTimeoutSeconds.isSome then touching session else done (.found session)
    | result => done result
  | touching session => done (.found session)
  | done result => done result

/-! ### Calls -/

inductive SwapOutcome
  | updated
  | notFound
  | versionConflict
  | expired
  | revoked
  deriving DecidableEq, Repr

/-- What a failed swap answers after its read. -/
def SessionReadResult.afterSwap : SessionReadResult → SwapOutcome
  | found _ => .versionConflict
  | notFound => .notFound
  | expired => .expired
  | revoked => .revoked

/-- A call of an operation that runs more than one statement. -/
inductive StoreCall
  | readSession (cookieValue : CookieValue) (read : Read)
  | swapping (cookieValue : CookieValue) (expectedVersion : Nat) (session : AuthenticatedSession)
    (ownerHash : Option OwnerHash)
  | rereading (cookieValue : CookieValue) (read : Read)
  | swapped (outcome : SwapOutcome)
  deriving DecidableEq, Repr

abbrev CallId := Nat

structure StoreWorld where
  now : Timestamp := 0
  sessions : Sessions := ∅
  calls : Table CallId StoreCall := ∅
  nextCookie : CookieValue := 0
  nextOwner : OwnerHash := 0

/-- The events of the store. A new session has a fresh cookie, a claim a fresh owner, and the payload
of a swap the version that follows the expected one. -/
inductive StoreEvent
  | tick (elapsed : Nat)
  | createSession (session : AuthenticatedSession)
  | claimRefresh (cookieValue : CookieValue) (expectedVersion : Nat)
  | revokeSession (cookieValue : CookieValue)
  | deleteExpiredSessions (limit : Int)
  | readSession (callId : CallId) (cookieValue : CookieValue)
  | compareAndSwapRefresh (callId : CallId) (cookieValue : CookieValue) (expectedVersion : Nat)
    (session : AuthenticatedSession) (ownerHash : Option OwnerHash)
  | proceed (callId : CallId)
  deriving DecidableEq, Repr

/-- The statement that a call runs next. -/
def StoreCall.statement : StoreCall → Option Statement
  | readSession cookieValue read => read.statement cookieValue
  | swapping cookieValue expectedVersion session ownerHash =>
    some (.swap cookieValue expectedVersion session ownerHash)
  | rereading cookieValue read => read.statement cookieValue
  | swapped _ => none

/-- Where a call goes on; `written` tells whether its statement has written the row. -/
def StoreCall.next (now : Timestamp) (sessions : Sessions) (written : Bool) : StoreCall → StoreCall
  | readSession cookieValue read =>
    readSession cookieValue (read.next config now cookieValue sessions)
  | swapping cookieValue _ _ _ =>
    if written then swapped .updated else rereading cookieValue .selecting
  | rereading cookieValue read =>
    match read.next config now cookieValue sessions with
    | .done result => swapped result.afterSwap
    | read => rereading cookieValue read
  | swapped outcome => swapped outcome

namespace StoreWorld

variable (w : StoreWorld)

/-- The statement that an event runs. -/
def statement : StoreEvent → Option Statement
  | .createSession session => some (.insert w.nextCookie session)
  | .claimRefresh cookieValue expectedVersion =>
    some (.claim cookieValue expectedVersion w.nextOwner)
  | .revokeSession cookieValue => some (.revoke cookieValue)
  | .deleteExpiredSessions limit => some (.deleteExpired limit)
  | .proceed callId => (w.calls.lookup callId).bind StoreCall.statement
  | .tick _ | .readSession .. | .compareAndSwapRefresh .. => none

/-- What the statement of an event answers, and the table after it. -/
def executed (event : StoreEvent) : Bool × Sessions :=
  match w.statement event with
  | none => (false, w.sessions)
  | some statement => statement.exec w.now w.sessions

def begin (callId : CallId) (call : StoreCall) : StoreWorld :=
  if callId ∈ w.calls then w else { w with calls := w.calls.insert callId call }

def step (event : StoreEvent) : StoreWorld :=
  let (written, sessions) := w.executed event
  match event with
  | .tick elapsed => { w with now := w.now + elapsed }
  | .createSession _ => { w with sessions, nextCookie := w.nextCookie + 1 }
  | .claimRefresh .. => { w with sessions, nextOwner := w.nextOwner + 1 }
  | .revokeSession _ | .deleteExpiredSessions _ => { w with sessions }
  | .readSession callId cookieValue => w.begin callId (.readSession cookieValue .selecting)
  | .compareAndSwapRefresh callId cookieValue expectedVersion session ownerHash =>
    w.begin callId (.swapping cookieValue expectedVersion
      { session with sessionVersion := expectedVersion + 1 } ownerHash)
  | .proceed callId =>
    match w.calls.lookup callId with
    | none => w
    | some call =>
      let call := call.next config w.now w.sessions written
      { w with sessions, calls := w.calls.insert callId call }

end StoreWorld

/-- The store, from an empty table. -/
def sessionStore : Machine StoreWorld StoreEvent where
  init := {}
  step w event := w.step config event

/-! ### Steps -/

variable {config : OidcSessionConfig} {w : StoreWorld} {event : StoreEvent}

theorem begin_sessions (callId : CallId) (call : StoreCall) :
    (w.begin callId call).sessions = w.sessions := by
  unfold StoreWorld.begin
  split <;> rfl

theorem step_sessions : (w.step config event).sessions = (w.executed event).2 := by
  cases event with
  | tick | createSession | claimRefresh | revokeSession | deleteExpiredSessions => rfl
  | readSession | compareAndSwapRefresh => exact begin_sessions ..
  | proceed callId =>
    simp only [StoreWorld.step]
    cases held : w.calls.lookup callId with
    | none =>
      simp only [StoreWorld.executed, StoreWorld.statement, held]
      rfl
    | some call => rfl

/-- A step leaves a row as it is, or runs a statement on it. -/
theorem step_row (cookieValue : CookieValue) :
    (w.step config event).sessions.lookup cookieValue = w.sessions.lookup cookieValue ∨
      ∃ statement, w.statement event = some statement ∧
        RowStep w.now cookieValue statement (w.sessions.lookup cookieValue)
          ((w.step config event).sessions.lookup cookieValue) := by
  rw [step_sessions]
  unfold StoreWorld.executed
  cases runs : w.statement event with
  | none => exact .inl rfl
  | some statement => exact .inr ⟨statement, rfl, exec_row w.now w.sessions statement cookieValue⟩

theorem step_now : w.now ≤ (w.step config event).now := by
  cases event with
  | tick elapsed => exact Nat.le_add_right ..
  | readSession | compareAndSwapRefresh =>
    simp only [StoreWorld.step, StoreWorld.begin]
    split <;> exact Nat.le_refl _
  | proceed =>
    simp only [StoreWorld.step]
    split <;> exact Nat.le_refl _
  | createSession | claimRefresh | revokeSession | deleteExpiredSessions => exact Nat.le_refl _

/-- What a step does to a call: it begins it, or takes it on. -/
inductive CallStep (config : OidcSessionConfig) (w : StoreWorld) (callId : CallId) :
    StoreEvent → Option StoreCall → Option StoreCall → Prop
  | same (event call) (rests : event ≠ .proceed callId ∨ call = none) :
      CallStep config w callId event call call
  | reads (cookieValue : CookieValue) :
      CallStep config w callId (.readSession callId cookieValue) none
        (some (.readSession cookieValue .selecting))
  | swaps (cookieValue expectedVersion session ownerHash) :
      CallStep config w callId
        (.compareAndSwapRefresh callId cookieValue expectedVersion session ownerHash) none
        (some (.swapping cookieValue expectedVersion
          { session with sessionVersion := expectedVersion + 1 } ownerHash))
  | proceeds (call : StoreCall) :
      CallStep config w callId (.proceed callId) (some call)
        (some (call.next config w.now w.sessions (w.executed (.proceed callId)).1))

theorem step_call (callId : CallId) :
    CallStep config w callId event (w.calls.lookup callId)
      ((w.step config event).calls.lookup callId) := by
  have begun : ∀ {other : CallId} {call : StoreCall},
      (w.begin other call).calls.lookup callId = w.calls.lookup callId ∨
        callId = other ∧ w.calls.lookup callId = none ∧
          (w.begin other call).calls.lookup callId = some call := by
    intro other call
    unfold StoreWorld.begin
    split
    · exact .inl rfl
    · rename_i fresh
      by_cases same : callId = other
      · subst same
        exact .inr ⟨rfl, AList.lookup_eq_none.mpr fresh, AList.lookup_insert _⟩
      · exact .inl (AList.lookup_insert_ne same)
  cases event with
  | tick | createSession | claimRefresh | revokeSession | deleteExpiredSessions =>
    exact .same _ _ (.inl (by simp))
  | readSession other cookieValue =>
    show CallStep _ _ _ _ _ ((w.begin other _).calls.lookup callId)
    obtain same | ⟨rfl, absent, after⟩ := @begun other (.readSession cookieValue .selecting)
    · rw [same]
      exact .same _ _ (.inl (by simp))
    · rw [absent, after]
      exact .reads cookieValue
  | compareAndSwapRefresh other cookieValue expectedVersion session ownerHash =>
    show CallStep _ _ _ _ _ ((w.begin other _).calls.lookup callId)
    obtain same | ⟨rfl, absent, after⟩ := @begun other (.swapping cookieValue expectedVersion
      { session with sessionVersion := expectedVersion + 1 } ownerHash)
    · rw [same]
      exact .same _ _ (.inl (by simp))
    · rw [absent, after]
      exact .swaps ..
  | proceed other =>
    simp only [StoreWorld.step]
    by_cases same : callId = other
    · subst same
      cases held : w.calls.lookup callId with
      | none =>
        simp only [held]
        exact .same _ _ (.inr rfl)
      | some call =>
        simp only [AList.lookup_insert]
        exact .proceeds call
    · have quiet : ((match w.calls.lookup other with
          | none => w
          | some call => { w with
              sessions := (w.executed (.proceed other)).2
              calls := w.calls.insert other (call.next config w.now w.sessions
                (w.executed (.proceed other)).1) }).calls.lookup callId) =
          w.calls.lookup callId := by
        split
        · rfl
        · exact AList.lookup_insert_ne same
      rw [quiet]
      exact .same _ _ (.inl (by simpa using Ne.symm same))

end CyberLegends.Auth
