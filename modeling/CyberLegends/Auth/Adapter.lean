import CyberLegends.Auth.SessionStore

/-! The adapter that hands out access tokens. A call reads the session and, where its token runs out,
waits for the one refresh that its replica has in flight: the refresh claims the session, exchanges
the refresh token and swaps the new tokens in, or waits for another claimant to do so. Whatever ends
without a token revokes the session. -/

namespace CyberLegends.Auth

open CyberLegends.Core Lib

/-! ### Resolutions -/

inductive OidcAuthErrorCode
  | refreshInvalidGrant
  | refreshUnavailable
  | refreshMalformedResponse
  | sessionExpired
  | reauthenticationRequired
  deriving DecidableEq, Repr

inductive AccessTokenResolution
  | valid (session : AuthenticatedSession)
  | refreshed (session : AuthenticatedSession)
  | authenticationRequired (errorCode : OidcAuthErrorCode)
  deriving DecidableEq, Repr

/-- The session has a refresh token, which is not empty. -/
def AuthenticatedSession.refreshable (session : AuthenticatedSession) : Bool :=
  session.refreshToken.any fun token => token ≠ ""

/-- What the identity provider answers to a refresh. -/
structure TokenResponse where
  accessToken : String
  expiresIn : Option Nat
  tokenType : Option String := some "Bearer"
  refreshToken : Option String := none
  idToken : Option String := none
  -- whether the identity token has claims
  claims : Bool := true
  deriving DecidableEq, Repr

inductive GrantAnswer
  | tokens (response : TokenResponse)
  | error (invalidGrant : Bool)
  deriving DecidableEq, Repr

variable (config : OidcSessionConfig)

/-- The new session that a refresh makes of the answer, or why it makes none; `now` is the time at
which the refresh has begun. -/
def AuthenticatedSession.exchanged (session : AuthenticatedSession) (now : Nat) :
    GrantAnswer → Except OidcAuthErrorCode AuthenticatedSession
  | .error true => .error .refreshInvalidGrant
  | .error false => .error .refreshUnavailable
  | .tokens response =>
    match response.expiresIn with
    | none => .error .refreshMalformedResponse
    | some expiresIn =>
      if response.accessToken = "" ∨ expiresIn = 0 ∨
          (response.tokenType.any fun type => type ≠ "" ∧ type.toLower ≠ "bearer") ∨
          (response.idToken.any fun token => token ≠ "") ∧ response.claims = false then
        .error .refreshMalformedResponse
      else
        .ok { session with
          accessToken := response.accessToken
          refreshToken := response.refreshToken.or session.refreshToken
          idToken := response.idToken.or session.idToken
          accessTokenExpiresAt := now + expiresIn
          refreshedAt := some now
          sessionVersion := session.sessionVersion + 1 }

/-! ### Refreshes in flight -/

abbrev ReplicaId := Nat

abbrev FlightId := Nat

def refreshWaitAttempts : Nat := 150

/-- The pause between two polls, 100 milliseconds. -/
def refreshWaitInterval : Timestamp := 100000

/-- Where a refresh stands: before the end of its first read, before its claim, between two polls of
a session that another claims or inside one, before the answer of the identity provider, before its
swap, inside the reads that follow a failed swap, or at its end. -/
inductive FlightPhase
  | reading (read : Read)
  | claiming (session : AuthenticatedSession)
  | sleeping (session : AuthenticatedSession) (attempt : Nat) (wakeAt : Timestamp)
  | polling (session : AuthenticatedSession) (attempt : Nat) (read : Read)
  | exchanging (session : AuthenticatedSession) (startedAt : Nat)
  | swapping (session refreshed : AuthenticatedSession)
  | conflicted (session : AuthenticatedSession) (read : Read)
  | deferring (session : AuthenticatedSession) (read : Read)
  | finished (resolution : AccessTokenResolution)
  deriving DecidableEq, Repr

/-- A refresh of a session by a replica, with the owner that it has drawn. -/
structure Flight where
  replica : ReplicaId
  cookieValue : CookieValue
  ownerHash : Option OwnerHash := none
  phase : FlightPhase
  deriving DecidableEq, Repr

/-- A read that does not end in a session. -/
def SessionReadResult.failure : SessionReadResult → FlightPhase
  | expired => .finished (.authenticationRequired .sessionExpired)
  | _ => .finished (.authenticationRequired .reauthenticationRequired)

/-- `getValidAccessToken` up to the exchange. -/
def AuthenticatedSession.exchange (session : AuthenticatedSession) (now : Timestamp) :
    FlightPhase :=
  if session.sessionExpiresAt ≤ epochSeconds now then
    .finished (.authenticationRequired .sessionExpired)
  else if epochSeconds now + config.refreshSkewSeconds < session.accessTokenExpiresAt then
    .finished (.valid session)
  else if session.refreshable then .exchanging session (epochSeconds now)
  else .finished (.authenticationRequired .reauthenticationRequired)

/-- What a poll makes of the session that it finds. -/
def polled (now : Timestamp) (session winner : AuthenticatedSession) (attempt : Nat) : FlightPhase :=
  if session.sessionVersion < winner.sessionVersion then .finished (.refreshed winner)
  else if attempt + 1 < refreshWaitAttempts then
    .sleeping session (attempt + 1) (now + refreshWaitInterval)
  else .finished (.authenticationRequired .refreshUnavailable)

/-- The statement that a refresh is about to run; `owner` is the owner that a claim draws. -/
def Flight.statement (flight : Flight) (owner : OwnerHash) : Option Statement :=
  match flight.phase with
  | .reading read | .polling _ _ read | .conflicted _ read | .deferring _ read =>
    read.statement flight.cookieValue
  | .claiming session => some (.claim flight.cookieValue session.sessionVersion owner)
  | .swapping session refreshed =>
    some (.swap flight.cookieValue session.sessionVersion refreshed flight.ownerHash)
  | .sleeping .. | .exchanging .. | .finished _ => none

/-- Where a refresh goes on; `written` tells whether its statement has written the row. -/
def FlightPhase.next (now : Timestamp) (sessions : Sessions) (written : Bool)
    (cookieValue : CookieValue) (answer : GrantAnswer) : FlightPhase → FlightPhase
  | reading read =>
    match read.next config now cookieValue sessions with
    | .done (.found session) => claiming session
    | .done result => result.failure
    | read => reading read
  | claiming session =>
    if written then session.exchange config now
    else sleeping session 0 (now + refreshWaitInterval)
  | sleeping session attempt wakeAt =>
    if now < wakeAt then sleeping session attempt wakeAt else polling session attempt .selecting
  | polling session attempt read =>
    match read.next config now cookieValue sessions with
    | .done (.found winner) => polled now session winner attempt
    | .done result => result.failure
    | read => polling session attempt read
  | exchanging session startedAt =>
    match session.exchanged startedAt answer with
    | .error errorCode => finished (.authenticationRequired errorCode)
    | .ok refreshed => swapping session refreshed
  | swapping session refreshed =>
    if written then finished (.refreshed refreshed) else conflicted session .selecting
  | conflicted session read =>
    match read.next config now cookieValue sessions with
    | .done (.found _) => deferring session .selecting
    | .done _ => finished (.authenticationRequired .reauthenticationRequired)
    | read => conflicted session read
  | deferring session read =>
    match read.next config now cookieValue sessions with
    | .done (.found winner) =>
      if session.sessionVersion < winner.sessionVersion then finished (.refreshed winner)
      else finished (.authenticationRequired .reauthenticationRequired)
    | .done _ => finished (.authenticationRequired .reauthenticationRequired)
    | read => deferring session read
  | finished resolution => finished resolution

def FlightPhase.claims : FlightPhase → Bool
  | claiming _ => true
  | _ => false

def FlightPhase.ended : FlightPhase → Bool
  | finished _ => true
  | _ => false

/-! ### Calls -/

/-- Where a call of `getAccessToken` stands. -/
inductive AccessPhase
  | reading (read : Read)
  | awaiting (flightId : FlightId)
  | revoking (errorCode : OidcAuthErrorCode)
  | done (resolution : AccessTokenResolution)
  deriving DecidableEq, Repr

structure AccessCall where
  replica : ReplicaId
  cookieValue : CookieValue
  phase : AccessPhase
  deriving DecidableEq, Repr

structure AccessWorld where
  now : Timestamp := 0
  sessions : Sessions := ∅
  calls : Table CallId AccessCall := ∅
  flights : Table FlightId Flight := ∅
  -- the refreshes that each replica has in flight
  refreshFlights : Table (ReplicaId × CookieValue) FlightId := ∅
  nextCookie : CookieValue := 0
  nextOwner : OwnerHash := 0
  nextFlight : FlightId := 0

/-- The events of the adapter. A call comes with a cookie that was issued, as no other can be
guessed. -/
inductive AccessEvent
  | tick (elapsed : Nat)
  | createSession (session : AuthenticatedSession)
  | getAccessToken (callId : CallId) (replica : ReplicaId) (cookieValue : CookieValue)
  | call (callId : CallId)
  | flight (flightId : FlightId) (answer : GrantAnswer)
  deriving DecidableEq, Repr

/-- What a call makes of the session that it finds: a resolution, a revocation, or nothing, when it
is to await a refresh. -/
def AuthenticatedSession.resolve (session : AuthenticatedSession) (now : Timestamp) :
    Option AccessPhase :=
  if session.sessionExpiresAt ≤ epochSeconds now then some (.revoking .sessionExpired)
  else if epochSeconds now + config.refreshSkewSeconds < session.accessTokenExpiresAt then
    some (.done (.valid session))
  else if session.refreshable then none
  else some (.revoking .reauthenticationRequired)

/-- Why a call revokes a session that it does not find. -/
def SessionReadResult.errorCode : SessionReadResult → OidcAuthErrorCode
  | expired => .sessionExpired
  | _ => .reauthenticationRequired

namespace AccessWorld

variable (w : AccessWorld)

/-- The statement that an event runs. -/
def statement : AccessEvent → Option Statement
  | .createSession session =>
    if session.accessToken = "" then none
    else some (.insert w.nextCookie { session with sessionVersion := 1 })
  | .call callId =>
    (w.calls.lookup callId).bind fun call =>
      match call.phase with
      | .reading read => read.statement call.cookieValue
      | .revoking _ => some (.revoke call.cookieValue)
      | .awaiting _ | .done _ => none
  | .flight flightId _ =>
    (w.flights.lookup flightId).bind fun flight => flight.statement w.nextOwner
  | .tick _ | .getAccessToken .. => none

/-- What the statement of an event answers, and the table after it. -/
def executed (event : AccessEvent) : Bool × Sessions :=
  match w.statement event with
  | none => (false, w.sessions)
  | some statement => statement.exec w.now w.sessions

/-- The call goes on. -/
def setCall (callId : CallId) (call : AccessCall) (phase : AccessPhase) : AccessWorld :=
  { w with calls := w.calls.insert callId { call with phase } }

/-- The call awaits the refresh that its replica has in flight, or a new one. -/
def awaitFlight (callId : CallId) (call : AccessCall) : AccessWorld :=
  match w.refreshFlights.lookup (call.replica, call.cookieValue) with
  | some flightId => w.setCall callId call (.awaiting flightId)
  | none =>
    { w.setCall callId call (.awaiting w.nextFlight) with
      flights := w.flights.insert w.nextFlight
        { replica := call.replica
          cookieValue := call.cookieValue
          phase := .reading .selecting }
      refreshFlights := w.refreshFlights.insert (call.replica, call.cookieValue) w.nextFlight
      nextFlight := w.nextFlight + 1 }

def stepCall (callId : CallId) (call : AccessCall) : AccessWorld :=
  let w' := { w with sessions := (w.executed (.call callId)).2 }
  match call.phase with
  | .reading read =>
    match read.next config w.now call.cookieValue w.sessions with
    | .done (.found session) =>
      match session.resolve config w.now with
      | some phase => w'.setCall callId call phase
      | none => w'.awaitFlight callId call
    | .done result => w'.setCall callId call (.revoking result.errorCode)
    | read => w'.setCall callId call (.reading read)
  | .awaiting flightId =>
    match (w.flights.lookup flightId).map Flight.phase with
    | some (.finished (.authenticationRequired errorCode)) =>
      w'.setCall callId call (.revoking errorCode)
    | some (.finished resolution) => w'.setCall callId call (.done resolution)
    | _ => w'
  | .revoking errorCode => w'.setCall callId call (.done (.authenticationRequired errorCode))
  | .done _ => w'

def stepFlight (flightId : FlightId) (flight : Flight) (answer : GrantAnswer) : AccessWorld :=
  let (written, sessions) := w.executed (.flight flightId answer)
  let phase := flight.phase.next config w.now w.sessions written flight.cookieValue answer
  let claims := flight.phase.claims
  { w with
    sessions
    flights := w.flights.insert flightId
      { flight with phase, ownerHash := if claims then some w.nextOwner else flight.ownerHash }
    refreshFlights :=
      if phase.ended && !flight.phase.ended then
        w.refreshFlights.erase (flight.replica, flight.cookieValue)
      else w.refreshFlights
    nextOwner := if claims then w.nextOwner + 1 else w.nextOwner }

def step (event : AccessEvent) : AccessWorld :=
  match event with
  | .tick elapsed => { w with now := w.now + elapsed }
  | .createSession _ =>
    { w with sessions := (w.executed event).2, nextCookie := w.nextCookie + 1 }
  | .getAccessToken callId replica cookieValue =>
    if callId ∈ w.calls ∨ w.nextCookie ≤ cookieValue then w
    else { w with
      calls := w.calls.insert callId { replica, cookieValue, phase := .reading .selecting } }
  | .call callId =>
    match w.calls.lookup callId with
    | none => w
    | some call => w.stepCall config callId call
  | .flight flightId answer =>
    match w.flights.lookup flightId with
    | none => w
    | some flight => w.stepFlight config flightId flight answer

end AccessWorld

/-- The adapter on all replicas, from an empty table. -/
def authAdapter : Machine AccessWorld AccessEvent where
  init := {}
  step w event := w.step config event

end CyberLegends.Auth
