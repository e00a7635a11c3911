import CyberLegends.Auth.AdapterSteps
import CyberLegends.Auth.SessionLaws

/-! Which refresh a session survives. Every way that ends without a token revokes the session, without
a look at the claim or the version. A session whose claims are resolved before the waiting replicas
give up is revoked by no replica that another holds the claim against. -/

namespace CyberLegends.Auth

open CyberLegends.Core Lib

variable {config : OidcSessionConfig} {w : AccessWorld} {event : AccessEvent}

/-! ### What is to hold -/

/-- The refresh exchanges the token or swaps the new ones in. -/
def FlightPhase.exchanges : FlightPhase → Bool
  | exchanging .. | swapping .. => true
  | _ => false

/-- The refresh holds the claim on its session. -/
def Holds (w : AccessWorld) (flightId : FlightId) (flight : Flight) : Prop :=
  w.flights.lookup flightId = some flight ∧ flight.phase.exchanges = true ∧
    ∃ row owner, w.sessions.lookup flight.cookieValue = some row ∧
      row.refreshOwnerHash = some owner ∧ flight.ownerHash = some owner

/-- The session is neither revoked nor past its absolute or its idle expiry. -/
def Usable (config : OidcSessionConfig) (w : AccessWorld) (cookieValue : CookieValue) : Prop :=
  ∃ row session, w.sessions.lookup cookieValue = some row ∧
    row.outcome config w.now = .found session

/-- The event revokes the session for a call of the replica. -/
def Revokes (w : AccessWorld) (event : AccessEvent) (cookieValue : CookieValue)
    (replica : ReplicaId) : Prop :=
  ∃ callId call errorCode row, event = .call callId ∧ w.calls.lookup callId = some call ∧
    call.phase = .revoking errorCode ∧ call.cookieValue = cookieValue ∧
      call.replica = replica ∧ w.sessions.lookup cookieValue = some row ∧ row.revokedAt = none

/-- In some state of the run the refresh has obtained valid new tokens. -/
def Obtains (config : OidcSessionConfig) (events : List AccessEvent) (flightId : FlightId) : Prop :=
  ∃ before after flight session refreshed, events = before ++ after ∧
    ((authAdapter config).run (authAdapter config).init before).flights.lookup flightId =
      some flight ∧ flight.phase = .swapping session refreshed

/-- No replica revokes a usable session while a refresh of another replica, which obtains valid new
tokens, holds the claim on it; and the tokens of a refresh that holds the claim become readable. -/
structure WinnersSpared (config : OidcSessionConfig) (events : List AccessEvent) : Prop where
  spared : ∀ before event after, events = before ++ event :: after →
    ∀ cookieValue replica flightId flight,
      Usable config ((authAdapter config).run (authAdapter config).init before) cookieValue →
      Revokes ((authAdapter config).run (authAdapter config).init before) event cookieValue
        replica →
      Holds ((authAdapter config).run (authAdapter config).init before) flightId flight →
      flight.cookieValue = cookieValue → Obtains config events flightId →
        flight.replica = replica
  readable : ∀ before answer after flightId flight session refreshed,
    events = before ++ .flight flightId answer :: after →
      Usable config ((authAdapter config).run (authAdapter config).init before)
        flight.cookieValue →
      Holds ((authAdapter config).run (authAdapter config).init before) flightId flight →
      flight.phase = .swapping session refreshed →
        ∃ row, ((authAdapter config).run (authAdapter config).init
            (before ++ [.flight flightId answer])).sessions.lookup flight.cookieValue = some row ∧
          row.encryptedPayload = refreshed ∧ row.revokedAt = none

/-! ### The condition -/

/-- The time that a replica waits for the claim of another to be resolved. -/
def refreshWait : Timestamp := refreshWaitAttempts * refreshWaitInterval

/-- The row that the query of a read has answered. -/
def Read.answer : Read → Option SessionRow
  | received row => row
  | _ => none

def FlightPhase.answer : FlightPhase → Option SessionRow
  | reading read | polling _ _ read | conflicted _ read | deferring _ read => read.answer
  | _ => none

def AccessPhase.answer : AccessPhase → Option SessionRow
  | reading read => read.answer
  | _ => none

/-- No claim on a session that is not revoked is left standing as long as others wait, and no row
that a query has answered is past its idle time when it is looked at. -/
def Timely (config : OidcSessionConfig) (w : AccessWorld) : AccessEvent → Prop
  | .tick elapsed => ∀ entry ∈ w.sessions.entries, entry.2.revokedAt = none →
    ∀ startedAt ∈ entry.2.refreshStartedAt, w.now + elapsed < startedAt + refreshWait
  | .call callId => ∀ call ∈ w.calls.lookup callId, ∀ row ∈ call.phase.answer,
    row.idled config w.now = false
  | .flight flightId _ => ∀ flight ∈ w.flights.lookup flightId, ∀ row ∈ flight.phase.answer,
    row.idled config w.now = false
  | _ => True

instance decidableTimely (config : OidcSessionConfig) (w : AccessWorld) (event : AccessEvent) :
    Decidable (Timely config w event) :=
  match event with
  | .tick elapsed => inferInstanceAs (Decidable (∀ entry ∈ w.sessions.entries,
      entry.2.revokedAt = none → ∀ startedAt ∈ entry.2.refreshStartedAt,
        w.now + elapsed < startedAt + refreshWait))
  | .call callId => inferInstanceAs (Decidable (∀ call ∈ w.calls.lookup callId,
      ∀ row ∈ call.phase.answer, row.idled config w.now = false))
  | .flight flightId _ => inferInstanceAs (Decidable (∀ flight ∈ w.flights.lookup flightId,
      ∀ row ∈ flight.phase.answer, row.idled config w.now = false))
  | .createSession _ | .getAccessToken .. => isTrue trivial

/-! ### Rows under an issued cookie -/

/-- What an event does to a row that is there. -/
inductive RowMove (w : AccessWorld) (cookieValue : CookieValue) :
    AccessEvent → SessionRow → SessionRow → Prop
  | same (event : AccessEvent) (row) : RowMove w cookieValue event row row
  | touched {event : AccessEvent} {row : SessionRow} (live : row.revokedAt = none) :
      RowMove w cookieValue event row { row with updatedAt := w.now }
  | claimed {row flightId answer flight session}
      (held : w.flights.lookup flightId = some flight) (phase : flight.phase = .claiming session)
      (target : flight.cookieValue = cookieValue)
      (claimable : row.claimable w.now session.sessionVersion = true) :
      RowMove w cookieValue (.flight flightId answer) row
        { row with
          refreshOwnerHash := some w.nextOwner, refreshStartedAt := some w.now
          updatedAt := w.now }
  | swapped {row flightId answer flight session refreshed}
      (held : w.flights.lookup flightId = some flight)
      (phase : flight.phase = .swapping session refreshed)
      (target : flight.cookieValue = cookieValue)
      (swappable : row.swappable w.now session.sessionVersion flight.ownerHash = true) :
      RowMove w cookieValue (.flight flightId answer) row
        { row with
          encryptedPayload := refreshed
          accessTokenExpiresAt := seconds refreshed.accessTokenExpiresAt
          updatedAt := w.now
          lastRefreshedAt := refreshed.refreshedAt.map seconds
          sessionVersion := refreshed.sessionVersion
          refreshOwnerHash := none
          refreshStartedAt := none }
  | revoked {row : SessionRow} {callId call errorCode}
      (held : w.calls.lookup callId = some call) (phase : call.phase = .revoking errorCode)
      (target : call.cookieValue = cookieValue) (live : row.revokedAt = none) :
      RowMove w cookieValue (.call callId) row
        { row with revokedAt := some w.now, updatedAt := w.now }

/-- A row under a cookie that was issued was there before. -/
theorem issued_row {cookieValue : CookieValue} (issued : cookieValue < w.nextCookie)
    {row' : SessionRow}
    (found' : (w.step config event).sessions.lookup cookieValue = some row') :
    ∃ row, w.sessions.lookup cookieValue = some row ∧ RowMove w cookieValue event row row' := by
  have change := session_change config w event cookieValue
  rw [found'] at change
  generalize before : w.sessions.lookup cookieValue = row at change
  cases change with
  | same => exact ⟨row', rfl, .same _ _⟩
  | created session fresh =>
    rw [fresh] at issued
    exact absurd issued (Nat.lt_irrefl _)
  | touched live => exact ⟨_, rfl, .touched live⟩
  | claimed held phase target claimable => exact ⟨_, rfl, .claimed held phase target claimable⟩
  | swapped held phase target swappable => exact ⟨_, rfl, .swapped held phase target swappable⟩
  | revoked held phase target live => exact ⟨_, rfl, .revoked held phase target live⟩

theorem not_closed_iff {row : SessionRow} {now : Timestamp} :
    row.closed now = false ↔ row.revokedAt = none ∧ now < row.sessionExpiresAt := by
  rw [← Bool.not_eq_true, closed_iff, not_or, not_ne_iff, Nat.not_le]

/-- A row that nobody can use stays one. -/
theorem RowMove.closed {cookieValue : CookieValue} {row row' : SessionRow}
    (move : RowMove w cookieValue event row row') (closed : row.closed w.now = true)
    {now : Timestamp} (later : w.now ≤ now) : row'.closed now = true := by
  refine closed_iff.mpr ?_
  cases move with
  | same | touched =>
    rcases closed_iff.mp closed with revoked | expired
    · exact .inl revoked
    · exact .inr (expired.trans later)
  | claimed _ _ _ claimable =>
    obtain ⟨-, live, unexpired, -⟩ := of_decide_eq_true claimable
    rw [not_closed_iff.mpr ⟨live, unexpired⟩] at closed
    cases closed
  | swapped _ _ _ swappable =>
    obtain ⟨-, live, unexpired, -⟩ := swappable_iff.mp swappable
    rw [not_closed_iff.mpr ⟨live, unexpired⟩] at closed
    cases closed
  | revoked => exact .inl (by simp)

/-! ### The invariant -/

section

variable (w : AccessWorld) (cookieValue : CookieValue)

/-- The cookie was issued, and whatever row it has is as told. -/
def Row (P : SessionRow → Prop) : Prop :=
  cookieValue < w.nextCookie ∧ ∀ row, w.sessions.lookup cookieValue = some row → P row

/-- Nobody can use the session any more. -/
def Gone : Prop := Row w cookieValue fun row => row.closed w.now = true

/-- Nobody can refresh the session any more. -/
def Spent : Prop :=
  Row w cookieValue fun row => row.closed w.now = true ∨ row.encryptedPayload.refreshable = false

/-- The payload was that of the session, and is so while the version is the same. -/
structure Past (session : AuthenticatedSession) : Prop where
  row : Row w cookieValue fun row => row.sessionExpiresAt = seconds session.sessionExpiresAt ∧
    session.sessionVersion ≤ row.sessionVersion ∧
      (row.sessionVersion = session.sessionVersion → row.encryptedPayload = session)
  spent : session.refreshable = false → Spent w cookieValue

/-- The payload of the row can be read. -/
structure SoundRow (row : SessionRow) : Prop where
  sealed : row.sessionVersion = row.encryptedPayload.sessionVersion
  valid : isAuthenticatedSession row.encryptedPayload = true
  expiry : row.sessionExpiresAt = seconds row.encryptedPayload.sessionExpiresAt

/-- A read that has seen no more than there was. -/
def SoundRead : Read → Prop
  | .selecting => cookieValue < w.nextCookie
  | .received none => Gone w cookieValue
  | .received (some row) => SoundRow row ∧ Past w cookieValue row.encryptedPayload ∧
    (row.revokedAt ≠ none → Gone w cookieValue)
  | .touching session => Past w cookieValue session
  | .done _ => False

/-- The session has been refreshed, or is claimed since the time or before. -/
def Beaten (session : AuthenticatedSession) (since : Timestamp) : Prop :=
  Row w cookieValue fun row => row.closed w.now = true ∨
    session.sessionVersion < row.sessionVersion ∨
      ∃ startedAt, row.refreshStartedAt = some startedAt ∧ startedAt ≤ since

/-- What the last poll has seen is closed or a later version. -/
def Late (session : AuthenticatedSession) : Read → Prop
  | .received (some row) =>
    row.closed w.now = true ∨ session.sessionVersion < row.sessionVersion
  | .touching winner => session.sessionVersion < winner.sessionVersion
  | _ => True

/-- The claim under the owner stands on the version. -/
def Stands (ownerHash : Option OwnerHash) (version : Nat) : Prop :=
  ∃ owner, ownerHash = some owner ∧ Row w cookieValue fun row => row.closed w.now = true ∨
    row.refreshOwnerHash = some owner ∧ row.sessionVersion = version

/-- The claim under the owner stands. -/
def Owns (ownerHash : Option OwnerHash) : Prop :=
  ∃ owner, ownerHash = some owner ∧ Row w cookieValue fun row => row.closed w.now = true ∨
    row.refreshOwnerHash = some owner

/-- A refresh that asks to sign in again either leaves no session to refresh or holds the claim. -/
def SoundResolution (ownerHash : Option OwnerHash) : AccessTokenResolution → Prop
  | .authenticationRequired _ => Spent w cookieValue ∨ Owns w cookieValue ownerHash
  | _ => True

def SoundPhase (ownerHash : Option OwnerHash) : FlightPhase → Prop
  | .reading read => SoundRead w cookieValue read
  | .claiming session => Past w cookieValue session
  | .sleeping session attempt wakeAt => Past w cookieValue session ∧
    attempt < refreshWaitAttempts ∧ ∃ since, since + (attempt + 1) * refreshWaitInterval ≤ wakeAt ∧
      Beaten w cookieValue session since
  | .polling session attempt read => Past w cookieValue session ∧
    attempt < refreshWaitAttempts ∧ SoundRead w cookieValue read ∧
      (∃ since, since + (attempt + 1) * refreshWaitInterval ≤ w.now ∧
        Beaten w cookieValue session since) ∧
          (attempt + 1 = refreshWaitAttempts → Late w session read)
  | .exchanging session _ => Past w cookieValue session ∧ session.refreshable = true ∧
    Stands w cookieValue ownerHash session.sessionVersion
  | .swapping session refreshed => Past w cookieValue session ∧ session.refreshable = true ∧
    Stands w cookieValue ownerHash session.sessionVersion ∧
      refreshed.sessionVersion = session.sessionVersion + 1 ∧
        refreshed.sessionExpiresAt = session.sessionExpiresAt ∧ refreshed.accessToken ≠ ""
  | .conflicted _ read => Gone w cookieValue ∧ read.blind w.now
  | .deferring _ _ => False
  | .finished resolution => SoundResolution w cookieValue ownerHash resolution

end

/-- A call that revokes has no session to refresh, or comes from a refresh that holds the claim. -/
def Doomed (w : AccessWorld) (call : AccessCall) : Prop :=
  Spent w call.cookieValue ∨ ∃ flightId flight, w.flights.lookup flightId = some flight ∧
    flight.cookieValue = call.cookieValue ∧ flight.phase.ended = true ∧
      Owns w call.cookieValue flight.ownerHash

def SoundAccess (w : AccessWorld) (call : AccessCall) : Prop :=
  match call.phase with
  | .reading read => SoundRead w call.cookieValue read
  | .awaiting flightId => ∃ flight, w.flights.lookup flightId = some flight ∧
    flight.cookieValue = call.cookieValue
  | .revoking _ => Doomed w call
  | .done _ => True

/-- What holds in every state of a timely run. -/
structure Orderly (w : AccessWorld) : Prop where
  rows : ∀ cookieValue row, w.sessions.lookup cookieValue = some row →
    cookieValue < w.nextCookie ∧ SoundRow row
  claims : ∀ cookieValue row, w.sessions.lookup cookieValue = some row → row.revokedAt = none →
    row.refreshOwnerHash.isSome = row.refreshStartedAt.isSome ∧
      ∀ startedAt ∈ row.refreshStartedAt,
        startedAt ≤ w.now ∧ w.now < startedAt + refreshWait
  owners : ∀ flightId flight owner, w.flights.lookup flightId = some flight →
    flight.ownerHash = some owner → owner < w.nextOwner
  unique : ∀ flightId flightId' flight flight' owner, w.flights.lookup flightId = some flight →
    w.flights.lookup flightId' = some flight' → flight.ownerHash = some owner →
      flight'.ownerHash = some owner → flightId = flightId'
  ids : ∀ flightId flight, w.flights.lookup flightId = some flight → flightId < w.nextFlight
  flights : ∀ flightId flight, w.flights.lookup flightId = some flight →
    SoundPhase w flight.cookieValue flight.ownerHash flight.phase
  calls : ∀ callId call, w.calls.lookup callId = some call → SoundAccess w call
  issued : ∀ callId call, w.calls.lookup callId = some call → call.cookieValue < w.nextCookie
  joined : ∀ key flightId, w.refreshFlights.lookup key = some flightId →
    ∃ flight, w.flights.lookup flightId = some flight ∧ flight.cookieValue = key.2

/-! ### What a step keeps -/

variable {cookieValue : CookieValue}

/-- What every move of a row keeps, a step keeps. -/
theorem Row.step {P Q : SessionRow → Prop} (holds : Row w cookieValue P)
    (keep : ∀ row row', w.sessions.lookup cookieValue = some row → P row →
      RowMove w cookieValue event row row' → Q row') : Row (w.step config event) cookieValue Q := by
  refine ⟨holds.1.trans_le (access_later config w event).nextCookie, fun row' found' => ?_⟩
  obtain ⟨row, found, move⟩ := @issued_row config w event _ holds.1 row' found'
  exact keep row row' found (holds.2 row found) move

theorem Row.mono {P Q : SessionRow → Prop} (holds : Row w cookieValue P)
    (weaken : ∀ row, w.sessions.lookup cookieValue = some row → P row → Q row) :
    Row w cookieValue Q :=
  ⟨holds.1, fun row found => weaken row found (holds.2 row found)⟩

/-- The claim on a row that is not closed is neither missing nor stale. -/
theorem Orderly.not_claimable (orderly : Orderly w) {row : SessionRow} {startedAt : Timestamp}
    {expectedVersion : Nat} (found : w.sessions.lookup cookieValue = some row)
    (started : row.refreshStartedAt = some startedAt) :
    row.claimable w.now expectedVersion = false := by
  by_contra claimable
  obtain ⟨-, live, -, free⟩ := of_decide_eq_true (Bool.not_eq_false _ ▸ claimable)
  obtain ⟨both, fresh⟩ := orderly.claims _ row found live
  rcases free with unowned | stale
  · rw [unowned, started] at both
    cases both
  · obtain ⟨since, held, stale⟩ := (Option.any_eq_true ..).mp stale
    have stale : since + seconds 20 < w.now := of_decide_eq_true stale
    have recent := (fresh since held).2
    have shorter : since + refreshWait ≤ since + seconds 20 := Nat.add_le_add_left (by decide) since
    exact absurd (recent.trans_le shorter) (Nat.lt_asymm stale)

theorem Gone.step (gone : Gone w cookieValue) : Gone (w.step config event) cookieValue :=
  Row.step gone fun _ _ _ closed move => move.closed closed (access_later config w event).now

/-- A swap comes from a refresh whose claim stands on the payload that it exchanged. -/
theorem Orderly.swapping (orderly : Orderly w) {flightId : FlightId} {flight : Flight}
    {session refreshed : AuthenticatedSession} {row : SessionRow}
    (held : w.flights.lookup flightId = some flight)
    (phase : flight.phase = .swapping session refreshed)
    (found : w.sessions.lookup flight.cookieValue = some row)
    (swappable : row.swappable w.now session.sessionVersion flight.ownerHash = true) :
    row.encryptedPayload = session ∧ session.refreshable = true ∧
      row.sessionExpiresAt = seconds session.sessionExpiresAt ∧
        refreshed.sessionVersion = row.sessionVersion + 1 ∧
          refreshed.sessionExpiresAt = session.sessionExpiresAt ∧ refreshed.accessToken ≠ "" := by
  have sound := orderly.flights flightId flight held
  rw [phase] at sound
  obtain ⟨past, refreshable, -, next, expiry, token⟩ := sound
  obtain ⟨version, -⟩ := swappable_iff.mp swappable
  obtain ⟨expires, -, same⟩ := past.row.2 row found
  exact ⟨same version, refreshable, expires, by rw [next, version], expiry, token⟩

theorem Spent.step (orderly : Orderly w) (spent : Spent w cookieValue) :
    Spent (w.step config event) cookieValue := by
  refine Row.step spent fun row row' found out move => ?_
  rcases out with closed | barren
  · exact .inl (move.closed closed (access_later config w event).now)
  · cases move with
    | same | touched | claimed | revoked => exact .inr barren
    | swapped held phase target swappable =>
      subst target
      obtain ⟨payload, refreshable, -⟩ := orderly.swapping held phase found swappable
      rw [payload, refreshable] at barren
      cases barren

theorem Past.step (orderly : Orderly w) {session : AuthenticatedSession}
    (past : Past w cookieValue session) : Past (w.step config event) cookieValue session where
  row := by
    refine Row.step past.row fun row row' found was move => ?_
    obtain ⟨expiry, version, payload⟩ := was
    cases move with
    | same | touched | claimed | revoked => exact ⟨expiry, version, payload⟩
    | @swapped _ _ _ _ _ refreshed held phase target swappable =>
      subst target
      obtain ⟨-, -, -, next, -⟩ := orderly.swapping held phase found swappable
      have newer : session.sessionVersion < refreshed.sessionVersion :=
        next ▸ Nat.lt_succ_of_le version
      exact ⟨expiry, newer.le, fun same => absurd same newer.ne'⟩
  spent unrefreshable := (past.spent unrefreshable).step orderly

theorem Beaten.step (orderly : Orderly w) {session : AuthenticatedSession} {since : Timestamp}
    (past : Past w cookieValue session) (beaten : Beaten w cookieValue session since) :
    Beaten (w.step config event) cookieValue session since := by
  refine Row.step beaten fun row row' found was move => ?_
  rcases was with closed | later | ⟨startedAt, started, early⟩
  · exact .inl (move.closed closed (access_later config w event).now)
  · cases move with
    | same | touched | claimed | revoked => exact .inr (.inl later)
    | swapped held phase target swappable =>
      subst target
      obtain ⟨-, -, -, next, -⟩ := orderly.swapping held phase found swappable
      exact .inr (.inl (next ▸ Nat.lt_succ_of_lt later))
  · cases move with
    | same | touched | revoked => exact .inr (.inr ⟨startedAt, started, early⟩)
    | claimed _ _ _ claimable =>
      rw [orderly.not_claimable found started] at claimable
      cases claimable
    | swapped held phase target swappable =>
      subst target
      obtain ⟨-, -, -, next, -⟩ := orderly.swapping held phase found swappable
      have version := (past.row.2 row found).2.1
      exact .inr (.inl (next ▸ Nat.lt_succ_of_le version))

/-- The refresh that swaps is the one that has drawn the owner of the claim. -/
theorem Orderly.swaps_own (orderly : Orderly w) {flightId flightId' : FlightId}
    {flight flight' : Flight} {owner : OwnerHash} {row : SessionRow} {expectedVersion : Nat}
    (held : w.flights.lookup flightId = some flight) (owned : flight.ownerHash = some owner)
    (held' : w.flights.lookup flightId' = some flight')
    (claimed : row.refreshOwnerHash = some owner)
    (swappable : row.swappable w.now expectedVersion flight'.ownerHash = true) :
    flightId' = flightId := by
  obtain ⟨-, -, -, owner', drawn, claimed'⟩ := swappable_iff.mp swappable
  rw [claimed] at claimed'
  cases claimed'
  exact orderly.unique flightId' flightId flight' flight owner held' held drawn owned

/-- What a claim that stands keeps, unless its own refresh swaps. -/
theorem Row.claim_step (orderly : Orderly w) {flightId : FlightId} {flight : Flight}
    {owner : OwnerHash} (held : w.flights.lookup flightId = some flight)
    (owned : flight.ownerHash = some owner)
    (rests : (∃ session refreshed, flight.phase = .swapping session refreshed) →
      ∀ answer, event ≠ .flight flightId answer) {P Q : SessionRow → Prop}
    (stands : Row w cookieValue fun row => row.closed w.now = true ∨
      row.refreshOwnerHash = some owner ∧ P row)
    (keep : ∀ row row' : SessionRow, row'.sessionVersion = row.sessionVersion → P row → Q row') :
    Row (w.step config event) cookieValue fun row =>
      row.closed (w.step config event).now = true ∨ row.refreshOwnerHash = some owner ∧ Q row := by
  refine Row.step stands fun row row' found was move => ?_
  rcases was with closed | ⟨claimed, extra⟩
  · exact .inl (move.closed closed (access_later config w event).now)
  · cases move with
    | same | touched | revoked => exact .inr ⟨claimed, keep row _ rfl extra⟩
    | claimed _ _ _ claimable =>
      obtain ⟨-, live, -⟩ := of_decide_eq_true claimable
      have both := (orderly.claims _ row found live).1
      rw [claimed] at both
      obtain ⟨startedAt, started⟩ := Option.isSome_iff_exists.mp both.symm
      rw [orderly.not_claimable found started] at claimable
      cases claimable
    | swapped held' phase _ swappable =>
      obtain rfl := orderly.swaps_own held owned held' claimed swappable
      rw [held] at held'
      cases held'
      exact absurd rfl (rests ⟨_, _, phase⟩ _)

theorem Stands.step (orderly : Orderly w) {flightId : FlightId} {flight : Flight} {version : Nat}
    (held : w.flights.lookup flightId = some flight)
    (rests : (∃ session refreshed, flight.phase = .swapping session refreshed) →
      ∀ answer, event ≠ .flight flightId answer)
    (stands : Stands w cookieValue flight.ownerHash version) :
    Stands (w.step config event) cookieValue flight.ownerHash version := by
  obtain ⟨owner, owned, row⟩ := stands
  exact ⟨owner, owned, Row.claim_step orderly held owned rests row
    fun _ _ same version => same.trans version⟩

theorem Stands.owns {ownerHash : Option OwnerHash} {version : Nat}
    (stands : Stands w cookieValue ownerHash version) : Owns w cookieValue ownerHash := by
  obtain ⟨owner, owned, row⟩ := stands
  exact ⟨owner, owned, row.mono fun _ _ was => was.imp id And.left⟩

theorem Owns.step (orderly : Orderly w) {flightId : FlightId} {flight : Flight}
    (held : w.flights.lookup flightId = some flight) (ended : flight.phase.ended = true)
    (owns : Owns w cookieValue flight.ownerHash) :
    Owns (w.step config event) cookieValue flight.ownerHash := by
  obtain ⟨owner, owned, row⟩ := owns
  have idle : (∃ session refreshed, flight.phase = .swapping session refreshed) →
      ∀ answer, event ≠ .flight flightId answer := by
    rintro ⟨session, refreshed, phase⟩
    rw [phase] at ended
    cases ended
  have kept := @Row.claim_step config w event cookieValue orderly flightId flight owner held owned
    idle (fun _ => True) (fun _ => True) (row.mono fun _ _ was => was.imp id fun own => ⟨own, trivial⟩)
    fun _ _ _ _ => trivial
  exact ⟨owner, owned, kept.mono fun _ _ was => was.imp id And.left⟩

theorem SoundRead.step (orderly : Orderly w) {read : Read} (sound : SoundRead w cookieValue read) :
    SoundRead (w.step config event) cookieValue read := by
  cases read with
  | selecting => exact sound.trans_le (access_later config w event).nextCookie
  | received row =>
    cases row with
    | none => exact Gone.step sound
    | some row =>
      obtain ⟨soundRow, past, revoked⟩ := sound
      exact ⟨soundRow, past.step orderly, fun was => (revoked was).step⟩
  | touching session => exact Past.step orderly sound
  | done => exact sound

theorem Late.step {session : AuthenticatedSession} {read : Read} (late : Late w session read) :
    Late (w.step config event) session read := by
  cases read with
  | received row =>
    cases row with
    | none => exact trivial
    | some row =>
      refine late.imp (fun closed => ?_) id
      exact RowMove.closed (.same event row : RowMove w 0 event row row) closed
        (access_later config w event).now
  | selecting | touching | done => exact late

/-- A refresh that rests stays sound. -/
theorem SoundPhase.step (orderly : Orderly w) {flightId : FlightId} {flight : Flight}
    (held : w.flights.lookup flightId = some flight)
    (rests : ∀ answer, event ≠ .flight flightId answer) :
    SoundPhase (w.step config event) flight.cookieValue flight.ownerHash flight.phase := by
  have sound := orderly.flights flightId flight held
  have later := (access_later config w event).now
  cases phase : flight.phase with
  | reading read =>
    rw [phase] at sound
    exact SoundRead.step orderly sound
  | claiming session =>
    rw [phase] at sound
    exact Past.step orderly sound
  | sleeping session attempt wakeAt =>
    rw [phase] at sound
    obtain ⟨past, few, since, due, beaten⟩ := sound
    exact ⟨past.step orderly, few, since, due, beaten.step orderly past⟩
  | polling session attempt read =>
    rw [phase] at sound
    obtain ⟨past, few, read, ⟨since, due, beaten⟩, late⟩ := sound
    exact ⟨past.step orderly, few, read.step orderly,
      ⟨since, due.trans later, beaten.step orderly past⟩, fun last => (late last).step⟩
  | exchanging session startedAt =>
    rw [phase] at sound
    obtain ⟨past, refreshable, stands⟩ := sound
    exact ⟨past.step orderly, refreshable, stands.step orderly held fun _ => rests⟩
  | swapping session refreshed =>
    rw [phase] at sound
    obtain ⟨past, refreshable, stands, rest⟩ := sound
    exact ⟨past.step orderly, refreshable, stands.step orderly held fun _ => rests, rest⟩
  | conflicted session read =>
    rw [phase] at sound
    exact ⟨sound.1.step, blind_mono later sound.2⟩
  | deferring =>
    rw [phase] at sound
    exact sound
  | finished resolution =>
    rw [phase] at sound
    cases resolution with
    | valid | refreshed => exact trivial
    | authenticationRequired =>
      exact sound.imp (fun spent => spent.step orderly) fun owns =>
        owns.step orderly held (by rw [phase]; rfl)

/-! ### Reads -/

theorem outcome_found {row : SessionRow} {now : Timestamp} {session : AuthenticatedSession}
    (found : row.outcome config now = .found session) :
    row.closed now = false ∧ session = row.encryptedPayload := by
  have unclosed : row.closed now = false := by
    by_contra closed
    exact outcome_closed ((Bool.not_eq_false _).mp closed) session found
  refine ⟨unclosed, ?_⟩
  unfold SessionRow.outcome at found
  split at found
  · cases found
  · split at found
    · cases found
    · split at found
      · cases found
      · unfold decodePayload at found
        by_cases valid : isAuthenticatedSession row.encryptedPayload = true
        · simp only [valid, if_true] at found
          split at found
          · cases found
          · cases found
            rfl
        · simp only [valid] at found
          cases found

/-- A row that can be read, is not closed and has not idled is found. -/
theorem outcome_unfound {row : SessionRow} {now : Timestamp} (sound : SoundRow row)
    (used : row.idled config now = false)
    (unfound : ∀ session, row.outcome config now ≠ .found session) : row.closed now = true := by
  refine closed_iff.mpr ?_
  by_cases revoked : row.revokedAt = none
  · refine .inr ?_
    have expired : row.sessionExpiresAt / 1000 ≤ dateNow now := by
      by_contra unexpired
      refine unfound row.encryptedPayload ?_
      unfold SessionRow.outcome decodePayload
      rw [revoked, if_neg (by decide), if_neg unexpired, used, if_neg (by decide), sound.valid,
        if_pos rfl]
      exact if_neg (not_ne_iff.mpr sound.sealed.symm)
    rw [sound.expiry] at expired ⊢
    unfold dateNow at expired
    unfold seconds at expired ⊢
    have scale : row.encryptedPayload.sessionExpiresAt * 1000000 / 1000 =
        row.encryptedPayload.sessionExpiresAt * 1000 := by
      rw [show (1000000 : Nat) = 1000 * 1000 from rfl, ← Nat.mul_assoc]
      exact Nat.mul_div_cancel _ (by decide)
    rw [scale] at expired
    have whole := (Nat.le_div_iff_mul_le (by decide)).mp expired
    rw [Nat.mul_assoc] at whole
    exact whole
  · exact .inl revoked

/-- The payload of a row is, or was, that of its session. -/
theorem Orderly.past_row (orderly : Orderly w) {row : SessionRow}
    (found : w.sessions.lookup cookieValue = some row) :
    SoundRow row ∧ Past w cookieValue row.encryptedPayload := by
  obtain ⟨issued, sound⟩ := orderly.rows cookieValue row found
  refine ⟨sound, ⟨issued, fun row' found' => ?_⟩, fun unrefreshable => ⟨issued, fun row' found' => ?_⟩⟩
  · rw [found] at found'
    cases found'
    exact ⟨sound.expiry, sound.sealed.ge, fun _ => rfl⟩
  · rw [found] at found'
    cases found'
    exact .inr unrefreshable

/-- What a sound read comes to. -/
theorem read_next (orderly : Orderly w) {read : Read} (sound : SoundRead w cookieValue read)
    (used : ∀ row ∈ read.answer, row.idled config w.now = false) :
    (∃ session, read.next config w.now cookieValue w.sessions = .done (.found session) ∧
        Past w cookieValue session) ∨
      (∃ result, read.next config w.now cookieValue w.sessions = .done result ∧
        (∀ session, result ≠ .found session) ∧ Gone w cookieValue) ∨
      ((∀ result, read.next config w.now cookieValue w.sessions ≠ .done result) ∧
        SoundRead w cookieValue (read.next config w.now cookieValue w.sessions)) := by
  cases read with
  | selecting =>
    refine .inr (.inr ⟨fun result ended => (by cases ended), ?_⟩)
    show SoundRead w cookieValue (.received (w.sessions.lookup cookieValue))
    cases found : w.sessions.lookup cookieValue with
    | none =>
      refine ⟨sound, fun row there => ?_⟩
      rw [found] at there
      cases there
    | some row =>
      obtain ⟨soundRow, past⟩ := orderly.past_row found
      refine ⟨soundRow, past, fun revoked => ⟨past.row.1, fun row' there => ?_⟩⟩
      rw [found] at there
      cases there
      exact closed_iff.mpr (.inl revoked)
  | received row =>
    cases row with
    | none => exact .inr (.inl ⟨.notFound, rfl, fun session found => (by cases found), sound⟩)
    | some row =>
      obtain ⟨soundRow, past, revoked⟩ := sound
      by_cases unfound : ∀ session, row.outcome config w.now ≠ .found session
      · have gone : Gone w cookieValue := by
          rcases closed_iff.mp (outcome_unfound soundRow (used row rfl) unfound) with was | expired
          · exact revoked was
          · refine past.row.mono fun row' _ same => closed_iff.mpr (.inr ?_)
            rw [same.1, ← soundRow.expiry]
            exact expired
        exact .inr (.inl ⟨row.outcome config w.now, next_unfound unfound, unfound, gone⟩)
      · obtain ⟨session, found⟩ := not_forall_not.mp unfound
        obtain ⟨-, rfl⟩ := outcome_found found
        rw [next_found found]
        by_cases idles : config.idleTimeoutSeconds.isSome = true
        · rw [if_pos idles]
          exact .inr (.inr ⟨fun result ended => (by cases ended), past⟩)
        · rw [if_neg idles]
          exact .inl ⟨_, rfl, past⟩
  | touching session => exact .inl ⟨session, rfl, sound⟩
  | done => exact sound.elim

/-- A last poll that has seen what is closed or later finds what is later. -/
theorem late_next {session : AuthenticatedSession} {read : Read}
    (sound : SoundRead w cookieValue read) (late : Late w session read)
    (due : read = .selecting → ∀ row, w.sessions.lookup cookieValue = some row →
      row.closed w.now = true ∨ session.sessionVersion < row.sessionVersion) :
    (∀ winner, read.next config w.now cookieValue w.sessions = .done (.found winner) →
        session.sessionVersion < winner.sessionVersion) ∧
      Late w session (read.next config w.now cookieValue w.sessions) := by
  cases read with
  | selecting =>
    refine ⟨fun winner found => (by cases found), ?_⟩
    show Late w session (.received (w.sessions.lookup cookieValue))
    cases found : w.sessions.lookup cookieValue with
    | none => exact trivial
    | some row => exact due rfl row found
  | received row =>
    cases row with
    | none => exact ⟨fun winner found => (by cases found), trivial⟩
    | some row =>
      have newer : ∀ winner, row.outcome config w.now = .found winner →
          session.sessionVersion < winner.sessionVersion := by
        intro winner found
        obtain ⟨unclosed, rfl⟩ := outcome_found found
        rcases late with closed | later
        · rw [unclosed] at closed
          cases closed
        · rw [← sound.1.sealed]
          exact later
      by_cases unfound : ∀ winner, row.outcome config w.now ≠ .found winner
      · rw [next_unfound unfound]
        exact ⟨fun winner same => absurd (Read.done.inj same) (unfound winner), trivial⟩
      · obtain ⟨winner, found⟩ := not_forall_not.mp unfound
        rw [next_found found]
        by_cases idles : config.idleTimeoutSeconds.isSome = true
        · rw [if_pos idles]
          exact ⟨fun winner' same => (by cases same), newer winner found⟩
        · rw [if_neg idles]
          refine ⟨fun winner' same => ?_, trivial⟩
          cases same
          exact newer winner found
  | touching winner =>
    refine ⟨fun winner' same => ?_, trivial⟩
    cases same
    exact late
  | done => exact sound.elim

/-! ### The step of a refresh -/

theorem Gone.spent (gone : Gone w cookieValue) : Spent w cookieValue :=
  gone.mono fun _ _ closed => .inl closed

theorem failure_sound {ownerHash : Option OwnerHash} (gone : Gone w cookieValue)
    (result : SessionReadResult) : SoundPhase w cookieValue ownerHash result.failure := by
  cases result <;> exact .inl gone.spent

section

variable {flightId : FlightId} {flight : Flight} {answer : GrantAnswer}

/-- What the statement of a refresh answers. -/
theorem executed_flight (held : w.flights.lookup flightId = some flight) {statement : Statement}
    (runs : flight.statement w.nextOwner = some statement) :
    w.executed (.flight flightId answer) = statement.exec w.now w.sessions := by
  simp only [AccessWorld.executed, AccessWorld.statement, held, Option.bind_some, runs]

theorem claim_runs {session : AuthenticatedSession} (phase : flight.phase = .claiming session) :
    flight.statement w.nextOwner =
      some (.claim flight.cookieValue session.sessionVersion w.nextOwner) := by
  unfold Flight.statement
  rw [phase]

theorem swap_runs {session refreshed : AuthenticatedSession}
    (phase : flight.phase = .swapping session refreshed) :
    flight.statement w.nextOwner =
      some (.swap flight.cookieValue session.sessionVersion refreshed flight.ownerHash) := by
  unfold Flight.statement
  rw [phase]

/-- A claim that succeeds stands on the version that it expects. -/
theorem claim_stands (held : w.flights.lookup flightId = some flight)
    {session : AuthenticatedSession} (phase : flight.phase = .claiming session)
    (past : Past w flight.cookieValue session)
    (written : (w.executed (.flight flightId answer)).1 = true) :
    Stands (w.step config (.flight flightId answer)) flight.cookieValue (some w.nextOwner)
      session.sessionVersion := by
  have executed := @executed_flight w flightId flight answer held _ (claim_runs phase)
  refine ⟨w.nextOwner, rfl, past.row.1.trans_le (access_later ..).nextCookie,
    fun row' found' => .inr ?_⟩
  rw [access_sessions] at found'
  rw [executed] at written found'
  simp only [Statement.exec, updateWhere] at written found'
  split at written
  · cases written
  · rename_i row found
    split at written
    · rename_i claimable
      simp only [found, claimable, if_true, AList.lookup_insert] at found'
      cases found'
      exact ⟨rfl, (of_decide_eq_true claimable).1⟩
    · cases written

/-- A claim that fails is beaten. -/
theorem claim_beaten (orderly : Orderly w) (held : w.flights.lookup flightId = some flight)
    {session : AuthenticatedSession} (phase : flight.phase = .claiming session)
    (past : Past w flight.cookieValue session)
    (unwritten : (w.executed (.flight flightId answer)).1 = false) :
    Beaten w flight.cookieValue session w.now := by
  have executed := @executed_flight w flightId flight answer held _ (claim_runs phase)
  rw [executed] at unwritten
  simp only [Statement.exec, updateWhere] at unwritten
  refine ⟨past.row.1, fun row found => ?_⟩
  simp only [found] at unwritten
  split at unwritten
  · cases unwritten
  · rename_i refused
    by_cases closed : row.closed w.now = true
    · exact .inl closed
    · obtain ⟨live, unexpired⟩ := not_closed_iff.mp ((Bool.not_eq_true _).mp closed)
      by_cases version : row.sessionVersion = session.sessionVersion
      · refine .inr (.inr ?_)
        obtain ⟨both, fresh⟩ := orderly.claims _ row found live
        cases started : row.refreshStartedAt with
        | some startedAt => exact ⟨startedAt, rfl, (fresh startedAt started).1⟩
        | none =>
          rw [started] at both
          have free : row.refreshOwnerHash = none := by
            cases owner : row.refreshOwnerHash with
            | none => rfl
            | some owner =>
              rw [owner] at both
              cases both
          exact absurd (decide_eq_true ⟨version, live, unexpired, .inl free⟩) refused
      · exact .inr (.inl (lt_of_le_of_ne (past.row.2 row found).2.1 (Ne.symm version)))

/-- A swap that fails has no session to swap. -/
theorem swap_gone (held : w.flights.lookup flightId = some flight)
    {session refreshed : AuthenticatedSession} (phase : flight.phase = .swapping session refreshed)
    (stands : Stands w flight.cookieValue flight.ownerHash session.sessionVersion)
    (unwritten : (w.executed (.flight flightId answer)).1 = false) :
    Gone w flight.cookieValue := by
  have executed := @executed_flight w flightId flight answer held _ (swap_runs phase)
  rw [executed] at unwritten
  simp only [Statement.exec, updateWhere] at unwritten
  obtain ⟨owner, owned, row⟩ := stands
  refine row.mono fun row found was => ?_
  rcases was with closed | ⟨claimed, version⟩
  · exact closed
  · by_contra unclosed
    obtain ⟨live, unexpired⟩ := not_closed_iff.mp ((Bool.not_eq_true _).mp unclosed)
    have swappable : row.swappable w.now session.sessionVersion flight.ownerHash = true :=
      swappable_iff.mpr ⟨version, live, unexpired, owner, owned, claimed⟩
    simp only [found, swappable, if_true] at unwritten
    cases unwritten

theorem exchanged_ok {session refreshed : AuthenticatedSession} {now : Nat}
    (exchanged : session.exchanged now answer = .ok refreshed) :
    refreshed.sessionVersion = session.sessionVersion + 1 ∧
      refreshed.sessionExpiresAt = session.sessionExpiresAt ∧ refreshed.accessToken ≠ "" := by
  unfold AuthenticatedSession.exchanged at exchanged
  split at exchanged
  · cases exchanged
  · cases exchanged
  · split at exchanged
    · cases exchanged
    · split at exchanged
      · cases exchanged
      · rename_i wellFormed
        cases exchanged
        exact ⟨rfl, rfl, fun empty => wellFormed (.inl empty)⟩

/-- A session whose absolute expiry has come is closed. -/
theorem Past.gone {session : AuthenticatedSession} (past : Past w cookieValue session)
    (expired : session.sessionExpiresAt ≤ epochSeconds w.now) : Gone w cookieValue := by
  refine past.row.mono fun row _ was => closed_iff.mpr (.inr ?_)
  rw [was.1]
  have micros : session.sessionExpiresAt ≤ w.now / (1000 * 1000) := by
    rw [← Nat.div_div_eq_div_mul]
    exact expired
  exact (Nat.le_div_iff_mul_le (by decide)).mp micros

end

/-- A claim that stands lets the refresh exchange the token, or end soundly. -/
theorem exchange_sound {session : AuthenticatedSession} {ownerHash : Option OwnerHash}
    (past : Past w cookieValue session)
    (stands : Stands w cookieValue ownerHash session.sessionVersion) :
    SoundPhase w cookieValue ownerHash (session.exchange config w.now) := by
  unfold AuthenticatedSession.exchange
  by_cases expired : session.sessionExpiresAt ≤ epochSeconds w.now
  · rw [if_pos expired]
    exact .inl (past.gone expired).spent
  · rw [if_neg expired]
    by_cases valid : epochSeconds w.now + config.refreshSkewSeconds < session.accessTokenExpiresAt
    · rw [if_pos valid]
      exact trivial
    · rw [if_neg valid]
      by_cases refreshable : session.refreshable = true
      · rw [if_pos refreshable]
        exact ⟨past, refreshable, stands⟩
      · rw [if_neg refreshable]
        exact .inl (past.spent ((Bool.not_eq_true _).mp refreshable))

/-- A poll that is not the last goes back to sleep, and the last finds a later version. -/
theorem polled_sound {session winner : AuthenticatedSession} {ownerHash : Option OwnerHash}
    {attempt : Nat} {since : Timestamp} (past : Past w cookieValue session)
    (due : since + (attempt + 1) * refreshWaitInterval ≤ w.now)
    (beaten : Beaten w cookieValue session since) (few : attempt < refreshWaitAttempts)
    (last : attempt + 1 = refreshWaitAttempts → session.sessionVersion < winner.sessionVersion) :
    SoundPhase w cookieValue ownerHash (polled w.now session winner attempt) := by
  unfold polled
  by_cases newer : session.sessionVersion < winner.sessionVersion
  · rw [if_pos newer]
    exact trivial
  · rw [if_neg newer]
    by_cases more : attempt + 1 < refreshWaitAttempts
    · rw [if_pos more]
      refine ⟨past, more, since, ?_, beaten⟩
      rw [Nat.add_mul _ 1, Nat.one_mul, ← Nat.add_assoc]
      exact Nat.add_le_add_right due _
    · exact absurd (last (Nat.le_antisymm few (Nat.not_lt.mp more))) newer

/-- The step of a refresh keeps it sound. -/
theorem phase_next (orderly : Orderly w) {flightId : FlightId} {flight : Flight}
    {answer : GrantAnswer} (held : w.flights.lookup flightId = some flight)
    (timely : Timely config w (.flight flightId answer)) :
    SoundPhase (w.step config (.flight flightId answer)) flight.cookieValue
      (if flight.phase.claims then some w.nextOwner else flight.ownerHash)
      (flight.phase.next config w.now w.sessions (w.executed (.flight flightId answer)).1
        flight.cookieValue answer) := by
  have sound := orderly.flights flightId flight held
  have used := timely flight held
  have still : (w.step config (.flight flightId answer)).now = w.now := access_still nofun
  cases phase : flight.phase with
  | reading read =>
    rw [phase] at sound used
    obtain ⟨session, next, past⟩ | ⟨result, next, unfound, gone⟩ | ⟨unfinished, sound⟩ :=
      read_next orderly sound used
    · simp only [FlightPhase.next, next]
      exact past.step orderly
    · simp only [FlightPhase.next, next]
      cases result with
      | found session => exact absurd rfl (unfound session)
      | notFound | expired | revoked => exact failure_sound gone.step _
    · have sound' := @SoundRead.step config w (.flight flightId answer) _ orderly _ sound
      simp only [FlightPhase.next]
      generalize read.next config w.now flight.cookieValue w.sessions = read' at unfinished sound'
      cases read' with
      | done result => exact absurd rfl (unfinished result)
      | selecting | received | touching => exact sound'
  | claiming session =>
    rw [phase] at sound
    simp only [FlightPhase.next]
    cases written : (w.executed (.flight flightId answer)).1 with
    | true =>
      rw [if_pos rfl, if_pos (show FlightPhase.claims (.claiming session) = true from rfl), ← still]
      exact exchange_sound (Past.step orderly sound) (claim_stands held phase sound written)
    | false =>
      have beaten := claim_beaten orderly held phase sound written
      rw [if_neg Bool.false_ne_true]
      refine ⟨Past.step orderly sound, by decide, w.now, ?_, beaten.step orderly sound⟩
      rw [Nat.zero_add, Nat.one_mul]
  | sleeping session attempt wakeAt =>
    rw [phase] at sound
    obtain ⟨past, few, since, due, beaten⟩ := sound
    simp only [FlightPhase.next]
    by_cases asleep : w.now < wakeAt
    · rw [if_pos asleep]
      exact ⟨past.step orderly, few, since, due, beaten.step orderly past⟩
    · rw [if_neg asleep]
      refine ⟨past.step orderly, few, (past.step orderly).row.1,
        ⟨since, ?_, beaten.step orderly past⟩, fun _ => trivial⟩
      rw [still]
      exact due.trans (Nat.not_lt.mp asleep)
  | polling session attempt read =>
    rw [phase] at sound used
    obtain ⟨past, few, soundRead, ⟨since, due, beaten⟩, late⟩ := sound
    have newest : attempt + 1 = refreshWaitAttempts → read = .selecting →
        ∀ row, w.sessions.lookup flight.cookieValue = some row →
          row.closed w.now = true ∨ session.sessionVersion < row.sessionVersion := by
      intro last _ row found
      rcases beaten.2 row found with closed | later | ⟨startedAt, started, early⟩
      · exact .inl closed
      · exact .inr later
      · by_cases closed : row.closed w.now = true
        · exact .inl closed
        · -- the claim that has beaten this refresh would have stood as long as it has waited
          obtain ⟨live, -⟩ := not_closed_iff.mp ((Bool.not_eq_true _).mp closed)
          have recent := ((orderly.claims _ row found live).2 startedAt started).2
          rw [last] at due
          have waited := (Nat.add_le_add_right early refreshWait).trans due
          exact absurd recent (Nat.not_lt.mpr waited)
    have last := fun last => @late_next config w _ session read soundRead (late last) (newest last)
    obtain ⟨winner, next, -⟩ | ⟨result, next, unfound, gone⟩ | ⟨unfinished, soundRead'⟩ :=
      read_next orderly soundRead used
    · simp only [FlightPhase.next, next]
      rw [← still]
      refine polled_sound (past.step orderly) ?_ (beaten.step orderly past) few fun isLast =>
        (last isLast).1 winner next
      rw [still]
      exact due
    · simp only [FlightPhase.next, next]
      cases result with
      | found session => exact absurd rfl (unfound session)
      | notFound | expired | revoked => exact failure_sound gone.step _
    · have sound' := @SoundRead.step config w (.flight flightId answer) _ orderly _ soundRead'
      have late' := fun isLast => @Late.step config w (.flight flightId answer) _ _ (last isLast).2
      simp only [FlightPhase.next]
      generalize read.next config w.now flight.cookieValue w.sessions = read' at unfinished sound' late'
      have due' := due.trans (access_later config w (.flight flightId answer)).now
      cases read' with
      | done result => exact absurd rfl (unfinished result)
      | selecting | received | touching =>
        exact ⟨past.step orderly, few, sound', ⟨since, due', beaten.step orderly past⟩, late'⟩
  | exchanging session startedAt =>
    rw [phase] at sound
    obtain ⟨past, refreshable, stands⟩ := sound
    have unswapping : (∃ session refreshed, flight.phase = .swapping session refreshed) →
        ∀ answer', AccessEvent.flight flightId answer ≠ .flight flightId answer' := by
      rintro ⟨_, _, other⟩
      rw [phase] at other
      cases other
    have stands' := @Stands.step config w (.flight flightId answer) _ orderly flightId flight _ held
      unswapping stands
    simp only [FlightPhase.next]
    rw [if_neg (show ¬FlightPhase.claims (.exchanging session startedAt) = true from Bool.false_ne_true)]
    cases exchanged : session.exchanged startedAt answer with
    | error errorCode => exact .inr stands'.owns
    | ok refreshed => exact ⟨past.step orderly, refreshable, stands', exchanged_ok exchanged⟩
  | swapping session refreshed =>
    rw [phase] at sound
    obtain ⟨past, refreshable, stands, -⟩ := sound
    simp only [FlightPhase.next]
    cases written : (w.executed (.flight flightId answer)).1 with
    | true => exact trivial
    | false => exact ⟨(swap_gone held phase stands written).step, trivial⟩
  | conflicted session read =>
    rw [phase] at sound
    obtain ⟨gone, blind⟩ := sound
    have blind' := @blind_next config _ w.now w.sessions gone.2 read blind
    simp only [FlightPhase.next]
    generalize read.next config w.now flight.cookieValue w.sessions = read' at blind'
    cases read' with
    | done result =>
      cases result with
      | found session => exact absurd rfl (blind' session)
      | notFound | expired | revoked => exact .inl gone.step.spent
    | touching => exact blind'.elim
    | selecting => exact ⟨gone.step, trivial⟩
    | received row =>
      refine ⟨gone.step, ?_⟩
      rw [still]
      exact blind'
  | deferring =>
    rw [phase] at sound
    exact sound.elim
  | finished resolution =>
    rw [phase] at sound
    cases resolution with
    | valid | refreshed => exact trivial
    | authenticationRequired =>
      exact sound.imp (fun spent => spent.step orderly) fun owns =>
        owns.step orderly held (by rw [phase]; rfl)

end CyberLegends.Auth
