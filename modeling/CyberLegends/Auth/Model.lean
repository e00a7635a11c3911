import CyberLegends.Core.Config
import CyberLegends.Core.Constants
import CyberLegends.Lib.Table

/-! The sessions of a frontend that signs in with an identity provider: what a session holds, the
table of sessions that all replicas share, and the statements that read and write it. -/

namespace CyberLegends.Auth

open CyberLegends.Core Lib

/-- The value of a session cookie, 32 random bytes. A row is stored under a digest of it. -/
abbrev CookieValue := Nat

/-- The random name under which a session is claimed for a refresh. -/
abbrev OwnerHash := Nat

/-- The configuration of sessions, with the ranges that it is checked against. -/
structure OidcSessionConfig where
  sessionMaxAgeSeconds : Nat := 36000
  refreshSkewSeconds : Nat := 90
  idleTimeoutSeconds : Option Nat := none
  sessionMaxAgeSeconds_range : 30 ≤ sessionMaxAgeSeconds ∧ sessionMaxAgeSeconds ≤ 43200 := by decide
  refreshSkewSeconds_range : 1 ≤ refreshSkewSeconds ∧ refreshSkewSeconds ≤ 600 := by decide
  refreshSkewSeconds_shorter : refreshSkewSeconds < sessionMaxAgeSeconds := by decide
  idleTimeoutSeconds_range : ∀ idle ∈ idleTimeoutSeconds,
    60 ≤ idle ∧ idle ≤ sessionMaxAgeSeconds := by decide

/-- The clock of the runtime, in milliseconds. -/
def dateNow (now : Timestamp) : Nat := now / 1000

/-- The whole seconds of the clock of the runtime. -/
def epochSeconds (now : Timestamp) : Nat := dateNow now / 1000

/-- The payload of a session, its times in seconds. -/
structure AuthenticatedSession where
  actorId : String
  actorRole : UserRole
  accessToken : String
  refreshToken : Option String := none
  idToken : Option String := none
  accessTokenExpiresAt : Nat
  sessionExpiresAt : Nat
  createdAt : Nat
  refreshedAt : Option Nat := none
  sessionVersion : Nat
  deriving DecidableEq, Repr

/-- What the types of the fields leave open. -/
def isAuthenticatedSession (session : AuthenticatedSession) : Bool :=
  session.accessToken ≠ "" ∧ 1 ≤ session.sessionVersion

/-- A row of the table. The payload stands for its ciphertext, which every replica can open. -/
structure SessionRow where
  encryptedPayload : AuthenticatedSession
  actorId : String
  actorRole : UserRole
  accessTokenExpiresAt : Timestamp
  sessionExpiresAt : Timestamp
  createdAt : Timestamp
  updatedAt : Timestamp
  lastRefreshedAt : Option Timestamp := none
  sessionVersion : Nat
  refreshOwnerHash : Option OwnerHash := none
  refreshStartedAt : Option Timestamp := none
  revokedAt : Option Timestamp := none
  deriving DecidableEq, Repr

abbrev Sessions := Table CookieValue SessionRow

def decodePayload (payload : AuthenticatedSession) : Option AuthenticatedSession :=
  if isAuthenticatedSession payload then some payload else none

/-! ### Conditions on a row -/

namespace SessionRow

variable (now : Timestamp) (row : SessionRow)

/-- Nobody can use the session any more. -/
def closed : Bool := row.revokedAt.isSome ∨ row.sessionExpiresAt ≤ now

/-- The condition of `claimRefresh`. -/
def claimable (expectedVersion : Nat) : Bool :=
  row.sessionVersion = expectedVersion ∧ row.revokedAt = none ∧ now < row.sessionExpiresAt ∧
    (row.refreshOwnerHash = none ∨
      row.refreshStartedAt.any fun startedAt => startedAt + seconds 20 < now)

/-- The condition of `compareAndSwapRefresh`; a missing owner equals no owner. -/
def swappable (expectedVersion : Nat) (ownerHash : Option OwnerHash) : Bool :=
  row.sessionVersion = expectedVersion ∧ row.revokedAt = none ∧ now < row.sessionExpiresAt ∧
    ownerHash.any fun owner => row.refreshOwnerHash = some owner

/-- The condition under which a read renews the time of the last activity. -/
def touchable (expectedVersion : Nat) : Bool :=
  row.sessionVersion = expectedVersion ∧ row.revokedAt = none

/-- The condition of `deleteExpiredSessions`. -/
def deletable : Bool :=
  row.sessionExpiresAt ≤ now ∨ row.revokedAt.any fun revokedAt => revokedAt + seconds 86400 < now

end SessionRow

/-! ### Statements -/

/-- A statement of the session store, each a transaction of its own. -/
inductive Statement
  | insert (cookieValue : CookieValue) (session : AuthenticatedSession)
  | touch (cookieValue : CookieValue) (expectedVersion : Nat)
  | claim (cookieValue : CookieValue) (expectedVersion : Nat) (ownerHash : OwnerHash)
  | swap (cookieValue : CookieValue) (expectedVersion : Nat) (session : AuthenticatedSession)
    (ownerHash : Option OwnerHash)
  | revoke (cookieValue : CookieValue)
  | deleteExpired (limit : Int)
  deriving DecidableEq, Repr

/-- Writes the row under a cookie where it meets the condition, and tells whether it did. -/
def updateWhere (cookieValue : CookieValue) (condition : SessionRow → Bool)
    (write : SessionRow → SessionRow) (sessions : Sessions) : Bool × Sessions :=
  match sessions.lookup cookieValue with
  | none => (false, sessions)
  | some row =>
    if condition row then (true, sessions.insert cookieValue (write row)) else (false, sessions)

/-- The row that `createSession` inserts. -/
def AuthenticatedSession.newRow (session : AuthenticatedSession) (now : Timestamp) : SessionRow where
  encryptedPayload := session
  actorId := session.actorId
  actorRole := session.actorRole
  accessTokenExpiresAt := seconds session.accessTokenExpiresAt
  sessionExpiresAt := seconds session.sessionExpiresAt
  createdAt := seconds session.createdAt
  updatedAt := now
  sessionVersion := session.sessionVersion

/-- The expired rows that `deleteExpiredSessions` selects. -/
def expiredSelection (now : Timestamp) (limit : Int) (sessions : Sessions) : List CookieValue :=
  sessions.select (fun _ row => row.deletable now)
    (fun a b => a.2.sessionExpiresAt ≤ b.2.sessionExpiresAt) (max 1 (min limit 1000)).toNat

/-- Runs a statement and tells whether it has written a row. -/
def Statement.exec (now : Timestamp) (sessions : Sessions) : Statement → Bool × Sessions
  | insert cookieValue session =>
    -- the primary key and the check constraints
    if cookieValue ∈ sessions ∨ session.sessionVersion < 1 ∨
        session.sessionExpiresAt ≤ session.createdAt then (false, sessions)
    else (true, sessions.insert cookieValue (session.newRow now))
  | touch cookieValue expectedVersion =>
    updateWhere cookieValue (fun row => row.touchable expectedVersion)
      (fun row => { row with updatedAt := now }) sessions
  | claim cookieValue expectedVersion ownerHash =>
    updateWhere cookieValue (fun row => row.claimable now expectedVersion)
      (fun row => { row with
        refreshOwnerHash := some ownerHash, refreshStartedAt := some now, updatedAt := now })
      sessions
  | swap cookieValue expectedVersion session ownerHash =>
    updateWhere cookieValue (fun row => row.swappable now expectedVersion ownerHash)
      (fun row => { row with
        encryptedPayload := session
        accessTokenExpiresAt := seconds session.accessTokenExpiresAt
        updatedAt := now
        lastRefreshedAt := session.refreshedAt.map seconds
        sessionVersion := session.sessionVersion
        refreshOwnerHash := none
        refreshStartedAt := none })
      sessions
  | revoke cookieValue =>
    updateWhere cookieValue (fun row => row.revokedAt = none)
      (fun row => { row with revokedAt := some (row.revokedAt.getD now), updatedAt := now })
      sessions
  | deleteExpired limit =>
    let expired := expiredSelection now limit sessions
    (!expired.isEmpty, sessions.keep fun cookieValue _ => !expired.contains cookieValue)

/-- What a statement does to the row under a cookie. -/
inductive RowStep (now : Timestamp) (cookieValue : CookieValue) :
    Statement → Option SessionRow → Option SessionRow → Prop
  | same (statement row) : RowStep now cookieValue statement row row
  | inserted (session : AuthenticatedSession) (version : 1 ≤ session.sessionVersion) :
      RowStep now cookieValue (.insert cookieValue session) none (some (session.newRow now))
  | touched {row expectedVersion} (touchable : row.touchable expectedVersion = true) :
      RowStep now cookieValue (.touch cookieValue expectedVersion) (some row)
        (some { row with updatedAt := now })
  | claimed {row expectedVersion} (ownerHash : OwnerHash)
      (claimable : row.claimable now expectedVersion = true) :
      RowStep now cookieValue (.claim cookieValue expectedVersion ownerHash) (some row)
        (some { row with
          refreshOwnerHash := some ownerHash, refreshStartedAt := some now, updatedAt := now })
  | swapped {row expectedVersion ownerHash} (session : AuthenticatedSession)
      (swappable : row.swappable now expectedVersion ownerHash = true) :
      RowStep now cookieValue (.swap cookieValue expectedVersion session ownerHash) (some row)
        (some { row with
          encryptedPayload := session
          accessTokenExpiresAt := seconds session.accessTokenExpiresAt
          updatedAt := now
          lastRefreshedAt := session.refreshedAt.map seconds
          sessionVersion := session.sessionVersion
          refreshOwnerHash := none
          refreshStartedAt := none })
  | revoked {row : SessionRow} (live : row.revokedAt = none) :
      RowStep now cookieValue (.revoke cookieValue) (some row)
        (some { row with revokedAt := some now, updatedAt := now })
  | deleted {row : SessionRow} {limit} (deletable : row.deletable now = true) :
      RowStep now cookieValue (.deleteExpired limit) (some row) none

theorem updateWhere_lookup {cookieValue : CookieValue} {condition : SessionRow → Bool}
    {write : SessionRow → SessionRow} {sessions : Sessions} (other : CookieValue) :
    (updateWhere cookieValue condition write sessions).2.lookup other = sessions.lookup other ∨
      ∃ row, other = cookieValue ∧ sessions.lookup cookieValue = some row ∧
        condition row = true ∧
          (updateWhere cookieValue condition write sessions).2.lookup other = some (write row) := by
  unfold updateWhere
  cases held : sessions.lookup cookieValue with
  | none => exact .inl rfl
  | some row =>
    by_cases met : condition row = true
    · simp only [met, if_true]
      by_cases same : other = cookieValue
      · subst same
        exact .inr ⟨row, rfl, rfl, met, AList.lookup_insert _⟩
      · exact .inl (AList.lookup_insert_ne same)
    · simp only [met]
      exact .inl rfl

theorem exec_row (now : Timestamp) (sessions : Sessions) (statement : Statement)
    (cookieValue : CookieValue) :
    RowStep now cookieValue statement (sessions.lookup cookieValue)
      ((statement.exec now sessions).2.lookup cookieValue) := by
  cases statement with
  | insert target session =>
    simp only [Statement.exec]
    split
    · exact .same _ _
    · rename_i admitted
      obtain ⟨absent, version, -⟩ : target ∉ sessions ∧ ¬session.sessionVersion < 1 ∧ _ := by
        simpa only [not_or] using admitted
      by_cases same : cookieValue = target
      · subst same
        rw [AList.lookup_insert, AList.lookup_eq_none.mpr absent]
        exact .inserted session (by omega)
      · rw [AList.lookup_insert_ne same]
        exact .same _ _
  | touch target expectedVersion =>
    simp only [Statement.exec]
    obtain same | ⟨row, rfl, held, met, written⟩ := @updateWhere_lookup target
      (fun row => row.touchable expectedVersion) (fun row => { row with updatedAt := now })
      sessions cookieValue
    · rw [same]
      exact .same _ _
    · rw [held, written]
      exact .touched met
  | claim target expectedVersion ownerHash =>
    simp only [Statement.exec]
    obtain same | ⟨row, rfl, held, met, written⟩ := @updateWhere_lookup target
      (fun row => row.claimable now expectedVersion) (fun row => { row with
        refreshOwnerHash := some ownerHash, refreshStartedAt := some now, updatedAt := now })
      sessions cookieValue
    · rw [same]
      exact .same _ _
    · rw [held, written]
      exact .claimed ownerHash met
  | swap target expectedVersion session ownerHash =>
    simp only [Statement.exec]
    obtain same | ⟨row, rfl, held, met, written⟩ := @updateWhere_lookup target
      (fun row => row.swappable now expectedVersion ownerHash) (fun row => { row with
        encryptedPayload := session
        accessTokenExpiresAt := seconds session.accessTokenExpiresAt
        updatedAt := now
        lastRefreshedAt := session.refreshedAt.map seconds
        sessionVersion := session.sessionVersion
        refreshOwnerHash := none
        refreshStartedAt := none }) sessions cookieValue
    · rw [same]
      exact .same _ _
    · rw [held, written]
      exact .swapped session met
  | revoke target =>
    simp only [Statement.exec]
    obtain same | ⟨row, rfl, held, met, written⟩ := @updateWhere_lookup target
      (fun row => row.revokedAt = none)
      (fun row => { row with revokedAt := some (row.revokedAt.getD now), updatedAt := now })
      sessions cookieValue
    · rw [same]
      exact .same _ _
    · have live : row.revokedAt = none := of_decide_eq_true met
      rw [held, written, live]
      exact .revoked live
  | deleteExpired limit =>
    simp only [Statement.exec]
    cases held : sessions.lookup cookieValue with
    | none =>
      cases after : (sessions.keep fun cookieValue _ =>
          !(expiredSelection now limit sessions).contains cookieValue).lookup cookieValue with
      | none => exact .same _ _
      | some row =>
        rw [(Table.lookup_keep.mp after).1] at held
        cases held
    | some row =>
      by_cases selected : cookieValue ∈ expiredSelection now limit sessions
      · obtain ⟨row', found, deletable⟩ := Table.mem_select selected
        rw [held] at found
        cases found
        have gone : (sessions.keep fun cookieValue _ =>
            !(expiredSelection now limit sessions).contains cookieValue).lookup cookieValue =
              none := by
          refine Option.eq_none_iff_forall_ne_some.mpr fun row' after => ?_
          have kept := (Table.lookup_keep.mp after).2
          simp [selected] at kept
        rw [gone]
        exact .deleted deletable
      · have kept : (sessions.keep fun cookieValue _ =>
            !(expiredSelection now limit sessions).contains cookieValue).lookup cookieValue =
              some row := Table.lookup_keep.mpr ⟨held, by simpa using selected⟩
        rw [kept]
        exact .same _ _

end CyberLegends.Auth
