import CyberLegends.Auth.Adapter

/-! What one event does to a session, to a refresh in flight and to a call. -/

namespace CyberLegends.Auth

open CyberLegends.Core Lib

variable {config : OidcSessionConfig} {w : AccessWorld} {event : AccessEvent}

/-! ### Sessions -/

theorem awaitFlight_sessions (callId : CallId) (call : AccessCall) :
    (w.awaitFlight callId call).sessions = w.sessions := by
  unfold AccessWorld.awaitFlight
  split <;> rfl

theorem access_sessions : (w.step config event).sessions = (w.executed event).2 := by
  cases event with
  | tick | createSession => rfl
  | getAccessToken =>
    simp only [AccessWorld.step]
    split <;> rfl
  | call callId =>
    simp only [AccessWorld.step]
    cases held : w.calls.lookup callId with
    | none =>
      simp only [AccessWorld.executed, AccessWorld.statement, held]
      rfl
    | some call =>
      simp only [AccessWorld.stepCall]
      split
      · split
        · split
          · rfl
          · exact awaitFlight_sessions ..
        · rfl
        · rfl
      · split <;> rfl
      · rfl
      · rfl
  | flight flightId answer =>
    simp only [AccessWorld.step]
    cases held : w.flights.lookup flightId with
    | none =>
      simp only [AccessWorld.executed, AccessWorld.statement, held]
      rfl
    | some flight => rfl

/-- What an event does to the row under a cookie. -/
inductive SessionChange (w : AccessWorld) (cookieValue : CookieValue) :
    AccessEvent → Option SessionRow → Option SessionRow → Prop
  | same (event : AccessEvent) (row) : SessionChange w cookieValue event row row
  | created (session : AuthenticatedSession) (fresh : cookieValue = w.nextCookie)
      (token : session.accessToken ≠ "") :
      SessionChange w cookieValue (.createSession session) none
        (some (({ session with sessionVersion := 1 } : AuthenticatedSession).newRow w.now))
  | touched {event : AccessEvent} {row : SessionRow} (live : row.revokedAt = none) :
      SessionChange w cookieValue event (some row) (some { row with updatedAt := w.now })
  | claimed {row flightId answer flight session}
      (held : w.flights.lookup flightId = some flight) (phase : flight.phase = .claiming session)
      (target : flight.cookieValue = cookieValue)
      (claimable : row.claimable w.now session.sessionVersion = true) :
      SessionChange w cookieValue (.flight flightId answer) (some row)
        (some { row with
          refreshOwnerHash := some w.nextOwner, refreshStartedAt := some w.now
          updatedAt := w.now })
  | swapped {row flightId answer flight session refreshed}
      (held : w.flights.lookup flightId = some flight)
      (phase : flight.phase = .swapping session refreshed)
      (target : flight.cookieValue = cookieValue)
      (swappable : row.swappable w.now session.sessionVersion flight.ownerHash = true) :
      SessionChange w cookieValue (.flight flightId answer) (some row)
        (some { row with
          encryptedPayload := refreshed
          accessTokenExpiresAt := seconds refreshed.accessTokenExpiresAt
          updatedAt := w.now
          lastRefreshedAt := refreshed.refreshedAt.map seconds
          sessionVersion := refreshed.sessionVersion
          refreshOwnerHash := none
          refreshStartedAt := none })
  | revoked {row : SessionRow} {callId call errorCode}
      (held : w.calls.lookup callId = some call) (phase : call.phase = .revoking errorCode)
      (target : call.cookieValue = cookieValue) (live : row.revokedAt = none) :
      SessionChange w cookieValue (.call callId) (some row)
        (some { row with revokedAt := some w.now, updatedAt := w.now })

theorem access_origin {statement : Statement} (runs : w.statement event = some statement) :
    match statement with
    | .insert cookieValue session => ∃ session₀, event = .createSession session₀ ∧
      session₀.accessToken ≠ "" ∧ cookieValue = w.nextCookie ∧
        session = { session₀ with sessionVersion := 1 }
    | .touch .. => True
    | .claim cookieValue expectedVersion ownerHash => ∃ flightId answer flight session,
      event = .flight flightId answer ∧ w.flights.lookup flightId = some flight ∧
        flight.phase = .claiming session ∧ flight.cookieValue = cookieValue ∧
          expectedVersion = session.sessionVersion ∧ ownerHash = w.nextOwner
    | .swap cookieValue expectedVersion refreshed ownerHash => ∃ flightId answer flight session,
      event = .flight flightId answer ∧ w.flights.lookup flightId = some flight ∧
        flight.phase = .swapping session refreshed ∧ flight.cookieValue = cookieValue ∧
          expectedVersion = session.sessionVersion ∧ ownerHash = flight.ownerHash
    | .revoke cookieValue => ∃ callId call errorCode, event = .call callId ∧
      w.calls.lookup callId = some call ∧ call.phase = .revoking errorCode ∧
        call.cookieValue = cookieValue
    | .deleteExpired _ => False := by
  have reads : ∀ {read : Read} {cookieValue : CookieValue},
      read.statement cookieValue = some statement →
        ∃ expectedVersion, statement = .touch cookieValue expectedVersion := by
    intro read cookieValue touches
    cases read <;> cases touches
    exact ⟨_, rfl⟩
  cases event with
  | tick | getAccessToken => cases runs
  | createSession session =>
    simp only [AccessWorld.statement] at runs
    split at runs
    · cases runs
    · rename_i token
      cases runs
      exact ⟨session, rfl, token, rfl, rfl⟩
  | call callId =>
    obtain ⟨call, held, runs⟩ := Option.bind_eq_some_iff.mp runs
    cases phase : call.phase with
    | reading read =>
      rw [phase] at runs
      obtain ⟨_, rfl⟩ := reads runs
      trivial
    | revoking errorCode =>
      rw [phase] at runs
      cases runs
      exact ⟨callId, call, errorCode, rfl, held, phase, rfl⟩
    | awaiting | done =>
      rw [phase] at runs
      cases runs
  | flight flightId answer =>
    obtain ⟨flight, held, runs⟩ := Option.bind_eq_some_iff.mp runs
    unfold Flight.statement at runs
    cases phase : flight.phase with
    | reading | polling | conflicted | deferring =>
      rw [phase] at runs
      obtain ⟨_, rfl⟩ := reads runs
      trivial
    | claiming session =>
      rw [phase] at runs
      cases runs
      exact ⟨flightId, answer, flight, session, rfl, held, phase, rfl, rfl, rfl⟩
    | swapping session refreshed =>
      rw [phase] at runs
      cases runs
      exact ⟨flightId, answer, flight, session, rfl, held, phase, rfl, rfl, rfl⟩
    | sleeping | exchanging | finished =>
      rw [phase] at runs
      cases runs

theorem session_change (config : OidcSessionConfig) (w : AccessWorld) (event : AccessEvent)
    (cookieValue : CookieValue) :
    SessionChange w cookieValue event (w.sessions.lookup cookieValue)
      ((w.step config event).sessions.lookup cookieValue) := by
  rw [access_sessions]
  cases runs : w.statement event with
  | none =>
    have quiet : (w.executed event).2 = w.sessions := by
      unfold AccessWorld.executed
      rw [runs]
    rw [quiet]
    exact .same _ _
  | some statement =>
    have executed : w.executed event = statement.exec w.now w.sessions := by
      unfold AccessWorld.executed
      rw [runs]
    have origin := access_origin runs
    have step := exec_row w.now w.sessions statement cookieValue
    rw [executed]
    generalize w.sessions.lookup cookieValue = row at step
    generalize (statement.exec w.now w.sessions).2.lookup cookieValue = row' at step
    cases step with
    | same => exact .same _ _
    | touched touchable => exact .touched (of_decide_eq_true touchable).2
    | inserted session version =>
      obtain ⟨session₀, isCreate, token, fresh, same⟩ := origin
      rw [isCreate, same]
      exact .created session₀ fresh token
    | claimed ownerHash claimable =>
      obtain ⟨flightId, answer, flight, session, isFlight, held, phase, target, version, own⟩ := origin
      rw [isFlight, own]
      rw [version] at claimable
      exact .claimed held phase target claimable
    | swapped refreshed swappable =>
      obtain ⟨flightId, answer, flight, session, isFlight, held, phase, target, version, own⟩ := origin
      rw [isFlight]
      rw [version, own] at swappable
      exact .swapped held phase target swappable
    | revoked live =>
      obtain ⟨callId, call, errorCode, isCall, held, phase, target⟩ := origin
      rw [isCall]
      exact .revoked held phase target live
    | deleted => exact origin.elim

/-! ### Refreshes -/

/-- What an event does to a refresh: it begins it, or takes it on. -/
inductive FlightChange (config : OidcSessionConfig) (w : AccessWorld) (flightId : FlightId) :
    AccessEvent → Option Flight → Option Flight → Prop
  | same (event : AccessEvent) (flight)
      (rests : ∀ answer, event = .flight flightId answer → flight = none) :
      FlightChange config w flightId event flight flight
  | started {callId before call} (held : w.calls.lookup callId = some call)
      (fresh : flightId = w.nextFlight)
      (counted : (w.step config (.call callId)).nextFlight = w.nextFlight + 1) :
      FlightChange config w flightId (.call callId) before
        (some { replica := call.replica
                cookieValue := call.cookieValue
                phase := .reading .selecting })
  | proceeds (answer : GrantAnswer) (flight : Flight) :
      FlightChange config w flightId (.flight flightId answer) (some flight)
        (some { flight with
          phase := flight.phase.next config w.now w.sessions
            (w.executed (.flight flightId answer)).1 flight.cookieValue answer
          ownerHash := if flight.phase.claims then some w.nextOwner else flight.ownerHash })

/-- How the step of a call touches the refreshes. -/
theorem stepCall_flights {callId : CallId} {call : AccessCall} (flightId : FlightId) :
    (w.stepCall config callId call).flights.lookup flightId = w.flights.lookup flightId ∨
      flightId = w.nextFlight ∧
        (w.stepCall config callId call).nextFlight = w.nextFlight + 1 ∧
          (w.stepCall config callId call).flights.lookup flightId =
            some { replica := call.replica
                   cookieValue := call.cookieValue
                   phase := .reading .selecting } := by
  have awaits : ∀ sessions, (({ w with sessions } : AccessWorld).awaitFlight callId
      call).flights.lookup flightId = w.flights.lookup flightId ∨
        flightId = w.nextFlight ∧
          (({ w with sessions } : AccessWorld).awaitFlight callId call).nextFlight =
            w.nextFlight + 1 ∧
            (({ w with sessions } : AccessWorld).awaitFlight callId call).flights.lookup flightId =
              some { replica := call.replica
                     cookieValue := call.cookieValue
                     phase := .reading .selecting } := by
    intro sessions
    unfold AccessWorld.awaitFlight
    split
    · exact .inl rfl
    · by_cases same : flightId = w.nextFlight
      · subst same
        exact .inr ⟨rfl, rfl, AList.lookup_insert _⟩
      · exact .inl (AList.lookup_insert_ne same)
  simp only [AccessWorld.stepCall]
  split
  · split
    · split
      · exact .inl rfl
      · exact awaits _
    · exact .inl rfl
    · exact .inl rfl
  · split <;> exact .inl rfl
  · exact .inl rfl
  · exact .inl rfl

theorem flight_change (config : OidcSessionConfig) (w : AccessWorld) (event : AccessEvent)
    (flightId : FlightId) :
    FlightChange config w flightId event (w.flights.lookup flightId)
      ((w.step config event).flights.lookup flightId) := by
  cases event with
  | tick | createSession => exact .same _ _ nofun
  | getAccessToken =>
    simp only [AccessWorld.step]
    split <;> exact .same _ _ nofun
  | call callId =>
    simp only [AccessWorld.step]
    cases held : w.calls.lookup callId with
    | none => exact .same _ _ nofun
    | some call =>
      show FlightChange _ _ _ _ _ ((w.stepCall config callId call).flights.lookup flightId)
      obtain same | ⟨fresh, counted, begun⟩ := @stepCall_flights config w callId call flightId
      · rw [same]
        exact .same _ _ nofun
      · rw [begun]
        refine .started held fresh ?_
        simp only [AccessWorld.step, held]
        exact counted
  | flight other answer =>
    simp only [AccessWorld.step]
    cases held : w.flights.lookup other with
    | none =>
      refine .same _ _ fun answer' same => ?_
      cases same
      exact held
    | some flight =>
      by_cases same : flightId = other
      · subst same
        rw [held]
        show FlightChange _ _ _ _ _ ((w.flights.insert flightId _).lookup flightId)
        rw [AList.lookup_insert]
        exact .proceeds answer flight
      · show FlightChange _ _ _ _ _ ((w.flights.insert other _).lookup flightId)
        rw [AList.lookup_insert_ne same]
        refine .same _ _ fun answer' isFlight => ?_
        cases isFlight
        exact absurd rfl same

/-! ### Calls -/

/-- Where a call goes on; `flights` are the refreshes after the step. -/
inductive CallGoes (config : OidcSessionConfig) (w : AccessWorld)
    (flights : Table FlightId Flight) (call : AccessCall) : AccessPhase → Prop
  | same : CallGoes config w flights call call.phase
  | resolved {read session phase} (stands : call.phase = .reading read)
      (found : read.next config w.now call.cookieValue w.sessions = .done (.found session))
      (resolved : session.resolve config w.now = some phase) :
      CallGoes config w flights call phase
  | awaits {read} (flightId : FlightId) (stands : call.phase = .reading read)
      (joins : w.refreshFlights.lookup (call.replica, call.cookieValue) = some flightId ∨
        flights.lookup flightId = some
          { replica := call.replica
            cookieValue := call.cookieValue
            phase := .reading .selecting }) :
      CallGoes config w flights call (.awaiting flightId)
  | missed {read result} (stands : call.phase = .reading read)
      (missed : read.next config w.now call.cookieValue w.sessions = .done result)
      (other : ∀ session, result ≠ .found session) :
      CallGoes config w flights call (.revoking result.errorCode)
  | reads {read} (stands : call.phase = .reading read)
      (unfinished : ∀ result,
        read.next config w.now call.cookieValue w.sessions ≠ .done result) :
      CallGoes config w flights call (.reading (read.next config w.now call.cookieValue w.sessions))
  | refused {flightId flight errorCode} (stands : call.phase = .awaiting flightId)
      (held : w.flights.lookup flightId = some flight)
      (finished : flight.phase = .finished (.authenticationRequired errorCode)) :
      CallGoes config w flights call (.revoking errorCode)
  | answered {flightId} (resolution : AccessTokenResolution)
      (stands : call.phase = .awaiting flightId) : CallGoes config w flights call (.done resolution)
  | revoked {errorCode} (stands : call.phase = .revoking errorCode) :
      CallGoes config w flights call (.done (.authenticationRequired errorCode))

/-- What an event does to a call: it begins it, or takes it on. -/
inductive AccessChange (config : OidcSessionConfig) (w : AccessWorld) (callId : CallId) :
    AccessEvent → Option AccessCall → Option AccessCall → Prop
  | same (event : AccessEvent) (call) : AccessChange config w callId event call call
  | begun (replica : ReplicaId) (cookieValue : CookieValue)
      (issued : cookieValue < w.nextCookie) :
      AccessChange config w callId (.getAccessToken callId replica cookieValue) none
        (some { replica, cookieValue, phase := .reading .selecting })
  | proceeds {call : AccessCall} {phase : AccessPhase}
      (goes : CallGoes config w (w.step config (.call callId)).flights call phase) :
      AccessChange config w callId (.call callId) (some call) (some { call with phase })

theorem setCall_calls {callId other : CallId} {call : AccessCall} {phase : AccessPhase} :
    (w.setCall callId call phase).calls.lookup other =
      if other = callId then some { call with phase } else w.calls.lookup other := by
  by_cases same : other = callId
  · subst same
    rw [if_pos rfl]
    exact AList.lookup_insert _
  · rw [if_neg same]
    exact AList.lookup_insert_ne same

theorem awaitFlight_calls {callId other : CallId} {call : AccessCall} :
    ∃ flightId, (w.refreshFlights.lookup (call.replica, call.cookieValue) = some flightId ∨
        (w.awaitFlight callId call).flights.lookup flightId = some
          { replica := call.replica
            cookieValue := call.cookieValue
            phase := .reading .selecting }) ∧
      (w.awaitFlight callId call).calls.lookup other =
        if other = callId then some { call with phase := .awaiting flightId }
        else w.calls.lookup other := by
  unfold AccessWorld.awaitFlight
  split
  · rename_i flightId joined
    exact ⟨flightId, .inl joined, setCall_calls⟩
  · exact ⟨w.nextFlight, .inr (AList.lookup_insert _), setCall_calls⟩

/-- The step of a call takes that call on, and no other. -/
theorem stepCall_calls {callId : CallId} {call : AccessCall}
    (held : w.calls.lookup callId = some call) (other : CallId) :
    ∃ phase, CallGoes config w (w.stepCall config callId call).flights call phase ∧
      (w.stepCall config callId call).calls.lookup other =
        if other = callId then some { call with phase } else w.calls.lookup other := by
  have stays : ∀ sessions, (({ w with sessions } : AccessWorld)).calls.lookup other =
      if other = callId then some { call with phase := call.phase }
      else w.calls.lookup other := by
    intro sessions
    by_cases same : other = callId
    · subst same
      rw [if_pos rfl]
      exact held
    · rw [if_neg same]
  simp only [AccessWorld.stepCall]
  split
  · rename_i read stands
    split
    · rename_i session found
      split
      · rename_i phase resolved
        exact ⟨phase, .resolved stands found resolved, setCall_calls⟩
      · obtain ⟨flightId, joins, after⟩ := @awaitFlight_calls
          { w with sessions := (w.executed (.call callId)).2 } callId other call
        exact ⟨_, .awaits flightId stands joins, after⟩
    · rename_i result unfound missed
      exact ⟨_, .missed stands missed (by simpa using unfound), setCall_calls⟩
    · rename_i unfinished
      exact ⟨_, .reads stands (by simpa using unfinished), setCall_calls⟩
  · rename_i flightId stands
    split
    · rename_i errorCode finished
      obtain ⟨flight, found, phase⟩ := Option.map_eq_some_iff.mp finished
      exact ⟨_, .refused stands found phase, setCall_calls⟩
    · exact ⟨_, .answered _ stands, setCall_calls⟩
    · exact ⟨_, .same, stays _⟩
  · rename_i errorCode stands
    exact ⟨_, .revoked stands, setCall_calls⟩
  · exact ⟨_, .same, stays _⟩

theorem access_change (config : OidcSessionConfig) (w : AccessWorld) (event : AccessEvent)
    (callId : CallId) :
    AccessChange config w callId event (w.calls.lookup callId)
      ((w.step config event).calls.lookup callId) := by
  cases event with
  | tick | createSession => exact .same _ _
  | getAccessToken other replica cookieValue =>
    simp only [AccessWorld.step]
    split
    · exact .same _ _
    · rename_i admitted
      obtain ⟨absent, issued⟩ := not_or.mp admitted
      by_cases same : callId = other
      · subst same
        show AccessChange _ _ _ _ _ ((w.calls.insert callId _).lookup callId)
        rw [AList.lookup_insert, AList.lookup_eq_none.mpr absent]
        exact .begun replica cookieValue (Nat.lt_of_not_le issued)
      · show AccessChange _ _ _ _ _ ((w.calls.insert other _).lookup callId)
        rw [AList.lookup_insert_ne same]
        exact .same _ _
  | call other =>
    simp only [AccessWorld.step]
    cases held : w.calls.lookup other with
    | none => exact .same _ _
    | some call =>
      show AccessChange _ _ _ _ _ ((w.stepCall config other call).calls.lookup callId)
      obtain ⟨phase, goes, after⟩ := @stepCall_calls config w other call held callId
      rw [after]
      by_cases same : callId = other
      · subst same
        rw [if_pos rfl, held]
        refine .proceeds ?_
        simp only [AccessWorld.step, held]
        exact goes
      · rw [if_neg same]
        exact .same _ _
  | flight flightId answer =>
    simp only [AccessWorld.step]
    cases w.flights.lookup flightId with
    | none => exact .same _ _
    | some flight => exact .same _ _

/-- A refresh that a replica has in flight was in flight before, or begins. -/
theorem refreshFlights_change {key : ReplicaId × CookieValue} {flightId : FlightId}
    (after : (w.step config event).refreshFlights.lookup key = some flightId) :
    w.refreshFlights.lookup key = some flightId ∨
      (w.step config event).flights.lookup flightId = some
        { replica := key.1, cookieValue := key.2, phase := .reading .selecting } := by
  cases event with
  | tick | createSession => exact .inl after
  | getAccessToken =>
    simp only [AccessWorld.step] at after
    split at after <;> exact .inl after
  | call callId =>
    simp only [AccessWorld.step] at after ⊢
    cases held : w.calls.lookup callId with
    | none =>
      simp only [held] at after
      exact .inl after
    | some call =>
      simp only [held] at after ⊢
      have awaits : ∀ sessions, (({ w with sessions } : AccessWorld).awaitFlight callId
          call).refreshFlights.lookup key = some flightId →
          w.refreshFlights.lookup key = some flightId ∨
            (({ w with sessions } : AccessWorld).awaitFlight callId call).flights.lookup flightId =
              some { replica := key.1, cookieValue := key.2, phase := .reading .selecting } := by
        intro sessions after
        unfold AccessWorld.awaitFlight at after ⊢
        split at after
        · exact .inl after
        · obtain ⟨rfl, rfl⟩ | ⟨-, before⟩ := Table.lookup_insert_cases after
          · exact .inr (AList.lookup_insert _)
          · exact .inl before
      simp only [AccessWorld.stepCall] at after ⊢
      split at after
      · split at after
        · split at after
          · exact .inl after
          · exact awaits _ after
        · exact .inl after
        · exact .inl after
      · split at after <;> exact .inl after
      · exact .inl after
      · exact .inl after
  | flight flightId' answer =>
    simp only [AccessWorld.step] at after
    split at after
    · exact .inl after
    · simp only [AccessWorld.stepFlight] at after
      split at after
      · exact .inl (Table.lookup_erase_some after).2
      · exact .inl after

/-! ### The clock and the counters -/

theorem stepCall_frame (callId : CallId) (call : AccessCall) :
    (w.stepCall config callId call).now = w.now ∧
      (w.stepCall config callId call).nextCookie = w.nextCookie ∧
        (w.stepCall config callId call).nextOwner = w.nextOwner ∧
          w.nextFlight ≤ (w.stepCall config callId call).nextFlight := by
  have awaits : ∀ sessions, (({ w with sessions } : AccessWorld).awaitFlight callId call).now =
      w.now ∧ (({ w with sessions } : AccessWorld).awaitFlight callId call).nextCookie =
        w.nextCookie ∧ (({ w with sessions } : AccessWorld).awaitFlight callId call).nextOwner =
          w.nextOwner ∧
            w.nextFlight ≤ (({ w with sessions } : AccessWorld).awaitFlight callId
              call).nextFlight := by
    intro sessions
    unfold AccessWorld.awaitFlight
    split
    · exact ⟨rfl, rfl, rfl, Nat.le_refl _⟩
    · exact ⟨rfl, rfl, rfl, Nat.le_succ _⟩
  simp only [AccessWorld.stepCall]
  split
  · split
    · split
      · exact ⟨rfl, rfl, rfl, Nat.le_refl _⟩
      · exact awaits _
    · exact ⟨rfl, rfl, rfl, Nat.le_refl _⟩
    · exact ⟨rfl, rfl, rfl, Nat.le_refl _⟩
  · split <;> exact ⟨rfl, rfl, rfl, Nat.le_refl _⟩
  · exact ⟨rfl, rfl, rfl, Nat.le_refl _⟩
  · exact ⟨rfl, rfl, rfl, Nat.le_refl _⟩

/-- The clock and the counters do not go back. -/
structure Later (w w' : AccessWorld) : Prop where
  now : w.now ≤ w'.now
  nextCookie : w.nextCookie ≤ w'.nextCookie
  nextOwner : w.nextOwner ≤ w'.nextOwner
  nextFlight : w.nextFlight ≤ w'.nextFlight

theorem Later.refl (w : AccessWorld) : Later w w :=
  ⟨Nat.le_refl _, Nat.le_refl _, Nat.le_refl _, Nat.le_refl _⟩

theorem access_later (config : OidcSessionConfig) (w : AccessWorld) (event : AccessEvent) :
    Later w (w.step config event) := by
  cases event with
  | tick elapsed => exact ⟨Nat.le_add_right .., Nat.le_refl _, Nat.le_refl _, Nat.le_refl _⟩
  | createSession => exact ⟨Nat.le_refl _, Nat.le_succ _, Nat.le_refl _, Nat.le_refl _⟩
  | getAccessToken =>
    simp only [AccessWorld.step]
    split
    · exact .refl w
    · exact ⟨Nat.le_refl _, Nat.le_refl _, Nat.le_refl _, Nat.le_refl _⟩
  | call callId =>
    simp only [AccessWorld.step]
    split
    · exact .refl w
    · rename_i call held
      obtain ⟨now, cookie, owner, flight⟩ := @stepCall_frame config w callId call
      exact ⟨now.ge, cookie.ge, owner.ge, flight⟩
  | flight flightId answer =>
    simp only [AccessWorld.step]
    split
    · exact .refl w
    · refine ⟨Nat.le_refl _, Nat.le_refl _, ?_, Nat.le_refl _⟩
      simp only [AccessWorld.stepFlight]
      split
      · exact Nat.le_succ _
      · exact Nat.le_refl _

/-- The clock stands still in every event but that of the clock. -/
theorem access_still (untimed : ∀ elapsed, event ≠ .tick elapsed) :
    (w.step config event).now = w.now := by
  cases event with
  | tick elapsed => exact absurd rfl (untimed elapsed)
  | createSession => rfl
  | getAccessToken =>
    simp only [AccessWorld.step]
    split <;> rfl
  | call callId =>
    simp only [AccessWorld.step]
    split
    · rfl
    · exact (stepCall_frame ..).1
  | flight flightId answer =>
    simp only [AccessWorld.step]
    split <;> rfl

end CyberLegends.Auth
