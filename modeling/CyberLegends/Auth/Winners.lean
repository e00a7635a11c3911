import CyberLegends.Auth.Refresh

/-! That a timely run spares the refresh that wins a session: the invariant is kept by every event,
and under it nothing revokes a session that a refresh holds the claim on. -/

namespace CyberLegends.Auth

open CyberLegends.Core Lib

variable {config : OidcSessionConfig} {w : AccessWorld} {event : AccessEvent}

/-! ### Refreshes that have begun -/

/-- A refresh stays, with its replica and its cookie. -/
theorem flight_kept (orderly : Orderly w) {flightId : FlightId} {flight : Flight}
    (held : w.flights.lookup flightId = some flight) :
    ∃ flight', (w.step config event).flights.lookup flightId = some flight' ∧
      flight'.cookieValue = flight.cookieValue := by
  have change := flight_change config w event flightId
  rw [held] at change
  generalize after : (w.step config event).flights.lookup flightId = flight' at change
  cases change with
  | same => exact ⟨flight, rfl, rfl⟩
  | started _ fresh => exact absurd (fresh ▸ orderly.ids flightId flight held) (Nat.lt_irrefl _)
  | proceeds answer => exact ⟨_, rfl, rfl⟩

/-- A refresh that has ended is left alone. -/
theorem ended_kept (orderly : Orderly w) {flightId : FlightId} {flight : Flight}
    (held : w.flights.lookup flightId = some flight) (ended : flight.phase.ended = true) :
    (w.step config event).flights.lookup flightId = some flight := by
  have change := flight_change config w event flightId
  rw [held] at change
  generalize after : (w.step config event).flights.lookup flightId = flight' at change
  cases change with
  | same => rfl
  | started _ fresh => exact absurd (fresh ▸ orderly.ids flightId flight held) (Nat.lt_irrefl _)
  | proceeds answer =>
    obtain ⟨replica, cookieValue, ownerHash, phase⟩ := flight
    cases phase with
    | finished resolution => rfl
    | reading | claiming | sleeping | polling | exchanging | swapping | conflicted | deferring =>
      cases ended

/-! ### The step of a call -/

theorem Doomed.step (orderly : Orderly w) {call : AccessCall} (doomed : Doomed w call) :
    Doomed (w.step config event) call := by
  rcases doomed with spent | ⟨flightId, flight, held, target, ended, owns⟩
  · exact .inl (spent.step orderly)
  · exact .inr ⟨flightId, flight, ended_kept orderly held ended, target, ended,
      owns.step orderly held ended⟩

/-- A call that rests stays sound. -/
theorem SoundAccess.step (orderly : Orderly w) {call : AccessCall} (sound : SoundAccess w call) :
    SoundAccess (w.step config event) call := by
  unfold SoundAccess at sound ⊢
  cases phase : call.phase with
  | reading read =>
    simp only [phase] at sound ⊢
    exact sound.step orderly
  | awaiting flightId =>
    simp only [phase] at sound ⊢
    obtain ⟨flight, held, target⟩ := sound
    obtain ⟨flight', held', same⟩ := @flight_kept config w event orderly flightId flight held
    exact ⟨flight', held', same.trans target⟩
  | revoking errorCode =>
    simp only [phase] at sound ⊢
    exact sound.step orderly
  | done => exact trivial

/-- What a call makes of the session that it has found is sound. -/
theorem resolve_sound {call : AccessCall} {session : AuthenticatedSession} {phase : AccessPhase}
    (past : Past w call.cookieValue session) (resolved : session.resolve config w.now = some phase) :
    SoundAccess w { call with phase } := by
  unfold AuthenticatedSession.resolve at resolved
  split at resolved
  · rename_i expired
    cases resolved
    exact .inl (past.gone expired).spent
  · split at resolved
    · cases resolved
      exact trivial
    · split at resolved
      · cases resolved
      · rename_i unrefreshable
        cases resolved
        exact .inl (past.spent ((Bool.not_eq_true _).mp unrefreshable))

/-- A refresh that asks to sign in again dooms the calls that have awaited it. -/
theorem refused_doomed (orderly : Orderly w) {call : AccessCall} {flightId : FlightId}
    {flight : Flight} {errorCode : OidcAuthErrorCode}
    (held : w.flights.lookup flightId = some flight) (target : flight.cookieValue = call.cookieValue)
    (finished : flight.phase = .finished (.authenticationRequired errorCode)) : Doomed w call := by
  have sound := orderly.flights flightId flight held
  rw [finished, target] at sound
  rcases sound with spent | owns
  · exact .inl spent
  · exact .inr ⟨flightId, flight, held, target, by rw [finished]; rfl, owns⟩

theorem call_goes (orderly : Orderly w) {callId : CallId} {call : AccessCall} {phase : AccessPhase}
    (timely : Timely config w (.call callId)) (held : w.calls.lookup callId = some call)
    (goes : CallGoes config w (w.step config (.call callId)).flights call phase) :
    SoundAccess (w.step config (.call callId)) { call with phase } := by
  have sound := orderly.calls callId call held
  have used := timely call held
  have still : (w.step config (.call callId)).now = w.now := access_still nofun
  cases goes with
  | same => exact sound.step orderly
  | resolved stands found resolved =>
    unfold SoundAccess at sound
    rw [stands] at used
    simp only [stands] at sound
    obtain ⟨session', next, past⟩ | ⟨result, next, unfound, -⟩ | ⟨unfinished, -⟩ :=
      read_next orderly sound used
    · rw [found] at next
      cases next
      rw [← still] at resolved
      exact resolve_sound (past.step orderly) resolved
    · rw [found] at next
      cases next
      exact absurd rfl (unfound _)
    · exact absurd found (unfinished _)
  | awaits flightId stands joins =>
    rcases joins with joined | begun
    · obtain ⟨flight, held', target⟩ := orderly.joined _ _ joined
      obtain ⟨flight', kept, same⟩ := @flight_kept config w (.call callId) orderly _ _ held'
      exact ⟨flight', kept, same.trans target⟩
    · exact ⟨_, begun, rfl⟩
  | missed stands missed other =>
    unfold SoundAccess at sound
    rw [stands] at used
    simp only [stands] at sound
    obtain ⟨session, next, -⟩ | ⟨-, -, -, gone⟩ | ⟨unfinished, -⟩ := read_next orderly sound used
    · rw [missed] at next
      cases next
      exact absurd rfl (other session)
    · exact .inl gone.step.spent
    · exact absurd missed (unfinished _)
  | reads stands unfinished =>
    unfold SoundAccess at sound
    rw [stands] at used
    simp only [stands] at sound
    obtain ⟨session, next, -⟩ | ⟨result, next, -⟩ | ⟨-, further⟩ := read_next orderly sound used
    · exact absurd next (unfinished _)
    · exact absurd next (unfinished _)
    · exact further.step orderly
  | refused stands held' finished =>
    unfold SoundAccess at sound
    simp only [stands] at sound
    obtain ⟨flight, held'', target⟩ := sound
    rw [held'] at held''
    cases held''
    exact (refused_doomed orderly held' target finished).step orderly
  | answered => exact trivial
  | revoked => exact trivial

/-! ### The run -/

theorem orderly_init : Orderly (authAdapter config).init where
  rows _ _ found := by cases found
  claims _ _ found := by cases found
  owners _ _ _ held := by cases held
  unique _ _ _ _ _ held := by cases held
  ids _ _ held := by cases held
  flights _ _ held := by cases held
  calls _ _ held := by cases held
  issued _ _ held := by cases held
  joined _ _ held := by cases held

theorem rows_step (orderly : Orderly w) (row' : SessionRow) (cookieValue : CookieValue)
    (found' : (w.step config event).sessions.lookup cookieValue = some row') :
    cookieValue < (w.step config event).nextCookie ∧ SoundRow row' := by
  have later := (access_later config w event).nextCookie
  have change := session_change config w event cookieValue
  rw [found'] at change
  generalize before : w.sessions.lookup cookieValue = row at change
  have old : ∀ row, w.sessions.lookup cookieValue = some row →
      cookieValue < (w.step config event).nextCookie ∧ SoundRow row := fun row found =>
    (orderly.rows cookieValue row found).imp (fun issued => issued.trans_le later) id
  cases change with
  | same => exact old _ before
  | created session fresh token =>
    subst fresh
    refine ⟨Nat.lt_succ_self _, rfl, ?_, rfl⟩
    exact decide_eq_true ⟨token, Nat.le_refl 1⟩
  | touched | claimed | revoked =>
    obtain ⟨issued, sealed, valid, expiry⟩ := old _ before
    exact ⟨issued, sealed, valid, expiry⟩
  | swapped held phase target swappable =>
    subst target
    obtain ⟨issued, -⟩ := old _ before
    obtain ⟨-, -, expires, next, expiry, token⟩ := orderly.swapping held phase before swappable
    refine ⟨issued, rfl, ?_, ?_⟩
    · refine decide_eq_true ⟨token, ?_⟩
      rw [next]
      exact Nat.le_add_left 1 _
    · rw [expiry]
      exact expires

theorem claims_step (orderly : Orderly w) (timely : Timely config w event) (row' : SessionRow)
    (cookieValue : CookieValue)
    (found' : (w.step config event).sessions.lookup cookieValue = some row')
    (live' : row'.revokedAt = none) :
    row'.refreshOwnerHash.isSome = row'.refreshStartedAt.isSome ∧
      ∀ startedAt ∈ row'.refreshStartedAt,
        startedAt ≤ (w.step config event).now ∧
          (w.step config event).now < startedAt + refreshWait := by
  have later := (access_later config w event).now
  have change := session_change config w event cookieValue
  rw [found'] at change
  -- a claim that was there is as fresh as before, or the clock was allowed to go on
  have old : ∀ row, w.sessions.lookup cookieValue = some row → row.revokedAt = none →
      row.refreshOwnerHash.isSome = row.refreshStartedAt.isSome ∧
        ∀ startedAt ∈ row.refreshStartedAt, startedAt ≤ (w.step config event).now ∧
          (w.step config event).now < startedAt + refreshWait := by
    intro row found live
    obtain ⟨both, fresh⟩ := orderly.claims cookieValue row found live
    refine ⟨both, fun startedAt started => ⟨(fresh startedAt started).1.trans later, ?_⟩⟩
    by_cases ticks : ∃ elapsed, event = .tick elapsed
    · obtain ⟨elapsed, rfl⟩ := ticks
      exact timely ⟨cookieValue, row⟩ (AList.mem_lookup_iff.mp found) live startedAt started
    · rw [access_still (not_exists.mp ticks)]
      exact (fresh startedAt started).2
  generalize before : w.sessions.lookup cookieValue = row at change
  cases change with
  | same => exact old _ before live'
  | created =>
    refine ⟨rfl, fun startedAt started => ?_⟩
    cases started
  | touched live =>
    obtain ⟨both, fresh⟩ := old _ before live
    exact ⟨both, fresh⟩
  | @claimed _ flightId answer =>
    have still : (w.step config (.flight flightId answer)).now = w.now := access_still nofun
    rw [still]
    refine ⟨rfl, fun startedAt started => ?_⟩
    cases started
    exact ⟨Nat.le_refl _, Nat.lt_add_of_pos_right (by decide)⟩
  | swapped =>
    refine ⟨rfl, fun startedAt started => ?_⟩
    cases started
  | revoked => cases live'

/-- A refresh after an event is the one before it, a new one, or has gone on. -/
theorem flight_cases (config : OidcSessionConfig) {flightId : FlightId} {flight' : Flight}
    (held' : (w.step config event).flights.lookup flightId = some flight') :
    (w.flights.lookup flightId = some flight' ∧ ∀ answer, event ≠ .flight flightId answer) ∨
      (∃ callId call, w.calls.lookup callId = some call ∧ flightId = w.nextFlight ∧
        flightId < (w.step config event).nextFlight ∧
          flight' = { replica := call.replica
                      cookieValue := call.cookieValue
                      phase := .reading .selecting }) ∨
        ∃ answer flight, event = .flight flightId answer ∧
          w.flights.lookup flightId = some flight ∧
            flight' = { flight with
              phase := flight.phase.next config w.now w.sessions
                (w.executed (.flight flightId answer)).1 flight.cookieValue answer
              ownerHash := if flight.phase.claims then some w.nextOwner else flight.ownerHash } := by
  have change := flight_change config w event flightId
  rw [held'] at change
  generalize before : w.flights.lookup flightId = flight at change
  cases change with
  | same _ _ rests =>
    refine .inl ⟨rfl, fun answer isFlight => ?_⟩
    cases rests answer isFlight
  | started held fresh counted =>
    refine .inr (.inl ⟨_, _, held, fresh, ?_, rfl⟩)
    rw [fresh, counted]
    exact Nat.lt_succ_self _
  | proceeds answer flight => exact .inr (.inr ⟨answer, flight, rfl, rfl, rfl⟩)

/-- A refresh that goes on keeps its owner, or draws a new one. -/
theorem owner_cases {claims : Bool} {owner drawn : OwnerHash} {ownerHash : Option OwnerHash}
    (owned : (if claims then some drawn else ownerHash) = some owner) :
    claims = true ∧ owner = drawn ∨ claims = false ∧ ownerHash = some owner := by
  cases claims with
  | true =>
    cases owned
    exact .inl ⟨rfl, rfl⟩
  | false => exact .inr ⟨rfl, owned⟩

/-- A claim draws an owner that no other refresh has drawn. -/
theorem claiming_draws {flightId : FlightId} {flight : Flight} {answer : GrantAnswer}
    (held : w.flights.lookup flightId = some flight) (claims : flight.phase.claims = true) :
    (w.step config (.flight flightId answer)).nextOwner = w.nextOwner + 1 := by
  simp only [AccessWorld.step, held, AccessWorld.stepFlight, claims, if_true]

theorem owners_step (orderly : Orderly w) {flightId : FlightId} {flight' : Flight}
    {owner : OwnerHash}
    (held' : (w.step config event).flights.lookup flightId = some flight')
    (owned' : flight'.ownerHash = some owner) :
    owner < (w.step config event).nextOwner ∧
      ((∃ flight, w.flights.lookup flightId = some flight ∧ flight.ownerHash = some owner) ∨
        owner = w.nextOwner ∧ ∃ answer, event = .flight flightId answer) := by
  have later := (access_later config w event).nextOwner
  obtain ⟨held, -⟩ | ⟨_, _, -, -, -, rfl⟩ | ⟨answer, flight, rfl, held, rfl⟩ :=
    flight_cases config held'
  · exact ⟨(orderly.owners _ _ _ held owned').trans_le later, .inl ⟨_, held, owned'⟩⟩
  · cases owned'
  · obtain ⟨claims, rfl⟩ | ⟨-, owned⟩ := owner_cases owned'
    · rw [claiming_draws held claims]
      exact ⟨Nat.lt_succ_self _, .inr ⟨rfl, answer, rfl⟩⟩
    · exact ⟨(orderly.owners _ _ _ held owned).trans_le later, .inl ⟨flight, held, owned⟩⟩

theorem unique_step (orderly : Orderly w) {flightId flightId' : FlightId} {flight flight' : Flight}
    {owner : OwnerHash}
    (held : (w.step config event).flights.lookup flightId = some flight)
    (held' : (w.step config event).flights.lookup flightId' = some flight')
    (owned : flight.ownerHash = some owner) (owned' : flight'.ownerHash = some owner) :
    flightId = flightId' := by
  have fresh : ∀ {other : FlightId} {flight : Flight}, w.flights.lookup other = some flight →
      flight.ownerHash ≠ some w.nextOwner := fun there drawn =>
    Nat.lt_irrefl _ (orderly.owners _ _ _ there drawn)
  obtain ⟨-, ⟨before, there, drawn⟩ | ⟨rfl, answer, rfl⟩⟩ := owners_step orderly held owned
  · obtain ⟨-, ⟨before', there', drawn'⟩ | ⟨rfl, -⟩⟩ := owners_step orderly held' owned'
    · exact orderly.unique _ _ _ _ _ there there' drawn drawn'
    · exact absurd drawn (fresh there)
  · obtain ⟨-, ⟨before', there', drawn'⟩ | ⟨-, answer', same⟩⟩ := owners_step orderly held' owned'
    · exact absurd drawn' (fresh there')
    · cases same
      rfl

theorem flights_step (orderly : Orderly w) (timely : Timely config w event) {flightId : FlightId}
    {flight' : Flight} (held' : (w.step config event).flights.lookup flightId = some flight') :
    SoundPhase (w.step config event) flight'.cookieValue flight'.ownerHash flight'.phase := by
  obtain ⟨held, rests⟩ | ⟨callId, call, held, -, -, rfl⟩ | ⟨answer, flight, rfl, held, rfl⟩ :=
    flight_cases config held'
  · exact SoundPhase.step orderly held rests
  · exact (orderly.issued callId call held).trans_le (access_later config w event).nextCookie
  · exact phase_next orderly held timely

theorem calls_step (orderly : Orderly w) (timely : Timely config w event) {callId : CallId}
    {call' : AccessCall} (found' : (w.step config event).calls.lookup callId = some call') :
    SoundAccess (w.step config event) call' ∧
      call'.cookieValue < (w.step config event).nextCookie := by
  have later := (access_later config w event).nextCookie
  have change := access_change config w event callId
  rw [found'] at change
  generalize before : w.calls.lookup callId = call at change
  cases change with
  | same =>
    exact ⟨(orderly.calls _ _ before).step orderly, (orderly.issued _ _ before).trans_le later⟩
  | begun replica cookieValue issued => exact ⟨issued.trans_le later, issued.trans_le later⟩
  | proceeds goes =>
    exact ⟨call_goes orderly timely before goes, (orderly.issued _ _ before).trans_le later⟩

theorem orderly_step (orderly : Orderly w) (timely : Timely config w event) :
    Orderly (w.step config event) where
  rows cookieValue row found := rows_step orderly row cookieValue found
  claims cookieValue row found live := claims_step orderly timely row cookieValue found live
  owners flightId flight owner held owned := (owners_step orderly held owned).1
  unique _ _ _ _ _ held held' owned owned' := unique_step orderly held held' owned owned'
  ids flightId flight held := by
    have later := (access_later config w event).nextFlight
    obtain ⟨there, -⟩ | ⟨_, _, -, -, counted, -⟩ | ⟨_, _, -, there, -⟩ := flight_cases config held
    · exact (orderly.ids _ _ there).trans_le later
    · exact counted
    · exact (orderly.ids _ _ there).trans_le later
  flights flightId flight held := flights_step orderly timely held
  calls callId call found := (calls_step orderly timely found).1
  issued callId call found := (calls_step orderly timely found).2
  joined key flightId joined := by
    rcases refreshFlights_change joined with before | begun
    · obtain ⟨flight, held, target⟩ := orderly.joined key flightId before
      obtain ⟨flight', kept, same⟩ := @flight_kept config w event orderly _ _ held
      exact ⟨flight', kept, same.trans target⟩
    · exact ⟨_, begun, rfl⟩

theorem timely_orderly {events : List AccessEvent}
    (timely : (authAdapter config).Meets (Timely config) (authAdapter config).init events) :
    Orderly ((authAdapter config).run (authAdapter config).init events) :=
  (authAdapter config).run_holds (fun _ _ orderly timely => orderly_step orderly timely)
    orderly_init timely

/-! ### The claim that holds -/

/-- Nothing is about to revoke a usable session that a refresh holds the claim on. -/
theorem Orderly.unrevoked (orderly : Orderly w) {flightId : FlightId} {flight : Flight}
    (usable : Usable config w flight.cookieValue) (holds : Holds w flightId flight) {callId : CallId}
    {call : AccessCall} {errorCode : OidcAuthErrorCode} (called : w.calls.lookup callId = some call)
    (phase : call.phase = .revoking errorCode) : call.cookieValue ≠ flight.cookieValue := by
  intro target
  obtain ⟨row, session, found, readable⟩ := usable
  obtain ⟨unclosed, -⟩ := outcome_found readable
  obtain ⟨held, exchanges, row', owner, found', claimed, owned⟩ := holds
  rw [found] at found'
  cases found'
  have sound := orderly.calls callId call called
  unfold SoundAccess at sound
  simp only [phase] at sound
  unfold Doomed at sound
  rw [target] at sound
  rcases sound with spent | ⟨ended, flight', held', -, finished, drawn, owned', standing⟩
  · -- the claim stands on a payload that can be refreshed
    have stands : ∃ session, Past w flight.cookieValue session ∧ session.refreshable = true ∧
        Stands w flight.cookieValue flight.ownerHash session.sessionVersion := by
      have sound := orderly.flights flightId flight held
      cases stage : flight.phase with
      | exchanging session startedAt =>
        rw [stage] at sound
        exact ⟨session, sound⟩
      | swapping session refreshed =>
        rw [stage] at sound
        exact ⟨session, sound.1, sound.2.1, sound.2.2.1⟩
      | reading | claiming | sleeping | polling | conflicted | deferring | finished =>
        rw [stage] at exchanges
        cases exchanges
    obtain ⟨session, past, refreshable, _, -, standing⟩ := stands
    rcases standing.2 row found with closed | ⟨-, version⟩
    · rw [unclosed] at closed
      cases closed
    · rcases spent.2 row found with closed | barren
      · rw [unclosed] at closed
        cases closed
      · rw [(past.row.2 row found).2.2 version, refreshable] at barren
        cases barren
  · -- a refresh that has ended on the claim is not the one that holds it
    rcases standing.2 row found with closed | own
    · rw [unclosed] at closed
      cases closed
    · rw [claimed] at own
      cases own
      obtain rfl := orderly.unique _ _ _ _ _ held held' owned owned'
      rw [held] at held'
      cases held'
      cases stage : flight.phase with
      | finished =>
        rw [stage] at exchanges
        cases exchanges
      | reading | claiming | sleeping | polling | exchanging | swapping | conflicted | deferring =>
        rw [stage] at finished
        cases finished

/-- The swap of a refresh that holds the claim on a usable session writes its tokens. -/
theorem Orderly.readable (orderly : Orderly w) {flightId : FlightId} {flight : Flight}
    {answer : GrantAnswer} {session refreshed : AuthenticatedSession}
    (usable : Usable config w flight.cookieValue) (holds : Holds w flightId flight)
    (phase : flight.phase = .swapping session refreshed) :
    ∃ row, (w.step config (.flight flightId answer)).sessions.lookup flight.cookieValue = some row ∧
      row.encryptedPayload = refreshed ∧ row.revokedAt = none := by
  obtain ⟨row, _, found, readable⟩ := usable
  obtain ⟨unclosed, -⟩ := outcome_found readable
  obtain ⟨live, unexpired⟩ := not_closed_iff.mp unclosed
  obtain ⟨held, -, row', owner, found', claimed, owned⟩ := holds
  rw [found] at found'
  cases found'
  have sound := orderly.flights flightId flight held
  rw [phase] at sound
  obtain ⟨-, -, ⟨_, -, standing⟩, -⟩ := sound
  have version : row.sessionVersion = session.sessionVersion := by
    rcases standing.2 row found with closed | ⟨-, version⟩
    · rw [unclosed] at closed
      cases closed
    · exact version
  have swappable : row.swappable w.now session.sessionVersion flight.ownerHash = true :=
    swappable_iff.mpr ⟨version, live, unexpired, owner, owned, claimed⟩
  have executed := @executed_flight w flightId flight answer held _ (swap_runs phase)
  rw [access_sessions, executed]
  simp only [Statement.exec, updateWhere, found, swappable, if_true]
  exact ⟨_, AList.lookup_insert _, rfl, live⟩

theorem timely_spares (config : OidcSessionConfig) (events : List AccessEvent)
    (timely : (authAdapter config).Meets (Timely config) (authAdapter config).init events) :
    WinnersSpared config events where
  spared before event after split cookieValue replica flightId flight usable revokes holds target
      _ := by
    subst split
    obtain ⟨callId, call, errorCode, row, -, called, phase, same, -⟩ := revokes
    have orderly := timely_orderly (Machine.Meets.append.mp timely).1
    rw [← target] at usable same
    exact absurd same (orderly.unrevoked usable holds called phase)
  readable before answer after flightId flight session refreshed split usable holds phase := by
    subst split
    rw [Machine.run_append]
    exact (timely_orderly (Machine.Meets.append.mp timely).1).readable usable holds phase

/-! ### Runs -/

def renewedTokens : GrantAnswer := .tokens { accessToken := "renewed", expiresIn := some 3600 }

/-- A call of the second replica goes to sleep, as the first one has claimed the session. -/
def claimedRun : List AccessEvent :=
  [.createSession freshSession,
    .getAccessToken 0 0 0, .call 0, .call 0,
    .flight 0 renewedTokens, .flight 0 renewedTokens, .flight 0 renewedTokens,
    .getAccessToken 1 1 0, .call 1, .call 1,
    .flight 1 renewedTokens, .flight 1 renewedTokens, .flight 1 renewedTokens]

/-- The refresh of the second replica wakes up and polls the session. -/
def pollRound : List AccessEvent :=
  [.tick refreshWaitInterval, .flight 1 renewedTokens, .flight 1 renewedTokens,
    .flight 1 renewedTokens]

/-- A provider that answers between two polls. -/
theorem timely_spares_prompt_provider :
    WinnersSpared {} (claimedRun ++ pollRound ++
      [.flight 0 renewedTokens, .flight 0 renewedTokens] ++ pollRound ++ [.call 1, .call 0]) :=
  timely_spares {} _ (by decide +kernel)

/-- The second replica gives up, and its call is about to revoke the session. -/
def impatientRun : List AccessEvent :=
  claimedRun ++ (List.replicate refreshWaitAttempts pollRound).flatten ++ [.call 1]

/-- The claim of the first replica when the second gives up. -/
def claimedFlight : Flight where
  replica := 0
  cookieValue := 0
  ownerHash := some 0
  phase := .exchanging freshSession 0

def renewedSession : AuthenticatedSession :=
  { freshSession with
    accessToken := "renewed", accessTokenExpiresAt := 3600, refreshedAt := some 0
    sessionVersion := 2 }

def claimedRow : SessionRow :=
  { freshSession.newRow 0 with refreshOwnerHash := some 0, refreshStartedAt := some 0 }

/-- A provider that takes more than fifteen seconds loses the session to the replica that waits. -/
theorem slow_provider_loses :
    ¬∀ config events, WinnersSpared config events := by
  intro spared
  let w := (authAdapter {}).run (authAdapter {}).init impatientRun
  have before : w.now = seconds 15 ∧ w.sessions.lookup 0 = some claimedRow ∧
      w.flights.lookup 0 = some claimedFlight ∧ w.calls.lookup 1 =
        some { replica := 1, cookieValue := 0, phase := .revoking .refreshUnavailable } := by
    decide +kernel
  obtain ⟨now, found, held, called⟩ := before
  have obtains : Obtains {} (impatientRun ++ [.call 1, .flight 0 renewedTokens]) 0 := by
    refine ⟨impatientRun ++ [.call 1, .flight 0 renewedTokens], [],
      { claimedFlight with phase := .swapping freshSession renewedSession }, _, _,
      (List.append_nil _).symm, ?_, rfl⟩
    decide +kernel
  have usable : Usable {} w 0 := by
    refine ⟨claimedRow, freshSession, found, ?_⟩
    rw [now]
    decide +kernel
  have same := (spared {} (impatientRun ++ [.call 1, .flight 0 renewedTokens])).spared impatientRun
    (.call 1) [.flight 0 renewedTokens] rfl 0 1 0 claimedFlight usable
    ⟨1, _, _, claimedRow, rfl, called, rfl, rfl, rfl, found, rfl⟩
    ⟨held, rfl, claimedRow, 0, found, rfl, rfl⟩ rfl obtains
  exact absurd same (by decide)

end CyberLegends.Auth
